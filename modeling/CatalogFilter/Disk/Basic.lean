import CatalogFilter.Disk.Path

/-!
# Disks

A disk holds directories and files. It is a function from places to what stands there, together
with the directory in which paths start. Reading and writing follow a path name by name: every
name on the way has to be a directory.

## Main definitions

* `Disk.Error`: why a file cannot be reached.
* `Disk`: a disk.
* `Disk.readText`, `Disk.isPresent`: what a path leads to.
* `Disk.maxNameSize`, `Disk.maxPathSize`: how long names and paths may be.
* `Disk.write`, `Disk.makeDirectories`: the disk after a change.
-/

namespace CatalogFilter

namespace Disk

/-- Why a file or directory cannot be reached. -/
inductive Error where
  /-- There is nothing. -/
  | notFound
  /-- There is something already. -/
  | alreadyThere
  /-- A name on the way is not a directory. -/
  | notDirectory
  /-- There is a directory. -/
  | directory
  /-- A name or the whole path is too long. -/
  | tooLong
  /-- The bytes are no text. -/
  | notText
  deriving DecidableEq, Repr

/-- The message of the system. -/
def Error.message : Error → String
  | .notFound => "No such file or directory (os error 2)"
  | .alreadyThere => "File exists (os error 17)"
  | .notDirectory => "Not a directory (os error 20)"
  | .directory => "Is a directory (os error 21)"
  | .tooLong => "File name too long (os error 36)"
  | .notText => "stream did not contain valid UTF-8"

/-- What can stand in a place. -/
inductive Node where
  /-- A directory. -/
  | directory
  /-- A file with its bytes. -/
  | file (bytes : ByteArray)

/-- A place: the names that lead to it from the root, innermost first. -/
abbrev Place := List String

end Disk

/-- A disk. -/
structure Disk where
  /-- What stands in a place other than the root. -/
  nodes : Disk.Place → Option Disk.Node
  /-- The place where paths start. -/
  here : Disk.Place

namespace Disk

/-- What stands in a place. The root is a directory. -/
def node? (d : Disk) : Place → Option Node
  | [] => some .directory
  | p => d.nodes p

/-- The disk with something put into a place. -/
def put (d : Disk) (p : Place) (n : Node) : Disk :=
  { d with nodes := fun q => if q = p then some n else d.nodes q }

/-- The place that a name leads to. -/
def step (p : Place) (name : String) : Place :=
  if name = "." then p else if name = ".." then p.tail else name :: p

/-- The largest number of bytes of a name. -/
def maxNameSize : Nat := 255

/-- The largest number of bytes of a path. -/
def maxPathSize : Nat := 4095

/-- The place that names lead to. Every place on the way has to be a directory, and a name is
looked at once the directory for it is reached. -/
def walk (d : Disk) (p : Place) : List String → Except Error Place
  | [] => .ok p
  | name :: names =>
      match d.node? p with
      | some .directory =>
          if maxNameSize < Text.byteSize name.toList then .error .tooLong
          else d.walk (step p name) names
      | some (.file _) => .error .notDirectory
      | none => .error .notFound

/-- The place that a path leads to. The empty path leads nowhere. -/
def locate (d : Disk) (path : Path) : Except Error Place :=
  if maxPathSize < path.size then .error .tooLong
  else if path.names.isEmpty && !path.absolute then .error .notFound
  else d.walk (if path.absolute then [] else d.here) path.names

/-! ### Reading -/

/-- What a path leads to. A path with a slash at its end leads to a directory. -/
def find (d : Disk) (path : Path) : Except Error Node := do
  let p ← d.locate path
  match d.node? p with
  | some .directory => return .directory
  | some (.file bytes) => if path.slash then .error .notDirectory else return .file bytes
  | none => .error .notFound

/-- The path leads to something. -/
def isPresent (d : Disk) (path : String) : Bool :=
  (d.find (.ofString path)).isOk

/-- The bytes of a file. -/
def readBytes (d : Disk) (path : String) : Except Error ByteArray := do
  match ← d.find (.ofString path) with
  | .directory => .error .directory
  | .file bytes => return bytes

/-- The text that bytes stand for. -/
def decodeText (bytes : ByteArray) : Except Error String :=
  match String.fromUTF8? bytes with
  | some s => .ok s
  | none => .error .notText

/-- The text of a file. -/
def readText (d : Disk) (path : String) : Except Error String := do
  let bytes ← d.readBytes path
  decodeText bytes

/-! ### Writing -/

/-- The disk with a text written to a file, which is made if it does not exist. With a slash at
its end the path is that of a directory, whether it exists or not. -/
def write (d : Disk) (path content : String) : Except Error Disk := do
  let target := Path.ofString path
  if target.slash then
    let _ ← d.locate { target with names := target.names.dropLast ++ ["."] }
    .error .directory
  else
    let p ← d.locate target
    match d.node? p with
    | some .directory => .error .directory
    | _ => return d.put p (.file content.toUTF8)

/-- The disk with a new directory. -/
def makeDirectory (d : Disk) (path : String) : Except Error Disk := do
  let p ← d.locate (.ofString path)
  match d.node? p with
  | some _ => .error .alreadyThere
  | none => return d.put p .directory

/-- The path leads to a directory. -/
def isDirectory (d : Disk) (path : String) : Bool :=
  match d.find (.ofString path) with
  | .ok .directory => true
  | _ => false

/-- The disk with a directory that may be there already. -/
def ensureDirectory (d : Disk) (path : String) : Except Error Disk :=
  match d.makeDirectory path with
  | .error .alreadyThere => if d.isDirectory path then .ok d else .error .alreadyThere
  | outcome => outcome

/-- A disk after an attempt to change it, which may have succeeded in part. -/
structure Attempt where
  /-- The disk afterwards. -/
  disk : Disk
  /-- Why the attempt failed, if it did. -/
  fault : Option Error

/-- What is left of an attempt that changes all or nothing. -/
def Attempt.ofExcept (d : Disk) : Except Error Disk → Attempt
  | .ok after => ⟨after, none⟩
  | .error e => ⟨d, some e⟩

/-- An attempt to make directories, given innermost first. Those around are made only if the
innermost one cannot be made without them. -/
def makeAll (d : Disk) : List String → Attempt
  | [] => ⟨d, none⟩
  | path :: paths =>
      match d.ensureDirectory path with
      | .error .notFound =>
          let around := d.makeAll paths
          match around.fault with
          | none => .ofExcept around.disk (around.disk.ensureDirectory path)
          | some _ => around
      | outcome => .ofExcept d outcome

/-- An attempt to make a directory and those around it. -/
def makeDirectories (d : Disk) (path : String) : Attempt :=
  d.makeAll (chain path)

end Disk

end CatalogFilter
