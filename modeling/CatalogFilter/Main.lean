import CatalogFilter.Program.Run

/-!
# The command

The outer layer of the program: it collects what a run can see of the real disk, the environment
and the standard input, runs, and carries out what the run has left. A standard input that is a
terminal is read like any other, up to its end.

## Main definitions

* `main`: the entry point.
-/

namespace CatalogFilter.Terminal

/-- A place after those around it, the root first. -/
def withAncestors : Disk.Place → List Disk.Place
  | [] => [[]]
  | name :: around => withAncestors around ++ [name :: around]

/-- The places on the way to a path, outermost first. -/
def placesOf (here : Disk.Place) (path : String) : List Disk.Place :=
  let p := Disk.Path.ofString path
  let start := if p.absolute then [] else here
  let inner := p.names.foldl
    (fun places name => Disk.step (places.headD start) name :: places) []
  withAncestors start ++ inner.reverse

/-- The text of a place. -/
def textOf (place : Disk.Place) : String :=
  "/" ++ "/".intercalate place.reverse

/-- What stands in a place of the real disk. -/
def look (place : Disk.Place) : IO (Option Disk.Node) := do
  let path := (← IO.currentDir) / textOf place
  try
    if ← path.isDir then return some .directory
    else if ← path.pathExists then return some (.file (← IO.FS.readBinFile path))
    else return none
  catch _ => return none

/-- Carries out what a run has left in a place. -/
def settle (place : Disk.Place) : (before after : Option Disk.Node) → IO Unit
  | none, some .directory => IO.FS.createDirAll (textOf place)
  | none, some (.file bytes) => IO.FS.writeBinFile (textOf place) bytes
  | some (.file old), some (.file bytes) =>
      if old.toList = bytes.toList then return else IO.FS.writeBinFile (textOf place) bytes
  | _, _ => return

/-- The bytes of a stream up to its end. -/
partial def readAll (stream : IO.FS.Stream) (bytes : ByteArray) : IO ByteArray := do
  let more ← stream.read 65536
  if more.isEmpty then return bytes else readAll stream (bytes ++ more)

/-- The variables that a run looks at. -/
def variableNames : List String :=
  ["SEG_CONFIG", "XDG_CONFIG_HOME", "HOME", "NO_COLOR", "RUST_LOG"]

/-- The environment. -/
def environment : IO Environment := do
  let values ← variableNames.mapM fun name => do return (name, ← IO.getEnv name)
  return { lookup := fun name => (values.lookup name).join }

/-- The paths that a run looks at. -/
def pathsOf (env : Environment) (args : List String) : List String :=
  let source := match CommandLine.parse args with
    | .ok inv => inv.source?.toList
    | .error _ => []
  (Settings.location env).toOption.toList ++ source

/-- The run reads the standard input. -/
def readsInput (args : List String) : Bool :=
  match CommandLine.parse args with
  | .ok inv => inv.readsInput
  | .error _ => false

end CatalogFilter.Terminal

open CatalogFilter CatalogFilter.Terminal in
/-- Runs the program with the given arguments. -/
def main (args : List String) : IO UInt32 := do
  let env ← environment
  let here := (Disk.Path.ofString (← IO.currentDir).toString).names.reverse
  let places := (pathsOf env args).flatMap (placesOf here)
  let nodes ← places.mapM fun place => do return (place, ← look place)
  let disk : Disk := ⟨fun place => (nodes.lookup place).join, here⟩
  let input ← if readsInput args then readAll (← IO.getStdin) .empty else pure .empty
  let outcome := Program.run ⟨env, input⟩ disk args
  for (place, before) in nodes do
    settle place before (outcome.disk.node? place)
  for event in outcome.log do
    IO.eprintln event.text
  IO.eprint outcome.errors
  IO.print outcome.output
  return outcome.exit.toUInt32
