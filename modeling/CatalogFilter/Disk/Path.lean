import CatalogFilter.Text.Bytes

/-!
# Paths

A path is written as names with slashes between them. A single point names the directory itself
and two points name the one around it.

## Main definitions

* `Disk.Path`: the parts of a path.
* `Disk.Path.ofString`: the path that a text stands for.
* `Disk.parent?`: the text of the directory around a path.
* `Disk.chain`: a path and those of the directories around it.
* `Disk.join`: a name appended to the text of a path.
-/

namespace CatalogFilter.Disk

/-- The parts of a path. -/
structure Path where
  /-- The path starts at the root. -/
  absolute : Bool
  /-- The names, outermost first. -/
  names : List String
  /-- A slash follows the last name, so that it has to be a directory. -/
  slash : Bool
  /-- The number of bytes in which it is written. -/
  size : Nat
  deriving DecidableEq, Repr

/-- The path that a text stands for. -/
def Path.ofString (s : String) : Path :=
  let cs := s.toList
  let names := ((cs.splitOn '/').filter fun name => !name.isEmpty).map String.ofList
  ⟨cs.head? == some '/', names, cs.getLast? == some '/', Text.byteSize cs⟩

/-! ### The directories around -/

/-- The start of a path that holds no name to be left out, and the rest: the slash of the root,
or the point of a path that starts with the directory itself. -/
def splitRoot : List Char → List Char × List Char
  | '/' :: cs => (['/'], cs)
  | ['.'] => (['.'], [])
  | '.' :: '/' :: cs => (['.'], '/' :: cs)
  | cs => ([], cs)

/-- The name leads nowhere: it is missing between two slashes, or names the directory itself. -/
def isIdle (name : List Char) : Bool :=
  name.isEmpty || name == ['.']

/-- The text of the directory around a path: the last name is left out, and with it the names
around it that lead nowhere. The root and the empty path have none. -/
def parent? (path : String) : Option String :=
  let (root, names) := splitRoot path.toList
  match (names.splitOn '/').reverse.dropWhile isIdle with
  | _ :: around =>
      some (.ofList (root ++ ['/'].intercalate (around.dropWhile isIdle).reverse))
  | [] => if root == ['.'] then some "" else none

/-- A path and those of the directories around it, innermost first, as long as they have a name;
`fuel` bounds their number. -/
def chainWith : (fuel : Nat) → String → List String
  | 0, _ => []
  | fuel + 1, path =>
      match parent? path with
      | some around => path :: chainWith fuel around
      | none => []

/-- A path and those of the directories around it, innermost first, as long as they have a
name. -/
def chain (path : String) : List String :=
  chainWith (path.length + 1) path

/-- The text of a path with a name appended. -/
def join (path name : String) : String :=
  if path.isEmpty || path.toList.getLast? == some '/' then path ++ name
  else path ++ "/" ++ name

end CatalogFilter.Disk
