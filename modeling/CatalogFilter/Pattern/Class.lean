import CatalogFilter.Pattern.Escape

/-!
# Classes of characters in a pattern

A class is written in brackets: characters, ranges, names and further classes, which two equal
signs `&&`, `--` or `~~` may combine. Of a class only its depth is kept, the number of parts that
are nested in each other.

## Main definitions

* `Pattern.bundle`: the depth of several parts in a row.
* `Pattern.OpenClass`: a class of which a part has been read.
* `Pattern.readClass?`: the depth of a class, and the pattern after it.
-/

namespace CatalogFilter.Pattern

/-- The depth of several parts in a row, which are one level deeper than the deepest of them. -/
def bundle : List Nat → Nat
  | [] => 0
  | [d] => d
  | ds => ds.foldl Nat.max 0 + 1

/-! ### Members -/

/-- The names of classes. -/
def classNames : List String :=
  ["alnum", "alpha", "ascii", "blank", "cntrl", "digit", "graph", "lower", "print", "punct",
   "space", "upper", "word", "xdigit"]

/-- A class with a name, after its bracket: whether it is the complement that is meant, and the
pattern after it. -/
def readNamed? : List Char → Option (Bool × List Char)
  | ':' :: cs =>
      let negated := cs.head? == some '^'
      let cs := if negated then cs.tail else cs
      match cs.dropWhile (· != ':') with
      | ':' :: ']' :: rest =>
          if classNames.contains (.ofList (cs.takeWhile (· != ':'))) then some (negated, rest)
          else none
      | _ => none
  | _ => none

/-- The part at the start of a pattern, inside a class. -/
def readMember? (m : Mode) : List Char → Option (Atom × List Char)
  | [] => none
  | c :: cs => if c = '\\' then readEscape? m cs else some (.literal c false, cs)

/-- The part may be a member of a class on its own. -/
def Atom.isMember (m : Mode) : Atom → Bool
  | .literal c _ => m.allowsInClass c
  | .shorthand => true
  | _ => false

/-- The parts may be the first and last member of a range. -/
def Atom.isRange (m : Mode) : Atom → Atom → Bool
  | .literal c _, .literal d _ => m.allowsInClass c && m.allowsInClass d && c.toNat ≤ d.toNat
  | _, _ => false

/-- The pattern after a member or a range of members. A dash before another dash or before the end
of the class makes no range. -/
def readRange? (m : Mode) (cs : List Char) : Option (List Char) :=
  (readMember? m cs).bind fun (a, rest) =>
    let single (rest : List Char) := if a.isMember m then some rest else none
    match m.skip rest with
    | '-' :: after =>
        if m.peek? after == some ']' || m.peek? after == some '-' then single ('-' :: after)
        else
          (readMember? m (m.skip after)).bind fun (b, rest) =>
            if a.isRange m b then some rest else none
    | rest => single rest

/-! ### Classes -/

/-- A class of which a part has been read. -/
structure OpenClass where
  /-- The depth of what stands before the last sign that combines. -/
  left : Option Nat := none
  /-- The depths of the members after it. -/
  members : List Nat := []
  /-- A dash, or a closing bracket as the first member, still stands for itself. -/
  fresh : Bool := true

namespace OpenClass

/-- The class with one more member. -/
def add (s : OpenClass) (depth : Nat) : OpenClass :=
  { s with members := depth :: s.members, fresh := false }

/-- The depth of what has been read. -/
def depth (s : OpenClass) : Nat :=
  match s.left with
  | none => bundle s.members
  | some d => Nat.max d (bundle s.members) + 1

/-- The class after a sign that combines. -/
def combine (s : OpenClass) : OpenClass :=
  { left := some s.depth, fresh := false }

end OpenClass

/-- The pattern after the start of a class, its bracket left out. The complement of a class of bytes
holds bytes that are no characters. -/
def openClass? (m : Mode) (cs : List Char) : Option (List Char) :=
  match m.skip cs with
  | '^' :: rest => if m.unicode then some rest else none
  | rest => some rest

/-- The depth of a class of which a part has been read, inside other classes, and the pattern after
it; `fuel` bounds the number of members. -/
def readClassWith (m : Mode) :
    (fuel : Nat) → (outer : List OpenClass) → OpenClass → List Char → Option (Nat × List Char)
  | 0, _, _, _ => none
  | fuel + 1, outer, s, cs =>
      match m.skip cs with
      | [] => none
      | c :: rest =>
          if s.fresh && (c == '-' || c == ']' && s.members.isEmpty) then
            if m.allowsInClass c then
              readClassWith m fuel outer { s.add 0 with fresh := c == '-' } rest
            else none
          else if c = '[' then
            match readNamed? rest with
            | some (negated, rest) =>
                if m.allowsNamed negated then readClassWith m fuel outer (s.add 0) rest else none
            | none => (openClass? m rest).bind (readClassWith m fuel (s :: outer) {})
          else if c = ']' then
            match outer with
            | [] => some (s.depth + 1, rest)
            | t :: outer => readClassWith m fuel outer (t.add (s.depth + 1)) rest
          else if ['&', '-', '~'].contains c && rest.head? == some c then
            readClassWith m fuel outer s.combine rest.tail
          else (readRange? m (c :: rest)).bind (readClassWith m fuel outer (s.add 0))

/-- The depth of a class, after its opening bracket, and the pattern after it. -/
def readClass? (m : Mode) (cs : List Char) : Option (Nat × List Char) :=
  (openClass? m cs).bind (readClassWith m (cs.length + 1) [] {})

end CatalogFilter.Pattern
