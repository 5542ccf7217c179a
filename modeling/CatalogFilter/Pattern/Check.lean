import CatalogFilter.Pattern.Class
import CatalogFilter.Text.Alphanumeric

/-!
# Examining a pattern

A pattern is made of branches between bars, a branch of parts in a row, and a part may be a group in
parentheses with branches of its own. The pattern is read from left to right with the groups that
are open.

## Main definitions

* `Pattern.Group`: a group of which a part has been read.
* `Pattern.Progress`: what is known after a part of the pattern.
* `Pattern.Progress.step?`: the next part is read.
* `Pattern.check`: why a pattern cannot be used, if it cannot.
-/

namespace CatalogFilter.Pattern

/-- How many parts may be nested in each other. -/
def maxDepth : Nat := 250

/-- A part of a branch. -/
structure Piece where
  /-- The number of parts that are nested in it. -/
  depth : Nat := 0
  /-- It may be repeated. -/
  repeatable : Bool := true

/-- A group of which a part has been read. -/
structure Group where
  /-- The switches as they are at this place. -/
  mode : Mode := {}
  /-- The depths of the branches before the last bar. -/
  branches : List Nat := []
  /-- The parts after it, the last one first. -/
  pieces : List Piece := []

namespace Group

/-- The group with one more part. -/
def add (g : Group) (p : Piece) : Group :=
  { g with pieces := p :: g.pieces }

/-- The depth of the branch after the last bar. -/
def branchDepth (g : Group) : Nat :=
  bundle (g.pieces.map Piece.depth)

/-- The depth of what has been read. -/
def depth (g : Group) : Nat :=
  bundle (g.branchDepth :: g.branches)

/-- The group after a bar. -/
def nextBranch (g : Group) : Group :=
  { g with branches := g.branchDepth :: g.branches, pieces := [] }

/-- The group with its last part repeated. -/
def repeatLast? (g : Group) : Option Group :=
  match g.pieces with
  | p :: ps =>
      if p.repeatable then some { g with pieces := { depth := p.depth + 1 } :: ps } else none
  | [] => none

end Group

/-- What is known after a part of the pattern. -/
structure Progress where
  /-- The innermost group. -/
  current : Group := {}
  /-- The groups around it, from the inside. -/
  outer : List Group := []
  /-- The names of groups. -/
  names : List (List Char) := []
  /-- The start or end of a word was asked for. -/
  wordEdge : Bool := false

/-- A text may be the name of a group. -/
def isGroupName : List Char → Bool
  | [] => false
  | c :: cs =>
      (c == '_' || Text.isAlphabetic c)
        && cs.all fun d => ['_', '.', '[', ']'].contains d || Text.isAlphanumeric d

/-- The mode after the switches at the start of a group, of which some have been seen; whether they
are for a group that follows, after a colon, or for the rest of this one; and the pattern after
them. A switch stands once, those after a dash are turned off, and a dash needs one. -/
def readSwitches? : Mode → (seen : List Char) → List Char → Option (Mode × Bool × List Char)
  | _, _, [] => none
  | m, seen, c :: cs =>
      if c = ':' ∨ c = ')' then
        if seen.head? == some '-' || c == ')' && seen.isEmpty then none else some (m, c == ':', cs)
      else if seen.contains c then none
      else if c = '-' then readSwitches? m ('-' :: seen) cs
      else (m.switch? c (!seen.contains '-')).bind fun m => readSwitches? m (c :: seen) cs

namespace Progress

/-- The switches as they are at this place. -/
def mode (p : Progress) : Mode :=
  p.current.mode

/-- One more part has been read. -/
def add (p : Progress) (piece : Piece) : Progress :=
  { p with current := p.current.add piece }

/-- A group has been opened. -/
def enter (p : Progress) (m : Mode) : Progress :=
  { p with current := { mode := m }, outer := p.current :: p.outer }

/-- A group with a name, which is new, has been opened. -/
def enterNamed? (p : Progress) (cs : List Char) : Option (Progress × List Char) :=
  let name := cs.takeWhile (· != '>')
  match cs.dropWhile (· != '>') with
  | _ :: rest =>
      if isGroupName name && !p.names.contains name then
        some ({ p.enter p.mode with names := name :: p.names }, rest)
      else none
  | [] => none

/-- What stands after an opening parenthesis has been read: a name, switches, or nothing. -/
def openGroup? (p : Progress) (cs : List Char) : Option (Progress × List Char) :=
  match p.mode.skip cs with
  | '?' :: 'P' :: '<' :: rest => p.enterNamed? rest
  | '?' :: '<' :: rest => p.enterNamed? rest
  | '?' :: rest =>
      (readSwitches? p.mode [] rest).map fun (m, isGroup, rest) =>
        if isGroup then (p.enter m, rest)
        else
          let switches : Piece := { repeatable := false }
          ({ p with current := { p.current.add switches with mode := m } }, rest)
  | rest => some (p.enter p.mode, rest)

/-- The innermost group has been closed. The switches are again as they were before it. -/
def closeGroup? (p : Progress) : Option Progress :=
  match p.outer with
  | [] => none
  | g :: outer =>
      some { p with current := g.add { depth := p.current.depth + 1 }, outer := outer }

/-- One of the smallest parts has been read. A pattern about bytes must not match every byte. -/
def addAtom? (p : Progress) : Atom → Option Progress
  | .literal c isByte => if p.mode.allows c isByte then some (p.add {}) else none
  | .any => if p.mode.unicode then some (p.add {}) else none
  | .shorthand | .edge => some (p.add {})
  | .wordEdge => some { p.add {} with wordEdge := p.wordEdge || p.mode.unicode }

/-- The last part is repeated. A question mark after the sign only changes how often is tried
first. -/
def repeatLast? (p : Progress) (cs : List Char) : Option (Progress × List Char) :=
  p.current.repeatLast?.map fun g =>
    ({ p with current := g }, if cs.head? == some '?' then cs.tail else cs)

/-- What is known after the part that starts with a character, and the pattern after it. An opening
brace starts nothing that could be complete. -/
def step? (p : Progress) (c : Char) (cs : List Char) : Option (Progress × List Char) :=
  if c = '(' then p.openGroup? cs
  else if c = ')' then p.closeGroup?.map (·, cs)
  else if c = '|' then some ({ p with current := p.current.nextBranch }, cs)
  else if c = '[' then
    (readClass? p.mode cs).map fun (depth, rest) => (p.add { depth := depth }, rest)
  else if c = '?' ∨ c = '*' ∨ c = '+' then p.repeatLast? cs
  else if c = '{' then none
  else
    (readAtom? p.mode c cs).bind fun (a, rest) => (p.addAtom? a).map (·, rest)

/-- What is known after the whole pattern; `fuel` bounds the number of parts. -/
def readWith : (fuel : Nat) → Progress → List Char → Option Progress
  | 0, _, _ => none
  | fuel + 1, p, cs =>
      match p.mode.skip cs with
      | [] => some p
      | c :: rest => (p.step? c rest).bind fun (p, rest) => readWith fuel p rest

end Progress

/-- Why a pattern cannot be used, if it cannot: all groups have to be closed, and not too many parts
may be nested in each other. -/
def check (cs : List Char) : Except Fault Unit :=
  match Progress.readWith (cs.length + 1) {} cs with
  | none => .error .malformed
  | some p =>
      if !p.outer.isEmpty || maxDepth < p.current.depth then .error .malformed
      else if p.wordEdge then .error .wordEdge
      else .ok ()

end CatalogFilter.Pattern
