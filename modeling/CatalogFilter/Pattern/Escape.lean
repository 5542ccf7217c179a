import CatalogFilter.Number.Hexadecimal
import CatalogFilter.Pattern.Basic

/-!
# The smallest parts of a pattern

A part is a character that stands for itself, or it is written with a backslash.

## Main definitions

* `Pattern.Atom`: the smallest parts.
* `Pattern.readEscape?`: the part that is written with a backslash.
* `Pattern.readAtom?`: the part at the start of a pattern, outside classes.
-/

namespace CatalogFilter.Pattern

/-- The smallest parts of a pattern. -/
inductive Atom where
  /-- A character that stands for itself, which may be written as a byte. -/
  | literal (c : Char) (isByte : Bool)
  /-- Any character. -/
  | any
  /-- A digit, a blank, or a letter. -/
  | shorthand
  /-- The start or end of the text or of a line. -/
  | edge
  /-- The start or end of a word, or a place that is neither. -/
  | wordEdge
  deriving DecidableEq, Repr

/-- The character whose number is written with `count` more hexadecimal digits, of which the digits
so far denote `n`. -/
def readHex? (m : Mode) : (count n : Nat) → List Char → Option (Char × List Char)
  | 0, n, cs => if n.isValidChar then some (Char.ofNat n, m.skip cs) else none
  | count + 1, n, cs =>
      match m.skip cs with
      | c :: rest => (Hexadecimal.value? c).bind fun d => readHex? m count (16 * n + d) rest
      | [] => none

/-- The ASCII characters that stand for themselves after a backslash: all but letters, digits and
the two signs that stand for the start and end of a word. -/
def isEscapable (c : Char) : Bool :=
  c.toNat < 0x80 && !c.isAlphanum && c != '<' && c != '>'

/-- The characters that a letter after a backslash stands for. -/
def escapedChar? (c : Char) : Option Char :=
  match c with
  | 'a' => some (Char.ofNat 0x07)
  | 'f' => some (Char.ofNat 0x0C)
  | 't' => some '\t'
  | 'n' => some '\n'
  | 'r' => some '\r'
  | 'v' => some (Char.ofNat 0x0B)
  | _ => none

/-- The part after a backslash. Shorthands need tables unless the pattern is about bytes, and then
their complements hold bytes that are no characters. Properties of characters always need
tables. -/
def readEscape? (m : Mode) : List Char → Option (Atom × List Char)
  | [] => none
  | c :: cs =>
      if c = 'x' then (readHex? m 2 0 cs).map fun (d, rest) => (.literal d true, rest)
      else if c = 'u' then (readHex? m 4 0 cs).map fun (d, rest) => (.literal d false, rest)
      else if c = 'U' then (readHex? m 8 0 cs).map fun (d, rest) => (.literal d false, rest)
      else if c = 'd' ∨ c = 's' ∨ c = 'w' then if m.unicode then none else some (.shorthand, cs)
      else if c = 'A' ∨ c = 'z' then some (.edge, cs)
      else if c = 'b' ∨ c = 'B' ∨ c = '<' ∨ c = '>' then some (.wordEdge, cs)
      else if isEscapable c then some (.literal c false, cs)
      else (escapedChar? c).map fun d => (.literal d false, cs)

/-- The part that starts with a character, outside classes. -/
def readAtom? (m : Mode) (c : Char) (cs : List Char) : Option (Atom × List Char) :=
  if c = '\\' then readEscape? m cs
  else if c = '.' then some (.any, cs)
  else if c = '^' ∨ c = '$' then some (.edge, cs)
  else some (.literal c false, cs)

end CatalogFilter.Pattern
