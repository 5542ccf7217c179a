import CatalogFilter.Text.Blank

/-!
# Patterns

A pattern is a regular expression that a value has to match. Here a pattern is only examined, not
matched: is it one that a matching automaton can be built for? It is written between braces, so it
holds no closing brace, and nothing in it that is written with braces of its own is complete.

How a pattern is read depends on switches that it may turn on and off as it goes. There are no
tables of letters outside ASCII, so what needs them is out of reach as long as the pattern is about
characters and not about bytes: the case of letters, and the shorthands for digits, blanks and
letters.

## Main definitions

* `Pattern.Fault`: why a pattern cannot be used.
* `Pattern.Mode`: the switches that matter.
* `Pattern.Mode.skip`: the pattern without the blanks and comments at its start.
* `Pattern.Mode.allows`, `Pattern.Mode.allowsInClass`: a character may stand for itself.
-/

namespace CatalogFilter.Pattern

/-- Why a pattern cannot be used. -/
inductive Fault where
  /-- It is not a pattern, or needs tables that are not there. -/
  | malformed
  /-- It asks for the start or end of a word, which takes more than the automaton can see. -/
  | wordEdge
  deriving DecidableEq, Repr

/-- The reason in words. -/
def Fault.message : Fault → String
  | .malformed => "error building NFA"
  | .wordEdge =>
      "unsupported regex feature for DFAs: cannot build DFAs for regexes with Unicode word "
        ++ "boundaries; switch to ASCII word boundaries, or heuristically enable Unicode word "
        ++ "boundaries or use a different regex engine"

/-- The switches that decide what a pattern may hold. -/
structure Mode where
  /-- Letters of either case are matched. -/
  caseless : Bool := false
  /-- The pattern is about characters, and else about bytes. -/
  unicode : Bool := true
  /-- Blanks and comments in the pattern do not count. -/
  spaced : Bool := false
  deriving DecidableEq, Repr

namespace Mode

/-- The mode after a switch, given by its letter, is turned on or off. -/
def switch? (m : Mode) (letter : Char) (on : Bool) : Option Mode :=
  if letter = 'i' then some { m with caseless := on }
  else if letter = 'u' then some { m with unicode := on }
  else if letter = 'x' then some { m with spaced := on }
  else if ['m', 's', 'U', 'R'].contains letter then some m
  else none

/-- The text without the blanks and comments at its start, where a comment may have begun. A
comment ends with its line. -/
def skipComments : (inComment : Bool) → List Char → List Char
  | _, [] => []
  | true, c :: cs => skipComments (c != '\n') cs
  | false, c :: cs =>
      if Text.isBlank c then skipComments false cs
      else if c = '#' then skipComments true cs
      else c :: cs

/-- The pattern without what does not count at its start. -/
def skip (m : Mode) (cs : List Char) : List Char :=
  if m.spaced then skipComments false cs else cs

/-- The next character that seems to count. Of a comment only its mark is passed over. -/
def peek? (m : Mode) (cs : List Char) : Option Char :=
  if m.spaced then
    match Text.trimStart cs with
    | '#' :: rest => (Text.trimStart rest).head?
    | rest => rest.head?
  else cs.head?

/-- The character may stand for itself. A pattern about bytes must not name a byte that is no
character. -/
def allows (m : Mode) (c : Char) (isByte : Bool) : Bool :=
  if m.unicode then !m.caseless else !(isByte && 0x80 ≤ c.toNat)

/-- The character may stand for itself in a class. A class of bytes holds ASCII only. -/
def allowsInClass (m : Mode) (c : Char) : Bool :=
  if m.unicode then !m.caseless else c.toNat < 0x80

/-- A class with a name may stand in a class. In a pattern about bytes it must not be the
complement, which holds bytes that are no characters. -/
def allowsNamed (m : Mode) (negated : Bool) : Bool :=
  if m.unicode then !m.caseless else !negated

end Mode

end CatalogFilter.Pattern
