import CatalogFilter.Condition.Parse
import CatalogFilter.Text.Lines

/-!
# Rule texts

A rule text holds one condition in a line. Blank lines and comments do not count. Either all the
other lines are conditions, or the text is refused with a list of those that are not.

## Main definitions

* `RuleText.failures`: the lines that are no conditions.
* `RuleText.parse`: the conditions of a text.
* `RuleText.parseValue`: the conditions of a JSON value, which has to be a text.
-/

namespace CatalogFilter.RuleText

/-- The conditions among the lines, in order. -/
def conditions (lines : List (List Char)) : List Condition :=
  lines.filterMap fun line => (Condition.readTrimmed line).toOption

/-- The failure of a line, if it is no condition; lines are counted from `number`. -/
def failures (number : Nat) : List (List Char) → List LineFailure
  | [] => []
  | line :: lines =>
      match Condition.readTrimmed line with
      | .ok _ => failures (number + 1) lines
      | .error fault => ⟨number, .ofList line, fault⟩ :: failures (number + 1) lines

/-- The conditions of trimmed lines that count. -/
def parseLines (lines : List (List Char)) : Except RuleError (List Condition) :=
  if lines.isEmpty then .error .emptyInput
  else
    match failures 1 lines with
    | [] => .ok (conditions lines)
    | fs => .error (.lines fs)

/-- The conditions of a rule text. -/
def parse (text : String) : Except RuleError (List Condition) :=
  if text.isEmpty then .error .inputShape
  else parseLines (Text.significantLines text.toList)

/-- The conditions of rules given as a JSON value, if there is one. -/
def parseValue : Option Json → Except RuleError (List Condition)
  | some (.string text) => parse text
  | _ => .error .inputShape

end CatalogFilter.RuleText
