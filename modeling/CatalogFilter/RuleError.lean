import CatalogFilter.Json.Basic
import CatalogFilter.Number.Numeral

/-!
# Why rules are refused

The causes for which a rule text is refused, with their codes, messages and JSON forms.

## Main definitions

* `Fault`: what is wrong with the form of one condition.
* `LineFailure`: a line of a rule text that is no condition.
* `RuleError`: why rules are refused.
* `RuleError.code`, `RuleError.message`, `RuleError.toJson`: what is shown of it.
-/

namespace CatalogFilter

/-- What is wrong with the form of a condition. -/
inductive Fault where
  /-- There is nothing but blanks. -/
  | empty
  /-- There is no operator. -/
  | noOperator
  /-- Nothing stands before the operator. -/
  | noField
  /-- Nothing stands after the operator. -/
  | noValue
  deriving DecidableEq, Repr

namespace Fault

/-- The fault in words. -/
def message : Fault → String
  | .empty => "empty condition"
  | .noOperator => "no valid operator found"
  | .noField => "no field specified"
  | .noValue => "no value specified"

/-- The name of the fault in JSON. -/
def name : Fault → String
  | .empty => "empty"
  | .noOperator => "no_operator"
  | .noField => "no_field"
  | .noValue => "no_value"

end Fault

/-- A line of a rule text that is no condition. -/
structure LineFailure where
  /-- The number of the line among those that count, from one. -/
  line : Nat
  /-- The trimmed line. -/
  condition : String
  /-- What is wrong with it. -/
  fault : Fault
  deriving DecidableEq, Repr

namespace LineFailure

/-- The failure in words. -/
def message (f : LineFailure) : String :=
  "Line " ++ .ofList (Numeral.print f.line) ++ ": invalid condition \"" ++ f.condition ++ "\": "
    ++ f.fault.message

/-- The failure in JSON. -/
def toJson (f : LineFailure) : Json :=
  .object [("line", .integer f.line), ("condition", .string f.condition),
    ("error", .string f.fault.name)]

end LineFailure

/-- Why rules are refused. -/
inductive RuleError where
  /-- The rules are not a text, or the empty one. -/
  | inputShape
  /-- A text is no condition. -/
  | condition (text : String) (fault : Fault)
  /-- Some lines of a rule text are no conditions. -/
  | lines (failures : List LineFailure)
  /-- There are no conditions. -/
  | emptyInput
  /-- Rules may not speak of the field. -/
  | fieldNotAllowed (field : String) (suggestion : Option String) (allowed : List String)
  /-- There is no such operator. -/
  | operatorNotAllowed (operator : String) (allowed : List String)
  /-- The value is not of the field's kind. -/
  | typeMismatch (field expected value : String)
  deriving DecidableEq, Repr

namespace RuleError

/-- The code of the cause. -/
def code : RuleError → String
  | .inputShape => "INPUT_SHAPE"
  | .condition .. => "SYNTAX"
  | .lines .. => "SYNTAX"
  | .emptyInput => "EMPTY_INPUT"
  | .fieldNotAllowed .. => "FIELD_NOT_ALLOWED"
  | .operatorNotAllowed .. => "OPERATOR_NOT_ALLOWED"
  | .typeMismatch .. => "TYPE_MISMATCH"

/-- The question that offers another name. -/
def offer : Option String → String
  | some name => " Did you mean '" ++ name ++ "'?"
  | none => ""

/-- The cause in words. -/
def message : RuleError → String
  | .inputShape => "rule text must be a non-empty string"
  | .condition text fault => "invalid condition \"" ++ text ++ "\": " ++ fault.message
  | .lines failures =>
      "rule parsing errors:\n" ++ "\n".intercalate (failures.map LineFailure.message)
  | .emptyInput => "no valid conditions found"
  | .fieldNotAllowed field suggestion allowed =>
      "field \"" ++ field ++ "\" is not allowed. Allowed fields: " ++ ", ".intercalate allowed
        ++ offer suggestion
  | .operatorNotAllowed operator allowed =>
      "operator \"" ++ operator ++ "\" is not allowed. Allowed operators: "
        ++ ", ".intercalate allowed
  | .typeMismatch field expected value =>
      "field \"" ++ field ++ "\" requires " ++ expected ++ " value, got: " ++ value

/-- The failing lines, if the cause is in single lines. -/
def failures : RuleError → List LineFailure
  | .lines failures => failures
  | _ => []

/-- The error in JSON. The failing lines are given only if there are any. -/
def toJson (e : RuleError) : Json :=
  let lines := match e.failures with
    | [] => []
    | failures => [("lines", .array (failures.map LineFailure.toJson))]
  .object ([("code", .string e.code), ("message", .string e.message)] ++ lines)

end RuleError

end CatalogFilter
