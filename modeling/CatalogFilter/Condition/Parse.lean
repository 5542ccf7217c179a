import CatalogFilter.Condition.Basic
import CatalogFilter.RuleError
import CatalogFilter.Text.Blank
import CatalogFilter.Text.Split

/-!
# Reading a condition

A line is searched for the operators one after the other, in the order of
`Operator.scanOrder`. The first operator whose first occurrence is not at the start of the line
divides it: the field stands before, the value after.

## Main definitions

* `Condition.divide?`: the operator of a line and the texts around it.
* `Condition.readTrimmed`: the condition of a line without blanks around it.
* `Condition.parse`: the condition of any line.
-/

namespace CatalogFilter.Condition

/-- The texts around the first occurrence of an operator, unless that is at the start. -/
def cutAt? (line : List Char) (op : Operator) : Option (List Char × List Char) :=
  (Text.splitFirst op.mark line).filter fun (before, _) => !before.isEmpty

/-- The operator that divides a line, with the texts before and after it. -/
def divide? (line : List Char) : Option (Operator × List Char × List Char) :=
  Operator.scanOrder.findSome? fun op => (cutAt? line op).map (op, ·)

/-- A line that no operator divides lacks a field if it starts with an operator, and an operator
otherwise. -/
def undividedFault (line : List Char) : Fault :=
  if Operator.scanOrder.any fun op => op.mark.isPrefixOf line then .noField else .noOperator

/-- The condition of a line that has no blanks around it. -/
def readTrimmed (line : List Char) : Except Fault Condition :=
  if line.isEmpty then .error .empty
  else
    match divide? line with
    | none => .error (undividedFault line)
    | some (op, before, after) =>
        let field := Text.trim before
        let value := Text.trim after
        if field.isEmpty then .error .noField
        else if value.isEmpty then .error .noValue
        else .ok ⟨.ofList field, op, .ofList value, .ofList line⟩

/-- The condition of a line. -/
def parse (line : String) : Except RuleError Condition :=
  let trimmed := Text.trim line.toList
  match readTrimmed trimmed with
  | .ok c => .ok c
  | .error fault => .error (.condition (.ofList trimmed) fault)

end CatalogFilter.Condition
