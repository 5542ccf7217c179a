import CatalogFilter.Condition.Basic
import CatalogFilter.Scalar

/-!
# Checking a condition

Rules may speak of some fields only, with the listed operators and with values of the field's
kind. The field is checked first, then the operator, then the value.

## Main definitions

* `Condition.check`: the field of a condition that keeps the rules.
-/

namespace CatalogFilter.Condition

/-- The field of the condition, if rules may speak of it. -/
def checkField (c : Condition) : Except RuleError Field :=
  match Catalog.selectable? c.field with
  | some f => .ok f
  | none =>
      .error (.fieldNotAllowed c.field (Catalog.suggestion? c.field) Catalog.selectableNames)

/-- The operator of the condition is a listed one. -/
def checkOperator (c : Condition) : Except RuleError Unit :=
  if c.operator ∈ Operator.displayOrder then .ok ()
  else .error (.operatorNotAllowed c.operator.symbol Operator.symbols)

/-- The value is one of the field's kind. -/
def checkValue (f : Field) (raw : String) : Except RuleError Unit :=
  match f.kind with
  | .number =>
      if (Scalar.readNumber? raw).isNone then
        .error (.typeMismatch f.name Scalar.wantedNumber raw)
      else .ok ()
  | .boolean =>
      if (Scalar.readBool? raw).isNone then .error (.typeMismatch f.name Scalar.wantedBool raw)
      else .ok ()
  | .text => .ok ()

/-- The field of a condition that keeps the rules. -/
def check (c : Condition) : Except RuleError Field := do
  let f ← c.checkField
  c.checkOperator
  checkValue f c.value
  return f

/-- The condition keeps the rules. -/
def validate (c : Condition) : Except RuleError Unit := do
  let _ ← c.check
  return ()

end CatalogFilter.Condition
