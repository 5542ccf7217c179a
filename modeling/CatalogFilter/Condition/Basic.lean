import CatalogFilter.Operator

/-!
# Conditions

A condition compares one field with one value. The value is kept as it was written; what it means
depends on the field. A condition also keeps the text that it was read from.

## Main definitions

* `Condition`: a condition.
* `Condition.ofParts`: a condition put together from its parts.
* `Condition.toJson`: its JSON form.
-/

namespace CatalogFilter

/-- A comparison of a field with a value. -/
structure Condition where
  /-- The name of the field. -/
  field : String
  /-- The comparison. -/
  operator : Operator
  /-- The value as it was written. -/
  value : String
  /-- The text of the whole condition. -/
  source : String
  deriving DecidableEq, Repr

namespace Condition

/-- The text of a condition with the given parts. -/
def write (field : String) (operator : Operator) (value : String) : String :=
  field ++ " " ++ operator.symbol ++ " " ++ value

/-- The condition with the given parts, written in the usual way. -/
def ofParts (field : String) (operator : Operator) (value : String) : Condition :=
  ⟨field, operator, value, write field operator value⟩

/-- The condition in JSON. -/
def toJson (c : Condition) : Json :=
  .object [("field", .string c.field), ("operator", c.operator.toJson),
    ("value", .string c.value), ("original", .string c.source)]

end Condition

end CatalogFilter
