import CatalogFilter.Condition.Basic
import CatalogFilter.Json.Record
import CatalogFilter.RuleError

/-!
# Conditions from JSON

The JSON form of a condition is read back as a record with four slots. The text of the whole
condition may be left out, and is empty then.

## Main definitions

* `Operator.parse`: the operator of a symbol, or the error that there is none.
* `Condition.record`: the shape of a condition.
* `Condition.ofJson`, `Condition.ofJsonText`: a condition from a value and from a text.
-/

namespace CatalogFilter

/-- The operator of a symbol. -/
def Operator.parse (s : String) : Except RuleError Operator :=
  match Operator.ofSymbol? s with
  | some op => .ok op
  | none => .error (.operatorNotAllowed s Operator.symbols)

namespace Json

/-- The text that a value holds. -/
def toText : Json → Except Mismatch String
  | .string s => .ok s
  | v => .error (.kind (.ofJson v) "a string")

end Json

namespace Condition

/-- A condition whose parts are known in part. -/
structure Draft where
  /-- The name of the field. -/
  field : Option String := none
  /-- The comparison. -/
  operator : Option Operator := none
  /-- The value. -/
  value : Option String := none
  /-- The text of the whole condition. -/
  source : Option String := none

/-- The operator that a value holds. -/
def operatorOfJson (v : Json) : Except Json.Mismatch Operator := do
  let s ← v.toText
  match Operator.parse s with
  | .ok op => .ok op
  | .error e => .error (.refused e.message)

/-- The slots of a condition. -/
def slots : List (Json.Slot Draft) :=
  [⟨"field", true, (·.field.isSome), fun d v => do return { d with field := some (← v.toText) }⟩,
   ⟨"operator", true, (·.operator.isSome),
    fun d v => do return { d with operator := some (← operatorOfJson v) }⟩,
   ⟨"value", true, (·.value.isSome), fun d v => do return { d with value := some (← v.toText) }⟩,
   ⟨"original", true, (·.source.isSome),
    fun d v => do return { d with source := some (← v.toText) }⟩]

/-- The condition of a draft. -/
def ofDraft (missing : Nat → Json.Mismatch) (d : Draft) : Except Json.Mismatch Condition :=
  match d.field, d.operator, d.value with
  | none, _, _ => .error (missing 0)
  | _, none, _ => .error (missing 1)
  | _, _, none => .error (missing 2)
  | some field, some op, some value => .ok ⟨field, op, value, d.source.getD ""⟩

/-- The shape of a condition. -/
def record : Json.Record Draft Condition :=
  ⟨"struct Condition", slots, {}, ofDraft⟩

/-- The condition that a value stands for. -/
def ofJson (v : Json) : Except Json.Mismatch Condition :=
  record.decode v

/-- The condition that a JSON text stands for. -/
def ofJsonText (s : String) : Except Json.ReadError Condition :=
  record.parse s

end Condition

end CatalogFilter
