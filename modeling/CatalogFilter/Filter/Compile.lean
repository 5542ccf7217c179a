import CatalogFilter.Condition.Check
import CatalogFilter.Filter.Basic

/-!
# From conditions to a filter

The conditions are turned into constraints and placed one after the other. The first constraint on
a field stands under the field's name. The second one moves the first into the shared list, where
it joins it, and all later ones are added there.

## Main definitions

* `Condition.clause`: the constraint that a condition states.
* `Filter.Builder`: a filter being made, with a table of where each field's constraints are.
* `Filter.Builder.place`: the builder after one more constraint.
* `Filter.compile`: the filter of a list of conditions.
-/

namespace CatalogFilter

/-- The constraint that a condition states, if it keeps the rules. -/
def Condition.clause (c : Condition) : Except RuleError Clause := do
  let f ← c.check
  let value ← Scalar.ofText f.kind f.name c.value
  return ⟨c.field, .ofOperator c.operator value⟩

namespace Filter

/-- Where the constraints on a field are. -/
inductive Placement where
  /-- The only one stands under the field's name. -/
  | direct
  /-- All are in the shared list. -/
  | conjoined
  deriving DecidableEq, Repr

/-- A filter being made. -/
structure Builder where
  /-- The filter so far. -/
  filter : Filter := .empty
  /-- The placement of each field met so far; the latest entry counts. -/
  placements : List (String × Placement) := []

namespace Builder

/-- The placement of a field, if it has been met. -/
def placement? (b : Builder) (field : String) : Option Placement :=
  b.placements.lookup field

/-- Moves the constraint under a field's name into the shared list. -/
def demote (f : Filter) (field : String) : Filter :=
  match f.get? field with
  | some leaf => (f.removeDirect field).conjoin ⟨field, leaf⟩
  | none => f

/-- The builder after one more constraint. -/
def place (b : Builder) (c : Clause) : Builder :=
  match b.placement? c.field with
  | none => ⟨b.filter.setDirect c, (c.field, .direct) :: b.placements⟩
  | some .direct =>
      ⟨(demote b.filter c.field).conjoin c, (c.field, .conjoined) :: b.placements⟩
  | some .conjoined => ⟨b.filter.conjoin c, b.placements⟩

/-- The builder after a list of constraints. -/
def ofClauses (cs : List Clause) : Builder :=
  cs.foldl place {}

end Builder

/-- The filter of a list of conditions. The first condition that breaks the rules decides the
error. -/
def compile (conditions : List Condition) : Except RuleError Filter :=
  if conditions.isEmpty then .error .emptyInput
  else do
    let clauses ← conditions.mapM Condition.clause
    return (Builder.ofClauses clauses).filter

end Filter

end CatalogFilter
