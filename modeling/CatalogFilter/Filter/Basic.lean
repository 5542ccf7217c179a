import CatalogFilter.Operator
import CatalogFilter.Scalar

/-!
# Filters

A filter is a query to a document store. Its entries are constraints on single fields and at most
one list of further constraints, all of which have to hold.

## Main definitions

* `Leaf`, `Clause`: a constraint, without and with the field it is on.
* `Filter`: a filter, entry by entry.
* `Filter.get?`, `Filter.direct`, `Filter.conjunction?`: what a filter holds.
* `Filter.setDirect`, `Filter.removeDirect`, `Filter.conjoin`: how a filter grows.
* `Filter.toJson`: the query.
-/

namespace CatalogFilter

/-- The comparisons that a query names by a key; equality has none. -/
inductive Comparator where
  /-- Different from the value. -/
  | ne
  /-- Above the value. -/
  | gt
  /-- Below the value. -/
  | lt
  /-- The value or above. -/
  | gte
  /-- The value or below. -/
  | lte
  deriving DecidableEq, Repr

/-- The key of a comparison in a query. -/
def Comparator.key : Comparator → String
  | .ne => "$ne"
  | .gt => "$gt"
  | .lt => "$lt"
  | .gte => "$gte"
  | .lte => "$lte"

/-- A constraint on a field. -/
inductive Leaf where
  /-- The field has the value. -/
  | equals (value : Scalar)
  /-- The field compares with the value. -/
  | compare (comparator : Comparator) (value : Scalar)
  deriving DecidableEq

namespace Leaf

/-- The constraint that an operator and a value make. -/
def ofOperator (op : Operator) (value : Scalar) : Leaf :=
  match op with
  | .equal => .equals value
  | .notEqual => .compare .ne value
  | .greater => .compare .gt value
  | .less => .compare .lt value
  | .atLeast => .compare .gte value
  | .atMost => .compare .lte value

/-- The value of the constraint. -/
def value : Leaf → Scalar
  | .equals value => value
  | .compare _ value => value

/-- The comparison of the constraint, unless it is equality. -/
def comparator? : Leaf → Option Comparator
  | .equals _ => none
  | .compare comparator _ => some comparator

/-- The constraint as it stands in a query. -/
def toJson : Leaf → Json
  | .equals value => value.toJson
  | .compare comparator value => .object [(comparator.key, value.toJson)]

end Leaf

/-- A constraint together with the field it is on. -/
structure Clause where
  /-- The name of the field. -/
  field : String
  /-- The constraint. -/
  leaf : Leaf
  deriving DecidableEq

/-- The clause as a query of its own. -/
def Clause.toJson (c : Clause) : Json :=
  .object [(c.field, c.leaf.toJson)]

/-- An entry of a filter. -/
inductive Entry where
  /-- A constraint on a field, under the field's name. -/
  | direct (clause : Clause)
  /-- A list of constraints. -/
  | conjunction (clauses : List Clause)
  deriving DecidableEq

/-- A filter: its entries in the order of writing. -/
structure Filter where
  /-- The entries. -/
  entries : List Entry := []
  deriving DecidableEq

namespace Filter

/-- The key of the list of constraints in a query. -/
def conjunctionKey : String := "$and"

/-- The filter without entries. -/
def empty : Filter := {}

/-- The filter has no entries. -/
def isEmpty (f : Filter) : Bool :=
  f.entries.isEmpty

/-- The constraints that stand under their field's name. -/
def direct (f : Filter) : List Clause :=
  f.entries.filterMap fun
    | .direct c => some c
    | .conjunction _ => none

/-- The constraint under a field's name. -/
def get? (f : Filter) (field : String) : Option Leaf :=
  (f.direct.find? (·.field == field)).map (·.leaf)

/-- The list of constraints, if there is one. -/
def conjunction? (f : Filter) : Option (List Clause) :=
  f.entries.findSome? fun
    | .direct _ => none
    | .conjunction clauses => some clauses

/-- Adds a constraint under its field's name, after the other entries. -/
def setDirect (f : Filter) (c : Clause) : Filter :=
  ⟨f.entries ++ [.direct c]⟩

/-- The entry is the constraint under the given field's name. -/
def isDirectOn (field : String) : Entry → Bool
  | .direct c => c.field == field
  | .conjunction _ => false

/-- Removes the constraint under a field's name. -/
def removeDirect (f : Filter) (field : String) : Filter :=
  ⟨f.entries.eraseP (isDirectOn field)⟩

/-- The entries with a constraint added to the list among them, or to a new list at the end. -/
def conjoinEntries (c : Clause) : List Entry → List Entry
  | [] => [.conjunction [c]]
  | .conjunction clauses :: entries => .conjunction (clauses ++ [c]) :: entries
  | e :: entries => e :: conjoinEntries c entries

/-- Adds a constraint to the list of constraints. -/
def conjoin (f : Filter) (c : Clause) : Filter :=
  ⟨conjoinEntries c f.entries⟩

/-- An entry as a member of the query. -/
def member : Entry → String × Json
  | .direct c => (c.field, c.leaf.toJson)
  | .conjunction clauses => (conjunctionKey, .array (clauses.map Clause.toJson))

/-- The query. -/
def toJson (f : Filter) : Json :=
  .object (f.entries.map member)

end Filter

end CatalogFilter
