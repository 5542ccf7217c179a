import CatalogFilter.Number.Binary64

/-!
# JSON values

A JSON document as a tree. Objects keep their members in the order in which they are written, and
numbers are either integers or floating point numbers.

## Main definitions

* `Json`: the type of JSON values.
* `Json.get?`: a member of an object.
* `Json.sortMembers`: the tree with the members of every object in the order of their names.
-/

namespace CatalogFilter

/-- A JSON value. -/
inductive Json where
  /-- The literal `null`. -/
  | null
  /-- A truth value. -/
  | bool (b : Bool)
  /-- A number without fraction and exponent. -/
  | integer (n : Int)
  /-- Any other number. -/
  | float (x : Binary64)
  /-- A text. -/
  | string (s : String)
  /-- A list of values. -/
  | array (items : List Json)
  /-- Named values in the order of writing. -/
  | object (members : List (String × Json))

namespace Json

/-- The value of the first member with the given name. -/
def get? (name : String) : Json → Option Json
  | .object members => members.lookup name
  | _ => none

/-- Names compare character by character. -/
def nameLe (a b : String × Json) : Bool :=
  a.1 ≤ b.1

mutual

/-- The value with the members of every object sorted by their names. -/
def sortMembers : Json → Json
  | .array items => .array (sortItems items)
  | .object members => .object ((sortEntries members).mergeSort nameLe)
  | v => v

/-- The values with the members of every object sorted. -/
def sortItems : List Json → List Json
  | [] => []
  | v :: vs => sortMembers v :: sortItems vs

/-- The members with their values sorted, themselves in the given order. -/
def sortEntries : List (String × Json) → List (String × Json)
  | [] => []
  | (k, v) :: ms => (k, sortMembers v) :: sortEntries ms

end

end Json

end CatalogFilter
