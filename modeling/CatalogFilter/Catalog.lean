import CatalogFilter.Text.EditDistance
import CatalogFilter.Text.Lowercase

/-!
# The fields of the catalog

Every field has a name, a kind of value, and a mark that says whether rules may speak of it. The
list is fixed. A name that is not in it can be close to one that is, and then that one is
suggested.

## Main definitions

* `FieldKind`, `Field`: the description of a field.
* `Catalog.fields`: all fields.
* `Catalog.lookup?`, `Catalog.selectable?`, `Catalog.kindOf`: what is known about a name.
* `Catalog.suggestion?`: the name that was probably meant.
-/

namespace CatalogFilter

/-- The kinds of values that a field can hold. -/
inductive FieldKind where
  /-- Decimal numbers. -/
  | number
  /-- Truth values. -/
  | boolean
  /-- Texts. -/
  | text
  deriving DecidableEq, Repr

/-- The name of a kind. -/
def FieldKind.name : FieldKind → String
  | .number => "number"
  | .boolean => "boolean"
  | .text => "string"

/-- A field of the catalog. -/
structure Field where
  /-- The name in rules and in documents. -/
  name : String
  /-- The kind of its values. -/
  kind : FieldKind
  /-- Rules may speak of the field. -/
  selectable : Bool
  deriving DecidableEq, Repr

namespace Catalog

/-- All fields of the catalog. -/
def fields : List Field :=
  [⟨"title", .text, true⟩,
   ⟨"price", .text, true⟩,
   ⟨"stock_status", .text, true⟩,
   ⟨"stock_quantity", .number, true⟩,
   ⟨"category", .text, true⟩,
   ⟨"tags", .text, true⟩,
   ⟨"on_sale", .boolean, true⟩,
   ⟨"id", .number, false⟩]

/-- The field of the given name. -/
def lookup? (name : String) : Option Field :=
  fields.find? (·.name == name)

/-- The field of the given name, if rules may speak of it. -/
def selectable? (name : String) : Option Field :=
  (lookup? name).filter (·.selectable)

/-- The kind of values under a name; a name without a field holds texts. -/
def kindOf (name : String) : FieldKind :=
  ((lookup? name).map (·.kind)).getD .text

/-- The fields that rules may speak of, in the order of the list. -/
def selectableFields : List Field :=
  fields.filter (·.selectable)

/-- The names of the fields that rules may speak of. -/
def selectableNames : List String :=
  selectableFields.map (·.name)

/-! ### Suggestions -/

/-- The first of the items with the least distance. -/
def nearest? {α : Type} (distance : α → Nat) : List α → Option α
  | [] => none
  | a :: as =>
      match nearest? distance as with
      | some b => if distance a ≤ distance b then some a else some b
      | none => some a

/-- The number of edits between a name as it was typed, letter case ignored, and another name. -/
def distance (typed name : String) : Nat :=
  Text.editDistance (Text.lowercase typed.toList) name.toList

/-- The largest distance at which a name is suggested. -/
def maxDistance : Nat := 3

/-- The name that was probably meant: the nearest name, unless it is too far away or is exactly
what was typed. -/
def suggestion? (typed : String) : Option String :=
  (nearest? (distance typed) selectableNames).filter fun name =>
    name != typed && distance typed name ≤ maxDistance

end Catalog

end CatalogFilter
