import CatalogFilter.Catalog
import CatalogFilter.Operator

/-!
# The vocabulary of rules

What a writer of rules has to know: the fields, the operators, and two examples.

## Main definitions

* `Vocabulary.toJson`: the description in JSON.
* `Vocabulary.examples`: the example texts.
-/

namespace CatalogFilter.Vocabulary

/-- Rule texts that show what rules look like, with their names. -/
def examples : List (String × String) :=
  [("basic", "price > 100\nstock_status = instock"),
   ("complex", "price >= 50\nprice <= 500\nstock_status = instock\non_sale = true")]

/-- The kinds of the fields under their names, in the order of the names. -/
def fieldKinds : Json :=
  Json.sortMembers (.object (Catalog.selectableFields.map fun f => (f.name, .string f.kind.name)))

/-- The description in JSON. -/
def toJson : Json :=
  .object
    [("allowedFields", .array (Catalog.selectableNames.map .string)),
     ("allowedOperators", .array (Operator.symbols.map .string)),
     ("fieldTypes", fieldKinds),
     ("examples", .object (examples.map fun (name, text) => (name, .string text)))]

end CatalogFilter.Vocabulary
