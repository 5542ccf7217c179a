import CatalogFilter.Json.Basic

/-!
# Comparison operators

The six comparisons between a field and a value, and the symbols they are written with. One
operator's symbol can be part of another's, so the order in which a line is searched for them
matters: the symbols of two characters come first.

## Main definitions

* `Operator`: the comparisons.
* `Operator.mark`, `Operator.symbol`: the written form.
* `Operator.scanOrder`: the order in which a line is searched.
* `Operator.displayOrder`: the order in which the operators are listed for a reader.
* `Operator.ofSymbol?`: the operator of a symbol.
-/

namespace CatalogFilter

/-- A comparison between a field and a value. -/
inductive Operator where
  /-- The field has the value. -/
  | equal
  /-- The field does not have the value. -/
  | notEqual
  /-- The field is above the value. -/
  | greater
  /-- The field is below the value. -/
  | less
  /-- The field is the value or above it. -/
  | atLeast
  /-- The field is the value or below it. -/
  | atMost
  deriving DecidableEq, Repr

namespace Operator

/-- The characters of the symbol. -/
def mark : Operator → List Char
  | .equal => ['=']
  | .notEqual => ['!', '=']
  | .greater => ['>']
  | .less => ['<']
  | .atLeast => ['>', '=']
  | .atMost => ['<', '=']

/-- The symbol. -/
def symbol (op : Operator) : String :=
  .ofList op.mark

/-- The order in which a line is searched for an operator. -/
def scanOrder : List Operator :=
  [.atLeast, .atMost, .notEqual, .equal, .greater, .less]

/-- The order in which the operators are listed. -/
def displayOrder : List Operator :=
  [.equal, .greater, .less, .atLeast, .atMost, .notEqual]

/-- The symbols in the order in which they are listed. -/
def symbols : List String :=
  displayOrder.map symbol

/-- The operator that a symbol stands for. -/
def ofSymbol? (s : String) : Option Operator :=
  scanOrder.find? (·.symbol == s)

/-- An operator is written in JSON as its symbol. -/
def toJson (op : Operator) : Json :=
  .string op.symbol

theorem mem_scanOrder (op : Operator) : op ∈ scanOrder := by
  cases op <;> simp [scanOrder]

theorem mem_displayOrder (op : Operator) : op ∈ displayOrder := by
  cases op <;> simp [displayOrder]

theorem mark_ne_nil (op : Operator) : op.mark ≠ [] := by
  cases op <;> simp [mark]

end Operator

end CatalogFilter
