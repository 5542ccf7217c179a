import CatalogFilter.Json.Printer
import CatalogFilter.Report.Style
import CatalogFilter.Request
import CatalogFilter.Text.Layout
import CatalogFilter.Vocabulary

/-!
# Reports for readers

The answers as text with tables, one line for a condition or a field. Widths count characters;
control sequences for colours take no width.

## Main definitions

* `Report.conditionTable`: a table of conditions.
* `Report.evaluation`, `Report.validation`: the answer to a request and to a check.
* `Report.vocabulary`: the fields, operators and examples.
-/

namespace CatalogFilter.Report

/-- A cell filled up to a width. -/
def cell (width : Nat) (s : String) : String :=
  .ofList (Text.padRight width s.toList)

/-- The width of a column: that of its widest entry, and at least `least`. -/
def columnWidth (least : Nat) (entries : List String) : Nat :=
  (entries.map String.length).foldl max least

/-- The largest width of a value. -/
def valueWidth : Nat := 40

/-- A value cut to the width of its column. -/
def shownValue (s : String) : String :=
  .ofList (Text.truncate valueWidth s.toList)

/-! ### Conditions -/

/-- The width of the columns for numbers and for operators. -/
def narrow : Nat := 3

/-- The names of the columns of a table of conditions. -/
def conditionColumns (width : Nat) : String :=
  cell narrow "#" ++ " " ++ cell width "Field" ++ " " ++ cell narrow "Op" ++ " Value"

/-- The line of one condition. -/
def conditionRow (colors : Bool) (width number : Nat) (c : Condition) : String :=
  paint colors .dimmed (cell narrow (.ofList (Numeral.print number))) ++ " "
    ++ cell width c.field ++ " "
    ++ paint colors .operator (cell narrow c.operator.symbol) ++ " "
    ++ shownValue c.value ++ "\n"

/-- The lines of conditions, numbered from `number`. -/
def conditionRows (colors : Bool) (width : Nat) : (number : Nat) → List Condition → String
  | _, [] => ""
  | number, c :: cs =>
      conditionRow colors width number c ++ conditionRows colors width (number + 1) cs

/-- A table of conditions. -/
def conditionTable (colors : Bool) (cs : List Condition) : String :=
  let width := columnWidth "Field".length (cs.map (·.field))
  columnHeading colors (conditionColumns width) ++ conditionRows colors width 1 cs

/-! ### Answers -/

/-- The line that names the page. -/
def pageLine (p : Pagination) : String :=
  "Page " ++ .ofList (Numeral.print p.page) ++ ", limit " ++ .ofList (Numeral.print p.limit)

/-- The answer to a request. -/
def evaluation (colors : Bool) (e : Evaluation) : String :=
  header colors "Conditions" ++ conditionTable colors e.compiled.conditions ++ "\n"
    ++ header colors "Filter expression" ++ e.compiled.filter.toJson.pretty ++ "\n\n"
    ++ paint colors .dimmed (pageLine e.pagination) ++ "\n"

/-- The number of conditions in words. -/
def conditionCount (n : Nat) : String :=
  .ofList (Numeral.print n) ++ " condition" ++ if n = 1 then "" else "s"

/-- The answer that rules are valid. -/
def validation (colors : Bool) (c : Compiled) : String :=
  paint colors .success "✓" ++ " Rules are valid (" ++ conditionCount c.conditions.length ++ ")\n\n"
    ++ conditionTable colors c.conditions

/-! ### Vocabulary -/

/-- The line of one field. -/
def fieldRow (colors : Bool) (width : Nat) (f : Field) : String :=
  cell width f.name ++ " " ++ paint colors .dimmed f.kind.name ++ "\n"

/-- An example: its name, and its lines below. -/
def exampleBlock (name text : String) : String :=
  let lines := (Text.lines text.toList).map fun line => "    " ++ .ofList line ++ "\n"
  "  " ++ name ++ ":\n" ++ String.join lines

/-- The fields, operators and examples. -/
def vocabulary (colors : Bool) : String :=
  let fields := Catalog.selectableFields
  let width := columnWidth "Field".length (fields.map (·.name))
  header colors "Allowed fields"
    ++ columnHeading colors (cell width "Field" ++ " Type")
    ++ String.join (fields.map (fieldRow colors width)) ++ "\n"
    ++ header colors "Operators" ++ "  ".intercalate Operator.symbols ++ "\n\n"
    ++ header colors "Examples"
    ++ String.join (Vocabulary.examples.map fun (name, text) => exampleBlock name text)

end CatalogFilter.Report
