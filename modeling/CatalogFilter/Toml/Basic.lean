/-!
# TOML values

The values of a TOML document. A table remembers how it came about, because that decides whether
later lines may add to it.

## Main definitions

* `Toml.TableKind`: how a table came about.
* `Toml.Value`: the values.
* `Toml.Entries`: the contents of a table.
-/

namespace CatalogFilter.Toml

/-- How a table came about. -/
inductive TableKind where
  /-- Written between braces; nothing can be added. -/
  | inline
  /-- Named by a header of its own. -/
  | header
  /-- Named on the way to a header. -/
  | passed
  /-- Named on the way to a key. -/
  | dotted
  deriving DecidableEq, Repr

/-- A value. Numbers with a fraction or exponent, dates and times are kept as they are written. -/
inductive Value where
  /-- A text. -/
  | string (s : String)
  /-- A whole number. -/
  | integer (n : Int)
  /-- Another number. -/
  | float (literal : String)
  /-- A truth value. -/
  | bool (b : Bool)
  /-- A date, a time, or both. -/
  | moment (literal : String)
  /-- A list of values. -/
  | array (items : List Value)
  /-- A table. -/
  | table (kind : TableKind) (entries : List (String × Value))
  /-- A list of tables, each with a header of its own. -/
  | tables (items : List (List (String × Value)))

/-- The contents of a table. -/
abbrev Entries := List (String × Value)

/-- The contents with the value of a key replaced, or added at the end. -/
def Entries.set (key : String) (v : Value) : Entries → Entries
  | [] => [(key, v)]
  | (k, w) :: es => if k = key then (key, v) :: es else (k, w) :: set key v es

end CatalogFilter.Toml
