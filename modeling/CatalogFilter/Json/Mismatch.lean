import CatalogFilter.Json.FloatText
import CatalogFilter.Json.Scan
import CatalogFilter.Text.Visible

/-!
# Messages about JSON of another shape

The wording of a mismatch between the JSON that is there and the JSON that is wanted.

## Main definitions

* `Json.Found.ofJson`, `Json.Found.describe`: what is there, and how a message calls it.
* `Json.Mismatch.message`: the message.
-/

namespace CatalogFilter.Json

/-- What a value is, without the contents of lists and objects. -/
def Found.ofJson : Json → Found
  | .null => .null
  | .bool b => .bool b
  | .integer n => .integer n
  | .float x => .float x
  | .string s => .string s
  | .array _ => .array
  | .object _ => .object

/-- A text between the marks that set a value off from the rest of a message. -/
def marked (s : String) : String :=
  "`" ++ s ++ "`"

/-- What is there, in words. -/
def Found.describe : Found → String
  | .null => "null"
  | .bool b => "boolean " ++ marked (if b then "true" else "false")
  | .integer n => "integer " ++ marked (.ofList (Numeral.printInt n))
  | .float x => "floating point " ++ marked (.ofList (writeFloat x))
  | .string s => "string " ++ Text.quoteVisibly s
  | .array => "sequence"
  | .object => "map"

/-- The message of a mismatch. -/
def Mismatch.message : Mismatch → String
  | .kind found wanted => "invalid type: " ++ found.describe ++ ", expected " ++ wanted
  | .range n wanted => "invalid value: " ++ (Found.integer n).describe ++ ", expected " ++ wanted
  | .missing name => "missing field " ++ marked name
  | .repeated name => "duplicate field " ++ marked name
  | .length count wanted =>
      "invalid length " ++ .ofList (Numeral.print count) ++ ", expected " ++ wanted
  | .refused message => message

end CatalogFilter.Json
