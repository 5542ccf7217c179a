import CatalogFilter.Condition.Record
import CatalogFilter.Filter.Compile
import CatalogFilter.Json.Record
import CatalogFilter.RuleText

/-!
# Requests

A request asks for the filter of a rule text and says which page of the result is wanted. The page
is handed through. The rules of a request may be any JSON value, so that rules that are no text
are refused as rules and not as JSON.

## Main definitions

* `Compiled`: conditions with the filter made from them.
* `Compiled.ofText`: the filter of a rule text.
* `Request`, `Request.ofJson`, `Request.ofJsonText`: a request and its JSON forms.
* `Request.evaluate`: the answer to a request.
-/

namespace CatalogFilter

/-! ### Rules with their filter -/

/-- Conditions with the filter made from them. -/
structure Compiled where
  /-- The conditions. -/
  conditions : List Condition
  /-- The filter. -/
  filter : Filter
  deriving DecidableEq

namespace Compiled

/-- The filter of conditions, together with them. -/
def ofConditions (conditions : List Condition) : Except RuleError Compiled := do
  let filter ← Filter.compile conditions
  return ⟨conditions, filter⟩

/-- The conditions and the filter of a rule text. -/
def ofText (text : String) : Except RuleError Compiled := do
  let conditions ← RuleText.parse text
  ofConditions conditions

/-- The members of the JSON form. -/
def members (c : Compiled) : List (String × Json) :=
  [("conditions", .array (c.conditions.map Condition.toJson)),
   ("filterExpression", c.filter.toJson)]

/-- The JSON form. -/
def toJson (c : Compiled) : Json :=
  .object c.members

/-- The JSON form of the answer that the rules are valid. -/
def validationToJson (c : Compiled) : Json :=
  .object (c.members ++ [("valid", .bool true)])

end Compiled

/-! ### Pages -/

/-- The page of a result that is wanted. -/
structure Pagination where
  /-- The number of the page. -/
  page : Nat := 1
  /-- The number of items on a page. -/
  limit : Nat := 50
  deriving DecidableEq, Repr

/-- The JSON form. -/
def Pagination.toJson (p : Pagination) : Json :=
  .object [("page", .integer p.page), ("limit", .integer p.limit)]

/-! ### Requests -/

/-- A request for the filter of a rule text. -/
structure Request where
  /-- The rules, if there are any. -/
  rules : Option Json
  /-- The page that is wanted. -/
  pagination : Pagination

namespace Request

/-- A request whose parts are known in part. -/
structure Draft where
  /-- The rules; the inner value is absent if `null` stands in their place. -/
  rules : Option (Option Json) := none
  /-- The number of the page. -/
  page : Option Nat := none
  /-- The number of items on a page. -/
  limit : Option Nat := none

/-- The number of 32 bits that a value holds. -/
def wordOfJson : Json → Except Json.Mismatch Nat
  | .integer n =>
      if 0 ≤ n ∧ n.toNat ≤ Numeral.maxWord then .ok n.toNat else .error (.range n "u32")
  | v => .error (.kind (.ofJson v) "u32")

/-- The value, unless it is `null`. -/
def presentJson : Json → Option Json
  | .null => none
  | v => some v

/-- The slots of a request. -/
def slots : List (Json.Slot Draft) :=
  [⟨"rules", false, (·.rules.isSome), fun d v => .ok { d with rules := some (presentJson v) }⟩,
   ⟨"page", true, (·.page.isSome),
    fun d v => do return { d with page := some (← wordOfJson v) }⟩,
   ⟨"limit", true, (·.limit.isSome),
    fun d v => do return { d with limit := some (← wordOfJson v) }⟩]

/-- The request of a draft. Every part has a default. -/
def ofDraft (d : Draft) : Request :=
  let standard : Pagination := {}
  ⟨d.rules.getD none, d.page.getD standard.page, d.limit.getD standard.limit⟩

/-- The shape of a request. -/
def record : Json.Record Draft Request :=
  ⟨"struct SegmentRequest", slots, {}, fun _ d => .ok (ofDraft d)⟩

/-- The request that a value stands for. -/
def ofJson (v : Json) : Except Json.Mismatch Request :=
  record.decode v

/-- The request that a JSON text stands for. -/
def ofJsonText (s : String) : Except Json.ReadError Request :=
  record.parse s

/-- A request for the filter of a text. -/
def ofText (text : String) (pagination : Pagination) : Request :=
  ⟨some (.string text), pagination⟩

end Request

/-- The answer to a request. -/
structure Evaluation where
  /-- The conditions and their filter. -/
  compiled : Compiled
  /-- The page that is wanted. -/
  pagination : Pagination
  deriving DecidableEq

/-- The JSON form. -/
def Evaluation.toJson (e : Evaluation) : Json :=
  .object (e.compiled.members ++ [("pagination", e.pagination.toJson)])

/-- The answer to a request. -/
def Request.evaluate (r : Request) : Except RuleError Evaluation := do
  let conditions ← RuleText.parseValue r.rules
  let compiled ← Compiled.ofConditions conditions
  return ⟨compiled, r.pagination⟩

end CatalogFilter
