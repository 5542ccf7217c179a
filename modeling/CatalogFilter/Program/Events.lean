import CatalogFilter.Log.Event
import CatalogFilter.Request

/-!
# Events of the work on rules

What is reported while rules are read, turned into a filter, and answered. The events follow from
the rules alone and change nothing.

## Main definitions

* `RuleText.events`, `Filter.compileEvents`, `Compiled.events`, `Request.events`: the events of
  each step.
-/

namespace CatalogFilter

/-- The events of reading a rule text: one, unless there is nothing to read. -/
def RuleText.events (text : String) : List Log.Event :=
  let lines := Text.significantLines text.toList
  let event := fun (message : String) (details : List (String × Nat)) =>
    (⟨"segment_rules::rule_text", message,
      details.map fun (name, n) => (name, Log.shownNumber n)⟩ : Log.Event)
  if lines.isEmpty then []
  else
    match RuleText.failures 1 lines with
    | [] => [event "parsed rule text" [("count", lines.length)]]
    | fs => [event "rule text rejected" [("failed", fs.length), ("total", lines.length)]]

/-- The event of turning a condition into a constraint. -/
def Condition.event (c : Condition) : Log.Event :=
  ⟨"segment_rules::compiler", "compiling condition",
    [("field", Log.shownText c.field), ("operator", c.operator.symbol)]⟩

/-- The events of making a filter: one for each condition up to the first that breaks the
rules. -/
def Filter.compileEvents (conditions : List Condition) : List Log.Event :=
  (conditions.takeWhile fun c => c.clause.isOk).map Condition.event

/-- The events of making the filter of a rule text. -/
def Compiled.events (text : String) : List Log.Event :=
  RuleText.events text ++
    match RuleText.parse text with
    | .ok conditions => Filter.compileEvents conditions
    | .error _ => []

/-- The event of an answer. -/
def Evaluation.event (e : Evaluation) : Log.Event :=
  ⟨"segment_rules::request", "evaluated segment request",
    [("conditions", Log.shownNumber e.compiled.conditions.length),
     ("page", Log.shownNumber e.pagination.page), ("limit", Log.shownNumber e.pagination.limit)]⟩

/-- The events of answering a request. -/
def Request.events (r : Request) : List Log.Event :=
  (match r.rules with
    | some (.string text) => Compiled.events text
    | _ => []) ++
  match r.evaluate with
  | .ok e => [e.event]
  | .error _ => []

end CatalogFilter
