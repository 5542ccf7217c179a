import CatalogFilter.Log.Directive

/-!
# Filters for the log

A filter says which events are shown. It is given by a text with directives, between which stand
commas, or else by one level for all events.

## Main definitions

* `Log.Filter`: what is shown.
* `Log.Filter.shows`: an event is shown.
* `Log.filterOf`: the filter of a text.
* `Log.complaints`: the lines about the parts of a text that are no directives.
-/

namespace CatalogFilter.Log

/-- What is shown: of the directives for an event the closest one counts. -/
abbrev Filter := List Directive

namespace Filter

/-- The closest directive for an event. -/
def closest? (e : Event) (f : Filter) : Option Directive :=
  (f.filter (·.concerns e)).foldl
    (fun best d =>
      match best with
      | some b => if b.yieldsTo d then some d else some b
      | none => some d)
    none

/-- An event is shown. -/
def shows (f : Filter) (e : Event) : Bool :=
  match f.closest? e with
  | some d => d.level.showsEvents
  | none => false

end Filter

/-- The parts of a text, each with the directive that it gives or the reason why it gives none.
Empty parts are left out. -/
def readDirectives (s : String) : List (List Char × Except DirectiveError Directive) :=
  ((s.toList.splitOn ',').filter fun part => !part.isEmpty).map fun part =>
    (part, Directive.read part)

/-- The filter of a text; if the text gives no directive, the standard level is for all
events. -/
def filterOf (standard : Level) (s : String) : Filter :=
  match (readDirectives s).filterMap fun (_, d) => d.toOption with
  | [] => [{ level := standard }]
  | ds => ds

/-- The lines about the parts of a text that are ignored. -/
def complaints (s : String) : List String :=
  (readDirectives s).filterMap fun
    | (part, .error e) => some ("ignoring `" ++ .ofList part ++ "`: " ++ e.message)
    | (_, .ok _) => none

end CatalogFilter.Log
