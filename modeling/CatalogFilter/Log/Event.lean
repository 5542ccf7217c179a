import CatalogFilter.Number.Numeral
import CatalogFilter.Text.Visible

/-!
# Events

While it works, the program reports events. Each event comes from a part of the program, its
target.

## Main definitions

* `Log.Event`: an event.
* `Log.Event.names`: the names of all that is known about it.
* `Log.Event.text`: the line that shows it.
-/

namespace CatalogFilter.Log

/-- An event with its details. All events have the same weight. -/
structure Event where
  /-- The part of the program that reports it. -/
  target : String
  /-- What happened. -/
  message : String
  /-- Names and values of the details. -/
  details : List (String × String) := []
  deriving DecidableEq, Repr

namespace Event

/-- The names of the details. What happened is one of them. -/
def names (e : Event) : List String :=
  "message" :: e.details.map (·.1)

/-- The line that shows an event. -/
def text (e : Event) : String :=
  "DEBUG " ++ e.target ++ ": " ++ e.message
    ++ String.join (e.details.map fun (name, value) => " " ++ name ++ "=" ++ value)

end Event

/-- A number as the value of a detail. -/
def shownNumber (n : Nat) : String :=
  .ofList (Numeral.print n)

/-- A text in quotes as the value of a detail. -/
def shownText (s : String) : String :=
  Text.quoteVisibly s

end CatalogFilter.Log
