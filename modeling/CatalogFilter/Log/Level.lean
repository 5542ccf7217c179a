import CatalogFilter.Number.Numeral

/-!
# Levels of the log

A level says how much of the log is shown.

## Main definitions

* `Log.Level`: the levels.
* `Log.Level.read?`: the level of a name or number.
* `Log.Level.showsEvents`: the events of this program are shown.
-/

namespace CatalogFilter.Log

/-- How much is shown, each level more than the one before. -/
inductive Level where
  /-- Nothing. -/
  | off
  /-- Errors. -/
  | error
  /-- Warnings too. -/
  | warn
  /-- Information too. -/
  | info
  /-- The events of this program too. -/
  | debug
  /-- Everything. -/
  | trace
  deriving DecidableEq, Repr

namespace Level

/-- All levels in order. -/
def all : List Level :=
  [.off, .error, .warn, .info, .debug, .trace]

/-- The name of the level. -/
def name : Level → String
  | .off => "off"
  | .error => "error"
  | .warn => "warn"
  | .info => "info"
  | .debug => "debug"
  | .trace => "trace"

/-- The events of this program are shown. -/
def showsEvents : Level → Bool
  | .debug => true
  | .trace => true
  | _ => false

/-- The level of a number from zero to five. -/
def ofNumber? (cs : List Char) : Option Level :=
  let ds := match cs with
    | '+' :: rest => rest
    | _ => cs
  if Numeral.isDigits ds then all[Numeral.value ds]? else none

/-- The level of a name, in letters of either case, or of a number. -/
def read? (cs : List Char) : Option Level :=
  (ofNumber? cs).or (all.find? fun l => l.name.toList == cs.map Char.toLower)

end Level

end CatalogFilter.Log
