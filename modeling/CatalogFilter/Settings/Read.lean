import CatalogFilter.Settings.Basic
import CatalogFilter.Toml.Document

/-!
# Settings from TOML

A document is read as settings if the tables it holds under the known names have values of the
right kinds. Everything under other names is passed over. In place of a table a list may stand,
with a value for each of the settings in order. A date or time counts as a table without any of
the known names.

## Main definitions

* `Settings.ofEntries?`: the settings that a table holds.
* `Settings.ofToml?`: the settings of a text.
-/

namespace CatalogFilter.Settings

/-- A truth value. -/
def boolOf? : Toml.Value → Option Bool
  | .bool b => some b
  | _ => none

/-- A number of 32 bits. -/
def wordOf? : Toml.Value → Option Nat
  | .integer n => if 0 ≤ n ∧ n.toNat ≤ Numeral.maxWord then some n.toNat else none
  | _ => none

/-- The value under a name, if there is one. Fails if it is not of the right kind. -/
def field? {α : Type} (read : Toml.Value → Option α) (name : String) (es : Toml.Entries) :
    Option (Option α) :=
  match es.lookup name with
  | some v => (read v).map some
  | none => some none

/-- The settings for output. -/
def colorOf? : Toml.Value → Option (Option Bool)
  | .table _ es => field? boolOf? "color" es
  | .array (v :: _) => (boolOf? v).map some
  | .moment _ => some none
  | _ => none

/-- The settings for pages. -/
def pagesOf? : Toml.Value → Option (Option Nat × Option Nat)
  | .table _ es => do return (← field? wordOf? "page" es, ← field? wordOf? "limit" es)
  | .array (v :: w :: _) => do return (some (← wordOf? v), some (← wordOf? w))
  | .moment _ => some (none, none)
  | _ => none

/-- The settings that a table holds. The version has to be a number and is not looked at
further. -/
def ofEntries? (es : Toml.Entries) : Option Settings := do
  let _ ← field? wordOf? "version" es
  let color ← field? colorOf? "output" es
  let pages ← field? pagesOf? "pagination" es
  let (page, limit) := pages.getD (none, none)
  return ⟨color.getD none, page, limit⟩

/-- The settings of a text. -/
def ofToml? (s : String) : Option Settings := do
  let es ← Toml.parse? s
  ofEntries? es

end CatalogFilter.Settings
