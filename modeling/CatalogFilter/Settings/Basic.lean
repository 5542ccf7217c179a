import CatalogFilter.Disk.Basic
import CatalogFilter.Json.Basic
import CatalogFilter.Number.Numeral
import CatalogFilter.Text.Blank
import CatalogFilter.Text.Lowercase

/-!
# Settings

Three settings are kept between runs: whether colours are used, and the page and number of items
that are asked for. Each may be unset. They are changed one at a time, by key and value.

## Main definitions

* `Settings`: the settings.
* `Settings.Error`: what can go wrong with them.
* `Settings.assign`: the settings after one change.
* `Settings.toToml`: the text in which they are kept.
* `Settings.toJson`: the JSON form.
-/

namespace CatalogFilter

/-- The settings. -/
structure Settings where
  /-- Colours are used. -/
  color : Option Bool := none
  /-- The number of the page. -/
  page : Option Nat := none
  /-- The number of items on a page. -/
  limit : Option Nat := none
  deriving DecidableEq, Repr

namespace Settings

/-- What can go wrong with the settings. -/
inductive Error where
  /-- There is no place for them. -/
  | noLocation
  /-- Their file cannot be read. -/
  | unreadable (e : Disk.Error)
  /-- Their file does not hold settings. -/
  | unparsable (detail : String)
  /-- The directory for their file cannot be made. -/
  | noDirectory (e : Disk.Error)
  /-- Their file cannot be written. -/
  | unwritable (e : Disk.Error)
  /-- There is no such setting. -/
  | unknownKey (key : String)
  /-- A value is no truth value. -/
  | notBool (value : String)
  /-- A value is no number of the right size. -/
  | notCount (key value : String)
  deriving DecidableEq, Repr

/-- What is wrong, in words. -/
def Error.message : Error → String
  | .noLocation => "Could not determine config directory"
  | .unreadable e => "Failed to read config: " ++ e.message
  | .unparsable detail => "Failed to parse config: " ++ detail
  | .noDirectory e => "Failed to create config directory: " ++ e.message
  | .unwritable e => "Failed to write config: " ++ e.message
  | .unknownKey key =>
      "Unknown config key '" ++ key
        ++ "'. Valid keys: output.color, pagination.page, pagination.limit"
  | .notBool value =>
      "Invalid boolean value '" ++ value ++ "'. Use true/false, yes/no, 1/0, or on/off"
  | .notCount key value =>
      "Invalid " ++ key ++ " value '" ++ value ++ "'. Use a whole number of at least 1"

/-! ### Changing a setting -/

/-- The words that stand for yes. -/
def yesWords : List String := ["true", "yes", "1", "on"]

/-- The words that stand for no. -/
def noWords : List String := ["false", "no", "0", "off"]

/-- The truth value of a word, in letters of either case. -/
def readBool (value : String) : Except Error Bool :=
  let word := String.ofList (Text.lowercase value.toList)
  if word ∈ yesWords then .ok true
  else if word ∈ noWords then .ok false
  else .error (.notBool value)

/-- The number that a value stands for, with or without blanks around it. -/
def readCount (key value : String) : Except Error Nat :=
  match Numeral.readPositive? (Text.trim value.toList) with
  | some n => .ok n
  | none => .error (.notCount key value)

/-- The settings with one of them changed. -/
def assign (s : Settings) (key value : String) : Except Error Settings :=
  if key = "output.color" then do return { s with color := some (← readBool value) }
  else if key = "pagination.page" then do return { s with page := some (← readCount key value) }
  else if key = "pagination.limit" then do
    return { s with limit := some (← readCount key value) }
  else .error (.unknownKey key)

/-! ### Written forms -/

/-- The word for a truth value. -/
def boolWord (b : Bool) : String :=
  if b then "true" else "false"

/-- The word for a number. -/
def countWord (n : Nat) : String :=
  .ofList (Numeral.print n)

/-- The line that states a setting, if it is set. -/
def line {α : Type} (before name between : String) (word : α → String) : Option α → String
  | some a => before ++ name ++ between ++ word a ++ "\n"
  | none => ""

/-- The version of the format in which the settings are kept. -/
def version : Nat := 1

/-- The text in which the settings are kept. -/
def toToml (s : Settings) : String :=
  "version = " ++ countWord version ++ "\n\n[output]\n" ++ line "" "color" " = " boolWord s.color
    ++ "\n[pagination]\n" ++ line "" "page" " = " countWord s.page
    ++ line "" "limit" " = " countWord s.limit

/-- The member of a JSON object that states a setting, if it is set. -/
def member {α : Type} (name : String) (f : α → Json) : Option α → List (String × Json)
  | some a => [(name, f a)]
  | none => []

/-- The JSON form. -/
def toJson (s : Settings) : Json :=
  .object
    [("version", .integer version),
     ("output", .object (member "color" .bool s.color)),
     ("pagination", .object
       (member "page" (fun n => .integer n) s.page
         ++ member "limit" (fun n => .integer n) s.limit))]

end Settings

end CatalogFilter
