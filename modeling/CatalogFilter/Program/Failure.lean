import CatalogFilter.CommandLine.Parse
import CatalogFilter.Json.Mismatch
import CatalogFilter.Json.Printer
import CatalogFilter.RuleError
import CatalogFilter.Settings.Basic

/-!
# How a run fails

A command fails for one of five causes. Each has a code, a message and an exit code, and is shown
as a line of text or as a JSON document.

## Main definitions

* `Program.Failure`: the causes.
* `Program.Failure.code`, `Program.Failure.message`, `Program.Failure.exit`: what is known of one.
* `Program.Failure.text`: what is shown.
-/

namespace CatalogFilter

/-- The failure in words. The words for a text that is no JSON are stand-ins for those of a JSON
reader, which has more of them, and which also tells the line and the column of every failure. -/
def Json.ReadError.message : Json.ReadError → String
  | .malformed => "malformed JSON"
  | .truncated => "JSON ends too early"
  | .mismatch m => m.message

namespace Program

/-- Why a command fails. -/
inductive Failure where
  /-- The rules are refused. -/
  | rules (e : RuleError)
  /-- A file with rules or a request cannot be read. -/
  | input (path : String) (e : Disk.Error)
  /-- Something is wrong with the settings. -/
  | settings (e : Settings.Error)
  /-- The input cannot be read. -/
  | stream (e : Disk.Error)
  /-- A request is not the JSON that is wanted. -/
  | json (detail : String)
  deriving DecidableEq, Repr

namespace Failure

/-- The code of the cause. -/
def code : Failure → String
  | .rules e => e.code
  | .input .. => "INPUT_ERROR"
  | .settings _ => "CONFIG_ERROR"
  | .stream _ => "IO_ERROR"
  | .json _ => "JSON_ERROR"

/-- The cause in words. -/
def message : Failure → String
  | .rules e => e.message
  | .input path e => "input error: Failed to read " ++ path ++ ": " ++ e.message
  | .settings e => "configuration error: " ++ e.message
  | .stream e => "I/O error: " ++ e.message
  | .json detail => "serialization error: " ++ detail

/-- The exit code. -/
def exit : Failure → Nat
  | .rules _ => 1
  | .input .. => 2
  | .stream _ => 3
  | .settings _ => 5
  | .json _ => 1

/-- The JSON form, members in the order of their names. -/
def toJson (f : Failure) : Json :=
  let body := match f with
    | .rules e => e.toJson
    | _ => .object [("code", .string f.code), ("message", .string f.message)]
  Json.sortMembers (.object [("error", body)])

/-- What is shown of a failure. -/
def text (json : Bool) (f : Failure) : String :=
  if json then f.toJson.pretty ++ "\n" else "Error: " ++ f.message ++ "\n"

end Failure

end Program

end CatalogFilter
