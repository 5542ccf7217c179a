import CatalogFilter.Log.Filter
import CatalogFilter.Program.Command

/-!
# Runs of the program

A run takes the arguments and a disk, and ends in one of three ways: the work is done, the
arguments are wrong, or the command fails. It leaves a text, a disk, and a log of what happened.

## Main definitions

* `Program.Ending`: how a run ends.
* `Program.Outcome`: what a run leaves.
* `Program.run`: the outcome of a run.
-/

namespace CatalogFilter.Program

open CommandLine

/-- How a run ends. -/
inductive Ending where
  /-- The work is done. -/
  | done
  /-- The arguments are wrong. -/
  | misused (e : UsageError)
  /-- The command fails, and JSON was wanted or not. -/
  | failed (f : Failure) (json : Bool)
  deriving DecidableEq, Repr

/-- What is wrong with the arguments, in words. The words are stand-ins for those of an argument
parser, which also names the argument and shows how the command is used. -/
def usageText : UsageError → String
  | .unknownArgument => "error: unexpected argument found\n"
  | .unknownCommand => "error: unrecognized subcommand\n"
  | .badValue => "error: a value is missing or invalid\n"
  | .badNumber => "error: invalid value: not a number from 1 to 4294967295\n"
  | .extraValue => "error: unexpected value for an option that takes none\n"
  | .conflict => "error: an argument cannot be used with another or more than once\n"
  | .missingArgument => "error: a required argument was not provided\n"

namespace Ending

/-- The exit code. -/
def exit : Ending → Nat
  | .done => 0
  | .misused _ => 2
  | .failed f _ => f.exit

/-- What is shown of the ending. -/
def text : Ending → String
  | .done => ""
  | .misused e => usageText e
  | .failed f json => f.text json

end Ending

/-- What a run leaves. -/
structure Outcome where
  /-- The text that is printed. -/
  output : String
  /-- How the run ended. -/
  ending : Ending
  /-- The disk afterwards. -/
  disk : Disk
  /-- The events that are shown. -/
  log : List Log.Event := []
  /-- The lines about the filter of the log. -/
  complaints : List String := []

/-- The exit code. -/
def Outcome.exit (o : Outcome) : Nat :=
  o.ending.exit

/-- The text on the error stream apart from the log. -/
def Outcome.errors (o : Outcome) : String :=
  String.join (o.complaints.map (· ++ "\n")) ++ o.ending.text

/-- The level of the log that the switches ask for. -/
def logLevel (switches : Switches) : Log.Level :=
  if switches.verbose then .debug else if switches.quiet then .error else .warn

/-- The text that gives the filter of the log; the empty text leaves it to the switches. -/
def logDirectives (w : Surroundings) : String :=
  (w.env.lookup "RUST_LOG").getD ""

/-- The event of a failure. -/
def failureEvent (f : Failure) : Log.Event :=
  ⟨"seg", "command failed", [("code", Log.shownText f.code)]⟩

/-- The outcome of an invocation. -/
def conclude (w : Surroundings) (d : Disk) (inv : Invocation) : Outcome :=
  let work := execute w inv d
  let directives := logDirectives w
  let shown := (Log.filterOf (logLevel inv.switches) directives).shows
  let complaints := Log.complaints directives
  match work.result with
  | .ok () => ⟨work.output, .done, work.disk, work.log.filter shown, complaints⟩
  | .error f =>
      ⟨work.output, .failed f inv.switches.json, work.disk,
        (work.log ++ [failureEvent f]).filter shown, complaints⟩

/-- The outcome of a run. -/
def run (w : Surroundings) (d : Disk) (args : List String) : Outcome :=
  match CommandLine.parse args with
  | .ok inv => conclude w d inv
  | .error (.help level) => { output := helpText level, ending := .done, disk := d }
  | .error (.version level) => { output := versionText level, ending := .done, disk := d }
  | .error (.usage e) => { output := "", ending := .misused e, disk := d }

end CatalogFilter.Program
