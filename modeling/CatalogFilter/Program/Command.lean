import CatalogFilter.CommandLine.Completion
import CatalogFilter.Program.Action
import CatalogFilter.Program.Events
import CatalogFilter.Report.Table
import CatalogFilter.Settings.Store

/-!
# The commands at work

What each command does with the files on a disk, the variables of the environment and the standard
input, and what it prints.

## Main definitions

* `Program.Surroundings`: what a command finds besides the disk.
* `Program.Context`: what holds for every command.
* `Program.perform`: the work of a command.
* `Program.execute`: the work of an invocation.
-/

namespace CatalogFilter.Program

open CommandLine

/-- What a run finds besides the disk. -/
structure Surroundings where
  /-- The environment. -/
  env : Environment
  /-- The bytes of the standard input, which is a file or a pipe. Surroundings in which it is a
  terminal, where a command that wants to read from it fails, are left out. -/
  input : ByteArray := .empty

/-- What holds for every command. -/
structure Context where
  /-- The switches. -/
  switches : Switches
  /-- Colours are used. -/
  colors : Bool
  /-- The settings. -/
  settings : Settings

/-- An answer as JSON or as text, whichever is wanted. -/
def Context.render (ctx : Context) (json : Json) (text : String) : String :=
  if ctx.switches.json then json.pretty ++ "\n"
  else if ctx.switches.quiet then ""
  else text

/-- Prints an answer as JSON or as text. -/
def Context.answer (ctx : Context) (json : Json) (text : String) : Action Unit :=
  .print (ctx.render json text)

/-! ### Reading -/

/-- The text of a file. -/
def readFile (path : String) : Action String := do
  .ofExcept (.input path) (← .inspect (·.readText path))

/-- The target of the events of the commands. -/
def commandTarget : String := "seg::commands"

/-- The text of the standard input, which is expected to hold `what` and is not a terminal. -/
def readInput (w : Surroundings) (what : String) : Action String := do
  .report [⟨commandTarget, "reading " ++ what ++ " from stdin", []⟩]
  .ofExcept .stream (Disk.decodeText w.input)

/-- The rules: those of a file, or the lines given as arguments, or the standard input. -/
def readRules (w : Surroundings) (rules : List String) : Option String → Action String
  | some path => do
      .report [⟨commandTarget, "reading rules from file", [("path", path)]⟩]
      readFile path
  | none => if rules.isEmpty then readInput w "rules" else return "\n".intercalate rules

/-- The path of the settings. -/
def settingsPath (w : Surroundings) : Action String :=
  .ofExcept .settings (Settings.location w.env)

/-- The event of loading the settings, if there is a file and it can be read. -/
def loadEvents (path : String) (d : Disk) : List Log.Event :=
  match Settings.content? d path with
  | .ok (some _) => [⟨"seg::commands::config", "loaded config", [("path", path)]⟩]
  | _ => []

/-- The settings on the disk. -/
def loadSettings (w : Surroundings) : Action Settings := do
  let path ← settingsPath w
  .report (← .inspect (loadEvents path))
  .ofExcept .settings (← .inspect (Settings.load · path))

/-! ### Rules -/

/-- The answer to a request. -/
def evaluate (ctx : Context) (r : Request) : Action Unit := do
  .report r.events
  let e ← Action.ofExcept .rules r.evaluate
  ctx.answer e.toJson (Report.evaluation ctx.colors e)

/-- The page that is wanted: that of the options, else that of the settings, else the first of
the usual size. -/
def pagination (ctx : Context) (page limit : Option Nat) : Pagination :=
  let standard : Pagination := {}
  ⟨(page.or ctx.settings.page).getD standard.page,
   (limit.or ctx.settings.limit).getD standard.limit⟩

/-- Turns rules into a filter. -/
def compile (w : Surroundings) (ctx : Context) (rules : List String) (file : Option String)
    (page limit : Option Nat) : Action Unit := do
  let text ← readRules w rules file
  evaluate ctx (.ofText text (pagination ctx page limit))

/-- Checks rules. -/
def validate (w : Surroundings) (ctx : Context) (rules : List String) (file : Option String) :
    Action Unit := do
  let text ← readRules w rules file
  .report (Compiled.events text)
  let c ← Action.ofExcept .rules (Compiled.ofText text)
  ctx.answer c.validationToJson (Report.validation ctx.colors c)

/-- The body of a request: that of a file, or the standard input. -/
def readBody (w : Surroundings) : Option String → Action String
  | some path => readFile path
  | none => readInput w "request body"

/-- Answers a request in JSON. -/
def request (w : Surroundings) (ctx : Context) (path : Option String) : Action Unit := do
  let body ← readBody w path
  let r ← Action.ofExcept (fun e => .json e.message) (Request.ofJsonText body)
  evaluate ctx r

/-- Shows what rules may contain. -/
def vocabulary (ctx : Context) : Action Unit :=
  ctx.answer Vocabulary.toJson (Report.vocabulary ctx.colors)

/-! ### Settings -/

/-- The settings for a reader. -/
def settingsReport (ctx : Context) (path : String) (present : Bool) : String :=
  let s := ctx.settings
  Report.paint ctx.colors .heading "Configuration" ++ "\n\nFile: " ++ path
    ++ "\nExists: " ++ Settings.boolWord present ++ "\n\n"
    ++ if present then
        "[output]\n" ++ Settings.line "  " "color" ": " Settings.boolWord s.color
          ++ "\n[pagination]\n" ++ Settings.line "  " "page" ": " Settings.countWord s.page
          ++ Settings.line "  " "limit" ": " Settings.countWord s.limit
      else "(No config file exists. Run 'seg config set <key> <value>' to create one.)\n"

/-- Shows the settings. -/
def showSettings (w : Surroundings) (ctx : Context) : Action Unit := do
  let path ← settingsPath w
  let present ← Action.inspect (·.isPresent path)
  let json := Json.sortMembers (.object
    [("path", .string path), ("exists", .bool present), ("config", ctx.settings.toJson)])
  ctx.answer json (settingsReport ctx path present)

/-- Makes the directory for the file of the settings. Directories that could be made stay if
another one cannot. -/
def prepareSettings (path : String) : Action Unit := do
  let attempt ← Action.inspect (Settings.prepare · path)
  .change attempt.disk
  match attempt.fault with
  | some e => .ofExcept .settings (.error (.noDirectory e))
  | none => return

/-- Writes the settings to their file. The directory stays if the file cannot be written. -/
def saveSettings (path : String) (s : Settings) : Action Unit := do
  prepareSettings path
  let stored ← Action.ofExcept .settings (← .inspect (Settings.store · path s))
  .change stored

/-- Changes a setting. -/
def changeSetting (w : Surroundings) (ctx : Context) (key value : String) : Action Unit := do
  let settings ← loadSettings w
  let path ← settingsPath w
  let settings ← Action.ofExcept .settings (settings.assign key value)
  saveSettings path settings
  let json := Json.sortMembers (.object
    [("status", .string "success"), ("key", .string key), ("value", .string value),
     ("path", .string path)])
  ctx.answer json ("Set " ++ key ++ " = " ++ value ++ "\n")

/-- Shows where the settings are kept. -/
def showPath (w : Surroundings) (ctx : Context) : Action Unit := do
  let path ← settingsPath w
  let present ← Action.inspect (·.isPresent path)
  let json := Json.sortMembers (.object [("path", .string path), ("exists", .bool present)])
  .print (if ctx.switches.json then json.pretty ++ "\n" else path ++ "\n")

/-! ### All commands -/

/-- What is printed if no command is given. -/
def greeting : String :=
  "seg - segment rule compiler\nUse --help for usage information\n"

/-- The work of a command. -/
def perform (w : Surroundings) (ctx : Context) : Option Command → Action Unit
  | some (.compile rules file page limit) => compile w ctx rules file page limit
  | some (.validate rules file) => validate w ctx rules file
  | some (.request path) => request w ctx path
  | some .vocabulary => vocabulary ctx
  | some (.config none) => showSettings w ctx
  | some (.config (some .display)) => showSettings w ctx
  | some (.config (some (.set key value))) => changeSetting w ctx key value
  | some (.config (some .path)) => showPath w ctx
  | some (.completions shell) => .print (completionScript shell)
  | none => .print (if ctx.switches.quiet then "" else greeting)

/-- Colours are used unless a switch, the environment or the settings forbid them. -/
def usesColors (w : Surroundings) (switches : Switches) (settings : Settings) : Bool :=
  !switches.noColor && (w.env.lookup "NO_COLOR").isNone && settings.color.getD true

/-- The work of an invocation: the settings are loaded first. -/
def execute (w : Surroundings) (inv : Invocation) : Action Unit := do
  let settings ← loadSettings w
  perform w ⟨inv.switches, usesColors w inv.switches settings, settings⟩ inv.command

end CatalogFilter.Program
