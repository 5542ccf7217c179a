/-!
# Invocations

What a user can ask for on the command line: a command with its arguments, and switches that hold
for every command.

## Main definitions

* `CommandLine.Switches`: the switches.
* `CommandLine.Command`: the commands.
* `CommandLine.Invocation`: switches and command.
-/

namespace CatalogFilter.CommandLine

/-- The switches that hold for every command. -/
structure Switches where
  /-- Show the log. -/
  verbose : Bool := false
  /-- Show errors only. -/
  quiet : Bool := false
  /-- Write JSON instead of tables. -/
  json : Bool := false
  /-- Write without colours. -/
  noColor : Bool := false
  deriving DecidableEq, Repr

/-- A switch is on if it is on in one of two places. -/
def Switches.or (a b : Switches) : Switches :=
  ⟨a.verbose || b.verbose, a.quiet || b.quiet, a.json || b.json, a.noColor || b.noColor⟩

/-- The shells that completion scripts are written for. -/
inductive Shell where
  /-- The shell `bash`. -/
  | bash
  /-- The shell `zsh`. -/
  | zsh
  /-- The shell `fish`. -/
  | fish
  /-- The shell `powershell`. -/
  | powershell
  deriving DecidableEq, Repr

namespace Shell

/-- All shells. -/
def all : List Shell :=
  [.bash, .zsh, .fish, .powershell]

/-- The name of the shell. -/
def name : Shell → String
  | .bash => "bash"
  | .zsh => "zsh"
  | .fish => "fish"
  | .powershell => "powershell"

/-- The shell of the given name. -/
def ofName? (s : String) : Option Shell :=
  all.find? (·.name == s)

end Shell

/-- What can be done with the settings. -/
inductive ConfigCommand where
  /-- Show them. -/
  | display
  /-- Change one of them. -/
  | set (key value : String)
  /-- Show where they are kept. -/
  | path
  deriving DecidableEq, Repr

/-- The commands. -/
inductive Command where
  /-- Turn rules into a filter. -/
  | compile (rules : List String) (file : Option String) (page limit : Option Nat)
  /-- Check rules. -/
  | validate (rules : List String) (file : Option String)
  /-- Answer a request. -/
  | request (path : Option String)
  /-- Show what rules may contain. -/
  | vocabulary
  /-- Look at the settings or change them. -/
  | config (command : Option ConfigCommand)
  /-- Write a completion script. -/
  | completions (shell : Shell)
  deriving DecidableEq, Repr

/-- What a user asks for. -/
structure Invocation where
  /-- The switches. -/
  switches : Switches := {}
  /-- The command, if there is one. -/
  command : Option Command := none
  deriving DecidableEq, Repr

/-- The command reads the standard input: it has no other source. -/
def Invocation.readsInput (inv : Invocation) : Bool :=
  match inv.command with
  | some (.compile rules file _ _) => rules.isEmpty && file.isNone
  | some (.validate rules file) => rules.isEmpty && file.isNone
  | some (.request path) => path.isNone
  | _ => false

/-- The file that the command reads, if there is one. -/
def Invocation.source? (inv : Invocation) : Option String :=
  match inv.command with
  | some (.compile _ file _ _) => file
  | some (.validate _ file) => file
  | some (.request path) => path
  | _ => none

end CatalogFilter.CommandLine
