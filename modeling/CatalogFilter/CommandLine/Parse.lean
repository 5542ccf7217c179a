import CatalogFilter.CommandLine.Invocation
import CatalogFilter.CommandLine.Level
import CatalogFilter.Number.Numeral

/-!
# Reading the command line

The arguments are read from left to right. An argument is the name of a command, an option or
several joined ones, the mark after which nothing is an option any more, or a plain argument. The
value of an option may be joined to it or be the next argument; it is looked at when the next
option or plain argument is accepted, or at the end of its level. So an unknown argument wins over
a bad value right before it.

When a level is complete its options must not exclude each other, and then nothing may be missing.
The levels further in are completed first.

## Main definitions

* `CommandLine.UsageError`: what can be wrong with the arguments.
* `CommandLine.Halt`: why there is nothing to do, which includes that only help was wanted.
* `CommandLine.Gathered`, `CommandLine.State`: what a level has read so far.
* `CommandLine.parse`: the invocation that a list of arguments stands for.
-/

namespace CatalogFilter.CommandLine

/-- What can be wrong with the arguments. -/
inductive UsageError where
  /-- An option that the level does not know, or a plain argument too many. -/
  | unknownArgument
  /-- A name where a command is wanted that is none. -/
  | unknownCommand
  /-- A value is missing, empty, or none of those that are possible. -/
  | badValue
  /-- A value is no number of the right size. -/
  | badNumber
  /-- A value is joined to an option that takes none. -/
  | extraValue
  /-- Options exclude each other, or one is given twice. -/
  | conflict
  /-- An argument is missing. -/
  | missingArgument
  deriving DecidableEq, Repr

/-- Why reading stops. -/
inductive Halt where
  /-- The explanation of a level is wanted. -/
  | help (level : Level)
  /-- The version is wanted. -/
  | version (level : Level)
  /-- The arguments are wrong. -/
  | usage (e : UsageError)
  deriving DecidableEq, Repr

/-! ### What a level has read -/

/-- The options and arguments of a level that are accepted. -/
structure Gathered where
  /-- The switches. -/
  switches : Switches := {}
  /-- The file with the rules. -/
  file : Option String := none
  /-- The number of the page. -/
  page : Option Nat := none
  /-- The number of items on a page. -/
  limit : Option Nat := none
  /-- The lines of rules. -/
  rules : List String := []
  /-- The file with the request. -/
  path : Option String := none
  /-- The key of a setting. -/
  key : Option String := none
  /-- The value of a setting. -/
  value : Option String := none
  /-- The shell. -/
  shell : Option Shell := none
  deriving DecidableEq, Repr

/-- An option or argument that is read but not accepted yet. -/
inductive Pending where
  /-- An option whose value is still to come. -/
  | awaiting (p : Param)
  /-- An option with its value. -/
  | param (p : Param) (text : String)
  /-- An argument by position. -/
  | place (p : Place) (text : String)
  deriving DecidableEq, Repr

/-- The state of reading a level. -/
structure State where
  /-- What is accepted. -/
  gathered : Gathered := {}
  /-- What is not accepted yet. -/
  pending : Option Pending := none
  /-- The number of positions that are taken. -/
  taken : Nat := 0
  deriving DecidableEq, Repr

/-- The text of a path, which is not empty. -/
def readPath (s : String) : Except UsageError String :=
  if s.isEmpty then .error .badValue else .ok s

/-- The number of a page or of the items on one. -/
def readCount (s : String) : Except UsageError Nat :=
  match Numeral.readPositive? s.toList with
  | some n => .ok n
  | none => .error .badNumber

/-- The shell of a name. -/
def readShell (s : String) : Except UsageError Shell :=
  match Shell.ofName? s with
  | some sh => .ok sh
  | none => .error .badValue

/-- An option is given once. -/
def once {α : Type} : Option α → Except UsageError Unit
  | some _ => .error .conflict
  | none => .ok ()

namespace Gathered

/-- Accepts the value of an option. -/
def setParam (g : Gathered) (p : Param) (text : String) : Except UsageError Gathered :=
  match p with
  | .file => do
      once g.file
      return { g with file := some (← readPath text) }
  | .page => do
      once g.page
      return { g with page := some (← readCount text) }
  | .limit => do
      once g.limit
      return { g with limit := some (← readCount text) }

/-- Accepts an argument by position. -/
def setPlace (g : Gathered) (p : Place) (text : String) : Except UsageError Gathered :=
  match p with
  | .rules => .ok { g with rules := g.rules ++ [text] }
  | .path => do return { g with path := some (← readPath text) }
  | .key => .ok { g with key := some text }
  | .value => .ok { g with value := some text }
  | .shell => do return { g with shell := some (← readShell text) }

/-- The switch of a flag is on. -/
def isRaised (g : Gathered) : Flag → Bool
  | .verbose => g.switches.verbose
  | .quiet => g.switches.quiet
  | .json => g.switches.json
  | .noColor => g.switches.noColor
  | .help => false
  | .version => false

/-- Turns the switch of a flag on. -/
def raise (g : Gathered) : Flag → Gathered
  | .verbose => { g with switches := { g.switches with verbose := true } }
  | .quiet => { g with switches := { g.switches with quiet := true } }
  | .json => { g with switches := { g.switches with json := true } }
  | .noColor => { g with switches := { g.switches with noColor := true } }
  | .help => g
  | .version => g

end Gathered

/-! ### One argument -/

/-- A failure of usage as a reason to stop. -/
def stop {α : Type} : Except UsageError α → Except Halt α
  | .ok a => .ok a
  | .error e => .error (.usage e)

/-- Accepts what is pending. -/
def settle (g : Gathered) : Option Pending → Except UsageError Gathered
  | none => .ok g
  | some (.awaiting _) => .error .badValue
  | some (.param p text) => g.setParam p text
  | some (.place p text) => g.setPlace p text

/-- The state with nothing pending. -/
def State.settled (s : State) : Except Halt State := do
  let g ← stop (settle s.gathered s.pending)
  return { s with gathered := g, pending := none }

/-- Accepts a flag. Help and version stop the reading, once what came before is accepted. -/
def State.raise (level : Level) (s : State) (f : Flag) : Except Halt State := do
  let s ← s.settled
  match f with
  | .help => .error (.help level)
  | .version => .error (.version level)
  | f =>
      if s.gathered.isRaised f then .error (.usage .conflict)
      else return { s with gathered := s.gathered.raise f }

/-- Accepts an option with the value that is joined to it. -/
def State.attach (s : State) (p : Param) (text : String) : Except Halt State := do
  let s ← s.settled
  let g ← stop (s.gathered.setParam p text)
  return { s with gathered := g }

/-- Takes an option whose value is the next argument. -/
def State.await (s : State) (p : Param) : Except Halt State := do
  let s ← s.settled
  return { s with pending := some (.awaiting p) }

/-- Options joined behind one dash. A letter that takes a value takes the rest of the argument,
with or without an equals sign, or the next argument. -/
def readShort (level : Level) (s : State) : List Char → Except Halt State
  | [] => .ok s
  | c :: cs =>
      match Flag.ofShort? c with
      | some f => do
          let s ← s.raise level f
          readShort level s cs
      | none =>
          match level.paramOfShort? c with
          | some p =>
              match cs with
              | [] => s.await p
              | '=' :: text => s.attach p (.ofList text)
              | text => s.attach p (.ofList text)
          | none => .error (.usage .unknownArgument)

/-- The name of an option behind two dashes, and the value joined to it by an equals sign. -/
def splitLong (cs : List Char) : String × Option String :=
  match cs.dropWhile (· != '=') with
  | _ :: value => (.ofList (cs.takeWhile (· != '=')), some (.ofList value))
  | [] => (.ofList cs, none)

/-- An option behind two dashes. -/
def readLong (level : Level) (s : State) (cs : List Char) : Except Halt State :=
  let (name, value) := splitLong cs
  match Flag.ofLong? name, value with
  | some f, none => s.raise level f
  | some _, some _ => .error (.usage .extraValue)
  | none, value =>
      match level.paramOfLong? name, value with
      | some p, some text => s.attach p text
      | some p, none => s.await p
      | none, _ => .error (.usage .unknownArgument)

/-- What is wrong with a plain argument for which there is no place. Behind the mark that ends the
options, the name of a command is none. -/
def surplusError (level : Level) (trailing : Bool) (arg : String) : UsageError :=
  if level.hasCommands && !(trailing && (level.next? arg).isSome) then .unknownCommand
  else .unknownArgument

/-- Takes a plain argument by its position. -/
def readPlace (level : Level) (s : State) (trailing : Bool) (arg : String) :
    Except Halt State :=
  match level.places[s.taken]? with
  | some .rules => do
      let s ← s.settled
      let g ← stop (s.gathered.setPlace .rules arg)
      return { s with gathered := g }
  | some p => do
      let s ← s.settled
      return { s with pending := some (.place p arg), taken := s.taken + 1 }
  | none => .error (.usage (surplusError level trailing arg))

/-- A plain argument: the value of the option that waits for it, or an argument by position. -/
def readPlain (level : Level) (s : State) (arg : String) : Except Halt State :=
  match s.pending with
  | some (.awaiting p) => .ok { s with pending := some (.param p arg) }
  | _ => readPlace level s false arg

/-- An argument that is not the name of a command and not the mark that ends the options. -/
def readArgument (level : Level) (s : State) (arg : String) : Except Halt State :=
  match arg.toList with
  | '-' :: '-' :: cs => readLong level s cs
  | '-' :: c :: cs => readShort level s (c :: cs)
  | _ => readPlain level s arg

/-! ### Whole levels -/

/-- The mark after which no argument is an option. -/
def endOfOptions : String := "--"

/-- The explanation that is wanted: that of the command which the names lead to. -/
def readHelp : Level → List String → Halt
  | level, [] => .help level
  | level, name :: names =>
      match level.next? name with
      | some (.level sub) => readHelp sub names
      | some .help => if names.isEmpty then .help level else .usage .unknownCommand
      | none => .usage .unknownCommand

/-- The options of a level do not exclude each other. -/
def checkConflicts (g : Gathered) : Except UsageError Unit :=
  if g.switches.quiet && g.switches.verbose then .error .conflict
  else if !g.rules.isEmpty && g.file.isSome then .error .conflict
  else .ok ()

/-- The command of a level, if no argument is missing. -/
def commandOf (level : Level) (g : Gathered) : Except UsageError (Option Command) :=
  match level with
  | .top => .ok none
  | .compile => .ok (some (.compile g.rules g.file g.page g.limit))
  | .validate => .ok (some (.validate g.rules g.file))
  | .request => .ok (some (.request g.path))
  | .vocabulary => .ok (some .vocabulary)
  | .config => .ok (some (.config none))
  | .configShow => .ok (some (.config (some .display)))
  | .configSet =>
      match g.key, g.value with
      | some key, some value => .ok (some (.config (some (.set key value))))
      | _, _ => .error .missingArgument
  | .configPath => .ok (some (.config (some .path)))
  | .completions =>
      match g.shell with
      | some shell => .ok (some (.completions shell))
      | none => .error .missingArgument

/-- The invocation of a level that is read to its end. -/
def complete (level : Level) (s : State) : Except Halt Invocation := do
  let s ← s.settled
  stop (checkConflicts s.gathered)
  let command ← stop (commandOf level s.gathered)
  return ⟨s.gathered.switches, command⟩

/-- The arguments of a level after the mark that ends the options. -/
def readTrailing (level : Level) (s : State) : List String → Except Halt Invocation
  | [] => complete level s
  | arg :: args => do
      let s ← readPlace level s true arg
      readTrailing level s args

/-- The arguments of a level. The levels further in are read to their end before this one is
completed; the command is theirs, and the switches of all levels count together. -/
def readLevel (level : Level) (s : State) : List String → Except Halt Invocation
  | [] => complete level s
  | arg :: args =>
      match level.next? arg with
      | some .help => .error (readHelp level args)
      | some (.level sub) => do
          let inner ← readLevel sub {} args
          let outer ← complete level s
          return ⟨outer.switches.or inner.switches, inner.command⟩
      | none =>
          if arg = endOfOptions then readTrailing level s args
          else do
            let s ← readArgument level s arg
            readLevel level s args

/-- The invocation that the arguments stand for. -/
def parse (args : List String) : Except Halt Invocation :=
  readLevel .top {} args

end CatalogFilter.CommandLine
