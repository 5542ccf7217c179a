import CatalogFilter.CommandLine.Parse
import CatalogFilter.Proofs.Number.Numerals

/-!
# Arguments that are understood

How the arguments of a command are read: a switch in front of the command or behind it, options with
their values joined to them, and lines of rules behind the mark that ends the options.

* `CommandLine.Source`: the three ways to give rules, with their arguments.
* `CommandLine.arguments`: a command with a switch and its arguments.
* `CommandLine.readLevel_assignment`: an option with its value is taken.
* `CommandLine.readTrailing_rules`: everything behind the mark is a line of rules.
* `CommandLine.parse_arguments_compile`, `CommandLine.parse_arguments_validate`,
  `CommandLine.parse_arguments_request`: the invocations of three commands.
-/

namespace CatalogFilter.CommandLine

/-- The switch that asks for JSON, if it is given. -/
def jsonSwitch (json : Bool) : List String :=
  if json then ["--json"] else []

/-- A command with its arguments. JSON may be asked for in front of the command and behind it. -/
def arguments (outer inner : Bool) (command : String) (args : List String) : List String :=
  jsonSwitch outer ++ command :: (jsonSwitch inner ++ args)

/-- An option with its value joined to it. -/
def Param.assignment (p : Param) (value : String) : String :=
  "--" ++ p.long ++ "=" ++ value

/-- The options for a page and the number of items on it. -/
def pageOptions (page limit : Nat) : List String :=
  ["--page=" ++ .ofList (Numeral.print page), "--limit=" ++ .ofList (Numeral.print limit)]

/-- Where rules come from. -/
inductive Source where
  /-- They are given as arguments, a line in each. -/
  | lines (ls : List String)
  /-- They stand in a file. -/
  | file (path : String)
  /-- They come from the standard input. -/
  | input

namespace Source

/-- The arguments that name the source. -/
def args : Source → List String
  | .lines ls => "--" :: ls
  | .file path => ["--file=" ++ path]
  | .input => []

/-- The lines of rules among the arguments. -/
def rules : Source → List String
  | .lines ls => ls
  | _ => []

/-- The path of the file. -/
def path? : Source → Option String
  | .file path => some path
  | _ => none

end Source

/-! ### One argument -/

/-- The value of an option starts behind the first equals sign. -/
theorem splitLong_append {name : List Char} (hname : '=' ∉ name) (value : List Char) :
    splitLong (name ++ '=' :: value) = (.ofList name, some (.ofList value)) := by
  have hne : ∀ c ∈ name, (c != '=') = true := by
    intro c hc
    simp only [bne_iff_ne]
    rintro rfl
    exact hname hc
  rw [splitLong, List.dropWhile_append_of_pos hne, List.takeWhile_append_of_pos hne]
  simp

theorem paramOfLong?_long {level : Level} {p : Param} (hp : p ∈ level.params) :
    level.paramOfLong? p.long = some p := by
  cases level <;> cases p <;> first | rfl | simp [Level.params] at hp

theorem ofLong?_param (p : Param) : Flag.ofLong? p.long = none := by
  cases p <;> rfl

theorem toList_assignment (p : Param) (value : String) :
    (p.assignment value).toList = '-' :: '-' :: (p.long.toList ++ '=' :: value.toList) := by
  simp [Param.assignment]

theorem readArgument_assignment {level : Level} (s : State) {p : Param} (hp : p ∈ level.params)
    (value : String) : readArgument level s (p.assignment value) = s.attach p value := by
  have hname : '=' ∉ p.long.toList := by cases p <;> decide
  rw [readArgument, toList_assignment]
  simp only [readLong, splitLong_append hname, String.ofList_toList, ofLong?_param,
    paramOfLong?_long hp]

theorem next?_eq_none {level : Level} (hlevel : level.hasCommands = false) (name : String) :
    level.next? name = none := by
  have hcommands : level.commands = [] := by simpa [Level.hasCommands] using hlevel
  simp [Level.next?, hlevel, hcommands]

/-- An option with its value is taken. -/
theorem readLevel_assignment {level : Level} (hlevel : level.hasCommands = false) {g g' : Gathered}
    {p : Param} (hp : p ∈ level.params) {value : String} (h : g.setParam p value = .ok g')
    (args : List String) :
    readLevel level ⟨g, none, 0⟩ (p.assignment value :: args) =
      readLevel level ⟨g', none, 0⟩ args := by
  have hmark : p.assignment value ≠ endOfOptions := by
    intro heq
    have hlist := congrArg String.toList heq
    rw [toList_assignment] at hlist
    simp [endOfOptions] at hlist
  have hattach : State.attach ⟨g, none, 0⟩ p value = .ok ⟨g', none, 0⟩ := by
    simp only [State.attach, State.settled, settle, stop, h, bind, Except.bind, pure, Except.pure]
  rw [readLevel, next?_eq_none hlevel]
  simp only [if_neg hmark, readArgument_assignment _ hp, hattach, bind, Except.bind]

theorem readCount_print {n : Nat} (hpos : 1 ≤ n) (hn : n ≤ Numeral.maxWord) :
    readCount (.ofList (Numeral.print n)) = .ok n := by
  rw [readCount, String.toList_ofList, Numeral.readPositive?_print hpos hn]

/-- The switch for JSON is taken at every level. -/
theorem readLevel_jsonSwitch (level : Level) (json : Bool) (args : List String) :
    readLevel level {} (jsonSwitch json ++ args) =
      readLevel level ⟨{ switches := { json } }, none, 0⟩ args := by
  cases json with
  | false => rfl
  | true => cases level <;> rfl

/-- Everything behind the mark that ends the options is a line of rules. -/
theorem readTrailing_rules {level : Level} (hlevel : level.places = [.rules]) (g : Gathered)
    (args : List String) :
    readTrailing level ⟨g, none, 0⟩ args =
      complete level ⟨{ g with rules := g.rules ++ args }, none, 0⟩ := by
  induction args generalizing g with
  | nil => rw [readTrailing, List.append_nil]
  | cons arg args ih =>
    have hplace : readPlace level ⟨g, none, 0⟩ true arg =
        .ok ⟨{ g with rules := g.rules ++ [arg] }, none, 0⟩ := by
      simp only [readPlace, hlevel]
      rfl
    rw [readTrailing, hplace]
    simpa [bind, Except.bind] using ih { g with rules := g.rules ++ [arg] }

/-! ### Options and sources -/

/-- The options for the page are taken. -/
theorem readLevel_pageOptions {switches : Switches} {page limit : Nat}
    (hpage : 1 ≤ page ∧ page ≤ Numeral.maxWord) (hlimit : 1 ≤ limit ∧ limit ≤ Numeral.maxWord)
    (args : List String) :
    readLevel .compile ⟨{ switches }, none, 0⟩ (pageOptions page limit ++ args) =
      readLevel .compile ⟨{ switches, page := some page, limit := some limit }, none, 0⟩ args := by
  have hpages : Gathered.setParam { switches } .page (.ofList (Numeral.print page)) =
      .ok { switches, page := some page } := by
    simp only [Gathered.setParam, once, readCount_print hpage.1 hpage.2, bind, Except.bind, pure,
      Except.pure]
  have hlimits : Gathered.setParam { switches, page := some page } .limit
      (.ofList (Numeral.print limit)) =
        .ok { switches, page := some page, limit := some limit } := by
    simp only [Gathered.setParam, once, readCount_print hlimit.1 hlimit.2, bind, Except.bind, pure,
      Except.pure]
  have hcompile : Level.compile.hasCommands = false := rfl
  have hfirst := readLevel_assignment hcompile (by simp [Level.params]) hpages
  have hsecond := readLevel_assignment hcompile (by simp [Level.params]) hlimits
  exact (hfirst _).trans (hsecond args)

/-- The source of rules is taken. -/
theorem readLevel_source {level : Level} (hlevel : level.hasCommands = false)
    (hplaces : level.places = [.rules]) (hparams : .file ∈ level.params) (switches : Switches)
    (page limit : Option Nat) (source : Source) (hpath : ∀ path ∈ source.path?, path ≠ "") :
    readLevel level ⟨{ switches, page, limit }, none, 0⟩ source.args =
      complete level
        ⟨{ switches, page, limit, rules := source.rules, file := source.path? }, none, 0⟩ := by
  cases source with
  | lines ls =>
    rw [Source.args, readLevel, next?_eq_none hlevel]
    exact (if_pos rfl).trans (readTrailing_rules hplaces _ ls)
  | file path =>
    have hne : path.isEmpty = false := by simpa using hpath path rfl
    refine (readLevel_assignment hlevel hparams ?_ []).trans rfl
    simp only [Gathered.setParam, once, readPath, hne, bind, Except.bind, pure, Except.pure]
    rfl
  | input => rfl

/-- A source does not stand against itself. -/
theorem checkConflicts_source (json : Bool) (page limit : Option Nat) (source : Source) :
    checkConflicts
      { switches := { json }, page, limit, rules := source.rules, file := source.path? } =
        .ok () := by
  cases source <;> simp [checkConflicts, Source.rules, Source.path?]

/-! ### Whole command lines -/

theorem complete_of_ok {level : Level} {g : Gathered} {c : Option Command}
    (hconflicts : checkConflicts g = .ok ()) (hc : commandOf level g = .ok c) :
    complete level ⟨g, none, 0⟩ = .ok ⟨g.switches, c⟩ := by
  simp only [complete, State.settled, settle, stop, hconflicts, hc, bind, Except.bind, pure,
    Except.pure]

/-- The invocation of a command: JSON is wanted if it is asked for in one of the two places. -/
theorem parse_arguments {level : Level} {command : String}
    (hcommand : Level.top.next? command = some (.level level)) (outer inner : Bool)
    {args : List String} {c : Option Command}
    (h : readLevel level ⟨{ switches := { json := inner } }, none, 0⟩ args =
      .ok ⟨{ json := inner }, c⟩) :
    parse (arguments outer inner command args) = .ok ⟨{ json := outer || inner }, c⟩ := by
  rw [parse, arguments, readLevel_jsonSwitch, readLevel, hcommand]
  simp only [readLevel_jsonSwitch, h, bind, Except.bind]
  rfl

theorem parse_arguments_compile (outer inner : Bool) {page limit : Nat}
    (hpage : 1 ≤ page ∧ page ≤ Numeral.maxWord) (hlimit : 1 ≤ limit ∧ limit ≤ Numeral.maxWord)
    (source : Source) (hpath : ∀ path ∈ source.path?, path ≠ "") :
    parse (arguments outer inner "compile" (pageOptions page limit ++ source.args)) =
      .ok ⟨{ json := outer || inner },
        some (.compile source.rules source.path? (some page) (some limit))⟩ := by
  refine parse_arguments rfl outer inner ?_
  rw [readLevel_pageOptions hpage hlimit,
    readLevel_source rfl rfl (by simp [Level.params]) _ _ _ source hpath]
  exact complete_of_ok (checkConflicts_source inner _ _ source) rfl

theorem parse_arguments_validate (outer inner : Bool) (source : Source)
    (hpath : ∀ path ∈ source.path?, path ≠ "") :
    parse (arguments outer inner "validate" source.args) =
      .ok ⟨{ json := outer || inner }, some (.validate source.rules source.path?)⟩ := by
  refine parse_arguments rfl outer inner ?_
  rw [readLevel_source rfl rfl (by simp [Level.params]) _ none none source hpath]
  exact complete_of_ok (checkConflicts_source inner _ _ source) rfl

theorem parse_arguments_request (outer inner : Bool) :
    parse (arguments outer inner "request" []) =
      .ok ⟨{ json := outer || inner }, some (.request none)⟩ :=
  parse_arguments rfl outer inner (complete_of_ok rfl rfl)

end CatalogFilter.CommandLine
