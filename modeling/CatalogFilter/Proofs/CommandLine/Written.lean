import CatalogFilter.Proofs.CommandLine.Arguments

/-!
# Invocations written as arguments

Every invocation can be written as a list of arguments: the switches that are on, the name of the
command, its options with their values joined to them, and behind the mark that ends the options
whatever the command takes by position. Such a list is read back as the invocation that was
written. Behind the mark nothing is taken for an option or for the name of a command.

* `CommandLine.Flag.Spells`, `CommandLine.Switches.Spells`: how switches may be written.
* `CommandLine.Command.arguments`: how a command is written.
* `CommandLine.Command.WellFormed`: the commands that can be asked for.
* `CommandLine.readLevel_switches`: written switches are read.
* `CommandLine.readLevel_arguments`: a written command is read.
* `CommandLine.parse_written`: a written invocation is read back.
-/

namespace CatalogFilter.CommandLine

/-! ### Written forms -/

/-- The word stands for the flag: its name behind two dashes, or its letter behind one. -/
inductive Flag.Spells (f : Flag) : String → Prop
  | long : Spells f ("--" ++ f.long)
  | short {c : Char} : f.short? = some c → Spells f (.ofList ['-', c])

namespace Switches

/-- The switch of a flag is on. Help and version are no switches. -/
def isOn (s : Switches) (f : Flag) : Bool :=
  Gathered.isRaised { switches := s } f

/-- The switches with that of a flag turned on. -/
def turnOn (s : Switches) (f : Flag) : Switches :=
  (Gathered.raise { switches := s } f).switches

/-- The words name every switch that is on once, in any order, by its name or its letter. -/
def Spells (s : Switches) (words : List String) : Prop :=
  ∃ flags : List Flag, flags.Nodup ∧ (∀ f, f ∈ flags ↔ s.isOn f) ∧
    List.Forall₂ Flag.Spells flags words

end Switches

/-- The argument that gives an option its value, if there is one. -/
def Param.given (p : Param) (value : Option String) : List String :=
  value.toList.map p.assignment

/-- The digits of a number, if there is one. -/
def countText (n : Option Nat) : Option String :=
  n.map fun n => .ofList (Numeral.print n)

namespace Command

/-- The arguments that ask for a command. -/
def arguments : Command → List String
  | .compile rules file page limit =>
      "compile" :: (Param.page.given (countText page) ++ (Param.limit.given (countText limit) ++
        (Param.file.given file ++ endOfOptions :: rules)))
  | .validate rules file => "validate" :: (Param.file.given file ++ endOfOptions :: rules)
  | .request path => "request" :: endOfOptions :: path.toList
  | .vocabulary => ["meta"]
  | .config none => ["config"]
  | .config (some .display) => ["config", "show"]
  | .config (some (.set key value)) => ["config", "set", endOfOptions, key, value]
  | .config (some .path) => ["config", "path"]
  | .completions shell => ["completions", endOfOptions, shell.name]

/-- Rules come from one source at most, and a file has a path. -/
def SourceFits (rules : List String) (file : Option String) : Prop :=
  (rules = [] ∨ file = none) ∧ ∀ path ∈ file, path ≠ ""

/-- The number of a page or of the items on one is positive and has 32 bits. -/
def CountFits (n : Option Nat) : Prop :=
  ∀ k ∈ n, 1 ≤ k ∧ k ≤ Numeral.maxWord

/-- The command can be asked for. -/
def WellFormed : Command → Prop
  | .compile rules file page limit => SourceFits rules file ∧ CountFits page ∧ CountFits limit
  | .validate rules file => SourceFits rules file
  | .request path => ∀ p ∈ path, p ≠ ""
  | _ => True

end Command

/-- The arguments that ask for the command of an invocation. -/
def Invocation.commandArguments (inv : Invocation) : List String :=
  match inv.command with
  | some c => c.arguments
  | none => []

/-! ### Switches -/

namespace Switches

theorem isOn_turnOn {f f' : Flag} (hne : f' ≠ f) (s : Switches) :
    (s.turnOn f).isOn f' = s.isOn f' := by
  cases f <;> cases f' <;> first | rfl | exact absurd rfl hne

theorem isOn_turnOn_self {s s' : Switches} {f : Flag} (h : s'.isOn f) : (s.turnOn f).isOn f := by
  cases f <;> first | rfl | cases h

theorem eq_of_isOn {s s' : Switches} (h : ∀ f, s.isOn f = s'.isOn f) : s = s' := by
  have hverbose : s.verbose = s'.verbose := h .verbose
  have hquiet : s.quiet = s'.quiet := h .quiet
  have hjson : s.json = s'.json := h .json
  have hcolor : s.noColor = s'.noColor := h .noColor
  cases s
  cases s'
  simp_all

/-- Flags that are turned on one after the other are on, and the others are as before. -/
theorem isOn_foldl_turnOn {s : Switches} (flags : List Flag) (hflags : ∀ f ∈ flags, s.isOn f)
    (s' : Switches) (f : Flag) :
    (flags.foldl turnOn s').isOn f = (decide (f ∈ flags) || s'.isOn f) := by
  induction flags generalizing s' with
  | nil => simp
  | cons g flags ih =>
    have htail := ih (fun f hf => hflags f (List.mem_cons_of_mem g hf)) (s'.turnOn g)
    rw [List.foldl_cons, htail]
    by_cases hfg : f = g
    · subst hfg
      simp [isOn_turnOn_self (hflags f List.mem_cons_self)]
    · simp [isOn_turnOn hfg, hfg]

theorem foldl_turnOn_eq {s : Switches} {flags : List Flag} (h : ∀ f, f ∈ flags ↔ s.isOn f) :
    flags.foldl turnOn {} = s := by
  refine eq_of_isOn fun f => ?_
  have hoff : Switches.isOn {} f = false := by cases f <;> rfl
  rw [isOn_foldl_turnOn flags fun f hf => (h f).mp hf, hoff, Bool.or_false]
  simp [h]

end Switches

/-- The letter of a flag is read behind a dash. -/
theorem readShort_flag (level : Level) (s : State) {f : Flag} {c : Char} (hc : f.short? = some c) :
    readShort level s [c] = s.raise level f := by
  have hf : Flag.ofShort? c = some f := by
    cases f <;> first | (obtain rfl := Option.some.inj hc; rfl) | cases hc
  rw [readShort, hf]
  cases h : s.raise level f <;> simp [h, readShort, bind, Except.bind]

/-- A flag is read however it is written. -/
theorem readArgument_flag (level : Level) (s : State) {f : Flag} {word : String}
    (h : f.Spells word) : readArgument level s word = s.raise level f := by
  cases h with
  | long => cases f <;> rfl
  | @short c hc =>
    rw [← readShort_flag level s hc, readArgument, String.toList_ofList]
    cases f <;> first | (obtain rfl := Option.some.inj hc; rfl) | cases hc

/-- A word for a flag is neither the name of a command nor the mark that ends the options. -/
theorem next?_flag (level : Level) {f : Flag} {word : String} (h : f.Spells word) :
    level.next? word = none ∧ word ≠ endOfOptions := by
  cases h with
  | long => cases f <;> cases level <;> decide
  | short hc =>
    cases f <;> first | (obtain rfl := Option.some.inj hc; cases level <;> decide) | cases hc

/-- A switch that is not on yet is turned on. -/
theorem readLevel_flag (level : Level) {s : Switches} {f : Flag} {word : String}
    (hword : f.Spells word) (hoff : s.isOn f = false) {s' : Switches} (hf : s'.isOn f)
    (args : List String) :
    readLevel level ⟨{ switches := s }, none, 0⟩ (word :: args) =
      readLevel level ⟨{ switches := s.turnOn f }, none, 0⟩ args := by
  have hraise : State.raise level ⟨{ switches := s }, none, 0⟩ f =
      .ok ⟨{ switches := s.turnOn f }, none, 0⟩ := by
    cases f with
    | help => cases hf
    | version => cases hf
    | _ =>
      simp only [Switches.isOn] at hoff
      simp [State.raise, State.settled, settle, stop, hoff, Switches.turnOn, Gathered.raise, bind,
        Except.bind, pure, Except.pure]
  obtain ⟨hnext, hmark⟩ := next?_flag level hword
  rw [readLevel, hnext]
  simp only [if_neg hmark, readArgument_flag level _ hword, hraise, bind, Except.bind]

/-- Switches are read however they are written. -/
theorem readLevel_switches (level : Level) {s : Switches} {words : List String}
    (h : s.Spells words) (args : List String) :
    readLevel level {} (words ++ args) = readLevel level ⟨{ switches := s }, none, 0⟩ args := by
  obtain ⟨flags, hnodup, hmem, hwords⟩ := h
  -- The switches that are on before a flag is read are those of the flags in front of it.
  have hall : ∀ s₀ : Switches, (∀ f ∈ flags, s₀.isOn f = false) →
      readLevel level ⟨{ switches := s₀ }, none, 0⟩ (words ++ args) =
        readLevel level ⟨{ switches := flags.foldl Switches.turnOn s₀ }, none, 0⟩ args := by
    have hon : ∀ f ∈ flags, s.isOn f := fun f hf => (hmem f).mp hf
    clear hmem
    induction hwords with
    | nil => exact fun _ _ => rfl
    | @cons f word flags words hword _ ih =>
      intro s₀ hoff
      rw [List.forall_mem_cons] at hon hoff
      rw [List.nodup_cons] at hnodup
      have hrest : ∀ f' ∈ flags, (s₀.turnOn f).isOn f' = false := by
        intro f' hf'
        have hne : f' ≠ f := by
          rintro rfl
          exact hnodup.1 hf'
        rw [Switches.isOn_turnOn hne, hoff.2 f' hf']
      rw [List.cons_append, readLevel_flag level hword hoff.1 hon.1,
        ih hnodup.2 hon.2 _ hrest, List.foldl_cons]
  rw [← Switches.foldl_turnOn_eq hmem]
  exact hall {} fun f _ => by cases f <;> rfl

/-! ### Commands -/

/-- An option with its value is taken, if it is given. -/
theorem readLevel_given {level : Level} (hlevel : level.hasCommands = false) {g g' : Gathered}
    {p : Param} (hp : p ∈ level.params) {value : Option String}
    (h : value.elim (.ok g) (g.setParam p) = .ok g') (args : List String) :
    readLevel level ⟨g, none, 0⟩ (p.given value ++ args) = readLevel level ⟨g', none, 0⟩ args := by
  cases value with
  | none =>
    obtain rfl : g = g' := Except.ok.inj h
    rfl
  | some text => exact readLevel_assignment hlevel hp h args

/-- Nothing behind the mark is taken for an option or for the name of a command. -/
theorem readLevel_endOfOptions {level : Level} (s : State) (args : List String) :
    readLevel level s (endOfOptions :: args) = readTrailing level s args := by
  have hnext : level.next? endOfOptions = none := by cases level <;> decide
  rw [readLevel, hnext]
  exact if_pos rfl

theorem checkConflicts_switches {switches : Switches}
    (h : ¬ (switches.quiet ∧ switches.verbose)) : checkConflicts { switches } = .ok () := by
  simpa [checkConflicts] using h

/-- A level that leads to others needs no arguments of its own. -/
theorem exists_commandOf {level : Level} (hlevel : level.hasCommands) :
    ∃ c, ∀ g, commandOf level g = .ok c := by
  cases level with
  | top => exact ⟨_, fun _ => rfl⟩
  | config => exact ⟨_, fun _ => rfl⟩
  | _ => cases hlevel

/-- The name of a command leads to its level, whose command is that of the invocation. -/
theorem readLevel_name {level sub : Level} {name : String}
    (hname : level.next? name = some (.level sub)) {switches : Switches}
    (hswitches : ¬ (switches.quiet ∧ switches.verbose)) {args : List String} {c : Option Command}
    (hargs : readLevel sub {} args = .ok ⟨{}, c⟩) :
    readLevel level ⟨{ switches }, none, 0⟩ (name :: args) = .ok ⟨switches, c⟩ := by
  have hlevel : level.hasCommands := by
    by_contra hno
    rw [next?_eq_none (by simpa using hno)] at hname
    cases hname
  obtain ⟨outer, houter⟩ := exists_commandOf hlevel
  have hcomplete := complete_of_ok (checkConflicts_switches hswitches) (houter { switches })
  have hor : switches.or {} = switches := by simp [Switches.or]
  rw [readLevel, hname]
  simp only [hargs, hcomplete, bind, Except.bind, pure, Except.pure, hor]

/-- Lines of rules behind the mark are read, with the options in front of it. -/
theorem readLevel_rules {level : Level} (hplaces : level.places = [.rules]) {g : Gathered}
    (hswitches : g.switches = {}) (hrules : g.rules = []) {rules : List String}
    (hsource : Command.SourceFits rules g.file) {c : Option Command}
    (hc : commandOf level { g with rules } = .ok c) :
    readLevel level ⟨g, none, 0⟩ (endOfOptions :: rules) = .ok ⟨{}, c⟩ := by
  have hconflicts : checkConflicts { g with rules } = .ok () := by
    rcases hsource.1 with rfl | hfile
    · simp [checkConflicts, hswitches]
    · simp [checkConflicts, hswitches, hfile]
  rw [readLevel_endOfOptions, readTrailing_rules hplaces, hrules, List.nil_append,
    complete_of_ok hconflicts hc, hswitches]

theorem setParam_file {g : Gathered} (hg : g.file = none) {file : Option String}
    (hfile : ∀ path ∈ file, path ≠ "") :
    file.elim (.ok g) (g.setParam .file) = .ok { g with file } := by
  cases file with
  | none => cases g; cases hg; rfl
  | some path =>
    have hne : path.isEmpty = false := by simpa using hfile path rfl
    simp [Gathered.setParam, hg, once, readPath, hne, bind, Except.bind, pure, Except.pure]

theorem setParam_page {g : Gathered} (hg : g.page = none) {page : Option Nat}
    (hpage : Command.CountFits page) :
    (countText page).elim (.ok g) (g.setParam .page) = .ok { g with page } := by
  cases page with
  | none => cases g; cases hg; rfl
  | some n =>
    have hn := hpage n rfl
    simp [countText, Gathered.setParam, hg, once, readCount_print hn.1 hn.2, bind, Except.bind,
      pure, Except.pure]

theorem setParam_limit {g : Gathered} (hg : g.limit = none) {limit : Option Nat}
    (hlimit : Command.CountFits limit) :
    (countText limit).elim (.ok g) (g.setParam .limit) = .ok { g with limit } := by
  cases limit with
  | none => cases g; cases hg; rfl
  | some n =>
    have hn := hlimit n rfl
    simp [countText, Gathered.setParam, hg, once, readCount_print hn.1 hn.2, bind, Except.bind,
      pure, Except.pure]

/-- The arguments of the command that turns rules into a filter are read. -/
theorem readLevel_compile {rules : List String} {file : Option String} {page limit : Option Nat}
    (hc : (Command.compile rules file page limit).WellFormed) :
    readLevel .compile {} (Param.page.given (countText page) ++
      (Param.limit.given (countText limit) ++ (Param.file.given file ++ endOfOptions :: rules))) =
        .ok ⟨{}, some (.compile rules file page limit)⟩ := by
  obtain ⟨hsource, hpage, hlimit⟩ := hc
  have hcompile : Level.compile.hasCommands = false := rfl
  have hparams : ∀ p, p ∈ Level.compile.params := by
    intro p
    cases p <;> decide
  have hfirst := setParam_page (g := {}) rfl hpage
  have hsecond := setParam_limit (g := { page }) rfl hlimit
  have hthird := setParam_file (g := { page, limit }) rfl hsource.2
  calc
    _ = readLevel .compile ⟨{ page }, none, 0⟩ _ := readLevel_given hcompile (hparams _) hfirst _
    _ = readLevel .compile ⟨{ page, limit }, none, 0⟩ _ :=
      readLevel_given hcompile (hparams _) hsecond _
    _ = readLevel .compile ⟨{ page, limit, file }, none, 0⟩ _ :=
      readLevel_given hcompile (hparams _) hthird _
    _ = _ := readLevel_rules rfl rfl rfl hsource rfl

/-- The arguments of the command that checks rules are read. -/
theorem readLevel_validate {rules : List String} {file : Option String}
    (hc : (Command.validate rules file).WellFormed) :
    readLevel .validate {} (Param.file.given file ++ endOfOptions :: rules) =
      .ok ⟨{}, some (.validate rules file)⟩ := by
  have hsource : Command.SourceFits rules file := hc
  have hfile := setParam_file (g := {}) rfl hsource.2
  calc
    _ = readLevel .validate ⟨{ file }, none, 0⟩ _ := readLevel_given rfl (by decide) hfile _
    _ = _ := readLevel_rules rfl rfl rfl hsource rfl

theorem readLevel_request {path : Option String} (hc : (Command.request path).WellFormed) :
    readLevel .request {} (endOfOptions :: path.toList) = .ok ⟨{}, some (.request path)⟩ := by
  rw [readLevel_endOfOptions]
  cases path with
  | none => rfl
  | some p =>
    have hne : p.isEmpty = false := by simpa using hc p rfl
    have hplace : Gathered.setPlace {} .path p = .ok { path := some p } := by
      simp [Gathered.setPlace, readPath, hne, bind, Except.bind, pure, Except.pure]
    have hread : readPlace .request {} true p = .ok ⟨{}, some (.place .path p), 1⟩ := rfl
    simp [readTrailing, hread, complete, State.settled, settle, hplace, stop, checkConflicts,
      commandOf, bind, Except.bind, pure, Except.pure]

theorem readLevel_config {c : Option ConfigCommand} :
    readLevel .config {} (Command.config c).arguments.tail = .ok ⟨{}, some (.config c)⟩ := by
  cases c with
  | none => rfl
  | some c => cases c <;> rfl

theorem readLevel_completions (shell : Shell) :
    readLevel .completions {} [endOfOptions, shell.name] = .ok ⟨{}, some (.completions shell)⟩ := by
  cases shell <;> rfl

/-- A written command is read, whatever switches are in front of it. -/
theorem readLevel_arguments {c : Command} (hc : c.WellFormed) {switches : Switches}
    (hswitches : ¬ (switches.quiet ∧ switches.verbose)) :
    readLevel .top ⟨{ switches }, none, 0⟩ c.arguments = .ok ⟨switches, some c⟩ := by
  cases c with
  | compile => exact readLevel_name rfl hswitches (readLevel_compile hc)
  | validate => exact readLevel_name rfl hswitches (readLevel_validate hc)
  | request => exact readLevel_name rfl hswitches (readLevel_request hc)
  | vocabulary => exact readLevel_name rfl hswitches rfl
  | config c =>
    have hargs : (Command.config c).arguments = "config" :: (Command.config c).arguments.tail := by
      cases c with
      | none => rfl
      | some c => cases c <;> rfl
    rw [hargs]
    exact readLevel_name rfl hswitches readLevel_config
  | completions shell => exact readLevel_name rfl hswitches (readLevel_completions shell)

/-! ### Whole invocations -/

/-- **Every invocation can be written, and is read back as it was.** The switches that are on come
first, each written once, in any order, by its name or its letter; then the command, whose options
have their values joined to them and whose other arguments stand behind the mark that ends the
options. No argument is lost, moved, divided or taken for an option, whatever it looks like. -/
theorem parse_written (inv : Invocation)
    (hswitches : ¬ (inv.switches.quiet ∧ inv.switches.verbose))
    (hcommand : ∀ c ∈ inv.command, c.WellFormed) {words : List String}
    (hwords : inv.switches.Spells words) :
    parse (words ++ inv.commandArguments) = .ok inv := by
  obtain ⟨switches, command⟩ := inv
  rw [parse, readLevel_switches .top hwords]
  cases command with
  | none => exact complete_of_ok (checkConflicts_switches hswitches) rfl
  | some c => exact readLevel_arguments (hcommand c rfl) hswitches

theorem parse_written_hostile :
    parse ["-q", "--json", "compile", "--page=4294967295", "--", "", "--limit=1", "-q", "--",
        "meta"] =
      .ok ⟨{ quiet := true, json := true },
        some (.compile ["", "--limit=1", "-q", "--", "meta"] none (some 4294967295) none)⟩ := by
  have hwords : Switches.Spells { quiet := true, json := true } ["-q", "--json"] := by
    refine ⟨[.quiet, .json], by decide, ?_, .cons (.short rfl) (.cons .long .nil)⟩
    intro f
    cases f <;> decide
  have hcommand : (Command.compile ["", "--limit=1", "-q", "--", "meta"] none (some 4294967295)
      none).WellFormed := by
    simp [Command.WellFormed, Command.SourceFits, Command.CountFits, Numeral.maxWord]
  exact parse_written ⟨{ quiet := true, json := true }, _⟩ (by decide)
    (fun c hc => Option.some.inj hc ▸ hcommand) hwords

end CatalogFilter.CommandLine
