import CatalogFilter.Proofs.Json.Documents
import CatalogFilter.Proofs.Program.Effects

/-!
# Runs that fail

A run that fails has printed nothing and leaves every file as it was. Its exit code tells what went
wrong, and if JSON is wanted the error stream holds one document with the code of the failure. A run
that succeeds leaves the error stream empty, and it changes at most the file of the settings, and
that only to set one of them.

* `Log.WellFormed`: a text gives a filter for the log without faults.
* `Program.CommandFails`, `Program.Fails`: why a command and an invocation fail.
* `Program.result_execute_eq_error_iff`: they fail for these reasons only.
* `Program.execute_cases`, `Program.exists_effect_of_fails`: what an invocation prints and changes,
  and that one that fails has done neither.
* `Program.RunEnds`: how a run ends.
* `Program.Orderly`, `Program.orderly_run`: what is known of the outcome of a run.
-/

namespace CatalogFilter

/-! ### Filters for the log -/

/-- Every part of the text is a directive, if it is not empty. -/
def Log.WellFormed (s : String) : Prop :=
  ∀ part ∈ s.toList.splitOn ',', part ≠ [] → ∃ d, Log.Directive.read part = .ok d

/-- A filter without faults gives no reason to complain. -/
theorem Log.complaints_eq_nil {s : String} (h : Log.WellFormed s) : Log.complaints s = [] := by
  rw [complaints, readDirectives, List.filterMap_eq_nil_iff]
  intro entry hentry
  obtain ⟨part, hpart, rfl⟩ := List.mem_map.mp hentry
  obtain ⟨hmem, hne⟩ := List.mem_filter.mp hpart
  obtain ⟨d, hd⟩ := h part hmem (by simpa using hne)
  rw [hd]

/-- The source from which a command reads a text. -/
def CommandLine.Command.source? : Command → Option Source
  | .compile rules file _ _ => some (.of rules file)
  | .validate rules file => some (.of rules file)
  | .request path => some (.of [] path)
  | _ => none

/-- What the command reads are rules. -/
def CommandLine.Command.takesRules : Command → Bool
  | .compile .. => true
  | .validate .. => true
  | _ => false

namespace Program

open CommandLine
open CatalogFilter.Program.Action
open Except

/-! ### Causes -/

/-- Why a command fails that finds the settings `s` at `path`. -/
inductive CommandFails (w : Surroundings) (d : Disk) (path : String) (s : Settings) :
    Command → Failure → Prop
  /-- A file with rules or a request cannot be read. -/
  | file {c : Command} {file : String} {e : Disk.Error} : c.source? = some (.file file) →
      d.readText file = .error e → CommandFails w d path s c (.input file e)
  /-- The standard input is no text. -/
  | input {c : Command} {e : Disk.Error} : c.source? = some .input →
      Disk.decodeText w.input = .error e → CommandFails w d path s c (.stream e)
  /-- Rules are refused. -/
  | rules {c : Command} {source : Source} {text : String} {e : RuleError} : c.takesRules →
      c.source? = some source → source.read w d = .ok text → Compiled.ofText text = .error e →
      CommandFails w d path s c (.rules e)
  /-- A request is not the JSON that is wanted. -/
  | body {file : Option String} {text : String} {e : Json.ReadError} :
      (Source.of [] file).read w d = .ok text → Request.ofJsonText text = .error e →
      CommandFails w d path s (.request file) (.json e.message)
  /-- The rules of a request are refused. -/
  | request {file : Option String} {text : String} {r : Request} {e : RuleError} :
      (Source.of [] file).read w d = .ok text → Request.ofJsonText text = .ok r →
      r.evaluate = .error e → CommandFails w d path s (.request file) (.rules e)
  /-- A setting cannot be changed. -/
  | set {key value : String} {d' : Disk} {e : Settings.Error} :
      ChangeEnds d path s key value d' (some e) →
      CommandFails w d path s (.config (some (.set key value))) (.settings e)

/-- Why an invocation fails. -/
inductive Fails (w : Surroundings) (d : Disk) (inv : Invocation) : Failure → Prop
  /-- There is no place for the settings. -/
  | location {e : Settings.Error} : Settings.location w.env = .error e →
      Fails w d inv (.settings e)
  /-- The settings cannot be loaded. -/
  | load {path : String} {e : Settings.Error} : Settings.location w.env = .ok path →
      Settings.load d path = .error e → Fails w d inv (.settings e)
  /-- The command fails. -/
  | command {path : String} {s : Settings} {c : Command} {f : Failure} : Loads w.env d path s →
      inv.command = some c → CommandFails w d path s c f → Fails w d inv f

/-! ### Failing results -/

theorem read_file {w : Surroundings} {d : Disk} {path : String} {e : Disk.Error}
    (h : d.readText path = .error e) : (Source.file path).read w d = .error (.input path e) := by
  rw [Source.read, h]
  rfl

theorem read_input {w : Surroundings} {d : Disk} {e : Disk.Error}
    (h : Disk.decodeText w.input = .error e) : Source.input.read w d = .error (.stream e) := by
  rw [Source.read, h]
  rfl

section Command

variable {w : Surroundings} {d : Disk} {path : String} {s : Settings} {f : Failure}

/-- A command whose source has no text fails. -/
theorem commandFails_of_read {c : Command} {source : Source} (hc : c.source? = some source)
    (h : source.read w d = .error f) : CommandFails w d path s c f := by
  cases source with
  | lines ls => cases h
  | file file =>
    obtain ⟨e, he, rfl⟩ := mapError_eq_error_iff.mp h
    exact .file hc he
  | input =>
    obtain ⟨e, he, rfl⟩ := mapError_eq_error_iff.mp h
    exact .input hc he

/-- The two commands that read rules fail for the same reasons. -/
theorem read_rules_eq_error_iff {c : Command} {source : Source} (hrules : c.takesRules)
    (hsource : c.source? = some source) {words : Compiled → String} :
    ((source.read w d).bind fun text =>
      ((Compiled.ofText text).mapError Failure.rules).map words) = .error f ↔
    CommandFails w d path s c f := by
  simp only [bind_eq_error_iff, map_eq_error_iff, mapError_eq_error_iff]
  constructor
  · rintro (h | ⟨text, htext, e, he, rfl⟩)
    · exact commandFails_of_read hsource h
    · exact .rules hrules hsource htext he
  · intro h
    cases h with
    | file h he => exact .inl (Option.some.inj (hsource.symm.trans h) ▸ read_file he)
    | input h he => exact .inl (Option.some.inj (hsource.symm.trans h) ▸ read_input he)
    | rules _ h htext he =>
      obtain rfl := Option.some.inj (hsource.symm.trans h)
      exact .inr ⟨_, htext, _, he, rfl⟩
    | body => cases hrules
    | request => cases hrules
    | set => cases hrules

theorem result_request_eq_error_iff {ctx : Context} {file : Option String} :
    (request w ctx file d).result = .error f ↔ CommandFails w d path s (.request file) f := by
  rw [← printed_eq_error_iff, printed_request_eq]
  simp only [bind_eq_error_iff, map_eq_error_iff, mapError_eq_error_iff, mapError_eq_ok_iff]
  constructor
  · rintro (h | ⟨text, htext, ⟨e, he, rfl⟩ | ⟨r, hr, e, he, rfl⟩⟩)
    · exact commandFails_of_read rfl h
    · exact .body htext he
    · exact .request htext hr he
  · intro h
    cases h with
    | file hsource he => exact .inl (Option.some.inj hsource ▸ read_file he)
    | input hsource he => exact .inl (Option.some.inj hsource ▸ read_input he)
    | rules hrules => cases hrules
    | body htext he => exact .inr ⟨_, htext, .inl ⟨_, he, rfl⟩⟩
    | request htext hr he => exact .inr ⟨_, htext, .inr ⟨_, hr, _, he, rfl⟩⟩

theorem result_changeSetting_eq_error_iff (hload : Loads w.env d path s) {ctx : Context}
    {key value : String} :
    (changeSetting w ctx key value d).result = .error f ↔
      CommandFails w d path s (.config (some (.set key value))) f := by
  have hresult : ∀ {d' : Disk} {e : Option Settings.Error}, ChangeEnds d path s key value d' e →
      (changeSetting w ctx key value d).result = (changeEffect ctx path key value d' e).1 :=
    fun h => congrArg Prod.fst (effect_changeSetting hload h ctx)
  constructor
  · intro h
    obtain ⟨d', e, hends⟩ := exists_changeEnds d path s key value
    rw [hresult hends] at h
    cases e with
    | none => cases h
    | some e =>
      obtain rfl := Except.error.inj h
      exact .set hends
  · intro h
    cases h with
    | file hsource => cases hsource
    | input hsource => cases hsource
    | rules hrules => cases hrules
    | set hends => exact hresult hends

/-- The other commands succeed, and there is no reason for them to fail. -/
theorem eq_error_iff_of_ok {c : Command} (hsource : c.source? = none)
    (hset : ∀ key value, c ≠ .config (some (.set key value))) {result : Except Failure Unit}
    (hresult : result = .ok ()) : result = .error f ↔ CommandFails w d path s c f := by
  subst hresult
  refine iff_of_false nofun fun h => ?_
  cases h with
  | file h => cases hsource.symm.trans h
  | input h => cases hsource.symm.trans h
  | rules _ h => cases hsource.symm.trans h
  | body => cases hsource
  | request => cases hsource
  | set => exact hset _ _ rfl

theorem result_perform_eq_error_iff (hload : Loads w.env d path s) {ctx : Context} {c : Command} :
    (perform w ctx (some c) d).result = .error f ↔ CommandFails w d path s c f := by
  cases c with
  | compile rules file page limit =>
    rw [perform, ← printed_eq_error_iff, printed_compile_eq]
    exact read_rules_eq_error_iff rfl rfl
  | validate rules file =>
    rw [perform, ← printed_eq_error_iff, printed_validate_eq]
    exact read_rules_eq_error_iff rfl rfl
  | request file => exact result_request_eq_error_iff
  | vocabulary => exact eq_error_iff_of_ok rfl (by simp) rfl
  | completions shell => exact eq_error_iff_of_ok rfl (by simp) rfl
  | config c =>
    -- The path of the settings is there, and no more is needed to show them.
    have hpath := hload.effect_settingsPath
    cases c with
    | none => exact eq_error_iff_of_ok rfl (by simp) (congrArg Prod.fst (effect_bind_of_ok hpath))
    | some c =>
      cases c with
      | set key value => exact result_changeSetting_eq_error_iff hload
      | display =>
        exact eq_error_iff_of_ok rfl (by simp) (congrArg Prod.fst (effect_bind_of_ok hpath))
      | path =>
        exact eq_error_iff_of_ok rfl (by simp) (congrArg Prod.fst (effect_bind_of_ok hpath))

end Command

/-- An invocation fails for the reasons that are given and for no others. -/
theorem result_execute_eq_error_iff {w : Surroundings} {d : Disk} {inv : Invocation}
    {f : Failure} : (execute w inv d).result = .error f ↔ Fails w d inv f := by
  rw [execute, (readsOnly_loadSettings w).result_bind, result_loadSettings]
  simp only [bind_eq_error_iff, bind_eq_ok_iff, mapError_eq_error_iff, mapError_eq_ok_iff]
  constructor
  · rintro ((⟨e, he, rfl⟩ | ⟨path, hpath, e, he, rfl⟩) | ⟨s, ⟨path, hpath, hs⟩, h⟩)
    · exact .location he
    · exact .load hpath he
    · cases hcommand : inv.command with
      | none =>
        rw [hcommand] at h
        cases h
      | some c =>
        rw [hcommand, result_perform_eq_error_iff ⟨hpath, hs⟩] at h
        exact .command ⟨hpath, hs⟩ hcommand h
  · intro h
    cases h with
    | location he => exact .inl (.inl ⟨_, he, rfl⟩)
    | load hpath he => exact .inl (.inr ⟨_, hpath, _, he, rfl⟩)
    | command hload hcommand h =>
      refine .inr ⟨_, ⟨_, hload.location, hload.load⟩, ?_⟩
      rw [hcommand]
      exact (result_perform_eq_error_iff hload).mpr h

/-! ### What is printed, and what happens to the files -/

/-- Settings that are loaded are those at their path. -/
theorem exists_loads {w : Surroundings} {d : Disk} {s : Settings}
    (h : (loadSettings w d).result = .ok s) : ∃ path, Loads w.env d path s := by
  rw [result_loadSettings] at h
  simp only [bind_eq_ok_iff, mapError_eq_ok_iff] at h
  obtain ⟨path, hpath, hs⟩ := h
  exact ⟨path, hpath, hs⟩

/-- An invocation leaves the disk as it is and prints nothing before it fails, or it changes a
setting. -/
theorem execute_cases (w : Surroundings) (d : Disk) (inv : Invocation) :
    ((execute w inv d).disk = d ∧
      ∀ f, (execute w inv d).result = .error f → (execute w inv d).output = "") ∨
    ∃ key value path s d' e, inv.command = some (.config (some (.set key value))) ∧
      Loads w.env d path s ∧ ChangeEnds d path s key value d' e ∧
      (execute w inv).effect d =
        changeEffect ⟨inv.switches, usesColors w inv.switches s, s⟩ path key value d' e := by
  by_cases hset : ∃ key value, inv.command = some (.config (some (.set key value)))
  · obtain ⟨switches, command⟩ := inv
    obtain ⟨key, value, rfl⟩ := hset
    have hreads := readsOnly_loadSettings w
    cases hresult : (loadSettings w d).result with
    | error f =>
      rw [execute, bind_apply_of_error hresult, hreads.disk_eq, hreads.output_eq]
      exact .inl ⟨rfl, fun _ _ => rfl⟩
    | ok s =>
      obtain ⟨path, hload⟩ := exists_loads hresult
      obtain ⟨d', e, hends⟩ := exists_changeEnds d path s key value
      exact .inr ⟨key, value, path, s, d', e, rfl, hload, hends,
        effect_execute_set hload hends switches⟩
  · have hanswers : (execute w inv).Answers :=
      answers_execute w fun key value h => hset ⟨key, value, h⟩
    exact .inl ⟨hanswers.disk_eq d, fun _ hf => hanswers.output_eq hf⟩

/-- An invocation that fails has printed nothing and leaves every file as it is. -/
theorem exists_effect_of_fails {w : Surroundings} {d : Disk} {inv : Invocation} {f : Failure}
    (h : Fails w d inv f) :
    ∃ d', (execute w inv).effect d = (.error f, "", d') ∧ d.Extends d' := by
  have hresult := result_execute_eq_error_iff.mpr h
  obtain ⟨hdisk, houtput⟩ | ⟨key, value, path, s, d', e, -, -, hends, heffect⟩ :=
    execute_cases w d inv
  · exact ⟨d, effect_eq_iff.mpr ⟨hresult, houtput f hresult, hdisk⟩, .refl d⟩
  · cases e with
    | none => cases hresult.symm.trans (effect_eq_iff.mp heffect).1
    | some e =>
      obtain ⟨-, houtput, hdisk⟩ := effect_eq_iff.mp heffect
      exact ⟨d', effect_eq_iff.mpr ⟨hresult, houtput, hdisk⟩, hends.extends⟩

/-- A file that an invocation changes is that of the settings, and the command sets one of them. -/
theorem exists_set_of_file?_ne {w : Surroundings} {d : Disk} {inv : Invocation}
    (h : (execute w inv d).result = .ok ()) {p : Disk.Place}
    (hp : (execute w inv d).disk.file? p ≠ d.file? p) :
    ∃ key value path, inv.command = some (.config (some (.set key value))) ∧
      Settings.location w.env = .ok path ∧
      (execute w inv d).disk.locate (.ofString path) = .ok p := by
  obtain ⟨hdisk, -⟩ | ⟨key, value, path, s, d', e, hset, hload, hends, heffect⟩ :=
    execute_cases w d inv
  · rw [hdisk] at hp
    exact absurd rfl hp
  · cases e with
    | none =>
      obtain ⟨-, -, rfl⟩ := effect_eq_iff.mp heffect
      exact ⟨key, value, path, hset, hload.location, hends.locate_of_file?_ne hp⟩
    | some e => cases h.symm.trans (effect_eq_iff.mp heffect).1

/-! ### How runs end -/

/-- How a run ends. -/
inductive RunEnds (w : Surroundings) (d : Disk) (args : List String) (o : Outcome) : Prop
  /-- The arguments are wrong. -/
  | misused {e : UsageError} : CommandLine.parse args = .error (.usage e) → o.ending = .misused e →
      o.output = "" → o.disk = d → RunEnds w d args o
  /-- The invocation fails. -/
  | failed {inv : Invocation} {f : Failure} : CommandLine.parse args = .ok inv → Fails w d inv f →
      o.ending = .failed f inv.switches.json → o.output = "" → d.Extends o.disk →
      RunEnds w d args o
  /-- The work is done, or only help or the version is wanted. -/
  | done : (∀ e, CommandLine.parse args ≠ .error (.usage e)) →
      (∀ inv f, CommandLine.parse args = .ok inv → ¬ Fails w d inv f) → o.ending = .done →
      (∀ p, o.disk.file? p ≠ d.file? p → ∃ inv key value path, CommandLine.parse args = .ok inv ∧
        inv.command = some (.config (some (.set key value))) ∧
        Settings.location w.env = .ok path ∧ o.disk.locate (.ofString path) = .ok p) →
      RunEnds w d args o

theorem runEnds_run (w : Surroundings) (d : Disk) (args : List String) :
    RunEnds w d args (run w d args) := by
  cases hparse : CommandLine.parse args with
  | error stop =>
    -- Nothing is done.
    have hshown : ∀ {output : String}, run w d args = { output, ending := .done, disk := d } →
        (∀ e, stop ≠ .usage e) → RunEnds w d args (run w d args) := by
      intro output hrun hstop
      rw [hrun]
      exact .done (by simpa [hparse] using hstop) (by simp [hparse]) rfl fun p hp => absurd rfl hp
    cases stop with
    | help level => exact hshown (by rw [run, hparse]) (by simp)
    | version level => exact hshown (by rw [run, hparse]) (by simp)
    | usage e =>
      have hrun : run w d args = { output := "", ending := .misused e, disk := d } := by
        rw [run, hparse]
      rw [hrun]
      exact .misused hparse rfl rfl rfl
  | ok inv =>
    cases hresult : (execute w inv d).result with
    | error f =>
      have hfails := result_execute_eq_error_iff.mp hresult
      obtain ⟨d', heffect, hextends⟩ := exists_effect_of_fails hfails
      obtain ⟨hending, houtput, rfl⟩ := run_of_error hparse heffect
      exact .failed hparse hfails hending houtput hextends
    | ok _ =>
      obtain ⟨hending, -, hdisk⟩ := run_of_ok hparse (effect_eq_iff.mpr ⟨hresult, rfl, rfl⟩)
      refine .done (by simp [hparse]) ?_ hending ?_
      · intro inv' f hparse' hfails
        obtain rfl := Except.ok.inj (hparse.symm.trans hparse')
        cases hresult.symm.trans (result_execute_eq_error_iff.mpr hfails)
      · intro p hp
        rw [hdisk] at hp ⊢
        obtain ⟨key, value, path, hset⟩ := exists_set_of_file?_ne hresult hp
        exact ⟨inv, key, value, path, hparse, hset⟩

/-- There is one reason for which an invocation fails. -/
theorem Fails.unique {w : Surroundings} {d : Disk} {inv : Invocation} {f f' : Failure}
    (h : Fails w d inv f) (h' : Fails w d inv f') : f = f' :=
  Except.error.inj
    ((result_execute_eq_error_iff.mpr h).symm.trans (result_execute_eq_error_iff.mpr h'))

namespace Failure

theorem exit_eq_one_iff {f : Failure} :
    f.exit = 1 ↔ (∃ e, f = .rules e) ∨ ∃ detail, f = .json detail := by
  cases f <;> simp [exit]

theorem exit_eq_two_iff {f : Failure} : f.exit = 2 ↔ ∃ path e, f = .input path e := by
  cases f <;> simp [exit]

theorem exit_eq_three_iff {f : Failure} : f.exit = 3 ↔ ∃ e, f = .stream e := by
  cases f <;> simp [exit]

theorem exit_eq_five_iff {f : Failure} : f.exit = 5 ↔ ∃ e, f = .settings e := by
  cases f <;> simp [exit]

end Failure

theorem errors_of_complaints {o : Outcome} (h : o.complaints = []) : o.errors = o.ending.text := by
  simp [Outcome.errors, h, String.join]

namespace RunEnds

variable {w : Surroundings} {d : Disk} {args : List String} {o : Outcome}

theorem unchanged (h : RunEnds w d args o) (hexit : o.exit ≠ 0) :
    o.output = "" ∧ ∀ p, o.disk.file? p = d.file? p := by
  cases h with
  | misused _ _ houtput hdisk => exact ⟨houtput, fun p => by rw [hdisk]⟩
  | failed _ _ _ houtput hdisk => exact ⟨houtput, hdisk.file?_eq⟩
  | done _ _ hending => exact absurd (by rw [Outcome.exit, hending]; rfl) hexit

/-- A run has an exit code other than zero if the arguments are wrong or the invocation fails. -/
theorem exit_eq_iff (h : RunEnds w d args o) {n : Nat} (hn : n ≠ 0) :
    o.exit = n ↔ (n = 2 ∧ ∃ e, CommandLine.parse args = .error (.usage e)) ∨
      ∃ inv f, CommandLine.parse args = .ok inv ∧ Fails w d inv f ∧ f.exit = n := by
  rw [Outcome.exit]
  cases h with
  | misused hparse hending =>
    simp [hending, hparse, Ending.exit, eq_comm]
  | failed hparse hfails hending =>
    rw [hending]
    constructor
    · intro hexit
      exact .inr ⟨_, _, hparse, hfails, hexit⟩
    · rintro (⟨-, e, he⟩ | ⟨inv', f', hparse', hfails', hexit⟩)
      · cases hparse.symm.trans he
      · obtain rfl := Except.ok.inj (hparse.symm.trans hparse')
        rwa [hfails.unique hfails']
  | done husage hfails hending =>
    rw [hending]
    constructor
    · intro hexit
      exact absurd hexit.symm hn
    · rintro (⟨-, e, he⟩ | ⟨inv, f, hparse, hf, -⟩)
      · exact absurd he (husage e)
      · exact absurd hf (hfails inv f hparse)

theorem exit_mem (h : RunEnds w d args o) :
    o.exit = 0 ∨ o.exit = 1 ∨ o.exit = 2 ∨ o.exit = 3 ∨ o.exit = 5 := by
  rw [Outcome.exit]
  cases h with
  | misused _ hending => simp [hending, Ending.exit]
  | @failed _ f _ _ hending => cases f <;> simp [hending, Ending.exit, Failure.exit]
  | done _ _ hending => simp [hending, Ending.exit]

theorem exit_eq_one_iff (h : RunEnds w d args o) :
    o.exit = 1 ↔ ∃ inv, CommandLine.parse args = .ok inv ∧
      ((∃ e, Fails w d inv (.rules e)) ∨ ∃ detail, Fails w d inv (.json detail)) := by
  rw [h.exit_eq_iff (by decide)]
  simp only [Failure.exit_eq_one_iff]
  constructor
  · rintro (⟨htwo, -⟩ | ⟨inv, f, hparse, hf, ⟨e, rfl⟩ | ⟨detail, rfl⟩⟩)
    · cases htwo
    · exact ⟨inv, hparse, .inl ⟨e, hf⟩⟩
    · exact ⟨inv, hparse, .inr ⟨detail, hf⟩⟩
  · rintro ⟨inv, hparse, ⟨e, hf⟩ | ⟨detail, hf⟩⟩
    · exact .inr ⟨inv, _, hparse, hf, .inl ⟨e, rfl⟩⟩
    · exact .inr ⟨inv, _, hparse, hf, .inr ⟨detail, rfl⟩⟩

theorem exit_eq_two_iff (h : RunEnds w d args o) :
    o.exit = 2 ↔ (∃ e, CommandLine.parse args = .error (.usage e)) ∨
      ∃ inv, CommandLine.parse args = .ok inv ∧ ∃ path e, Fails w d inv (.input path e) := by
  rw [h.exit_eq_iff (by decide)]
  simp only [Failure.exit_eq_two_iff, true_and]
  refine or_congr_right ⟨?_, ?_⟩
  · rintro ⟨inv, f, hparse, hf, path, e, rfl⟩
    exact ⟨inv, hparse, path, e, hf⟩
  · rintro ⟨inv, hparse, path, e, hf⟩
    exact ⟨inv, _, hparse, hf, path, e, rfl⟩

/-- The causes that have an exit code of their own. -/
theorem exit_eq_iff_of_cause (h : RunEnds w d args o) {ε : Type} {cause : ε → Failure} {n : Nat}
    (hn : n ≠ 0) (hne : n ≠ 2) (hcause : ∀ f : Failure, f.exit = n ↔ ∃ e, f = cause e) :
    o.exit = n ↔ ∃ inv, CommandLine.parse args = .ok inv ∧ ∃ e, Fails w d inv (cause e) := by
  rw [h.exit_eq_iff hn]
  simp only [hcause, hne, false_and, false_or]
  constructor
  · rintro ⟨inv, f, hparse, hf, e, rfl⟩
    exact ⟨inv, hparse, e, hf⟩
  · rintro ⟨inv, hparse, e, hf⟩
    exact ⟨inv, _, hparse, hf, e, rfl⟩

/-- If JSON is wanted, one document is shown, with the code of the failure. -/
theorem document (h : RunEnds w d args o) (hcomplaints : o.complaints = []) {inv : Invocation}
    (hparse : CommandLine.parse args = .ok inv) (hjson : inv.switches.json)
    (hexit : o.exit ≠ 0) :
    ∃ f code doc cs, Fails w d inv f ∧ f.HasCode code ∧ f.exit = o.exit ∧
      o.errors = .ofList (cs ++ ['\n']) ∧ Json.Spells .whole doc cs ∧
      (doc.get? "error").bind (Json.get? "code") = some (.string code) := by
  cases h with
  | misused husage => cases hparse.symm.trans husage
  | @failed inv' f hparse' hfails hending =>
    obtain rfl := Except.ok.inj (hparse.symm.trans hparse')
    have hcode : f.HasCode f.code := Failure.hasCode_iff.mpr rfl
    refine ⟨f, f.code, f.toJson, Json.write .pretty 0 f.toJson, hfails, hcode, ?_, ?_,
      f.written_toJson 0, hcode.code_toJson⟩
    · rw [Outcome.exit, hending]
      rfl
    · rw [errors_of_complaints hcomplaints, hending, Ending.text, Failure.text, if_pos hjson,
        Json.pretty, String.ofList_append]
  | done _ _ hending => exact absurd (by rw [Outcome.exit, hending]; rfl) hexit

theorem done_of_exit (h : RunEnds w d args o) (hcomplaints : o.complaints = [])
    (hexit : o.exit = 0) :
    o.errors = "" ∧ ∀ p, o.disk.file? p ≠ d.file? p →
      ∃ inv key value path, CommandLine.parse args = .ok inv ∧
        inv.command = some (.config (some (.set key value))) ∧
        Settings.location w.env = .ok path ∧ o.disk.locate (.ofString path) = .ok p := by
  rw [Outcome.exit] at hexit
  cases h with
  | misused _ hending =>
    rw [hending] at hexit
    cases hexit
  | @failed _ f _ _ hending =>
    rw [hending] at hexit
    cases f <;> cases hexit
  | done _ _ hending hfiles =>
    exact ⟨by rw [errors_of_complaints hcomplaints, hending]; rfl, hfiles⟩

end RunEnds

theorem complaints_run {w : Surroundings} (hlog : Log.WellFormed (logDirectives w)) (d : Disk)
    (args : List String) : (run w d args).complaints = [] := by
  cases hparse : CommandLine.parse args with
  | error stop => cases stop <;> rw [run, hparse]
  | ok inv =>
    rw [run, hparse]
    cases hresult : (execute w inv d).result <;>
      simp [conclude, hresult, Log.complaints_eq_nil hlog]

/-! ### What is known of the outcome -/

/-- A run fails without output and effects, says why, and if it succeeds it changes no more than it
should. -/
structure Orderly (w : Surroundings) (d : Disk) (args : List String) (o : Outcome) : Prop where
  /-- A run that fails prints nothing and leaves every file as it was. -/
  unchanged : o.exit ≠ 0 → o.output = "" ∧ ∀ p, o.disk.file? p = d.file? p
  /-- The exit code is one of five. -/
  exit : o.exit = 0 ∨ o.exit = 1 ∨ o.exit = 2 ∨ o.exit = 3 ∨ o.exit = 5
  /-- The rules are refused, or a request is not the JSON that is wanted. -/
  refused : o.exit = 1 ↔ ∃ inv, CommandLine.parse args = .ok inv ∧
    ((∃ e, Fails w d inv (.rules e)) ∨ ∃ detail, Fails w d inv (.json detail))
  /-- The arguments are wrong, or a file with rules or a request cannot be read. -/
  misused : o.exit = 2 ↔ (∃ e, CommandLine.parse args = .error (.usage e)) ∨
    ∃ inv, CommandLine.parse args = .ok inv ∧ ∃ path e, Fails w d inv (.input path e)
  /-- The standard input is no text. -/
  undecoded : o.exit = 3 ↔
    ∃ inv, CommandLine.parse args = .ok inv ∧ ∃ e, Fails w d inv (.stream e)
  /-- Something is wrong with the settings. -/
  unsettled : o.exit = 5 ↔
    ∃ inv, CommandLine.parse args = .ok inv ∧ ∃ e, Fails w d inv (.settings e)
  /-- If JSON is wanted, the error stream holds one document with the code of the failure. -/
  document : ∀ inv, CommandLine.parse args = .ok inv → inv.switches.json → o.exit ≠ 0 →
    ∃ f code doc cs, Fails w d inv f ∧ f.HasCode code ∧ f.exit = o.exit ∧
      o.errors = .ofList (cs ++ ['\n']) ∧ Json.Spells .whole doc cs ∧
      (doc.get? "error").bind (Json.get? "code") = some (.string code)
  /-- A run that succeeds leaves the error stream empty, and a file that it changes is that of the
  settings, of which it sets one. -/
  done : o.exit = 0 → o.errors = "" ∧ ∀ p, o.disk.file? p ≠ d.file? p →
    ∃ inv key value path, CommandLine.parse args = .ok inv ∧
      inv.command = some (.config (some (.set key value))) ∧
      Settings.location w.env = .ok path ∧ o.disk.locate (.ofString path) = .ok p

/-- **A run that fails has no output and no effect**, and its exit code and its message tell why it
failed. A run that succeeds changes no file but that of the settings. -/
theorem orderly_run (w : Surroundings) (d : Disk) (args : List String)
    (hlog : Log.WellFormed (logDirectives w)) : Orderly w d args (run w d args) := by
  have hends := runEnds_run w d args
  have hcomplaints := complaints_run hlog d args
  exact {
    unchanged := hends.unchanged
    exit := hends.exit_mem
    refused := hends.exit_eq_one_iff
    misused := hends.exit_eq_two_iff
    undecoded := hends.exit_eq_iff_of_cause (by decide) (by decide)
      fun _ => Failure.exit_eq_three_iff
    unsettled := hends.exit_eq_iff_of_cause (by decide) (by decide)
      fun _ => Failure.exit_eq_five_iff
    document := fun _ hparse hjson hexit => hends.document hcomplaints hparse hjson hexit
    done := hends.done_of_exit hcomplaints }

/-- A file with rules that is not there: nothing is printed, and the document has the code of
unreadable input. -/
theorem orderly_run_unreadable :
    ∃ (w : Surroundings) (d : Disk), w.env.lookup "RUST_LOG" = some "seg=debug,warn" ∧
      Orderly w d ["--json", "compile", "--file=rules"]
        (run w d ["--json", "compile", "--file=rules"]) ∧
      (run w d ["--json", "compile", "--file=rules"]).exit = 2 ∧
      (run w d ["--json", "compile", "--file=rules"]).output = "" ∧
      ∃ doc cs, (run w d ["--json", "compile", "--file=rules"]).errors = .ofList (cs ++ ['\n']) ∧
        Json.Spells .whole doc cs ∧
        (doc.get? "error").bind (Json.get? "code") = some (.string "INPUT_ERROR") := by
  let w : Surroundings :=
    ⟨⟨fun name => if name = "RUST_LOG" then some "seg=debug,warn" else none, some "/"⟩, .empty⟩
  let d : Disk := ⟨fun _ => none, []⟩
  have hparts : "seg=debug,warn".toList.splitOn ',' = ["seg=debug".toList, "warn".toList] := by
    decide
  have hlog : Log.WellFormed "seg=debug,warn" := by
    intro part hpart _
    rw [hparts] at hpart
    simp only [List.mem_cons, List.not_mem_nil, or_false] at hpart
    rcases hpart with rfl | rfl
    · exact ⟨_, rfl⟩
    · exact ⟨_, rfl⟩
  have horderly := orderly_run w d ["--json", "compile", "--file=rules"] hlog
  have hparse : CommandLine.parse ["--json", "compile", "--file=rules"] =
      .ok ⟨{ json := true }, some (.compile [] (some "rules") none none)⟩ := by
    decide
  have hload : Loads w.env d "/.config/seg/config.toml" {} := ⟨rfl, rfl⟩
  have hfails : Fails w d ⟨{ json := true }, some (.compile [] (some "rules") none none)⟩
      (.input "rules" .notFound) := .command hload rfl (.file rfl rfl)
  have hexit : (run w d ["--json", "compile", "--file=rules"]).exit = 2 :=
    horderly.misused.mpr (.inr ⟨_, hparse, "rules", .notFound, hfails⟩)
  have hfailed : (run w d ["--json", "compile", "--file=rules"]).exit ≠ 0 := by
    rw [hexit]
    decide
  obtain ⟨f, code, doc, cs, hf, hcode, -, herrors, hdoc, hget⟩ :=
    horderly.document _ hparse rfl hfailed
  obtain rfl := hf.unique hfails
  cases hcode
  exact ⟨w, d, rfl, horderly, hexit, (horderly.unchanged hfailed).1, doc, cs, herrors, hdoc, hget⟩

end Program

end CatalogFilter
