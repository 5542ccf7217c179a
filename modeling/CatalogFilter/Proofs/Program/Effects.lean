import CatalogFilter.Proofs.Program.Routes
import CatalogFilter.Proofs.Settings.Changes

/-!
# What the commands come to

The result of a command, what it prints and the disk that it leaves, the log apart. Only one
command changes the disk: the one that changes a setting. It ends in one of four ways, and unless it
succeeds it has at most made directories and has printed nothing.

* `Program.Action.effect`: the result of an action, what it prints and the disk afterwards.
* `Program.Loads`: the settings are found.
* `Program.ChangeEnds`: how a change of a setting ends.
* `Program.exists_changeEnds`, `Program.effect_changeSetting`: it ends in one of these ways.
* `CommandLine.Source.read`: the text that a source has.
* `Program.printed_compile_eq`, `Program.printed_validate_eq`, `Program.printed_request_eq`: what
  is printed by the commands that read a text.
-/

namespace CatalogFilter

/-- The source from which a command reads: a file if one is named, else the rules among its
arguments, else the standard input. -/
def CommandLine.Source.of (rules : List String) : Option String → Source
  | some path => .file path
  | none => if rules.isEmpty then .input else .lines rules

/-- The text that a source has, or why it has none. -/
def CommandLine.Source.read (w : Program.Surroundings) (d : Disk) :
    Source → Except Program.Failure String
  | .lines ls => .ok ("\n".intercalate ls)
  | .file path => (d.readText path).mapError (.input path)
  | .input => (Disk.decodeText w.input).mapError .stream

namespace Program

open CommandLine

/-! ### Results, texts and disks -/

namespace Action

variable {α β ε : Type}

/-- The result of an action, the text that it prints and the disk afterwards. -/
def effect (x : Action α) (d : Disk) : Except Failure α × String × Disk :=
  ((x d).result, (x d).output, (x d).disk)

theorem effect_eq_iff {x : Action α} {d d' : Disk} {result : Except Failure α} {output : String} :
    x.effect d = (result, output, d') ↔
      (x d).result = result ∧ (x d).output = output ∧ (x d).disk = d' := by
  simp [effect]

/-- If the first action succeeds and prints nothing, the second decides. -/
theorem effect_bind_of_ok {x : Action α} {f : α → Action β} {d d' : Disk} {a : α}
    (h : x.effect d = (.ok a, "", d')) : (x >>= f).effect d = (f a).effect d' := by
  obtain ⟨hresult, houtput, rfl⟩ := effect_eq_iff.mp h
  rw [effect, bind_apply_of_ok hresult, houtput, String.empty_append]
  rfl

theorem effect_bind_of_error {x : Action α} {f : α → Action β} {d d' : Disk} {e : Failure}
    {output : String} (h : x.effect d = (.error e, output, d')) :
    (x >>= f).effect d = (.error e, output, d') := by
  obtain ⟨hresult, rfl, rfl⟩ := effect_eq_iff.mp h
  rw [effect, bind_apply_of_error hresult]

theorem effect_ofExcept (name : ε → Failure) (outcome : Except ε α) (d : Disk) :
    (ofExcept name outcome).effect d = (outcome.mapError name, "", d) :=
  rfl

theorem ReadsOnly.effect_eq {x : Action α} (h : x.ReadsOnly) (d : Disk) :
    x.effect d = ((x d).result, "", d) := by
  rw [effect, h.output_eq, h.disk_eq]

/-- An action that answers leaves nothing but its answer. -/
theorem Answers.effect_eq {x : Action Unit} (h : x.Answers) {d : Disk} {output : String}
    (hx : x.printed d = .ok output) : x.effect d = (.ok (), output, d) := by
  obtain ⟨_, hresult, houtput⟩ := Except.map_eq_ok_iff.mp hx
  rw [effect, hresult, houtput, h.disk_eq]

/-- What is looked up on the disk is passed on. -/
theorem effect_inspect_bind (read : Disk → α) (f : α → Action β) (d : Disk) :
    (inspect read >>= f).effect d = (f (read d)).effect d :=
  effect_bind_of_ok rfl

/-- The disk is replaced before the next action. -/
theorem effect_change_bind (disk : Disk) (f : Unit → Action β) (d : Disk) :
    (change disk >>= f).effect d = (f ()).effect disk :=
  effect_bind_of_ok rfl

end Action

open CatalogFilter.Program.Action

/-! ### Changing a setting -/

/-- The settings are kept at the path and are found there. -/
structure Loads (env : Environment) (d : Disk) (path : String) (s : Settings) : Prop where
  /-- The path is the one that the environment gives. -/
  location : Settings.location env = .ok path
  /-- They can be loaded. -/
  load : Settings.load d path = .ok s

theorem Loads.result_loadSettings {w : Surroundings} {d : Disk} {path : String} {s : Settings}
    (h : Loads w.env d path s) : (loadSettings w d).result = .ok s := by
  rw [Program.result_loadSettings, h.location]
  exact congrArg (Except.mapError Failure.settings) h.load

theorem Loads.effect_loadSettings {w : Surroundings} {d : Disk} {path : String} {s : Settings}
    (h : Loads w.env d path s) : (loadSettings w).effect d = (.ok s, "", d) := by
  rw [(readsOnly_loadSettings w).effect_eq, h.result_loadSettings]

theorem Loads.effect_settingsPath {w : Surroundings} {d : Disk} {path : String} {s : Settings}
    (h : Loads w.env d path s) : (settingsPath w).effect d = (.ok path, "", d) := by
  rw [settingsPath, effect_ofExcept, h.location]
  rfl

/-- How a change of a setting ends, with the disk that it leaves and the reason if it fails. -/
inductive ChangeEnds (d : Disk) (path : String) (s : Settings) (key value : String) :
    Disk → Option Settings.Error → Prop
  /-- The change is not accepted. -/
  | refused {e : Settings.Error} : s.assign key value = .error e → ChangeEnds d path s key value d
      (some e)
  /-- The directory cannot be made. -/
  | noDirectory {s' : Settings} {e : Disk.Error} : s.assign key value = .ok s' →
      (Settings.prepare d path).fault = some e →
      ChangeEnds d path s key value (Settings.prepare d path).disk (some (.noDirectory e))
  /-- The file cannot be written. -/
  | unwritten {s' : Settings} {e : Settings.Error} : s.assign key value = .ok s' →
      (Settings.prepare d path).fault = none →
      Settings.store (Settings.prepare d path).disk path s' = .error e →
      ChangeEnds d path s key value (Settings.prepare d path).disk (some e)
  /-- The settings are written. -/
  | stored {s' : Settings} {d' : Disk} : s.assign key value = .ok s' →
      (Settings.prepare d path).fault = none →
      Settings.store (Settings.prepare d path).disk path s' = .ok d' →
      ChangeEnds d path s key value d' none

theorem exists_changeEnds (d : Disk) (path : String) (s : Settings) (key value : String) :
    ∃ d' e, ChangeEnds d path s key value d' e := by
  cases hassign : s.assign key value with
  | error e => exact ⟨_, _, .refused hassign⟩
  | ok s' =>
    cases hfault : (Settings.prepare d path).fault with
    | some e => exact ⟨_, _, .noDirectory hassign hfault⟩
    | none =>
      cases hstore : Settings.store (Settings.prepare d path).disk path s' with
      | error e => exact ⟨_, _, .unwritten hassign hfault hstore⟩
      | ok d' => exact ⟨_, _, .stored hassign hfault hstore⟩

/-- What is printed once a setting is changed. -/
def changeReport (ctx : Context) (path key value : String) : String :=
  ctx.render (Json.sortMembers (.object [("status", .string "success"), ("key", .string key),
    ("value", .string value), ("path", .string path)])) ("Set " ++ key ++ " = " ++ value ++ "\n")

/-- What a change of a setting comes to that leaves the disk `d`: why it failed, or else what is
printed. -/
def changeEffect (ctx : Context) (path key value : String) (d : Disk) :
    Option Settings.Error → Except Failure Unit × String × Disk
  | some e => (.error (.settings e), "", d)
  | none => (.ok (), changeReport ctx path key value, d)

theorem effect_prepareSettings_of_fault {path : String} {d : Disk} {e : Disk.Error}
    (h : (Settings.prepare d path).fault = some e) :
    (prepareSettings path).effect d =
      (.error (.settings (.noDirectory e)), "", (Settings.prepare d path).disk) := by
  rw [prepareSettings, effect_inspect_bind, effect_change_bind, h]
  rfl

theorem effect_prepareSettings {path : String} {d : Disk}
    (h : (Settings.prepare d path).fault = none) :
    (prepareSettings path).effect d = (.ok (), "", (Settings.prepare d path).disk) := by
  rw [prepareSettings, effect_inspect_bind, effect_change_bind, h]
  rfl

theorem effect_saveSettings {path : String} {d : Disk}
    (h : (Settings.prepare d path).fault = none) (s : Settings) :
    (saveSettings path s).effect d =
      match Settings.store (Settings.prepare d path).disk path s with
      | .ok d' => (.ok (), "", d')
      | .error e => (.error (.settings e), "", (Settings.prepare d path).disk) := by
  rw [saveSettings, effect_bind_of_ok (effect_prepareSettings h), effect_inspect_bind]
  cases hstore : Settings.store (Settings.prepare d path).disk path s with
  | ok d' => exact effect_bind_of_ok rfl
  | error e => exact effect_bind_of_error rfl

/-- A change of a setting comes to what its ending says. -/
theorem effect_changeSetting {w : Surroundings} {d d' : Disk} {path : String} {s : Settings}
    (hload : Loads w.env d path s) {key value : String} {e : Option Settings.Error}
    (h : ChangeEnds d path s key value d' e) (ctx : Context) :
    (changeSetting w ctx key value).effect d = changeEffect ctx path key value d' e := by
  have hassigned : ∀ {s' : Settings}, s.assign key value = .ok s' →
      (ofExcept Failure.settings (s.assign key value)).effect d = (.ok s', "", d) := by
    intro s' hs'
    rw [effect_ofExcept, hs']
    rfl
  rw [changeSetting, effect_bind_of_ok hload.effect_loadSettings,
    effect_bind_of_ok hload.effect_settingsPath]
  cases h with
  | refused hassign => exact effect_bind_of_error (by rw [effect_ofExcept, hassign]; rfl)
  | noDirectory hassign hfault =>
    rw [effect_bind_of_ok (hassigned hassign)]
    exact effect_bind_of_error (effect_bind_of_error (effect_prepareSettings_of_fault hfault))
  | unwritten hassign hfault hstore =>
    rw [effect_bind_of_ok (hassigned hassign)]
    exact effect_bind_of_error (by rw [effect_saveSettings hfault, hstore])
  | @stored s' _ hassign hfault hstore =>
    have hsave : (saveSettings path s').effect d = (.ok (), "", d') := by
      rw [effect_saveSettings hfault, hstore]
    rw [effect_bind_of_ok (hassigned hassign), effect_bind_of_ok hsave]
    rfl

/-- A change that fails leaves every file as it is. -/
theorem ChangeEnds.extends {d d' : Disk} {path : String} {s : Settings} {key value : String}
    {e : Settings.Error} (h : ChangeEnds d path s key value d' (some e)) : d.Extends d' := by
  cases h with
  | refused => exact .refl d
  | noDirectory => exact Settings.extends_prepare d path
  | unwritten => exact Settings.extends_prepare d path

/-- A change that succeeds leaves every file as it is except the one at the path. -/
theorem ChangeEnds.locate_of_file?_ne {d d' : Disk} {path : String} {s : Settings}
    {key value : String} (h : ChangeEnds d path s key value d' none) {p : Disk.Place}
    (hp : d'.file? p ≠ d.file? p) : d'.locate (.ofString path) = .ok p := by
  obtain _ | _ | _ | ⟨-, -, hstore⟩ := h
  obtain ⟨q, hq, rfl⟩ := Settings.store_eq_ok_iff.mp hstore
  by_cases hpq : p = q
  · rw [hpq, (hq.put _).locate]
  · rw [Disk.file?_put_of_ne hpq] at hp
    exact absurd ((Settings.extends_prepare d path).file?_eq p) hp

/-! ### Commands that read a text -/

theorem result_readRules_eq (w : Surroundings) (rules : List String) (file : Option String)
    (d : Disk) : (readRules w rules file d).result = (Source.of rules file).read w d := by
  cases file with
  | some path => rfl
  | none =>
    rw [readRules, Source.of]
    split <;> rfl

theorem result_readBody_eq (w : Surroundings) (file : Option String) (d : Disk) :
    (readBody w file d).result = (Source.of [] file).read w d := by
  cases file <;> rfl

theorem printed_compile_eq (w : Surroundings) (ctx : Context) (rules : List String)
    (file : Option String) (page limit : Option Nat) (d : Disk) :
    (compile w ctx rules file page limit).printed d =
      ((Source.of rules file).read w d).bind fun text =>
        ((Compiled.ofText text).mapError Failure.rules).map fun c =>
          ctx.render (Evaluation.mk c (pagination ctx page limit)).toJson
            (Report.evaluation ctx.colors ⟨c, pagination ctx page limit⟩) := by
  rw [compile, (readsOnly_readRules w _ _).printed_bind, result_readRules_eq]
  congr 1
  funext text
  rw [printed_evaluate, Request.evaluate_ofText]
  cases Compiled.ofText text <;> rfl

theorem printed_validate_eq (w : Surroundings) (ctx : Context) (rules : List String)
    (file : Option String) (d : Disk) :
    (validate w ctx rules file).printed d =
      ((Source.of rules file).read w d).bind fun text =>
        ((Compiled.ofText text).mapError Failure.rules).map fun c =>
          ctx.render c.validationToJson (Report.validation ctx.colors c) := by
  rw [validate, (readsOnly_readRules w _ _).printed_bind, result_readRules_eq]
  congr 1
  funext text
  exact printed_present _ _ _ _ d

theorem printed_request_eq (w : Surroundings) (ctx : Context) (file : Option String) (d : Disk) :
    (request w ctx file).printed d =
      ((Source.of [] file).read w d).bind fun text =>
        ((Request.ofJsonText text).mapError fun e => Failure.json e.message).bind fun r =>
          (r.evaluate.mapError Failure.rules).map fun e =>
            ctx.render e.toJson (Report.evaluation ctx.colors e) := by
  rw [request, (readsOnly_readBody w _).printed_bind, result_readBody_eq]
  congr 1
  funext text
  refine ((readsOnly_ofExcept _ _).printed_bind _ d).trans (congrArg _ ?_)
  funext r
  exact printed_evaluate ctx r d

/-! ### Runs -/

/-- With the settings at hand the work of the command is all that counts. -/
theorem effect_execute {w : Surroundings} {d : Disk} {path : String} {s : Settings}
    (h : Loads w.env d path s) (inv : Invocation) :
    (execute w inv).effect d =
      (perform w ⟨inv.switches, usesColors w inv.switches s, s⟩ inv.command).effect d :=
  effect_bind_of_ok h.effect_loadSettings

theorem effect_execute_set {w : Surroundings} {d d' : Disk} {path : String} {s : Settings}
    (hload : Loads w.env d path s) {key value : String} {e : Option Settings.Error}
    (h : ChangeEnds d path s key value d' e) (switches : Switches) :
    (execute w ⟨switches, some (.config (some (.set key value)))⟩).effect d =
      changeEffect ⟨switches, usesColors w switches s, s⟩ path key value d' e :=
  (effect_execute hload _).trans (effect_changeSetting hload h _)

theorem run_of_ok {w : Surroundings} {d d' : Disk} {args : List String} {inv : Invocation}
    (hparse : CommandLine.parse args = .ok inv) {output : String}
    (h : (execute w inv).effect d = (.ok (), output, d')) :
    (run w d args).ending = .done ∧ (run w d args).output = output ∧ (run w d args).disk = d' := by
  obtain ⟨hresult, houtput, hdisk⟩ := effect_eq_iff.mp h
  rw [run, hparse]
  simp [conclude, hresult, houtput, hdisk]

/-- What was printed before a failure is among the output of a run. -/
theorem run_of_error {w : Surroundings} {d d' : Disk} {args : List String} {inv : Invocation}
    (hparse : CommandLine.parse args = .ok inv) {f : Failure} {output : String}
    (h : (execute w inv).effect d = (.error f, output, d')) :
    (run w d args).ending = .failed f inv.switches.json ∧ (run w d args).output = output ∧
      (run w d args).disk = d' := by
  obtain ⟨hresult, houtput, hdisk⟩ := effect_eq_iff.mp h
  rw [run, hparse]
  simp [conclude, hresult, houtput, hdisk]

end Program

end CatalogFilter
