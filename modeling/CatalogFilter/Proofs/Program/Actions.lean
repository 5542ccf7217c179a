import CatalogFilter.Program.Run
import CatalogFilter.Proofs.Results

/-!
# Actions that read and actions that answer

Whatever an action prints stays printed, also if it fails later on. All commands but one read what
they need and print their answer as the last thing they do, so that there is nothing left that could
fail. The command that changes a setting is the exception: it changes the disk before it prints.

* `Program.Action.ReadsOnly`: actions that change nothing and print nothing.
* `Program.Action.Answers`: actions that change nothing and print nothing unless they succeed.
* `Program.Action.printed`: what an action prints, or why it fails.
* `Program.answers_perform`, `Program.answers_execute`: all commands but one answer.
-/

namespace CatalogFilter.Program

open CommandLine

namespace Action

variable {α β ε : Type}

/-- The action leaves the disk as it is and prints nothing. -/
structure ReadsOnly (x : Action α) : Prop where
  disk_eq : ∀ d, (x d).disk = d
  output_eq : ∀ d, (x d).output = ""

/-- The action leaves the disk as it is, and if it fails, nothing was printed. -/
structure Answers (x : Action α) : Prop where
  disk_eq : ∀ d, (x d).disk = d
  output_eq : ∀ {d e}, (x d).result = .error e → (x d).output = ""

theorem disk_bind {x : Action α} {f : α → Action β} (hx : ∀ d, (x d).disk = d)
    (hf : ∀ a d, (f a d).disk = d) (d : Disk) : ((x >>= f) d).disk = d := by
  cases h : (x d).result with
  | ok a => rw [bind_apply_of_ok h, hf, hx]
  | error e => rw [bind_apply_of_error h, hx]

/-! ### Actions that only read -/

theorem readsOnly_pure (a : α) : ReadsOnly (pure a) :=
  ⟨fun _ => rfl, fun _ => rfl⟩

theorem readsOnly_report (events : List Log.Event) : ReadsOnly (report events) :=
  ⟨fun _ => rfl, fun _ => rfl⟩

theorem readsOnly_ofExcept (name : ε → Failure) (outcome : Except ε α) :
    ReadsOnly (ofExcept name outcome) :=
  ⟨fun _ => rfl, fun _ => rfl⟩

theorem readsOnly_inspect (read : Disk → α) : ReadsOnly (inspect read) :=
  ⟨fun _ => rfl, fun _ => rfl⟩

theorem ReadsOnly.bind {x : Action α} {f : α → Action β} (hx : x.ReadsOnly)
    (hf : ∀ a, (f a).ReadsOnly) : (x >>= f).ReadsOnly := by
  refine ⟨disk_bind hx.disk_eq fun a => (hf a).disk_eq, fun d => ?_⟩
  cases h : (x d).result with
  | ok a => rw [bind_apply_of_ok h, (hf a).output_eq, hx.output_eq, String.append_empty]
  | error e => rw [bind_apply_of_error h, hx.output_eq]

/-- The result of two actions of which the first only reads. -/
theorem ReadsOnly.result_bind {x : Action α} (hx : x.ReadsOnly) (f : α → Action β) (d : Disk) :
    ((x >>= f) d).result = (x d).result.bind fun a => (f a d).result := by
  cases h : (x d).result with
  | ok a => rw [bind_apply_of_ok h, hx.disk_eq]; rfl
  | error e => rw [bind_apply_of_error h]; rfl

/-! ### Actions that answer -/

/-- Printing does not fail. -/
theorem answers_print (text : String) : (print text).Answers :=
  ⟨fun _ => rfl, nofun⟩

/-- An action may read before it answers. -/
theorem ReadsOnly.answers_bind {x : Action α} {f : α → Action β} (hx : x.ReadsOnly)
    (hf : ∀ a, (f a).Answers) : (x >>= f).Answers := by
  refine ⟨disk_bind hx.disk_eq fun a => (hf a).disk_eq, fun {d e} herror => ?_⟩
  cases h : (x d).result with
  | ok a =>
    rw [bind_apply_of_ok h] at herror ⊢
    rw [(hf a).output_eq herror, hx.output_eq, String.append_empty]
  | error e => rw [bind_apply_of_error h, hx.output_eq]

/-- What an action prints, or why it fails. -/
def printed (x : Action Unit) (d : Disk) : Except Failure String :=
  (x d).result.map fun _ => (x d).output

theorem printed_eq_error_iff {x : Action Unit} {d : Disk} {f : Failure} :
    x.printed d = .error f ↔ (x d).result = .error f :=
  Except.map_eq_error_iff

/-- What is printed by two actions of which the first only reads. -/
theorem ReadsOnly.printed_bind {x : Action α} (hx : x.ReadsOnly) (f : α → Action Unit) (d : Disk) :
    (x >>= f).printed d = (x d).result.bind fun a => (f a).printed d := by
  cases h : (x d).result with
  | ok a => simp [printed, bind_apply_of_ok h, hx.disk_eq, hx.output_eq, Except.bind]
  | error e => simp [printed, bind_apply_of_error h, Except.bind, Except.map]

end Action

open CatalogFilter.Program.Action

/-! ### The commands -/

section Commands

variable (w : Surroundings) (ctx : Context)

theorem readsOnly_settingsPath : (settingsPath w).ReadsOnly :=
  readsOnly_ofExcept _ _

theorem readsOnly_loadSettings : (loadSettings w).ReadsOnly :=
  (readsOnly_settingsPath w).bind fun _ => (readsOnly_inspect _).bind fun events =>
    (readsOnly_report events).bind fun _ => (readsOnly_inspect _).bind fun s =>
      readsOnly_ofExcept .settings s

theorem readsOnly_readFile (path : String) : (readFile path).ReadsOnly :=
  (readsOnly_inspect _).bind fun _ => readsOnly_ofExcept _ _

theorem readsOnly_readInput (what : String) : (readInput w what).ReadsOnly :=
  (readsOnly_report _).bind fun _ => readsOnly_ofExcept _ _

theorem readsOnly_readRules (rules : List String) (file : Option String) :
    (readRules w rules file).ReadsOnly := by
  cases file with
  | some path => exact (readsOnly_report _).bind fun _ => readsOnly_readFile path
  | none =>
    rw [readRules]
    split
    · exact readsOnly_readInput w _
    · exact readsOnly_pure _

theorem readsOnly_readBody (file : Option String) : (readBody w file).ReadsOnly := by
  cases file with
  | some path => exact readsOnly_readFile path
  | none => exact readsOnly_readInput w _

theorem answers_evaluate (r : Request) : (evaluate ctx r).Answers :=
  (readsOnly_report _).answers_bind fun _ => (readsOnly_ofExcept _ _).answers_bind fun _ =>
    answers_print _

theorem answers_showSettings : (showSettings w ctx).Answers :=
  (readsOnly_settingsPath w).answers_bind fun _ => (readsOnly_inspect _).answers_bind fun _ =>
    answers_print _

/-- All commands but the one that changes a setting leave the disk alone, and what they print is the
last thing they do. -/
theorem answers_perform {c : Option Command}
    (hc : ∀ key value, c ≠ some (.config (some (.set key value)))) : (perform w ctx c).Answers := by
  match c with
  | none => exact answers_print _
  | some (.compile rules file page limit) =>
    exact (readsOnly_readRules w rules file).answers_bind fun _ => answers_evaluate ctx _
  | some (.validate rules file) =>
    exact (readsOnly_readRules w rules file).answers_bind fun _ =>
      (readsOnly_report _).answers_bind fun _ => (readsOnly_ofExcept _ _).answers_bind fun _ =>
        answers_print _
  | some (.request file) =>
    exact (readsOnly_readBody w file).answers_bind fun _ =>
      (readsOnly_ofExcept _ _).answers_bind fun r => answers_evaluate ctx r
  | some .vocabulary => exact answers_print _
  | some (.completions shell) => exact answers_print _
  | some (.config none) => exact answers_showSettings w ctx
  | some (.config (some .display)) => exact answers_showSettings w ctx
  | some (.config (some .path)) =>
    exact (readsOnly_settingsPath w).answers_bind fun _ =>
      (readsOnly_inspect _).answers_bind fun _ => answers_print _
  | some (.config (some (.set key value))) => exact absurd rfl (hc key value)

theorem answers_execute {inv : Invocation}
    (hc : ∀ key value, inv.command ≠ some (.config (some (.set key value)))) :
    (execute w inv).Answers :=
  (readsOnly_loadSettings w).answers_bind fun _ => answers_perform w _ hc

end Commands

end CatalogFilter.Program
