import CatalogFilter.Proofs.CommandLine.Accepted
import CatalogFilter.Proofs.CommandLine.Written
import CatalogFilter.Proofs.Program.Effects
import CatalogFilter.Proofs.Report.Pages

/-!
# Sessions

The settings are changed by one run after the other. Each run either makes the change that its key
and value ask for, or it is refused and changes nothing, and the next run finds just that. So what a
later run reports is the value that was set last.

* `Program.Edit`: a run that sets a setting.
* `Program.Session`: runs one after the other, and the changes that they make.
* `Program.Edit.changes_or_refused`: what one run does.
* `Program.exists_session`: what many runs do.
* `Program.ReportsPage`: the numbers that are read from the output of a run.
* `Program.exists_session_compile`: what is reported after a session.
-/

namespace CatalogFilter

namespace Settings

/-- The number of the page that a change sets. -/
def Change.page? : Change → Option Nat
  | .page n => some n
  | _ => none

/-- The number of items on a page that a change sets. -/
def Change.limit? : Change → Option Nat
  | .limit n => some n
  | _ => none

theorem Asks.pos {key value : String} {c : Change} (h : Asks key value c) :
    (∀ n ∈ c.page?, 1 ≤ n) ∧ ∀ n ∈ c.limit?, 1 ≤ n := by
  cases h with
  | color => simp [Change.page?, Change.limit?]
  | page _ hn => simpa [Change.page?, Change.limit?] using hn.bounds.1
  | limit _ hn => simpa [Change.page?, Change.limit?] using hn.bounds.1

/-- After many changes a setting has the value that it was given last, if it was given one. -/
theorem get_foldl_apply {α : Type} {get : Settings → Option α} {given : Change → Option α}
    (h : ∀ s c, get (s.apply c) = (given c).or (get s)) (s : Settings) (changes : List Change) :
    get (changes.foldl apply s) = (changes.filterMap given).getLast?.or (get s) := by
  induction changes generalizing s with
  | nil => rfl
  | cons c changes ih =>
    rw [List.foldl_cons, ih, h]
    cases hc : given c with
    | none => simp [hc]
    | some a => cases hlast : (changes.filterMap given).getLast? <;>
        simp [hc, List.getLast?_cons, hlast]

theorem page_foldl_apply (s : Settings) (changes : List Change) :
    (changes.foldl apply s).page = (changes.filterMap Change.page?).getLast?.or s.page :=
  get_foldl_apply (fun _ c => by cases c <;> rfl) s changes

theorem limit_foldl_apply (s : Settings) (changes : List Change) :
    (changes.foldl apply s).limit = (changes.filterMap Change.limit?).getLast?.or s.limit :=
  get_foldl_apply (fun _ c => by cases c <;> rfl) s changes

end Settings

namespace Program

open CommandLine Settings

/-- A run that sets a setting: what it finds, and the key and the value. -/
structure Edit where
  /-- What it finds besides the disk. -/
  surroundings : Surroundings
  /-- The key. -/
  key : String
  /-- The value. -/
  value : String

namespace Edit

/-- The outcome of the run. -/
def outcome (e : Edit) (d : Disk) : Outcome :=
  run e.surroundings d ["config", "set", "--", e.key, e.value]

theorem loads {e : Edit} {d : Disk} {path : String} {s : Settings}
    (hpath : e.surroundings.env.lookup "SEG_CONFIG" = some path) (hload : load d path = .ok s) :
    Loads e.surroundings.env d path s :=
  ⟨by rw [location, hpath], hload⟩

/-- What one run does: it makes the change that is asked for, or else it changes nothing. -/
theorem changes_or_refused {e : Edit} {d : Disk} {path : String} {s : Settings}
    (hpath : e.surroundings.env.lookup "SEG_CONFIG" = some path) (hwritable : Writable d path)
    (hload : load d path = .ok s) :
    (∃ c, Asks e.key e.value c ∧ (e.outcome d).exit = 0 ∧
      load (e.outcome d).disk path = .ok (s.apply c) ∧ Writable (e.outcome d).disk path) ∨
    (∀ c, ¬ Asks e.key e.value c) ∧ (e.outcome d).exit = 5 ∧ (e.outcome d).disk = d := by
  have hparse : parse ["config", "set", "--", e.key, e.value] =
      .ok ⟨{}, some (.config (some (.set e.key e.value)))⟩ :=
    readLevel_arguments (c := .config (some (.set e.key e.value))) trivial (by decide)
  have hloads := loads hpath hload
  cases hassign : s.assign e.key e.value with
  | ok s' =>
    obtain ⟨c, hc, rfl⟩ := assign_eq_ok_iff.mp hassign
    obtain ⟨p, hp⟩ := hwritable.opens
    have hends : ChangeEnds d path s e.key e.value
        ((prepare d path).disk.put p (.file (s.apply c).toToml.toUTF8)) none :=
      .stored hassign hwritable.prepared (store_eq_ok_iff.mpr ⟨p, hp, rfl⟩)
    obtain ⟨hending, -, hdisk⟩ := run_of_ok hparse (effect_execute_set hloads hends {})
    refine .inl ⟨c, hc, ?_, ?_, ?_⟩
    · rw [outcome, Outcome.exit, hending]
      rfl
    · rw [outcome, hdisk]
      exact load_put hp (fits_apply (fits_of_load hload) hc)
    · rw [outcome, hdisk]
      exact hwritable.put hp _
  | error err =>
    obtain ⟨hending, -, hdisk⟩ := run_of_error hparse
      (effect_execute_set hloads (.refused hassign) {})
    refine .inr ⟨fun c hc => ?_, ?_, hdisk⟩
    · have hok : s.assign e.key e.value = .ok (s.apply c) := assign_eq_ok_iff.mpr ⟨c, hc, rfl⟩
      rw [hassign] at hok
      cases hok
    · rw [outcome, Outcome.exit, hending]
      rfl

end Edit

/-- Runs that set settings, one after the other, with the changes that they make. `d` and `s` are
the disk and the settings at the start, and `d'` is the disk at the end. -/
inductive Session (path : String) : Disk → Settings → List Edit → List Change → Disk → Prop
  | nil {d : Disk} {s : Settings} : Session path d s [] [] d
  /-- The change is made, and the next load finds it. -/
  | set {d d' : Disk} {s : Settings} {e : Edit} {es : List Edit} {c : Change}
      {changes : List Change} : Asks e.key e.value c → (e.outcome d).exit = 0 →
      load (e.outcome d).disk path = .ok (s.apply c) →
      Session path (e.outcome d).disk (s.apply c) es changes d' →
      Session path d s (e :: es) (c :: changes) d'
  /-- No change is asked for, and none is made. -/
  | refused {d d' : Disk} {s : Settings} {e : Edit} {es : List Edit} {changes : List Change} :
      (∀ c, ¬ Asks e.key e.value c) → (e.outcome d).exit = 5 → (e.outcome d).disk = d →
      Session path d s es changes d' → Session path d s (e :: es) changes d'

/-- What many runs do. The settings that they leave can be loaded. -/
theorem exists_session {d : Disk} {path : String} {s : Settings} (hwritable : Writable d path)
    (hload : load d path = .ok s) {edits : List Edit}
    (hedits : ∀ e ∈ edits, e.surroundings.env.lookup "SEG_CONFIG" = some path) :
    ∃ changes d', Session path d s edits changes d' ∧
      load d' path = .ok (changes.foldl apply s) := by
  -- The disk stays writable, and the settings at the start of each run are those that it loads.
  induction edits generalizing d s with
  | nil => exact ⟨[], d, .nil, hload⟩
  | cons e edits ih =>
    have hrest : ∀ e' ∈ edits, e'.surroundings.env.lookup "SEG_CONFIG" = some path :=
      fun e' he' => hedits e' (List.mem_cons_of_mem e he')
    obtain ⟨c, hc, hexit, hload', hwritable'⟩ | ⟨hnone, hexit, hdisk⟩ :=
      Edit.changes_or_refused (hedits e List.mem_cons_self) hwritable hload
    · obtain ⟨changes, d', hsession, hlast⟩ := ih hwritable' hload' hrest
      exact ⟨c :: changes, d', .set hc hexit hload' hsession, hlast⟩
    · obtain ⟨changes, d', hsession, hlast⟩ := ih hwritable hload hrest
      exact ⟨changes, d', .refused hnone hexit hdisk hsession, hlast⟩

section

variable {path : String} {d d' : Disk} {s : Settings} {e : Edit} {es : List Edit}
  {changes : List Change}

theorem Session.changes_eq_nil (h : Session path d s [] changes d') : changes = [] := by
  cases h
  rfl

/-- A change that is asked for comes first. -/
theorem Session.exists_of_asks (h : Session path d s (e :: es) changes d') {c : Change}
    (hc : Asks e.key e.value c) :
    ∃ rest, changes = c :: rest ∧ Session path (e.outcome d).disk (s.apply c) es rest d' := by
  cases h with
  | set hasks _ _ hrest =>
    obtain rfl := hasks.unique hc
    exact ⟨_, rfl, hrest⟩
  | refused hnone => exact absurd hc (hnone c)

/-- A run that is refused is as good as none. -/
theorem Session.of_refused (h : Session path d s (e :: es) changes d')
    (hnone : ∀ c, ¬ Asks e.key e.value c) : Session path d s es changes d' := by
  cases h with
  | set hasks => exact absurd hasks (hnone _)
  | refused _ _ _ hrest => exact hrest

end

/-- Numbers that are set are positive. -/
theorem Session.pos {path : String} {d d' : Disk} {s : Settings} {edits : List Edit}
    {changes : List Change} (h : Session path d s edits changes d') :
    ∀ c ∈ changes, (∀ n ∈ c.page?, 1 ≤ n) ∧ ∀ n ∈ c.limit?, 1 ≤ n := by
  induction h with
  | nil => simp
  | refused _ _ _ _ ih => exact ih
  | set hasks _ _ _ ih => exact List.forall_mem_cons.mpr ⟨hasks.pos, ih⟩

/-! ### What is reported -/

/-- The output reports the number of the page and the number of items on it. As JSON it is read as
an object with the two numbers in its pagination; as a report it names them in its last line,
colours apart. If neither is wanted, nothing is printed. -/
structure ReportsPage (switches : Switches) (page limit : Nat) (output : String) : Prop where
  /-- The answer in JSON. -/
  json : switches.json → ∃ doc, Json.parse output = .ok doc ∧
    (doc.get? "pagination").bind (Json.get? "page") = some (.integer page) ∧
    (doc.get? "pagination").bind (Json.get? "limit") = some (.integer limit)
  /-- The report. -/
  text : switches.json = false → switches.quiet = false →
    [("Page " ++ toString page ++ ", limit " ++ toString limit).toList, []] <:+
      (Text.lines output.toList).map (Report.dropSequences 0)
  /-- No answer. -/
  quiet : switches.json = false → switches.quiet → output = ""

/-- An answer reports the page that it was made for. -/
theorem reportsPage_render (ctx : Context) {e : Evaluation}
    (hpage : e.pagination.page ≤ Numeral.maxWord) (hlimit : e.pagination.limit ≤ Numeral.maxWord) :
    ReportsPage ctx.switches e.pagination.page e.pagination.limit
      (ctx.render e.toJson (Report.evaluation ctx.colors e)) where
  json hjson := by
    rw [Context.render, if_pos hjson]
    exact Evaluation.exists_parse_pretty hpage hlimit
  text hjson hquiet := by
    rw [Context.render, if_neg (by simp [hjson]), if_neg (by simp [hquiet])]
    exact Report.suffix_lines_evaluation ctx.colors e
  quiet hjson hquiet := by
    rw [Context.render, if_neg (by simp [hjson]), if_pos hquiet]

/-- A number that is given and one that is set have 32 bits. -/
theorem getD_or_le {given kept : Option Nat} (hgiven : Command.CountFits given)
    (hkept : ∀ n ∈ kept, n ≤ Numeral.maxWord) {standard : Nat}
    (hstandard : standard ≤ Numeral.maxWord) :
    (given.or kept).getD standard ≤ Numeral.maxWord := by
  cases given with
  | some n => exact (hgiven n rfl).2
  | none =>
    cases kept with
    | some n => exact hkept n rfl
    | none => exact hstandard

/-- Rules that are valid are compiled for the page and the number of items that the options give,
else the settings. -/
theorem run_compile {w : Surroundings} {d : Disk} {path : String} {s : Settings}
    (hloads : Loads w.env d path s) {args : List String} {switches : Switches}
    {rules : List String} {file : Option String} {page limit : Option Nat}
    (hparse : parse args = .ok ⟨switches, some (.compile rules file page limit)⟩) {text : String}
    (htext : (Source.of rules file).read w d = .ok text) {c : Compiled}
    (hc : Compiled.ofText text = .ok c) :
    (run w d args).exit = 0 ∧
      ReportsPage switches ((page.or s.page).getD 1) ((limit.or s.limit).getD 50)
        (run w d args).output := by
  let ctx : Context := ⟨switches, usesColors w switches s, s⟩
  let e : Evaluation := ⟨c, pagination ctx page limit⟩
  have hprinted : (compile w ctx rules file page limit).printed d =
      .ok (ctx.render e.toJson (Report.evaluation ctx.colors e)) := by
    rw [printed_compile_eq, htext]
    simp only [Except.bind, hc]
    rfl
  have hanswers : (compile w ctx rules file page limit).Answers :=
    answers_perform w ctx (c := some (.compile rules file page limit)) (by simp)
  obtain ⟨hending, houtput, -⟩ :=
    run_of_ok hparse ((effect_execute hloads _).trans (hanswers.effect_eq hprinted))
  -- The numbers are small enough to be read back.
  obtain ⟨-, hpage, hlimit⟩ : Command.SourceFits rules file ∧ Command.CountFits page ∧
      Command.CountFits limit := wellFormed_of_gathers (gathers_of_readLevel .refl hparse) _ rfl
  have hsettings := fits_of_load hloads.load
  refine ⟨by rw [Outcome.exit, hending]; rfl, ?_⟩
  rw [houtput]
  exact reportsPage_render ctx (e := e) (getD_or_le hpage hsettings.page (by decide))
    (getD_or_le hlimit hsettings.limit (by decide))

/-- **A session of changes.** Runs that set settings, with any keys and values, make the changes
that are asked for and no others, one after the other; all others are refused and change nothing.
Every number that is set is positive. After them, a run that compiles valid rules reports the page
and the number of items that its options give, else that were set last, else that the settings had
at the start, else 1 and 50. -/
theorem exists_session_compile {d : Disk} {path : String} {s : Settings}
    (hwritable : Writable d path) (hload : load d path = .ok s) {edits : List Edit}
    (hedits : ∀ e ∈ edits, e.surroundings.env.lookup "SEG_CONFIG" = some path) :
    ∃ changes d', Session path d s edits changes d' ∧
      (∀ c ∈ changes, (∀ n ∈ c.page?, 1 ≤ n) ∧ ∀ n ∈ c.limit?, 1 ≤ n) ∧
      ∀ {w : Surroundings} {args : List String} {switches : Switches} {rules : List String}
        {file : Option String} {page limit : Option Nat} {text : String} {c : Compiled},
        w.env.lookup "SEG_CONFIG" = some path →
        parse args = .ok ⟨switches, some (.compile rules file page limit)⟩ →
        (Source.of rules file).read w d' = .ok text → Compiled.ofText text = .ok c →
        let page' := (page.or ((changes.filterMap Change.page?).getLast?.or s.page)).getD 1
        let limit' := (limit.or ((changes.filterMap Change.limit?).getLast?.or s.limit)).getD 50
        (run w d' args).exit = 0 ∧ ReportsPage switches page' limit' (run w d' args).output := by
  obtain ⟨changes, d', hsession, hlast⟩ := exists_session hwritable hload hedits
  refine ⟨changes, d', hsession, hsession.pos, ?_⟩
  intro w args switches rules file page limit text c hpath hparse htext hc
  have hloads : Loads w.env d' path (changes.foldl apply s) := ⟨by rw [location, hpath], hlast⟩
  have hrun := run_compile hloads hparse htext hc
  rwa [page_foldl_apply, limit_foldl_apply] at hrun

/-- Two changes are made and one is refused. Then the option decides on the page, and the number of
items is the one that was set. -/
theorem exists_session_compile_json :
    ∃ (w : Surroundings) (d d' : Disk),
      Session "/seg/config.toml" d {} [⟨w, "pagination.limit", " +010"⟩,
        ⟨w, "pagination.limit", "0"⟩, ⟨w, "output.color", "Off"⟩] [.limit 10, .color false] d' ∧
      ReportsPage { json := true } 3 10
        (run w d' ["--json", "compile", "--page=3", "price > 1"]).output ∧
      ReportsPage {} 1 10 (run w d' ["compile", "price > 1"]).output := by
  let w : Surroundings :=
    ⟨⟨fun name => if name = "SEG_CONFIG" then some "/seg/config.toml" else none, none⟩, .empty⟩
  let d : Disk := ⟨fun _ => none, []⟩
  have hwritable : Writable d "/seg/config.toml" :=
    ⟨rfl, ["config.toml", "seg"], rfl, rfl, nofun⟩
  have hload : load d "/seg/config.toml" = .ok {} := rfl
  have hedits : ∀ e ∈ [(⟨w, "pagination.limit", " +010"⟩ : Edit), ⟨w, "pagination.limit", "0"⟩,
      ⟨w, "output.color", "Off"⟩],
      e.surroundings.env.lookup "SEG_CONFIG" = some "/seg/config.toml" := by
    simp [w]
  have hjson : parse ["--json", "compile", "--page=3", "price > 1"] =
      .ok ⟨{ json := true }, some (.compile ["price > 1"] none (some 3) none)⟩ := by
    decide
  have htext : parse ["compile", "price > 1"] =
      .ok ⟨{}, some (.compile ["price > 1"] none none none)⟩ := by
    decide
  obtain ⟨c, hc⟩ : ∃ c, Compiled.ofText "price > 1" = .ok c := ⟨_, rfl⟩
  obtain ⟨changes, d', hsession, -, hcompile⟩ := exists_session_compile hwritable hload hedits
  have hten : Asks "pagination.limit" " +010" (.limit 10) :=
    .limit rfl ⟨"010".toList, by decide⟩
  have hzero : ∀ c, ¬ Asks "pagination.limit" "0" c := by
    intro c hc
    cases (assign_eq_ok_iff (s := {})).mpr ⟨c, hc, rfl⟩
  have hoff : Asks "output.color" "Off" (.color false) := .color rfl (readBool_eq_ok_iff.mp rfl)
  obtain ⟨changes, rfl, hrest⟩ := hsession.exists_of_asks hten
  obtain ⟨changes, rfl, hlast⟩ := (hrest.of_refused hzero).exists_of_asks hoff
  obtain rfl := hlast.changes_eq_nil
  exact ⟨w, d, d', hsession, (hcompile rfl hjson rfl hc).2, (hcompile rfl htext rfl hc).2⟩

end Program

end CatalogFilter
