import CatalogFilter.Program.Command
import CatalogFilter.Proofs.CommandLine.Exclusion
import CatalogFilter.Proofs.Number.Numerals
import Mathlib.Logic.Relation

/-!
# Accepted command lines

Whatever a command line looks like, what is gathered from it grows in three ways only: an option
gets its value, an argument is taken by its position, or a switch is turned on. So a property of
what is gathered holds of every accepted command line if each of the three keeps it. This gives the
bounds of numbers and paths, and the last check of a level keeps rules and a file apart.

* `CommandLine.Gathered.Gains`: one more option, argument or switch.
* `CommandLine.reaches_readArgument`: an argument of the command line only adds to what is gathered.
* `CommandLine.gathers_of_readLevel`: an accepted command line comes down to what was gathered at
  one of its levels.
* `CommandLine.Gathered.Fits`: paths are not empty, and numbers have the right size.
* `CommandLine.wellFormed_of_parse`: the command of an accepted command line is well-formed.
-/

namespace CatalogFilter.CommandLine

open Relation

/-! ### What is gathered -/

/-- What is gathered grows by an option, an argument or a switch. -/
inductive Gathered.Gains : Gathered → Gathered → Prop
  | param {g g' : Gathered} {p : Param} {text : String} : g.setParam p text = .ok g' → Gains g g'
  | place {g g' : Gathered} {p : Place} {text : String} : g.setPlace p text = .ok g' → Gains g g'
  | flag (g : Gathered) (f : Flag) : Gains g (g.raise f)

/-- What is gathered grows by any number of options, arguments and switches. -/
abbrev Gathered.Reaches : Gathered → Gathered → Prop :=
  ReflTransGen Gathered.Gains

theorem stop_eq_ok_iff {α : Type} {x : Except UsageError α} {a : α} :
    stop x = .ok a ↔ x = .ok a := by
  cases x <;> simp [stop]

theorem reaches_settle {g g' : Gathered} {pending : Option Pending}
    (h : settle g pending = .ok g') : g.Reaches g' := by
  cases pending with
  | none =>
    obtain rfl : g = g' := Except.ok.inj h
    exact .refl
  | some p =>
    cases p with
    | awaiting p => cases h
    | param p text => exact .single (.param h)
    | place p text => exact .single (.place h)

theorem reaches_settled {s s' : State} (h : s.settled = .ok s') :
    s.gathered.Reaches s'.gathered := by
  obtain ⟨g, hg, h⟩ := Except.bind_eq_ok_iff.mp h
  obtain rfl := Except.ok.inj h
  exact reaches_settle (stop_eq_ok_iff.mp hg)

theorem reaches_raise {level : Level} {s s' : State} {f : Flag} (h : s.raise level f = .ok s') :
    s.gathered.Reaches s'.gathered := by
  obtain ⟨t, ht, h⟩ := Except.bind_eq_ok_iff.mp h
  refine (reaches_settled ht).tail ?_
  have hflag := Gathered.Gains.flag t.gathered f
  cases f with
  | help => cases h
  | version => cases h
  | _ =>
    simp only at h
    split at h
    · cases h
    · obtain rfl := Except.ok.inj h
      exact hflag

theorem reaches_attach {s s' : State} {p : Param} {text : String} (h : s.attach p text = .ok s') :
    s.gathered.Reaches s'.gathered := by
  obtain ⟨t, ht, h⟩ := Except.bind_eq_ok_iff.mp h
  obtain ⟨g, hg, h⟩ := Except.bind_eq_ok_iff.mp h
  obtain rfl := Except.ok.inj h
  exact (reaches_settled ht).tail (.param (stop_eq_ok_iff.mp hg))

theorem reaches_await {s s' : State} {p : Param} (h : s.await p = .ok s') :
    s.gathered.Reaches s'.gathered := by
  obtain ⟨t, ht, h⟩ := Except.bind_eq_ok_iff.mp h
  have hsettled := reaches_settled ht
  obtain rfl := Except.ok.inj h
  exact hsettled

/-! ### One argument -/

theorem reaches_readShort {level : Level} {s s' : State} {cs : List Char}
    (h : readShort level s cs = .ok s') : s.gathered.Reaches s'.gathered := by
  induction cs generalizing s with
  | nil =>
    obtain rfl : s = s' := Except.ok.inj h
    exact .refl
  | cons c cs ih =>
    rw [readShort] at h
    split at h
    · obtain ⟨t, ht, h⟩ := Except.bind_eq_ok_iff.mp h
      exact (reaches_raise ht).trans (ih h)
    · split at h
      · -- The rest of the argument, if there is one, is the value of the option.
        split at h
        · exact reaches_await h
        · exact reaches_attach h
        · exact reaches_attach h
      · cases h

theorem reaches_readLong {level : Level} {s s' : State} {cs : List Char}
    (h : readLong level s cs = .ok s') : s.gathered.Reaches s'.gathered := by
  simp only [readLong] at h
  split at h
  · exact reaches_raise h
  · cases h
  · split at h
    · exact reaches_attach h
    · exact reaches_await h
    · cases h

theorem reaches_readPlace {level : Level} {s s' : State} {trailing : Bool} {arg : String}
    (h : readPlace level s trailing arg = .ok s') : s.gathered.Reaches s'.gathered := by
  rw [readPlace] at h
  split at h
  · obtain ⟨t, ht, h⟩ := Except.bind_eq_ok_iff.mp h
    obtain ⟨g, hg, h⟩ := Except.bind_eq_ok_iff.mp h
    obtain rfl := Except.ok.inj h
    exact (reaches_settled ht).tail (.place (stop_eq_ok_iff.mp hg))
  · obtain ⟨t, ht, h⟩ := Except.bind_eq_ok_iff.mp h
    have hsettled := reaches_settled ht
    obtain rfl := Except.ok.inj h
    exact hsettled
  · cases h

/-- An argument of the command line only adds to what is gathered. -/
theorem reaches_readArgument {level : Level} {s s' : State} {arg : String}
    (h : readArgument level s arg = .ok s') : s.gathered.Reaches s'.gathered := by
  rw [readArgument] at h
  split at h
  · exact reaches_readLong h
  · exact reaches_readShort h
  · rw [readPlain] at h
    split at h
    · obtain rfl := Except.ok.inj h
      exact .refl
    · exact reaches_readPlace h

/-! ### Whole levels -/

/-- The command is that of a level with what was gathered there from the start. -/
def Gathers (c : Option Command) : Prop :=
  ∃ level g, Gathered.Reaches {} g ∧ checkConflicts g = .ok () ∧ commandOf level g = .ok c

theorem gathers_of_complete {level : Level} {s : State} (hs : Gathered.Reaches {} s.gathered)
    {inv : Invocation} (h : complete level s = .ok inv) : Gathers inv.command := by
  obtain ⟨t, ht, h⟩ := Except.bind_eq_ok_iff.mp h
  obtain ⟨_, hcheck, h⟩ := Except.bind_eq_ok_iff.mp h
  obtain ⟨c, hc, h⟩ := Except.bind_eq_ok_iff.mp h
  obtain rfl := Except.ok.inj h
  exact ⟨level, t.gathered, hs.trans (reaches_settled ht), stop_eq_ok_iff.mp hcheck,
    stop_eq_ok_iff.mp hc⟩

theorem gathers_of_readTrailing {level : Level} {s : State} {args : List String}
    (hs : Gathered.Reaches {} s.gathered) {inv : Invocation}
    (h : readTrailing level s args = .ok inv) : Gathers inv.command := by
  induction args generalizing s with
  | nil => exact gathers_of_complete hs h
  | cons arg args ih =>
    obtain ⟨t, ht, h⟩ := Except.bind_eq_ok_iff.mp h
    exact ih (hs.trans (reaches_readPlace ht)) h

/-- The command of an accepted command line is made of what was gathered at one of its levels. -/
theorem gathers_of_readLevel {level : Level} {s : State} {args : List String}
    (hs : Gathered.Reaches {} s.gathered) {inv : Invocation}
    (h : readLevel level s args = .ok inv) : Gathers inv.command := by
  induction args generalizing level s inv with
  | nil => exact gathers_of_complete hs h
  | cons arg args ih =>
    rw [readLevel] at h
    split at h
    · cases h
    · -- The name of a command: the level further in starts anew and has the command.
      obtain ⟨inner, hinner, h⟩ := Except.bind_eq_ok_iff.mp h
      obtain ⟨outer, -, h⟩ := Except.bind_eq_ok_iff.mp h
      have hcommand := ih .refl hinner
      obtain rfl := Except.ok.inj h
      exact hcommand
    · split at h
      · exact gathers_of_readTrailing hs h
      · obtain ⟨t, ht, h⟩ := Except.bind_eq_ok_iff.mp h
        exact ih (hs.trans (reaches_readArgument ht)) h

/-! ### Bounds -/

/-- Paths are not empty, and numbers have the right size. -/
structure Gathered.Fits (g : Gathered) : Prop where
  /-- The path of the file with the rules. -/
  file : ∀ path ∈ g.file, path ≠ ""
  /-- The number of the page. -/
  page : Command.CountFits g.page
  /-- The number of items on a page. -/
  limit : Command.CountFits g.limit
  /-- The path of the file with the request. -/
  path : ∀ path ∈ g.path, path ≠ ""

theorem pathFits_of_readPath {s path : String} (h : readPath s = .ok path) :
    ∀ p ∈ some path, p ≠ "" := by
  unfold readPath at h
  split at h
  · cases h
  · rename_i hne
    obtain rfl := Except.ok.inj h
    simpa using hne

theorem countFits_of_readCount {s : String} {n : Nat} (h : readCount s = .ok n) :
    Command.CountFits (some n) := by
  have hsome : Numeral.readPositive? s.toList = some n := by
    cases hread : Numeral.readPositive? s.toList with
    | none => simp [readCount, hread] at h
    | some m =>
      obtain rfl : m = n := by simpa [readCount, hread] using h
      rfl
  intro k hk
  obtain rfl : n = k := Option.some.inj hk
  exact (Numeral.readPositive?_eq_some_iff.mp hsome).bounds

/-- One more option, argument or switch keeps the bounds. -/
theorem Gathered.Gains.fits {g g' : Gathered} (h : g.Gains g') (hg : g.Fits) : g'.Fits := by
  cases h with
  | @param _ p text h =>
    cases p with
    | file =>
      obtain ⟨_, -, h⟩ := Except.bind_eq_ok_iff.mp h
      obtain ⟨path, hpath, h⟩ := Except.bind_eq_ok_iff.mp h
      obtain rfl := Except.ok.inj h
      exact ⟨pathFits_of_readPath hpath, hg.page, hg.limit, hg.path⟩
    | page =>
      obtain ⟨_, -, h⟩ := Except.bind_eq_ok_iff.mp h
      obtain ⟨n, hn, h⟩ := Except.bind_eq_ok_iff.mp h
      obtain rfl := Except.ok.inj h
      exact ⟨hg.file, countFits_of_readCount hn, hg.limit, hg.path⟩
    | limit =>
      obtain ⟨_, -, h⟩ := Except.bind_eq_ok_iff.mp h
      obtain ⟨n, hn, h⟩ := Except.bind_eq_ok_iff.mp h
      obtain rfl := Except.ok.inj h
      exact ⟨hg.file, hg.page, countFits_of_readCount hn, hg.path⟩
  | @place _ p text h =>
    cases p with
    | path =>
      obtain ⟨path, hpath, h⟩ := Except.bind_eq_ok_iff.mp h
      obtain rfl := Except.ok.inj h
      exact ⟨hg.file, hg.page, hg.limit, pathFits_of_readPath hpath⟩
    | shell =>
      obtain ⟨shell, -, h⟩ := Except.bind_eq_ok_iff.mp h
      obtain rfl := Except.ok.inj h
      exact ⟨hg.file, hg.page, hg.limit, hg.path⟩
    | _ =>
      obtain rfl := Except.ok.inj h
      exact ⟨hg.file, hg.page, hg.limit, hg.path⟩
  | flag f => cases f <;> exact ⟨hg.file, hg.page, hg.limit, hg.path⟩

theorem Gathered.Reaches.fits {g : Gathered} (h : Gathered.Reaches {} g) : g.Fits := by
  induction h with
  | refl => exact ⟨by simp, by simp [Command.CountFits], by simp [Command.CountFits], by simp⟩
  | tail _ hgains ih => exact hgains.fits ih

/-- Lines of rules and a file exclude each other. -/
theorem sourceFits_of_checkConflicts {g : Gathered} (hg : g.Fits)
    (h : checkConflicts g = .ok ()) : Command.SourceFits g.rules g.file := by
  refine ⟨?_, hg.file⟩
  by_contra hboth
  rw [not_or] at hboth
  have hrules : (!g.rules.isEmpty) = true := by simpa using hboth.1
  have hfile : g.file.isSome = true := Option.isSome_iff_ne_none.mpr hboth.2
  unfold checkConflicts at h
  split at h
  · cases h
  · rw [hrules, hfile] at h
    cases h

theorem wellFormed_of_commandOf {level : Level} {g : Gathered} (hg : g.Fits)
    (hcheck : checkConflicts g = .ok ()) {c : Option Command} (h : commandOf level g = .ok c) :
    ∀ x ∈ c, x.WellFormed := by
  have hsource := sourceFits_of_checkConflicts hg hcheck
  cases level with
  | compile =>
    obtain rfl := Except.ok.inj h
    simpa [Command.WellFormed] using ⟨hsource, hg.page, hg.limit⟩
  | validate =>
    obtain rfl := Except.ok.inj h
    simpa [Command.WellFormed] using hsource
  | request =>
    obtain rfl := Except.ok.inj h
    simpa [Command.WellFormed] using hg.path
  | configSet =>
    simp only [commandOf] at h
    split at h
    · obtain rfl := Except.ok.inj h
      simp [Command.WellFormed]
    · cases h
  | completions =>
    simp only [commandOf] at h
    split at h
    · obtain rfl := Except.ok.inj h
      simp [Command.WellFormed]
    · cases h
  | _ =>
    obtain rfl := Except.ok.inj h
    simp [Command.WellFormed]

theorem wellFormed_of_gathers {c : Option Command} (h : Gathers c) : ∀ x ∈ c, x.WellFormed := by
  obtain ⟨level, g, hg, hcheck, hc⟩ := h
  exact wellFormed_of_commandOf hg.fits hcheck hc

/-- **An accepted command line asks for a well-formed command.** Lines of rules and a file are
never given together, the number of a page and of the items on it are positive and have 32 bits, and
no path is empty. So lines of rules that are given are the rules that are read, and a number that is
given is the one that is used, and is not zero. -/
theorem wellFormed_of_parse {args : List String} {inv : Invocation} (h : parse args = .ok inv) :
    (∀ c ∈ inv.command, c.WellFormed) ∧
      (∀ rules file, (∃ page limit, inv.command = some (.compile rules file page limit)) ∨
          inv.command = some (.validate rules file) → rules ≠ [] →
        ∀ w, Program.readRules w rules file = return "\n".intercalate rules) ∧
      ∀ rules file page limit, inv.command = some (.compile rules file page limit) →
        ∀ ctx, (∀ n ∈ page, (Program.pagination ctx page limit).page = n ∧ n ≠ 0) ∧
          ∀ n ∈ limit, (Program.pagination ctx page limit).limit = n ∧ n ≠ 0 := by
  have hcommand : ∀ c ∈ inv.command, c.WellFormed :=
    wellFormed_of_gathers (gathers_of_readLevel .refl h)
  refine ⟨hcommand, ?_, ?_⟩
  · intro rules file hsource hrules w
    have hfits : Command.SourceFits rules file := by
      rcases hsource with ⟨page, limit, hcompile⟩ | hvalidate
      · exact (hcommand _ hcompile).1
      · exact hcommand _ hvalidate
    obtain rfl : file = none := hfits.1.resolve_left hrules
    rw [Program.readRules, if_neg (by simpa using hrules)]
  · intro rules file page limit hcompile ctx
    obtain ⟨-, hpage, hlimit⟩ : Command.SourceFits rules file ∧ Command.CountFits page ∧
      Command.CountFits limit := hcommand _ hcompile
    constructor
    · intro n hn
      have hbounds := hpage n hn
      obtain rfl : page = some n := hn
      exact ⟨rfl, by omega⟩
    · intro n hn
      have hbounds := hlimit n hn
      obtain rfl : limit = some n := hn
      exact ⟨rfl, by omega⟩

/-- A line of rules that looks like an option for a file is not taken for one. -/
theorem wellFormed_of_parse_dashes :
    parse ["-v", "c", "price > 1", "--limit", "+050", "--", "--file=x"] = .ok
        ⟨{ verbose := true }, some (.compile ["price > 1", "--file=x"] none none (some 50))⟩ ∧
      (Command.compile ["price > 1", "--file=x"] none none (some 50)).WellFormed ∧
      (∀ w, Program.readRules w ["price > 1", "--file=x"] none = return "price > 1\n--file=x") ∧
      ∀ ctx, (Program.pagination ctx none (some 50)).limit = 50 := by
  have hparse : parse ["-v", "c", "price > 1", "--limit", "+050", "--", "--file=x"] = .ok
      ⟨{ verbose := true }, some (.compile ["price > 1", "--file=x"] none none (some 50))⟩ := rfl
  obtain ⟨hcommand, hrules, hcounts⟩ := wellFormed_of_parse hparse
  refine ⟨hparse, hcommand _ rfl, fun w => ?_, fun ctx => ((hcounts _ _ _ _ rfl ctx).2 50 rfl).1⟩
  exact hrules _ _ (.inl ⟨none, some 50, rfl⟩) (by simp) w

end CatalogFilter.CommandLine
