import CatalogFilter.Proofs.CommandLine.Written
import CatalogFilter.Proofs.Results

/-!
# Switches that exclude each other

A command line is divided by the names of commands into levels, and every level may raise switches
of its own. The switches of an invocation are those of all its levels together. The quiet and the
verbose switch exclude each other on one level, but nothing compares one level with another: the two
are on together just if different levels raise them.

* `CommandLine.Passes`: the levels that a command line passes through, with their switches.
* `CommandLine.exists_passes`: an accepted command line is divided into levels none of which has
  both switches.
* `CommandLine.quiet_and_verbose_iff`: when both switches are on.
-/

namespace CatalogFilter.CommandLine

/-- The arguments, read from a level on, pass through levels with the given switches, the outermost
first, and ask for the given command. Only the last level may hold the mark that ends the
options. -/
inductive Passes : Level → List String → List Switches → Option Command → Prop
  | last {level : Level} {args : List String} {s : Switches} {c : Option Command} :
      (∀ arg ∈ args.takeWhile (· ≠ endOfOptions), level.next? arg = none) →
      readLevel level {} args = .ok ⟨s, c⟩ → Passes level args [s] c
  | enter {level sub : Level} {outer inner : List String} {name : String} {s : Switches}
      {ss : List Switches} {c c' : Option Command} :
      (∀ arg ∈ outer, arg ≠ endOfOptions ∧ level.next? arg = none) →
      readLevel level {} outer = .ok ⟨s, c'⟩ → level.next? name = some (.level sub) →
      Passes sub inner ss c → Passes level (outer ++ name :: inner) (s :: ss) c

/-! ### The end of a level -/

/-- A level that is completed does not have both switches. -/
theorem not_both_of_complete {level : Level} {s : State} {inv : Invocation}
    (h : complete level s = .ok inv) : ¬ (inv.switches.quiet ∧ inv.switches.verbose) := by
  obtain ⟨s', -, h⟩ := Except.bind_eq_ok_iff.mp h
  obtain ⟨_, hcheck, h⟩ := Except.bind_eq_ok_iff.mp h
  obtain ⟨c, -, h⟩ := Except.bind_eq_ok_iff.mp h
  obtain rfl := Except.ok.inj h
  intro hboth
  have hconflict : checkConflicts s'.gathered = .error .conflict :=
    if_pos (Bool.and_eq_true_iff.mpr hboth)
  rw [hconflict] at hcheck
  cases hcheck

/-- What stands behind the mark that ends the options comes down to the end of the level. -/
theorem exists_complete_of_readTrailing {level : Level} {s : State} {args : List String}
    {inv : Invocation} (h : readTrailing level s args = .ok inv) :
    ∃ s', complete level s' = .ok inv := by
  induction args generalizing s with
  | nil => exact ⟨s, h⟩
  | cons arg args ih =>
    obtain ⟨s', -, h⟩ := Except.bind_eq_ok_iff.mp h
    exact ih h

/-! ### Levels -/

/-- An accepted command line is divided into levels. `front` is what has been read of the first of
them, and `s` is the state to which it leads. -/
theorem exists_passes_of_readLevel {level : Level} {s : State} (front : List String)
    (hfront : ∀ arg ∈ front, arg ≠ endOfOptions ∧ level.next? arg = none)
    (hs : ∀ rest, readLevel level {} (front ++ rest) = readLevel level s rest)
    {args : List String} {inv : Invocation} (h : readLevel level s args = .ok inv) :
    ∃ ss, Passes level (front ++ args) ss inv.command ∧
      inv.switches = ss.foldr Switches.or {} ∧ ∀ t ∈ ss, ¬ (t.quiet ∧ t.verbose) := by
  have hor : ∀ t : Switches, t.or {} = t := fun t => by simp [Switches.or]
  induction args generalizing level s front inv with
  | nil =>
    have hlast : readLevel level {} (front ++ []) = .ok inv := (hs []).trans h
    refine ⟨[inv.switches], .last ?_ hlast, (hor _).symm, ?_⟩
    · intro arg harg
      rw [List.append_nil] at harg
      exact (hfront arg (List.takeWhile_subset _ harg)).2
    · simpa using not_both_of_complete h
  | cons arg args ih =>
    have hstep := h
    rw [readLevel] at hstep
    split at hstep
    · cases hstep
    · -- The name of a command: the levels further in come from the hypothesis.
      rename_i sub hsub
      obtain ⟨inner, hinner, hstep⟩ := Except.bind_eq_ok_iff.mp hstep
      obtain ⟨outer, houter, hstep⟩ := Except.bind_eq_ok_iff.mp hstep
      obtain rfl := Except.ok.inj hstep
      obtain ⟨ss, hss, hswitches, hboth⟩ := ih [] (by simp) (fun _ => rfl) hinner
      have hlevel : readLevel level {} front = .ok outer := by
        rw [← List.append_nil front, hs []]
        exact houter
      refine ⟨outer.switches :: ss, .enter hfront hlevel hsub hss, ?_, ?_⟩
      · rw [List.foldr_cons, ← hswitches]
      · rw [List.forall_mem_cons]
        exact ⟨not_both_of_complete houter, hboth⟩
    · rename_i hnext
      split at hstep
      · -- The mark: nothing behind it divides the level.
        rename_i hmark
        have hlast : readLevel level {} (front ++ arg :: args) = .ok inv := (hs _).trans h
        refine ⟨[inv.switches], .last ?_ hlast, (hor _).symm, ?_⟩
        · intro a ha
          rw [List.takeWhile_append_of_pos fun a ha => by simpa using (hfront a ha).1, hmark] at ha
          exact (hfront a (by simpa using ha)).2
        · obtain ⟨s', hs'⟩ := exists_complete_of_readTrailing hstep
          simpa using not_both_of_complete hs'
      · rename_i hmark
        obtain ⟨s', hs', hstep⟩ := Except.bind_eq_ok_iff.mp hstep
        have hread : ∀ rest, readLevel level s (arg :: rest) = readLevel level s' rest := by
          intro rest
          rw [readLevel, hnext]
          simp only [if_neg hmark, hs', bind, Except.bind]
        have hfront' : ∀ a ∈ front ++ [arg], a ≠ endOfOptions ∧ level.next? a = none := by
          intro a ha
          rcases List.mem_append.mp ha with ha | ha
          · exact hfront a ha
          · obtain rfl := List.mem_singleton.mp ha
            exact ⟨hmark, hnext⟩
        have hs'' : ∀ rest, readLevel level {} (front ++ [arg] ++ rest) = readLevel level s' rest := by
          intro rest
          rw [List.append_assoc, hs]
          exact hread rest
        simpa using ih (front ++ [arg]) hfront' hs'' hstep

theorem exists_passes {args : List String} {inv : Invocation} (h : parse args = .ok inv) :
    ∃ ss, Passes .top args ss inv.command ∧ inv.switches = ss.foldr Switches.or {} ∧
      ∀ t ∈ ss, ¬ (t.quiet ∧ t.verbose) :=
  exists_passes_of_readLevel [] (by simp) (fun _ => rfl) h

/-! ### Switches of all levels -/

theorem quiet_foldr_or (ss : List Switches) :
    (ss.foldr Switches.or {}).quiet ↔ ∃ s ∈ ss, s.quiet := by
  induction ss with
  | nil => simp
  | cons s ss ih => simp [Switches.or, ih]

theorem verbose_foldr_or (ss : List Switches) :
    (ss.foldr Switches.or {}).verbose ↔ ∃ s ∈ ss, s.verbose := by
  induction ss with
  | nil => simp
  | cons s ss ih => simp [Switches.or, ih]

/-- **Quiet and verbose exclude each other on every level.** The switches of an accepted command line
are those of the levels it passes through, and no level has both. So both are on just if one level
raises one of them and another level raises the other. -/
theorem quiet_and_verbose_iff {args : List String} {inv : Invocation} (h : parse args = .ok inv) :
    ∃ ss, Passes .top args ss inv.command ∧ (∀ s ∈ ss, ¬ (s.quiet ∧ s.verbose)) ∧
      (inv.switches.quiet ∧ inv.switches.verbose ↔
        ∃ s ∈ ss, ∃ t ∈ ss, s ≠ t ∧ s.quiet ∧ t.verbose) := by
  obtain ⟨ss, hss, hswitches, hboth⟩ := exists_passes h
  refine ⟨ss, hss, hboth, ?_⟩
  rw [hswitches, quiet_foldr_or, verbose_foldr_or]
  constructor
  · rintro ⟨⟨s, hs, hquiet⟩, t, ht, hverbose⟩
    refine ⟨s, hs, t, ht, ?_, hquiet, hverbose⟩
    rintro rfl
    exact hboth s hs ⟨hquiet, hverbose⟩
  · rintro ⟨s, hs, t, ht, -, hquiet, hverbose⟩
    exact ⟨⟨s, hs, hquiet⟩, t, ht, hverbose⟩

theorem quiet_and_verbose_iff_config :
    ∃ ss, Passes .top ["-q", "config", "-v", "show"] ss (some (.config (some .display))) ∧
      (∀ s ∈ ss, ¬ (s.quiet ∧ s.verbose)) ∧ ∃ s ∈ ss, ∃ t ∈ ss, s ≠ t ∧ s.quiet ∧ t.verbose := by
  have hparse : parse ["-q", "config", "-v", "show"] =
      .ok ⟨{ quiet := true, verbose := true }, some (.config (some .display))⟩ := rfl
  obtain ⟨ss, hss, hboth, hiff⟩ := quiet_and_verbose_iff hparse
  exact ⟨ss, hss, hboth, hiff.mp ⟨rfl, rfl⟩⟩

/-- A switch in front of a command is not compared with one behind it. -/
theorem parse_quiet_meta_verbose :
    ∃ inv, parse ["-q", "meta", "-v"] = .ok inv ∧ inv.switches.quiet ∧ inv.switches.verbose :=
  ⟨⟨{ quiet := true, verbose := true }, some .vocabulary⟩, rfl, rfl, rfl⟩

end CatalogFilter.CommandLine
