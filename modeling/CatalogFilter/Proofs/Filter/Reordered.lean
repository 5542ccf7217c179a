import CatalogFilter.Proofs.Filter.Meaning
import Mathlib.Data.List.Perm.Basic

/-!
# Conditions in another order

A filter depends on the order of its conditions: which constraint on a field is the first, which
one moves, and where the shared list stands. What it holds does not. The constraints under their
fields' names and those in the shared list are each decided by counting, and counting does not see
the order; inside the shared list only constraints on different fields change places.

* `direct_layout_perm`, `get?_layout_eq_some_iff`, `shared_perm`: the parts of a layout, up to the
  order of the constraints.
* `KeepsOrder`: a list holds the constraints on each field in the order of the conditions.
* `compile_perm`: what a compiled filter keeps when its conditions change places.
-/

namespace CatalogFilter.Filter

/-! ### Layouts -/

variable {cs ds : List Clause}

theorem occurrences_eq_of_perm (h : cs.Perm ds) (field : String) :
    occurrences cs field = occurrences ds field :=
  h.countP_eq _

/-- The same constraints are alone on their field. -/
theorem direct_layout_perm (h : cs.Perm ds) :
    (direct ⟨layout cs⟩).Perm (direct ⟨layout ds⟩) := by
  have hsingle : isSingle cs = isSingle ds := by
    funext c
    rw [isSingle, isSingle, occurrences_eq_of_perm h]
  rw [direct_layout, direct_layout, hsingle]
  exact h.filter _

/-- Under a field's name stands the constraint on it that is alone. -/
theorem get?_layout_eq_some_iff {field : String} {leaf : Leaf} :
    get? ⟨layout cs⟩ field = some leaf ↔ ⟨field, leaf⟩ ∈ cs ∧ occurrences cs field = 1 := by
  by_cases hone : occurrences cs field = 1
  · obtain ⟨d, hd⟩ := exists_find?_of_occurrences_pos (hone ▸ Nat.one_pos)
    have hmem : (⟨field, leaf⟩ : Clause) ∈ cs ↔ ⟨field, leaf⟩ = d := by
      rw [← List.mem_singleton, ← filter_field_eq_singleton hone hd]
      simp
    obtain ⟨name, dleaf⟩ := d
    obtain rfl : name = field := by simpa using List.find?_some hd
    rw [get?_layout hone, hd, hmem]
    simp [hone, eq_comm]
  · have hnone : (direct ⟨layout cs⟩).find? (·.field == field) = none := by
      rw [direct_layout, List.find?_eq_none]
      intro c hc hfield
      rw [beq_iff_eq] at hfield
      exact hone (by simpa [isSingle, hfield] using (List.mem_filter.mp hc).2)
    simp [get?, hnone, hone]

/-- A constraint is in the shared list as often as it is stated, if others on its field are. -/
theorem count_shared (cs : List Clause) (c : Clause) :
    (shared cs).count c = if 2 ≤ occurrences cs c.field then cs.count c else 0 := by
  have hcount (l : List Clause) : (l.filter (·.field == c.field)).count c = l.count c :=
    List.count_filter (by simp)
  rw [← hcount (shared cs), filter_shared]
  split
  · exact hcount cs
  · rfl

/-- The same constraints are shared. -/
theorem shared_perm (h : cs.Perm ds) : (shared cs).Perm (shared ds) := by
  rw [List.perm_iff_count]
  intro c
  rw [count_shared, count_shared, occurrences_eq_of_perm h, h.count_eq]

/-- The shared list is there just if it has constraints. -/
theorem conjunction?_layout (cs : List Clause) :
    conjunction? ⟨layout cs⟩ = if shared cs = [] then none else some (shared cs) := by
  have hdirect (l : List Clause) (es : List Entry) :
      conjunction? ⟨l.map .direct ++ es⟩ = conjunction? ⟨es⟩ := by
    induction l with
    | nil => rfl
    | cons c l ih => exact ih
  unfold layout
  cases hr : firstRepeat? cs with
  | none =>
    rw [if_pos (shared_eq_nil hr)]
    have hentries := hdirect (cs.filter (isSingle cs)) []
    rwa [List.append_nil] at hentries
  | some r =>
    have htwo : 2 ≤ (shared cs).length := two_le_length_shared (by simp [hr])
    have hne : shared cs ≠ [] := List.ne_nil_of_length_pos (by omega)
    rw [if_neg hne]
    exact hdirect _ _

/-! ### Compiled filters -/

/-- The constraints on a field that a list holds are those that the conditions on the field state,
in the order of the conditions. -/
def KeepsOrder (conditions : List Condition) (clauses : List Clause) : Prop :=
  ∀ field, (∃ k ∈ clauses, k.field = field) →
    List.Forall₂ Condition.States (conditions.filter (·.field == field))
      (clauses.filter (·.field == field))

theorem keepsOrder_shared {conditions : List Condition}
    (h : List.Forall₂ Condition.States conditions cs) : KeepsOrder conditions (shared cs) := by
  rintro field ⟨k, hk, rfl⟩
  rw [filter_shared, if_pos (mem_shared_iff.mp hk).2]
  refine List.rel_filter ?_ h
  intro c k' hstates
  simp [hstates.1]

/-- Every condition of a list has a partner just if all together have. -/
theorem exists_forall₂_iff {α β : Type} {R : α → β → Prop} {as : List α} :
    (∃ bs, List.Forall₂ R as bs) ↔ ∀ a ∈ as, ∃ b, R a b := by
  induction as with
  | nil => simp
  | cons a as ih => simp [List.forall₂_cons_left_iff, ← ih]

/-- A list of conditions is compiled when it is not empty and every condition keeps the rules. -/
theorem exists_compile_iff {conditions : List Condition} :
    (∃ f, compile conditions = .ok f) ↔
      conditions ≠ [] ∧ ∀ c ∈ conditions, c.validate = .ok () := by
  simp only [compile_eq_ok_iff, Condition.validate_eq_ok_iff, ← exists_forall₂_iff]
  constructor
  · rintro ⟨f, hne, clauses, hclauses, -⟩
    exact ⟨hne, clauses, hclauses⟩
  · rintro ⟨hne, clauses, hclauses⟩
    exact ⟨_, hne, clauses, hclauses, rfl⟩

/-- Conditions in another order state the same constraints in that order. -/
theorem exists_layouts_of_perm {conditions others : List Condition} {f g : Filter}
    (h : conditions.Perm others) (hf : compile conditions = .ok f) (hg : compile others = .ok g) :
    ∃ cs ds, f = ⟨layout cs⟩ ∧ g = ⟨layout ds⟩ ∧ cs.Perm ds ∧
      List.Forall₂ Condition.States conditions cs ∧ List.Forall₂ Condition.States others ds ∧
      ∀ c ∈ cs, c.field ≠ conjunctionKey := by
  obtain ⟨-, cs, hcs, rfl⟩ := compile_eq_ok_iff.mp hf
  obtain ⟨-, ds, hds, rfl⟩ := compile_eq_ok_iff.mp hg
  have hunique : Relator.RightUnique fun (c : Condition) k => c.clause = .ok k :=
    fun c k l hk hl => Except.ok.inj (hk.symm.trans hl)
  have hstates {conditions clauses} (h : List.Forall₂ (fun c k => Condition.clause c = .ok k)
      conditions clauses) :
      List.Forall₂ (fun c k => c.field ∈ Catalog.selectableNames ∧ c.States k) conditions clauses :=
    h.imp fun c k hk => Condition.clause_eq_ok_iff.mp hk
  exact ⟨cs, ds, filter_ofClauses cs, filter_ofClauses ds, List.rel_perm_imp hunique hcs hds h,
    (hstates hcs).imp fun _ _ hk => hk.2, (hstates hds).imp fun _ _ hk => hk.2,
    field_ne_conjunctionKey (hstates hcs)⟩

/-- **The order of the conditions does not change what is selected.** If a list of conditions is
compiled, so is every list with the same conditions in another order. The two filters have the same
constraints under the same names. Both have a shared list or neither has; the two lists hold the
same constraints, those on one field each in the order of its conditions. Every document, whatever
the comparisons mean, is selected by both queries or by none. -/
theorem compile_perm {conditions others : List Condition} (h : conditions.Perm others) :
    ((∃ f, compile conditions = .ok f) ↔ ∃ g, compile others = .ok g) ∧
      ∀ f g, compile conditions = .ok f → compile others = .ok g →
        f.direct.Perm g.direct ∧ (∀ field, f.get? field = g.get? field) ∧
        Option.Rel (fun ks ls => ks.Perm ls ∧ KeepsOrder conditions ks ∧ KeepsOrder others ls)
          f.conjunction? g.conjunction? ∧
        ∀ (Document : Type) (holds : Document → String → Operator → Value → Prop) (d : Document),
          Query.Matches holds d f.toJson ↔ Query.Matches holds d g.toJson := by
  constructor
  · have hnil : conditions = [] ↔ others = [] := by
      rw [← List.length_eq_zero_iff, ← List.length_eq_zero_iff, h.length_eq]
    simp only [exists_compile_iff, ne_eq, hnil, h.mem_iff]
  · intro f g hf hg
    obtain ⟨cs, ds, rfl, rfl, hperm, hcs, hds, hand⟩ := exists_layouts_of_perm h hf hg
    refine ⟨direct_layout_perm hperm, fun field => ?_, ?_, fun Document holds d => ?_⟩
    · refine Option.ext fun leaf => ?_
      rw [get?_layout_eq_some_iff, get?_layout_eq_some_iff, hperm.mem_iff,
        occurrences_eq_of_perm hperm]
    · have hshared := shared_perm hperm
      rw [conjunction?_layout, conjunction?_layout]
      by_cases hnil : shared cs = []
      · have hnil' : shared ds = [] := (hnil ▸ hshared).nil_eq.symm
        rw [if_pos hnil, if_pos hnil']
        exact .none
      · have hnil' : shared ds ≠ [] := fun hds => hnil (hds ▸ hshared).eq_nil
        rw [if_neg hnil, if_neg hnil']
        exact .some ⟨hshared, keepsOrder_shared hcs, keepsOrder_shared hds⟩
    · have hand' : ∀ c ∈ ds, c.field ≠ conjunctionKey := fun c hc => hand c (hperm.mem_iff.mpr hc)
      rw [Query.matches_layout_iff holds d hand, Query.matches_layout_iff holds d hand']
      simp only [hperm.mem_iff]

/-- Two fields that repeat in turn, and one that does not, backwards: the shared list begins with
the other field, and the names change places. -/
theorem compile_perm_backwards :
    let conditions := [Condition.ofParts "price" .atLeast "100", .ofParts "title" .equal "Lamp",
      .ofParts "tags" .notEqual "old", .ofParts "price" .atMost "500",
      .ofParts "on_sale" .equal "TRUE", .ofParts "tags" .equal "new"]
    ∃ f g, compile conditions = .ok f ∧ compile conditions.reverse = .ok g ∧
      f.direct.map (·.field) = ["title", "on_sale"] ∧
      g.direct.map (·.field) = ["on_sale", "title"] ∧
      (∀ field, f.get? field = g.get? field) ∧
      ∃ ks ls, f.conjunction? = some ks ∧ g.conjunction? = some ls ∧
        ks.map (·.field) = ["price", "price", "tags", "tags"] ∧
        ls.map (·.field) = ["tags", "tags", "price", "price"] ∧ ks.Perm ls := by
  intro conditions
  obtain ⟨f, hf⟩ : ∃ f, compile conditions = .ok f := ⟨_, rfl⟩
  obtain ⟨g, hg⟩ : ∃ g, compile conditions.reverse = .ok g := ⟨_, rfl⟩
  obtain ⟨-, hparts⟩ := compile_perm (List.reverse_perm conditions).symm
  obtain ⟨-, hget, hshared, -⟩ := hparts f g hf hg
  obtain rfl := Except.ok.inj hf
  obtain rfl := Except.ok.inj hg
  refine ⟨_, _, hf, hg, rfl, rfl, hget, ?_⟩
  exact ⟨_, _, rfl, rfl, rfl, rfl, (Option.rel_some_some.mp hshared).1⟩

end CatalogFilter.Filter
