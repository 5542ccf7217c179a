import CatalogFilter.Proofs.Condition.Accepted
import CatalogFilter.Proofs.Filter.Layout
import Mathlib.Data.List.Nodup

/-!
# Compiled filters in closed form

The filter of a list of conditions is the layout of the constraints that the conditions state. With
it come the facts that every reader of the query relies on: no two members have the same name, a
field is either a name or in the shared list, and all fields are ones that rules may speak of.

* `exists_layout_of_compile` and `compile_eq_layout`: the closed form, from a compiled filter and
  from accepted conditions.
* `nodup_keys_layout`: the names of the query are distinct.
-/

namespace CatalogFilter.Filter

/-- The filter that the builder holds after a list of constraints. -/
theorem filter_ofClauses (clauses : List Clause) :
    (Builder.ofClauses clauses).filter = ⟨layout clauses⟩ :=
  congrArg Filter.mk (Builder.holds_ofClauses clauses).entries

/-- A compiled filter is the layout of the constraints of its conditions. -/
theorem exists_layout_of_compile {conditions : List Condition} {f : Filter}
    (h : compile conditions = .ok f) :
    ∃ clauses, f = ⟨layout clauses⟩ ∧
      List.Forall₂ (fun c k => c.field ∈ Catalog.selectableNames ∧ c.States k)
        conditions clauses := by
  obtain ⟨-, clauses, hclauses, hf⟩ := compile_eq_ok_iff.mp h
  refine ⟨clauses, hf.trans (filter_ofClauses clauses), ?_⟩
  exact hclauses.imp fun c k hk => Condition.clause_eq_ok_iff.mp hk

/-- **The layout of a compiled filter.** Conditions that all keep the rules are compiled. With
`clauses` the constraints that they state, one for each condition, the entries are those of
`layout clauses`: the constraints that are alone on their field, in the order of the conditions, and
at the place of the first repeat, if there is one, the shared list of all others. -/
theorem compile_eq_layout {conditions : List Condition} (hne : conditions ≠ [])
    (hvalid : ∀ c ∈ conditions, c.validate = .ok ()) :
    ∃ clauses, List.Forall₂ Condition.States conditions clauses ∧
      compile conditions = .ok ⟨layout clauses⟩ := by
  obtain ⟨clauses, hclauses⟩ :
      ∃ clauses, List.Forall₂ (fun c k => c.clause = .ok k) conditions clauses := by
    clear hne
    induction conditions with
    | nil => exact ⟨[], .nil⟩
    | cons c conditions ih =>
      obtain ⟨k, hk⟩ := Condition.exists_clause_of_validate (hvalid c List.mem_cons_self)
      obtain ⟨ks, hks⟩ := ih fun x hx => hvalid x (List.mem_cons_of_mem c hx)
      exact ⟨k :: ks, .cons hk hks⟩
  refine ⟨clauses, hclauses.imp fun c k hk => (Condition.clause_eq_ok_iff.mp hk).2, ?_⟩
  exact compile_eq_ok_iff.mpr ⟨hne, clauses, hclauses, (filter_ofClauses clauses).symm⟩

/-- Conditions on three fields, two of which repeat in turn: the shared list stands at the place of
the first repeat, behind the name that comes before it and in front of the one that comes after. -/
theorem compile_eq_layout_interleaved :
    let conditions := [Condition.ofParts "price" .atLeast "100", .ofParts "title" .equal "Lamp",
      .ofParts "tags" .notEqual "old", .ofParts "price" .atMost "500",
      .ofParts "category" .equal "Home", .ofParts "tags" .equal "new", .ofParts "price" .less "400"]
    ∃ clauses, List.Forall₂ Condition.States conditions clauses ∧
      compile conditions = .ok ⟨layout clauses⟩ := by
  intro conditions
  refine compile_eq_layout (List.cons_ne_nil _ _) ?_
  intro c hc
  simp only [conditions, List.mem_cons, List.not_mem_nil, or_false] at hc
  rcases hc with rfl | rfl | rfl | rfl | rfl | rfl | rfl <;> rfl

example : layout [⟨"price", .compare .gte (.text "100")⟩, ⟨"title", .equals (.text "Lamp")⟩,
    ⟨"price", .compare .lte (.text "500")⟩, ⟨"tags", .equals (.text "new")⟩] =
    [.direct ⟨"title", .equals (.text "Lamp")⟩,
      .conjunction [⟨"price", .compare .gte (.text "100")⟩, ⟨"price", .compare .lte (.text "500")⟩],
      .direct ⟨"tags", .equals (.text "new")⟩] := by
  decide

/-! ### Names in the query -/

variable {clauses : List Clause}

theorem nodup_fields_single (clauses : List Clause) :
    ((clauses.filter (isSingle clauses)).map (·.field)).Nodup := by
  rw [List.nodup_iff_count_le_one]
  intro field
  by_cases hone : occurrences clauses field = 1
  · rw [List.count, List.countP_map, ← hone]
    exact List.filter_sublist.countP_le
  · rw [List.count_eq_zero_of_not_mem]
    · exact Nat.zero_le 1
    · intro hmem
      obtain ⟨c, hc, rfl⟩ := List.mem_map.mp hmem
      exact hone (by simpa [isSingle] using (List.mem_filter.mp hc).2)

/-- The names of the members of the query, in their order. -/
def keys (f : Filter) : List String :=
  f.entries.map fun e => (member e).1

@[simp] theorem keys_map_direct (ds : List Clause) :
    keys ⟨ds.map .direct⟩ = ds.map (·.field) := by
  simp [keys, member]

theorem keys_append_conjunction (ds clauses es : List Clause) :
    keys ⟨ds.map .direct ++ .conjunction clauses :: es.map .direct⟩ =
      ds.map (·.field) ++ conjunctionKey :: es.map (·.field) := by
  simp only [keys, List.map_append, List.map_cons, List.map_map]
  rfl

theorem keys_layout_perm (clauses : List Clause) (h : firstRepeat? clauses ≠ none) :
    (keys ⟨layout clauses⟩).Perm
      (conjunctionKey :: (clauses.filter (isSingle clauses)).map (·.field)) := by
  obtain ⟨r, hr⟩ := Option.ne_none_iff_exists'.mp h
  have hdirect := direct_layout clauses
  unfold layout at hdirect ⊢
  rw [hr] at hdirect ⊢
  rw [direct_append, direct_conjunction_cons, direct_map_direct, direct_map_direct] at hdirect
  rw [← hdirect, keys_append_conjunction, List.map_append]
  exact List.perm_middle

/-- No two members of the query have the same name. -/
theorem nodup_keys_layout (hand : ∀ c ∈ clauses, c.field ≠ conjunctionKey) :
    (keys ⟨layout clauses⟩).Nodup := by
  by_cases h : firstRepeat? clauses = none
  · unfold layout
    rw [h, keys_map_direct]
    exact nodup_fields_single clauses
  · rw [(keys_layout_perm clauses h).nodup_iff, List.nodup_cons]
    refine ⟨?_, nodup_fields_single clauses⟩
    intro hmem
    obtain ⟨c, hc, hfield⟩ := List.mem_map.mp hmem
    exact hand c (List.mem_filter.mp hc).1 hfield

/-- A field of the shared list is not a name of the query. -/
theorem field_notMem_keys_of_mem_shared (hand : ∀ c ∈ clauses, c.field ≠ conjunctionKey)
    {c : Clause} (hc : c ∈ shared clauses) : c.field ∉ keys ⟨layout clauses⟩ := by
  obtain ⟨hmem, htwo⟩ := mem_shared_iff.mp hc
  intro hkey
  obtain ⟨e, he, hfield⟩ := List.mem_map.mp hkey
  rcases mem_layout_iff.mp he with ⟨d, -, hsingle, rfl⟩ | ⟨-, rfl⟩
  · have heq : d.field = c.field := hfield
    have hone : occurrences clauses c.field = 1 := by simpa [isSingle, heq] using hsingle
    omega
  · exact hand c hmem hfield.symm

/-- No field that rules may speak of has the name of the shared list. -/
theorem ne_conjunctionKey_of_mem_selectableNames {name : String}
    (h : name ∈ Catalog.selectableNames) : name ≠ conjunctionKey := by
  revert name
  decide

theorem field_ne_conjunctionKey {conditions : List Condition}
    (h : List.Forall₂ (fun c k => c.field ∈ Catalog.selectableNames ∧ c.States k)
      conditions clauses) : ∀ k ∈ clauses, k.field ≠ conjunctionKey := by
  intro k hk
  obtain ⟨c, -, hfield, hstates⟩ := exists_mem_of_forall₂ h hk
  rw [hstates.1]
  exact ne_conjunctionKey_of_mem_selectableNames hfield

end CatalogFilter.Filter
