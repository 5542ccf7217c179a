import CatalogFilter.Proofs.Filter.Reordered

/-!
# The table of placements

While a filter is made, a table tells where the constraints on each field are. The table and the
filter change apart from each other, and the next step relies on the table alone: a field that it
calls direct is looked up in the filter, and if nothing were found there, an earlier constraint
would be lost without notice. This file compares the two after every step. What the filter holds on
a field is counted in its entries, and the count is the one that the table stands for.

* `Filter.conjunctions`: all lists among the entries of a filter.
* `Filter.Builder.Agrees`: the table and the filter tell the same of every field.
* `Filter.Builder.Holds.agrees`: they do in the builder of any list of constraints.
* `Filter.Builder.Holds.exists_place`: the constraint that a second one on its field moves.
* `Filter.agrees_ofClauses_take`: they do after every step of a compilation.
-/

namespace CatalogFilter.Filter

/-! ### Counting in a layout -/

/-- The lists of constraints among the entries. -/
def conjunctions (f : Filter) : List (List Clause) :=
  f.entries.filterMap fun
    | .direct _ => none
    | .conjunction clauses => some clauses

theorem conjunctions_append (es fs : List Entry) :
    conjunctions ⟨es ++ fs⟩ = conjunctions ⟨es⟩ ++ conjunctions ⟨fs⟩ :=
  List.filterMap_append

@[simp] theorem conjunctions_map_direct (ds : List Clause) :
    conjunctions ⟨ds.map .direct⟩ = [] := by
  simp [conjunctions, List.filterMap_map]

@[simp] theorem conjunctions_conjunction_cons (clauses : List Clause) (es : List Entry) :
    conjunctions ⟨.conjunction clauses :: es⟩ = clauses :: conjunctions ⟨es⟩ := rfl

variable {cs : List Clause}

/-- The shared list is the only list of a layout, and is there just if a field repeats. -/
theorem conjunctions_layout (cs : List Clause) :
    conjunctions ⟨layout cs⟩ = if firstRepeat? cs = none then [] else [shared cs] := by
  unfold layout
  cases firstRepeat? cs with
  | none => simp
  | some r => simp [conjunctions_append]

/-- All constraints in lists are those of the shared list. -/
theorem flatten_conjunctions_layout (cs : List Clause) :
    (conjunctions ⟨layout cs⟩).flatten = shared cs := by
  rw [conjunctions_layout]
  split
  · rename_i hnone
    rw [shared_eq_nil hnone, List.flatten_nil]
  · rw [List.flatten_singleton]

theorem occurrences_direct_layout (cs : List Clause) (field : String) :
    occurrences (direct ⟨layout cs⟩) field = if occurrences cs field = 1 then 1 else 0 := by
  rw [direct_layout]
  split
  · rename_i hone
    have hsame : (cs.filter (isSingle cs)).countP (·.field == field) =
        cs.countP (·.field == field) := by
      rw [List.countP_filter]
      refine List.countP_congr fun c _ => ?_
      simp only [Bool.and_eq_true, beq_iff_eq, isSingle, and_iff_left_iff_imp]
      rintro rfl
      exact hone
    rw [occurrences, hsame, ← occurrences, hone]
  · rename_i hone
    refine Nat.eq_zero_of_not_pos fun hpos => ?_
    obtain ⟨c, hc, rfl⟩ := occurrences_pos_iff.mp hpos
    exact hone (by simpa [isSingle] using (List.mem_filter.mp hc).2)

theorem occurrences_shared (cs : List Clause) (field : String) :
    occurrences (shared cs) field =
      if 2 ≤ occurrences cs field then occurrences cs field else 0 := by
  rw [occurrences, List.countP_eq_length_filter, filter_shared]
  split
  · rw [occurrences, List.countP_eq_length_filter]
  · rfl

/-! ### Agreement -/

namespace Builder

/-- The table of placements and the filter tell the same of every field: nothing, one constraint
under its name, or several in the list. There is at most one list, with at least two constraints. -/
structure Agrees (b : Builder) : Prop where
  /-- A field is not in the table just if there is no constraint on it anywhere. -/
  absent_iff : ∀ field, b.placement? field = none ↔
    occurrences b.filter.direct field = 0 ∧ occurrences b.filter.conjunctions.flatten field = 0
  /-- A field is direct just if one constraint stands under its name and none in a list. -/
  direct_iff : ∀ field, b.placement? field = some .direct ↔
    occurrences b.filter.direct field = 1 ∧ occurrences b.filter.conjunctions.flatten field = 0
  /-- A field is conjoined just if none stands under its name and two or more in a list. -/
  conjoined_iff : ∀ field, b.placement? field = some .conjoined ↔
    occurrences b.filter.direct field = 0 ∧ 2 ≤ occurrences b.filter.conjunctions.flatten field
  /-- There is at most one list. -/
  length_conjunctions : b.filter.conjunctions.length ≤ 1
  /-- A list has at least two constraints. -/
  two_le_length : ∀ clauses ∈ b.filter.conjunctions, 2 ≤ clauses.length

variable {b : Builder}

theorem Holds.filter_eq (h : b.Holds cs) : b.filter = ⟨layout cs⟩ :=
  congrArg Filter.mk h.entries

/-- What the table says of a field, in terms of the entries of the filter. -/
theorem Holds.placement?_iff (h : b.Holds cs) (field : String) :
    let named := occurrences b.filter.direct field
    let listed := occurrences b.filter.conjunctions.flatten field
    (b.placement? field = none ↔ named = 0 ∧ listed = 0) ∧
      (b.placement? field = some .direct ↔ named = 1 ∧ listed = 0) ∧
      (b.placement? field = some .conjoined ↔ named = 0 ∧ 2 ≤ listed) := by
  rw [h.placement, h.filter_eq, flatten_conjunctions_layout, occurrences_direct_layout,
    occurrences_shared]
  match occurrences cs field with
  | 0 | 1 | n + 2 => simp [placementOf]

/-- The table and the filter of the builder for a list of constraints agree. -/
theorem Holds.agrees (h : b.Holds cs) : b.Agrees := by
  have hlists : b.filter.conjunctions = if firstRepeat? cs = none then [] else [shared cs] := by
    rw [h.filter_eq, conjunctions_layout]
  refine ⟨fun field => (h.placement?_iff field).1, fun field => (h.placement?_iff field).2.1,
    fun field => (h.placement?_iff field).2.2, ?_, ?_⟩
  · rw [hlists]
    split <;> simp
  · rw [hlists]
    split
    · simp
    · rename_i hrepeat
      simpa using two_le_length_shared hrepeat

/-- The constraint on a field that the table calls direct is found, and the next constraint on the
field takes it along to the end of the list. -/
theorem Holds.exists_place (h : b.Holds cs) {c : Clause}
    (hdirect : b.placement? c.field = some .direct) :
    ∃ leaf rest, b.filter.get? c.field = some leaf ∧
      (b.place c).filter.conjunctions = [rest ++ [⟨c.field, leaf⟩, c]] := by
  have hone : occurrences cs c.field = 1 := by
    rw [h.placement] at hdirect
    match hn : occurrences cs c.field with
    | 0 | n + 2 => simp [hn, placementOf] at hdirect
    | 1 => rfl
  obtain ⟨⟨name, leaf⟩, hd⟩ := exists_find?_of_occurrences_pos (hone ▸ Nat.one_pos)
  obtain rfl : name = c.field := by simpa using List.find?_some hd
  refine ⟨leaf, shared cs, ?_, ?_⟩
  · rw [h.filter_eq, get?_layout hone, hd]
    rfl
  · have htwo : 2 ≤ occurrences (cs ++ [c]) c.field := by simp [occurrences_snoc, hone]
    have hrepeat : firstRepeat? (cs ++ [c]) ≠ none :=
      Option.isSome_iff_ne_none.mp (firstRepeat?_isSome htwo)
    rw [(h.place c).filter_eq, conjunctions_layout, if_neg hrepeat, shared_snoc, hone]
    simp [contribution, hd]

end Builder

/-- **The table and the filter agree after every step.** Conditions that all keep the rules state
one constraint each, and the filter of the first `n` conditions is that of the builder after `n`
steps. In each of these builders the table and the filter tell the same of every field, and there is
at most one list, with at least two constraints. So where a step finds a field direct, the filter
has the earlier constraint on it, and the step moves that constraint into the list, in front of the
new one. -/
theorem agrees_ofClauses_take {conditions : List Condition}
    (hvalid : ∀ c ∈ conditions, c.validate = .ok ()) :
    ∃ clauses, List.Forall₂ (fun c k => Condition.clause c = .ok k) conditions clauses ∧
      (∀ n, 0 < n → n ≤ conditions.length →
        compile (conditions.take n) = .ok (Builder.ofClauses (clauses.take n)).filter) ∧
      (∀ n, (Builder.ofClauses (clauses.take n)).Agrees) ∧
      ∀ n k, clauses[n]? = some k →
        Builder.ofClauses (clauses.take (n + 1)) = (Builder.ofClauses (clauses.take n)).place k ∧
        ((Builder.ofClauses (clauses.take n)).placement? k.field = some .direct →
          ∃ leaf rest, (Builder.ofClauses (clauses.take n)).filter.get? k.field = some leaf ∧
            (Builder.ofClauses (clauses.take (n + 1))).filter.conjunctions =
              [rest ++ [⟨k.field, leaf⟩, k]]) := by
  obtain ⟨clauses, hclauses⟩ :
      ∃ clauses, List.Forall₂ (fun c k => Condition.clause c = .ok k) conditions clauses :=
    exists_forall₂_iff.mpr fun c hc => Condition.exists_clause_of_validate (hvalid c hc)
  refine ⟨clauses, hclauses, ?_, fun n => (Builder.holds_ofClauses _).agrees, ?_⟩
  · intro n hpos hn
    have hne : conditions.take n ≠ [] := by
      rw [← List.length_pos_iff, List.length_take]
      omega
    exact compile_eq_ok_iff.mpr ⟨hne, clauses.take n, List.forall₂_take n hclauses, rfl⟩
  · intro n k hk
    have hstep : Builder.ofClauses (clauses.take (n + 1)) =
        (Builder.ofClauses (clauses.take n)).place k := by
      rw [List.take_add_one, hk, Builder.ofClauses, List.foldl_append]
      rfl
    refine ⟨hstep, fun hdirect => ?_⟩
    rw [hstep]
    exact (Builder.holds_ofClauses _).exists_place hdirect

/-- The second condition on a field finds the first one under the field's name, behind which another
field has come in between, and takes it into a new list. -/
theorem agrees_ofClauses_take_price :
    let before := [⟨"price", .compare .gte (.text "100")⟩, ⟨"title", .equals (.text "Lamp")⟩]
    let second := ⟨"price", .compare .lte (.text "500")⟩
    List.Forall₂ (fun c k => Condition.clause c = .ok k)
        [.ofParts "price" .atLeast "100", .ofParts "title" .equal "Lamp",
          .ofParts "price" .atMost "500"] (before ++ [second]) ∧
      (Builder.ofClauses before).placement? "price" = some .direct ∧
      (Builder.ofClauses before).Agrees ∧ (Builder.ofClauses (before ++ [second])).Agrees ∧
      ∃ leaf rest, (Builder.ofClauses before).filter.get? "price" = some leaf ∧
        (Builder.ofClauses (before ++ [second])).filter.conjunctions =
          [rest ++ [⟨"price", leaf⟩, second]] := by
  intro before second
  have hvalid : ∀ c ∈ [Condition.ofParts "price" .atLeast "100", .ofParts "title" .equal "Lamp",
      .ofParts "price" .atMost "500"], c.validate = .ok () := by
    simp only [List.forall_mem_cons]
    exact ⟨rfl, rfl, rfl, by simp⟩
  obtain ⟨clauses, hclauses, -, hagrees, hstep⟩ := agrees_ofClauses_take hvalid
  obtain rfl : before ++ [second] = clauses :=
    Except.ok.inj (mapM_eq_ok_iff.mpr hclauses)
  exact ⟨hclauses, rfl, hagrees 2, hagrees 3, (hstep 2 second rfl).2 rfl⟩

end CatalogFilter.Filter
