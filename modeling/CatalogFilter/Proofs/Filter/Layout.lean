import CatalogFilter.Filter.Compile
import Mathlib.Data.List.Basic
import Mathlib.Data.List.Find
import Mathlib.Data.List.Forall2
import Mathlib.Data.List.Induction

/-!
# The layout of a filter

Placing constraints one after the other moves them about: a constraint that stood under its field's
name goes into the shared list when a second one on the field arrives, and the list itself is made
at that moment. This file says where everything ends up, in terms of the list of constraints alone.

* `ranks cs` gives each position the number of constraints on its field, up to and with that
  position; `firstRepeat? cs` is the first position of rank two.
* `layout cs` has the constraints that are alone on their field in their order, and the shared list
  at the place of the first repeat. The shared list is `shared cs`: position by position, nothing
  for rank one, the first constraint on the field and the present one for rank two, the present
  one for a higher rank.
* `Builder.Holds b cs` says that the builder `b` is the one for the constraints `cs`. One placement
  preserves it (`Builder.Holds.place`), so the fold establishes it (`Builder.holds_ofClauses`).
-/

namespace CatalogFilter.Filter

/-! ### Ranks -/

/-- The number of constraints on a field. -/
def occurrences (cs : List Clause) (field : String) : Nat :=
  cs.countP (·.field == field)

/-- For each position, the number of constraints on its field up to and with that position. -/
def ranks (cs : List Clause) : List Nat :=
  cs.zipIdx.map fun (c, i) => occurrences (cs.take (i + 1)) c.field

/-- The first position whose constraint is the second one on its field. -/
def firstRepeat? (cs : List Clause) : Option Nat :=
  (ranks cs).findIdx? (· == 2)

/-- The constraint is the only one on its field. -/
def isSingle (cs : List Clause) (c : Clause) : Bool :=
  occurrences cs c.field == 1

/-- What a constraint of the given rank adds to the shared list. -/
def contribution (cs : List Clause) (c : Clause) : (rank : Nat) → List Clause
  | 0 | 1 => []
  | 2 => (cs.find? (·.field == c.field)).toList ++ [c]
  | _ => [c]

/-- The shared list. -/
def shared (cs : List Clause) : List Clause :=
  (cs.zip (ranks cs)).flatMap fun (c, rank) => contribution cs c rank

/-- The entries of the filter for a list of constraints. -/
def layout (cs : List Clause) : List Entry :=
  match firstRepeat? cs with
  | none => (cs.filter (isSingle cs)).map .direct
  | some r =>
      ((cs.take r).filter (isSingle cs)).map .direct ++
        .conjunction (shared cs) :: ((cs.drop (r + 1)).filter (isSingle cs)).map .direct

@[simp] theorem occurrences_nil (field : String) : occurrences [] field = 0 := rfl

theorem occurrences_snoc (cs : List Clause) (c : Clause) (field : String) :
    occurrences (cs ++ [c]) field = occurrences cs field + if c.field = field then 1 else 0 := by
  simp [occurrences, List.countP_cons]

theorem occurrences_pos_iff {cs : List Clause} {field : String} :
    0 < occurrences cs field ↔ ∃ c ∈ cs, c.field = field := by
  simp [occurrences, List.countP_pos_iff]

theorem exists_find?_of_occurrences_pos {cs : List Clause} {field : String}
    (h : 0 < occurrences cs field) : ∃ d, cs.find? (·.field == field) = some d := by
  obtain ⟨c, hc, hfield⟩ := occurrences_pos_iff.mp h
  exact Option.isSome_iff_exists.mp (List.find?_isSome.mpr ⟨c, hc, by simpa using hfield⟩)

@[simp] theorem length_ranks (cs : List Clause) : (ranks cs).length = cs.length := by
  simp [ranks]

/-! ### One more constraint -/

variable {cs : List Clause}

/-- The positions before a new one keep their ranks. -/
theorem ranks_snoc (cs : List Clause) (c : Clause) :
    ranks (cs ++ [c]) = ranks cs ++ [occurrences cs c.field + 1] := by
  have hlast : (cs ++ [c]).take (cs.length + 1) = cs ++ [c] :=
    List.take_of_length_le (by simp)
  have hold : ∀ p ∈ cs.zipIdx,
      occurrences ((cs ++ [c]).take (p.2 + 1)) p.1.field =
        occurrences (cs.take (p.2 + 1)) p.1.field := by
    intro p hp
    rw [List.take_append_of_le_length (List.snd_lt_of_mem_zipIdx hp)]
  rw [ranks, ranks, List.zipIdx_append, List.map_append, List.map_congr_left hold]
  simp [hlast, occurrences_snoc]

theorem firstRepeat?_snoc (cs : List Clause) (c : Clause) :
    firstRepeat? (cs ++ [c]) =
      (firstRepeat? cs).or (if occurrences cs c.field = 1 then some cs.length else none) := by
  rw [firstRepeat?, ranks_snoc, List.findIdx?_append]
  simp [firstRepeat?, List.findIdx?_cons]

theorem firstRepeat?_lt {r : Nat} (h : firstRepeat? cs = some r) : r < cs.length := by
  simpa using (List.findIdx?_eq_some_iff_getElem.mp h).1

/-- The first constraint on a field stays the first one. -/
theorem find?_snoc_of_mem (c : Clause) {d : Clause} (hd : d ∈ cs) :
    (cs ++ [c]).find? (·.field == d.field) = cs.find? (·.field == d.field) := by
  rw [List.find?_append, Option.or_of_isSome]
  exact List.find?_isSome.mpr ⟨d, hd, beq_self_eq_true _⟩

theorem contribution_snoc_of_mem (c : Clause) {d : Clause} (hd : d ∈ cs) (rank : Nat) :
    contribution (cs ++ [c]) d rank = contribution cs d rank := by
  match rank with
  | 0 | 1 => rfl
  | 2 => simp only [contribution, find?_snoc_of_mem c hd]
  | _ + 3 => rfl

theorem shared_snoc (cs : List Clause) (c : Clause) :
    shared (cs ++ [c]) = shared cs ++ contribution cs c (occurrences cs c.field + 1) := by
  have hold : ∀ p ∈ cs.zip (ranks cs),
      contribution (cs ++ [c]) p.1 p.2 = contribution cs p.1 p.2 :=
    fun p hp => contribution_snoc_of_mem c (List.of_mem_zip hp).1 p.2
  have hnew : contribution (cs ++ [c]) c (occurrences cs c.field + 1) =
      contribution cs c (occurrences cs c.field + 1) := by
    rcases Nat.eq_zero_or_pos (occurrences cs c.field) with hzero | hpos
    · rw [hzero]
      rfl
    · obtain ⟨d, hd, hfield⟩ := occurrences_pos_iff.mp hpos
      have hfind := find?_snoc_of_mem c hd
      rw [hfield] at hfind
      match occurrences cs c.field with
      | 0 => rfl
      | 1 => simp only [contribution, hfind]
      | _ + 2 => rfl
  rw [shared, ranks_snoc, List.zip_append (by simp), List.flatMap_append, shared,
    List.flatMap_congr hold]
  simp [hnew]

/-- A field that is met twice has a first repeat. -/
theorem firstRepeat?_isSome {field : String} (h : 2 ≤ occurrences cs field) :
    (firstRepeat? cs).isSome := by
  induction cs using List.reverseRecOn with
  | nil => simp at h
  | append_singleton cs c ih =>
    rw [firstRepeat?_snoc, Option.isSome_or]
    rw [occurrences_snoc] at h
    split at h
    · rename_i hfield
      subst hfield
      by_cases hone : occurrences cs c.field = 1
      · simp [hone]
      · simp [ih (by omega)]
    · simp [ih h]

/-- Without a repeat nothing is shared. -/
theorem shared_eq_nil (h : firstRepeat? cs = none) : shared cs = [] := by
  induction cs using List.reverseRecOn with
  | nil => rfl
  | append_singleton cs c ih =>
    rw [firstRepeat?_snoc, Option.or_eq_none_iff] at h
    have hone : occurrences cs c.field ≠ 1 := by simpa using h.2
    have htwo : ¬ 2 ≤ occurrences cs c.field := fun htwo => by
      simpa [h.1] using firstRepeat?_isSome htwo
    have hzero : occurrences cs c.field = 0 := by omega
    rw [shared_snoc, ih h.1, hzero]
    rfl

theorem firstRepeat?_ne_none_of_mem_shared {c : Clause} (hc : c ∈ shared cs) :
    firstRepeat? cs ≠ none := by
  intro hnone
  rw [shared_eq_nil hnone] at hc
  exact List.not_mem_nil hc

/-- The constraint at the first repeat is not alone on its field. -/
theorem isSingle_firstRepeat {r : Nat} (h : firstRepeat? cs = some r) (hr : r < cs.length) :
    isSingle cs cs[r] = false := by
  obtain ⟨_, htwo, -⟩ := List.findIdx?_eq_some_iff_getElem.mp h
  have hrank : occurrences (cs.take (r + 1)) cs[r].field = 2 := by
    simpa [ranks] using htwo
  have hle : occurrences (cs.take (r + 1)) cs[r].field ≤ occurrences cs cs[r].field :=
    (List.take_sublist (r + 1) cs).countP_le
  simp only [isSingle, beq_eq_false_iff_ne]
  omega

/-! ### Constraints alone on their field -/

theorem isSingle_snoc (cs : List Clause) (c x : Clause) :
    isSingle (cs ++ [c]) x =
      if x.field = c.field then occurrences cs c.field == 0 else isSingle cs x := by
  simp only [isSingle, occurrences_snoc]
  split
  · rename_i h
    simp [h]
  · rename_i h
    simp [Ne.symm h]

theorem filter_isSingle_of_fresh {c : Clause} (h : occurrences cs c.field = 0)
    {l : List Clause} (hl : l ⊆ cs) :
    l.filter (isSingle (cs ++ [c])) = l.filter (isSingle cs) := by
  refine List.filter_congr fun x hx => ?_
  have hne : x.field ≠ c.field := by
    intro heq
    have hpos := occurrences_pos_iff.mpr ⟨x, hl hx, heq⟩
    omega
  rw [isSingle_snoc, if_neg hne]

theorem filter_isSingle_of_second {c : Clause} (h : occurrences cs c.field = 1)
    (l : List Clause) :
    l.filter (isSingle (cs ++ [c])) =
      (l.filter (isSingle cs)).filter fun x => !(x.field == c.field) := by
  rw [List.filter_filter]
  refine List.filter_congr fun x _ => ?_
  rw [isSingle_snoc, h]
  split
  · rename_i heq
    simp [heq]
  · rename_i hne
    simp [hne]

theorem filter_isSingle_of_later {c : Clause} (h : 2 ≤ occurrences cs c.field)
    (l : List Clause) :
    l.filter (isSingle (cs ++ [c])) = l.filter (isSingle cs) := by
  refine List.filter_congr fun x _ => ?_
  rw [isSingle_snoc]
  split
  · rename_i heq
    rw [isSingle, heq, Bool.eq_iff_iff]
    simp only [beq_iff_eq]
    omega
  · rfl

/-! ### Entries -/

theorem direct_append (es fs : List Entry) :
    direct ⟨es ++ fs⟩ = direct ⟨es⟩ ++ direct ⟨fs⟩ :=
  List.filterMap_append

@[simp] theorem direct_map_direct (ds : List Clause) : direct ⟨ds.map .direct⟩ = ds := by
  simp [direct, List.filterMap_map]

@[simp] theorem direct_conjunction_cons (clauses : List Clause) (es : List Entry) :
    direct ⟨.conjunction clauses :: es⟩ = direct ⟨es⟩ := rfl

theorem conjoinEntries_map_direct (c : Clause) (ds : List Clause) :
    conjoinEntries c (ds.map .direct) = ds.map .direct ++ [.conjunction [c]] := by
  induction ds with
  | nil => rfl
  | cons d ds ih => simp [conjoinEntries, ih]

theorem conjoinEntries_append (c : Clause) (ds clauses : List Clause) (es : List Entry) :
    conjoinEntries c (ds.map .direct ++ .conjunction clauses :: es) =
      ds.map .direct ++ .conjunction (clauses ++ [c]) :: es := by
  induction ds with
  | nil => rfl
  | cons d ds ih => simp [conjoinEntries, ih]

theorem filter_isDirectOn_map_direct (field : String) (ds : List Clause) :
    (ds.map Entry.direct).filter (fun e => !isDirectOn field e) =
      (ds.filter fun d => !(d.field == field)).map .direct := by
  rw [List.filter_map]
  rfl

theorem filter_isDirectOn_conjunction_cons (field : String) (clauses : List Clause)
    (es : List Entry) :
    (Entry.conjunction clauses :: es).filter (fun e => !isDirectOn field e) =
      .conjunction clauses :: es.filter fun e => !isDirectOn field e := rfl

theorem countP_isDirectOn (field : String) (es : List Entry) :
    es.countP (isDirectOn field) = occurrences (direct ⟨es⟩) field := by
  induction es with
  | nil => rfl
  | cons e es ih =>
    cases e with
    | direct c => simp [direct, occurrences, isDirectOn, List.countP_cons, ih]
    | conjunction clauses => simpa [isDirectOn] using ih

theorem eraseP_eq_filter_of_countP_le_one {α : Type} {p : α → Bool} {l : List α}
    (h : l.countP p ≤ 1) : l.eraseP p = l.filter fun a => !p a := by
  induction l with
  | nil => rfl
  | cons a l ih =>
    by_cases ha : p a
    · have hzero : l.countP p = 0 := by
        rw [List.countP_cons_of_pos ha] at h
        omega
      have hnone : ∀ b ∈ l, !p b := by simpa [List.countP_eq_zero] using hzero
      rw [List.eraseP_cons_of_pos ha, List.filter_cons_of_neg (by simpa using ha),
        List.filter_eq_self.mpr hnone]
    · rw [List.countP_cons_of_neg ha] at h
      rw [List.eraseP_cons_of_neg ha, List.filter_cons_of_pos (by simpa using ha), ih h]

/-- Under their names stand the constraints that are alone on their field. -/
theorem direct_layout (cs : List Clause) : direct ⟨layout cs⟩ = cs.filter (isSingle cs) := by
  unfold layout
  split
  · exact direct_map_direct _
  · rename_i r h
    have hr := firstRepeat?_lt h
    have hsplit (q : Clause → Bool) (hq : q cs[r] = false) :
        cs.filter q = (cs.take r).filter q ++ (cs.drop (r + 1)).filter q := by
      conv_lhs => rw [← List.take_append_drop r cs, List.drop_eq_getElem_cons hr]
      rw [List.filter_append, List.filter_cons_of_neg (by simp [hq])]
    rw [direct_append, direct_conjunction_cons, direct_map_direct, direct_map_direct,
      hsplit _ (isSingle_firstRepeat h hr)]

theorem eraseP_layout {field : String} (h : occurrences cs field = 1) :
    (layout cs).eraseP (isDirectOn field) =
      (layout cs).filter fun e => !isDirectOn field e := by
  refine eraseP_eq_filter_of_countP_le_one ?_
  rw [countP_isDirectOn, direct_layout, ← h]
  exact List.filter_sublist.countP_le

/-- A constraint that is alone on its field is found under its name. -/
theorem get?_layout {field : String} (h : occurrences cs field = 1) :
    get? ⟨layout cs⟩ field = (cs.find? (·.field == field)).map (·.leaf) := by
  have hfind : ∀ x ∈ cs, (isSingle cs x && x.field == field) = (x.field == field) := by
    intro x _
    by_cases hx : x.field = field
    · simp [isSingle, hx, h]
    · simp [hx]
  rw [get?, direct_layout, List.find?_filter]
  simp only [Bool.decide_and, Bool.decide_eq_true]
  rw [List.find?_congr hfind]

/-! ### The layout after one more constraint -/

/-- The first constraint on a field comes last, under its field's name. -/
theorem layout_snoc_of_fresh {c : Clause} (h : occurrences cs c.field = 0) :
    layout (cs ++ [c]) = layout cs ++ [.direct c] := by
  have hc : isSingle (cs ++ [c]) c := by simp [isSingle_snoc, h]
  unfold layout
  rw [firstRepeat?_snoc, h]
  cases hr : firstRepeat? cs with
  | none =>
    simp [List.filter_append, filter_isSingle_of_fresh h (List.Subset.refl cs), hc]
  | some r =>
    have hlt := firstRepeat?_lt hr
    have hshared : shared (cs ++ [c]) = shared cs := by
      simp [shared_snoc, h, contribution]
    simp only [Option.some_or, List.take_append_of_le_length hlt.le,
      List.drop_append_of_le_length (Nat.succ_le_of_lt hlt), List.filter_append, hshared,
      filter_isSingle_of_fresh h (List.take_subset r cs),
      filter_isSingle_of_fresh h (List.drop_subset (r + 1) cs)]
    simp [hc]

/-- The second constraint on a field takes the first one along into the shared list. -/
theorem layout_snoc_of_second {c d : Clause} (h : occurrences cs c.field = 1)
    (hd : cs.find? (·.field == c.field) = some d) :
    layout (cs ++ [c]) =
      conjoinEntries c (conjoinEntries d ((layout cs).eraseP (isDirectOn c.field))) := by
  have hshared : shared (cs ++ [c]) = shared cs ++ [d, c] := by
    simp [shared_snoc, h, contribution, hd]
  rw [eraseP_layout h]
  unfold layout
  rw [firstRepeat?_snoc, if_pos h]
  cases hr : firstRepeat? cs with
  | none =>
    have hconjoin (ds : List Clause) :
        conjoinEntries c (conjoinEntries d (ds.map .direct)) =
          ds.map .direct ++ [.conjunction [d, c]] := by
      rw [conjoinEntries_map_direct, conjoinEntries_append]
      rfl
    simp only [Option.none_or, List.take_left, filter_isSingle_of_second h,
      filter_isDirectOn_map_direct, hconjoin, hshared, shared_eq_nil hr]
    simp
  | some r =>
    have hlt := firstRepeat?_lt hr
    have hlast : [c].filter (fun x => !(x.field == c.field) && isSingle cs x) = [] := by simp
    simp only [Option.some_or, List.take_append_of_le_length hlt.le,
      List.drop_append_of_le_length (Nat.succ_le_of_lt hlt), hshared,
      filter_isSingle_of_second h, List.filter_append, filter_isDirectOn_conjunction_cons,
      filter_isDirectOn_map_direct, conjoinEntries_append, List.filter_filter, hlast]
    simp

/-- A later constraint on a field joins the shared list. -/
theorem layout_snoc_of_later {c : Clause} (h : 2 ≤ occurrences cs c.field) :
    layout (cs ++ [c]) = conjoinEntries c (layout cs) := by
  have hc : isSingle cs c = false := by
    simp only [isSingle, beq_eq_false_iff_ne]
    omega
  have hshared : shared (cs ++ [c]) = shared cs ++ [c] := by
    obtain ⟨k, hk⟩ := Nat.exists_eq_add_of_le' h
    rw [shared_snoc, hk]
    rfl
  obtain ⟨r, hr⟩ := Option.isSome_iff_exists.mp (firstRepeat?_isSome h)
  have hlt := firstRepeat?_lt hr
  unfold layout
  rw [firstRepeat?_snoc, hr]
  simp only [Option.some_or, List.take_append_of_le_length hlt.le,
    List.drop_append_of_le_length (Nat.succ_le_of_lt hlt), List.filter_append, hshared,
    filter_isSingle_of_later h, conjoinEntries_append]
  simp [hc]

/-! ### What the layout holds -/

theorem filter_field_eq_singleton {field : String} {d : Clause} (h : occurrences cs field = 1)
    (hd : cs.find? (·.field == field) = some d) : cs.filter (·.field == field) = [d] := by
  obtain ⟨x, hx⟩ : ∃ x, cs.filter (·.field == field) = [x] := by
    rwa [← List.length_eq_one_iff, ← List.countP_eq_length_filter]
  have hhead : (cs.filter (·.field == field)).head? = some d := by rw [List.head?_filter, hd]
  rw [hx, List.head?_cons, Option.some.injEq] at hhead
  rw [hx, hhead]

theorem field_of_mem_contribution {c x : Clause} {rank : Nat} (hx : x ∈ contribution cs c rank) :
    x.field = c.field := by
  match rank with
  | 0 | 1 => simp [contribution] at hx
  | 2 =>
    simp only [contribution, List.mem_append, Option.mem_toList, List.mem_singleton] at hx
    rcases hx with hx | rfl
    · simpa using List.find?_some hx
    · rfl
  | _ + 3 => rw [List.mem_singleton.mp hx]

/-- The shared list has all constraints on a field in their order, if there are several, and
none otherwise. -/
theorem filter_shared (cs : List Clause) (field : String) :
    (shared cs).filter (·.field == field) =
      if 2 ≤ occurrences cs field then cs.filter (·.field == field) else [] := by
  induction cs using List.reverseRecOn with
  | nil => rfl
  | append_singleton cs c ih =>
    rw [shared_snoc, List.filter_append, List.filter_append, ih, occurrences_snoc]
    by_cases hc : c.field = field
    · subst hc
      match hn : occurrences cs c.field with
      | 0 => simp [contribution]
      | 1 =>
        obtain ⟨d, hd⟩ := exists_find?_of_occurrences_pos (hn ▸ Nat.one_pos)
        have hfield : d.field = c.field := by simpa using List.find?_some hd
        simp [contribution, hd, hfield, filter_field_eq_singleton hn hd]
      | n + 2 => simp [contribution]
    · have hnone :
          (contribution cs c (occurrences cs c.field + 1)).filter (·.field == field) = [] := by
        rw [List.filter_eq_nil_iff]
        intro x hx
        simpa [field_of_mem_contribution hx] using hc
      simp [hc, hnone]

theorem mem_shared_iff {c : Clause} :
    c ∈ shared cs ↔ c ∈ cs ∧ 2 ≤ occurrences cs c.field := by
  have hfilter := filter_shared cs c.field
  constructor
  · intro hc
    have hmem : c ∈ (shared cs).filter (·.field == c.field) := by simp [hc]
    rw [hfilter] at hmem
    split at hmem
    · rename_i htwo
      exact ⟨(List.mem_filter.mp hmem).1, htwo⟩
    · simp at hmem
  · rintro ⟨hc, htwo⟩
    rw [if_pos htwo] at hfilter
    have hmem : c ∈ cs.filter (·.field == c.field) := by simp [hc]
    rw [← hfilter] at hmem
    exact (List.mem_filter.mp hmem).1

/-- A constraint is alone on its field or in the shared list. -/
theorem isSingle_or_mem_shared {c : Clause} (hc : c ∈ cs) :
    isSingle cs c ∨ c ∈ shared cs := by
  have hpos : 0 < occurrences cs c.field := occurrences_pos_iff.mpr ⟨c, hc, rfl⟩
  rw [mem_shared_iff, isSingle, beq_iff_eq]
  by_cases hone : occurrences cs c.field = 1
  · exact Or.inl hone
  · exact Or.inr ⟨hc, by omega⟩

theorem two_le_length_shared (h : firstRepeat? cs ≠ none) : 2 ≤ (shared cs).length := by
  obtain ⟨r, hr⟩ := Option.ne_none_iff_exists'.mp h
  have hlt := firstRepeat?_lt hr
  have hpos : 0 < occurrences cs cs[r].field :=
    occurrences_pos_iff.mpr ⟨cs[r], List.getElem_mem hlt, rfl⟩
  have hne : occurrences cs cs[r].field ≠ 1 := by
    simpa [isSingle] using isSingle_firstRepeat hr hlt
  have htwo : 2 ≤ occurrences cs cs[r].field := by omega
  calc
    2 ≤ (cs.filter (·.field == cs[r].field)).length := by
      rwa [← List.countP_eq_length_filter]
    _ = ((shared cs).filter (·.field == cs[r].field)).length := by
      rw [filter_shared, if_pos htwo]
    _ ≤ (shared cs).length := List.length_filter_le _ _

theorem mem_layout_iff {e : Entry} :
    e ∈ layout cs ↔ (∃ c ∈ cs, isSingle cs c ∧ e = .direct c) ∨
      firstRepeat? cs ≠ none ∧ e = .conjunction (shared cs) := by
  have hdirect (c : Clause) : Entry.direct c ∈ layout cs ↔ c ∈ cs ∧ isSingle cs c := by
    rw [← List.mem_filter, ← direct_layout, direct, List.mem_filterMap]
    constructor
    · intro hc
      exact ⟨_, hc, rfl⟩
    · rintro ⟨e, he, heq⟩
      cases e with
      | direct d => rwa [← Option.some.inj heq]
      | conjunction clauses => cases heq
  cases e with
  | direct c =>
    rw [hdirect]
    constructor
    · rintro ⟨hc, hsingle⟩
      exact Or.inl ⟨c, hc, hsingle, rfl⟩
    · rintro (⟨d, hd, hsingle, heq⟩ | ⟨-, heq⟩)
      · cases heq
        exact ⟨hd, hsingle⟩
      · cases heq
  | conjunction clauses =>
    unfold layout
    cases firstRepeat? cs <;> simp

/-! ### The builder -/

namespace Builder

/-- The placement of a field with the given number of constraints. -/
def placementOf : Nat → Option Placement
  | 0 => none
  | 1 => some .direct
  | _ => some .conjoined

/-- The builder is the one for a list of constraints: its filter has their layout, and its table
tells a field without constraints, with one and with several apart. -/
structure Holds (b : Builder) (cs : List Clause) : Prop where
  /-- The entries of the filter. -/
  entries : b.filter.entries = layout cs
  /-- The table of placements. -/
  placement : ∀ field, b.placement? field = placementOf (occurrences cs field)

theorem placement?_mk_cons (f : Filter) (table : List (String × Placement)) (x field : String)
    (p : Placement) :
    placement? ⟨f, (x, p) :: table⟩ field = if x = field then some p else table.lookup field := by
  by_cases h : x = field
  · simp [placement?, h]
  · have hne : (field == x) = false := by simpa using Ne.symm h
    simp [placement?, List.lookup_cons, h, hne]

/-- Moving the only constraint on a field into the shared list. -/
theorem demote_layout {c d : Clause} (h : occurrences cs c.field = 1)
    (hd : cs.find? (·.field == c.field) = some d) :
    demote ⟨layout cs⟩ c.field =
      ⟨conjoinEntries d ((layout cs).eraseP (isDirectOn c.field))⟩ := by
  have hfield : d.field = c.field := by simpa using List.find?_some hd
  rw [demote, get?_layout h, hd, ← hfield]
  rfl

/-- Placing one more constraint goes from one layout to the next. -/
theorem Holds.place {b : Builder} (hb : b.Holds cs) (c : Clause) :
    (b.place c).Holds (cs ++ [c]) := by
  have hfilter : b.filter = ⟨layout cs⟩ := congrArg Filter.mk hb.entries
  have htable (field : String) (hne : c.field ≠ field) :
      b.placements.lookup field = placementOf (occurrences (cs ++ [c]) field) := by
    rw [occurrences_snoc, if_neg hne]
    exact hb.placement field
  have hcount : occurrences (cs ++ [c]) c.field = occurrences cs c.field + 1 := by
    rw [occurrences_snoc, if_pos rfl]
  unfold Builder.place
  rw [hb.placement, hfilter]
  -- The table says how many constraints on the field there are, and so which layout comes next.
  match hn : occurrences cs c.field with
  | 0 =>
    refine ⟨(layout_snoc_of_fresh hn).symm, fun field => ?_⟩
    rw [placementOf, placement?_mk_cons]
    split
    · rename_i heq
      rw [← heq, hcount, hn]
      rfl
    · rename_i hne
      exact htable field hne
  | 1 =>
    obtain ⟨d, hd⟩ := exists_find?_of_occurrences_pos (hn ▸ Nat.one_pos)
    refine ⟨?_, fun field => ?_⟩
    · rw [layout_snoc_of_second hn hd, placementOf, demote_layout hn hd]
      rfl
    · rw [placementOf, placement?_mk_cons]
      split
      · rename_i heq
        rw [← heq, hcount, hn]
        rfl
      · rename_i hne
        exact htable field hne
  | n + 2 =>
    refine ⟨(layout_snoc_of_later (by omega)).symm, fun field => ?_⟩
    by_cases heq : c.field = field
    · rw [← heq, hcount, hn]
      exact (hb.placement c.field).trans (by rw [hn]; rfl)
    · exact htable field heq

/-- The builder after a list of constraints is the one for that list. -/
theorem holds_ofClauses (cs : List Clause) : (ofClauses cs).Holds cs := by
  induction cs using List.reverseRecOn with
  | nil => exact ⟨rfl, fun _ => rfl⟩
  | append_singleton cs c ih =>
    rw [ofClauses, List.foldl_append]
    exact ih.place c

end Builder

end CatalogFilter.Filter
