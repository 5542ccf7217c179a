import CatalogFilter.Text.EditDistance
import Mathlib.Data.List.Induction
import Mathlib.Order.Bounds.Basic
import Mathlib.Order.MinMax

/-!
# The edit distance counts edits

The edit distance of two words is the least number of insertions, deletions and substitutions of
single items that lead from one to the other, through any words in between (`isLeast_editDistance`).

The proof goes through alignments, which walk through both words once and pay for every item that
they do not keep. An alignment is a way to edit one word into the other; in turn, edits one after
the other come down to an alignment that costs no more, since undoing one edit changes the cost of
an alignment by one at most (`Aligns.exists_of_edit`). The table of the distance is filled with the
least costs of alignments: an alignment of two words ends in one of the ways that the three
neighbours of an entry stand for (`least_snoc_snoc`), and every row holds the least costs against all
prefixes (`Costs`).

* `Edit`, `Edits`: one edit, and a number of edits one after the other.
* `Aligns`: alignments with their costs; `edits_of_aligns` and `exists_aligns_of_edits` compare
  them with edits.
* `Costs.fillRow`, `isRow_foldl`: the rows of the table.
-/

namespace CatalogFilter.Text

variable {α : Type}

/-! ### Edits -/

/-- One edit of a word: an item is put in, taken out or replaced. -/
inductive Edit : List α → List α → Prop
  | insert (u : List α) (a : α) (v : List α) : Edit (u ++ v) (u ++ a :: v)
  | delete (u : List α) (a : α) (v : List α) : Edit (u ++ a :: v) (u ++ v)
  | substitute (u : List α) (a b : α) (v : List α) : Edit (u ++ a :: v) (u ++ b :: v)

/-- A number of edits, one after the other, that lead from one word to another. -/
inductive Edits : Nat → List α → List α → Prop
  | refl (u : List α) : Edits 0 u u
  | step {n : Nat} {u v w : List α} : Edit u v → Edits n v w → Edits (n + 1) u w

theorem Edit.cons {u v : List α} (h : Edit u v) (c : α) : Edit (c :: u) (c :: v) := by
  cases h with
  | insert u a v => exact .insert (c :: u) a v
  | delete u a v => exact .delete (c :: u) a v
  | substitute u a b v => exact .substitute (c :: u) a b v

theorem Edits.cons {n : Nat} {u v : List α} (h : Edits n u v) (c : α) :
    Edits n (c :: u) (c :: v) := by
  induction h with
  | refl u => exact .refl (c :: u)
  | step he _ ih => exact .step (he.cons c) ih

/-! ### Alignments -/

/-- A walk through two words at once, with the number of items that are not kept. -/
inductive Aligns : Nat → List α → List α → Prop
  | nil : Aligns 0 [] []
  | insert {n : Nat} {u v : List α} (b : α) : Aligns n u v → Aligns (n + 1) u (b :: v)
  | delete {n : Nat} {u v : List α} (a : α) : Aligns n u v → Aligns (n + 1) (a :: u) v
  | keep {n : Nat} {u v : List α} (a : α) : Aligns n u v → Aligns n (a :: u) (a :: v)
  | substitute {n : Nat} {u v : List α} (a b : α) :
      Aligns n u v → Aligns (n + 1) (a :: u) (b :: v)

/-- An alignment is a way to edit one word into the other. -/
theorem edits_of_aligns {n : Nat} {u v : List α} (h : Aligns n u v) : Edits n u v := by
  induction h with
  | nil => exact .refl []
  | insert b _ ih => exact .step (.insert [] b _) (ih.cons b)
  | delete a _ ih => exact .step (.delete [] a _) ih
  | keep a _ ih => exact ih.cons a
  | substitute a b _ ih => exact .step (.substitute [] a b _) (ih.cons b)

namespace Aligns

variable {n m : Nat} {u v w : List α}

theorem refl (u : List α) : Aligns 0 u u := by
  induction u with
  | nil => exact .nil
  | cons a u ih => exact .keep a ih

theorem nil_left (v : List α) : Aligns v.length [] v := by
  induction v with
  | nil => exact .nil
  | cons b v ih => exact .insert b ih

theorem symm (h : Aligns n u v) : Aligns n v u := by
  induction h with
  | nil => exact .nil
  | insert b _ ih => exact .delete b ih
  | delete a _ ih => exact .insert a ih
  | keep a _ ih => exact .keep a ih
  | substitute a b _ ih => exact .substitute b a ih

theorem length_le (h : Aligns n u v) : v.length ≤ n + u.length := by
  induction h <;> simp only [List.length_nil, List.length_cons] <;> omega

theorem append {u' v' : List α} (h : Aligns n u v) (h' : Aligns m u' v') :
    Aligns (n + m) (u ++ u') (v ++ v') := by
  induction h with
  | nil => rwa [Nat.zero_add]
  | insert b _ ih =>
    rw [Nat.add_right_comm]
    exact .insert b ih
  | delete a _ ih =>
    rw [Nat.add_right_comm]
    exact .delete a ih
  | keep a _ ih => exact .keep a ih
  | substitute a b _ ih =>
    rw [Nat.add_right_comm]
    exact .substitute a b ih

/-- An alignment of a word that is cut in two is cut in two. -/
theorem exists_of_append {p s : List α} (h : Aligns n (p ++ s) w) :
    ∃ i k w₁ w₂, n = i + k ∧ w = w₁ ++ w₂ ∧ Aligns i p w₁ ∧ Aligns k s w₂ := by
  generalize hu : p ++ s = u at h
  induction h generalizing p with
  | nil =>
    obtain ⟨rfl, rfl⟩ := List.append_eq_nil_iff.mp hu
    exact ⟨0, 0, [], [], rfl, rfl, .nil, .nil⟩
  | insert b _ ih =>
    -- An item that is put in right at the cut goes to the first part.
    obtain ⟨i, k, w₁, w₂, rfl, rfl, hp, hs⟩ := ih hu
    exact ⟨i + 1, k, b :: w₁, w₂, by omega, rfl, .insert b hp, hs⟩
  | delete a h ih =>
    rcases List.append_eq_cons_iff.mp hu with ⟨rfl, rfl⟩ | ⟨p, rfl, rfl⟩
    · exact ⟨0, _, [], _, (Nat.zero_add _).symm, rfl, .nil, .delete a h⟩
    · obtain ⟨i, k, w₁, w₂, rfl, rfl, hp, hs⟩ := ih rfl
      exact ⟨i + 1, k, w₁, w₂, by omega, rfl, .delete a hp, hs⟩
  | keep a h ih =>
    rcases List.append_eq_cons_iff.mp hu with ⟨rfl, rfl⟩ | ⟨p, rfl, rfl⟩
    · exact ⟨0, _, [], _, (Nat.zero_add _).symm, rfl, .nil, .keep a h⟩
    · obtain ⟨i, k, w₁, w₂, rfl, rfl, hp, hs⟩ := ih rfl
      exact ⟨i, k, a :: w₁, w₂, rfl, rfl, .keep a hp, hs⟩
  | substitute a b h ih =>
    rcases List.append_eq_cons_iff.mp hu with ⟨rfl, rfl⟩ | ⟨p, rfl, rfl⟩
    · exact ⟨0, _, [], _, (Nat.zero_add _).symm, rfl, .nil, .substitute a b h⟩
    · obtain ⟨i, k, w₁, w₂, rfl, rfl, hp, hs⟩ := ih rfl
      exact ⟨i + 1, k, b :: w₁, w₂, by omega, rfl, .substitute a b hp, hs⟩

/-- In an alignment, one item of the first word stands against as many items of the second as the
alignment pays for there, and one more. -/
theorem exists_of_append_cons {p s : List α} {a : α} (h : Aligns n (p ++ a :: s) w) :
    ∃ i j k w₁ x w₂, n = i + (j + k) ∧ w = w₁ ++ (x ++ w₂) ∧ Aligns i p w₁ ∧
      x.length ≤ j + 1 ∧ Aligns k s w₂ := by
  obtain ⟨i, r, w₁, y, rfl, rfl, hp, hrest⟩ := h.exists_of_append
  rw [← List.singleton_append] at hrest
  obtain ⟨j, k, x, w₂, rfl, rfl, hx, hs⟩ := hrest.exists_of_append
  exact ⟨i, j, k, w₁, x, w₂, rfl, rfl, hp, hx.length_le, hs⟩

/-- An edit in front of an alignment costs one at most. -/
theorem exists_of_edit (he : Edit u v) (h : Aligns n v w) : ∃ m ≤ n + 1, Aligns m u w := by
  cases he with
  | insert p a s =>
    obtain ⟨i, j, k, w₁, x, w₂, rfl, rfl, hp, hx, hs⟩ := h.exists_of_append_cons
    exact ⟨i + (x.length + k), by omega, hp.append ((nil_left x).append hs)⟩
  | delete p a s =>
    obtain ⟨i, k, w₁, w₂, rfl, rfl, hp, hs⟩ := h.exists_of_append
    exact ⟨i + (k + 1), by omega, hp.append (.delete a hs)⟩
  | substitute p a b s =>
    -- The new item takes the place of the old one against the first of the items there, if any.
    obtain ⟨i, j, k, w₁, x, w₂, rfl, rfl, hp, hx, hs⟩ := h.exists_of_append_cons
    cases x with
    | nil => exact ⟨i + (k + 1), by omega, hp.append (.delete a hs)⟩
    | cons c x =>
      rw [List.length_cons] at hx
      exact ⟨i + (x.length + k + 1), by omega,
        hp.append (.substitute a c ((nil_left x).append hs))⟩

end Aligns

/-- Edits one after the other come down to an alignment that costs no more. -/
theorem exists_aligns_of_edits {n : Nat} {u v : List α} (h : Edits n u v) :
    ∃ m ≤ n, Aligns m u v := by
  induction h with
  | refl u => exact ⟨0, le_rfl, .refl u⟩
  | step he _ ih =>
    obtain ⟨m, hm, hv⟩ := ih
    obtain ⟨k, hk, hu⟩ := hv.exists_of_edit he
    exact ⟨k, by omega, hu⟩

/-! ### Least costs -/

/-- The least cost of an alignment of two words. -/
def Least (n : Nat) (u v : List α) : Prop :=
  IsLeast {m | Aligns m u v} n

/-- The least cost of an alignment is the least number of edits. -/
theorem Least.isLeast_edits {n : Nat} {u v : List α} (h : Least n u v) :
    IsLeast {m | Edits m u v} n := by
  refine ⟨edits_of_aligns h.1, fun m hm => ?_⟩
  obtain ⟨k, hk, haligns⟩ := exists_aligns_of_edits hm
  exact (h.2 haligns).trans hk

theorem least_nil_left (v : List α) : Least v.length [] v :=
  ⟨.nil_left v, fun _ h => h.length_le⟩

theorem least_nil_right (u : List α) : Least u.length u [] :=
  ⟨(Aligns.nil_left u).symm, fun _ h => h.symm.length_le⟩

theorem Aligns.reverse {n : Nat} {u v : List α} (h : Aligns n u v) :
    Aligns n u.reverse v.reverse := by
  induction h with
  | nil => exact .nil
  | insert b _ ih => simpa using ih.append (.insert b .nil)
  | delete a _ ih => simpa using ih.append (.delete a .nil)
  | keep a _ ih => simpa using ih.append (.keep a .nil)
  | substitute a b _ ih => simpa using ih.append (.substitute a b .nil)

/-- An alignment of two words ends with an item put in, taken out, kept or replaced. -/
theorem Aligns.snoc_cases {n : Nat} {u v : List α} {a b : α}
    (h : Aligns n (u ++ [a]) (v ++ [b])) :
    (∃ m, n = m + 1 ∧ Aligns m (u ++ [a]) v) ∨ (∃ m, n = m + 1 ∧ Aligns m u (v ++ [b])) ∨
      (a = b ∧ Aligns n u v) ∨ ∃ m, n = m + 1 ∧ Aligns m u v := by
  -- Alignments are built up from the front of the words, so the ends are brought there.
  have hreverse := h.reverse
  rw [List.reverse_concat, List.reverse_concat] at hreverse
  have hback {k : Nat} {x y : List α} (hxy : Aligns k x.reverse y.reverse) : Aligns k x y := by
    simpa using hxy.reverse
  cases hreverse with
  | insert _ h => exact .inl ⟨_, rfl, hback (by simpa using h)⟩
  | delete _ h => exact .inr (.inl ⟨_, rfl, hback (by simpa using h)⟩)
  | keep _ h => exact .inr (.inr (.inl ⟨rfl, hback h⟩))
  | substitute _ _ h => exact .inr (.inr (.inr ⟨_, rfl, hback h⟩))

/-- The least cost for two words with one more item each, from the three neighbours in the table. -/
theorem least_snoc_snoc [DecidableEq α] {u v : List α} {a b : α} {left up diagonal : Nat}
    (hleft : Least left (u ++ [a]) v) (hup : Least up u (v ++ [b])) (hdiagonal : Least diagonal u v) :
    Least (min (min (left + 1) (up + 1)) (diagonal + if a = b then 0 else 1))
      (u ++ [a]) (v ++ [b]) := by
  have hinsert : Aligns (left + 1) (u ++ [a]) (v ++ [b]) := by
    simpa using hleft.1.append (.insert b .nil)
  have hdelete : Aligns (up + 1) (u ++ [a]) (v ++ [b]) := by
    simpa using hup.1.append (.delete a .nil)
  have hlast : Aligns (diagonal + if a = b then 0 else 1) (u ++ [a]) (v ++ [b]) := by
    refine hdiagonal.1.append ?_
    split
    · rename_i heq
      exact heq ▸ .keep a .nil
    · exact .substitute a b .nil
  constructor
  · rcases min_choice (min (left + 1) (up + 1)) (diagonal + if a = b then 0 else 1) with h | h
    · rcases min_choice (left + 1) (up + 1) with h' | h'
      · rwa [h, h']
      · rwa [h, h']
    · rwa [h]
  · intro n hn
    rcases hn.snoc_cases with ⟨m, rfl, hm⟩ | ⟨m, rfl, hm⟩ | ⟨rfl, hm⟩ | ⟨m, rfl, hm⟩
    · have := hleft.2 hm
      omega
    · have := hup.2 hm
      omega
    · have := hdiagonal.2 hm
      rw [if_pos rfl]
      omega
    · have := hdiagonal.2 hm
      split <;> omega

/-! ### The table -/

namespace EditDistance

/-- The entries are the least costs of a word against a prefix with one, two and more of the
following items, up to all of them. -/
inductive Costs (w : List α) : (p v : List α) → List Nat → Prop
  | nil (p : List α) : Costs w p [] []
  | cons {p v : List α} {b : α} {n : Nat} {ns : List Nat} :
      Least n w (p ++ [b]) → Costs w (p ++ [b]) v ns → Costs w p (b :: v) (n :: ns)

theorem costs_range' (p v : List α) : Costs [] p v (List.range' (p.length + 1) v.length) := by
  induction v generalizing p with
  | nil => exact .nil p
  | cons b v ih =>
    have hhead := least_nil_left (p ++ [b])
    have htail := ih (p ++ [b])
    rw [List.length_append, List.length_singleton] at hhead htail
    exact .cons hhead htail

theorem Costs.exists_getLast? {w p v : List α} {n : Nat} {ns : List Nat} (h : Costs w p v ns)
    (hn : Least n w p) : ∃ d, (n :: ns).getLast? = some d ∧ Least d w (p ++ v) := by
  induction h generalizing n with
  | nil p => exact ⟨n, rfl, by rwa [List.append_nil]⟩
  | cons hhead _ ih =>
    obtain ⟨d, hd, hleast⟩ := ih hhead
    rw [List.append_assoc, List.singleton_append] at hleast
    exact ⟨d, by rwa [List.getLast?_cons_cons], hleast⟩

/-- The row of a word: the least costs against all prefixes of another. -/
def IsRow (w v : List α) (row : List Nat) : Prop :=
  ∃ ns, row = w.length :: ns ∧ Costs w [] v ns

theorem isRow_firstRow (v : List α) : IsRow [] v (firstRow v) := by
  refine ⟨List.range' 1 v.length, ?_, costs_range' [] v⟩
  rw [firstRow, List.range_eq_range', List.range'_succ]
  rfl

variable [DecidableEq α]

/-- The entries of the next row are least costs if those of the previous row are. -/
theorem Costs.fillRow {w p v : List α} {a : α} {left diagonal : Nat} {above : List Nat}
    (h : Costs w p v above) (hleft : Least left (w ++ [a]) p) (hdiagonal : Least diagonal w p) :
    Costs (w ++ [a]) p v (fillRow a left diagonal v above) := by
  induction h generalizing left diagonal with
  | nil p => exact .nil p
  | cons hup _ ih =>
    have hentry := least_snoc_snoc hleft hup hdiagonal
    exact .cons hentry (ih hentry hup)

theorem IsRow.nextRow {w v : List α} {row : List Nat} (h : IsRow w v row) (a : α) :
    IsRow (w ++ [a]) v (nextRow v row a) := by
  obtain ⟨ns, rfl, hns⟩ := h
  have hleft : Least (w.length + 1) (w ++ [a]) [] := by
    simpa using least_nil_right (w ++ [a])
  exact ⟨_, by rw [List.length_append]; rfl, hns.fillRow hleft (least_nil_right w)⟩

theorem isRow_foldl (w v : List α) : IsRow w v (w.foldl (nextRow v) (firstRow v)) := by
  induction w using List.reverseRecOn with
  | nil => exact isRow_firstRow v
  | append_singleton w a ih =>
    rw [List.foldl_append]
    exact ih.nextRow a

end EditDistance

variable [DecidableEq α]

theorem least_editDistance (w v : List α) : Least (editDistance w v) w v := by
  obtain ⟨ns, hrow, hns⟩ := EditDistance.isRow_foldl w v
  obtain ⟨d, hd, hleast⟩ := hns.exists_getLast? (least_nil_right w)
  rw [editDistance, hrow, hd]
  exact hleast

/-- The edit distance is the least number of edits that lead from one word to the other. -/
theorem isLeast_editDistance (w v : List α) : IsLeast {n | Edits n w v} (editDistance w v) :=
  (least_editDistance w v).isLeast_edits

end CatalogFilter.Text
