import CatalogFilter.Proofs.Condition.Accepted
import CatalogFilter.Proofs.Condition.Division
import CatalogFilter.Proofs.Text.Trimming
import Mathlib.Data.List.MinMax

/-!
# The leftmost longest reading of a line

The search for an operator goes by the order of the operators and not by their places, so that an
operator inside a value can divide the line. A reader would rather take the operator that stands
leftmost, and the longest one there. This file defines that reading and shows that the two agree on
every line whose field is one that rules may speak of: a line that is divided at another place has
an operator in its field, and no such field exists.

* `Reading.longestAt?`, `Reading.split?`, `Reading.read?`: the leftmost longest reading.
* `Reading.split?_eq_some`: what the reading finds is leftmost and longest.
* `Reading.read?_of_parse`: a condition on a field that rules may speak of is the one that the
  leftmost longest reading gives.
-/

namespace CatalogFilter.Reading

/-! ### The reading -/

/-- The longest operator that the text starts with. -/
def longestAt? (cs : List Char) : Option Operator :=
  (Operator.displayOrder.filter (·.mark.isPrefixOf cs)).argmax (·.mark.length)

/-- The leftmost operator of the text, the longest one at its place, with the texts around it. -/
def split? : List Char → Option (List Char × Operator × List Char)
  | [] => none
  | c :: cs =>
      match longestAt? (c :: cs) with
      | some op => some ([], op, (c :: cs).drop op.mark.length)
      | none => (split? cs).map fun (before, op, after) => (c :: before, op, after)

/-- The field, the operator and the value of a line in the leftmost longest reading. -/
def read? (line : String) : Option (String × Operator × String) :=
  (split? (Text.trim line.toList)).map fun (before, op, after) =>
    (.ofList (Text.trim before), op, .ofList (Text.trim after))

theorem mem_longestAt?_candidates {cs : List Char} {op : Operator} :
    op ∈ Operator.displayOrder.filter (·.mark.isPrefixOf cs) ↔ op.mark <+: cs := by
  simp [Operator.mem_displayOrder]

theorem longestAt?_eq_none_iff {cs : List Char} :
    longestAt? cs = none ↔ ∀ op : Operator, ¬ op.mark <+: cs := by
  rw [longestAt?, List.argmax_eq_none, List.filter_eq_nil_iff]
  simp [Operator.mem_displayOrder]

theorem longest_of_longestAt?_eq_some {cs : List Char} {op : Operator}
    (h : longestAt? cs = some op) : op.mark <+: cs ∧
      ∀ op' : Operator, op'.mark <+: cs → op'.mark.length ≤ op.mark.length := by
  refine ⟨mem_longestAt?_candidates.mp (List.argmax_mem h), fun op' hop' => ?_⟩
  exact List.le_of_mem_argmax (f := fun op : Operator => op.mark.length)
    (mem_longestAt?_candidates.mpr hop') h

/-- The longest operator at a place is the one that is there and is not shorter than any other
one there. -/
theorem longestAt?_eq_some_iff {cs : List Char} {op : Operator} :
    longestAt? cs = some op ↔ op.mark <+: cs ∧
      ∀ op' : Operator, op'.mark <+: cs → op'.mark.length ≤ op.mark.length := by
  refine ⟨longest_of_longestAt?_eq_some, fun ⟨hop, hmax⟩ => ?_⟩
  cases hfound : longestAt? cs with
  | none => exact absurd hop (longestAt?_eq_none_iff.mp hfound op)
  | some found =>
    obtain ⟨hstart, hfoundMax⟩ := longest_of_longestAt?_eq_some hfound
    have hlength : found.mark.length = op.mark.length :=
      Nat.le_antisymm (hmax found hstart) (hfoundMax op hop)
    have hmark : found.mark = op.mark :=
      (List.prefix_of_prefix_length_le hstart hop hlength.le).eq_of_length hlength
    rw [Operator.mark_injective hmark]

/-- What the reading finds is leftmost and longest: no operator starts before it, and none at its
place is longer. -/
theorem split?_eq_some {cs before after : List Char} {op : Operator}
    (h : split? cs = some (before, op, after)) :
    cs = before ++ op.mark ++ after ∧
      (∀ op' : Operator, ∀ n < before.length, ¬ op'.mark <+: cs.drop n) ∧
      ∀ op' : Operator, op'.mark <+: cs.drop before.length →
        op'.mark.length ≤ op.mark.length := by
  induction cs generalizing before with
  | nil => simp [split?] at h
  | cons c cs ih =>
    simp only [split?] at h
    cases hlong : longestAt? (c :: cs) with
    | some found =>
      simp only [hlong, Option.some.injEq, Prod.mk.injEq] at h
      obtain ⟨rfl, rfl, rfl⟩ := h
      obtain ⟨hstart, hmax⟩ := longestAt?_eq_some_iff.mp hlong
      refine ⟨(List.prefix_iff_eq_append.mp hstart).symm, by simp, by simpa using hmax⟩
    | none =>
      simp only [hlong, Option.map_eq_some_iff] at h
      obtain ⟨⟨before', op', after'⟩, hsplit, heq⟩ := h
      obtain ⟨rfl, rfl, rfl⟩ : c :: before' = before ∧ op' = op ∧ after' = after := by
        simpa using heq
      obtain ⟨hcs, hleft, hmax⟩ := ih hsplit
      refine ⟨by simp [← hcs], fun x n hn => ?_, by simpa using hmax⟩
      cases n with
      | zero => exact longestAt?_eq_none_iff.mp hlong x
      | succ n => exact hleft x n (by simpa using hn)

/-! ### Texts without operators -/

/-- No operator starts in a text without the characters of operators. -/
theorem split?_append {before : List Char} (hbefore : ∀ x ∈ before, x ∉ Operator.chars)
    {rest : List Char} {op : Operator} (hop : longestAt? rest = some op) :
    split? (before ++ rest) = some (before, op, rest.drop op.mark.length) := by
  induction before with
  | nil =>
    cases rest with
    | nil =>
      have hnone : longestAt? [] = none := by decide
      simp [hnone] at hop
    | cons c rest => simp [split?, hop]
  | cons x before ih =>
    have hnone : longestAt? (x :: (before ++ rest)) = none := by
      refine longestAt?_eq_none_iff.mpr fun op' hstart => ?_
      obtain ⟨w, hw, ws, hmark⟩ := op'.exists_mark_eq_cons
      rw [hmark, List.cons_prefix_cons] at hstart
      exact hbefore x List.mem_cons_self (hstart.1 ▸ hw)
    have htail := ih fun y hy => hbefore y (List.mem_cons_of_mem x hy)
    rw [List.cons_append, split?, hnone, htail]
    rfl

/-- A text has no characters of operators if it has none after trimming. -/
theorem notMem_chars_of_trim {cs : List Char} (h : ∀ x ∈ Text.trim cs, x ∉ Operator.chars) :
    ∀ x ∈ cs, x ∉ Operator.chars := by
  obtain ⟨left, right, hcs, hleft, hright⟩ := Text.exists_append_trim cs
  intro x hx hchar
  rw [hcs, List.mem_append, List.mem_append] at hx
  rcases hx with (hx | hx) | hx
  · simpa [Operator.isBlank_of_mem_chars hchar] using hleft x hx
  · exact h x hx hchar
  · simpa [Operator.isBlank_of_mem_chars hchar] using hright x hx

/-- No field that rules may speak of has a character of an operator in its name. -/
theorem notMem_chars_of_mem_selectableNames {name : String}
    (h : name ∈ Catalog.selectableNames) : ∀ x ∈ name.toList, x ∉ Operator.chars := by
  have hall : Catalog.selectableNames.all fun name =>
      name.toList.all fun x => !Operator.chars.contains x := by decide
  exact Operator.notMem_chars_of_all (List.all_eq_true.mp hall name h)

/-! ### The search agrees with the reading -/

/-- An operator that divides a line behind a text without operators is the longest at its place: a
longer one there would have been searched for before it. -/
theorem longestAt?_of_divide? {line before after : List Char} {op : Operator}
    (h : Condition.divide? line = some (op, before, after))
    (hbefore : ∀ x ∈ before, x ∉ Operator.chars) :
    longestAt? (op.mark ++ after) = some op := by
  obtain ⟨hcut, hearlier⟩ := Condition.divide?_eq_some_iff.mp h
  obtain ⟨hsplit, hne⟩ := Condition.cutAt?_eq_some_iff.mp hcut
  have hline : line = before ++ (op.mark ++ after) := by
    rw [Text.splitFirst_eq_some hsplit, List.append_assoc]
  refine longestAt?_eq_some_iff.mpr ⟨List.prefix_append _ _, fun op' hop' => ?_⟩
  by_contra hlonger
  have hextends : op.mark <+: op'.mark :=
    List.prefix_of_prefix_length_le (List.prefix_append _ _) hop' (by omega)
  have hpred : op' ∈ op.predecessors := by
    refine Operator.mem_predecessors_of_prefix hextends ?_
    rintro rfl
    exact hlonger le_rfl
  obtain ⟨after', hafter'⟩ := hop'
  obtain ⟨w, hw, ws, hmark⟩ := op'.exists_mark_eq_cons
  have hsplit' : Text.splitFirst op'.mark line = some (before, after') := by
    rw [hline, ← hafter', ← List.append_assoc, hmark]
    exact Text.splitFirst_append (fun hmem => hbefore w hmem hw) after'
  have hcut' := Condition.cutAt?_eq_some_iff.mpr ⟨hsplit', hne⟩
  rw [hearlier op' hpred] at hcut'
  cases hcut'

/-- A line whose field has no characters of operators is read as the leftmost longest reading has
it. -/
theorem read?_of_notMem_chars {line : String} {c : Condition} (h : Condition.parse line = .ok c)
    (hfield : ∀ x ∈ c.field.toList, x ∉ Operator.chars) :
    read? line = some (c.field, c.operator, c.value) := by
  obtain ⟨before, after, hdivide, -, -, hbefore, hvalue, -⟩ :=
    Condition.readTrimmed_eq_ok_iff.mp (Condition.parse_eq_ok_iff.mp h)
  have hclean : ∀ x ∈ before, x ∉ Operator.chars :=
    notMem_chars_of_trim (by simpa [hbefore] using hfield)
  have hsplit := Condition.cutAt?_eq_some_iff.mp (Condition.divide?_eq_some_iff.mp hdivide).1
  rw [read?, Text.splitFirst_eq_some hsplit.1, List.append_assoc,
    split?_append hclean (longestAt?_of_divide? hdivide hclean)]
  simp [hbefore, hvalue]

/-- **A line is never misread.** Whenever a line is read as a condition on a field that rules may
speak of, the leftmost longest reading gives the same field, operator and value. So every condition
that is read and keeps the rules is the one that the leftmost longest reading gives. -/
theorem read?_of_parse {line : String} {c : Condition} (h : Condition.parse line = .ok c) :
    (c.field ∈ Catalog.selectableNames → read? line = some (c.field, c.operator, c.value)) ∧
      (c.validate = .ok () → read? line = some (c.field, c.operator, c.value)) := by
  have hread (hfield : c.field ∈ Catalog.selectableNames) :
      read? line = some (c.field, c.operator, c.value) :=
    read?_of_notMem_chars h (notMem_chars_of_mem_selectableNames hfield)
  refine ⟨hread, fun hvalid => ?_⟩
  obtain ⟨k, hk⟩ := Condition.exists_clause_of_validate hvalid
  exact hread (Condition.clause_eq_ok_iff.mp hk).1

/-- A value full of operators, behind a field without one. -/
theorem read?_of_parse_category :
    ∃ c, Condition.parse "  category >= a=b!=<c>  " = .ok c ∧ c.validate = .ok () ∧
      read? "  category >= a=b!=<c>  " = some (c.field, c.operator, c.value) :=
  ⟨⟨"category", .atLeast, "a=b!=<c>", "category >= a=b!=<c>"⟩, by rfl, by rfl,
    (read?_of_parse rfl).2 rfl⟩

end CatalogFilter.Reading
