import CatalogFilter.Condition.Parse
import Mathlib.Data.List.TakeWhile

/-!
# How a line is divided

What the search for an operator finds, and what a condition that was read says about its line. The
first occurrence of a word, trimming and the order of the search are each described once here.

* `Text.splitFirst_append`: where a word is found whose first character does not occur before.
* `Text.splitFirst_eq_some_iff`, `Text.splitFirst_eq_none_iff`: the first occurrence of a word, by
  its place, and when there is none.
* `Condition.divide?_eq_some_iff`: the operator that divides a line is the first in the order of
  the search that cuts it.
* `Condition.readTrimmed_eq_ok_iff` and `Condition.parse_eq_ok_iff`: the condition of a line.
-/

namespace CatalogFilter

namespace Text

/-- A word is found at once where its first character has not occurred before. -/
theorem splitFirst_append {α : Type} [DecidableEq α] {w : α} {word before : List α}
    (h : w ∉ before) (after : List α) :
    splitFirst (w :: word) (before ++ (w :: word) ++ after) = some (before, after) := by
  induction before with
  | nil => simp [splitFirst]
  | cons b before ih =>
    have hne : w ≠ b := List.ne_of_not_mem_cons h
    have hmem : w ∉ before := List.not_mem_of_not_mem_cons h
    have hstart : (w :: word).isPrefixOf (b :: (before ++ (w :: word) ++ after)) = false := by
      simp [List.isPrefixOf, hne]
    rw [List.cons_append, List.cons_append, splitFirst, hstart, ih hmem]
    rfl

/-- A word is found where it stands and has not stood before. -/
theorem splitFirst_eq_some_iff {α : Type} [DecidableEq α] {word cs before after : List α} :
    splitFirst word cs = some (before, after) ↔
      cs = before ++ word ++ after ∧ ∀ n < before.length, ¬ word <+: cs.drop n := by
  induction cs generalizing before with
  | nil =>
    cases word with
    | nil => simp +contextual [splitFirst, eq_comm]
    | cons w word => simp [splitFirst]
  | cons c cs ih =>
    by_cases hstart : word <+: c :: cs
    · obtain ⟨rest, hrest⟩ := hstart
      have hfound : splitFirst word (c :: cs) = some ([], rest) := by
        rw [splitFirst, if_pos (by simp [← hrest]), ← hrest, List.drop_left]
      rw [hfound]
      constructor
      · intro h
        obtain ⟨rfl, rfl⟩ : [] = before ∧ rest = after := by simpa using h
        exact ⟨hrest.symm, by simp⟩
      · rintro ⟨hcs, hfirst⟩
        -- The word stands at the start, so nothing stands before it.
        have hbefore : before = [] := by
          by_contra hne
          exact hfirst 0 (List.length_pos_iff.mpr hne) ⟨rest, hrest⟩
        subst hbefore
        rw [← hrest, List.nil_append, List.append_cancel_left_eq] at hcs
        rw [hcs]
    · have hnext : splitFirst word (c :: cs) =
          (splitFirst word cs).map fun p => (c :: p.1, p.2) := by
        rw [splitFirst, if_neg (by simpa using hstart)]
      rw [hnext, Option.map_eq_some_iff]
      constructor
      · rintro ⟨⟨before', after'⟩, hsplit, hp⟩
        obtain ⟨rfl, rfl⟩ : c :: before' = before ∧ after' = after := by simpa using hp
        obtain ⟨hcs, hfirst⟩ := ih.mp hsplit
        refine ⟨by simp [← hcs], fun n hn => ?_⟩
        cases n with
        | zero => exact hstart
        | succ n => exact hfirst n (by simpa using hn)
      · rintro ⟨hcs, hfirst⟩
        cases before with
        | nil => exact absurd ⟨after, hcs.symm⟩ hstart
        | cons b before =>
          obtain ⟨rfl, htail⟩ : c = b ∧ cs = before ++ word ++ after := by simpa using hcs
          have hsplit := ih.mpr ⟨htail, fun n hn => hfirst (n + 1) (by simpa using hn)⟩
          exact ⟨(before, after), hsplit, rfl⟩

/-- A word is not found where it does not occur. -/
theorem splitFirst_eq_none_iff {α : Type} [DecidableEq α] {word cs : List α} (hword : word ≠ []) :
    splitFirst word cs = none ↔ ¬ word <:+: cs := by
  induction cs with
  | nil => simp [splitFirst, hword]
  | cons c cs ih =>
    rw [splitFirst, List.infix_cons_iff, not_or, ← ih]
    by_cases hp : word <+: c :: cs
    · simp [hp]
    · simp [hp]

end Text

namespace Operator

/-- The operators that a line is searched for before the given one. -/
def predecessors (op : Operator) : List Operator :=
  scanOrder.takeWhile (· != op)

theorem mark_injective {op op' : Operator} (h : op.mark = op'.mark) : op = op' := by
  have hall : ∀ op ∈ scanOrder, ∀ op' ∈ scanOrder, op.mark = op'.mark → op = op' := by decide
  exact hall op (mem_scanOrder op) op' (mem_scanOrder op') h

/-- The characters that operators are made of. -/
def chars : List Char := ['=', '!', '<', '>']

/-- Every operator starts with one of its characters. -/
theorem exists_mark_eq_cons (op : Operator) : ∃ w ∈ chars, ∃ ws, op.mark = w :: ws := by
  cases op with
  | equal => exact ⟨'=', by decide, _, rfl⟩
  | notEqual => exact ⟨'!', by decide, _, rfl⟩
  | greater => exact ⟨'>', by decide, _, rfl⟩
  | less => exact ⟨'<', by decide, _, rfl⟩
  | atLeast => exact ⟨'>', by decide, _, rfl⟩
  | atMost => exact ⟨'<', by decide, _, rfl⟩

theorem notMem_chars_of_all {cs : List Char} (h : cs.all fun x => !chars.contains x) :
    ∀ x ∈ cs, x ∉ chars := by
  simpa only [List.all_eq_true, Bool.not_eq_true', List.contains_eq_mem,
    decide_eq_false_iff_not] using h

theorem mem_chars_of_mem_mark {op : Operator} {x : Char} (hx : x ∈ op.mark) : x ∈ chars := by
  have hall : ∀ op ∈ scanOrder, op.mark ⊆ chars := by decide
  exact hall op (mem_scanOrder op) hx

theorem isBlank_of_mem_chars {x : Char} (hx : x ∈ chars) : Text.isBlank x = false := by
  have hall : chars.all fun x => !Text.isBlank x := by decide
  simpa using List.all_eq_true.mp hall x hx

/-- An operator occurs only where its characters do. -/
theorem not_mark_infix {op : Operator} {cs : List Char} (h : ∀ x ∈ cs, x ∉ chars) :
    ¬ op.mark <:+: cs := by
  obtain ⟨w, hw, ws, hmark⟩ := op.exists_mark_eq_cons
  intro hfound
  exact h w (hfound.subset (by simp [hmark])) hw

/-- An operator that extends another one is searched for before it. -/
theorem mem_predecessors_of_prefix {op op' : Operator} (h : op.mark <+: op'.mark)
    (hne : op ≠ op') : op' ∈ op.predecessors := by
  have hall : ∀ op ∈ scanOrder, ∀ op' ∈ scanOrder,
      op.mark <+: op'.mark → op ≠ op' → op' ∈ op.predecessors := by decide
  exact hall op (mem_scanOrder op) op' (mem_scanOrder op') h hne

/-- No operator holds one that is searched for before it. -/
theorem not_mark_infix_mark {op op' : Operator} (h : op' ∈ op.predecessors) :
    ¬ op'.mark <:+: op.mark := by
  have hall : ∀ op ∈ scanOrder, ∀ op' ∈ op.predecessors, ¬ op'.mark <:+: op.mark := by decide
  exact hall op (mem_scanOrder op) op' h

/-- The order of the search around an operator. -/
theorem exists_scanOrder_eq (op : Operator) :
    ∃ later, scanOrder = op.predecessors ++ op :: later := by
  cases op with
  | atLeast => exact ⟨_, rfl⟩
  | atMost => exact ⟨_, rfl⟩
  | notEqual => exact ⟨_, rfl⟩
  | equal => exact ⟨_, rfl⟩
  | greater => exact ⟨_, rfl⟩
  | less => exact ⟨_, rfl⟩

/-- Every operator comes once in the order of the search. -/
theorem eq_predecessors {op : Operator} {earlier later : List Operator}
    (h : scanOrder = earlier ++ op :: later) : earlier = op.predecessors := by
  have hnodup : (earlier ++ op :: later).Nodup := h ▸ (by decide : scanOrder.Nodup)
  have hearlier : ∀ x ∈ earlier, (x != op) = true := by
    intro x hx
    simpa using (List.nodup_append.mp hnodup).2.2 x hx op List.mem_cons_self
  rw [predecessors, h, List.takeWhile_append_of_pos hearlier, List.takeWhile_cons_of_neg (by simp),
    List.append_nil]

end Operator

namespace Condition

theorem cutAt?_eq_some_iff {line before after : List Char} {op : Operator} :
    cutAt? line op = some (before, after) ↔
      Text.splitFirst op.mark line = some (before, after) ∧ before ≠ [] := by
  simp [cutAt?, Option.filter_eq_some_iff]

/-- An operator does not cut a line when it is absent or when the line starts with it. -/
theorem cutAt?_eq_none_iff {line : List Char} {op : Operator} :
    cutAt? line op = none ↔ ¬ op.mark <:+: line ∨ op.mark <+: line := by
  cases hsplit : Text.splitFirst op.mark line with
  | none =>
    have habsent := (Text.splitFirst_eq_none_iff op.mark_ne_nil).mp hsplit
    simp [cutAt?, hsplit, habsent]
  | some p =>
    obtain ⟨before, after⟩ := p
    obtain ⟨hline, hfirst⟩ := Text.splitFirst_eq_some_iff.mp hsplit
    have hoccurs : op.mark <:+: line := ⟨before, after, hline.symm⟩
    by_cases hbefore : before = []
    · have hstart : op.mark <+: line := ⟨after, by simp [hline, hbefore]⟩
      simp [cutAt?, hsplit, hbefore, hstart]
    · have hstart : ¬ op.mark <+: line := hfirst 0 (List.length_pos_iff.mpr hbefore)
      simp [cutAt?, hsplit, hbefore, hoccurs, hstart]

/-- An operator divides a line when it cuts it and no operator that is searched for before it
does. -/
theorem divide?_eq_some_iff {line before after : List Char} {op : Operator} :
    divide? line = some (op, before, after) ↔
      cutAt? line op = some (before, after) ∧ ∀ op' ∈ op.predecessors, cutAt? line op' = none := by
  rw [divide?, List.findSome?_eq_some_iff]
  constructor
  · rintro ⟨earlier, x, later, hscan, hcut, hnone⟩
    obtain ⟨p, hp, heq⟩ := Option.map_eq_some_iff.mp hcut
    obtain ⟨rfl, rfl⟩ := Prod.mk.inj heq
    refine ⟨hp, fun op' hop' => ?_⟩
    rw [← Operator.eq_predecessors hscan] at hop'
    exact Option.map_eq_none_iff.mp (hnone op' hop')
  · rintro ⟨hcut, hnone⟩
    obtain ⟨later, hscan⟩ := Operator.exists_scanOrder_eq op
    refine ⟨op.predecessors, op, later, hscan, ?_, fun op' hop' => ?_⟩
    · rw [hcut, Option.map_some]
    · rw [hnone op' hop', Option.map_none]

theorem divide?_nil : divide? [] = none := by decide

/-- The condition of a trimmed line: its operator divides the line, and field and value are the
trimmed texts before and after it, neither of which is empty. -/
theorem readTrimmed_eq_ok_iff {line : List Char} {c : Condition} :
    readTrimmed line = .ok c ↔ ∃ before after,
      divide? line = some (c.operator, before, after) ∧
      Text.trim before ≠ [] ∧ Text.trim after ≠ [] ∧ c.field = .ofList (Text.trim before) ∧
      c.value = .ofList (Text.trim after) ∧ c.source = .ofList line := by
  obtain ⟨field, op, value, source⟩ := c
  cases line with
  | nil => simp [readTrimmed, divide?_nil]
  | cons x line =>
    cases hdiv : divide? (x :: line) with
    | none => simp [readTrimmed, hdiv]
    | some p =>
      obtain ⟨op', before, after⟩ := p
      by_cases hbefore : Text.trim before = []
      · simp +contextual [readTrimmed, hdiv, hbefore]
      · by_cases hafter : Text.trim after = []
        · simp +contextual [readTrimmed, hdiv, hbefore, hafter]
        · have hread : readTrimmed (x :: line) = .ok ⟨.ofList (Text.trim before), op',
              .ofList (Text.trim after), .ofList (x :: line)⟩ := by
            simp [readTrimmed, hdiv, hbefore, hafter]
          rw [hread]
          constructor
          · intro h
            cases h
            exact ⟨before, after, rfl, hbefore, hafter, rfl, rfl, rfl⟩
          · rintro ⟨before', after', hp, -, -, rfl, rfl, rfl⟩
            cases hp
            rfl

/-- The condition of a line is the one of the line without the blanks around it. -/
theorem parse_eq_ok_iff {line : String} {c : Condition} :
    parse line = .ok c ↔ readTrimmed (Text.trim line.toList) = .ok c := by
  simp only [parse]
  cases readTrimmed (Text.trim line.toList) <;> simp

end Condition

end CatalogFilter
