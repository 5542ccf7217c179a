import CatalogFilter.Proofs.Condition.Spacing
import CatalogFilter.RuleText
import Mathlib.Data.List.Forall2
import Mathlib.Tactic.MkIffOfInductiveProp

/-!
# Rule texts written and read back

Conditions that are written one below the other make up a rule text. Reading it gives the same
conditions again unless an operator inside a value divides a line at the wrong place. Since a line
is searched for the operators in a fixed order, the operators that do so are exactly those that are
searched for before the operator of the condition.

* `Condition.Writable`: a condition in the usual writing, on one line, whose field is no part of an
  operator and no comment.
* `RuleText.parseLines_eq_ok_iff`: the conditions of lines are those of each line.
* `Condition.readTrimmed_source_iff`: when the text of one condition is read back.
* `RuleText.parse_sources_iff`: when a whole text is read back.
-/

namespace CatalogFilter

/-! ### Lines and conditions -/

namespace RuleText

/-- Every line holds one of the conditions when there is no failure. -/
theorem forall₂_readTrimmed_iff (number : Nat) {lines : List (List Char)} {cs : List Condition} :
    List.Forall₂ (fun line c => Condition.readTrimmed line = .ok c) lines cs ↔
      failures number lines = [] ∧ conditions lines = cs := by
  induction lines generalizing number cs with
  | nil => simp [failures, conditions, eq_comm]
  | cons line lines ih =>
    rw [List.forall₂_cons_left_iff]
    cases hread : Condition.readTrimmed line with
    | error fault => simp [failures, hread]
    | ok c =>
      have hconditions : conditions (line :: lines) = c :: conditions lines := by
        simp [conditions, hread, Except.toOption]
      have hfailures : failures number (line :: lines) = failures (number + 1) lines := by
        simp [failures, hread]
      rw [hconditions, hfailures]
      constructor
      · rintro ⟨c', cs', hc, hcs, rfl⟩
        cases hc
        obtain ⟨hnone, rfl⟩ := (ih (number + 1)).mp hcs
        exact ⟨hnone, rfl⟩
      · rintro ⟨hnone, rfl⟩
        exact ⟨c, conditions lines, rfl, (ih (number + 1)).mpr ⟨hnone, rfl⟩, rfl⟩

/-- The conditions of lines are those of each line. -/
theorem parseLines_eq_ok_iff {lines : List (List Char)} (hne : lines ≠ []) {cs : List Condition} :
    parseLines lines = .ok cs ↔
      List.Forall₂ (fun line c => Condition.readTrimmed line = .ok c) lines cs := by
  have hempty : lines.isEmpty = false := by simpa using hne
  rw [forall₂_readTrimmed_iff 1]
  cases hfailures : failures 1 lines with
  | nil => simp [parseLines, hempty, hfailures]
  | cons f fs => simp [parseLines, hempty, hfailures]

end RuleText

/-! ### One condition -/

namespace Condition

/-- A condition in the usual writing that fits on one line. Neither field nor value has blanks
around it, and the field is no comment and holds no character of an operator. The value may hold
operators. -/
@[mk_iff]
structure Writable (c : Condition) : Prop where
  /-- The condition is written in the usual way. -/
  source_eq : c.source = write c.field c.operator c.value
  /-- The field is not empty and has no blanks around it. -/
  field_tight : Text.Tight c.field.toList
  /-- The field does not start a comment. -/
  field_comment : c.field.toList.head? ≠ some Text.commentMark
  /-- The field does not end the line. -/
  field_line : '\n' ∉ c.field.toList
  /-- The field has no character of an operator. -/
  field_chars : ∀ x ∈ c.field.toList, x ∉ Operator.chars
  /-- The value is not empty and has no blanks around it. -/
  value_tight : Text.Tight c.value.toList
  /-- The value does not end the line. -/
  value_line : '\n' ∉ c.value.toList

instance (c : Condition) : Decidable c.Writable :=
  decidable_of_iff (c.source = write c.field c.operator c.value ∧ Text.Tight c.field.toList ∧
      c.field.toList.head? ≠ some Text.commentMark ∧ '\n' ∉ c.field.toList ∧
      c.field.toList.all (!Operator.chars.contains ·) ∧ Text.Tight c.value.toList ∧
      '\n' ∉ c.value.toList) <| by
    rw [writable_iff, List.all_eq_true]
    simp

variable {c : Condition}

theorem Writable.toList_source (h : c.Writable) :
    c.source.toList = c.field.toList ++ ' ' :: (c.operator.mark ++ ' ' :: c.value.toList) := by
  simp [h.source_eq, write, Operator.symbol]

theorem Writable.tight_source (h : c.Writable) : Text.Tight c.source.toList := by
  have hsource : c.source.toList =
      c.field.toList ++ ((' ' :: c.operator.mark ++ [' ']) ++ c.value.toList) := by
    simp [h.toList_source]
  rw [hsource]
  exact h.field_tight.append h.value_tight _

theorem Writable.line_source (h : c.Writable) : '\n' ∉ c.source.toList := by
  have hmark : '\n' ∉ c.operator.mark := by cases c.operator <;> simp [Operator.mark]
  simp [h.toList_source, h.field_line, h.value_line, hmark]

theorem Writable.isSignificant_source (h : c.Writable) : Text.isSignificant c.source.toList := by
  have hhead : c.source.toList.head? = c.field.toList.head? := by
    rw [h.toList_source, List.head?_append_of_ne_nil _ h.field_tight.ne_nil]
  simp [Text.isSignificant, hhead, h.field_comment, h.tight_source.ne_nil]

/-- The text of a condition is read back unless its value holds an operator that is searched for
before its own. -/
theorem Writable.readTrimmed_source_iff (h : c.Writable) :
    readTrimmed c.source.toList = .ok c ↔
      ∀ op ∈ c.operator.predecessors, ¬ op.mark <:+: c.value.toList := by
  have hparse : readTrimmed c.source.toList = .ok c ↔ parse c.source = .ok c := by
    rw [parse_eq_ok_iff, h.tight_source.trim_eq]
  rw [hparse]
  constructor
  · intro hread
    exact not_mark_infix_value hread h.field_chars
  · intro hvalue
    have hblank : ∀ w ∈ ["", " ", " ", ""], ∀ x ∈ w.toList, Text.isBlank x :=
      Text.isBlank_of_all (by decide)
    have hread := parse_spaced h.field_tight h.field_chars h.value_tight hvalue hblank
    rw [String.empty_append, String.append_empty, ← write, ← h.source_eq] at hread
    exact hread

end Condition

/-! ### Whole texts -/

namespace RuleText

/-- The lines of conditions that are written one below the other. -/
theorem significantLines_sources {cs : List Condition} (hne : cs ≠ [])
    (hcs : ∀ c ∈ cs, c.Writable) :
    Text.significantLines ("\n".intercalate (cs.map (·.source))).toList =
      cs.map (·.source.toList) := by
  have hjoin : ("\n".intercalate (cs.map (·.source))).toList =
      Text.joinLines (cs.map (·.source.toList)) := by
    rw [String.toList_intercalate, List.map_map]
    rfl
  have hlines : Text.lines (Text.joinLines (cs.map (·.source.toList))) =
      cs.map (·.source.toList) := by
    refine List.splitOn_intercalate '\n' (fun l hl => ?_) (by simpa using hne)
    obtain ⟨c, hc, rfl⟩ := List.mem_map.mp hl
    exact (hcs c hc).line_source
  have htrim : (cs.map (·.source.toList)).map Text.trim = cs.map (·.source.toList) := by
    rw [List.map_map]
    exact List.map_congr_left fun c hc => (hcs c hc).tight_source.trim_eq
  rw [Text.significantLines, hjoin, hlines, htrim, List.filter_eq_self]
  intro l hl
  obtain ⟨c, hc, rfl⟩ := List.mem_map.mp hl
  exact (hcs c hc).isSignificant_source

/-- **Conditions are read back from their texts, up to an exact limit.** Conditions that are written
one below the other are read as exactly these conditions if and only if no value holds an operator
that is searched for before the one of its condition. -/
theorem parse_sources_iff {cs : List Condition} (hne : cs ≠ []) (hcs : ∀ c ∈ cs, c.Writable) :
    parse ("\n".intercalate (cs.map (·.source))) = .ok cs ↔
      ∀ c ∈ cs, ∀ op ∈ c.operator.predecessors, ¬ op.mark <:+: c.value.toList := by
  have hlines := significantLines_sources hne hcs
  have htext : ("\n".intercalate (cs.map (·.source))).isEmpty = false := by
    by_contra hempty
    rw [Bool.not_eq_false, String.isEmpty_iff] at hempty
    rw [hempty] at hlines
    exact hne (List.map_eq_nil_iff.mp hlines.symm)
  have hparse : parse ("\n".intercalate (cs.map (·.source))) =
      parseLines (cs.map (·.source.toList)) := by
    rw [parse, htext, hlines]
    rfl
  rw [hparse, parseLines_eq_ok_iff (by simpa using hne), List.forall₂_map_left_iff,
    List.forall₂_same]
  exact forall₂_congr fun c hc => (hcs c hc).readTrimmed_source_iff

/-- An operator inside a value does no harm if it is searched for later, and is taken for that of
the condition if it is searched for before. -/
theorem parse_sources_iff_arrow :
    parse "sku = a>b\nprice >= 1=2" =
        .ok [.ofParts "sku" .equal "a>b", .ofParts "price" .atLeast "1=2"] ∧
      parse "sku > a=b" ≠ .ok [.ofParts "sku" .greater "a=b"] := by
  have hread (cs : List Condition) (hne : cs ≠ []) (hcs : ∀ c ∈ cs, c.Writable) :=
    parse_sources_iff hne hcs
  refine ⟨(hread [.ofParts "sku" .equal "a>b", .ofParts "price" .atLeast "1=2"] (by simp)
    (by decide)).mpr (by decide), fun h => ?_⟩
  have hfree := (hread [.ofParts "sku" .greater "a=b"] (by simp) (by decide)).mp h
  exact absurd hfree (by decide)

end RuleText

end CatalogFilter
