import CatalogFilter.Proofs.Condition.Division
import CatalogFilter.Proofs.Text.Trimming

/-!
# The grammar of a condition

Which lines are conditions, said without the search for an operator. A line, once the blanks around
it are gone, is a condition when an operator divides it into two texts that are not empty, where the
operator stands nowhere further left, and where every operator that is searched for before it is
either absent or stands at the start of the line. A line is divided in at most one way.

* `Condition.divide?_eq_some_iff_leftmost`: what the search for an operator finds, by its places.
* `Condition.Divides`: how an operator divides a line.
* `Condition.divides_iff`: the search finds the division.
* `Condition.parse_eq_ok_iff_divides`: the conditions are the lines that are divided.
-/

namespace CatalogFilter

namespace Condition

/-! ### Division -/

/-- The search finds the first operator, in its order, whose leftmost place is not the start of the
line. -/
theorem divide?_eq_some_iff_leftmost {line before after : List Char} {op : Operator} :
    divide? line = some (op, before, after) ↔ line = before ++ op.mark ++ after ∧ before ≠ [] ∧
      (∀ n < before.length, ¬ op.mark <+: line.drop n) ∧
      ∀ op' ∈ op.predecessors, ¬ op'.mark <:+: line ∨ op'.mark <+: line := by
  simp only [divide?_eq_some_iff, cutAt?_eq_some_iff, Text.splitFirst_eq_some_iff,
    cutAt?_eq_none_iff]
  constructor
  · rintro ⟨⟨⟨hline, hleftmost⟩, hbefore⟩, hearlier⟩
    exact ⟨hline, hbefore, hleftmost, hearlier⟩
  · rintro ⟨hline, hbefore, hleftmost, hearlier⟩
    exact ⟨⟨⟨hline, hleftmost⟩, hbefore⟩, hearlier⟩

/-- The operator divides the line into the texts before and after it. -/
structure Divides (line : List Char) (op : Operator) (before after : List Char) : Prop where
  /-- The line is made of the two texts with the operator between them. -/
  line_eq : line = before ++ op.mark ++ after
  /-- Something stands before the operator. -/
  before_ne_nil : before ≠ []
  /-- Something stands after the operator. -/
  after_ne_nil : after ≠ []
  /-- The operator stands nowhere further left. -/
  leftmost : ∀ n < before.length, ¬ op.mark <+: line.drop n
  /-- An operator that is searched for before this one is absent, or stands at the start first. -/
  earlier : ∀ op' ∈ op.predecessors, ¬ op'.mark <:+: line ∨ op'.mark <+: line

/-- The search for an operator finds the division of a line, if something stands after the
operator. -/
theorem divides_iff {line before after : List Char} {op : Operator} :
    Divides line op before after ↔ divide? line = some (op, before, after) ∧ after ≠ [] := by
  rw [divide?_eq_some_iff_leftmost]
  constructor
  · intro h
    exact ⟨⟨h.line_eq, h.before_ne_nil, h.leftmost, h.earlier⟩, h.after_ne_nil⟩
  · rintro ⟨⟨hline, hbefore, hleftmost, hearlier⟩, hafter⟩
    exact ⟨hline, hbefore, hafter, hleftmost, hearlier⟩

/-- A line is divided in at most one way. -/
theorem Divides.unique {line before after before' after' : List Char} {op op' : Operator}
    (h : Divides line op before after) (h' : Divides line op' before' after') :
    op = op' ∧ before = before' ∧ after = after' := by
  have hfound := (divides_iff.mp h).1
  rw [(divides_iff.mp h').1] at hfound
  simpa [eq_comm] using hfound

/-- The text before the operator of a trimmed line is not blank. -/
theorem trim_before_ne_nil {cs before after : List Char} {op : Operator}
    (h : divide? (Text.trim cs) = some (op, before, after)) : Text.trim before ≠ [] := by
  obtain ⟨hsplit, hbefore⟩ := cutAt?_eq_some_iff.mp (divide?_eq_some_iff.mp h).1
  have hline := Text.splitFirst_eq_some hsplit
  have htight : Text.Tight (Text.trim cs) := Text.tight_trim (by simp [hline, hbefore])
  exact htight.trim_ne_nil_of_prefix ⟨op.mark ++ after, by simp [hline]⟩ hbefore

theorem trim_after_ne_nil {cs before after : List Char} {op : Operator}
    (h : divide? (Text.trim cs) = some (op, before, after)) (hafter : after ≠ []) :
    Text.trim after ≠ [] := by
  obtain ⟨hsplit, -⟩ := cutAt?_eq_some_iff.mp (divide?_eq_some_iff.mp h).1
  have hline := Text.splitFirst_eq_some hsplit
  have htight : Text.Tight (Text.trim cs) := Text.tight_trim (by simp [hline, hafter])
  exact htight.trim_ne_nil_of_suffix ⟨before ++ op.mark, hline.symm⟩ hafter

/-! ### Conditions -/

/-- The condition of a line that an operator divides. -/
theorem parse_eq_ok_iff_exists_divides {line : String} {c : Condition} :
    parse line = .ok c ↔ ∃ op before after, Divides (Text.trim line.toList) op before after ∧
      c = ⟨.ofList (Text.trim before), op, .ofList (Text.trim after),
        .ofList (Text.trim line.toList)⟩ := by
  rw [parse_eq_ok_iff, readTrimmed_eq_ok_iff]
  constructor
  · rintro ⟨before, after, hdivide, -, hafter, hfield, hvalue, hsource⟩
    have hne : after ≠ [] := by
      rintro rfl
      exact hafter rfl
    refine ⟨c.operator, before, after, divides_iff.mpr ⟨hdivide, hne⟩, ?_⟩
    rw [← hfield, ← hvalue, ← hsource]
  · rintro ⟨op, before, after, hdivides, rfl⟩
    obtain ⟨hdivide, hafter⟩ := divides_iff.mp hdivides
    exact ⟨before, after, hdivide, trim_before_ne_nil hdivide, trim_after_ne_nil hdivide hafter,
      rfl, rfl, rfl⟩

/-- The field and the value of a condition that was read have no blanks around them. -/
theorem tight_of_parse {line : String} {c : Condition} (h : parse line = .ok c) :
    Text.Tight c.field.toList ∧ Text.Tight c.value.toList := by
  obtain ⟨op, before, after, hdivides, rfl⟩ := parse_eq_ok_iff_exists_divides.mp h
  obtain ⟨hdivide, hafter⟩ := divides_iff.mp hdivides
  simp only [String.toList_ofList]
  exact ⟨Text.tight_trim (trim_before_ne_nil hdivide),
    Text.tight_trim (trim_after_ne_nil hdivide hafter)⟩

/-- **The conditions are exactly the lines of the grammar.** A line is read as a condition just if
an operator divides the line without the blanks around it, and the condition then has the trimmed
texts before and after the operator for its field and its value. There is no second way to divide
the line, and field and value are neither empty nor start or end with a blank. In particular the
text before an operator that the search finds is never blank. -/
theorem parse_eq_ok_iff_divides (line : String) :
    let t := Text.trim line.toList
    (∀ c, parse line = .ok c ↔ ∃ op before after, Divides t op before after ∧
        c = ⟨.ofList (Text.trim before), op, .ofList (Text.trim after), .ofList t⟩) ∧
      (∀ op before after op' before' after', Divides t op before after →
        Divides t op' before' after' → op = op' ∧ before = before' ∧ after = after') ∧
      (∀ c, parse line = .ok c → Text.Tight c.field.toList ∧ Text.Tight c.value.toList) ∧
      ∀ op before after, divide? t = some (op, before, after) → Text.trim before ≠ [] := by
  refine ⟨fun c => parse_eq_ok_iff_exists_divides, ?_, fun c => tight_of_parse, ?_⟩
  · intro op before after op' before' after' h h'
    exact h.unique h'
  · intro op before after h
    exact trim_before_ne_nil h

/-- An operator that stands at the start of a line is passed over, even where a later one in the
order of the search is a part of it. -/
theorem parse_eq_ok_iff_divides_leading :
    parse " >= 100" = .ok ⟨">", .equal, "100", ">= 100"⟩ := by
  have hdivides : Divides ['>', '=', ' ', '1', '0', '0'] .equal ['>'] [' ', '1', '0', '0'] :=
    ⟨rfl, by decide, by decide, by decide, by decide⟩
  exact ((parse_eq_ok_iff_divides " >= 100").1 _).mpr ⟨.equal, _, _, hdivides, rfl⟩

/-! ### Lines that are no conditions -/

/-- A line that is no condition is reported without the blanks around it. -/
theorem parse_eq_error_iff {line : String} {e : RuleError} :
    parse line = .error e ↔ ∃ fault, readTrimmed (Text.trim line.toList) = .error fault ∧
      e = .condition (.ofList (Text.trim line.toList)) fault := by
  simp only [parse]
  cases readTrimmed (Text.trim line.toList) <;> simp [eq_comm]

/-- A line is called empty only if it is. -/
theorem readTrimmed_eq_error_empty_iff {line : List Char} :
    readTrimmed line = .error .empty ↔ line = [] := by
  constructor
  · intro h
    by_contra hne
    have hempty : line.isEmpty = false := by simpa using hne
    simp only [readTrimmed, hempty, Bool.false_eq_true, ↓reduceIte] at h
    cases hdivide : divide? line with
    | none =>
      simp only [hdivide, undividedFault, Except.error.injEq] at h
      split at h <;> cases h
    | some p =>
      simp only [hdivide] at h
      split at h
      · cases h
      · split at h <;> cases h
  · rintro rfl
    rfl

end Condition

end CatalogFilter
