import CatalogFilter.Proofs.Condition.Faults
import CatalogFilter.Proofs.Condition.LeftmostLongest

/-!
# Conditions with other blanks

The blanks around the parts of a condition can be replaced by any others, or taken away. Taking them
away could join the operator with the start of the value to another operator, as in `> =5`. This
never happens to a condition that was read. An operator that arises so ends in `=`, and wherever it
would be found before that of the condition, so would a mere `=`: a value with `=` in it would have
divided the line before.

* `Operator.exists_mark_infix_of_mark_append`: an operator that arises where an operator meets a
  value gives itself away by one in the value.
* `Condition.not_mark_infix_value`: what the value of a condition that was read does not hold.
* `Condition.divides_spaced`: how a line with the parts of a condition is divided.
* `Condition.parse_respaced`: the blanks in a condition can be replaced.
-/

namespace CatalogFilter

namespace Operator

theorem notMem_chars_of_blank {w : List Char} (hw : ∀ x ∈ w, Text.isBlank x) :
    ∀ x ∈ w, x ∉ chars := by
  intro x hx hchar
  simpa [isBlank_of_mem_chars hchar] using hw x hx

/-- A text without the characters of operators adds no operator to the text behind it. -/
theorem mark_infix_append_iff {op : Operator} {cs rest : List Char} (h : ∀ x ∈ cs, x ∉ chars) :
    op.mark <:+: cs ++ rest ↔ op.mark <:+: rest := by
  refine ⟨fun hfound => ?_, fun hfound => hfound.trans (List.suffix_append _ _).isInfix⟩
  rcases List.infix_append_iff_ne_nil.mp hfound with hcs | hrest | ⟨s, p, hs, -, hmark, hsuffix, -⟩
  · have habsent : ¬ op.mark <:+: cs := not_mark_infix h
    exact absurd hcs habsent
  · exact hrest
  · obtain ⟨x, hx⟩ := List.exists_mem_of_ne_nil s hs
    have hchar : x ∈ chars := mem_chars_of_mem_mark (show x ∈ op.mark by simp [hmark, hx])
    exact absurd hchar (h x (hsuffix.subset hx))

/-- An operator that is searched for before another one, starts inside it and ends behind it does so
with `=`, which is then searched for before the other one as well. -/
theorem equal_of_overlap {op op' : Operator} (hop' : op' ∈ op.predecessors) {s p : List Char}
    (hs : s ≠ []) (hp : p ≠ []) (hmark : op'.mark = s ++ p) (hsuffix : s <:+ op.mark) :
    equal ∈ op.predecessors ∧ '=' ∈ p := by
  have hlength : op'.mark.length ≠ 1 := by
    have hpos : 0 < s.length ∧ 0 < p.length :=
      ⟨List.length_pos_iff.mpr hs, List.length_pos_iff.mpr hp⟩
    rw [hmark, List.length_append]
    omega
  -- Its first character lies inside the other operator and its second one, `=`, behind it.
  obtain ⟨w, -, hpair⟩ := exists_mark_eq_pair hlength
  obtain ⟨x, s, rfl⟩ := List.exists_cons_of_ne_nil hs
  obtain ⟨rfl, htail⟩ : w = x ∧ ['='] = s ++ p := by simpa [hpair] using hmark
  obtain ⟨rfl, rfl⟩ : s = [] ∧ p = ['='] := by
    rcases List.append_eq_singleton_iff.mp htail.symm with h | h
    · exact h
    · exact absurd h.2 hp
  have hall : ∀ op ∈ scanOrder, ∀ op' ∈ op.predecessors, op'.mark.length ≠ 1 →
      op'.mark.take 1 <:+ op.mark → equal ∈ op.predecessors := by decide
  exact ⟨hall op (mem_scanOrder op) op' hop' hlength (by simpa [hpair] using hsuffix), by simp⟩

/-- Where an operator meets a text, with blanks or none between them, an operator that is searched
for before it can arise only if one occurs in the text. -/
theorem exists_mark_infix_of_mark_append {op op' : Operator} (hop' : op' ∈ op.predecessors)
    {w cs : List Char} (hw : ∀ x ∈ w, Text.isBlank x) (h : op'.mark <:+: op.mark ++ (w ++ cs)) :
    ∃ op'' ∈ op.predecessors, op''.mark <:+: cs := by
  have hclean := notMem_chars_of_blank hw
  rcases List.infix_append_iff_ne_nil.mp h with
    hmark | hrest | ⟨s, p, hs, hp, hmark, hsuffix, hfront⟩
  · exact absurd hmark (not_mark_infix_mark hop')
  · exact ⟨op', hop', (mark_infix_append_iff hclean).mp hrest⟩
  · obtain ⟨hequal, hmem⟩ := equal_of_overlap hop' hs hp hmark hsuffix
    have hvalue : '=' ∈ cs := (List.mem_append.mp (hfront.subset hmem)).resolve_left
      fun hblank => hclean '=' hblank (by decide)
    exact ⟨.equal, hequal, (List.singleton_infix_iff '=' cs).mpr hvalue⟩

end Operator

namespace Condition

/-- What stands after the operator that divides a line holds no operator that is searched for before
it, if there is no character of an operator further left. -/
theorem Divides.not_occurs_after {line before after : List Char} {op op' : Operator}
    (h : Divides line op before after) (hbefore : ∀ x ∈ before, x ∉ Operator.chars)
    (hop' : op' ∈ op.predecessors) : ¬ op'.mark <:+: after := by
  have hstart : ¬ op'.mark <+: line := by
    obtain ⟨x, xs, rfl⟩ := List.exists_cons_of_ne_nil h.before_ne_nil
    obtain ⟨w, hw, ws, hmark⟩ := op'.exists_mark_eq_cons
    rw [h.line_eq, hmark, List.cons_append, List.cons_append, List.cons_prefix_cons]
    rintro ⟨rfl, -⟩
    exact hbefore w List.mem_cons_self hw
  have habsent : ¬ op'.mark <:+: line := (h.earlier op' hop').resolve_right hstart
  intro hfound
  refine habsent (hfound.trans ?_)
  rw [h.line_eq]
  exact (List.suffix_append _ _).isInfix

/-- The value of a condition holds no operator that is searched for before that of the condition,
unless the field holds a character of an operator. -/
theorem not_mark_infix_value {line : String} {c : Condition} (h : parse line = .ok c)
    (hfield : ∀ x ∈ c.field.toList, x ∉ Operator.chars) :
    ∀ op ∈ c.operator.predecessors, ¬ op.mark <:+: c.value.toList := by
  obtain ⟨op, before, after, hdivides, rfl⟩ := parse_eq_ok_iff_exists_divides.mp h
  simp only [String.toList_ofList] at hfield ⊢
  intro op' hop' hfound
  have hbefore := Reading.notMem_chars_of_trim hfield
  exact hdivides.not_occurs_after hbefore hop' (hfound.trans (Text.trim_infix after))

/-- A line with the parts of a condition is divided between them, whatever blanks stand around the
operator. -/
theorem divides_spaced {op : Operator} {field value w w' : List Char}
    (hfield : field ≠ []) (hclean : ∀ x ∈ field, x ∉ Operator.chars) (hvalue : value ≠ [])
    (hfree : ∀ op' ∈ op.predecessors, ¬ op'.mark <:+: value)
    (hw : ∀ x ∈ w, Text.isBlank x) (hw' : ∀ x ∈ w', Text.isBlank x) :
    Divides (field ++ w ++ op.mark ++ (w' ++ value)) op (field ++ w) (w' ++ value) := by
  have hbefore : ∀ x ∈ field ++ w, x ∉ Operator.chars := fun x hx =>
    (List.mem_append.mp hx).elim (hclean x) (Operator.notMem_chars_of_blank hw x)
  have hsplit : Text.splitFirst op.mark (field ++ w ++ op.mark ++ (w' ++ value)) =
      some (field ++ w, w' ++ value) := by
    obtain ⟨x, hx, xs, hmark⟩ := op.exists_mark_eq_cons
    rw [hmark]
    exact Text.splitFirst_append (fun hmem => hbefore x hmem hx) _
  refine ⟨rfl, by simp [hfield], by simp [hvalue], (Text.splitFirst_eq_some_iff.mp hsplit).2,
    fun op' hop' => .inl fun hfound => ?_⟩
  rw [List.append_assoc, Operator.mark_infix_append_iff hbefore] at hfound
  obtain ⟨op'', hop'', hinside⟩ := Operator.exists_mark_infix_of_mark_append hop' hw' hfound
  exact hfree op'' hop'' hinside

/-- The parts of a condition are read back with any blanks around them, if no operator in the value
is searched for before that of the condition. -/
theorem parse_spaced {op : Operator} {field value : String} (hfield : Text.Tight field.toList)
    (hclean : ∀ x ∈ field.toList, x ∉ Operator.chars) (hvalue : Text.Tight value.toList)
    (hfree : ∀ op' ∈ op.predecessors, ¬ op'.mark <:+: value.toList) {w₁ w₂ w₃ w₄ : String}
    (hw : ∀ w ∈ [w₁, w₂, w₃, w₄], ∀ x ∈ w.toList, Text.isBlank x) :
    parse (w₁ ++ field ++ w₂ ++ op.symbol ++ w₃ ++ value ++ w₄) =
      .ok ⟨field, op, value, field ++ w₂ ++ op.symbol ++ w₃ ++ value⟩ := by
  obtain ⟨hw₁, hw₂, hw₃, hw₄⟩ : (∀ x ∈ w₁.toList, Text.isBlank x) ∧
      (∀ x ∈ w₂.toList, Text.isBlank x) ∧ (∀ x ∈ w₃.toList, Text.isBlank x) ∧
      ∀ x ∈ w₄.toList, Text.isBlank x := by
    simpa only [List.forall_mem_cons, List.not_mem_nil, false_implies, implies_true, and_true]
      using hw
  have hnone : ∀ x ∈ ([] : List Char), Text.isBlank x := by simp
  let before := field.toList ++ w₂.toList
  let after := w₃.toList ++ value.toList
  have hdivides : Divides (before ++ op.mark ++ after) op before after :=
    divides_spaced hfield.ne_nil hclean hvalue.ne_nil hfree hw₂ hw₃
  have hline : Text.trim (w₁ ++ field ++ w₂ ++ op.symbol ++ w₃ ++ value ++ w₄).toList =
      before ++ op.mark ++ after := by
    have htight := hfield.append hvalue (w₂.toList ++ op.mark ++ w₃.toList)
    simpa [before, after, Operator.symbol] using htight.trim_append_append hw₁ hw₄
  have hbefore : Text.trim before = field.toList := by
    simpa [before] using hfield.trim_append_append hnone hw₂
  have hafter : Text.trim after = value.toList := by
    simpa [after] using hvalue.trim_append_append hw₃ hnone
  refine parse_eq_ok_iff_exists_divides.mpr ⟨op, before, after, hline ▸ hdivides, ?_⟩
  rw [hline, hbefore, hafter]
  simp [before, after, Operator.symbol, String.append_assoc]

/-- **Blanks do not change a condition.** Take any condition that was read, whose field holds no
character of an operator, as is the case for all fields that rules may speak of. However many blanks
are put around its field, its operator and its value, the line is read as the same condition, with
the new text between the outer blanks for its source. -/
theorem parse_respaced {line : String} {c : Condition} (h : parse line = .ok c)
    (hfield : (∀ x ∈ c.field.toList, x ∉ Operator.chars) ∨ c.field ∈ Catalog.selectableNames)
    {w₁ w₂ w₃ w₄ : String} (hw : ∀ w ∈ [w₁, w₂, w₃, w₄], ∀ x ∈ w.toList, Text.isBlank x) :
    parse (w₁ ++ c.field ++ w₂ ++ c.operator.symbol ++ w₃ ++ c.value ++ w₄) =
      .ok { c with source := c.field ++ w₂ ++ c.operator.symbol ++ w₃ ++ c.value } := by
  have hclean : ∀ x ∈ c.field.toList, x ∉ Operator.chars :=
    hfield.elim id Reading.notMem_chars_of_mem_selectableNames
  obtain ⟨hfieldTight, hvalueTight⟩ := tight_of_parse h
  exact parse_spaced hfieldTight hclean hvalueTight (not_mark_infix_value h hclean) hw

/-- The blanks around an operator are taken away though the value starts with `=`, and others, among
them a line feed, are put around the parts. -/
theorem parse_respaced_tight :
    parse "size = =5" = .ok ⟨"size", .equal, "=5", "size = =5"⟩ ∧
      parse "\t\nsize==5 " = .ok ⟨"size", .equal, "=5", "size==5"⟩ := by
  have hread : parse "size = =5" = .ok ⟨"size", .equal, "=5", "size = =5"⟩ := rfl
  have hclean : ∀ x ∈ "size".toList, x ∉ Operator.chars := Operator.notMem_chars_of_all (by decide)
  have hblank : ∀ w ∈ ["\t\n", "", "", " "], ∀ x ∈ w.toList, Text.isBlank x :=
    Text.isBlank_of_all (by decide)
  exact ⟨hread, parse_respaced hread (.inl hclean) hblank⟩

end Condition

end CatalogFilter
