import CatalogFilter.Proofs.Filter.Reordered
import CatalogFilter.Proofs.Number.Numerals
import CatalogFilter.Proofs.RuleText.Normalized
import CatalogFilter.Report.Table

/-!
# What stands in the cells of a table

A report is made for conditions that were read from a rule text and compiled. Their fields are names
of the catalog, in small letters, and their values stand on one line. In the cells of a table there
is nothing else besides digits, operators, blanks and the dots behind a value that was cut.

* `Request.evaluate_eq_ok_iff`, `Compiled.ofText_eq_ok_iff`: where reports come from.
* `Catalog.isNameChar_of_mem`: the characters of names.
* `Condition.newline_notMem_value`: values stand on one line.
* `Report.mem_cell`, `Report.mem_shownValue`: the characters of cells.
* `Report.notMem_cell`, `Report.notMem_shownValue`, `Report.notMem_print`: what is in no cell.
-/

namespace CatalogFilter

/-! ### Conditions in reports -/

theorem Compiled.ofConditions_eq_ok_iff {conditions : List Condition} {c : Compiled} :
    ofConditions conditions = .ok c ↔
      c.conditions = conditions ∧ Filter.compile conditions = .ok c.filter := by
  obtain ⟨cs, f⟩ := c
  unfold ofConditions
  cases Filter.compile conditions with
  | error e => simp [bind, Except.bind]
  | ok g => simp [bind, Except.bind, pure, Except.pure, eq_comm]

/-- What rules are compiled to is read from them and compiled. -/
theorem Compiled.ofText_eq_ok_iff {text : String} {c : Compiled} :
    ofText text = .ok c ↔
      RuleText.parse text = .ok c.conditions ∧ Filter.compile c.conditions = .ok c.filter := by
  unfold ofText
  cases RuleText.parse text with
  | error e => simp [bind, Except.bind]
  | ok conditions =>
    simp only [bind, Except.bind, ofConditions_eq_ok_iff, Except.ok.injEq]
    constructor
    · rintro ⟨rfl, hcompile⟩
      exact ⟨rfl, hcompile⟩
    · rintro ⟨rfl, hcompile⟩
      exact ⟨rfl, hcompile⟩

theorem RuleText.parseValue_eq_ok_iff {rules : Option Json} {cs : List Condition} :
    parseValue rules = .ok cs ↔ ∃ text, rules = some (.string text) ∧ parse text = .ok cs := by
  unfold parseValue
  split
  · simp
  · rename_i hne
    constructor
    · intro h
      cases h
    · rintro ⟨text, rfl, -⟩
      exact absurd rfl (hne text)

/-- A request that is answered has a text for its rules, which is read and compiled. -/
theorem Request.evaluate_eq_ok_iff {r : Request} {e : Evaluation} :
    r.evaluate = .ok e ↔ (∃ text, r.rules = some (.string text) ∧
      Compiled.ofText text = .ok e.compiled) ∧ e.pagination = r.pagination := by
  obtain ⟨c, p⟩ := e
  constructor
  · intro h
    cases hrules : RuleText.parseValue r.rules with
    | error fault => simp [evaluate, hrules, bind, Except.bind] at h
    | ok cs =>
      obtain ⟨text, htext, hparse⟩ := RuleText.parseValue_eq_ok_iff.mp hrules
      cases hcompiled : Compiled.ofConditions cs with
      | error fault => simp [evaluate, hrules, hcompiled, bind, Except.bind] at h
      | ok d =>
        obtain ⟨rfl, rfl⟩ : d = c ∧ r.pagination = p := by
          simpa [evaluate, hrules, hcompiled, bind, Except.bind, pure, Except.pure] using h
        obtain ⟨rfl, hcompile⟩ := Compiled.ofConditions_eq_ok_iff.mp hcompiled
        exact ⟨⟨text, htext, Compiled.ofText_eq_ok_iff.mpr ⟨hparse, hcompile⟩⟩, rfl⟩
  · rintro ⟨⟨text, htext, hc⟩, rfl⟩
    obtain ⟨hparse, hcompile⟩ := Compiled.ofText_eq_ok_iff.mp hc
    have hrules := RuleText.parseValue_eq_ok_iff.mpr ⟨text, htext, hparse⟩
    have hcompiled := Compiled.ofConditions_eq_ok_iff.mpr ⟨rfl, hcompile⟩
    simp [evaluate, hrules, hcompiled, bind, Except.bind, pure, Except.pure]

theorem Condition.field_mem_selectableNames {cs : List Condition} {f : Filter}
    (h : Filter.compile cs = .ok f) {c : Condition} (hc : c ∈ cs) :
    c.field ∈ Catalog.selectableNames := by
  have hvalid := (Filter.exists_compile_iff.mp ⟨f, h⟩).2 c hc
  obtain ⟨k, hk⟩ := exists_clause_of_validate hvalid
  exact (clause_eq_ok_iff.mp hk).1

/-- The value of a condition is part of its text. -/
theorem Condition.value_infix_source {line : String} {c : Condition} (h : parse line = .ok c) :
    c.value.toList <:+: c.source.toList := by
  obtain ⟨op, before, after, hdivides, rfl⟩ := parse_eq_ok_iff_exists_divides.mp h
  simp only [String.toList_ofList]
  have hafter : after <:+ Text.trim line.toList := ⟨before ++ op.mark, hdivides.line_eq.symm⟩
  exact (Text.trim_infix after).trans hafter.isInfix

/-- The values of the conditions of a rule text stand on one line. -/
theorem Condition.newline_notMem_value {text : String} {cs : List Condition}
    (h : RuleText.parse text = .ok cs) {c : Condition} (hc : c ∈ cs) : '\n' ∉ c.value.toList := by
  obtain ⟨-, hcs⟩ := RuleText.parse_eq_ok_iff_forall₂.mp h
  obtain ⟨line, -, hparse⟩ := exists_mem_of_forall₂ hcs hc
  have hsource : c.source ∈ RuleText.countedLines text := by
    rw [← RuleText.map_source_of_parse h]
    exact List.mem_map_of_mem hc
  exact fun hvalue => RuleText.newline_notMem_of_mem_countedLines hsource
    ((value_infix_source hparse).subset hvalue)

/-- Small letters and underscores. -/
def Catalog.isNameChar (c : Char) : Bool :=
  c.isLower || c == '_'

theorem Catalog.isNameChar_of_mem {name : String} (h : name ∈ selectableNames) :
    ∀ c ∈ name.toList, isNameChar c := by
  have hall : selectableNames.all fun name => name.toList.all isNameChar := by decide
  simpa only [List.all_eq_true] using List.all_eq_true.mp hall name h

theorem Catalog.isDigit_of_mem {name : String} (h : name ∈ selectableNames) :
    ∀ c ∈ name.toList, c.isDigit = false := by
  have hall : selectableNames.all fun name => name.toList.all fun c => !c.isDigit := by decide
  simpa only [List.all_eq_true, Bool.not_eq_true'] using List.all_eq_true.mp hall name h

theorem Condition.notMem_field {cs : List Condition} {f : Filter} (h : Filter.compile cs = .ok f)
    {c : Condition} (hc : c ∈ cs) {x : Char} (hx : Catalog.isNameChar x = false) :
    x ∉ c.field.toList := by
  intro hmem
  have hname := Catalog.isNameChar_of_mem (field_mem_selectableNames h hc) x hmem
  exact absurd hname (by simp [hx])

theorem Catalog.toList_ne_nil_of_mem {name : String} (h : name ∈ selectableNames) :
    name.toList ≠ [] := by
  have hall : ∀ name ∈ selectableNames, name.toList ≠ [] := by decide
  exact hall name h

/-! ### Characters of cells -/

namespace Report

@[simp] theorem toList_cell (width : Nat) (s : String) :
    (cell width s).toList = Text.padRight width s.toList := by
  simp [cell]

theorem mem_cell {width : Nat} {s : String} {c : Char} (h : c ∈ (cell width s).toList) :
    c ∈ s.toList ∨ c = ' ' := by
  rw [toList_cell, Text.padRight, List.mem_append] at h
  exact h.imp_right List.eq_of_mem_replicate

theorem mem_shownValue {s : String} {c : Char} (h : c ∈ (shownValue s).toList) :
    c ∈ s.toList ∨ c = '.' := by
  rw [shownValue, String.toList_ofList, Text.truncate] at h
  split at h
  · refine (List.mem_append.mp h).imp List.mem_of_mem_take fun hdot => ?_
    simpa [Text.ellipsis] using hdot
  · exact .inl h

theorem notMem_cell (width : Nat) {s : String} {x : Char} (hx : x ≠ ' ') (h : x ∉ s.toList) :
    x ∉ (cell width s).toList :=
  fun hmem => (mem_cell hmem).elim h hx

theorem notMem_shownValue {s : String} {x : Char} (hx : x ≠ '.') (h : x ∉ s.toList) :
    x ∉ (shownValue s).toList :=
  fun hmem => (mem_shownValue hmem).elim h hx

theorem notMem_print (n : Nat) {x : Char} (hx : x.isDigit = false) :
    x ∉ (String.ofList (Numeral.print n)).toList := by
  rw [String.toList_ofList]
  exact fun hmem => absurd (Numeral.allDigits_print n x hmem) (by simp [hx])

end Report

end CatalogFilter
