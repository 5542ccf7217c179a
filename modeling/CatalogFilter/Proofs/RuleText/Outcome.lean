import CatalogFilter.Proofs.RuleText.RoundTrip
import Mathlib.Data.List.Sort

/-!
# What a rule text comes to

Reading a rule text has four outcomes, and this file says for every text which one it is. The lines
that count are those between the line feeds, without the blanks around them, that are neither empty
nor comments. If they are all conditions, these are the result. Otherwise every line that is no
condition is reported, with its number among the lines that count, and nothing else is.

* `RuleText.countedLines`: the lines that count.
* `RuleText.Reports`: the failures of lines, one for each line that is no condition.
* `RuleText.mem_failures_iff`, `RuleText.pairwise_failures`: which failures are found, and in which
  order.
* `RuleText.parse_outcome`: the outcome of every text.
-/

namespace CatalogFilter.RuleText

/-! ### Lines -/

/-- The lines of a text that count, in order: what stands between the line feeds, without the blanks
around it, unless that is nothing or a comment. -/
def countedLines (text : String) : List String :=
  ((text.toList.splitOn '\n').map fun piece => .ofList (Text.trim piece)).filter fun line =>
    line ≠ "" ∧ line.toList.head? ≠ some '#'

theorem countedLines_eq (text : String) :
    countedLines text = (Text.significantLines text.toList).map .ofList := by
  have hkept : ∀ cs : List Char, decide (String.ofList cs ≠ "" ∧
      (String.ofList cs).toList.head? ≠ some '#') = Text.isSignificant cs := by
    intro cs
    rw [Bool.eq_iff_iff]
    simp [Text.isSignificant, Text.commentMark]
  have hpieces : (text.toList.splitOn '\n').map (fun piece => String.ofList (Text.trim piece)) =
      ((Text.lines text.toList).map Text.trim).map .ofList := by
    rw [List.map_map]
    rfl
  rw [countedLines, hpieces, List.filter_map, Text.significantLines]
  congr 2
  funext cs
  exact hkept cs

/-- A line that counts is not empty and has no blanks around it. -/
theorem tight_of_mem_significantLines {cs line : List Char} (h : line ∈ Text.significantLines cs) :
    Text.Tight line := by
  obtain ⟨hmem, hsignificant⟩ := List.mem_filter.mp h
  obtain ⟨piece, -, rfl⟩ := List.mem_map.mp hmem
  refine Text.tight_trim ?_
  rintro hnil
  simp [hnil, Text.isSignificant] at hsignificant

theorem tight_of_mem_countedLines {text line : String} (h : line ∈ countedLines text) :
    Text.Tight line.toList := by
  rw [countedLines_eq] at h
  obtain ⟨cs, hcs, rfl⟩ := List.mem_map.mp h
  rw [String.toList_ofList]
  exact tight_of_mem_significantLines hcs

/-! ### Failures -/

/-- The failures of the lines: one for each line that is no condition, with its number counted from
one, its text and what is wrong with it, in the order of the lines. -/
structure Reports (lines : List String) (fs : List LineFailure) : Prop where
  /-- The numbers increase. -/
  increasing : fs.Pairwise fun f g => f.line < g.line
  /-- The failures are those of the lines. -/
  mem_iff : ∀ f, f ∈ fs ↔ ∃ i, f.line = i + 1 ∧ lines[i]? = some f.condition ∧
    Condition.parse f.condition = .error (.condition f.condition f.fault)

theorem mem_failures_cons_iff {number : Nat} {line : List Char} {lines : List (List Char)}
    {f : LineFailure} :
    f ∈ failures number (line :: lines) ↔
      (f.line = number ∧ f.condition = .ofList line ∧ Condition.readTrimmed line = .error f.fault) ∨
        f ∈ failures (number + 1) lines := by
  obtain ⟨n, text, fault⟩ := f
  cases hread : Condition.readTrimmed line with
  | ok c => simp [failures, hread]
  | error fault' => simp [failures, hread, eq_comm]

/-- A failure is found for each line that is no condition, with the number of the line. -/
theorem mem_failures_iff {number : Nat} {lines : List (List Char)} {f : LineFailure} :
    f ∈ failures number lines ↔ ∃ i line, f.line = number + i ∧ lines[i]? = some line ∧
      f.condition = .ofList line ∧ Condition.readTrimmed line = .error f.fault := by
  induction lines generalizing number with
  | nil => simp [failures]
  | cons line lines ih =>
    rw [mem_failures_cons_iff, ih]
    constructor
    · rintro (⟨hline, hfault⟩ | ⟨i, line', hline, hget, hfault⟩)
      · exact ⟨0, line, hline, rfl, hfault⟩
      · exact ⟨i + 1, line', by omega, hget, hfault⟩
    · rintro ⟨i, line', hline, hget, hfault⟩
      cases i with
      | zero =>
        obtain rfl : line = line' := by simpa using hget
        exact .inl ⟨hline, hfault⟩
      | succ i => exact .inr ⟨i, line', by omega, hget, hfault⟩

theorem pairwise_failures (number : Nat) (lines : List (List Char)) :
    (failures number lines).Pairwise fun f g => f.line < g.line := by
  induction lines generalizing number with
  | nil => exact .nil
  | cons line lines ih =>
    rw [failures]
    split
    · exact ih (number + 1)
    · refine .cons (fun f hf => ?_) (ih (number + 1))
      obtain ⟨i, -, hline, -⟩ := mem_failures_iff.mp hf
      show number < f.line
      omega

/-- The failures that are found are those of the lines. -/
theorem reports_failures {lines : List (List Char)} (h : ∀ line ∈ lines, Text.Tight line) :
    Reports (lines.map .ofList) (failures 1 lines) where
  increasing := pairwise_failures 1 lines
  mem_iff f := by
    rw [mem_failures_iff]
    refine exists_congr fun i => ?_
    constructor
    · rintro ⟨line, hline, hget, hcondition, hread⟩
      have htrim : Text.trim line = line := (h line (List.mem_of_getElem? hget)).trim_eq
      refine ⟨by omega, by simp [hget, hcondition], ?_⟩
      rw [hcondition, Condition.parse_eq_error_iff, String.toList_ofList, htrim]
      exact ⟨f.fault, hread, rfl⟩
    · rintro ⟨hline, hget, hparse⟩
      rw [List.getElem?_map, Option.map_eq_some_iff] at hget
      obtain ⟨line, hget, hcondition⟩ := hget
      have htrim : Text.trim line = line := (h line (List.mem_of_getElem? hget)).trim_eq
      rw [← hcondition, Condition.parse_eq_error_iff, String.toList_ofList, htrim] at hparse
      obtain ⟨fault, hread, hfault⟩ := hparse
      obtain rfl : f.fault = fault := by simpa using hfault
      exact ⟨line, by omega, hget, hcondition.symm, hread⟩

theorem reports_countedLines (text : String) :
    Reports (countedLines text) (failures 1 (Text.significantLines text.toList)) := by
  rw [countedLines_eq]
  exact reports_failures fun line hline => tight_of_mem_significantLines hline

/-- The failures of lines are determined by the lines. -/
theorem Reports.unique {lines : List String} {fs gs : List LineFailure} (hfs : Reports lines fs)
    (hgs : Reports lines gs) : fs = gs := by
  have hirrefl : Std.Irrefl fun f g : LineFailure => f.line < g.line := ⟨fun f => lt_irrefl f.line⟩
  have hantisymm : Std.Antisymm fun f g : LineFailure => f.line < g.line :=
    ⟨fun f g hfg hgf => absurd hfg (lt_asymm hgf)⟩
  refine hfs.increasing.eq_of_mem_iff hgs.increasing fun f => ?_
  rw [hfs.mem_iff, hgs.mem_iff]

/-- No line that counts is called empty. -/
theorem Reports.fault_ne_empty {text : String} {fs : List LineFailure}
    (h : Reports (countedLines text) fs) {f : LineFailure} (hf : f ∈ fs) : f.fault ≠ .empty := by
  obtain ⟨i, -, hget, hparse⟩ := (h.mem_iff f).mp hf
  have htight := tight_of_mem_countedLines (List.mem_of_getElem? hget)
  obtain ⟨fault, hread, hfault⟩ := Condition.parse_eq_error_iff.mp hparse
  intro hempty
  obtain ⟨-, hfault⟩ := RuleError.condition.inj hfault
  rw [← hfault, hempty, htight.trim_eq, Condition.readTrimmed_eq_error_empty_iff] at hread
  exact htight.ne_nil hread

/-! ### Outcomes -/

theorem parse_of_ne {text : String} (h : text ≠ "") :
    parse text = parseLines (Text.significantLines text.toList) := by
  rw [parse, if_neg (by simpa using h)]

theorem countedLines_empty : countedLines "" = [] := by decide

theorem parseLines_eq_error_iff {lines : List (List Char)} {e : RuleError} :
    parseLines lines = .error e ↔ (lines = [] ∧ e = .emptyInput) ∨
      (failures 1 lines ≠ [] ∧ e = .lines (failures 1 lines)) := by
  cases lines with
  | nil => simp [parseLines, failures, eq_comm]
  | cons line lines =>
    cases hfailures : failures 1 (line :: lines) with
    | nil => simp [parseLines, hfailures]
    | cons f fs => simp [parseLines, hfailures, eq_comm]

/-- The errors of a rule text. -/
theorem parse_eq_error_iff {text : String} {e : RuleError} :
    parse text = .error e ↔ (text = "" ∧ e = .inputShape) ∨
      (text ≠ "" ∧ countedLines text = [] ∧ e = .emptyInput) ∨
      ∃ fs, fs ≠ [] ∧ Reports (countedLines text) fs ∧ e = .lines fs := by
  have hreports := reports_countedLines text
  have hlines : (∃ fs, fs ≠ [] ∧ Reports (countedLines text) fs ∧ e = .lines fs) ↔
      failures 1 (Text.significantLines text.toList) ≠ [] ∧
        e = .lines (failures 1 (Text.significantLines text.toList)) := by
    constructor
    · rintro ⟨fs, hne, hfs, rfl⟩
      rw [← hfs.unique hreports]
      exact ⟨hne, rfl⟩
    · rintro ⟨hne, rfl⟩
      exact ⟨_, hne, hreports, rfl⟩
  by_cases htext : text = ""
  · subst htext
    have hshape : parse "" = .error .inputShape := rfl
    have hnone : failures 1 (Text.significantLines "".toList) = [] := rfl
    rw [hlines, hshape, hnone]
    simp [@eq_comm _ e]
  · rw [parse_of_ne htext, parseLines_eq_error_iff, hlines, countedLines_eq, List.map_eq_nil_iff]
    simp [htext]

/-- Lines that have no blanks around them are read as they stand. -/
theorem forall₂_parse_iff {lines : List (List Char)} (h : ∀ line ∈ lines, Text.Tight line)
    {cs : List Condition} :
    List.Forall₂ (fun line c => Condition.parse (.ofList line) = .ok c) lines cs ↔
      List.Forall₂ (fun line c => Condition.readTrimmed line = .ok c) lines cs := by
  have hread : (fun line (c : Condition) =>
        Text.Tight line ∧ Condition.parse (.ofList line) = .ok c) =
      fun line c => Text.Tight line ∧ Condition.readTrimmed line = .ok c := by
    funext line c
    refine propext (and_congr_right fun htight => ?_)
    rw [Condition.parse_eq_ok_iff, String.toList_ofList, htight.trim_eq]
  rw [← and_iff_right (b := List.Forall₂ _ lines cs) h, ← List.forall₂_and_left, hread,
    List.forall₂_and_left, and_iff_right h]

/-- The conditions of a rule text are those of its lines. -/
theorem parse_eq_ok_iff_forall₂ {text : String} {cs : List Condition} :
    parse text = .ok cs ↔ countedLines text ≠ [] ∧
      List.Forall₂ (fun line c => Condition.parse line = .ok c) (countedLines text) cs := by
  by_cases htext : text = ""
  · subst htext
    have hshape : parse "" = .error .inputShape := rfl
    simp [hshape, countedLines_empty]
  have htight : ∀ line ∈ Text.significantLines text.toList, Text.Tight line :=
    fun line hline => tight_of_mem_significantLines hline
  rw [parse_of_ne htext, countedLines_eq]
  by_cases hlines : Text.significantLines text.toList = []
  · simp [hlines, parseLines]
  rw [parseLines_eq_ok_iff hlines, List.forall₂_map_left_iff, forall₂_parse_iff htight]
  simp [hlines]

/-- There are failures to report just if one of the lines is no condition. -/
theorem exists_reports_iff (text : String) :
    (∃ fs, fs ≠ [] ∧ Reports (countedLines text) fs) ↔
      ∃ line ∈ countedLines text, ∀ c, Condition.parse line ≠ .ok c := by
  constructor
  · rintro ⟨fs, hne, hfs⟩
    obtain ⟨f, hf⟩ := List.exists_mem_of_ne_nil fs hne
    obtain ⟨i, -, hget, hparse⟩ := (hfs.mem_iff f).mp hf
    exact ⟨f.condition, List.mem_of_getElem? hget, by simp [hparse]⟩
  · rintro ⟨line, hline, hparse⟩
    have hreports := reports_countedLines text
    refine ⟨_, ?_, hreports⟩
    obtain ⟨i, hget⟩ := List.getElem?_of_mem hline
    cases hresult : Condition.parse line with
    | ok c => exact absurd hresult (hparse c)
    | error e =>
      obtain ⟨fault, -, rfl⟩ := Condition.parse_eq_error_iff.mp hresult
      rw [(tight_of_mem_countedLines hline).trim_eq, String.ofList_toList] at hresult
      exact List.ne_nil_of_mem ((hreports.mem_iff ⟨i + 1, line, fault⟩).mpr ⟨i, rfl, hget, hresult⟩)

/-- **What a rule text comes to.** The empty text has the wrong shape, and a text without lines that
count has nothing to read. If all lines that count are conditions, these are the result, in order.
Otherwise the result is the list of the failures of these lines: there is at least one, they are
numbered among the lines that count, and none says that a line is empty. There is no other
outcome. -/
theorem parse_outcome (text : String) :
    (parse text = .error .inputShape ↔ text = "") ∧
      (parse text = .error .emptyInput ↔ text ≠ "" ∧ countedLines text = []) ∧
      (∀ cs, parse text = .ok cs ↔ countedLines text ≠ [] ∧
        List.Forall₂ (fun line c => Condition.parse line = .ok c) (countedLines text) cs) ∧
      ((∃ fs, parse text = .error (.lines fs)) ↔
        ∃ line ∈ countedLines text, ∀ c, Condition.parse line ≠ .ok c) ∧
      (∀ fs, parse text = .error (.lines fs) ↔ fs ≠ [] ∧ Reports (countedLines text) fs) ∧
      (∀ fs, parse text = .error (.lines fs) → ∀ f ∈ fs, f.fault ≠ .empty) ∧
      ∀ e, parse text = .error e → e = .inputShape ∨ e = .emptyInput ∨ ∃ fs, e = .lines fs := by
  have hfailures : ∀ fs, parse text = .error (.lines fs) ↔
      fs ≠ [] ∧ Reports (countedLines text) fs := by
    intro fs
    simp [parse_eq_error_iff]
  refine ⟨by simp [parse_eq_error_iff], by simp [parse_eq_error_iff],
    fun cs => parse_eq_ok_iff_forall₂, ?_, hfailures, ?_, ?_⟩
  · simp only [hfailures]
    exact exists_reports_iff text
  · intro fs h f hf
    exact ((hfailures fs).mp h).2.fault_ne_empty hf
  · intro e h
    rcases parse_eq_error_iff.mp h with ⟨-, he⟩ | ⟨-, -, he⟩ | ⟨fs, -, -, he⟩
    · exact .inl he
    · exact .inr (.inl he)
    · exact .inr (.inr ⟨fs, he⟩)

example : parse "price > 1\n\n # note\nno operator\r\n = 3 " =
    .error (.lines [⟨2, "no operator", .noOperator⟩, ⟨3, "= 3", .noField⟩]) := by
  rfl

end CatalogFilter.RuleText
