import CatalogFilter.Proofs.RuleText.Outcome

/-!
# Rule texts one after the other

Two rule texts with a line feed between them are read as the two texts are: what counts are the lines
that count in the first text, followed by those that count in the second. So the conditions of the
joint text are those of both, and so are its failures, where the lines of the second text are counted
on from those of the first. Blank lines and comments do not count, wherever they are put.

* `Text.significantLines_append_newline`: the lines of a joint text.
* `RuleText.failures_append`, `RuleText.failures_add`: the failures of a joint text.
* `RuleText.Joins`: what is read of two texts and of the joint text.
* `RuleText.Annotates`: lines to which blank lines and comments are added.
* `RuleText.joins_and_parse_of_annotates`: how rule texts are put together.
-/

namespace CatalogFilter

theorem Text.significantLines_append_newline (a b : String) :
    significantLines (a ++ "\n" ++ b).toList =
      significantLines a.toList ++ significantLines b.toList := by
  have hlist : (a ++ "\n" ++ b).toList = a.toList ++ '\n' :: b.toList := by simp
  simp only [hlist, significantLines, lines, List.splitOn_append_cons_self, List.map_append,
    List.filter_append]

/-- The failure of the same line behind some others. -/
def LineFailure.shift (count : Nat) (f : LineFailure) : LineFailure :=
  { f with line := f.line + count }

namespace RuleText

/-! ### Lines -/

theorem failures_append (number : Nat) (ls ms : List (List Char)) :
    failures number (ls ++ ms) = failures number ls ++ failures (number + ls.length) ms := by
  induction ls generalizing number with
  | nil => rfl
  | cons line ls ih =>
    have hcount : number + (line :: ls).length = number + 1 + ls.length := by
      rw [List.length_cons]
      omega
    rw [List.cons_append, failures, failures, hcount]
    cases Condition.readTrimmed line with
    | ok c => exact ih (number + 1)
    | error fault => rw [ih (number + 1), List.cons_append]

/-- Counting on from a number adds it to the numbers of the lines. -/
theorem failures_add (number count : Nat) (ls : List (List Char)) :
    failures (number + count) ls = (failures number ls).map (·.shift count) := by
  induction ls generalizing number with
  | nil => rfl
  | cons line ls ih =>
    have hnext : number + count + 1 = number + 1 + count := by omega
    rw [failures, failures, hnext]
    cases Condition.readTrimmed line with
    | ok c => exact ih (number + 1)
    | error fault => rw [ih (number + 1), List.map_cons, LineFailure.shift]

/-! ### Texts -/

theorem countedLines_append_newline (a b : String) :
    countedLines (a ++ "\n" ++ b) = countedLines a ++ countedLines b := by
  simp only [countedLines_eq, Text.significantLines_append_newline, List.map_append]

/-- Texts with the same lines that count are read alike, if there are such lines. -/
theorem parse_eq_of_countedLines_eq {a b : String} (h : countedLines a = countedLines b)
    (hne : countedLines b ≠ []) : parse a = parse b := by
  have hlines (text : String) :
      (countedLines text).map String.toList = Text.significantLines text.toList := by
    rw [countedLines_eq, List.map_map]
    simp
  have hread {text : String} (hcounted : countedLines text ≠ []) :
      parse text = parseLines ((countedLines text).map String.toList) := by
    rw [hlines]
    refine parse_of_ne ?_
    rintro rfl
    exact hcounted countedLines_empty
  rw [hread hne, hread (h ▸ hne), h]

/-- The failures of lines that the result of reading reports. -/
def reported : Except RuleError (List Condition) → List LineFailure
  | .ok _ => []
  | .error e => e.failures

/-- Failures of lines are reported by the error that lists them, and by no other one. -/
theorem eq_error_of_reported_ne_nil {r : Except RuleError (List Condition)} (h : reported r ≠ []) :
    r = .error (.lines (reported r)) := by
  cases r with
  | ok cs => exact absurd rfl h
  | error e =>
    cases e with
    | lines fs => rfl
    | _ => exact absurd rfl h

theorem reported_ne_nil {text : String} {fs : List LineFailure}
    (h : parse text = .error (.lines fs)) : reported (parse text) ≠ [] := by
  obtain ⟨hne, -⟩ : fs ≠ [] ∧ Reports (countedLines text) fs := by
    simpa [parse_eq_error_iff] using h
  rw [h]
  exact hne

/-- The failures that are reported of a text are those of its lines that count. -/
theorem reported_parse (text : String) :
    reported (parse text) = failures 1 (Text.significantLines text.toList) := by
  by_cases htext : text = ""
  · subst htext
    rfl
  rw [parse_of_ne htext]
  cases Text.significantLines text.toList with
  | nil => rfl
  | cons line lines =>
    cases hfailures : failures 1 (line :: lines) with
    | nil => simp [parseLines, hfailures, reported]
    | cons f fs => simp [parseLines, hfailures, reported, RuleError.failures]

/-- The failures of a joint text are those of the first text, then those of the second, counted on
from the lines of the first. -/
theorem reported_append_newline (a b : String) :
    reported (parse (a ++ "\n" ++ b)) = reported (parse a) ++
      (reported (parse b)).map (·.shift (countedLines a).length) := by
  have hcount : (countedLines a).length = (Text.significantLines a.toList).length := by
    rw [countedLines_eq, List.length_map]
  rw [reported_parse, reported_parse, reported_parse, Text.significantLines_append_newline,
    failures_append, failures_add, hcount]

/-! ### Joint texts -/

section Joint

variable {a b : String}

theorem parse_append_newline_of_ok {cs ds : List Condition} (ha : parse a = .ok cs)
    (hb : parse b = .ok ds) : parse (a ++ "\n" ++ b) = .ok (cs ++ ds) := by
  obtain ⟨hne, hcs⟩ := parse_eq_ok_iff_forall₂.mp ha
  obtain ⟨-, hds⟩ := parse_eq_ok_iff_forall₂.mp hb
  rw [parse_eq_ok_iff_forall₂, countedLines_append_newline]
  exact ⟨by simp [hne], List.rel_append hcs hds⟩

theorem parse_append_newline_of_lines
    (h : (∃ fs, parse a = .error (.lines fs)) ∨ ∃ fs, parse b = .error (.lines fs)) :
    parse (a ++ "\n" ++ b) = .error (.lines (reported (parse a) ++
      (reported (parse b)).map (·.shift (countedLines a).length))) := by
  rw [← reported_append_newline]
  refine eq_error_of_reported_ne_nil ?_
  rw [reported_append_newline]
  rcases h with ⟨fs, ha⟩ | ⟨fs, hb⟩
  · exact List.append_ne_nil_of_left_ne_nil (reported_ne_nil ha) _
  · refine List.append_ne_nil_of_right_ne_nil _ ?_
    simpa using reported_ne_nil hb

theorem parse_append_newline_of_left (ha : countedLines a = []) (hb : countedLines b ≠ []) :
    parse (a ++ "\n" ++ b) = parse b :=
  parse_eq_of_countedLines_eq (by simp [countedLines_append_newline, ha]) hb

theorem parse_append_newline_of_right (hb : countedLines b = []) (ha : countedLines a ≠ []) :
    parse (a ++ "\n" ++ b) = parse a :=
  parse_eq_of_countedLines_eq (by simp [countedLines_append_newline, hb]) ha

theorem parse_append_newline_of_none (ha : countedLines a = []) (hb : countedLines b = []) :
    parse (a ++ "\n" ++ b) = .error .emptyInput := by
  have hne : a ++ "\n" ++ b ≠ "" := by simp
  have hnone : countedLines (a ++ "\n" ++ b) = [] := by
    simp [countedLines_append_newline, ha, hb]
  exact parse_eq_error_iff.mpr (.inr (.inl ⟨hne, hnone, rfl⟩))

end Joint

/-- What is read of two texts and of the text that joins them by a line feed. -/
structure Joins (a b : String) : Prop where
  /-- If both texts are conditions, the joint text is those of the first and then those of the
  second. -/
  of_ok : ∀ cs ds, parse a = .ok cs → parse b = .ok ds → parse (a ++ "\n" ++ b) = .ok (cs ++ ds)
  /-- If lines of one of the texts fail, the joint text fails with those of the first and then those
  of the second, whose numbers are counted on. -/
  of_lines : ((∃ fs, parse a = .error (.lines fs)) ∨ ∃ fs, parse b = .error (.lines fs)) →
    parse (a ++ "\n" ++ b) = .error (.lines (reported (parse a) ++
      (reported (parse b)).map (·.shift (countedLines a).length)))
  /-- If only the second text has lines that count, the joint text is read as it is. -/
  of_left : countedLines a = [] → countedLines b ≠ [] → parse (a ++ "\n" ++ b) = parse b
  /-- If only the first text has lines that count, the joint text is read as it is. -/
  of_right : countedLines b = [] → countedLines a ≠ [] → parse (a ++ "\n" ++ b) = parse a
  /-- If neither text has lines that count, there is nothing to read in the joint text. -/
  of_none : countedLines a = [] → countedLines b = [] → parse (a ++ "\n" ++ b) = .error .emptyInput

/-! ### Blank lines and comments -/

/-- The second list holds the lines of the first in the same order, and any lines between, before and
behind them that do not count. -/
inductive Annotates : List String → List String → Prop
  | nil : Annotates [] []
  | keep {ls ms : List String} (line : String) (h : Annotates ls ms) :
      Annotates (line :: ls) (line :: ms)
  | add {ls ms : List String} {line : String} (hline : countedLines line = [])
      (h : Annotates ls ms) : Annotates ls (line :: ms)

theorem countedLines_intercalate (ls : List String) :
    countedLines ("\n".intercalate ls) = ls.flatMap countedLines := by
  induction ls with
  | nil => exact countedLines_empty
  | cons line ls ih =>
    cases ls with
    | nil => simp
    | cons next ls =>
      have hcons : "\n".intercalate (line :: next :: ls) =
          line ++ "\n" ++ "\n".intercalate (next :: ls) := by
        simp [String.intercalate_cons_cons]
      rw [List.flatMap_cons, ← ih, hcons, countedLines_append_newline]

theorem Annotates.flatMap_countedLines {ls ms : List String} (h : Annotates ls ms) :
    ms.flatMap countedLines = ls.flatMap countedLines := by
  induction h with
  | nil => rfl
  | keep line _ ih => rw [List.flatMap_cons, List.flatMap_cons, ih]
  | add hline _ ih => rw [List.flatMap_cons, hline, List.nil_append, ih]

/-- **Rule texts are put together.** Two rule texts joined by a line feed are read as the two texts
are, one after the other: the conditions of both, or the failures of both with the lines counted on,
or the one that has lines that count. So lines that do not count can be put anywhere between the
lines of a text that has some that do, and neither the conditions nor the numbers of failing lines
change. -/
theorem joins_and_parse_of_annotates :
    (∀ a b, Joins a b) ∧
      ∀ ls ms, Annotates ls ms → countedLines ("\n".intercalate ls) ≠ [] →
        parse ("\n".intercalate ms) = parse ("\n".intercalate ls) := by
  constructor
  · intro a b
    exact ⟨fun cs ds => parse_append_newline_of_ok, parse_append_newline_of_lines,
      parse_append_newline_of_left, parse_append_newline_of_right, parse_append_newline_of_none⟩
  · intro ls ms h hne
    refine parse_eq_of_countedLines_eq ?_ hne
    rw [countedLines_intercalate, countedLines_intercalate, h.flatMap_countedLines]

/-- A failing line keeps its number when a comment and a blank line are put before it. -/
theorem joins_and_parse_of_annotates_note :
    parse "price > 1\nbad" = .error (.lines [⟨2, "bad", .noOperator⟩]) ∧
      parse " # note\nprice > 1\n\r\nbad" = .error (.lines [⟨2, "bad", .noOperator⟩]) := by
  obtain ⟨hjoins, hannotates⟩ := joins_and_parse_of_annotates
  have hbad : parse "bad" = .error (.lines [⟨1, "bad", .noOperator⟩]) := rfl
  have hread : parse "price > 1\nbad" = .error (.lines [⟨2, "bad", .noOperator⟩]) :=
    (hjoins "price > 1" "bad").of_lines (.inr ⟨_, hbad⟩)
  have hnotes : Annotates ["price > 1", "bad"] [" # note", "price > 1", "\r", "bad"] :=
    .add rfl (.keep _ (.add rfl (.keep _ .nil)))
  exact ⟨hread, (hannotates _ _ hnotes (by decide)).trans hread⟩

end RuleText

end CatalogFilter
