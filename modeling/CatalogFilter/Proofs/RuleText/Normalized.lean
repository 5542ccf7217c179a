import CatalogFilter.Proofs.RuleText.Concatenation
import CatalogFilter.Request

/-!
# Rule texts in normal form

A rule text that was read can be written again from its conditions alone: the texts of the
conditions one below the other. These are the lines of the first text that count, so that comments,
blank lines and the blanks around lines are gone and nothing else is. None of these lines can end
early, turn into a comment or lose anything when it is read again, since a line that counts is the
only line of itself that counts.

* `RuleText.normalForm`: the texts of conditions, one below the other.
* `RuleText.countedLines_of_mem`: a line that counts, by itself.
* `RuleText.map_source_of_parse`: the texts of conditions are the lines they were read from.
* `RuleText.parse_normalForm`: the normal form is read as the text is.
-/

namespace CatalogFilter

/-! ### Lines that count -/

/-- The lines of a text hold no line feed. -/
theorem Text.newline_notMem_of_mem_lines {cs line : List Char} (h : line ∈ lines cs) :
    '\n' ∉ line := by
  induction cs generalizing line with
  | nil =>
    rw [lines, List.splitOn_nil, List.mem_singleton] at h
    simp [h]
  | cons c cs ih =>
    rw [lines, List.splitOn_eq_splitOnP, List.splitOnP_cons_eq_if_modifyHead] at h
    split at h
    · rcases List.mem_cons.mp h with rfl | hline
      · exact List.not_mem_nil
      · exact ih hline
    · rename_i hc
      obtain ⟨first, rest, hlines⟩ : ∃ first rest, lines cs = first :: rest :=
        List.exists_cons_of_ne_nil (List.splitOn_ne_nil '\n' cs)
      have hsplit : cs.splitOnP (· == '\n') = first :: rest := hlines
      rw [hsplit, List.modifyHead_cons] at h
      rw [hlines] at ih
      rcases List.mem_cons.mp h with rfl | hline
      · have hne : '\n' ≠ c := fun heq => hc (by simp [← heq])
        exact List.not_mem_cons_of_ne_of_not_mem hne (ih List.mem_cons_self)
      · exact ih (List.mem_cons_of_mem first hline)

namespace RuleText

/-- A line that counts holds no line feed. -/
theorem newline_notMem_of_mem_countedLines {text line : String} (h : line ∈ countedLines text) :
    '\n' ∉ line.toList := by
  obtain ⟨hmem, -⟩ := List.mem_filter.mp h
  obtain ⟨piece, hpiece, rfl⟩ := List.mem_map.mp hmem
  rw [String.toList_ofList]
  exact fun hline => Text.newline_notMem_of_mem_lines hpiece ((Text.trim_infix piece).subset hline)

/-- A line that counts is the only line of itself that counts. -/
theorem countedLines_of_mem {text line : String} (h : line ∈ countedLines text) :
    countedLines line = [line] := by
  have hpieces : line.toList.splitOn '\n' = [line.toList] := by
    have hline : ∀ l ∈ [line.toList], '\n' ∉ l :=
      List.forall_mem_singleton.mpr (newline_notMem_of_mem_countedLines h)
    simpa using List.splitOn_intercalate '\n' hline (by simp)
  have hkept := (List.mem_filter.mp h).2
  rw [countedLines, hpieces, List.map_singleton, (tight_of_mem_countedLines h).trim_eq,
    String.ofList_toList, List.filter_singleton, hkept, cond_true]

/-- Lines that count are those that count when they stand one below the other. -/
theorem countedLines_intercalate_countedLines (text : String) :
    countedLines ("\n".intercalate (countedLines text)) = countedLines text := by
  have hlines : ∀ line ∈ countedLines text, countedLines line = [line] :=
    fun line hline => countedLines_of_mem hline
  rw [countedLines_intercalate, List.flatMap_congr hlines, List.flatMap_singleton']

/-! ### Normal forms -/

/-- The texts of the conditions, one below the other. -/
def normalForm (cs : List Condition) : String :=
  "\n".intercalate (cs.map (·.source))

theorem source_of_parse {line : String} {c : Condition} (hline : Text.Tight line.toList)
    (h : Condition.parse line = .ok c) : c.source = line := by
  obtain ⟨op, before, after, -, rfl⟩ := Condition.parse_eq_ok_iff_exists_divides.mp h
  simp [hline.trim_eq]

/-- The texts of the conditions of a rule text are its lines that count. -/
theorem map_source_of_parse {text : String} {cs : List Condition} (h : parse text = .ok cs) :
    cs.map (·.source) = countedLines text := by
  obtain ⟨-, hcs⟩ := parse_eq_ok_iff_forall₂.mp h
  have htight : ∀ line ∈ countedLines text, Text.Tight line.toList :=
    fun line hline => tight_of_mem_countedLines hline
  have hsource : List.Forall₂ (fun line c => line = c.source) (countedLines text) cs :=
    ((List.forall₂_and_left ..).mpr ⟨htight, hcs⟩).imp fun line c ⟨hline, hparse⟩ =>
      (source_of_parse hline hparse).symm
  rw [← List.forall₂_map_right_iff (f := Condition.source), List.forall₂_eq_eq_eq] at hsource
  exact hsource.symm

/-- The normal form of the conditions of a text has the lines of the text that count. -/
theorem countedLines_normalForm {text : String} {cs : List Condition} (h : parse text = .ok cs) :
    countedLines (normalForm cs) = countedLines text := by
  rw [normalForm, map_source_of_parse h, countedLines_intercalate_countedLines]

/-- **A rule text and its normal form are read alike.** The texts of the conditions of a rule text,
one below the other, are its lines that count. They are read as the same conditions, with the same
texts, so that the normal form is its own normal form, and they are compiled to the same filter or
refused with the same error. -/
theorem parse_normalForm {text : String} {cs : List Condition} (h : parse text = .ok cs) :
    normalForm cs = "\n".intercalate (countedLines text) ∧ parse (normalForm cs) = .ok cs ∧
      (∀ ds, parse (normalForm cs) = .ok ds → normalForm ds = normalForm cs) ∧
      Compiled.ofText (normalForm cs) = Compiled.ofText text := by
  have hne : countedLines text ≠ [] := (parse_eq_ok_iff_forall₂.mp h).1
  have hparse : parse (normalForm cs) = parse text :=
    parse_eq_of_countedLines_eq (countedLines_normalForm h) hne
  refine ⟨by rw [normalForm, map_source_of_parse h], hparse.trans h, fun ds hds => ?_, ?_⟩
  · obtain rfl : cs = ds := Except.ok.inj (h.symm.trans (hparse.symm.trans hds))
    rfl
  · rw [Compiled.ofText, Compiled.ofText, hparse]

/-- A comment, a blank line, padding and two kinds of line ends are gone from the normal form; a
comment mark behind a value stays, and so does the error of the second condition. -/
theorem parse_normalForm_padded :
    ∃ cs, parse "# sale\r\n\tprice>1 \r\n\r\n  colour != red # dark\n" = .ok cs ∧
      normalForm cs = "price>1\ncolour != red # dark" ∧
      parse "price>1\ncolour != red # dark" = .ok cs ∧
      Compiled.ofText "price>1\ncolour != red # dark" =
        Compiled.ofText "# sale\r\n\tprice>1 \r\n\r\n  colour != red # dark\n" := by
  have hread : parse "# sale\r\n\tprice>1 \r\n\r\n  colour != red # dark\n" =
      .ok [⟨"price", .greater, "1", "price>1"⟩,
        ⟨"colour", .notEqual, "red # dark", "colour != red # dark"⟩] := rfl
  obtain ⟨-, hparse, -, hcompiled⟩ := parse_normalForm hread
  exact ⟨_, hread, rfl, hparse, hcompiled⟩

end RuleText

end CatalogFilter
