import CatalogFilter.Proofs.Filter.QueryText
import CatalogFilter.Proofs.Report.Decoration

/-!
# The page in an answer

An answer names the page that it was made for and the number of items on a page. Whoever reads an
answer in JSON finds the two numbers among its members, and whoever reads a report finds them in its
last line.

* `Evaluation.fits_toJson`: an answer is within the limits of the reader of JSON.
* `Evaluation.exists_parse_pretty`: the two numbers are read from an answer in JSON.
* `Report.suffix_lines_evaluation`: the last line of a report.
-/

namespace CatalogFilter

/-! ### Answers in JSON -/

theorem Condition.fits_toJson (levels : Nat) (c : Condition) : c.toJson.Fits (levels + 1) := by
  simp [toJson, Operator.toJson, Json.Fits, Json.FitsMembers]

namespace Evaluation

variable {e : Evaluation}

/-- No answer is nested deeper than five levels. -/
theorem fits_toJson (levels : Nat) (hpage : e.pagination.page ≤ Numeral.maxWord)
    (hlimit : e.pagination.limit ≤ Numeral.maxWord) : e.toJson.Fits (levels + 5) := by
  have hconditions :
      (Json.array (e.compiled.conditions.map Condition.toJson)).Fits (levels + 4) := by
    refine ⟨Nat.succ_pos _, Json.fitsItems_iff.mpr fun v hv => ?_⟩
    obtain ⟨c, -, rfl⟩ := List.mem_map.mp hv
    exact c.fits_toJson (levels + 2)
  have hnumber : ∀ {n : Nat}, n ≤ Numeral.maxWord → (Json.integer n).Fits (levels + 3) := by
    intro n hn
    refine ⟨by omega, ?_⟩
    unfold Json.maxSignificand
    unfold Numeral.maxWord at hn
    omega
  exact ⟨Nat.succ_pos _, hconditions, Query.fits_toJson levels e.compiled.filter,
    ⟨Nat.succ_pos _, hnumber hpage, hnumber hlimit, trivial⟩, trivial⟩

/-- The two numbers are read from an answer in JSON. -/
theorem exists_parse_pretty (hpage : e.pagination.page ≤ Numeral.maxWord)
    (hlimit : e.pagination.limit ≤ Numeral.maxWord) :
    ∃ doc, Json.parse (e.toJson.pretty ++ "\n") = .ok doc ∧
      (doc.get? "pagination").bind (Json.get? "page") = some (.integer e.pagination.page) ∧
      (doc.get? "pagination").bind (Json.get? "limit") = some (.integer e.pagination.limit) := by
  have hfits : e.toJson.Fits Json.maxLevels := fits_toJson 122 hpage hlimit
  have hblank : Json.Blank "\n".toList := by simp [Json.Blank, Json.isSpace]
  have htext := (Json.spellsText_pretty hfits).append_blank hblank
  exact ⟨_, Json.parse_of_spellsText htext (Json.depth_reread_le _ hfits), rfl, rfl⟩

end Evaluation

/-! ### Reports -/

namespace Report

theorem sheds_paint_self (colors : Bool) (style : Style) {s : String} (h : Plain s) :
    Sheds (paint colors style s) s := by
  cases colors with
  | true => exact sheds_paint style h
  | false => exact sheds_self h

theorem newline_notMem_paint (colors : Bool) (style : Style) {s : String} (h : '\n' ∉ s.toList) :
    '\n' ∉ (paint colors style s).toList := by
  have hstyle : '\n' ∉ style.opening.toList ∧ '\n' ∉ style.closing.toList := by
    cases style <;> decide
  cases colors with
  | true => simp [paint, hstyle, h]
  | false => exact h

theorem newline_notMem_pageLine (p : Pagination) : '\n' ∉ (pageLine p).toList := by
  have hpage := notMem_print p.page (x := '\n') (by decide)
  have hlimit := notMem_print p.limit (x := '\n') (by decide)
  simp only [pageLine, String.toList_append, List.mem_append, not_or]
  exact ⟨⟨⟨by decide, hpage⟩, by decide⟩, hlimit⟩

/-- The last line of a report names the page. -/
theorem suffix_lines_evaluation (colors : Bool) (e : Evaluation) :
    [("Page " ++ toString e.pagination.page ++ ", limit " ++ toString e.pagination.limit).toList,
      []] <:+ (Text.lines (evaluation colors e).toList).map (dropSequences 0) := by
  have hplain := plain_pageLine e.pagination
  let line := (paint colors .dimmed (pageLine e.pagination)).toList
  have hline : '\n' ∉ line := newline_notMem_paint colors .dimmed (newline_notMem_pageLine _)
  have hdrop : dropSequences 0 line = (pageLine e.pagination).toList := by
    have hsheds := sheds_paint_self colors .dimmed hplain []
    rwa [List.append_nil, dropSequences, List.append_nil] at hsheds
  obtain ⟨before, hbefore⟩ : ∃ before, (evaluation colors e).toList =
      before ++ '\n' :: (line ++ '\n' :: []) :=
    ⟨(header colors "Conditions" ++ conditionTable colors e.compiled.conditions ++ "\n" ++
      header colors "Filter expression" ++ e.compiled.filter.toJson.pretty ++ "\n").toList,
      by simp [evaluation, line]⟩
  rw [hbefore, Text.lines, List.splitOn_append_cons_self,
    List.splitOn_append_cons_self_of_not_mem hline]
  refine ⟨(before.splitOn '\n').map (dropSequences 0), ?_⟩
  rw [List.map_append, List.map_cons, hdrop]
  rfl

end Report

end CatalogFilter
