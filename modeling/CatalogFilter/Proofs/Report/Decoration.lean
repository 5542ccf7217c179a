import CatalogFilter.Proofs.Json.PrintedText
import CatalogFilter.Proofs.Report.Cells

/-!
# Reports without their colours

A coloured report is the plain one with control sequences in it. The sequences are put around cells
that are filled up already, so that they change no width. Taking them away again gives the plain
report, line by line, unless a value brings control sequences of its own: every escape character
that is left belongs to a sequence that the report put there.

* `Report.controlSequences`: the sequences that reports use.
* `Report.undecorate`: a text without these sequences.
* `Report.Sheds`: a text that becomes another one, whatever follows.
* `Report.sheds_conditionTable`, `Report.sheds_evaluation`, `Report.sheds_validation`: the parts of
  reports.
* `Report.lines_dropSequences`: sequences are taken away line by line.
* `Report.undecorate_reports`: coloured reports become plain ones.
-/

namespace CatalogFilter.Report

/-! ### Taking sequences away -/

/-- The control sequences that reports use. -/
def controlSequences : List (List Char) :=
  ["1", "2", "32", "36", "39", "0"].map fun code => (sequence code).toList

/-- The text without the control sequences in it, from left to right. The first `skip` characters
belong to a sequence that was met before. -/
def dropSequences : (skip : Nat) → List Char → List Char
  | _, [] => []
  | skip + 1, _ :: cs => dropSequences skip cs
  | 0, c :: cs =>
      match controlSequences.find? (·.isPrefixOf (c :: cs)) with
      | some code => dropSequences (code.length - 1) cs
      | none => c :: dropSequences 0 cs

/-- The text without the control sequences in it. -/
def undecorate (s : String) : String :=
  .ofList (dropSequences 0 s.toList)

theorem dropSequences_length_append (code cs : List Char) :
    dropSequences code.length (code ++ cs) = dropSequences 0 cs := by
  induction code with
  | nil => rfl
  | cons c code ih => exact ih

/-- Every sequence starts with the escape character and has no line feed. -/
theorem exists_cons_of_mem_controlSequences {code : List Char} (h : code ∈ controlSequences) :
    ∃ rest, code = '\x1b' :: rest ∧ '\n' ∉ code := by
  have hall : ∀ code ∈ controlSequences, code.head? = some '\x1b' ∧ '\n' ∉ code := by decide
  obtain ⟨hhead, hline⟩ := hall code h
  obtain ⟨rest, hrest⟩ := List.head?_eq_some_iff.mp hhead
  exact ⟨rest, hrest, hline⟩

/-- No sequence starts another one. -/
theorem eq_of_prefix_of_mem {code other : List Char} (hcode : code ∈ controlSequences)
    (hother : other ∈ controlSequences) (h : code <+: other) : code = other := by
  have hall : ∀ code ∈ controlSequences, ∀ other ∈ controlSequences,
      code <+: other → code = other := by decide
  exact hall code hcode other hother h

theorem prefix_of_find?_eq_some {code cs : List Char}
    (h : controlSequences.find? (·.isPrefixOf cs) = some code) :
    code ∈ controlSequences ∧ code <+: cs := by
  have hstart := List.find?_some h
  exact ⟨List.mem_of_find?_eq_some h, by simpa only [List.isPrefixOf_iff_prefix] using hstart⟩

theorem dropSequences_cons_of_ne {c : Char} (h : c ≠ '\x1b') (cs : List Char) :
    dropSequences 0 (c :: cs) = c :: dropSequences 0 cs := by
  have hnone : controlSequences.find? (·.isPrefixOf (c :: cs)) = none := by
    rw [List.find?_eq_none]
    intro code hcode hstart
    obtain ⟨rest, rfl, -⟩ := exists_cons_of_mem_controlSequences hcode
    rw [List.isPrefixOf_iff_prefix, List.cons_prefix_cons] at hstart
    exact h hstart.1.symm
  rw [dropSequences, hnone]

theorem dropSequences_append_of_mem {code : List Char} (h : code ∈ controlSequences)
    (cs : List Char) : dropSequences 0 (code ++ cs) = dropSequences 0 cs := by
  obtain ⟨rest, rfl, -⟩ := exists_cons_of_mem_controlSequences h
  have hfind : controlSequences.find? (·.isPrefixOf ('\x1b' :: rest ++ cs)) =
      some ('\x1b' :: rest) := by
    have hstart : '\x1b' :: rest <+: '\x1b' :: rest ++ cs := List.prefix_append _ _
    obtain ⟨other, hother⟩ : ∃ other,
        controlSequences.find? (·.isPrefixOf ('\x1b' :: rest ++ cs)) = some other :=
      Option.isSome_iff_exists.mp
        (List.find?_isSome.mpr ⟨_, h, List.isPrefixOf_iff_prefix.mpr hstart⟩)
    obtain ⟨hmem, hfound⟩ := prefix_of_find?_eq_some hother
    -- Of two sequences at one place one starts the other, so they are the same.
    rcases List.prefix_or_prefix_of_prefix hstart hfound with hle | hle
    · rw [hother, eq_of_prefix_of_mem h hmem hle]
    · rw [hother, eq_of_prefix_of_mem hmem h hle]
  rw [List.cons_append] at hfind ⊢
  rw [dropSequences, hfind]
  exact dropSequences_length_append rest cs

/-- A text without sequences stays as it is. -/
theorem dropSequences_append_of_notMem {cs : List Char} (h : '\x1b' ∉ cs) (rest : List Char) :
    dropSequences 0 (cs ++ rest) = cs ++ dropSequences 0 rest := by
  induction cs with
  | nil => rfl
  | cons c cs ih =>
    obtain ⟨hc, hcs⟩ := List.ne_and_not_mem_of_not_mem_cons h
    rw [List.cons_append, dropSequences_cons_of_ne (Ne.symm hc), ih hcs, List.cons_append]

/-! ### Line by line -/

theorem dropSequences_subset (skip : Nat) (cs : List Char) : dropSequences skip cs ⊆ cs := by
  fun_induction dropSequences skip cs with
  | case1 => exact List.Subset.refl _
  | case2 skip c cs ih => exact List.subset_cons_of_subset c ih
  | case3 c cs code hcode ih => exact List.subset_cons_of_subset c ih
  | case4 c cs hnone ih => exact List.cons_subset_cons c ih

/-- No sequence goes on behind the end of a line. -/
theorem find?_append_newline (cs ds : List Char) :
    controlSequences.find? (·.isPrefixOf (cs ++ '\n' :: ds)) =
      controlSequences.find? (·.isPrefixOf cs) := by
  refine List.find?_congr fun code hcode => ?_
  obtain ⟨-, -, hline⟩ := exists_cons_of_mem_controlSequences hcode
  rw [Bool.eq_iff_iff, List.isPrefixOf_iff_prefix, List.isPrefixOf_iff_prefix]
  refine ⟨fun hstart => ?_, fun hstart => hstart.trans (List.prefix_append _ _)⟩
  rcases List.prefix_or_prefix_of_prefix hstart (List.prefix_append cs _) with hle | ⟨rest, rfl⟩
  · exact hle
  · rw [List.prefix_append_right_inj] at hstart
    cases rest with
    | nil => simp
    | cons c rest =>
      obtain ⟨rfl, -⟩ := List.cons_prefix_cons.mp hstart
      exact absurd (by simp) hline

theorem dropSequences_append_newline {skip : Nat} {cs : List Char} (h : skip ≤ cs.length)
    (ds : List Char) :
    dropSequences skip (cs ++ '\n' :: ds) =
      dropSequences skip cs ++ '\n' :: dropSequences 0 ds := by
  fun_induction dropSequences skip cs with
  | case1 skip =>
    obtain rfl : skip = 0 := Nat.le_zero.mp h
    exact dropSequences_cons_of_ne (by decide) ds
  | case2 skip c cs ih => exact ih (Nat.le_of_succ_le_succ h)
  | case3 c cs code hcode ih =>
    have hfind := (find?_append_newline (c :: cs) ds).trans hcode
    have hlength : code.length ≤ cs.length + 1 := (prefix_of_find?_eq_some hcode).2.length_le
    rw [List.cons_append] at hfind ⊢
    rw [dropSequences, hfind]
    exact ih (by omega)
  | case4 c cs hnone ih =>
    have hfind := (find?_append_newline (c :: cs) ds).trans hnone
    rw [List.cons_append] at hfind ⊢
    rw [dropSequences, hfind, List.cons_append]
    exact congrArg _ (ih (Nat.zero_le _))

theorem dropSequences_joinLines (ls : List (List Char)) :
    dropSequences 0 (Text.joinLines ls) = Text.joinLines (ls.map (dropSequences 0)) := by
  induction ls with
  | nil => rfl
  | cons l ls ih =>
    cases ls with
    | nil => simp [Text.joinLines]
    | cons next ls =>
      have hjoin (a b : List Char) (rest : List (List Char)) :
          Text.joinLines (a :: b :: rest) = a ++ '\n' :: Text.joinLines (b :: rest) := by
        simp [Text.joinLines, List.intercalate_cons_cons]
      rw [hjoin, dropSequences_append_newline (Nat.zero_le _), ih]
      simp only [List.map_cons, hjoin]

/-- Sequences are taken away line by line. -/
theorem lines_dropSequences (cs : List Char) :
    Text.lines (dropSequences 0 cs) = (Text.lines cs).map (dropSequences 0) := by
  have hjoin : Text.joinLines (Text.lines cs) = cs := List.intercalate_splitOn '\n'
  have hline : ∀ l ∈ (Text.lines cs).map (dropSequences 0), '\n' ∉ l := by
    intro l hl
    obtain ⟨line, hmem, rfl⟩ := List.mem_map.mp hl
    exact fun hnew => Text.newline_notMem_of_mem_lines hmem (dropSequences_subset 0 line hnew)
  conv_lhs => rw [← hjoin, dropSequences_joinLines]
  exact List.splitOn_intercalate '\n' hline (by simp [Text.lines, List.splitOn_ne_nil])

/-! ### Parts of reports -/

/-- The text has no escape character. -/
def Plain (s : String) : Prop :=
  '\x1b' ∉ s.toList

instance (s : String) : Decidable (Plain s) :=
  inferInstanceAs (Decidable ('\x1b' ∉ s.toList))

@[simp] theorem plain_append {s t : String} : Plain (s ++ t) ↔ Plain s ∧ Plain t := by
  simp [Plain]

/-- Without its sequences the first text is the second one, whatever follows it. -/
def Sheds (s t : String) : Prop :=
  ∀ rest, dropSequences 0 (s.toList ++ rest) = t.toList ++ dropSequences 0 rest

theorem Sheds.append {s t s' t' : String} (h : Sheds s t) (h' : Sheds s' t') :
    Sheds (s ++ s') (t ++ t') := by
  intro rest
  rw [String.toList_append, String.toList_append, List.append_assoc, h, h', List.append_assoc]

theorem Sheds.undecorate_eq {s t : String} (h : Sheds s t) : undecorate s = t := by
  have hdrop := h []
  rw [List.append_nil, dropSequences, List.append_nil] at hdrop
  rw [undecorate, hdrop, String.ofList_toList]

/-- A text without escape characters stays as it is. -/
theorem sheds_self {s : String} (h : Plain s) : Sheds s s :=
  dropSequences_append_of_notMem h

theorem sheds_of_mem {s : String} (h : s.toList ∈ controlSequences) : Sheds s "" :=
  dropSequences_append_of_mem h

theorem sheds_opening (style : Style) : Sheds style.opening "" := by
  cases style with
  | heading => exact (sheds_of_mem (by decide)).append (sheds_of_mem (by decide))
  | dimmed | operator | success => exact sheds_of_mem (by decide)

theorem sheds_closing (style : Style) : Sheds style.closing "" := by
  cases style with
  | heading => exact (sheds_of_mem (by decide)).append (sheds_of_mem (by decide))
  | dimmed | operator | success => exact sheds_of_mem (by decide)

/-- A painted text becomes the text that is not painted. -/
theorem sheds_paint (style : Style) {s : String} (h : Plain s) :
    Sheds (paint true style s) (paint false style s) := by
  have hpainted := ((sheds_opening style).append (sheds_self h)).append (sheds_closing style)
  rwa [String.empty_append, String.append_empty] at hpainted

theorem sheds_header {s : String} (h : Plain s) : Sheds (header true s) (header false s) :=
  (sheds_paint .heading h).append (sheds_self (by decide))

theorem sheds_columnHeading {s : String} (h : Plain s) :
    Sheds (columnHeading true s) (columnHeading false s) :=
  (sheds_paint .dimmed h).append (sheds_self (by decide))

/-! ### Tables of conditions -/

theorem plain_cell (width : Nat) {s : String} (h : Plain s) : Plain (cell width s) :=
  notMem_cell width (by decide) h

theorem plain_print (n : Nat) : Plain (.ofList (Numeral.print n)) :=
  notMem_print n (by decide)

theorem plain_symbol (op : Operator) : Plain op.symbol := by
  cases op <;> decide

theorem plain_shownValue {s : String} (h : Plain s) : Plain (shownValue s) :=
  notMem_shownValue (by decide) h

theorem plain_conditionColumns (width : Nat) : Plain (conditionColumns width) := by
  have hfield := plain_cell width (s := "Field") (by decide)
  simp only [conditionColumns, plain_append]
  exact ⟨⟨⟨⟨⟨by decide, by decide⟩, hfield⟩, by decide⟩, by decide⟩, by decide⟩

theorem sheds_conditionRow (width number : Nat) {c : Condition} (hfield : Plain c.field)
    (hvalue : Plain c.value) :
    Sheds (conditionRow true width number c) (conditionRow false width number c) := by
  have hblank : Sheds " " " " := sheds_self (by decide)
  have hnumber := sheds_paint .dimmed (plain_cell narrow (plain_print number))
  have hoperator := sheds_paint .operator (plain_cell narrow (plain_symbol c.operator))
  have hname := sheds_self (plain_cell width hfield)
  have hshown := sheds_self (plain_shownValue hvalue)
  exact ((((((hnumber.append hblank).append hname).append hblank).append hoperator).append
    hblank).append hshown).append (sheds_self (by decide))

theorem sheds_conditionRows (width : Nat) {cs : List Condition}
    (h : ∀ c ∈ cs, Plain c.field ∧ Plain c.value) (number : Nat) :
    Sheds (conditionRows true width number cs) (conditionRows false width number cs) := by
  induction cs generalizing number with
  | nil => exact sheds_self (s := "") (by decide)
  | cons c cs ih =>
    obtain ⟨⟨hfield, hvalue⟩, hcs⟩ := List.forall_mem_cons.mp h
    exact (sheds_conditionRow width number hfield hvalue).append (ih hcs (number + 1))

theorem sheds_conditionTable {cs : List Condition} (h : ∀ c ∈ cs, Plain c.field ∧ Plain c.value) :
    Sheds (conditionTable true cs) (conditionTable false cs) :=
  (sheds_columnHeading (plain_conditionColumns _)).append (sheds_conditionRows _ h 1)

/-! ### Whole reports -/

theorem plain_pageLine (p : Pagination) : Plain (pageLine p) := by
  simp only [pageLine, plain_append]
  exact ⟨⟨⟨by decide, plain_print p.page⟩, by decide⟩, plain_print p.limit⟩

theorem plain_pretty (v : Json) : Plain v.pretty := by
  intro hmem
  rcases Json.clean_pretty v _ hmem with hcode | hline
  · exact absurd hcode (by decide)
  · exact absurd hline (by decide)

theorem plain_conditionCount (n : Nat) : Plain (conditionCount n) := by
  simp only [conditionCount, plain_append]
  refine ⟨⟨plain_print n, by decide⟩, ?_⟩
  split <;> decide

theorem sheds_evaluation {e : Evaluation}
    (h : ∀ c ∈ e.compiled.conditions, Plain c.field ∧ Plain c.value) :
    Sheds (evaluation true e) (evaluation false e) := by
  have htable := sheds_conditionTable h
  have hfilter := sheds_self (plain_pretty e.compiled.filter.toJson)
  have hpage := sheds_paint .dimmed (plain_pageLine e.pagination)
  have hconditions := sheds_header (s := "Conditions") (by decide)
  have hexpression := sheds_header (s := "Filter expression") (by decide)
  exact ((((((hconditions.append htable).append (sheds_self (by decide))).append
    hexpression).append hfilter).append (sheds_self (by decide))).append hpage).append
      (sheds_self (by decide))

theorem sheds_validation {c : Compiled} (h : ∀ d ∈ c.conditions, Plain d.field ∧ Plain d.value) :
    Sheds (validation true c) (validation false c) := by
  have htable := sheds_conditionTable h
  have hmark := sheds_paint .success (s := "✓") (by decide)
  have hcount := sheds_self (plain_conditionCount c.conditions.length)
  exact (((hmark.append (sheds_self (by decide))).append hcount).append
    (sheds_self (by decide))).append htable

/-- The fields of conditions that are compiled have no escape characters. -/
theorem plain_of_compile {cs : List Condition} {f : Filter} (h : Filter.compile cs = .ok f)
    (hvalues : ∀ c ∈ cs, Plain c.value) : ∀ c ∈ cs, Plain c.field ∧ Plain c.value :=
  fun c hc => ⟨Condition.notMem_field h hc (by decide), hvalues c hc⟩

/-- **Colours are only decoration.** Take any answer to a request, and any answer that a rule text
is valid, whose conditions have no escape character in their values. Without its control sequences
the coloured report is the plain one, to the last blank, and each line of the coloured report is so
the line of the plain one in its place. -/
theorem undecorate_reports :
    (∀ (r : Request) (e : Evaluation), r.evaluate = .ok e →
        (∀ c ∈ e.compiled.conditions, Plain c.value) →
        undecorate (evaluation true e) = evaluation false e ∧
          (Text.lines (evaluation true e).toList).map (dropSequences 0) =
            Text.lines (evaluation false e).toList) ∧
      ∀ (text : String) (c : Compiled), Compiled.ofText text = .ok c →
        (∀ d ∈ c.conditions, Plain d.value) →
        undecorate (validation true c) = validation false c ∧
          (Text.lines (validation true c).toList).map (dropSequences 0) =
            Text.lines (validation false c).toList := by
  have hboth {s t : String} (h : Sheds s t) :
      undecorate s = t ∧ (Text.lines s.toList).map (dropSequences 0) = Text.lines t.toList := by
    refine ⟨h.undecorate_eq, ?_⟩
    rw [← lines_dropSequences, ← h.undecorate_eq, undecorate, String.toList_ofList]
  constructor
  · intro r e he hvalues
    obtain ⟨⟨text, -, hc⟩, -⟩ := Request.evaluate_eq_ok_iff.mp he
    have hcompile := (Compiled.ofText_eq_ok_iff.mp hc).2
    exact hboth (sheds_evaluation (plain_of_compile hcompile hvalues))
  · intro text c hc hvalues
    have hcompile := (Compiled.ofText_eq_ok_iff.mp hc).2
    exact hboth (sheds_validation (plain_of_compile hcompile hvalues))

/-- A value that looks like the rest of a control sequence stays as it is. -/
theorem undecorate_reports_bracket :
    let c : Compiled :=
      ⟨[.ofParts "title" .equal "[1m"], ⟨[.direct ⟨"title", .equals (.text "[1m")⟩]⟩⟩
    validation true c = "\x1b[32m✓\x1b[39m Rules are valid (1 condition)\n\n" ++
        "\x1b[2m#   Field Op  Value\x1b[0m\n\x1b[2m1  \x1b[0m title \x1b[36m=  \x1b[39m [1m\n" ∧
      Compiled.ofText "title = [1m" = .ok c ∧ undecorate (validation true c) = validation false c ∧
      (Request.ofText "title = [1m" {}).evaluate = .ok ⟨c, {}⟩ ∧
      undecorate (evaluation true ⟨c, {}⟩) = evaluation false ⟨c, {}⟩ := by
  intro c
  have hc : Compiled.ofText "title = [1m" = .ok c := rfl
  have he : (Request.ofText "title = [1m" {}).evaluate = .ok ⟨c, {}⟩ := rfl
  have hvalues : ∀ d ∈ c.conditions, Plain d.value := by decide
  exact ⟨by decide, hc, (undecorate_reports.2 _ c hc hvalues).1, he,
    (undecorate_reports.1 _ _ he hvalues).1⟩

end CatalogFilter.Report
