import CatalogFilter.Proofs.Report.Cells
import Mathlib.Order.Bounds.Basic

/-!
# The columns of a table of conditions

A plain table of conditions has a line for its heading and one for each condition. The cells of a
line are filled up with blanks, and the width of the column of fields is taken from all conditions,
so that the columns of a line start at fixed distances from each other. Where the first of them
starts depends on the number of the line: its cell has room for three digits, and a number that has
more pushes the rest of its line to the right.

* `Report.CellAt`, `Report.Columns`: where the cells of a line stand.
* `Report.Arranged`: the lines of a table and the columns in them.
* `Report.lines_conditionTable`, `Report.columns_rowLine`: the lines of a table and their columns.
* `Report.arranged_conditionTable`: where the columns start, and when all start at the same places.
-/

namespace CatalogFilter.Report

/-! ### Lines with columns -/

/-- A cell of a column: from the character `start` on the line has the text, and blanks behind it up
to the width of the column and one further. -/
structure CellAt (line : List Char) (start width : Nat) (s : String) : Prop where
  /-- The text has room in the column. -/
  length_le : s.length ≤ width
  /-- The text and the blanks behind it. -/
  take_drop : (line.drop start).take (width + 1) =
    s.toList ++ List.replicate (width + 1 - s.length) ' '

/-- A line with the three columns of a table, the first of which starts at the character `start` and
has the given width. -/
structure Columns (start width : Nat) (line : List Char) (field operator value : String) :
    Prop where
  /-- The column of the field. -/
  field : CellAt line start width field
  /-- The column of the operator. -/
  operator : CellAt line (start + width + 1) 3 operator
  /-- The column of the value, up to the end of the line. -/
  value : line.drop (start + width + 5) = value.toList

/-- A value of at most forty characters, or the first thirty-seven of a longer one and three dots. -/
def cutValue (s : String) : String :=
  if s.length ≤ 40 then s else .ofList (s.toList.take 37 ++ ['.', '.', '.'])

/-- The plain table of the conditions has one line for the heading and one for each condition. The
width of the fields is that of the longest one, or five. The columns of the heading start at the
character four, and those of the row at the place `i` at the character `start i`. -/
def Arranged (start : Nat → Nat) (cs : List Condition) : Prop :=
  ∃ (width : Nat) (heading : List Char) (rows : List (List Char)),
    IsGreatest {n | n = 5 ∨ ∃ c ∈ cs, n = c.field.length} width ∧
    Text.lines (conditionTable false cs).toList = heading :: rows ++ [[]] ∧
    rows.length = cs.length ∧ Columns 4 width heading "Field" "Op" "Value" ∧
    ∀ i c, cs[i]? = some c → ∃ row, rows[i]? = some row ∧
      Columns (start i) width row c.field c.operator.symbol (cutValue c.value)

theorem shownValue_eq (s : String) : shownValue s = cutValue s := by
  rw [shownValue, cutValue, Text.truncate, String.length_toList, valueWidth]
  by_cases h : s.length ≤ 40
  · rw [if_neg (by omega), if_pos h, String.ofList_toList]
  · rw [if_pos (by omega), if_neg h]
    rfl

/-! ### The width of a column -/

theorem isGreatest_foldl_max (least : Nat) (ns : List Nat) :
    IsGreatest {n | n = least ∨ n ∈ ns} (ns.foldl max least) := by
  induction ns generalizing least with
  | nil => simp [IsGreatest, upperBounds]
  | cons m ns ih =>
    obtain ⟨hmem, hle⟩ := ih (max least m)
    have hmax : max least m ≤ ns.foldl max (max least m) := hle (.inl rfl)
    constructor
    · rcases hmem with hmem | hmem
      · rcases max_choice least m with hchoice | hchoice
        · exact .inl (hmem.trans hchoice)
        · exact .inr (List.mem_cons.mpr (.inl (hmem.trans hchoice)))
      · exact .inr (List.mem_cons_of_mem m hmem)
    · rintro n (rfl | hn)
      · exact (le_max_left n m).trans hmax
      · rcases List.mem_cons.mp hn with rfl | hn
        · exact (le_max_right least n).trans hmax
        · exact hle (.inr hn)

/-- The width of the column of fields. -/
theorem isGreatest_columnWidth (cs : List Condition) :
    IsGreatest {n | n = 5 ∨ ∃ c ∈ cs, n = c.field.length}
      (columnWidth "Field".length (cs.map (·.field))) := by
  have hset : {n | n = 5 ∨ ∃ c ∈ cs, n = c.field.length} =
      {n | n = 5 ∨ n ∈ (cs.map (·.field)).map String.length} := by
    ext n
    simp [eq_comm]
  rw [hset]
  exact isGreatest_foldl_max 5 _

/-! ### One line -/

/-- A cell with the blank behind it. -/
def block (width : Nat) (s : String) : List Char :=
  Text.padRight width s.toList ++ [' ']

theorem length_block (width : Nat) (s : String) :
    (block width s).length = max width s.length + 1 := by
  rw [block, List.length_append, Text.length_padRight, String.length_toList, List.length_singleton]

theorem cellAt_append (before after : List Char) {width : Nat} {s : String} (h : s.length ≤ width) :
    CellAt (before ++ block width s ++ after) before.length width s := by
  refine ⟨h, ?_⟩
  have hlength : (block width s).length = width + 1 := by rw [length_block, max_eq_left h]
  have htake : (block width s ++ after).take (width + 1) = block width s := by
    rw [← hlength, List.take_left]
  have hblanks : width + 1 - s.length = (width - s.length) + 1 := by omega
  rw [List.append_assoc, List.drop_left, htake, hblanks, List.replicate_succ', block, Text.padRight,
    String.length_toList, List.append_assoc]

/-- A line of a table: its number, and three cells behind it. -/
def tableLine (width : Nat) (number field operator value : String) : List Char :=
  block 3 number ++ block width field ++ block 3 operator ++ value.toList

/-- The columns start behind the number, which takes three characters or more. -/
theorem columns_tableLine {width : Nat} {field operator : String} (number value : String)
    (hfield : field.length ≤ width) (hoperator : operator.length ≤ 3) :
    Columns (max 3 number.length + 1) width (tableLine width number field operator value) field
      operator value := by
  have hnumber := length_block 3 number
  have hfirst : (block 3 number ++ block width field).length =
      max 3 number.length + 1 + width + 1 := by
    rw [List.length_append, hnumber, length_block, max_eq_left hfield, Nat.add_assoc _ width]
  have hall : (block 3 number ++ block width field ++ block 3 operator).length =
      max 3 number.length + 1 + width + 5 := by
    rw [List.length_append, hfirst, length_block, max_eq_left hoperator]
  refine ⟨?_, ?_, ?_⟩
  · rw [tableLine, List.append_assoc _ _ value.toList, ← hnumber]
    exact cellAt_append _ _ hfield
  · rw [← hfirst]
    exact cellAt_append _ _ hoperator
  · rw [← hall]
    exact List.drop_left

/-! ### The lines of a table -/

/-- The line of a condition. -/
def rowLine (width number : Nat) (c : Condition) : List Char :=
  tableLine width (.ofList (Numeral.print number)) c.field c.operator.symbol (cutValue c.value)

theorem toList_conditionColumns (width : Nat) :
    (conditionColumns width).toList = tableLine width "#" "Field" "Op" "Value" := by
  simp [conditionColumns, tableLine, block, narrow]

theorem toList_conditionRow (width number : Nat) (c : Condition) :
    (conditionRow false width number c).toList = rowLine width number c ++ ['\n'] := by
  simp [conditionRow, rowLine, tableLine, block, narrow, paint, shownValue_eq]

theorem length_symbol_le (op : Operator) : op.symbol.length ≤ 3 := by
  cases op <;> decide

theorem columns_rowLine {width : Nat} {c : Condition} (number : Nat) (h : c.field.length ≤ width) :
    Columns (max 3 (Numeral.print number).length + 1) width (rowLine width number c) c.field
      c.operator.symbol (cutValue c.value) := by
  have hcolumns := columns_tableLine (.ofList (Numeral.print number)) (cutValue c.value) h
    (length_symbol_le c.operator)
  rwa [String.length_ofList] at hcolumns

theorem mem_block {width : Nat} {s : String} {x : Char} (h : x ∈ block width s) :
    x ∈ s.toList ∨ x = ' ' := by
  rcases List.mem_append.mp h with hcell | hblank
  · rw [← toList_cell] at hcell
    exact mem_cell hcell
  · exact .inr (List.mem_singleton.mp hblank)

theorem newline_notMem_block {width : Nat} {s : String} (h : '\n' ∉ s.toList) :
    '\n' ∉ block width s :=
  fun hmem => (mem_block hmem).elim h (by decide)

theorem newline_notMem_tableLine (width : Nat) {number field operator value : String}
    (hnumber : '\n' ∉ number.toList) (hfield : '\n' ∉ field.toList)
    (hoperator : '\n' ∉ operator.toList) (hvalue : '\n' ∉ value.toList) :
    '\n' ∉ tableLine width number field operator value := by
  simp only [tableLine, List.mem_append, not_or]
  exact ⟨⟨⟨newline_notMem_block hnumber, newline_notMem_block hfield⟩,
    newline_notMem_block hoperator⟩, hvalue⟩

theorem newline_notMem_rowLine (width number : Nat) {c : Condition} (hfield : '\n' ∉ c.field.toList)
    (hvalue : '\n' ∉ c.value.toList) : '\n' ∉ rowLine width number c := by
  have hnumber : '\n' ∉ (String.ofList (Numeral.print number)).toList :=
    notMem_print number (by decide)
  have hsymbol : '\n' ∉ c.operator.symbol.toList := by cases c.operator <;> decide
  have hcut : '\n' ∉ (cutValue c.value).toList := by
    rw [← shownValue_eq]
    exact notMem_shownValue (by decide) hvalue
  exact newline_notMem_tableLine width hnumber hfield hsymbol hcut

theorem lines_append_newline {line : List Char} (h : '\n' ∉ line) (rest : List Char) :
    Text.lines (line ++ ['\n'] ++ rest) = line :: Text.lines rest := by
  rw [List.append_assoc]
  exact List.splitOn_append_cons_self_of_not_mem h rest

/-- The rows of a table of conditions. -/
theorem lines_conditionRows (width : Nat) {cs : List Condition}
    (h : ∀ c ∈ cs, '\n' ∉ c.field.toList ∧ '\n' ∉ c.value.toList) (number : Nat) :
    Text.lines (conditionRows false width number cs).toList =
      cs.mapIdx (fun i c => rowLine width (number + i) c) ++ [[]] := by
  induction cs generalizing number with
  | nil => rfl
  | cons c cs ih =>
    obtain ⟨⟨hfield, hvalue⟩, hcs⟩ := List.forall_mem_cons.mp h
    have hrow := newline_notMem_rowLine width number hfield hvalue
    have hnext (i : Nat) : number + 1 + i = number + (i + 1) := by omega
    rw [conditionRows, String.toList_append, toList_conditionRow, lines_append_newline hrow,
      ih hcs, List.mapIdx_cons, List.cons_append]
    simp only [hnext, Nat.add_zero]

/-- The lines of a table: the heading, the conditions, and the empty text behind the last one. -/
theorem lines_conditionTable {cs : List Condition}
    (h : ∀ c ∈ cs, '\n' ∉ c.field.toList ∧ '\n' ∉ c.value.toList) :
    let width := columnWidth "Field".length (cs.map (·.field))
    Text.lines (conditionTable false cs).toList =
      tableLine width "#" "Field" "Op" "Value" ::
        cs.mapIdx (fun i c => rowLine width (i + 1) c) ++ [[]] := by
  intro width
  have hheading : '\n' ∉ tableLine width "#" "Field" "Op" "Value" :=
    newline_notMem_tableLine width (by decide) (by decide) (by decide) (by decide)
  have htable : (conditionTable false cs).toList = tableLine width "#" "Field" "Op" "Value" ++
      ['\n'] ++ (conditionRows false width 1 cs).toList := by
    rw [← toList_conditionColumns]
    simp [conditionTable, columnHeading, paint, width]
  rw [htable, lines_append_newline hheading, lines_conditionRows width h 1, List.cons_append]
  simp only [Nat.add_comm 1]

/-! ### Where columns start -/

/-- The columns of a row start behind its number. -/
theorem arranged_of_lines {cs : List Condition}
    (h : ∀ c ∈ cs, '\n' ∉ c.field.toList ∧ '\n' ∉ c.value.toList) :
    Arranged (fun i => max 3 (Numeral.print (i + 1)).length + 1) cs := by
  have hwidth := isGreatest_columnWidth cs
  refine ⟨_, _, _, hwidth, lines_conditionTable h, List.length_mapIdx, ?_, ?_⟩
  · exact columns_tableLine "#" "Value" (hwidth.2 (.inl rfl)) (by decide)
  · intro i c hc
    have hfield := hwidth.2 (.inr ⟨c, List.mem_of_getElem? hc, rfl⟩)
    refine ⟨_, ?_, columns_rowLine (i + 1) hfield⟩
    rw [List.getElem?_mapIdx, hc, Option.map_some]

theorem Arranged.congr {start start' : Nat → Nat} {cs : List Condition} (h : Arranged start cs)
    (heq : ∀ i < cs.length, start i = start' i) : Arranged start' cs := by
  obtain ⟨width, heading, rows, hwidth, hlines, hlength, hheading, hrows⟩ := h
  refine ⟨width, heading, rows, hwidth, hlines, hlength, hheading, fun i c hc => ?_⟩
  obtain ⟨row, hrow, hcolumns⟩ := hrows i c hc
  obtain ⟨hi, -⟩ := List.getElem?_eq_some_iff.mp hc
  exact ⟨row, hrow, heq i hi ▸ hcolumns⟩

theorem CellAt.getElem?_start {row : List Char} {start width : Nat} {s : String}
    (h : CellAt row start width s) (hs : s.toList ≠ []) : row[start]? = s.toList.head? := by
  have hhead := congrArg List.head? h.take_drop
  rwa [List.head?_take, if_neg (Nat.succ_ne_zero width), List.head?_drop,
    List.head?_append_of_ne_nil _ hs] at hhead

/-- In front of the first column there are digits and blanks only, and so no name starts there. -/
theorem le_start_of_cellAt {width number start w : Nat} {c : Condition}
    (hname : c.field ∈ Catalog.selectableNames)
    (h : CellAt (rowLine width number c) start w c.field) :
    max 3 (Numeral.print number).length + 1 ≤ start := by
  by_contra hlt
  -- The character at `start` is the first letter `x` of the name, but stands in the number's block.
  have hne := Catalog.toList_ne_nil_of_mem hname
  obtain ⟨x, rest, hfield⟩ := List.exists_cons_of_ne_nil hne
  have hx : x ∈ c.field.toList := by simp [hfield]
  have hlength := length_block 3 (.ofList (Numeral.print number))
  rw [String.length_ofList] at hlength
  have hletter := h.getElem?_start hne
  rw [rowLine, tableLine, List.append_assoc, List.append_assoc,
    List.getElem?_append_left (by omega), hfield, List.head?_cons] at hletter
  rcases mem_block (List.mem_of_getElem? hletter) with hdigit | rfl
  · exact notMem_print number (Catalog.isDigit_of_mem hname x hx) hdigit
  · exact absurd (Catalog.isNameChar_of_mem hname _ hx) (by decide)

/-! ### Tables of rules -/

/-- The fields and values of compiled rules stand on one line. -/
theorem newline_notMem_of_ofText {text : String} {c : Compiled} (h : Compiled.ofText text = .ok c) :
    ∀ d ∈ c.conditions, '\n' ∉ d.field.toList ∧ '\n' ∉ d.value.toList := by
  obtain ⟨hparse, hcompile⟩ := Compiled.ofText_eq_ok_iff.mp h
  exact fun d hd => ⟨Condition.notMem_field hcompile hd (by decide),
    Condition.newline_notMem_value hparse hd⟩

/-- The row with the number one thousand has its columns further to the right. -/
theorem length_lt_of_arranged {text : String} {c : Compiled} (hc : Compiled.ofText text = .ok c)
    (h : Arranged (fun _ => 4) c.conditions) : c.conditions.length < 1000 := by
  obtain ⟨width, heading, rows, -, htable, -, -, hrows⟩ := h
  by_contra hlength
  -- The row at the place 999 has a number of four digits.
  have hi : 999 < c.conditions.length := by omega
  have hrow? := List.getElem?_eq_getElem hi
  obtain ⟨row, hrow, hcolumns⟩ := hrows 999 _ hrow?
  rw [lines_conditionTable (newline_notMem_of_ofText hc), List.cons_append, List.cons_append,
    List.cons.injEq] at htable
  rw [← List.append_cancel_right htable.2, List.getElem?_mapIdx, hrow?, Option.map_some,
    Option.some.injEq] at hrow
  subst hrow
  have hname := Condition.field_mem_selectableNames (Compiled.ofText_eq_ok_iff.mp hc).2
    (List.getElem_mem hi)
  have hstart : max 3 (Numeral.print 1000).length + 1 ≤ 4 :=
    le_start_of_cellAt hname hcolumns.field
  have hdigits : (Numeral.print 1000).length ≤ 3 := by omega
  exact absurd ((Numeral.length_print_le_iff (by decide)).mp hdigits) (by decide)

/-- **Where the columns of a table start.** Take any rule text that is evaluated. Its plain table of
conditions has one line for the heading and one for each condition. In a row the column of the field
starts behind the number of the row, which takes three characters or as many as it has digits, and
the other columns start at fixed distances from there. All columns start where those of the heading
do exactly if there are fewer than a thousand conditions. -/
theorem arranged_conditionTable {text : String} {p : Pagination} {e : Evaluation}
    (h : (Request.ofText text p).evaluate = .ok e) :
    Arranged (fun i => max 3 (Numeral.print (i + 1)).length + 1) e.compiled.conditions ∧
      (Arranged (fun _ => 4) e.compiled.conditions ↔ e.compiled.conditions.length < 1000) := by
  obtain ⟨⟨text', -, hc⟩, -⟩ := Request.evaluate_eq_ok_iff.mp h
  have harranged := arranged_of_lines (newline_notMem_of_ofText hc)
  refine ⟨harranged, length_lt_of_arranged hc, fun hlength => ?_⟩
  refine harranged.congr fun i hi => ?_
  have hdigits : (Numeral.print (i + 1)).length ≤ 3 :=
    (Numeral.length_print_le_iff (by decide)).mpr (by omega)
  rw [max_eq_left hdigits]

/-- A table of two rows, one with a value that is cut. -/
theorem arranged_conditionTable_chair :
    let c : Compiled := ⟨[.ofParts "title" .equal "oak chair with a seat of woven straw, brown",
        .ofParts "stock_status" .equal "instock"],
      ⟨[.direct ⟨"title", .equals (.text "oak chair with a seat of woven straw, brown")⟩,
        .direct ⟨"stock_status", .equals (.text "instock")⟩]⟩⟩
    (Request.ofText "title = oak chair with a seat of woven straw, brown\nstock_status = instock"
        {}).evaluate = .ok ⟨c, {}⟩ ∧
      conditionTable false c.conditions = "#   Field        Op  Value\n" ++
        "1   title        =   oak chair with a seat of woven straw,...\n" ++
        "2   stock_status =   instock\n" ∧
      Arranged (fun i => max 3 (Numeral.print (i + 1)).length + 1) c.conditions ∧
      Arranged (fun _ => 4) c.conditions := by
  intro c
  have he : (Request.ofText
      "title = oak chair with a seat of woven straw, brown\nstock_status = instock" {}).evaluate =
        .ok ⟨c, {}⟩ := rfl
  obtain ⟨hrows, hfour⟩ := arranged_conditionTable he
  exact ⟨he, by decide, hrows, hfour.mpr (by decide)⟩

/-- A text that repeats one line has that many conditions. -/
theorem exists_evaluate_replicate {line : String} {c : Condition}
    (hline : RuleText.countedLines line = [line]) (hparse : Condition.parse line = .ok c)
    (hvalid : c.validate = .ok ()) {n : Nat} (hn : 0 < n) (p : Pagination) :
    ∃ e, (Request.ofText ("\n".intercalate (List.replicate n line)) p).evaluate = .ok e ∧
      e.compiled.conditions = List.replicate n c := by
  have hcounted : RuleText.countedLines ("\n".intercalate (List.replicate n line)) =
      List.replicate n line := by
    rw [RuleText.countedLines_intercalate, List.flatMap_replicate, hline,
      List.flatten_replicate_singleton]
  have hne : List.replicate n c ≠ [] := by simp [Nat.ne_of_gt hn]
  have hconditions : RuleText.parse ("\n".intercalate (List.replicate n line)) =
      .ok (List.replicate n c) := by
    rw [RuleText.parse_eq_ok_iff_forall₂, hcounted]
    have hmap : List.replicate n c = (List.replicate n line).map fun _ => c := by
      rw [List.map_replicate]
    rw [hmap, List.forall₂_map_right_iff, List.forall₂_same]
    exact ⟨by simp [Nat.ne_of_gt hn], fun l hl => List.eq_of_mem_replicate hl ▸ hparse⟩
  obtain ⟨f, hf⟩ := Filter.exists_compile_iff.mpr
    ⟨hne, fun d hd => List.eq_of_mem_replicate hd ▸ hvalid⟩
  have hcompiled : Compiled.ofText ("\n".intercalate (List.replicate n line)) =
      .ok ⟨List.replicate n c, f⟩ := Compiled.ofText_eq_ok_iff.mpr ⟨hconditions, hf⟩
  exact ⟨⟨⟨List.replicate n c, f⟩, p⟩,
    Request.evaluate_eq_ok_iff.mpr ⟨⟨_, rfl, hcompiled⟩, rfl⟩, rfl⟩

/-- A thousand conditions have columns that start at two places. -/
theorem not_forall_arranged_four :
    ¬ ∀ (text : String) (p : Pagination) (e : Evaluation),
      (Request.ofText text p).evaluate = .ok e → Arranged (fun _ => 4) e.compiled.conditions := by
  intro hall
  have hparse : Condition.parse "price > 1" = .ok (.ofParts "price" .greater "1") := rfl
  obtain ⟨e, he, hconditions⟩ := exists_evaluate_replicate rfl hparse rfl (by decide : 0 < 1000) {}
  obtain ⟨⟨text, -, hc⟩, -⟩ := Request.evaluate_eq_ok_iff.mp he
  have hlength := length_lt_of_arranged hc (hall _ _ _ he)
  rw [hconditions, List.length_replicate] at hlength
  exact absurd hlength (by decide)

end CatalogFilter.Report
