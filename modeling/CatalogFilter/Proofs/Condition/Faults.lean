import CatalogFilter.Proofs.Condition.Grammar
import Mathlib.Data.List.Infix

/-!
# What is wrong with a line

A line that is no condition is reported with one of four faults. The search for an operator decides
which one, but the faults can be told from the characters of the line. The characters `=`, `<` and
`>` are operators by themselves, and every operator holds one of them. So a line without them has no
operator, and a line that no operator divides holds at most one of them, at its start.

An operator at the start of a line is passed over by the search, and one of two characters is then
found again by its second character. So a line that starts with its only operator lacks a field if
the operator has one character, and has the first character of the operator for its field if it has
two.

* `Operator.singles`: the characters that are operators by themselves.
* `Condition.Ends`: how an operator ends a line.
* `Condition.Faulty`: what is wrong with a line, by its characters.
* `Condition.parse_eq_error_iff_faulty`: which lines are no conditions, and why.
* `Condition.parse_leading`: lines that start with their only operator.
-/

namespace CatalogFilter

namespace Operator

/-- The characters that are operators by themselves. -/
def singles : List Char := ['=', '<', '>']

theorem exists_mark_eq_singleton {x : Char} (hx : x ∈ singles) :
    ∃ op : Operator, op.mark = [x] := by
  simp only [singles, List.mem_cons, List.not_mem_nil, or_false] at hx
  rcases hx with rfl | rfl | rfl
  · exact ⟨.equal, rfl⟩
  · exact ⟨.less, rfl⟩
  · exact ⟨.greater, rfl⟩

theorem exists_mem_mark_singles (op : Operator) : ∃ x ∈ singles, x ∈ op.mark := by
  cases op with
  | equal | notEqual | atLeast | atMost => exact ⟨'=', by decide, by decide⟩
  | greater => exact ⟨'>', by decide, by decide⟩
  | less => exact ⟨'<', by decide, by decide⟩

/-- An operator that repeats one character is that character. -/
theorem mark_eq_singleton {op : Operator} {x : Char} (h : ∀ y ∈ op.mark, y = x) :
    op.mark = [x] := by
  have hall : ∀ op ∈ scanOrder, op.mark.Nodup := by decide
  have hreplicate : op.mark = List.replicate op.mark.length x := List.eq_replicate_of_mem h
  have hnodup : (List.replicate op.mark.length x).Nodup := hreplicate ▸ hall op (mem_scanOrder op)
  have hlength : op.mark.length = 1 := by
    have hle : op.mark.length ≤ 1 := List.nodup_replicate.mp hnodup
    have hpos : 0 < op.mark.length := List.length_pos_iff.mpr op.mark_ne_nil
    omega
  rw [hreplicate, hlength, List.replicate_one]

/-- All operators but one are made of the characters that are operators by themselves. -/
theorem mem_singles_of_mem_mark {op : Operator} (hop : op ≠ .notEqual) {x : Char}
    (hx : x ∈ op.mark) : x ∈ singles := by
  have hall : ∀ op ∈ scanOrder, op ≠ .notEqual → op.mark ⊆ singles := by decide
  exact hall op (mem_scanOrder op) hop hx

/-- Characters of operators are no blanks. -/
theorem tight_of_subset_chars {cs : List Char} (hne : cs ≠ []) (h : ∀ x ∈ cs, x ∈ chars) :
    Text.Tight cs where
  ne_nil := hne
  head x hx := isBlank_of_mem_chars (h x (List.mem_of_mem_head? hx))
  last x hx := isBlank_of_mem_chars (h x (List.mem_of_mem_getLast? hx))

theorem tight_mark (op : Operator) : Text.Tight op.mark :=
  tight_of_subset_chars op.mark_ne_nil fun _ hx => mem_chars_of_mem_mark hx

/-- The operators of two characters end in the same one. -/
theorem exists_mark_eq_pair {op : Operator} (h : op.mark.length ≠ 1) :
    ∃ w, '=' ≠ w ∧ op.mark = [w, '='] := by
  cases op with
  | equal | greater | less => exact absurd rfl h
  | notEqual => exact ⟨'!', by decide, rfl⟩
  | atLeast => exact ⟨'>', by decide, rfl⟩
  | atMost => exact ⟨'<', by decide, rfl⟩

/-- The operators that are searched for before `=` differ from any other one by a character. -/
theorem exists_mem_mark_of_ne {op op' : Operator} (h : op' ∈ equal.predecessors) (hne : op' ≠ op) :
    ∃ x ∈ op'.mark, x ∉ op.mark := by
  have hall : ∀ op ∈ scanOrder, ∀ op' ∈ equal.predecessors, op' ≠ op →
      ¬ op'.mark ⊆ op.mark := by decide
  simpa [List.subset_def] using hall op (mem_scanOrder op) op' h hne

/-- A text holds no operator when it holds none of the characters that are operators by
themselves. -/
theorem forall_not_mark_infix_iff {cs : List Char} :
    (∀ op : Operator, ¬ op.mark <:+: cs) ↔ ∀ x ∈ singles, x ∉ cs := by
  constructor
  · intro h x hx hmem
    obtain ⟨op, hmark⟩ := exists_mark_eq_singleton hx
    exact h op (by rwa [hmark, List.singleton_infix_iff])
  · intro h op hfound
    obtain ⟨x, hx, hmem⟩ := op.exists_mem_mark_singles
    exact h x hx (hfound.subset hmem)

end Operator

namespace Condition

/-! ### Lines that are not divided -/

/-- No operator divides a line when each is absent or stands at the start. -/
theorem divide?_eq_none_iff {line : List Char} :
    divide? line = none ↔ ∀ op : Operator, ¬ op.mark <:+: line ∨ op.mark <+: line := by
  simp [divide?, List.findSome?_eq_none_iff, Operator.mem_scanOrder, cutAt?_eq_none_iff]

theorem undividedFault_cases (line : List Char) :
    undividedFault line = .noField ∨ undividedFault line = .noOperator := by
  rw [undividedFault]
  split
  · exact .inl rfl
  · exact .inr rfl

theorem undividedFault_eq_noField_iff {line : List Char} :
    undividedFault line = .noField ↔ ∃ op : Operator, op.mark <+: line := by
  simp [undividedFault, Operator.mem_scanOrder]

theorem undividedFault_eq_noOperator_iff {line : List Char} :
    undividedFault line = .noOperator ↔ ∀ op : Operator, ¬ op.mark <+: line := by
  simp [undividedFault, Operator.mem_scanOrder]

/-- A line that is not divided starts with each character that is an operator by itself and occurs
in the line. -/
theorem head?_of_divide?_eq_none {line : List Char} (h : divide? line = none) {x : Char}
    (hx : x ∈ Operator.singles) (hmem : x ∈ line) : line.head? = some x := by
  obtain ⟨op, hmark⟩ := Operator.exists_mark_eq_singleton hx
  have hop := divide?_eq_none_iff.mp h op
  rw [hmark, List.singleton_infix_iff] at hop
  obtain ⟨rest, rfl⟩ := hop.resolve_left (not_not_intro hmem)
  rfl

theorem divide?_eq_none_and_forall_iff {line : List Char} :
    (divide? line = none ∧ ∀ op : Operator, ¬ op.mark <+: line) ↔
      ∀ x ∈ Operator.singles, x ∉ line := by
  rw [← Operator.forall_not_mark_infix_iff, divide?_eq_none_iff]
  constructor
  · rintro ⟨hnone, hstart⟩ op
    exact (hnone op).resolve_right (hstart op)
  · intro h
    exact ⟨fun op => .inl (h op), fun op hop => h op hop.isInfix⟩

/-- A line starts with an operator and is not divided when it starts with a character that is an
operator by itself, and holds no operator that does without this character. -/
theorem divide?_eq_none_and_exists_iff {line : List Char} :
    (divide? line = none ∧ ∃ op : Operator, op.mark <+: line) ↔
      ∃ x ∈ Operator.singles, line.head? = some x ∧
        (∀ y ∈ Operator.singles, y ≠ x → y ∉ line) ∧ ¬ Operator.notEqual.mark <:+: line := by
  constructor
  · rintro ⟨hnone, op, hstart⟩
    obtain ⟨x, hx, hmem⟩ := op.exists_mem_mark_singles
    have hhead := head?_of_divide?_eq_none hnone hx (hstart.subset hmem)
    refine ⟨x, hx, hhead, fun y hy hne hline => hne ?_, fun hfound => ?_⟩
    · rw [head?_of_divide?_eq_none hnone hy hline] at hhead
      exact Option.some.inj hhead
    · -- It would stand at the start as well, where there is another character.
      obtain ⟨rest, rfl⟩ := (divide?_eq_none_iff.mp hnone .notEqual).resolve_left
        (not_not_intro hfound)
      obtain rfl : '!' = x := Option.some.inj hhead
      exact absurd hx (by decide)
  · rintro ⟨x, hx, hhead, hothers, hnotEqual⟩
    obtain ⟨rest, rfl⟩ : ∃ rest, line = x :: rest := List.head?_eq_some_iff.mp hhead
    obtain ⟨op, hmark⟩ := Operator.exists_mark_eq_singleton hx
    refine ⟨divide?_eq_none_iff.mpr fun op' => ?_, op, by simp [hmark]⟩
    by_cases hfound : op'.mark <:+: x :: rest
    · -- All characters of an operator in the line are the first character of the line.
      have hne : op' ≠ .notEqual := by
        rintro rfl
        exact hnotEqual hfound
      have hsame : ∀ y ∈ op'.mark, y = x := by
        intro y hy
        by_contra hyx
        exact hothers y (Operator.mem_singles_of_mem_mark hne hy) hyx (hfound.subset hy)
      right
      rw [Operator.mark_eq_singleton hsame]
      exact ⟨rest, rfl⟩
    · exact .inl hfound

/-! ### Lines that an operator ends -/

/-- The operator ends the line: it is the first, in the order of the search, whose leftmost place is
not the start of the line, and nothing stands after it there. -/
@[mk_iff]
structure Ends (line : List Char) (op : Operator) (before : List Char) : Prop where
  /-- The line is made of the text and the operator. -/
  line_eq : line = before ++ op.mark
  /-- Something stands before the operator. -/
  before_ne_nil : before ≠ []
  /-- The operator stands nowhere further left. -/
  leftmost : ∀ n < before.length, ¬ op.mark <+: line.drop n
  /-- An operator that is searched for before this one is absent, or stands at the start first. -/
  earlier : ∀ op' ∈ op.predecessors, ¬ op'.mark <:+: line ∨ op'.mark <+: line

theorem ends_iff_divide? {line before : List Char} {op : Operator} :
    Ends line op before ↔ divide? line = some (op, before, []) := by
  rw [divide?_eq_some_iff_leftmost, ends_iff, List.append_nil]

/-! ### Faults -/

/-- What is wrong with a line that has no blanks around it, by its characters. -/
def Faulty (line : List Char) : Fault → Prop
  | .empty => line = []
  | .noOperator => line ≠ [] ∧ ∀ x ∈ Operator.singles, x ∉ line
  | .noField => ∃ x ∈ Operator.singles, line.head? = some x ∧
      (∀ y ∈ Operator.singles, y ≠ x → y ∉ line) ∧ ¬ Operator.notEqual.mark <:+: line
  | .noValue => ∃ op before, Ends line op before

theorem readTrimmed_nil : readTrimmed [] = .error .empty := rfl

/-- How a trimmed line fails to be a condition: the text before an operator that is found is never
blank, and the text after it only if there is none. -/
theorem readTrimmed_trim_eq_error_iff {cs : List Char} {fault : Fault} :
    readTrimmed (Text.trim cs) = .error fault ↔
      (Text.trim cs = [] ∧ fault = .empty) ∨
      (Text.trim cs ≠ [] ∧ divide? (Text.trim cs) = none ∧
        undividedFault (Text.trim cs) = fault) ∨
      ((∃ op before, divide? (Text.trim cs) = some (op, before, [])) ∧ fault = .noValue) := by
  by_cases hempty : Text.trim cs = []
  · rw [hempty, readTrimmed_nil, divide?_nil]
    simp [eq_comm]
  cases hdivide : divide? (Text.trim cs) with
  | none => simp [readTrimmed, hempty, hdivide]
  | some p =>
    obtain ⟨op, before, after⟩ := p
    have hbefore := trim_before_ne_nil hdivide
    by_cases hafter : after = []
    · have hread : readTrimmed (Text.trim cs) = .error .noValue := by
        simp [readTrimmed, hempty, hdivide, hbefore, hafter]
      rw [hread]
      simp [hempty, hafter, eq_comm]
    · have hvalue := trim_after_ne_nil hdivide hafter
      simp [readTrimmed, hempty, hdivide, hbefore, hvalue, hafter]

theorem readTrimmed_trim_eq_error_iff_faulty {cs : List Char} {fault : Fault} :
    readTrimmed (Text.trim cs) = .error fault ↔ Faulty (Text.trim cs) fault := by
  rw [readTrimmed_trim_eq_error_iff]
  cases fault with
  | empty =>
    have hundivided : undividedFault (Text.trim cs) ≠ .empty := by
      rcases undividedFault_cases (Text.trim cs) with h | h <;> simp [h]
    simp [Faulty, hundivided]
  | noOperator =>
    simp [Faulty, undividedFault_eq_noOperator_iff, divide?_eq_none_and_forall_iff]
  | noField =>
    have hfaulty : Faulty (Text.trim cs) .noField ↔
        divide? (Text.trim cs) = none ∧ ∃ op : Operator, op.mark <+: Text.trim cs :=
      divide?_eq_none_and_exists_iff.symm
    have hne : (∃ op : Operator, op.mark <+: Text.trim cs) → Text.trim cs ≠ [] := by
      rintro ⟨op, hop⟩ hnil
      rw [hnil, List.prefix_nil] at hop
      exact op.mark_ne_nil hop
    rw [hfaulty, undividedFault_eq_noField_iff]
    simp only [reduceCtorEq, and_false, false_or, or_false]
    exact and_iff_right_of_imp fun h => hne h.2
  | noValue =>
    have hundivided : undividedFault (Text.trim cs) ≠ .noValue := by
      rcases undividedFault_cases (Text.trim cs) with h | h <;> simp [h]
    simp [Faulty, ends_iff_divide?, hundivided]

theorem parse_of_faulty {line : String} {fault : Fault}
    (h : Faulty (Text.trim line.toList) fault) :
    parse line = .error (.condition (.ofList (Text.trim line.toList)) fault) :=
  parse_eq_error_iff.mpr ⟨fault, readTrimmed_trim_eq_error_iff_faulty.mpr h, rfl⟩

/-- **Which lines are no conditions, and why.** Let `t` be the line without the blanks around it.
The line is refused as empty just if `t` is; for want of an operator just if `t` is not empty and
holds none of the characters `=`, `<`, `>`; for want of a field just if `t` starts with one of these
characters and holds neither the other two nor `!=`; and for want of a value just if the leftmost
place of some operator is not the start of `t`, and the first such operator in the order of the
search ends `t` there. There is no other error, and every error holds `t`. -/
theorem parse_eq_error_iff_faulty (line : String) (e : RuleError) :
    parse line = .error e ↔ ∃ fault, Faulty (Text.trim line.toList) fault ∧
      e = .condition (.ofList (Text.trim line.toList)) fault := by
  simp only [parse_eq_error_iff, readTrimmed_trim_eq_error_iff_faulty]

/-! ### Lines that start with their only operator -/

/-- An operator in front of a text keeps all of it but the blanks at its end. -/
theorem exists_trim_mark_append (op : Operator) (rest : List Char) :
    ∃ body, Text.trim (op.mark ++ rest) = op.mark ++ body ∧ body ⊆ rest ∧
      Text.trim body = Text.trim rest ∧ (Text.trim rest = [] → body = []) := by
  have hmark : Text.Tight op.mark := op.tight_mark
  have hnone : ∀ x ∈ ([] : List Char), Text.isBlank x := by simp
  by_cases hblank : Text.trim rest = []
  · have htrim : Text.trim (op.mark ++ rest) = op.mark :=
      hmark.trim_append_append hnone (Text.trim_eq_nil_iff.mp hblank)
    exact ⟨[], by rw [htrim, List.append_nil], by simp, by rw [hblank, Text.trim_nil], fun _ => rfl⟩
  · obtain ⟨left, right, hrest, hleft, hright⟩ := Text.exists_append_trim rest
    have htight : Text.Tight (op.mark ++ (left ++ Text.trim rest)) :=
      hmark.append (Text.tight_trim hblank) left
    have htrim : Text.trim (op.mark ++ rest) = op.mark ++ (left ++ Text.trim rest) := by
      have hline : op.mark ++ rest = op.mark ++ (left ++ Text.trim rest) ++ right := by
        conv_lhs => rw [hrest]
        simp
      rw [hline]
      exact htight.trim_append_append hnone hright
    have hbody : Text.trim (left ++ Text.trim rest) = Text.trim rest := by
      simpa using (Text.tight_trim hblank).trim_append_append hleft hnone
    refine ⟨left ++ Text.trim rest, htrim, ?_, hbody, fun h => absurd h hblank⟩
    conv_rhs => rw [hrest]
    exact List.subset_append_left _ _

/-- An operator of one character in front of a text without operators leaves no field. -/
theorem faulty_mark_append {op : Operator} (hop : op.mark.length = 1) {body : List Char}
    (hbody : ∀ x ∈ body, x ∉ Operator.chars) : Faulty (op.mark ++ body) .noField := by
  obtain ⟨x, hmark⟩ := List.length_eq_one_iff.mp hop
  have hx : x ∈ Operator.singles := by
    obtain ⟨y, hy, hmem⟩ := op.exists_mem_mark_singles
    rw [hmark, List.mem_singleton] at hmem
    exact hmem ▸ hy
  have hothers : ∀ y ∈ Operator.chars, y ≠ x → y ∉ op.mark ++ body := by
    intro y hy hne hmem
    rw [hmark, List.singleton_append, List.mem_cons] at hmem
    exact hmem.elim hne fun h => hbody y h hy
  have hsubset : Operator.singles ⊆ Operator.chars := by decide
  refine ⟨x, hx, by simp [hmark], fun y hy => hothers y (hsubset hy), fun hfound => ?_⟩
  have hne : '!' ≠ x := by
    rintro rfl
    exact absurd hx (by decide)
  exact hothers '!' (by decide) hne (hfound.subset (by decide))

/-- An operator of two characters in front of a text without operators divides the line by its
second character. -/
theorem divide?_mark_append {op : Operator} {w : Char} (hmark : op.mark = [w, '=']) (hw : '=' ≠ w)
    {body : List Char} (hbody : ∀ x ∈ body, x ∉ Operator.chars) :
    divide? (op.mark ++ body) = some (.equal, [w], body) := by
  have hcut : cutAt? (op.mark ++ body) .equal = some ([w], body) := by
    refine cutAt?_eq_some_iff.mpr ⟨?_, by simp⟩
    have hline : op.mark ++ body = [w] ++ ['='] ++ body := by simp [hmark]
    rw [hline]
    exact Text.splitFirst_append (by simpa using hw) body
  refine divide?_eq_some_iff.mpr ⟨hcut, fun op' hop' => cutAt?_eq_none_iff.mpr ?_⟩
  by_cases hsame : op' = op
  · exact .inr (hsame ▸ List.prefix_append _ _)
  · left
    intro hfound
    obtain ⟨x, hx, hother⟩ := Operator.exists_mem_mark_of_ne hop' hsame
    rcases List.mem_append.mp (hfound.subset hx) with hmem | hmem
    · exact hother hmem
    · exact hbody x hmem (Operator.mem_chars_of_mem_mark hx)

/-- **A line that starts with its only operator.** Such a line lacks a field if the operator has one
character. An operator of two characters is not taken as a whole: its first character becomes the
field and its second one the operator, so that the line is a condition, or lacks a value if nothing
follows. -/
theorem parse_leading (op : Operator) (left rest right : String)
    (hleft : ∀ x ∈ left.toList, Text.isBlank x) (hrest : ∀ x ∈ rest.toList, x ∉ Operator.chars)
    (hright : ∀ x ∈ right.toList, Text.isBlank x) :
    let line := left ++ op.symbol ++ rest ++ right
    let text := String.ofList (Text.trim line.toList)
    let value := String.ofList (Text.trim rest.toList)
    parse line =
      if op.mark.length = 1 then .error (.condition text .noField)
      else if value = "" then .error (.condition text .noValue)
      else .ok ⟨.ofList (op.mark.take 1), .equal, value, text⟩ := by
  intro line text value
  obtain ⟨body, htrim, hsubset, hvalue, hnil⟩ := exists_trim_mark_append op rest.toList
  have hline : Text.trim line.toList = op.mark ++ body := by
    have hlist : line.toList = left.toList ++ (op.mark ++ rest.toList) ++ right.toList := by
      simp [line, Operator.symbol]
    rw [hlist, Text.trim_append_append hleft hright, htrim]
  have hbody : ∀ x ∈ body, x ∉ Operator.chars := fun x hx => hrest x (hsubset hx)
  by_cases hop : op.mark.length = 1
  · rw [if_pos hop]
    exact parse_of_faulty (hline ▸ faulty_mark_append hop hbody)
  obtain ⟨w, hw, hmark⟩ := Operator.exists_mark_eq_pair hop
  have hdivide := divide?_mark_append hmark hw hbody
  rw [← hline] at hdivide
  have hempty : value = "" ↔ Text.trim rest.toList = [] := String.ofList_eq_empty_iff
  rw [if_neg hop]
  by_cases hblank : Text.trim rest.toList = []
  · rw [hnil hblank] at hdivide
    rw [if_pos (hempty.mpr hblank)]
    exact parse_of_faulty ⟨.equal, [w], ends_iff_divide?.mpr hdivide⟩
  · have hne : body ≠ [] := by
      rintro rfl
      exact hblank hvalue.symm
    have hmem : w ∈ op.mark := by simp [hmark]
    have hfield : Text.trim [w] = op.mark.take 1 := by
      rw [(Operator.tight_of_subset_chars (by simp)
        (by simpa using Operator.mem_chars_of_mem_mark hmem)).trim_eq, hmark]
      rfl
    rw [if_neg (mt hempty.mp hblank)]
    refine parse_eq_ok_iff_exists_divides.mpr
      ⟨.equal, [w], body, divides_iff.mpr ⟨hdivide, hne⟩, ?_⟩
    rw [hvalue, hfield]

/-- The search takes the second character of a leading `>=` for the operator. -/
theorem parse_leading_atLeast :
    parse " >= 100\t" = .ok ⟨">", .equal, "100", ">= 100"⟩ ∧
      parse "!=" = .error (.condition "!=" .noValue) ∧
      parse "< 100" = .error (.condition "< 100" .noField) := by
  have hblank : ∀ w ∈ [" ", "\t"], ∀ x ∈ w.toList, Text.isBlank x :=
    Text.isBlank_of_all (by decide)
  have hrest : ∀ x ∈ " 100".toList, x ∉ Operator.chars := Operator.notMem_chars_of_all (by decide)
  exact ⟨parse_leading .atLeast " " " 100" "\t" (hblank _ (by simp)) hrest (hblank _ (by simp)),
    parse_leading .notEqual "" "" "" (by simp) (by simp) (by simp),
    parse_leading .less "" " 100" "" (by simp) hrest (by simp)⟩

/-- A line that starts with its only operator is not always refused for want of a field. -/
theorem not_forall_leading_noField :
    ¬ ∀ (op : Operator) (left rest right : String), (∀ x ∈ left.toList, Text.isBlank x) →
      (∀ x ∈ rest.toList, x ∉ Operator.chars) → (∀ x ∈ right.toList, Text.isBlank x) →
      ∃ text, parse (left ++ op.symbol ++ rest ++ right) = .error (.condition text .noField) := by
  intro h
  have hrest : ∀ x ∈ " 100".toList, x ∉ Operator.chars := Operator.notMem_chars_of_all (by decide)
  obtain ⟨text, htext⟩ := h .atLeast "" " 100" "" (by simp) hrest (by simp)
  have hread : parse ("" ++ Operator.atLeast.symbol ++ " 100" ++ "") =
      .ok ⟨">", .equal, "100", ">= 100"⟩ := rfl
  rw [hread] at htext
  cases htext

end Condition

end CatalogFilter
