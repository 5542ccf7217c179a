import CatalogFilter.Proofs.Number.Numerals
import CatalogFilter.Toml.Document
import Mathlib.Data.List.Basic

/-!
# Plain lines of TOML

The lines of a plain document are empty, name a table in brackets, or give a key without quotes a
truth value or a whole number. Each of them is read as one statement or none, whatever follows, so
a document of such lines is read as the row of its statements.

* `Toml.Literal`: a word stands for a value.
* `Toml.Lines`: the statements of a plain document.
* `Toml.classify?_print`: the digits of a number stand for it.
* `Toml.readStatements?_of_lines`: a plain document is read.
-/

namespace CatalogFilter.Toml

open Numeral

/-! ### Keys -/

/-- The text can be written as a key without quotes. -/
structure BareKey (key : List Char) : Prop where
  /-- There is a character. -/
  ne_nil : key ≠ []
  /-- No character needs quotes. -/
  keyChar : ∀ c ∈ key, isKeyChar c

/-- The characters that neither start a line in another way nor end a key. -/
theorem keyChar_ne {c : Char} (hc : isKeyChar c) :
    isBlank c = false ∧ c ≠ '#' ∧ c ≠ '\n' ∧ c ≠ '\r' ∧ c ≠ '[' ∧ c ≠ '"' ∧ c ≠ '\'' := by
  refine ⟨?_, ?_, ?_, ?_, ?_, ?_, ?_⟩
  · by_contra hblank
    simp only [isBlank, Bool.not_eq_false, Bool.or_eq_true, beq_iff_eq] at hblank
    rcases hblank with rfl | rfl <;> exact absurd hc (by decide)
  all_goals
    rintro rfl
    exact absurd hc (by decide)

/-- A key without quotes is read up to its end. -/
theorem readKey?_bare {key : List Char} (hkey : BareKey key) {c c' : Char}
    {rest rest' : List Char} (hskip : skipBlanks (c :: rest) = c' :: rest')
    (hc : isKeyChar c = false) (hdot : c' ≠ '.') :
    readKey? (key ++ c :: rest) = some ([.ofList key], c' :: rest') := by
  obtain ⟨k, ks, rfl⟩ := List.exists_cons_of_ne_nil hkey.ne_nil
  obtain ⟨hblank, -, -, -, -, hdouble, hsingle⟩ := keyChar_ne (hkey.keyChar k List.mem_cons_self)
  have hstart : skipBlanks (k :: ks ++ c :: rest) = k :: ks ++ c :: rest := by
    simp [skipBlanks, hblank]
  have hpart : readKeyPart? (k :: ks ++ c :: rest) = some (.ofList (k :: ks), c :: rest) := by
    rw [readKeyPart?]
    · rw [List.takeWhile_append_of_pos hkey.keyChar, List.dropWhile_append_of_pos hkey.keyChar]
      simp [hc]
    · intro cs heq
      exact hdouble (by simpa using congrArg List.head? heq)
    · intro cs heq
      exact hsingle (by simpa using congrArg List.head? heq)
  have hdepth : maxDepth = 78 + 1 := rfl
  rw [readKey?, hdepth, readKeyWith, hstart, hpart]
  simp only [Option.bind_eq_bind, Option.bind_some, hskip]
  split
  · rename_i heq
    exact absurd (List.cons.inj heq).1 hdot
  · rfl

/-! ### Values -/

/-- The word stands for the value. -/
structure Literal (v : Value) (word : List Char) : Prop where
  /-- There is a character. -/
  ne_nil : word ≠ []
  /-- The characters are those of values without quotes. -/
  literalChar : ∀ c ∈ word, isLiteralChar c
  /-- The word is classified as the value. -/
  classify : classify? word = some v

theorem literal_true : Literal (.bool true) ['t', 'r', 'u', 'e'] :=
  ⟨by decide, by simpa using (by decide : ['t', 'r', 'u', 'e'].all isLiteralChar), rfl⟩

theorem literal_false : Literal (.bool false) ['f', 'a', 'l', 's', 'e'] :=
  ⟨by decide, by simpa using (by decide : ['f', 'a', 'l', 's', 'e'].all isLiteralChar), rfl⟩

section Digits

variable {ds : List Char}

theorem notMem_of_allDigits (hds : AllDigits ds) {c : Char} (hc : c.isDigit = false) : c ∉ ds := by
  intro hmem
  rw [hds c hmem] at hc
  cases hc

/-- A row of digits is no date or time. -/
theorem isMoment_of_allDigits (hds : AllDigits ds) : isMoment ds = false := by
  have htime : afterTime? ds = none := by
    rw [afterTime?]
    intro a b c d e f rest heq
    exact notMem_of_allDigits hds (by decide : ':'.isDigit = false) (by simp [heq])
  have hdate : afterDate? ds = none := by
    rw [afterDate?]
    intro a b c d e f g h rest heq
    exact notMem_of_allDigits hds (by decide : '-'.isDigit = false) (by simp [heq])
  simp [isMoment, isTime, htime, hdate]

theorem readSign_of_allDigits (hds : AllDigits ds) : Decimal.readSign ds = (false, ds) := by
  rw [Decimal.readSign]
  · intro rest heq
    exact notMem_of_allDigits hds (by decide : '-'.isDigit = false) (by simp [heq])
  · intro rest heq
    exact notMem_of_allDigits hds (by decide : '+'.isDigit = false) (by simp [heq])

/-- A row of digits has neither a fraction nor an exponent. -/
theorem isFloat_of_allDigits (hds : AllDigits ds) : isFloat ds = false := by
  have hmark : ∀ c ∈ ds, (!isExponentMark c) = true := by
    intro c hc
    rw [Bool.not_eq_true', isExponentMark, Bool.or_eq_false_iff, beq_eq_false_iff_ne,
      beq_eq_false_iff_ne]
    constructor <;> rintro rfl <;> exact absurd (hds _ hc) (by decide)
  have hpoint : ∀ c ∈ ds, (c != '.') = true := by
    intro c hc
    rw [bne_iff_ne]
    rintro rfl
    exact absurd (hds _ hc) (by decide)
  have hmantissa : ds.takeWhile (fun c => !isExponentMark c) = ds :=
    List.takeWhile_eq_self_iff.mpr hmark
  have hexponent : ds.dropWhile (fun c => !isExponentMark c) = [] :=
    List.dropWhile_eq_nil_iff.mpr hmark
  have hfraction : ds.dropWhile (· != '.') = [] := List.dropWhile_eq_nil_iff.mpr hpoint
  have hrow : isFloatRow ds = false := by
    simp [isFloatRow, hmantissa, hexponent, hfraction]
  have hinf : ds ≠ ['i', 'n', 'f'] := by
    rintro rfl
    exact absurd (hds 'i' (by simp)) (by decide)
  have hnan : ds ≠ ['n', 'a', 'n'] := by
    rintro rfl
    exact absurd (hds 'n' (by simp)) (by decide)
  simp [isFloat, readSign_of_allDigits hds, hrow, hinf, hnan]

theorem underscore_notMem (hds : AllDigits ds) : '_' ∉ ds :=
  notMem_of_allDigits hds (by decide)

/-- A row of digits has no underscores to be left out. -/
theorem isDigitRow_of_allDigits (hds : AllDigits ds) (hne : ds ≠ []) :
    isDigitRow Char.isDigit ds := by
  have hsplit : ds.splitOn '_' = [ds] := by
    have hrow : ∀ l ∈ [ds], '_' ∉ l := by simpa using underscore_notMem hds
    simpa using List.splitOn_intercalate '_' hrow (by simp)
  simpa [isDigitRow, hsplit, hne, AllDigits] using hds

theorem value?_of_isDigit {c : Char} (hc : c.isDigit) :
    Hexadecimal.value? c = some (digitValue c) := by
  have hrange : 0x30 ≤ c.toNat ∧ c.toNat ≤ 0x39 := Char.isDigit_iff_toNat.mp hc
  rw [Hexadecimal.value?]
  exact if_pos hrange

/-- The value of a row of digits does not depend on who reads it. -/
theorem rowValue_of_allDigits (hds : AllDigits ds) : rowValue 10 ds = value ds := by
  have hkeep : dropUnderscores ds = ds := by
    rw [dropUnderscores, List.filter_eq_self]
    intro c hc
    rw [bne_iff_ne]
    rintro rfl
    exact underscore_notMem hds hc
  rw [rowValue, hkeep, value]
  refine List.foldl_ext _ _ 0 fun n c hc => ?_
  rw [value?_of_isDigit (hds c hc), Option.getD_some]

end Digits

/-- A whole number of 32 bits is read from its digits. -/
theorem readInteger?_print {n : Nat} (hn : n ≤ maxWord) : readInteger? (print n) = some n := by
  have hdigits := allDigits_print n
  have hzero : (print n).length == 1 || (print n).head? != some '0' := by
    rcases Nat.eq_zero_or_pos n with rfl | hpos
    · rfl
    · simp [head?_print hpos]
  have hrow : isDecimalRow (print n) := by
    simpa [isDecimalRow, isDigitRow_of_allDigits hdigits (print_ne_nil n)] using hzero
  have hrange : inRange (n : Int) = some (n : Int) := by
    have hbound : n ≤ 4294967295 := hn
    exact if_pos ⟨by omega, by omega⟩
  have hdecimal : readDecimal? false (print n) = some (n : Int) := by
    simp [readDecimal?, hrow, rowValue_of_allDigits hdigits, value_print, hrange]
  have hother : ∀ c ∈ print n, c ≠ 'x' ∧ c ≠ 'o' ∧ c ≠ 'b' ∧ c ≠ '-' ∧ c ≠ '+' := by
    intro c hc
    refine ⟨?_, ?_, ?_, ?_, ?_⟩ <;> rintro rfl <;> exact absurd (hdigits _ hc) (by decide)
  rw [readInteger?]
  · exact hdecimal
  all_goals
    intro rest heq
    simp [heq] at hother

/-- The digits of a number stand for it. -/
theorem literal_print {n : Nat} (hn : n ≤ maxWord) : Literal (.integer n) (print n) := by
  have hdigits := allDigits_print n
  have hletter : ∀ {c : Char} {cs : List Char}, c.isDigit = false → print n ≠ c :: cs := by
    intro c cs hc heq
    exact notMem_of_allDigits hdigits hc (by simp [heq])
  refine ⟨print_ne_nil n, ?_, ?_⟩
  · intro c hc
    have halpha : c.isAlphanum := by simp [Char.isAlphanum, hdigits c hc]
    simp [isLiteralChar, halpha]
  · simp [classify?, hletter, isMoment_of_allDigits hdigits, isFloat_of_allDigits hdigits,
      readInteger?_print hn]

/-- A value without quotes is read up to the end of its line. -/
theorem readLiteralValue?_of_literal {v : Value} {word : List Char} (h : Literal v word)
    (rest : List Char) : readLiteralValue? (word ++ '\n' :: rest) = some (v, '\n' :: rest) := by
  have hline : isLiteralChar '\n' = false := by decide
  have htake : (word ++ '\n' :: rest).takeWhile isLiteralChar = word := by
    rw [List.takeWhile_append_of_pos h.literalChar]
    simp [hline]
  have hdrop : (word ++ '\n' :: rest).dropWhile isLiteralChar = '\n' :: rest := by
    rw [List.dropWhile_append_of_pos h.literalChar]
    simp [hline]
  simp [readLiteralValue?, htake, hdrop, h.classify]

/-- A value without quotes is told from the others by its first character. -/
theorem readValue?_of_literal {v : Value} {word : List Char} (h : Literal v word)
    (rest : List Char) : readValue? (word ++ '\n' :: rest) = some (v, '\n' :: rest) := by
  obtain ⟨c, cs, rfl⟩ := List.exists_cons_of_ne_nil h.ne_nil
  have hc : isLiteralChar c := h.literalChar c List.mem_cons_self
  obtain ⟨fuel, hfuel⟩ : ∃ n, 3 * (c :: cs ++ '\n' :: rest).length + 3 = n + 1 := ⟨_, rfl⟩
  rw [readValue?, hfuel, readValueWith]
  · exact readLiteralValue?_of_literal h rest
  all_goals
    intro tail heq
    obtain rfl : c = _ := by simpa using congrArg List.head? heq
    exact absurd hc (by decide)

/-! ### Lines -/

/-- The statements of a plain document, line by line. -/
inductive Lines : List Char → List Statement → Prop
  | nil : Lines [] []
  | blank {cs : List Char} {ss : List Statement} : Lines cs ss → Lines ('\n' :: cs) ss
  | header {name cs : List Char} {ss : List Statement} : BareKey name → Lines cs ss →
      Lines ('[' :: (name ++ ']' :: '\n' :: cs)) (.header [.ofList name] :: ss)
  | pair {key word cs : List Char} {v : Value} {ss : List Statement} : BareKey key →
      Literal v word → Lines cs ss →
      Lines (key ++ ' ' :: '=' :: ' ' :: (word ++ '\n' :: cs)) (.pair [.ofList key] v :: ss)

/-- The end of a line is passed. -/
theorem skipLineEnd?_newline (cs : List Char) : skipLineEnd? ('\n' :: cs) = some cs := by
  rfl

/-- A line that starts with a key or a header is not at its end. -/
theorem skipLineEnd?_eq_none {c : Char} (hblank : isBlank c = false) (hcomment : c ≠ '#')
    (hnewline : c ≠ '\n') (hreturn : c ≠ '\r') (cs : List Char) :
    skipLineEnd? (c :: cs) = none := by
  have hskip : skipComment (skipBlanks (c :: cs)) = c :: cs := by
    simp [skipBlanks, hblank, skipComment, hcomment]
  rw [skipLineEnd?, hskip]
  simp [skipNewline?, hnewline, hreturn]

theorem readStatement?_header {name : List Char} (hname : BareKey name) (cs : List Char) :
    readStatement? ('[' :: (name ++ ']' :: '\n' :: cs)) = some (.header [.ofList name], cs) := by
  have hskip : skipBlanks (']' :: '\n' :: cs) = ']' :: '\n' :: cs := rfl
  have hkey := readKey?_bare hname hskip (by decide) (by decide)
  rw [readStatement?]
  · rw [hkey]
    rfl
  · intro rest heq
    obtain ⟨k, ks, rfl⟩ := List.exists_cons_of_ne_nil hname.ne_nil
    obtain ⟨-, -, -, -, hbracket, -⟩ := keyChar_ne (hname.keyChar k List.mem_cons_self)
    exact hbracket (by simpa using congrArg List.head? heq)

theorem readStatement?_pair {key word : List Char} {v : Value} (hkey : BareKey key)
    (hword : Literal v word) (cs : List Char) :
    readStatement? (key ++ ' ' :: '=' :: ' ' :: (word ++ '\n' :: cs)) =
      some (.pair [.ofList key] v, cs) := by
  have hskip : skipBlanks (' ' :: '=' :: ' ' :: (word ++ '\n' :: cs)) =
      '=' :: ' ' :: (word ++ '\n' :: cs) := rfl
  have hread := readKey?_bare hkey hskip (by decide) (by decide)
  have hvalue : readValue? (skipBlanks (' ' :: (word ++ '\n' :: cs))) = some (v, '\n' :: cs) := by
    obtain ⟨c, ds, rfl⟩ := List.exists_cons_of_ne_nil hword.ne_nil
    have hblank : ¬isBlank c = true := by
      intro hblank
      simp only [isBlank, Bool.or_eq_true, beq_iff_eq] at hblank
      have hc := hword.literalChar c List.mem_cons_self
      rcases hblank with rfl | rfl <;> exact absurd hc (by decide)
    have hspace : skipBlanks (' ' :: (c :: ds ++ '\n' :: cs)) = c :: ds ++ '\n' :: cs :=
      List.dropWhile_cons_of_neg hblank
    rw [hspace]
    exact readValue?_of_literal hword cs
  have hexpect : expect? ['='] ('=' :: ' ' :: (word ++ '\n' :: cs)) =
      some (' ' :: (word ++ '\n' :: cs)) := rfl
  have hbracket : ∀ rest, key ++ ' ' :: '=' :: ' ' :: (word ++ '\n' :: cs) ≠ '[' :: rest := by
    intro rest heq
    obtain ⟨k, ks, rfl⟩ := List.exists_cons_of_ne_nil hkey.ne_nil
    obtain ⟨-, -, -, -, hne, -⟩ := keyChar_ne (hkey.keyChar k List.mem_cons_self)
    exact hne (by simpa using congrArg List.head? heq)
  rw [readStatement?]
  · rw [hread]
    simp only [Option.bind_eq_bind, Option.bind_some, hexpect, hvalue, skipLineEnd?_newline]
    rfl
  · exact fun rest heq => hbracket _ heq
  · exact hbracket

/-- A line that holds a statement is read, and then the lines after it. -/
theorem readStatementsWith_cons {fuel : Nat} {c : Char} (hblank : isBlank c = false)
    (hcomment : c ≠ '#') (hnewline : c ≠ '\n') (hreturn : c ≠ '\r') {cs rest : List Char}
    {s : Statement} (hs : readStatement? (c :: cs) = some (s, rest)) {ss : List Statement}
    (hss : readStatementsWith fuel rest = some ss) :
    readStatementsWith (fuel + 1) (c :: cs) = some (s :: ss) := by
  have hskip : skipBlanks (c :: cs) = c :: cs := by simp [skipBlanks, hblank]
  have hend := skipLineEnd?_eq_none hblank hcomment hnewline hreturn cs
  rw [readStatementsWith, hskip]
  simp only [hend, hs, hss, Option.bind_eq_bind, Option.bind_some]
  rfl

/-- The lines of a plain document are read as its statements. -/
theorem readStatementsWith_of_lines {cs : List Char} {ss : List Statement} (h : Lines cs ss)
    {fuel : Nat} (hfuel : cs.length < fuel) : readStatementsWith fuel cs = some ss := by
  induction h generalizing fuel with
  | nil =>
    obtain ⟨fuel, rfl⟩ : ∃ n, fuel = n + 1 := ⟨fuel - 1, by simp at hfuel; omega⟩
    rfl
  | blank _ ih =>
    simp only [List.length_cons] at hfuel
    obtain ⟨fuel, rfl⟩ : ∃ n, fuel = n + 1 := ⟨fuel - 1, by omega⟩
    rw [readStatementsWith]
    exact ih (by omega)
  | header hname _ ih =>
    simp only [List.length_cons, List.length_append] at hfuel
    obtain ⟨fuel, rfl⟩ : ∃ n, fuel = n + 1 := ⟨fuel - 1, by omega⟩
    exact readStatementsWith_cons (by decide) (by decide) (by decide) (by decide)
      (readStatement?_header hname _) (ih (by omega))
  | @pair key word cs v ss hkey hword _ ih =>
    simp only [List.length_cons, List.length_append] at hfuel
    obtain ⟨fuel, rfl⟩ : ∃ n, fuel = n + 1 := ⟨fuel - 1, by omega⟩
    have hread := readStatement?_pair hkey hword cs
    obtain ⟨k, ks, rfl⟩ := List.exists_cons_of_ne_nil hkey.ne_nil
    obtain ⟨hblank, hcomment, hnewline, hreturn, -⟩ :=
      keyChar_ne (hkey.keyChar k List.mem_cons_self)
    exact readStatementsWith_cons hblank hcomment hnewline hreturn hread (ih (by omega))

theorem Lines.head?_ne {cs : List Char} {ss : List Statement} (h : Lines cs ss) :
    cs.head? ≠ some byteOrderMark := by
  cases h with
  | nil => simp
  | blank => exact fun hmark => absurd (Option.some.inj hmark) (by decide)
  | header => exact fun hmark => absurd (Option.some.inj hmark) (by decide)
  | pair hkey =>
    obtain ⟨k, ks, rfl⟩ := List.exists_cons_of_ne_nil hkey.ne_nil
    intro hmark
    obtain rfl : k = byteOrderMark := by simpa using hmark
    exact absurd (hkey.keyChar _ List.mem_cons_self) (by decide)

/-- A plain document is read as its statements. -/
theorem readStatements?_of_lines {cs : List Char} {ss : List Statement} (h : Lines cs ss) :
    readStatements? cs = some ss := by
  have hmark := h.head?_ne
  have hread := readStatementsWith_of_lines h (Nat.lt_succ_self _)
  cases cs with
  | nil => exact hread
  | cons c cs =>
    have hc : c ≠ byteOrderMark := by simpa using hmark
    simpa only [readStatements?, if_neg hc] using hread

end CatalogFilter.Toml
