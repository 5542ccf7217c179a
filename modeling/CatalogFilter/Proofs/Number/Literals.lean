import CatalogFilter.Number.Decimal
import CatalogFilter.Proofs.Number.Numerals

/-!
# The grammar of decimal literals

The grammar of numeric values, by its derivations: a `Literal` says which rules were used and with
which digits, and `Literal.text` is the text so derived.

```text
number   ::= sign? ( digits ( "." digits? )? | "." digits ) exponent?
sign     ::= "+" | "-"
exponent ::= ( "e" | "E" ) sign? digits
```

The reader takes the longest row of digits wherever it wants digits. This is the only row that the
grammar allows there, since no rule lets a digit follow a row of digits.

* `read?_text`: every derived text is read, as the sign, the digits and the power of ten that its
  derivation has.
* `exists_literal_of_read?`: every text that is read is derived.
-/

namespace CatalogFilter.Decimal

open Numeral

/-! ### Derivations -/

/-- A row of one or more digits. -/
structure DigitRow where
  /-- The digits. -/
  chars : List Char
  /-- There is at least one. -/
  ne_nil : chars ≠ []
  /-- There is nothing else. -/
  allDigits : AllDigits chars

/-- A sign. -/
inductive Sign where
  /-- The plus sign, which changes nothing. -/
  | plus
  /-- The minus sign. -/
  | minus
  deriving DecidableEq

/-- The text of a sign. -/
def Sign.text : Sign → List Char
  | .plus => ['+']
  | .minus => ['-']

/-- The digits around the point. -/
inductive Mantissa where
  /-- Digits without a point. -/
  | whole (ds : DigitRow)
  /-- Digits and a point, with or without digits behind it. -/
  | pointed (ds : DigitRow) (fs : Option DigitRow)
  /-- A point and digits. -/
  | fraction (fs : DigitRow)

namespace Mantissa

/-- The digits before the point. -/
def wholeDigits : Mantissa → List Char
  | .whole ds => ds.chars
  | .pointed ds _ => ds.chars
  | .fraction _ => []

/-- The digits behind the point. -/
def fractionDigits : Mantissa → List Char
  | .whole _ => []
  | .pointed _ fs => fs.elim [] DigitRow.chars
  | .fraction fs => fs.chars

/-- The text of the digits and the point. -/
def text : Mantissa → List Char
  | .whole ds => ds.chars
  | .pointed ds fs => ds.chars ++ '.' :: fs.elim [] DigitRow.chars
  | .fraction fs => '.' :: fs.chars

end Mantissa

/-- A power of ten. -/
structure Exponent where
  /-- The letter in front. -/
  mark : Char
  /-- The letter is one of two. -/
  isMark : mark = 'e' ∨ mark = 'E'
  /-- The sign, if there is one. -/
  sign : Option Sign
  /-- The digits. -/
  digits : DigitRow

namespace Exponent

/-- The text of a power of ten. -/
def text (e : Exponent) : List Char :=
  e.mark :: (e.sign.elim [] Sign.text ++ e.digits.chars)

/-- The exponent of a power of ten. -/
def value (e : Exponent) : Int :=
  if e.sign = some .minus then -(Numeral.value e.digits.chars : Int)
  else Numeral.value e.digits.chars

end Exponent

/-- A derivation of a literal. -/
structure Literal where
  /-- The sign, if there is one. -/
  sign : Option Sign
  /-- The digits around the point. -/
  mantissa : Mantissa
  /-- The power of ten, if there is one. -/
  exponent : Option Exponent

namespace Literal

/-- The text that a derivation ends in. -/
def text (l : Literal) : List Char :=
  l.sign.elim [] Sign.text ++ (l.mantissa.text ++ l.exponent.elim [] Exponent.text)

/-- The sign, the digits and the power of ten of a derivation. -/
def decimal (l : Literal) : Decimal where
  negative := l.sign = some .minus
  coefficient := Numeral.value (l.mantissa.wholeDigits ++ l.mantissa.fractionDigits)
  exponent := l.exponent.elim 0 Exponent.value - l.mantissa.fractionDigits.length

end Literal

/-! ### Derived texts are read -/

theorem DigitRow.isDigits (ds : DigitRow) : isDigits ds.chars := by
  simpa [Numeral.isDigits, ds.ne_nil, AllDigits] using ds.allDigits

theorem DigitRow.exists_cons (ds : DigitRow) : ∃ c cs, ds.chars = c :: cs ∧ c.isDigit := by
  obtain ⟨c, cs, h⟩ := List.exists_cons_of_ne_nil ds.ne_nil
  exact ⟨c, cs, h, ds.allDigits c (by simp [h])⟩

/-- A text that begins with a digit or a point has no sign. -/
theorem readSign_cons {c : Char} (hc : c.isDigit ∨ c = '.') (cs : List Char) :
    readSign (c :: cs) = (false, c :: cs) := by
  have hminus : c ≠ '-' := by
    rintro rfl
    revert hc
    decide
  have hplus : c ≠ '+' := by
    rintro rfl
    revert hc
    decide
  rw [readSign]
  · simpa using hminus
  · simpa using hplus

theorem readSign_elim (s : Option Sign) {c : Char} (hc : c.isDigit ∨ c = '.') (cs : List Char) :
    readSign (s.elim [] Sign.text ++ c :: cs) = (decide (s = some .minus), c :: cs) := by
  match s with
  | none => exact readSign_cons hc cs
  | some .plus => rfl
  | some .minus => rfl

namespace Mantissa

theorem exists_cons (m : Mantissa) : ∃ c cs, m.text = c :: cs ∧ (c.isDigit ∨ c = '.') := by
  cases m with
  | whole ds =>
    obtain ⟨c, cs, h, hc⟩ := ds.exists_cons
    exact ⟨c, cs, h, .inl hc⟩
  | pointed ds fs =>
    obtain ⟨c, cs, h, hc⟩ := ds.exists_cons
    exact ⟨c, cs ++ '.' :: fs.elim [] DigitRow.chars, by rw [text, h, List.cons_append], .inl hc⟩
  | fraction fs => exact ⟨'.', fs.chars, rfl, .inr rfl⟩

theorem allDigits_fractionDigits (m : Mantissa) : AllDigits m.fractionDigits := by
  match m with
  | .whole _ => exact fun _ h => absurd h List.not_mem_nil
  | .pointed _ none => exact fun _ h => absurd h List.not_mem_nil
  | .pointed _ (some fs) => exact fs.allDigits
  | .fraction fs => exact fs.allDigits

/-- There is a digit before the point or behind it. -/
theorem isEmpty_digits (m : Mantissa) :
    (m.wholeDigits.isEmpty && m.fractionDigits.isEmpty) = false := by
  cases m with
  | whole ds => simp [wholeDigits, ds.ne_nil]
  | pointed ds _ => simp [wholeDigits, ds.ne_nil]
  | fraction fs => simp [fractionDigits, fs.ne_nil]

/-- Neither a digit nor a point goes on with the digits around the point. -/
def Ends (rest : List Char) : Prop :=
  ∀ c ∈ rest.head?, c.isDigit = false ∧ c ≠ '.'

theorem Ends.endsDigits {rest : List Char} (h : Ends rest) : EndsDigits rest :=
  fun c hc => (h c hc).1

/-- The point ends the digits before it. -/
theorem endsDigits_point (rest : List Char) : EndsDigits ('.' :: rest) := by
  intro c hc
  obtain rfl : '.' = c := by simpa using hc
  rfl

theorem readFraction_of_ends {rest : List Char} (h : Ends rest) :
    readFraction rest = ([], rest) := by
  cases rest with
  | nil => rfl
  | cons c rest =>
    rw [readFraction]
    simpa using (h c rfl).2

theorem readFraction_point {fs rest : List Char} (hfs : AllDigits fs) (h : Ends rest) :
    readFraction ('.' :: (fs ++ rest)) = (fs, rest) := by
  rw [readFraction, leadingDigits_append hfs h.endsDigits, afterDigits_append hfs h.endsDigits]

theorem leadingDigits_text (m : Mantissa) {rest : List Char} (h : Ends rest) :
    leadingDigits (m.text ++ rest) = m.wholeDigits := by
  cases m with
  | whole ds => exact leadingDigits_append ds.allDigits h.endsDigits
  | pointed ds fs =>
    rw [text, List.append_assoc]
    exact leadingDigits_append ds.allDigits (endsDigits_point _)
  | fraction fs => exact leadingDigits_eq_nil (endsDigits_point _)

theorem readFraction_text (m : Mantissa) {rest : List Char} (h : Ends rest) :
    readFraction (afterDigits (m.text ++ rest)) = (m.fractionDigits, rest) := by
  cases m with
  | whole ds =>
    rw [text, afterDigits_append ds.allDigits h.endsDigits]
    exact readFraction_of_ends h
  | pointed ds fs =>
    rw [text, List.append_assoc, List.cons_append,
      afterDigits_append ds.allDigits (endsDigits_point _)]
    exact readFraction_point (allDigits_fractionDigits (.pointed ds fs)) h
  | fraction fs =>
    have hnone : afterDigits ('.' :: (fs.chars ++ rest)) = '.' :: (fs.chars ++ rest) := rfl
    rw [text, List.cons_append, hnone]
    exact readFraction_point fs.allDigits h

end Mantissa

namespace Exponent

theorem readExponent?_text (e : Exponent) : readExponent? e.text = some e.value := by
  obtain ⟨c, cs, h, hc⟩ := e.digits.exists_cons
  have hdigits := e.digits.isDigits
  rw [h] at hdigits
  rw [text, readExponent?, h, readSign_elim e.sign (.inl hc)]
  simp [e.isMark, hdigits, value, h]

theorem ends_elim (e : Option Exponent) : Mantissa.Ends (e.elim [] Exponent.text) := by
  intro c hc
  match e with
  | none => cases hc
  | some e =>
    obtain rfl : e.mark = c := by simpa [text] using hc
    rcases e.isMark with h | h <;> rw [h] <;> decide

end Exponent

/-- A derived text is read as its derivation says. -/
theorem read?_text (l : Literal) : read? l.text = some l.decimal := by
  obtain ⟨c, cs, h, hc⟩ := l.mantissa.exists_cons
  have hends := Exponent.ends_elim l.exponent
  have hwhole := l.mantissa.leadingDigits_text hends
  have hfraction := l.mantissa.readFraction_text hends
  have hsign := readSign_elim l.sign hc (cs ++ l.exponent.elim [] Exponent.text)
  rw [← List.cons_append, ← h] at hsign
  have hexponent : readExponent? (l.exponent.elim [] Exponent.text) =
      some (l.exponent.elim 0 Exponent.value) := by
    cases l.exponent with
    | none => rfl
    | some e => exact e.readExponent?_text
  simp [read?, Literal.text, hsign, hwhole, hfraction, l.mantissa.isEmpty_digits, hexponent,
    Literal.decimal]

/-! ### Texts that are read are derived -/

theorem exists_sign (cs : List Char) :
    ∃ s : Option Sign, cs = s.elim [] Sign.text ++ (readSign cs).2 := by
  unfold readSign
  split
  · exact ⟨some .minus, rfl⟩
  · exact ⟨some .plus, rfl⟩
  · exact ⟨none, rfl⟩

theorem leadingDigits_append_afterDigits (cs : List Char) :
    leadingDigits cs ++ afterDigits cs = cs :=
  List.takeWhile_append_dropWhile

theorem allDigits_leadingDigits (cs : List Char) : AllDigits (leadingDigits cs) :=
  fun _ hc => List.mem_takeWhile_imp hc

/-- A text that has digits before a point or behind it begins with the digits around the point. -/
theorem exists_mantissa {cs : List Char}
    (h : leadingDigits cs ≠ [] ∨ (readFraction (afterDigits cs)).1 ≠ []) :
    ∃ m : Mantissa, cs = m.text ++ (readFraction (afterDigits cs)).2 := by
  have hsplit := leadingDigits_append_afterDigits cs
  have hwhole := allDigits_leadingDigits cs
  generalize leadingDigits cs = whole at *
  generalize afterDigits cs = rest at *
  subst hsplit
  unfold readFraction at *
  split at h
  · rename_i rest
    have hrest := leadingDigits_append_afterDigits rest
    have hfraction := allDigits_leadingDigits rest
    by_cases hnil : whole = []
    · have hne : leadingDigits rest ≠ [] := h.resolve_left fun hne => hne hnil
      refine ⟨.fraction ⟨_, hne, hfraction⟩, ?_⟩
      simp [Mantissa.text, hnil, hrest]
    · by_cases hnone : leadingDigits rest = []
      · refine ⟨.pointed ⟨whole, hnil, hwhole⟩ none, ?_⟩
        rw [hnone, List.nil_append] at hrest
        simp [Mantissa.text, hrest]
      · refine ⟨.pointed ⟨whole, hnil, hwhole⟩ (some ⟨_, hnone, hfraction⟩), ?_⟩
        simp [Mantissa.text, hrest]
  · exact ⟨.whole ⟨whole, h.resolve_right fun hne => hne rfl, hwhole⟩, rfl⟩

/-- A text that states a power of ten is none or the text of one. -/
theorem exists_exponent {cs : List Char} {n : Int} (h : readExponent? cs = some n) :
    ∃ e : Option Exponent, cs = e.elim [] Exponent.text := by
  cases cs with
  | nil => exact ⟨none, rfl⟩
  | cons c rest =>
    obtain ⟨s, hs⟩ := exists_sign rest
    rw [readExponent?, Option.ite_none_right_eq_some] at h
    obtain ⟨⟨hmark, hdigits⟩, -⟩ := h
    have hrow : (readSign rest).2 ≠ [] ∧ AllDigits (readSign rest).2 := by
      simpa [Numeral.isDigits, AllDigits] using hdigits
    refine ⟨some ⟨c, hmark, s, ⟨(readSign rest).2, hrow.1, hrow.2⟩⟩, ?_⟩
    exact congrArg (c :: ·) hs

/-- A text that is read is derived. -/
theorem exists_literal_of_read? {cs : List Char} {d : Decimal} (h : read? cs = some d) :
    ∃ l : Literal, l.text = cs := by
  obtain ⟨s, hs⟩ := exists_sign cs
  rw [read?, Option.ite_none_left_eq_some, Option.map_eq_some_iff] at h
  obtain ⟨hne, n, hn, -⟩ := h
  have hdigits : leadingDigits (readSign cs).2 ≠ [] ∨
      (readFraction (afterDigits (readSign cs).2)).1 ≠ [] := by
    simpa [← not_and_or] using hne
  obtain ⟨m, hm⟩ := exists_mantissa hdigits
  obtain ⟨e, he⟩ := exists_exponent hn
  refine ⟨⟨s, m, e⟩, ?_⟩
  rw [Literal.text, ← he, ← hm, ← hs]

end CatalogFilter.Decimal
