import CatalogFilter.Json.Quoted
import CatalogFilter.Json.Scan
import CatalogFilter.Proofs.Number.Numerals
import Mathlib.Tactic.SplitIfs

/-!
# Words of JSON read back

The strings and numbers of the JSON grammar, each with what it stands for. A string is read as the
text it stands for however it is written, and a number as its parts, as long as it does not go on
behind its end. A string or number that nobody looks at is passed over as a whole.

* `SpellsString`: how a text may be written; `LooseString`: a string that is passed over, in which
  escapes need not make up characters.
* `readString_of_spellsChars`, `skipString_of_looseChars`: strings are read and passed over.
* `SpellsParts`: how a number with given parts may be written; `NumberParts.text` is one way.
* `scanNumber_of_spells`, `readNumber_of_spells`, `skipNumber_of_spells`: numbers are read and
  passed over.
* `spellsString_quote`, `printedParts`: strings and integers as they are printed.
-/

namespace CatalogFilter.Json

/-! ### Strings -/

/-- How a character may be written inside a string: as it is, as a letter behind a backslash, by
its number, or, above the first plane, by the numbers of a surrogate pair. -/
inductive SpellsChar : Char → List Char → Prop
  | plain {c : Char} : c ≠ '"' → c ≠ '\\' → 0x20 ≤ c.toNat → SpellsChar c [c]
  | letter {x c : Char} : simpleEscape? x = some c → SpellsChar c ['\\', x]
  | code {a b c d : Char} {n : Nat} : Hexadecimal.number? [a, b, c, d] = some n →
      isLowSurrogate n = false → isHighSurrogate n = false →
      SpellsChar (Char.ofNat n) ['\\', 'u', a, b, c, d]
  | pair {a b c d e f g h : Char} {high low : Nat} :
      Hexadecimal.number? [a, b, c, d] = some high → isHighSurrogate high →
      Hexadecimal.number? [e, f, g, h] = some low → isLowSurrogate low →
      SpellsChar (joinSurrogates high low) ['\\', 'u', a, b, c, d, '\\', 'u', e, f, g, h]

/-- The text between the quotes of a string, character by character. -/
inductive SpellsChars : List Char → List Char → Prop
  | nil : SpellsChars [] []
  | cons {c : Char} {cs ds es : List Char} : SpellsChar c cs → SpellsChars ds es →
      SpellsChars (c :: ds) (cs ++ es)

/-- How a text may be written as a string. -/
inductive SpellsString (s : String) : List Char → Prop
  | mk {cs : List Char} : SpellsChars s.toList cs → SpellsString s ('"' :: (cs ++ ['"']))

/-- What may stand for a character in a string that nobody looks at. Half of a surrogate pair is as
good as any other number. -/
inductive LooseChar : List Char → Prop
  | plain {c : Char} : c ≠ '"' → c ≠ '\\' → 0x20 ≤ c.toNat → LooseChar [c]
  | letter {x : Char} : (simpleEscape? x).isSome → LooseChar ['\\', x]
  | code {a b c d : Char} : (Hexadecimal.number? [a, b, c, d]).isSome →
      LooseChar ['\\', 'u', a, b, c, d]

/-- What may stand between the quotes of a string that nobody looks at. -/
inductive LooseChars : List Char → Prop
  | nil : LooseChars []
  | cons {cs ds : List Char} : LooseChar cs → LooseChars ds → LooseChars (cs ++ ds)

/-- A string that nobody looks at. -/
inductive LooseString : List Char → Prop
  | mk {cs : List Char} : LooseChars cs → LooseString ('"' :: (cs ++ ['"']))

theorem LooseChars.append {cs ds : List Char} (hcs : LooseChars cs) (hds : LooseChars ds) :
    LooseChars (cs ++ ds) := by
  induction hcs with
  | nil => exact hds
  | cons hc _ ih =>
    rw [List.append_assoc]
    exact .cons hc ih

theorem SpellsChar.loose {c : Char} {cs : List Char} (h : SpellsChar c cs) : LooseChars cs := by
  cases h with
  | plain hquote hbackslash hcontrol => exact .cons (.plain hquote hbackslash hcontrol) .nil
  | letter hx => exact .cons (.letter (by simp [hx])) .nil
  | code hn => exact .cons (.code (by simp [hn])) .nil
  | pair hhigh _ hlow => exact .cons (.code (by simp [hhigh])) (.cons (.code (by simp [hlow])) .nil)

theorem SpellsChars.loose {ds cs : List Char} (h : SpellsChars ds cs) : LooseChars cs := by
  induction h with
  | nil => exact .nil
  | cons hc _ ih => exact hc.loose.append ih

/-- A string that stands for a text may be passed over as well. -/
theorem SpellsString.loose {s : String} {cs : List Char} (h : SpellsString s cs) :
    LooseString cs := by
  obtain ⟨hcs⟩ := h
  exact .mk hcs.loose

theorem SpellsChar.length_pos {c : Char} {cs : List Char} (h : SpellsChar c cs) :
    0 < cs.length := by
  cases h <;> simp

theorem LooseChar.length_pos {cs : List Char} (h : LooseChar cs) : 0 < cs.length := by
  cases h <;> simp

theorem readHex_of_number? {a b c d : Char} {n : Nat}
    (h : Hexadecimal.number? [a, b, c, d] = some n) (rest : List Char) :
    readHex (a :: b :: c :: d :: rest) = .ok (n, rest) := by
  simp [readHex, h]

theorem isLowSurrogate_of_isHighSurrogate {n : Nat} (h : isHighSurrogate n) :
    isLowSurrogate n = false := by
  simp only [isHighSurrogate, Bool.and_eq_true, decide_eq_true_eq] at h
  simp only [isLowSurrogate, Bool.and_eq_false_iff, decide_eq_false_iff_not]
  omega

/-- An escape stands for one character of the string. -/
theorem readChars_backslash (fuel : Nat) {cs rest : List Char} {c : Char}
    (h : readEscape cs = .ok (c, rest)) :
    readChars (fuel + 1) ('\\' :: cs) = (readChars fuel rest).map fun p => (c :: p.1, p.2) := by
  cases hrest : readChars fuel rest <;>
    simp [readChars, h, hrest, bind, Except.bind, pure, Except.pure, Except.map]

/-- A character is read however it is written. -/
theorem readChars_of_spellsChar {c : Char} {cs : List Char} (h : SpellsChar c cs) (fuel : Nat)
    (rest : List Char) :
    readChars (fuel + 1) (cs ++ rest) = (readChars fuel rest).map fun p => (c :: p.1, p.2) := by
  cases h with
  | plain hquote hbackslash hplain =>
    have hcontrol : ¬ c.toNat < 0x20 := by omega
    cases hrest : readChars fuel rest <;>
      simp [readChars, hquote, hbackslash, hcontrol, hrest, bind, Except.bind, pure, Except.pure,
        Except.map]
  | @letter x _ hx =>
    have hu : x ≠ 'u' := by
      rintro rfl
      cases hx
    have hescape : readEscape (x :: rest) = .ok (c, rest) := by
      rw [readEscape, hx]
      exact hu
    exact readChars_backslash fuel hescape
  | code hn hlow hhigh =>
    refine readChars_backslash fuel ?_
    simp [readEscape, readHex_of_number? hn, hlow, hhigh, bind, Except.bind]
  | pair hn hhigh hm hlow =>
    have hnot := isLowSurrogate_of_isHighSurrogate hhigh
    refine readChars_backslash fuel ?_
    simp [readEscape, readLowSurrogate, readHex_of_number? hn, readHex_of_number? hm, hlow, hhigh,
      hnot, bind, Except.bind]

theorem readChars_of_spellsChars {ds cs : List Char} (h : SpellsChars ds cs) (rest : List Char)
    {fuel : Nat} (hfuel : cs.length < fuel) :
    readChars fuel (cs ++ '"' :: rest) = .ok (ds, rest) := by
  induction h generalizing fuel with
  | nil =>
    obtain ⟨fuel, rfl⟩ : ∃ n, fuel = n + 1 := ⟨fuel - 1, by omega⟩
    simp [readChars]
  | cons hc hcs ih =>
    have hpos := hc.length_pos
    rw [List.length_append] at hfuel
    obtain ⟨fuel, rfl⟩ : ∃ n, fuel = n + 1 := ⟨fuel - 1, by omega⟩
    rw [List.append_assoc, readChars_of_spellsChar hc, ih (by omega)]
    rfl

/-- A string is read however it is written. -/
theorem readString_of_spellsChars {s : String} {cs : List Char} (h : SpellsChars s.toList cs)
    (rest : List Char) : readString (cs ++ '"' :: rest) = .ok (s, rest) := by
  have hfuel : cs.length < (cs ++ '"' :: rest).length + 1 := by
    rw [List.length_append]
    omega
  rw [readString, readChars_of_spellsChars h rest hfuel]
  simp [bind, Except.bind, pure, Except.pure]

/-- A character of a string that is passed over. -/
theorem skipChars_of_looseChar {cs : List Char} (h : LooseChar cs) (fuel : Nat)
    (rest : List Char) : skipChars (fuel + 1) (cs ++ rest) = skipChars fuel rest := by
  cases h with
  | @plain c hquote hbackslash hplain =>
    have hcontrol : ¬ c.toNat < 0x20 := by omega
    simp [skipChars, hquote, hbackslash, hcontrol]
  | @letter x hx =>
    have hu : x ≠ 'u' := by
      rintro rfl
      cases hx
    have hescape : skipEscape (x :: rest) = .ok rest := by
      rw [skipEscape, if_pos hx]
      exact hu
    simp [skipChars, hescape, bind, Except.bind]
  | code hn =>
    obtain ⟨n, hn⟩ := Option.isSome_iff_exists.mp hn
    simp [skipChars, skipEscape, readHex_of_number? hn, Except.map, bind, Except.bind]

theorem skipChars_of_looseChars {cs : List Char} (h : LooseChars cs) (rest : List Char)
    {fuel : Nat} (hfuel : cs.length < fuel) : skipChars fuel (cs ++ '"' :: rest) = .ok rest := by
  induction h generalizing fuel with
  | nil =>
    obtain ⟨fuel, rfl⟩ : ∃ n, fuel = n + 1 := ⟨fuel - 1, by omega⟩
    simp [skipChars]
  | cons hc hcs ih =>
    have hpos := hc.length_pos
    rw [List.length_append] at hfuel
    obtain ⟨fuel, rfl⟩ : ∃ n, fuel = n + 1 := ⟨fuel - 1, by omega⟩
    rw [List.append_assoc, skipChars_of_looseChar hc, ih (by omega)]

/-- A string is passed over up to its closing quote. -/
theorem skipString_of_looseChars {cs : List Char} (h : LooseChars cs) (rest : List Char) :
    skipString (cs ++ '"' :: rest) = .ok rest := by
  refine skipChars_of_looseChars h rest ?_
  rw [List.length_append]
  omega

/-! ### Strings as they are printed -/

/-- A control character may be written with four hexadecimal digits. -/
theorem spellsChar_control {c : Char} (hc : c.toNat < 0x20) :
    SpellsChar c ['\\', 'u', '0', '0', Hexadecimal.digit (c.toNat / 16),
      Hexadecimal.digit (c.toNat % 16)] := by
  have hnumber : ∀ n < 0x20, Hexadecimal.number?
      ['0', '0', Hexadecimal.digit (n / 16), Hexadecimal.digit (n % 16)] = some n := by decide
  have hlow : isLowSurrogate c.toNat = false := by
    simp only [isLowSurrogate, Bool.and_eq_false_iff, decide_eq_false_iff_not]
    omega
  have hhigh : isHighSurrogate c.toNat = false := by
    simp only [isHighSurrogate, Bool.and_eq_false_iff, decide_eq_false_iff_not]
    omega
  have hcode := SpellsChar.code (hnumber c.toNat hc) hlow hhigh
  rwa [Char.ofNat_toNat] at hcode

/-- The way a character is printed is one of the ways to write it. -/
theorem spellsChar_escape (c : Char) : SpellsChar c (escape c) := by
  have hcode {n : Nat} (h : c.toNat = n) : c = Char.ofNat n := by
    rw [← h, Char.ofNat_toNat]
  rw [escape]
  split_ifs with hquote hbackslash hplain hb ht hn hf hr
  · exact .letter (congrArg some hquote.symm)
  · exact .letter (congrArg some hbackslash.symm)
  · exact .plain hquote hbackslash hplain
  · exact .letter (congrArg some (hcode hb).symm)
  · exact .letter (congrArg some ht.symm)
  · exact .letter (congrArg some hn.symm)
  · exact .letter (congrArg some (hcode hf).symm)
  · exact .letter (congrArg some hr.symm)
  · exact spellsChar_control (by omega)

theorem spellsChars_flatMap_escape (cs : List Char) : SpellsChars cs (cs.flatMap escape) := by
  induction cs with
  | nil => exact .nil
  | cons c cs ih => exact .cons (spellsChar_escape c) ih

/-- A printed string is one of the ways to write it. -/
theorem spellsString_quote (s : String) : SpellsString s (quote s) :=
  .mk (spellsChars_flatMap_escape s.toList)

/-! ### Numbers -/

open Numeral

namespace NumberParts

/-- The text of the digits behind the point. -/
def fractionText : Option (List Char) → List Char
  | none => []
  | some ds => '.' :: ds

/-- The text of the power of ten, with its sign. -/
def exponentText : Option (Bool × List Char) → List Char
  | none => []
  | some (negative, ds) => 'e' :: (if negative then '-' else '+') :: ds

/-- The text of a number without its sign. -/
def text (p : NumberParts) : List Char :=
  p.whole ++ fractionText p.fraction ++ exponentText p.exponent

/-- The parts make up a number of the JSON grammar. -/
structure WellFormed (p : NumberParts) : Prop where
  /-- Digits stand before the point. -/
  whole_ne_nil : p.whole ≠ []
  /-- Only digits stand before the point. -/
  whole_digits : AllDigits p.whole
  /-- A leading zero stands alone. -/
  whole_zero : p.whole.head? = some '0' → p.whole = ['0']
  /-- A point is followed by digits. -/
  fraction_digits : ∀ ds ∈ p.fraction, ds ≠ [] ∧ AllDigits ds
  /-- A power of ten has digits. -/
  exponent_digits : ∀ e ∈ p.exponent, e.2 ≠ [] ∧ AllDigits e.2

end NumberParts

/-- How a power of ten may be written: behind either letter, and a plus sign may be left out. -/
inductive SpellsExponent : Option (Bool × List Char) → List Char → Prop
  | absent : SpellsExponent none []
  | bare {x : Char} {ds : List Char} : x = 'e' ∨ x = 'E' →
      SpellsExponent (some (false, ds)) (x :: ds)
  | plus {x : Char} {ds : List Char} : x = 'e' ∨ x = 'E' →
      SpellsExponent (some (false, ds)) (x :: '+' :: ds)
  | minus {x : Char} {ds : List Char} : x = 'e' ∨ x = 'E' →
      SpellsExponent (some (true, ds)) (x :: '-' :: ds)

/-- How a number of the JSON grammar with the given parts may be written without its sign. -/
inductive SpellsParts (p : NumberParts) : List Char → Prop
  | mk {es : List Char} : p.WellFormed → SpellsExponent p.exponent es →
      SpellsParts p (p.whole ++ NumberParts.fractionText p.fraction ++ es)

theorem spellsParts_text {p : NumberParts} (hp : p.WellFormed) : SpellsParts p p.text := by
  refine .mk hp ?_
  cases p.exponent with
  | none => exact .absent
  | some e =>
    obtain ⟨negative, ds⟩ := e
    cases negative with
    | true => exact .minus (.inl rfl)
    | false => exact .plus (.inl rfl)

/-- A number does not go on with the text. -/
def EndsNumber (rest : List Char) : Prop :=
  ∀ c ∈ rest.head?, c.isDigit = false ∧ c ≠ '.' ∧ c ≠ 'e' ∧ c ≠ 'E'

theorem EndsNumber.endsDigits {rest : List Char} (h : EndsNumber rest) : EndsDigits rest :=
  fun c hc => (h c hc).1

theorem endsNumber_nil : EndsNumber [] := by
  simp [EndsNumber]

theorem scanDigits_append (atEnd : ReadError) {ds rest : List Char} (hne : ds ≠ [])
    (hds : AllDigits ds) (hrest : EndsDigits rest) :
    scanDigits atEnd (ds ++ rest) = .ok (ds, rest) := by
  cases ds with
  | nil => exact absurd rfl hne
  | cons c ds =>
    have htail : AllDigits ds := fun x hx => hds x (List.mem_cons_of_mem c hx)
    rw [List.cons_append, scanDigits, if_pos (hds c List.mem_cons_self),
      leadingDigits_append htail hrest, afterDigits_append htail hrest]

theorem scanWhole_append (atEnd : ReadError) {ds rest : List Char} (hne : ds ≠ [])
    (hds : AllDigits ds) (hzero : ds.head? = some '0' → ds = ['0']) (hrest : EndsDigits rest) :
    scanWhole atEnd (ds ++ rest) = .ok (ds, rest) := by
  by_cases h : ds.head? = some '0'
  · rw [hzero h, List.singleton_append, scanWhole, leadingDigits_eq_nil hrest]
    rfl
  · have hscan : scanWhole atEnd (ds ++ rest) = scanDigits atEnd (ds ++ rest) := by
      cases ds with
      | nil => exact absurd rfl hne
      | cons c ds =>
        have hc : c ≠ '0' := fun hc => h (by rw [hc]; rfl)
        rw [List.cons_append, scanWhole, scanDigits]
        exact hc
    rw [hscan, scanDigits_append atEnd hne hds hrest]

/-- Neither a digit nor a point follows the digits in front of a power of ten. -/
theorem SpellsExponent.head {e : Option (Bool × List Char)} {es : List Char}
    (h : SpellsExponent e es) {rest : List Char} (hrest : EndsNumber rest) :
    ∀ c ∈ (es ++ rest).head?, c.isDigit = false ∧ c ≠ '.' := by
  have hmark {x : Char} (hx : x = 'e' ∨ x = 'E') : x.isDigit = false ∧ x ≠ '.' := by
    rcases hx with rfl | rfl <;> decide
  cases h with
  | absent => exact fun c hc => ⟨(hrest c hc).1, (hrest c hc).2.1⟩
  | bare hx => simpa using hmark hx
  | plus hx => simpa using hmark hx
  | minus hx => simpa using hmark hx

/-- The digits of a power of ten without a sign are not taken for a sign. -/
theorem scanExponent_bare (atEnd : ReadError) {x : Char} (hx : x = 'e' ∨ x = 'E')
    {ds : List Char} (hne : ds ≠ []) (hds : AllDigits ds) {rest : List Char}
    (hrest : EndsDigits rest) :
    scanExponent atEnd (x :: ds ++ rest) = .ok (some (false, ds), rest) := by
  have hscan := scanDigits_append atEnd hne hds hrest
  obtain ⟨d, ds, rfl⟩ := List.exists_cons_of_ne_nil hne
  have hd : d.isDigit := hds d List.mem_cons_self
  rw [List.cons_append] at hscan
  rw [List.cons_append, List.cons_append, scanExponent, if_pos hx]
  · simp only [hscan, bind, Except.bind, pure, Except.pure]
  · rintro _ ⟨⟩
    exact absurd hd (by decide)
  · rintro _ ⟨⟩
    exact absurd hd (by decide)

theorem scanExponent_of_spells (atEnd : ReadError) {e : Option (Bool × List Char)}
    {es : List Char} (h : SpellsExponent e es) (he : ∀ p ∈ e, p.2 ≠ [] ∧ AllDigits p.2)
    {rest : List Char} (hrest : EndsNumber rest) :
    scanExponent atEnd (es ++ rest) = .ok (e, rest) := by
  cases h with
  | absent =>
    cases rest with
    | nil => rfl
    | cons c rest =>
      have hc : ¬ (c = 'e' ∨ c = 'E') := not_or.mpr ⟨(hrest c rfl).2.2.1, (hrest c rfl).2.2.2⟩
      simp [scanExponent, hc]
  | bare hx =>
    obtain ⟨hne, hds⟩ := he _ rfl
    exact scanExponent_bare atEnd hx hne hds hrest.endsDigits
  | plus hx =>
    obtain ⟨hne, hds⟩ := he _ rfl
    have hscan := scanDigits_append atEnd hne hds hrest.endsDigits
    simp [scanExponent, hx, hscan, bind, Except.bind, pure, Except.pure]
  | minus hx =>
    obtain ⟨hne, hds⟩ := he _ rfl
    have hscan := scanDigits_append atEnd hne hds hrest.endsDigits
    simp [scanExponent, hx, hscan, bind, Except.bind, pure, Except.pure]

theorem scanFraction_append (atEnd : ReadError) {f : Option (List Char)}
    (hf : ∀ ds ∈ f, ds ≠ [] ∧ AllDigits ds) {rest : List Char}
    (hrest : ∀ c ∈ rest.head?, c.isDigit = false ∧ c ≠ '.') :
    scanFraction atEnd (NumberParts.fractionText f ++ rest) = .ok (f, rest) := by
  cases f with
  | some ds =>
    obtain ⟨hne, hds⟩ := hf ds rfl
    have hscan := scanDigits_append atEnd hne hds fun c hc => (hrest c hc).1
    simp [NumberParts.fractionText, scanFraction, hscan, bind, Except.bind, pure, Except.pure]
  | none =>
    rw [NumberParts.fractionText, List.nil_append]
    unfold scanFraction
    split
    · exact absurd rfl (hrest '.' rfl).2
    · rfl

/-- The parts of a number are found again however it is written. -/
theorem scanNumber_of_spells (atEnd : ReadError) {p : NumberParts} {cs : List Char}
    (h : SpellsParts p cs) {rest : List Char} (hrest : EndsNumber rest) :
    scanNumber atEnd (cs ++ rest) = .ok (p, rest) := by
  obtain ⟨hp, he⟩ := h
  rename_i es
  have hhead := he.head hrest
  have hwholeEnds : EndsDigits (NumberParts.fractionText p.fraction ++ (es ++ rest)) := by
    cases p.fraction with
    | none => exact fun c hc => (hhead c hc).1
    | some ds => simp [NumberParts.fractionText, EndsDigits]
  have hwhole := scanWhole_append atEnd hp.whole_ne_nil hp.whole_digits hp.whole_zero hwholeEnds
  have hfraction := scanFraction_append atEnd hp.fraction_digits hhead
  have hexponent := scanExponent_of_spells atEnd he hp.exponent_digits hrest
  simp [scanNumber, hwhole, hfraction, hexponent, bind, Except.bind, pure, Except.pure]

/-- Reading a number amounts to taking the value of its parts. -/
theorem readNumber_of_spells (negative : Bool) {p : NumberParts} {cs : List Char}
    (h : SpellsParts p cs) {rest : List Char} (hrest : EndsNumber rest) :
    readNumber negative (cs ++ rest) = (numberValue negative p).map (·, rest) := by
  rw [readNumber, scanNumber_of_spells _ h hrest]
  cases hv : numberValue negative p <;>
    simp [bind, Except.bind, pure, Except.pure, Except.map, hv]

/-- A number is passed over as a whole. -/
theorem skipNumber_of_spells {p : NumberParts} {cs : List Char} (h : SpellsParts p cs)
    {rest : List Char} (hrest : EndsNumber rest) : skipNumber (cs ++ rest) = .ok rest := by
  rw [skipNumber, scanNumber_of_spells _ h hrest]
  rfl

/-! ### Integers -/

/-- The digits of a number as they are printed. -/
def printedParts (n : Nat) : NumberParts where
  whole := print n
  fraction := none
  exponent := none

theorem text_printedParts (n : Nat) : (printedParts n).text = print n := by
  simp [printedParts, NumberParts.text, NumberParts.fractionText, NumberParts.exponentText]

theorem wellFormed_printedParts (n : Nat) : (printedParts n).WellFormed where
  whole_ne_nil := print_ne_nil n
  whole_digits := allDigits_print n
  whole_zero := by
    intro h
    rcases Nat.eq_zero_or_pos n with rfl | hn
    · rfl
    · exact absurd h (head?_print hn)
  fraction_digits := by simp [printedParts]
  exponent_digits := by simp [printedParts]

theorem numberValue_printedParts {n : Nat} (hn : n ≤ maxSignificand) :
    numberValue false (printedParts n) = .ok (.integer n) := by
  simp [numberValue, printedParts, value_print, hn]

theorem numberValue_printedParts_neg {n : Nat} (hpos : 1 ≤ n) (hn : n ≤ maxNegative) :
    numberValue true (printedParts n) = .ok (.integer (-n)) := by
  simp [numberValue, printedParts, value_print, hpos, hn]

end CatalogFilter.Json
