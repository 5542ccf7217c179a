import CatalogFilter.Proofs.Number.Literals

/-!
# Literals in one pass

Whether a text is a literal can be found out in one pass over its bytes, with a position that only
moves on. Every look at the text from a position on is a fault if the position lies beyond the end.
This file gives the pass and shows that no fault occurs and that the pass accepts the texts that
the reader of literals accepts, which are the literals of the grammar. Bytes of longer characters
never stand for a digit, a sign, a point or a letter, so the pass stops in front of them.

* `Scan.scan?`: the pass.
* `Scan.Reached`: at a position a text is left to be read. What a step of the pass leaves is what
  the same step of the reader leaves (`Reached.sign`, `Reached.digits`, `Reached.fraction`,
  `Reached.exponent`).
* `isSome_read?_iff_derived`: the grammar, the reader and the pass agree on every text.
-/

namespace CatalogFilter.Decimal

open Numeral

namespace Scan

/-! ### The pass -/

/-- The bytes from a position on, unless the position lies beyond the end. -/
def from? (bytes : List UInt8) (pos : Nat) : Option (List UInt8) :=
  if pos ≤ bytes.length then some (bytes.drop pos) else none

/-- The byte is a character by itself, one of the given kind. -/
def isOf (kind : Char → Bool) (b : UInt8) : Bool :=
  b.toNat < 128 && kind (Char.ofNat b.toNat)

/-- The number of bytes of a kind that stand in a row from a position on. -/
def count? (kind : Char → Bool) (bytes : List UInt8) (pos : Nat) : Option Nat :=
  (from? bytes pos).map fun rest => (rest.takeWhile (isOf kind)).length

/-- The position behind a byte of a kind, or the same position if another byte stands there. -/
def skip? (kind : Char → Bool) (bytes : List UInt8) (pos : Nat) : Option Nat :=
  (from? bytes pos).map fun rest => if rest.head?.any (isOf kind) then pos + 1 else pos

/-- The signs. -/
def isSign (c : Char) : Bool :=
  c == '+' || c == '-'

/-- The letters in front of a power of ten. -/
def isMark (c : Char) : Bool :=
  c == 'e' || c == 'E'

/-- The number of digits behind a point at a position, and the position behind them. -/
def fraction? (bytes : List UInt8) (pos : Nat) : Option (Nat × Nat) := do
  let point ← skip? (· == '.') bytes pos
  if point = pos then return (0, pos)
  let digits ← count? Char.isDigit bytes point
  return (digits, point + digits)

/-- From a position on there is a power of ten and nothing else, or nothing at all. -/
def exponent? (bytes : List UInt8) (pos : Nat) : Option Bool := do
  let mark ← skip? isMark bytes pos
  if mark = pos then return pos == bytes.length
  let start ← skip? isSign bytes mark
  let digits ← count? Char.isDigit bytes start
  return digits != 0 && start + digits == bytes.length

/-- The bytes are those of a literal. -/
def scan? (bytes : List UInt8) : Option Bool := do
  let start ← skip? isSign bytes 0
  let whole ← count? Char.isDigit bytes start
  let fraction ← fraction? bytes (start + whole)
  if whole + fraction.1 = 0 then return false
  exponent? bytes fraction.2

/-! ### Bytes and characters -/

/-- The bytes of a text. -/
def encode (cs : List Char) : List UInt8 :=
  cs.flatMap String.utf8EncodeChar

theorem toList_toUTF8 (s : String) : s.toUTF8.data.toList = encode s.toList := by
  rw [String.toUTF8_eq_toByteArray, ← String.utf8Encode_toList, List.utf8Encode,
    List.toList_data_toByteArray, encode]

/-- All characters of the kind take one byte. -/
def OneByte (kind : Char → Bool) : Prop :=
  ∀ c, kind c → c.toNat < 128

theorem oneByte_isDigit : OneByte Char.isDigit := by
  intro c hc
  have hnine : c.toNat ≤ '9'.toNat := (Char.isDigit_iff_toNat.mp hc).2
  exact hnine.trans_lt (by decide)

theorem oneByte_isSign : OneByte isSign := by
  intro c hc
  have hc : c = '+' ∨ c = '-' := by simpa [isSign] using hc
  rcases hc with rfl | rfl <;> decide

theorem oneByte_isMark : OneByte isMark := by
  intro c hc
  have hc : c = 'e' ∨ c = 'E' := by simpa [isMark] using hc
  rcases hc with rfl | rfl <;> decide

theorem oneByte_point : OneByte (· == '.') := by
  intro c hc
  obtain rfl : c = '.' := by simpa using hc
  decide

variable {kind : Char → Bool}

theorem encode_cons_of_lt {c : Char} (hc : c.toNat < 128) (cs : List Char) :
    encode (c :: cs) = UInt8.ofNat c.toNat :: encode cs := by
  have hval : c.val.toNat ≤ 127 := Nat.le_of_lt_succ hc
  rw [encode, List.flatMap_cons, String.utf8EncodeChar, if_pos hval]
  rfl

theorem isOf_ofNat {c : Char} (hc : c.toNat < 128) : isOf kind (UInt8.ofNat c.toNat) = kind c := by
  have hbyte : (UInt8.ofNat c.toNat).toNat = c.toNat := by
    rw [UInt8.toNat_ofNat']
    omega
  simp [isOf, hbyte, hc, Char.ofNat_toNat]

/-- A longer character begins with a byte that is no character by itself. -/
theorem exists_encode_cons_of_le {c : Char} (hc : 128 ≤ c.toNat) (cs : List Char) :
    ∃ b bs, encode (c :: cs) = b :: bs ∧ ∀ kind, isOf kind b = false := by
  obtain ⟨b, bs, hencode, hb⟩ : ∃ b bs, String.utf8EncodeChar c = b :: bs ∧ 128 ≤ b.toNat := by
    have hval : ¬ c.val.toNat ≤ 127 := Nat.not_le_of_lt hc
    rw [String.utf8EncodeChar, if_neg hval]
    split_ifs
    all_goals
      refine ⟨_, _, rfl, ?_⟩
      rw [UInt8.toNat_ofNat']
      omega
  refine ⟨b, bs ++ encode cs, by rw [encode, List.flatMap_cons, hencode]; rfl, fun kind => ?_⟩
  have hlarge : ¬ b.toNat < 128 := by omega
  simp [isOf, hlarge]

/-- The first byte is one of a kind just if the first character is. -/
theorem any_head?_encode (hkind : OneByte kind) (cs : List Char) :
    (encode cs).head?.any (isOf kind) = cs.head?.any kind := by
  cases cs with
  | nil => rfl
  | cons c cs =>
    rcases Nat.lt_or_ge c.toNat 128 with hc | hc
    · rw [encode_cons_of_lt hc]
      exact isOf_ofNat hc
    · obtain ⟨b, bs, hencode, hb⟩ := exists_encode_cons_of_le hc cs
      have hnot : kind c = false := Bool.eq_false_iff.mpr fun h => absurd (hkind c h) (by omega)
      simp [hencode, hb, hnot]

/-- As many bytes of a kind stand in a row as characters. -/
theorem length_takeWhile_encode (hkind : OneByte kind) (cs : List Char) :
    ((encode cs).takeWhile (isOf kind)).length = (cs.takeWhile kind).length := by
  induction cs with
  | nil => rfl
  | cons c cs ih =>
    by_cases h : kind c
    · have hc := hkind c h
      rw [encode_cons_of_lt hc, List.takeWhile_cons_of_pos ((isOf_ofNat hc).trans h),
        List.takeWhile_cons_of_pos h, List.length_cons, List.length_cons, ih]
    · have hnone : (encode (c :: cs)).takeWhile (isOf kind) = [] := by
        have hhead := any_head?_encode hkind (c :: cs)
        cases hencode : encode (c :: cs) with
        | nil => rfl
        | cons b bs =>
          have hb : ¬ isOf kind b := by simpa [hencode, h] using hhead
          exact List.takeWhile_cons_of_neg hb
      rw [hnone, List.takeWhile_cons_of_neg h]
      rfl

/-! ### Steps of the reader -/

theorem readSign_cases (cs : List Char) :
    (∃ c rest, cs = c :: rest ∧ isSign c ∧ (readSign cs).2 = rest) ∨
      cs.head?.any isSign = false ∧ (readSign cs).2 = cs := by
  unfold readSign
  split
  · exact .inl ⟨'-', _, rfl, rfl, rfl⟩
  · exact .inl ⟨'+', _, rfl, rfl, rfl⟩
  · rename_i hminus hplus
    refine .inr ⟨?_, rfl⟩
    cases cs with
    | nil => rfl
    | cons c cs => simp_all [isSign]

theorem readFraction_cases (cs : List Char) :
    (∃ rest, cs = '.' :: rest ∧ readFraction cs = (leadingDigits rest, afterDigits rest)) ∨
      cs.head?.any (· == '.') = false ∧ readFraction cs = ([], cs) := by
  unfold readFraction
  split
  · exact .inl ⟨_, rfl, rfl⟩
  · rename_i hpoint
    refine .inr ⟨?_, rfl⟩
    cases cs with
    | nil => rfl
    | cons c cs => simp_all

/-- A row of digits is found by taking the leading digits: there are some, and nothing is left. -/
theorem isDigits_eq (cs : List Char) :
    Numeral.isDigits cs = ((leadingDigits cs).length != 0 && (afterDigits cs).isEmpty) := by
  have hsplit := leadingDigits_append_afterDigits cs
  by_cases hnil : afterDigits cs = []
  · have hall : cs.all Char.isDigit := by simpa [afterDigits] using hnil
    rw [hnil, List.append_nil] at hsplit
    rw [Numeral.isDigits, hnil, hsplit, hall]
    cases cs <;> rfl
  · have hall : cs.all Char.isDigit = false := by simpa [afterDigits] using hnil
    simp [Numeral.isDigits, hnil, hall]

theorem isSome_readExponent?_cons (c : Char) (cs : List Char) :
    (readExponent? (c :: cs)).isSome = (isMark c && Numeral.isDigits (readSign cs).2) := by
  have hmark : isMark c ↔ c = 'e' ∨ c = 'E' := by simp [isMark]
  by_cases hc : isMark c
  · by_cases hdigits : Numeral.isDigits (readSign cs).2
    · simp [readExponent?, hc, hmark.mp hc, hdigits]
    · simp [readExponent?, hc, hdigits]
  · simp [readExponent?, hc, mt hmark.mpr hc]

theorem isSome_read? (cs : List Char) :
    (read? cs).isSome =
      if (leadingDigits (readSign cs).2).length +
          (readFraction (afterDigits (readSign cs).2)).1.length = 0 then false
      else (readExponent? (readFraction (afterDigits (readSign cs).2)).2).isSome := by
  simp only [read?]
  generalize leadingDigits (readSign cs).2 = whole
  generalize readFraction (afterDigits (readSign cs).2) = fraction
  by_cases hnone : whole = [] ∧ fraction.1 = []
  · simp [hnone]
  · have hempty : ¬ (whole.isEmpty && fraction.1.isEmpty) := by simpa using hnone
    have hlength : ¬ whole.length + fraction.1.length = 0 := by simpa using hnone
    rw [if_neg hempty, if_neg hlength, Option.isSome_map]

/-! ### Steps of the pass -/

/-- At the position a text is left to be read. -/
def Reached (bytes : List UInt8) (pos : Nat) (cs : List Char) : Prop :=
  from? bytes pos = some (encode cs)

theorem reached_start (cs : List Char) : Reached (encode cs) 0 cs := by
  simp [Reached, from?]

namespace Reached

variable {bytes : List UInt8} {pos : Nat} {cs : List Char}

theorem iff_drop : Reached bytes pos cs ↔ pos ≤ bytes.length ∧ bytes.drop pos = encode cs := by
  rw [Reached, from?, Option.ite_none_right_eq_some, Option.some.injEq]

/-- A character of one byte moves the position on by one. -/
theorem next {c : Char} (h : Reached bytes pos (c :: cs)) (hc : c.toNat < 128) :
    Reached bytes (pos + 1) cs := by
  obtain ⟨-, hdrop⟩ := iff_drop.mp h
  rw [encode_cons_of_lt hc] at hdrop
  have hlength := congrArg List.length hdrop
  rw [List.length_drop, List.length_cons] at hlength
  refine iff_drop.mpr ⟨by omega, ?_⟩
  rw [← List.drop_drop, hdrop, List.drop_one, List.tail_cons]

theorem add {ds : List Char} (h : Reached bytes pos (ds ++ cs)) (hds : ∀ c ∈ ds, c.toNat < 128) :
    Reached bytes (pos + ds.length) cs := by
  induction ds generalizing pos with
  | nil => exact h
  | cons c ds ih =>
    have hnext := next h (hds c List.mem_cons_self)
    have hrest := ih hnext fun x hx => hds x (List.mem_cons_of_mem c hx)
    rwa [Nat.add_assoc, Nat.add_comm 1] at hrest

/-- Nothing is left just at the end. -/
theorem eq_length (h : Reached bytes pos cs) : (pos == bytes.length) = cs.isEmpty := by
  obtain ⟨hpos, hdrop⟩ := iff_drop.mp h
  have hlength := congrArg List.length hdrop
  rw [List.length_drop] at hlength
  cases cs with
  | nil =>
    have hend : pos = bytes.length := by
      rw [encode, List.flatMap_nil, List.length_nil] at hlength
      omega
    simp [hend]
  | cons c cs =>
    have hne := String.utf8EncodeChar_ne_nil (c := c)
    have hbefore : pos ≠ bytes.length := by
      intro hend
      rw [hend, Nat.sub_self, encode, List.flatMap_cons, List.length_append] at hlength
      have := List.length_pos_iff.mpr hne
      omega
    simpa using hbefore

theorem skip?_eq (h : Reached bytes pos cs) (hkind : OneByte kind) :
    skip? kind bytes pos = some (if cs.head?.any kind then pos + 1 else pos) := by
  rw [skip?, h, Option.map_some, any_head?_encode hkind]

theorem count?_eq (h : Reached bytes pos cs) (hkind : OneByte kind) :
    count? kind bytes pos = some (cs.takeWhile kind).length := by
  rw [count?, h, Option.map_some, length_takeWhile_encode hkind]

/-- The pass and the reader find the same digits and leave the same text behind them. -/
theorem digits (h : Reached bytes pos cs) :
    count? Char.isDigit bytes pos = some (leadingDigits cs).length ∧
      Reached bytes (pos + (leadingDigits cs).length) (afterDigits cs) := by
  refine ⟨h.count?_eq oneByte_isDigit, ?_⟩
  rw [← leadingDigits_append_afterDigits cs] at h
  exact h.add fun c hc => oneByte_isDigit c (allDigits_leadingDigits cs c hc)

/-- The pass and the reader leave the same text behind a sign. -/
theorem sign (h : Reached bytes pos cs) :
    ∃ start, skip? isSign bytes pos = some start ∧ Reached bytes start (readSign cs).2 := by
  rw [h.skip?_eq oneByte_isSign]
  refine ⟨_, rfl, ?_⟩
  rcases readSign_cases cs with ⟨c, rest, rfl, hc, hrest⟩ | ⟨hnone, hrest⟩
  · rw [hrest, List.head?_cons, Option.any_some, if_pos hc]
    exact h.next (oneByte_isSign c hc)
  · rw [hrest, hnone]
    exact h

/-- The pass and the reader find the same digits behind a point and leave the same text. -/
theorem fraction (h : Reached bytes pos cs) :
    ∃ stop, fraction? bytes pos = some ((readFraction cs).1.length, stop) ∧
      Reached bytes stop (readFraction cs).2 := by
  unfold fraction?
  rw [h.skip?_eq oneByte_point]
  rcases readFraction_cases cs with ⟨rest, rfl, hrest⟩ | ⟨hnone, hrest⟩
  · obtain ⟨hcount, hstop⟩ := (h.next (by decide)).digits
    rw [hrest]
    exact ⟨_, by simp [hcount], hstop⟩
  · rw [hrest]
    exact ⟨pos, by simp [hnone], h⟩

/-- The pass and the reader accept the same powers of ten. -/
theorem exponent (h : Reached bytes pos cs) :
    exponent? bytes pos = some (readExponent? cs).isSome := by
  unfold exponent?
  rw [h.skip?_eq oneByte_isMark]
  cases cs with
  | nil => simpa [readExponent?] using h.eq_length
  | cons c cs =>
    rw [isSome_readExponent?_cons]
    by_cases hc : isMark c
    · obtain ⟨start, hskip, hstart⟩ := (h.next (oneByte_isMark c hc)).sign
      obtain ⟨hcount, hstop⟩ := hstart.digits
      rw [isDigits_eq, ← hstop.eq_length]
      simp [hc, hskip, hcount]
    · simp [hc, h.eq_length]

end Reached

/-- The pass meets no fault and accepts what the reader accepts. -/
theorem scan?_encode (cs : List Char) : scan? (encode cs) = some (read? cs).isSome := by
  obtain ⟨start, hsign, hstart⟩ := (reached_start cs).sign
  obtain ⟨hcount, hstop⟩ := hstart.digits
  obtain ⟨stop, hfraction, hrest⟩ := hstop.fraction
  rw [isSome_read?]
  unfold scan?
  simp only [hsign, hcount, hfraction, hrest.exponent, Option.bind_eq_bind, Option.bind_some]
  split <;> rfl

end Scan

/-- **The grammar, the reader and the pass agree.** A text is read as a number just if the grammar
derives it. One pass over its bytes finds this out, and no position at which the pass looks at the
text lies beyond its end. -/
theorem isSome_read?_iff_derived (raw : String) :
    ((read? raw.toList).isSome ↔ ∃ l : Literal, l.text = raw.toList) ∧
      Scan.scan? raw.toUTF8.data.toList = some (read? raw.toList).isSome := by
  constructor
  · rw [Option.isSome_iff_exists]
    constructor
    · rintro ⟨d, hd⟩
      exact exists_literal_of_read? hd
    · rintro ⟨l, hl⟩
      exact ⟨l.decimal, hl ▸ read?_text l⟩
  · rw [Scan.toList_toUTF8]
    exact Scan.scan?_encode raw.toList

end CatalogFilter.Decimal
