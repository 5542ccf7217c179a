import CatalogFilter.Number.Numeral
import CatalogFilter.Number.Power
import Mathlib.Data.List.TakeWhile
import Mathlib.Tactic.Ring

/-!
# Rows of digits

The digits of a number and the number of a row of digits are inverse to each other. A row of digits
in front of anything but a digit is found again by the readers of numerals.

* `Numeral.value_print`: printing a number and reading it back.
* `Numeral.value_append`, `Numeral.value_lt`: the place value of digits.
* `Numeral.leadingDigits_append`, `Numeral.afterDigits_append`: the end of a row of digits.
* `Numeral.WritesCount`, `Numeral.readPositive?_eq_some_iff`: the texts of numbers of 32 bits.
-/

namespace CatalogFilter.Numeral

/-- All characters are digits. -/
def AllDigits (ds : List Char) : Prop :=
  ∀ c ∈ ds, c.isDigit

/-- The text does not go on with a digit. -/
def EndsDigits (rest : List Char) : Prop :=
  ∀ c ∈ rest.head?, c.isDigit = false

theorem AllDigits.append {ds es : List Char} (hd : AllDigits ds) (he : AllDigits es) :
    AllDigits (ds ++ es) :=
  fun c hc => (List.mem_append.mp hc).elim (hd c) (he c)

theorem AllDigits.of_subset {ds es : List Char} (hd : AllDigits ds) (h : es ⊆ ds) :
    AllDigits es :=
  fun c hc => hd c (h hc)

theorem allDigits_replicate_zero (n : Nat) : AllDigits (List.replicate n '0') := by
  intro c hc
  rw [List.eq_of_mem_replicate hc]
  rfl

/-! ### Printing -/

theorem allDigits_print (n : Nat) : AllDigits (print n) :=
  fun _ hc => Nat.isDigit_of_mem_toDigits (by decide) (by decide) hc

theorem print_ne_nil (n : Nat) : print n ≠ [] :=
  Nat.toDigits_ne_nil

theorem value_eq_ofDigitChars (ds : List Char) : value ds = Nat.ofDigitChars 10 ds 0 := rfl

theorem value_print (n : Nat) : value (print n) = n :=
  Nat.ofDigitChars_ten_toDigits

theorem length_print_le_iff {n k : Nat} (hk : 0 < k) : (print n).length ≤ k ↔ n < 10 ^ k :=
  Nat.length_toDigits_le_iff (by decide) hk

theorem le_of_length_print {n k : Nat} (hn : 0 < n) (h : k < (print n).length) : 10 ^ k ≤ n := by
  rcases Nat.eq_zero_or_pos k with rfl | hk
  · exact hn
  · exact Nat.le_of_not_lt fun hlt => absurd ((length_print_le_iff hk).mpr hlt) (by omega)

theorem lt_of_length_print (n : Nat) : n < 10 ^ (print n).length :=
  (length_print_le_iff (List.length_pos_iff.mpr (print_ne_nil n))).mp le_rfl

/-- A positive number is printed without leading zeros. -/
theorem head?_print {n : Nat} (hn : 0 < n) : (print n).head? ≠ some '0' := by
  induction n using Nat.strong_induction_on with
  | _ n ih =>
    rw [print, Nat.toDigits_eq_if (by decide)]
    split
    · rename_i hlt
      have hall : ∀ k < 10, 0 < k → [Nat.digitChar k].head? ≠ some '0' := by decide
      exact hall n hlt hn
    · rename_i hge
      have hhead := ih (n / 10) (by omega) (by omega)
      obtain ⟨c, cs, hcs⟩ := List.exists_cons_of_ne_nil (print_ne_nil (n / 10))
      rw [print] at hcs hhead
      rw [hcs] at hhead ⊢
      exact hhead

/-! ### Place value -/

theorem value_append (ds es : List Char) :
    value (ds ++ es) = 10 ^ es.length * value ds + value es := by
  rw [value_eq_ofDigitChars, Nat.ofDigitChars_append, Nat.ofDigitChars_eq_ofDigitChars_zero]
  rfl

theorem value_cons (c : Char) (ds : List Char) :
    value (c :: ds) = 10 ^ ds.length * digitValue c + value ds := by
  rw [← List.singleton_append, value_append]
  simp [value]

theorem value_replicate_zero (n : Nat) : value (List.replicate n '0') = 0 := by
  simp [value_eq_ofDigitChars]

theorem digitValue_lt {c : Char} (hc : c.isDigit) : digitValue c < 10 := by
  have hle : c.toNat ≤ '9'.toNat := (Char.isDigit_iff_toNat.mp hc).2
  have hnine : '9'.toNat = '0'.toNat + 9 := rfl
  rw [digitValue]
  omega

theorem value_lt {ds : List Char} (h : AllDigits ds) : value ds < 10 ^ ds.length := by
  induction ds with
  | nil => simp [value]
  | cons c ds ih =>
    have hc : digitValue c < 10 := digitValue_lt (h c List.mem_cons_self)
    have htail := ih fun x hx => h x (List.mem_cons_of_mem c hx)
    calc
      value (c :: ds) = 10 ^ ds.length * digitValue c + value ds := value_cons c ds
      _ < 10 ^ ds.length * digitValue c + 10 ^ ds.length := by omega
      _ = 10 ^ ds.length * (digitValue c + 1) := by ring
      _ ≤ 10 ^ ds.length * 10 := Nat.mul_le_mul_left _ hc
      _ = 10 ^ (c :: ds).length := by simp [pow_succ]

/-! ### The end of a row of digits -/

theorem leadingDigits_eq_nil {rest : List Char} (h : EndsDigits rest) :
    leadingDigits rest = [] := by
  cases rest with
  | nil => rfl
  | cons c rest => simp [leadingDigits, h c rfl]

theorem leadingDigits_append {ds rest : List Char} (hds : AllDigits ds) (hrest : EndsDigits rest) :
    leadingDigits (ds ++ rest) = ds := by
  have hnil : rest.takeWhile Char.isDigit = [] := leadingDigits_eq_nil hrest
  rw [leadingDigits, List.takeWhile_append_of_pos hds, hnil, List.append_nil]

theorem afterDigits_append {ds rest : List Char} (hds : AllDigits ds) (hrest : EndsDigits rest) :
    afterDigits (ds ++ rest) = rest := by
  rw [afterDigits, List.dropWhile_append_of_pos hds]
  cases rest with
  | nil => rfl
  | cons c rest => simp [hrest c rfl]

/-! ### Numbers of 32 bits -/

/-- The text is a whole number from 1 to the largest that 32 bits hold, with a plus sign or
without. -/
def WritesCount (cs : List Char) (n : Nat) : Prop :=
  ∃ ds, (cs = ds ∨ cs = '+' :: ds) ∧ isDigits ds ∧ value ds = n ∧ 1 ≤ n ∧ n ≤ maxWord

theorem WritesCount.bounds {cs : List Char} {n : Nat} (h : WritesCount cs n) :
    1 ≤ n ∧ n ≤ maxWord := by
  obtain ⟨_, -, -, -, hbounds⟩ := h
  exact hbounds

/-- A sign is no digit. -/
theorem not_isDigits_plus (cs : List Char) : ¬ isDigits ('+' :: cs) := by
  simp [isDigits]

/-- A row of digits is read if the number has the right size. -/
theorem readDigits_eq_some_iff {ds : List Char} {n : Nat} :
    (if isDigits ds && 1 ≤ value ds && value ds ≤ maxWord then some (value ds) else none) =
      some n ↔ isDigits ds ∧ value ds = n ∧ 1 ≤ n ∧ n ≤ maxWord := by
  simp only [Option.ite_none_right_eq_some, Bool.and_eq_true, decide_eq_true_eq, Option.some.injEq]
  constructor
  · rintro ⟨⟨⟨hdigits, hpos⟩, hle⟩, rfl⟩
    exact ⟨hdigits, rfl, hpos, hle⟩
  · rintro ⟨hdigits, rfl, hpos, hle⟩
    exact ⟨⟨⟨hdigits, hpos⟩, hle⟩, rfl⟩

theorem readPositive?_eq_some_iff {cs : List Char} {n : Nat} :
    readPositive? cs = some n ↔ WritesCount cs n := by
  by_cases hplus : ∃ rest, cs = '+' :: rest
  · obtain ⟨rest, rfl⟩ := hplus
    refine readDigits_eq_some_iff.trans ⟨fun h => ⟨rest, .inr rfl, h⟩, ?_⟩
    rintro ⟨ds, rfl | hds, h⟩
    · exact absurd h.1 (not_isDigits_plus rest)
    · obtain rfl := (List.cons.inj hds).2
      exact h
  · rw [readPositive?, readDigits_eq_some_iff]
    · refine ⟨fun h => ⟨cs, .inl rfl, h⟩, ?_⟩
      rintro ⟨ds, rfl | hds, h⟩
      · exact h
      · exact absurd ⟨ds, hds⟩ hplus
    · exact fun rest hrest => hplus ⟨rest, hrest⟩

/-- A number of the right size is read back. -/
theorem readPositive?_print {n : Nat} (hpos : 1 ≤ n) (hn : n ≤ maxWord) :
    readPositive? (print n) = some n := by
  have hdigits : isDigits (print n) := by
    simpa [AllDigits, isDigits, print_ne_nil] using allDigits_print n
  exact readPositive?_eq_some_iff.mpr ⟨print n, .inl rfl, hdigits, value_print n, hpos, hn⟩

end CatalogFilter.Numeral
