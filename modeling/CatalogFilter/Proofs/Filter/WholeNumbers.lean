import CatalogFilter.Json.Printer
import CatalogFilter.Proofs.Condition.Accepted
import CatalogFilter.Proofs.Number.Literals
import CatalogFilter.Proofs.Number.Representable

/-!
# Whole numbers in queries

An integer has many spellings as a decimal literal: with a plus sign, with leading zeros, with a
point and zeros behind it, with digits and a power of ten that make up for each other. On the way
into a query all of them pass through a floating point number. Below `2 ^ 53` they come out as one
text, the numeral of the integer.

* `Decimal.Literal.value`: the exact value of a literal, by its derivation.
* `Numeral.Canonical`: the numeral of an integer.
* `Filter.compile_whole_number`: a condition on a number of items, from the literal to the query.
-/

namespace CatalogFilter

/-! ### Numerals -/

namespace Numeral

/-- The text is the numeral of an integer: its digits without leading zeros, behind a minus sign if
the integer is negative. -/
def Canonical (n : Int) (cs : List Char) : Prop :=
  ∃ ds, cs = (if n < 0 then '-' :: ds else ds) ∧ ds ≠ [] ∧ AllDigits ds ∧
    (ds.head? = some '0' → ds = ['0']) ∧ value ds = n.natAbs

theorem head?_print_eq_zero {n : Nat} (h : (print n).head? = some '0') : print n = ['0'] := by
  rcases Nat.eq_zero_or_pos n with rfl | hpos
  · rfl
  · exact absurd h (head?_print hpos)

theorem canonical_printInt (n : Int) : Canonical n (printInt n) := by
  cases n with
  | ofNat n =>
    refine ⟨print n, ?_, print_ne_nil n, allDigits_print n, head?_print_eq_zero, value_print n⟩
    exact (if_neg (Int.not_lt.mpr (Int.natCast_nonneg n))).symm
  | negSucc n =>
    refine ⟨print (n + 1), ?_, print_ne_nil _, allDigits_print _, head?_print_eq_zero,
      value_print _⟩
    exact (if_pos (Int.negSucc_lt_zero n)).symm

end Numeral

/-! ### Values of literals -/

namespace Decimal

/-- The number that the digits around a point denote. -/
def Mantissa.value (m : Mantissa) : ℚ :=
  Numeral.value m.wholeDigits + Numeral.value m.fractionDigits / 10 ^ m.fractionDigits.length

namespace Literal

/-- The exact value of a literal. -/
def value (l : Literal) : ℚ :=
  (if l.sign = some .minus then -1 else 1) * l.mantissa.value *
    10 ^ l.exponent.elim 0 Exponent.value

/-- The decimal that is read has the value of the literal. -/
theorem value_eq (l : Literal) :
    l.value = (if l.decimal.negative then -1 else 1) * l.decimal.magnitude := by
  have hsign : l.decimal.negative = true ↔ l.sign = some .minus := by
    simp [decimal]
  have hmagnitude : l.decimal.magnitude =
      l.mantissa.value * 10 ^ l.exponent.elim 0 Exponent.value := by
    rw [magnitude, decimal, Numeral.value_append, zpow_sub₀ (by norm_num), zpow_natCast,
      Mantissa.value]
    push_cast
    field_simp
  simp only [value, hsign, hmagnitude, mul_assoc]

/-- A literal with a whole value below `2 ^ 53` is read as a number that is this integer. -/
theorem exists_readNumber? (l : Literal) {n : Int} (hvalue : l.value = n)
    (hn : n.natAbs < Scalar.integerBound) :
    ∃ x, Scalar.readNumber? (.ofList l.text) = some x ∧ x.toInt? = some n := by
  have hmagnitude : l.decimal.magnitude = n.natAbs := by
    have hnonneg : 0 ≤ l.decimal.magnitude := by
      unfold magnitude
      positivity
    have habs := congrArg abs (l.value_eq.symm.trans hvalue)
    rw [abs_mul, abs_of_nonneg hnonneg] at habs
    rw [Nat.cast_natAbs, Int.cast_abs, ← habs]
    split <;> simp
  generalize n.natAbs = m at hn hmagnitude
  have hsign : (if l.decimal.negative then -(m : Int) else m) = n := by
    have hcast := l.value_eq.symm.trans hvalue
    rw [hmagnitude] at hcast
    cases hneg : l.decimal.negative with
    | true =>
      rw [hneg, if_pos rfl, neg_one_mul] at hcast
      exact_mod_cast hcast
    | false =>
      rw [hneg, if_neg Bool.false_ne_true, one_mul] at hcast
      exact_mod_cast hcast
  obtain ⟨x, hx, hxn⟩ := Binary64.exists_magnitude_eq hn
  have hread : l.decimal.toBinary64 = { x with negative := l.decimal.negative } :=
    toBinary64_of_magnitude_eq hx (hmagnitude.trans hxn.symm)
  have hfinite : l.decimal.toBinary64.isFinite := by
    rw [hread]
    exact hx
  refine ⟨l.decimal.toBinary64, ?_, ?_⟩
  · rw [Scalar.readNumber?, String.toList_ofList, read?_text, Option.map_some, Option.filter_some,
      if_pos hfinite]
  · rw [hread] at hfinite ⊢
    rw [Binary64.toInt?_of_magnitude_eq hfinite hxn]
    exact congrArg some hsign

end Literal

end Decimal

namespace Scalar

theorem compact_numberToJson {x : Binary64} {n : Int} (hx : x.toInt? = some n)
    (hn : n.natAbs < integerBound) :
    (toJson (.number x)).compact = .ofList (Numeral.printInt n) := by
  rw [toJson, numberToJson, hx]
  simp only [hn, ↓reduceIte]
  rfl

end Scalar

namespace Filter

/-- **Whole numbers reach the query exactly.** However an integer below `2 ^ 53` is spelled as a
literal, a condition that compares the number of items in stock with it is compiled, and the value
is written as the numeral of the integer. -/
theorem compile_whole_number (l : Decimal.Literal) {n : Int} (hvalue : l.value = n)
    (hn : |n| < 2 ^ 53) (op : Operator) (source : String) :
    ∃ v, compile [⟨"stock_quantity", op, .ofList l.text, source⟩] =
        .ok ⟨[.direct ⟨"stock_quantity", .ofOperator op v⟩]⟩ ∧
      Numeral.Canonical n v.toJson.compact.toList := by
  have hbound : n.natAbs < Scalar.integerBound := by
    rw [Int.abs_eq_natAbs] at hn
    exact_mod_cast hn
  obtain ⟨x, hread, hx⟩ := l.exists_readNumber? hvalue hbound
  refine ⟨.number x, compile_eq_ok_iff.mpr ⟨List.cons_ne_nil _ _, [_], .cons ?_ .nil, rfl⟩, ?_⟩
  · have hkind : Catalog.kindOf "stock_quantity" = .number := rfl
    rw [Condition.clause_eq_ok_iff]
    refine ⟨(by decide : "stock_quantity" ∈ Catalog.selectableNames), rfl, .number x, ?_, rfl⟩
    rw [Scalar.coerce, hkind, Scalar.ofText, hread]
  · rw [Scalar.compact_numberToJson hx hbound, String.toList_ofList]
    exact Numeral.canonical_printInt n

/-- The integer `-9` by digits behind a point and a power of ten that makes up for them. -/
theorem compile_whole_number_shifted :
    ∃ v, compile [.ofParts "stock_quantity" .atLeast "-0.00090E+4"] =
        .ok ⟨[.direct ⟨"stock_quantity", .ofOperator .atLeast v⟩]⟩ ∧
      Numeral.Canonical (-9) v.toJson.compact.toList := by
  let l : Decimal.Literal :=
    { sign := some .minus
      mantissa := .pointed ⟨['0'], List.cons_ne_nil _ _, List.all_eq_true.mp rfl⟩
        (some ⟨"00090".toList, List.cons_ne_nil _ _, List.all_eq_true.mp rfl⟩)
      exponent := some ⟨'E', .inr rfl, some .plus,
        ⟨['4'], List.cons_ne_nil _ _, List.all_eq_true.mp rfl⟩⟩ }
  have hvalue : l.value = (-9 : Int) := by
    have hwhole : Numeral.value l.mantissa.wholeDigits = 0 := rfl
    have hfraction : Numeral.value l.mantissa.fractionDigits = 90 := rfl
    have hlength : l.mantissa.fractionDigits.length = 5 := rfl
    have hexponent : l.exponent.elim 0 Decimal.Exponent.value = 4 := rfl
    rw [Decimal.Literal.value, Decimal.Mantissa.value, hwhole, hfraction, hlength, hexponent,
      if_pos rfl]
    norm_num
  exact compile_whole_number l hvalue (by norm_num) .atLeast _

end Filter

end CatalogFilter
