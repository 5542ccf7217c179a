import CatalogFilter.Number.Shortest
import CatalogFilter.Proofs.Number.Numerals
import CatalogFilter.Proofs.Number.Rounding
import Mathlib.Data.Nat.Cast.Order.Field

/-!
# The shortest decimal lies within its interval

The digits found for a finite number are digits of a natural number with at most seventeen places,
without zeros at either end, and the decimal they denote lies between the midpoints to the
neighbours of the number. In particular it is never above the bound from which on numbers round to
infinity.

* `Shortest.contains_bounds`: a decimal in an interval lies between its ends.
* `Shortest.search_cases`: what the search can return.
* `Shortest.Digits.WellFormed`, `Shortest.wellFormed_digits`: the digits of every number.
* `Shortest.coefficient_digits_le`, `Shortest.decimal_digits_le`: the size of the decimal.
-/

namespace CatalogFilter.Shortest

open Numeral

/-! ### Intervals -/

theorem div_zpow_of_nonneg (k : Nat) {places : Int} (h : 0 ≤ places) :
    (k / 10 ^ places : ℚ) = k / tenPow places.toNat := by
  rw [cast_tenPow, ← zpow_natCast, Int.toNat_of_nonneg h]

theorem div_zpow_of_neg (k : Nat) {places : Int} (h : ¬ 0 ≤ places) :
    (k / 10 ^ places : ℚ) = (k * tenPow (-places).toNat : Nat) / (1 : Nat) := by
  rw [Nat.cast_mul, cast_tenPow, ← zpow_natCast, Int.toNat_of_nonneg (by omega), zpow_neg,
    Nat.cast_one, div_one, div_eq_mul_inv]

/-- A decimal in an interval lies between its ends. -/
theorem contains_bounds {i : Interval} (hden : 0 < i.den) {places : Int} {k : Nat}
    (h : i.contains places k) :
    (i.low / i.den : ℚ) ≤ k / 10 ^ places ∧ (k / 10 ^ places : ℚ) ≤ i.high / i.den := by
  -- The decimal as a quotient of natural numbers, which the interval is compared with.
  obtain ⟨num, den, hpos, hquotient, hlow, hhigh⟩ : ∃ num den : Nat, 0 < den ∧
      (k / 10 ^ places : ℚ) = num / den ∧ i.low * den ≤ num * i.den ∧
      num * i.den ≤ i.high * den := by
    unfold Interval.contains at h
    split at h
    rename_i num den heq
    have hcompare : i.low * den ≤ num * i.den ∧ num * i.den ≤ i.high * den := by
      dsimp only at h
      split at h
      · simpa using h
      · exact (by simpa using h : i.low * den < num * i.den ∧ num * i.den < i.high * den).imp
          le_of_lt le_of_lt
    refine ⟨num, den, ?_, ?_, hcompare⟩
    · split at heq <;> cases heq
      · exact tenPow_pos _
      · exact Nat.one_pos
    · split at heq <;> cases heq
      · exact div_zpow_of_nonneg k ‹_›
      · exact div_zpow_of_neg k ‹_›
  have hi : (0 : ℚ) < i.den := mod_cast hden
  have hd : (0 : ℚ) < den := mod_cast hpos
  rw [hquotient, div_le_div_iff₀ hi hd, div_le_div_iff₀ hd hi]
  exact ⟨mod_cast hlow, mod_cast hhigh⟩

/-- The point of a grid that is chosen is in the interval, and it is one of the two points around
the magnitude. -/
theorem nearest?_spec {i : Interval} {places : Int} {k : Nat} (h : i.nearest? places = some k) :
    i.contains places k ∧
      ∃ down : Nat, (down : ℚ) ≤ i.mid / i.den * 10 ^ places ∧ k ≤ down + 1 := by
  unfold Interval.nearest? at h
  split at h
  rename_i num den heq
  dsimp only at h
  have hquotient : (num / den : ℚ) = i.mid / i.den * 10 ^ places := by
    split at heq <;> cases heq
    · rename_i hp
      rw [Nat.cast_mul, cast_tenPow, ← zpow_natCast, Int.toNat_of_nonneg hp, mul_div_right_comm]
    · rename_i hp
      rw [Nat.cast_mul, cast_tenPow, ← zpow_natCast, Int.toNat_of_nonneg (by omega), zpow_neg]
      field_simp
  have hdown : ((num / den : Nat) : ℚ) ≤ i.mid / i.den * 10 ^ places := by
    rw [← hquotient]
    exact Nat.cast_div_le
  split at h <;> cases h
  · rename_i hlow hhigh
    rcases Binary64.roundHalfEven_cases num den with ⟨hr, -⟩ | ⟨hr, -⟩
    · exact ⟨hr ▸ hlow, num / den, hdown, by omega⟩
    · exact ⟨hr ▸ hhigh, num / den, hdown, by omega⟩
  · rename_i hlow hhigh
    exact ⟨hlow, num / den, hdown, by omega⟩
  · rename_i hlow hhigh
    exact ⟨hhigh, num / den, hdown, by omega⟩

/-- The leading exponent of a quotient bounds the quotient. -/
theorem lt_leadingExponent {num den : Nat} (hnum : 0 < num) (hden : 0 < den) :
    (num / den : ℚ) < 10 ^ (leadingExponent num den + 1) := by
  have hd : (0 : ℚ) < den := mod_cast hden
  unfold leadingExponent
  split
  · rename_i hle
    have hlt : num < 10 ^ (print (num / den)).length * den :=
      (Nat.div_lt_iff_lt_mul hden).mp (lt_of_length_print _)
    rw [sub_add_cancel, zpow_natCast, div_lt_iff₀ hd]
    exact_mod_cast hlt
  · rename_i hlt
    have hpos : 0 < (print (den / num)).length := List.length_pos_iff.mpr (print_ne_nil _)
    have hquotient : 0 < den / num := Nat.div_pos (by omega) hnum
    have hge : 10 ^ ((print (den / num)).length - 1) * num ≤ den :=
      (Nat.le_div_iff_mul_le hnum).mp (le_of_length_print hquotient (by omega))
    generalize (print (den / num)).length = k at hpos hge
    obtain ⟨j, rfl⟩ : ∃ j, k = j + 1 := ⟨k - 1, by omega⟩
    have hten : (0 : ℚ) < 10 ^ j := by positivity
    dsimp only
    rw [Nat.add_sub_cancel] at hge ⊢
    split
    · have hle : (num / den : ℚ) ≤ 10 ^ (-(j : Int)) := by
        rw [zpow_neg, zpow_natCast, div_le_iff₀ hd, le_inv_mul_iff₀ hten]
        exact_mod_cast hge
      refine hle.trans_lt (zpow_lt_zpow_right₀ (by norm_num) ?_)
      omega
    · rename_i hgt
      rw [show -((j + 1 : Nat) : Int) + 1 = -(j : Int) by omega, zpow_neg, zpow_natCast,
        div_lt_iff₀ hd, lt_inv_mul_iff₀ hten, ← cast_tenPow, mul_comm]
      exact_mod_cast Nat.lt_of_not_le hgt

/-! ### The search -/

/-- The search ends at a grid with a point in the interval, or it finds none. -/
theorem search_cases (i : Interval) (exponent : Int) (fuel count : Nat) :
    search i exponent fuel count = ⟨['0'], 0⟩ ∨
      ∃ c k, count ≤ c ∧ c < count + fuel ∧ i.nearest? ((c : Int) - 1 - exponent) = some k ∧
        search i exponent fuel count =
          ⟨stripZeros (print k), exponent + ((print k).length - c)⟩ := by
  induction fuel generalizing count with
  | zero => exact .inl rfl
  | succ fuel ih =>
    rw [search]
    dsimp only
    cases hnearest : i.nearest? ((count : Int) - 1 - exponent) with
    | some k => exact .inr ⟨count, k, le_rfl, by omega, hnearest, rfl⟩
    | none =>
      rcases ih (count + 1) with hzero | ⟨c, k, hcount, hfuel, hk, hsearch⟩
      · exact .inl hzero
      · exact .inr ⟨c, k, by omega, by omega, hk, hsearch⟩

/-- Only zeros are taken from the end of a row of digits. -/
theorem exists_append_stripZeros (ds : List Char) :
    ∃ z, ds = stripZeros ds ++ List.replicate z '0' := by
  have hzeros : (ds.reverse.takeWhile (· == '0')).reverse =
      List.replicate (ds.reverse.takeWhile (· == '0')).length '0' := by
    rw [List.eq_replicate_iff]
    refine ⟨List.length_reverse, fun c hc => ?_⟩
    simpa using List.mem_takeWhile_imp (List.mem_reverse.mp hc)
  refine ⟨(ds.reverse.takeWhile (· == '0')).length, ?_⟩
  rw [stripZeros, ← hzeros, ← List.reverse_append, List.takeWhile_append_dropWhile,
    List.reverse_reverse]


theorem intervalOf_den_pos (x : Binary64) : 0 < (intervalOf x).den :=
  Binary64.ratioOf_den_pos 1 (x.scale - 2)

theorem intervalOf_high_div (x : Binary64) :
    ((intervalOf x).high / (intervalOf x).den : ℚ) =
      (4 * x.significand + 2) * 2 ^ (x.scale - 2) := by
  have hunit := Binary64.ratioOf_div 1 (x.scale - 2)
  rw [intervalOf]
  dsimp only
  rw [Nat.cast_mul, mul_div_assoc, hunit]
  push_cast
  ring

theorem intervalOf_low_pos {x : Binary64} (h : x.significand ≠ 0) : 0 < (intervalOf x).low := by
  have hunit : 0 < (Binary64.ratioOf 1 (x.scale - 2)).1 := by
    unfold Binary64.ratioOf
    split
    · exact Nat.mul_pos Nat.one_pos (twoPow_pos _)
    · exact Nat.one_pos
  rw [intervalOf]
  refine Nat.mul_pos ?_ hunit
  split <;> omega

theorem intervalOf_low_le_mid (x : Binary64) : (intervalOf x).low ≤ (intervalOf x).mid :=
  Nat.mul_le_mul_right _ (Nat.sub_le _ _)

/-- The digits of a number other than zero are those of a positive number on a decimal grid, within
its interval. -/
theorem digits_cases (x : Binary64) :
    digits x = ⟨['0'], 0⟩ ∨ ∃ k places, (intervalOf x).contains places k ∧ 0 < k ∧ k ≤ 10 ^ 17 ∧
      digits x = ⟨stripZeros (print k), (print k).length - 1 - places⟩ := by
  unfold digits
  split
  · exact .inl rfl
  · rename_i hzero
    have hsignificand : x.significand ≠ 0 := fun h => hzero (by rw [Binary64.isZero, h]; rfl)
    have hden := intervalOf_den_pos x
    have hlow := intervalOf_low_pos hsignificand
    have hmid := hlow.trans_le (intervalOf_low_le_mid x)
    dsimp only
    generalize hexp : leadingExponent (intervalOf x).mid (intervalOf x).den = exponent
    rcases search_cases (intervalOf x) exponent 17 1 with hnone | ⟨c, k, -, hc, hk, hsearch⟩
    · exact .inl hnone
    · obtain ⟨hcontains, down, hdown, hle⟩ := nearest?_spec hk
      have hlead := lt_leadingExponent hmid hden
      rw [hexp] at hlead
      refine .inr ⟨k, _, hcontains, ?_, ?_, ?_⟩
      · have hend : (0 : ℚ) < (intervalOf x).low / (intervalOf x).den :=
          div_pos (mod_cast hlow) (mod_cast hden)
        have hpos := hend.trans_le (contains_bounds hden hcontains).1
        refine Nat.pos_of_ne_zero fun hk => ?_
        rw [hk, Nat.cast_zero, zero_div] at hpos
        exact hpos.false
      · have hlt : (down : ℚ) < (10 ^ c : Nat) := by
          calc (down : ℚ) ≤ (intervalOf x).mid / (intervalOf x).den *
                10 ^ ((c : Int) - 1 - exponent) := hdown
            _ < 10 ^ (exponent + 1) * 10 ^ ((c : Int) - 1 - exponent) := by gcongr
            _ = (10 ^ c : Nat) := by
                rw [← zpow_add₀ (by norm_num), Nat.cast_pow, ← zpow_natCast]
                congr 1
                omega
        have hgrid : (10 : Nat) ^ c ≤ 10 ^ 17 := Nat.pow_le_pow_right (by norm_num) (by omega)
        have : down < 10 ^ c := mod_cast hlt
        omega
      · rw [hsearch]
        congr 1
        omega

/-! ### Digits and decimals -/

namespace Digits

/-- The digits are those of a natural number, without zeros in front. -/
structure WellFormed (d : Digits) : Prop where
  /-- There are digits. -/
  ne_nil : d.digits ≠ []
  /-- There is nothing but digits. -/
  allDigits : AllDigits d.digits
  /-- Only zero itself starts with a zero. -/
  zero : d.digits.head? = some '0' → d = ⟨['0'], 0⟩

/-- The digits, read as one number. -/
def coefficient (d : Digits) : Nat :=
  value d.digits

/-- The power of ten of the last digit. -/
def lastExponent (d : Digits) : Int :=
  d.exponent + 1 - d.digits.length

end Digits

theorem stripZeros_subset (ds : List Char) : stripZeros ds ⊆ ds :=
  fun _ hc => List.mem_reverse.mp (List.dropWhile_subset _ (List.mem_reverse.mp hc))

theorem head?_stripZeros {ds : List Char} (h : ds.head? ≠ some '0') :
    (stripZeros ds).head? = ds.head? := by
  obtain ⟨z, hz⟩ := exists_append_stripZeros ds
  have hhead := congrArg List.head? hz
  cases hstrip : stripZeros ds with
  | cons c cs =>
    rw [hstrip] at hhead
    exact hhead.symm
  | nil =>
    rw [hstrip, List.nil_append] at hhead
    cases z with
    | zero => exact hhead.symm
    | succ z => exact absurd hhead h

/-- Zeros at the end of the digits of a number are a power of ten in it. -/
theorem exists_eq_mul_value_stripZeros (k : Nat) :
    ∃ z, k = 10 ^ z * value (stripZeros (print k)) ∧
      (print k).length = (stripZeros (print k)).length + z := by
  obtain ⟨z, hz⟩ := exists_append_stripZeros (print k)
  have hvalue := congrArg value hz
  have hlength := congrArg List.length hz
  rw [value_print, value_append, value_replicate_zero, List.length_replicate, Nat.add_zero]
    at hvalue
  rw [List.length_append, List.length_replicate] at hlength
  exact ⟨z, hvalue, hlength⟩

/-- Every number has well-formed digits. -/
theorem wellFormed_digits (x : Binary64) : (digits x).WellFormed := by
  rcases digits_cases x with hzero | ⟨k, places, -, hk, -, hdigits⟩
  · rw [hzero]
    exact ⟨by simp, by simp [AllDigits], fun _ => rfl⟩
  · have hhead : (stripZeros (print k)).head? ≠ some '0' := by
      rw [head?_stripZeros (head?_print hk)]
      exact head?_print hk
    have hne : stripZeros (print k) ≠ [] := by
      rw [ne_eq, ← List.head?_eq_none_iff, head?_stripZeros (head?_print hk),
        List.head?_eq_none_iff]
      exact print_ne_nil k
    rw [hdigits]
    exact ⟨hne, (allDigits_print k).of_subset (stripZeros_subset _), fun h => absurd h hhead⟩

/-- The digits of a number, read as one number, are not above `10 ^ 17`. -/
theorem coefficient_digits_le (x : Binary64) : (digits x).coefficient ≤ 10 ^ 17 := by
  rcases digits_cases x with hzero | ⟨k, places, -, -, hle, hdigits⟩
  · rw [hzero]
    exact Nat.zero_le _
  · obtain ⟨z, hz, -⟩ := exists_eq_mul_value_stripZeros k
    calc (digits x).coefficient = value (stripZeros (print k)) := by rw [hdigits]; rfl
      _ ≤ 10 ^ z * value (stripZeros (print k)) := Nat.le_mul_of_pos_left _ (by positivity)
      _ = k := hz.symm
      _ ≤ 10 ^ 17 := hle

/-- The decimal of a number is not above the midpoint to its upper neighbour. -/
theorem decimal_digits_le (x : Binary64) :
    ((digits x).coefficient * 10 ^ (digits x).lastExponent : ℚ) ≤
      (4 * x.significand + 2) * 2 ^ (x.scale - 2) := by
  rcases digits_cases x with hzero | ⟨k, places, hcontains, -, -, hdigits⟩
  · have hcoefficient : (digits x).coefficient = 0 := by
      rw [hzero]
      rfl
    rw [hcoefficient, Nat.cast_zero, zero_mul]
    positivity
  · obtain ⟨z, hz, hlength⟩ := exists_eq_mul_value_stripZeros k
    have hlast : (digits x).lastExponent = z - places := by
      rw [hdigits, Digits.lastExponent]
      dsimp only
      omega
    have hcoefficient : (digits x).coefficient = value (stripZeros (print k)) := by
      rw [hdigits]
      rfl
    calc ((digits x).coefficient * 10 ^ (digits x).lastExponent : ℚ)
        = k / 10 ^ places := by
          rw [hlast, hcoefficient, zpow_sub₀ (by norm_num), zpow_natCast]
          nth_rewrite 2 [hz]
          push_cast
          ring
      _ ≤ (intervalOf x).high / (intervalOf x).den :=
          (contains_bounds (intervalOf_den_pos x) hcontains).2
      _ = _ := intervalOf_high_div x

/-! ### The largest decimals -/

/-- The least magnitude that is rounded to infinity, halfway between the largest finite number and
the next power of two. -/
def overflowBound : Nat :=
  (4 * (2 * fractionCount - 1) + 2) * twoPow 969

theorem decimal_digits_le_of_bounds {x : Binary64} {m k : Nat} (hm : x.significand ≤ m)
    (hk : x.scale - 2 ≤ k) (hlast : 0 ≤ (digits x).lastExponent) :
    (digits x).coefficient * tenPow (digits x).lastExponent.toNat ≤ (4 * m + 2) * twoPow k := by
  have hdecimal := decimal_digits_le x
  have hpow : (2 : ℚ) ^ (x.scale - 2) ≤ 2 ^ (k : Int) := zpow_le_zpow_right₀ (by norm_num) hk
  have hcast : (x.significand : ℚ) ≤ m := mod_cast hm
  have hbound : ((digits x).coefficient * 10 ^ (digits x).lastExponent : ℚ) ≤
      (4 * m + 2) * 2 ^ (k : Int) := hdecimal.trans (by gcongr)
  rw [← Int.toNat_of_nonneg hlast, zpow_natCast, zpow_natCast, ← cast_tenPow, ← cast_twoPow]
    at hbound
  exact_mod_cast hbound

theorem scale_le_of_isFinite {x : Binary64} (hx : x.isFinite) : x.scale ≤ 971 := by
  have : x.exponent.val < 2047 := by simpa [Binary64.isFinite] using hx
  unfold Binary64.scale
  omega

/-- The decimal of a finite number is not above the bound of the finite numbers. -/
theorem decimal_digits_le_overflowBound {x : Binary64} (hx : x.isFinite)
    (hlast : 0 ≤ (digits x).lastExponent) :
    (digits x).coefficient * tenPow (digits x).lastExponent.toNat ≤ overflowBound := by
  have hscale := scale_le_of_isFinite hx
  have hsignificand := Binary64.significand_lt x
  exact decimal_digits_le_of_bounds (by omega) (by omega) hlast

/-- The largest finite number has one decimal less than the bound of the finite numbers allows. -/
theorem coefficient_digits_largest (negative : Bool) :
    (digits ⟨negative, 2046, ⟨fractionCount - 1, by decide⟩⟩).coefficient = 17976931348623157 := by
  cases negative <;> decide +kernel

theorem eq_largest {x : Binary64} (hscale : x.scale = 971)
    (hsignificand : x.significand = 2 * fractionCount - 1) :
    x = ⟨x.negative, 2046, ⟨fractionCount - 1, by decide⟩⟩ := by
  have hexponent : x.exponent.val = 2046 := by
    unfold Binary64.scale at hscale
    omega
  have hfraction : x.fraction.val = fractionCount - 1 := by
    rw [Binary64.significand, if_neg (by omega)] at hsignificand
    omega
  obtain ⟨negative, exponent, fraction⟩ := x
  rw [Binary64.mk.injEq]
  exact ⟨rfl, Fin.ext hexponent, Fin.ext hfraction⟩

/-- Of the decimals with seventeen digits below the bound of the finite numbers, the last one is
nobody's: it lies within the interval of the largest number, but another one is nearer. -/
theorem digits_ne_last {x : Binary64} (hx : x.isFinite) (hlast : (digits x).lastExponent = 292) :
    (digits x).coefficient ≠ 17976931348623158 := by
  intro hcoefficient
  have hsignificand := Binary64.significand_lt x
  have hscale := scale_le_of_isFinite hx
  have hdecimal {m k : Nat} (hm : x.significand ≤ m) (hk : x.scale - 2 ≤ k) :
      17976931348623158 * tenPow 292 ≤ (4 * m + 2) * twoPow k := by
    have hplace : (digits x).lastExponent.toNat = 292 := by omega
    have hbound := decimal_digits_le_of_bounds hm hk (by omega)
    rwa [hcoefficient, hplace] at hbound
  have htop : x.scale = 971 := by
    by_contra hne
    exact absurd (hdecimal (k := 968) (by omega : x.significand ≤ 2 * fractionCount - 1) (by omega))
      (by decide +kernel)
  have hfull : x.significand = 2 * fractionCount - 1 := by
    by_contra hne
    exact absurd (hdecimal (k := 969) (by omega : x.significand ≤ 2 * fractionCount - 2) (by omega))
      (by decide +kernel)
  rw [eq_largest htop hfull, coefficient_digits_largest] at hcoefficient
  omega

end CatalogFilter.Shortest
