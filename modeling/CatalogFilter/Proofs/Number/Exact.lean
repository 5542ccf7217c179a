import CatalogFilter.Number.Binary64
import Mathlib.Algebra.Order.Field.Power
import Mathlib.Algebra.Order.Field.Rat
import Mathlib.Data.Nat.Cast.Field
import Mathlib.Data.Rat.Cast.Defs
import Mathlib.Tactic.Linarith
import Mathlib.Tactic.NormNum
import Mathlib.Tactic.Ring

/-!
# The exact value of a floating point number

A finite floating point number is a rational number. The two zeros are the same number. Without
their signs the numbers are ranked by their size, and the rank decides which numbers are finite.

* `Binary64.toRat`: the exact value.
* `Binary64.toRat_eq_of_toInt?`: a number that is found to be an integer is that integer.
* `Binary64.magnitude`, `Binary64.rank`: the value of a number without its sign, and its place
  among all magnitudes; `Binary64.magnitude_le_of_rank_le` compares them.
-/

namespace CatalogFilter

theorem cast_twoPow (k : Nat) : (twoPow k : ℚ) = 2 ^ k :=
  Nat.cast_pow 2 k

theorem cast_tenPow (k : Nat) : (tenPow k : ℚ) = 10 ^ k :=
  Nat.cast_pow 10 k

theorem twoPow_pos (k : Nat) : 0 < twoPow k :=
  Nat.pow_pos (by decide)

theorem tenPow_pos (k : Nat) : 0 < tenPow k :=
  Nat.pow_pos (by decide)

theorem tenPow_le_tenPow {k l : Nat} (h : k ≤ l) : tenPow k ≤ tenPow l :=
  Nat.pow_le_pow_right (by decide) h

namespace Binary64

/-! ### Values -/

/-- The exact value of a finite number. -/
def toRat (x : Binary64) : ℚ :=
  let magnitude : ℚ := x.ratio.1 / x.ratio.2
  if x.negative then -magnitude else magnitude

theorem toRat_eq_of_toInt? {x : Binary64} {n : Int} (h : x.toInt? = some n) : x.toRat = n := by
  simp only [toInt?, Option.ite_none_right_eq_some, Bool.and_eq_true, beq_iff_eq,
    Option.some.injEq] at h
  obtain ⟨⟨-, hmod⟩, rfl⟩ := h
  have hdiv : ((x.ratio.1 / x.ratio.2 : Nat) : ℚ) = x.ratio.1 / x.ratio.2 :=
    Nat.cast_div_charZero (Nat.dvd_of_mod_eq_zero hmod)
  cases hneg : x.negative with
  | false => simp only [toRat, hneg, Bool.false_eq_true, ↓reduceIte, Int.cast_natCast, hdiv]
  | true => simp only [toRat, hneg, ↓reduceIte, Int.cast_neg, Int.cast_natCast, hdiv]

/-! ### Magnitudes and their ranks -/

/-- The value of a finite number without its sign. -/
def magnitude (x : Binary64) : ℚ :=
  x.significand * 2 ^ x.scale

/-- The place of the magnitude among all magnitudes of the format. -/
def rank (x : Binary64) : Nat :=
  x.exponent.val * fractionCount + x.fraction.val

theorem ratioOf_den_pos (m : Nat) (q : Int) : 0 < (ratioOf m q).2 := by
  unfold ratioOf
  split
  · exact Nat.one_pos
  · exact twoPow_pos _

theorem ratioOf_div (m : Nat) (q : Int) :
    ((ratioOf m q).1 : ℚ) / (ratioOf m q).2 = m * 2 ^ q := by
  unfold ratioOf
  split
  · rename_i hq
    rw [Nat.cast_mul, cast_twoPow, Nat.cast_one, div_one, ← zpow_natCast, Int.toNat_of_nonneg hq]
  · rename_i hq
    rw [cast_twoPow, ← zpow_natCast, Int.toNat_of_nonneg (by omega), zpow_neg, div_inv_eq_mul]

theorem ratio_div (x : Binary64) : (x.ratio.1 : ℚ) / x.ratio.2 = x.magnitude :=
  ratioOf_div x.significand x.scale

theorem magnitude_nonneg (x : Binary64) : 0 ≤ x.magnitude := by
  unfold magnitude
  positivity

theorem significand_lt (x : Binary64) : x.significand < 2 * fractionCount := by
  have := x.fraction.isLt
  unfold significand
  split <;> omega

theorem fractionCount_le_significand {x : Binary64} (h : x.exponent.val ≠ 0) :
    fractionCount ≤ x.significand := by
  rw [significand, if_neg h]
  omega

theorem exponent_le_of_rank_le {x y : Binary64} (h : x.rank ≤ y.rank) :
    x.exponent.val ≤ y.exponent.val := by
  have hx := x.fraction.isLt
  have hy := y.fraction.isLt
  unfold rank at h
  unfold fractionCount at h hx hy
  omega

/-- A larger rank is a larger magnitude. -/
theorem magnitude_le_of_rank_le {x y : Binary64} (h : x.rank ≤ y.rank) :
    x.magnitude ≤ y.magnitude := by
  rcases (exponent_le_of_rank_le h).lt_or_eq with hlt | heq
  · have hnormal : fractionCount ≤ y.significand :=
      fractionCount_le_significand (by omega : y.exponent.val ≠ 0)
    by_cases hzero : x.exponent.val = 0
    · have hscale : x.scale ≤ y.scale := by
        unfold scale
        omega
      have hsmall : x.significand ≤ fractionCount := by
        rw [significand, if_pos hzero]
        exact x.fraction.isLt.le
      unfold magnitude
      gcongr
      · exact hsmall.trans hnormal
      · norm_num
    · have hscale : x.scale + 1 ≤ y.scale := by
        unfold scale
        omega
      have hsmall : (x.significand : ℚ) ≤ 2 * fractionCount :=
        mod_cast (significand_lt x).le
      calc x.magnitude ≤ 2 * fractionCount * 2 ^ x.scale := by
            unfold magnitude
            gcongr
        _ = fractionCount * 2 ^ (x.scale + 1) := by
            rw [zpow_add_one₀ (by norm_num)]
            ring
        _ ≤ y.magnitude := by
            unfold magnitude
            gcongr
            norm_num
  · have hscale : x.scale = y.scale := by rw [scale, scale, heq]
    have hfraction : x.fraction.val ≤ y.fraction.val := by
      rw [rank, rank, heq] at h
      omega
    have hsignificand : x.significand ≤ y.significand := by
      unfold significand
      rw [heq]
      split <;> omega
    unfold magnitude
    rw [hscale]
    gcongr

/-- The least rank that is not that of a finite number. -/
def infiniteRank : Nat := 2047 * fractionCount

theorem isFinite_iff_rank_lt (x : Binary64) : x.isFinite ↔ x.rank < infiniteRank := by
  have hx := x.fraction.isLt
  unfold isFinite rank infiniteRank
  unfold fractionCount at hx ⊢
  rw [decide_eq_true_eq]
  omega

theorem rank_ofRank (negative : Bool) (r : Nat) :
    (ofRank negative r).rank = min r infiniteRank := by
  unfold ofRank
  split
  · rename_i h
    have hexponent : r / fractionCount < 2047 := Nat.div_lt_of_lt_mul (by rwa [Nat.mul_comm] at h)
    have hle : r ≤ infiniteRank := Nat.le_of_lt h
    rw [min_eq_left hle, rank]
    dsimp only
    rw [Nat.mod_eq_of_lt (by omega : r / fractionCount < 2048), Nat.mul_comm]
    exact Nat.div_add_mod r fractionCount
  · rename_i h
    have hle : infiniteRank ≤ r := Nat.le_of_not_lt h
    have hexponent : ((2047 : Fin 2048) : Nat) = 2047 := rfl
    rw [min_eq_right hle, rank, infiniteRank]
    dsimp only
    rw [hexponent, Fin.val_zero, Nat.add_zero]

theorem isZero_iff_rank (x : Binary64) : x.isZero ↔ x.rank = 0 := by
  unfold isZero significand rank
  rw [beq_iff_eq]
  unfold fractionCount
  split <;> omega

end Binary64

end CatalogFilter
