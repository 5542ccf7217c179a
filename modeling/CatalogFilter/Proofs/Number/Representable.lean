import CatalogFilter.Number.Decimal
import CatalogFilter.Proofs.Number.Rounding

/-!
# Numbers of the format are read exactly

Rounding changes nothing if there is nothing to round: a quotient whose value is that of a number of
the format is rounded to this number, and so is a decimal, however large or small its digits and its
power of ten are on their own. Every natural number below `2 ^ 53` is the value of a number of the
format.

* `Binary64.ofRatio_of_div_eq`, `Decimal.toBinary64_of_magnitude_eq`: quotients and decimals with
  the value of a number of the format.
* `Binary64.exists_magnitude_eq`: natural numbers below `2 ^ 53`.
* `Binary64.toInt?_of_magnitude_eq`: a number with the value of a natural number is found to be an
  integer.
-/

namespace CatalogFilter

namespace Binary64

variable {x : Binary64}

/-! ### Quotients -/

theorem minScale_le_scale (x : Binary64) : minScale ≤ x.scale := by
  unfold scale minScale
  omega

theorem le_of_mul_zpow_lt {q s : Int} (h : (2 : ℚ) ^ 52 * 2 ^ q < 2 ^ 53 * 2 ^ s) : q ≤ s := by
  by_contra hlt
  have hpow : (2 : ℚ) ^ (s + 1) ≤ 2 ^ q := zpow_le_zpow_right₀ (by norm_num) (by omega)
  rw [zpow_add_one₀ two_ne_zero] at hpow
  linarith

/-- A magnitude of the format is rounded at its own exponent. -/
theorem roundingScale_of_div_eq {num den : Nat} (hnum : 0 < num) (hden : 0 < den)
    (h : (num / den : ℚ) = x.magnitude) : roundingScale num den = x.scale := by
  obtain ⟨hbelow, hmin, habove⟩ := roundingScale_spec hnum hden
  have hsignificand : (x.significand : ℚ) < 2 ^ 53 := by
    rw [show (2 : ℚ) ^ 53 = (2 * fractionCount : Nat) by norm_num]
    exact mod_cast significand_lt x
  have hpow : (0 : ℚ) < 2 ^ x.scale := by positivity
  generalize roundingScale num den = s at *
  rw [h, magnitude] at hbelow habove
  refine le_antisymm ?_ ?_
  · rcases habove with rfl | habove
    · exact minScale_le_scale x
    · exact le_of_mul_zpow_lt (habove.trans_lt (mul_lt_mul_of_pos_right hsignificand hpow))
  · by_cases hzero : x.exponent.val = 0
    · have hscale : x.scale = minScale := by
        unfold scale minScale
        omega
      rwa [hscale]
    · have hnormal : (2 : ℚ) ^ 52 ≤ x.significand := by
        rw [show (2 : ℚ) ^ 52 = (fractionCount : Nat) by norm_num]
        exact mod_cast fractionCount_le_significand hzero
      exact le_of_mul_zpow_lt ((mul_le_mul_of_nonneg_right hnormal hpow.le).trans_lt hbelow)

theorem rank_eq_zero_of_lt (h : x.magnitude < 2 ^ minScale) : x.rank = 0 := by
  rw [← isZero_iff_rank, isZero, beq_iff_eq]
  by_contra hne
  have hone : (1 : ℚ) ≤ x.significand := mod_cast Nat.one_le_iff_ne_zero.mpr hne
  have hscale : (2 : ℚ) ^ minScale ≤ 2 ^ x.scale :=
    zpow_le_zpow_right₀ (by norm_num) (minScale_le_scale x)
  have hle : (2 : ℚ) ^ x.scale ≤ x.magnitude := le_mul_of_one_le_left (by positivity) hone
  linarith

/-- A magnitude of the format is rounded to its own rank. -/
theorem ratioRank_of_div_eq {num den : Nat} (hden : 0 < den)
    (h : (num / den : ℚ) = x.magnitude) : ratioRank num den = x.rank := by
  rcases Nat.eq_zero_or_pos num with rfl | hnum
  · have hzero : x.magnitude = 0 := by rw [← h, Nat.cast_zero, zero_div]
    rw [rank_eq_zero_of_lt (by rw [hzero]; positivity)]
    rfl
  · have hround : roundHalfEven (scaled num den x.scale).1 (scaled num den x.scale).2 =
        x.significand := by
      refine roundHalfEven_of_div_eq (scaled_den_pos num hden _) ?_
      rw [scaled_div, h, magnitude, mul_div_cancel_right₀ _ (by positivity)]
    rw [ratioRank, if_neg hnum.ne']
    dsimp only
    rw [roundingScale_of_div_eq hnum hden h, hround]
    unfold rank significand scale minScale fractionCount
    split <;> omega

/-- A finite number is the one of its rank, up to its sign. -/
theorem ofRank_rank (hx : x.isFinite) (negative : Bool) :
    ofRank negative x.rank = { x with negative } := by
  have hfraction := x.fraction.isLt
  have hexponent := x.exponent.isLt
  have hrank : x.rank < 2047 * fractionCount := (isFinite_iff_rank_lt x).mp hx
  rw [ofRank, if_pos hrank]
  congr 1
  · ext
    unfold rank fractionCount at *
    dsimp only
    omega
  · ext
    unfold rank fractionCount at *
    dsimp only
    omega

/-- A quotient with the value of a number of the format is rounded to this number. -/
theorem ofRatio_of_div_eq (hx : x.isFinite) {num den : Nat} (hden : 0 < den)
    (h : (num / den : ℚ) = x.magnitude) (negative : Bool) :
    ofRatio negative num den = { x with negative } := by
  rw [ofRatio_eq_ofRank, ratioRank_of_div_eq hden h, ofRank_rank hx]

/-! ### Natural numbers -/

/-- Every natural number below `2 ^ 53` is the value of a number of the format. -/
theorem exists_magnitude_eq {n : Nat} (hn : n < 2 * fractionCount) :
    ∃ x : Binary64, x.isFinite ∧ x.magnitude = n := by
  rcases Nat.eq_zero_or_pos n with rfl | hpos
  · exact ⟨zero false, rfl, by simp [magnitude, significand, zero, ofRank]⟩
  · -- The leading bit of `n` is moved to the place in front of the binary point.
    have hlog : n.log2 ≤ 52 := by
      have : n.log2 < 53 := (Nat.log2_lt hpos.ne').mpr hn
      omega
    have hlow : fractionCount ≤ n * 2 ^ (52 - n.log2) := by
      calc fractionCount = 2 ^ n.log2 * 2 ^ (52 - n.log2) := by
            rw [← Nat.pow_add, Nat.add_sub_cancel' hlog]
        _ ≤ n * 2 ^ (52 - n.log2) := Nat.mul_le_mul_right _ (Nat.log2_self_le hpos.ne')
    have hhigh : n * 2 ^ (52 - n.log2) < 2 * fractionCount := by
      calc n * 2 ^ (52 - n.log2) < 2 ^ (n.log2 + 1) * 2 ^ (52 - n.log2) :=
            Nat.mul_lt_mul_of_pos_right Nat.lt_log2_self (by positivity)
        _ = 2 * fractionCount := by
            rw [← Nat.pow_add, show n.log2 + 1 + (52 - n.log2) = 53 by omega]
            rfl
    refine ⟨⟨false, ⟨n.log2 + 1023, by omega⟩,
      ⟨n * 2 ^ (52 - n.log2) - fractionCount, by omega⟩⟩, ?_, ?_⟩
    · simp only [isFinite, decide_eq_true_eq]
      omega
    · have hsignificand : fractionCount + (n * 2 ^ (52 - n.log2) - fractionCount) =
          n * 2 ^ (52 - n.log2) := by omega
      have hscale : ((max (n.log2 + 1023) 1 : Nat) : Int) - 1075 =
          -((52 - n.log2 : Nat) : Int) := by omega
      simp only [magnitude, significand, scale]
      rw [if_neg (by omega), hsignificand, hscale, zpow_neg, zpow_natCast]
      push_cast
      rw [mul_inv_cancel_right₀ (by positivity)]

/-- A finite number with the value of a natural number is found to be an integer. -/
theorem toInt?_of_magnitude_eq (hx : x.isFinite) {n : Nat} (h : x.magnitude = n) :
    x.toInt? = some (if x.negative then -(n : Int) else n) := by
  have hden : 0 < x.ratio.2 := ratioOf_den_pos _ _
  have hnum : x.ratio.1 = n * x.ratio.2 := by
    have hdiv := x.ratio_div
    rw [h, div_eq_iff (by exact_mod_cast hden.ne')] at hdiv
    exact_mod_cast hdiv
  have hmod : x.ratio.1 % x.ratio.2 = 0 := by rw [hnum, Nat.mul_mod_left]
  have hquotient : x.ratio.1 / x.ratio.2 = n := by rw [hnum, Nat.mul_div_cancel n hden]
  simp [toInt?, hx, hmod, hquotient]

end Binary64

/-! ### Decimals -/

namespace Decimal

variable {d : Decimal}

/-- The value of a decimal without its sign. -/
def magnitude (d : Decimal) : ℚ :=
  d.coefficient * 10 ^ d.exponent

theorem ratio_den_pos (d : Decimal) : 0 < d.ratio.2 := by
  unfold ratio
  split
  · exact Nat.one_pos
  · exact tenPow_pos _

theorem ratio_div (d : Decimal) : (d.ratio.1 : ℚ) / d.ratio.2 = d.magnitude := by
  unfold ratio magnitude
  split
  · rename_i h
    rw [Nat.cast_mul, cast_tenPow, Nat.cast_one, div_one, ← zpow_natCast, Int.toNat_of_nonneg h]
  · rename_i h
    rw [cast_tenPow, ← zpow_natCast, Int.toNat_of_nonneg (by omega), zpow_neg, div_inv_eq_mul]

theorem two_zpow_le_ten_zpow (k : Nat) : (2 : ℚ) ^ (3 * k : Int) ≤ 10 ^ (k : Int) := by
  rw [zpow_mul, zpow_natCast, zpow_natCast]
  gcongr
  norm_num

/-- A decimal that is taken for zero is below all other numbers of the format. -/
theorem magnitude_lt_of_isTiny (h : d.isTiny) : d.magnitude < 2 ^ Binary64.minScale := by
  rw [isTiny, Bool.or_eq_true, beq_iff_eq, decide_eq_true_eq] at h
  rcases h with hzero | hsmall
  · rw [magnitude, hzero, Nat.cast_zero, zero_mul]
    positivity
  · obtain ⟨k, hk⟩ : ∃ k : Nat, d.exponent = -k := ⟨(-d.exponent).toNat, by omega⟩
    rw [hk] at hsmall
    calc d.magnitude ≤ 2 ^ (d.coefficient.log2 + 1 : Int) * 2 ^ (-(3 * k : Int)) := by
          rw [magnitude, hk]
          gcongr
          · exact (Binary64.lt_zpow_log2 _).le
          · rw [zpow_neg, zpow_neg]
            exact inv_anti₀ (by positivity) (two_zpow_le_ten_zpow k)
      _ = 2 ^ (d.coefficient.log2 + 1 + -(3 * k) : Int) := (zpow_add₀ two_ne_zero _ _).symm
      _ < 2 ^ Binary64.minScale := by
          refine zpow_lt_zpow_right₀ (by norm_num) ?_
          unfold Binary64.minScale
          omega

/-- A decimal that is taken for infinity is above all numbers of the format. -/
theorem magnitude_lt_of_isHuge {x : Binary64} (hx : x.isFinite) (h : d.isHuge) :
    x.magnitude < d.magnitude := by
  rw [isHuge, Bool.and_eq_true, bne_iff_ne, decide_eq_true_eq] at h
  have hone : (1 : ℚ) ≤ d.coefficient := mod_cast Nat.one_le_iff_ne_zero.mpr h.1
  have hscale : x.scale ≤ 971 := by
    have : x.exponent.val < 2047 := by simpa [Binary64.isFinite] using hx
    unfold Binary64.scale
    omega
  have hsignificand : (x.significand : ℚ) ≤ 2 ^ 53 := by
    rw [show (2 : ℚ) ^ 53 = (2 * fractionCount : Nat) by norm_num]
    exact mod_cast x.significand_lt.le
  calc x.magnitude ≤ 2 ^ 53 * 2 ^ (971 : Int) := by
        unfold Binary64.magnitude
        gcongr
        norm_num
    _ < 2 ^ (3 * (400 : Nat) : Int) := by
        rw [← zpow_natCast (2 : ℚ) 53, ← zpow_add₀ two_ne_zero]
        exact zpow_lt_zpow_right₀ (by norm_num) (by norm_num)
    _ ≤ 10 ^ ((400 : Nat) : Int) := two_zpow_le_ten_zpow 400
    _ ≤ 10 ^ d.exponent := zpow_le_zpow_right₀ (by norm_num) h.2
    _ ≤ d.magnitude := le_mul_of_one_le_left (by positivity) hone

/-- A decimal with the value of a number of the format is read as this number. -/
theorem toBinary64_of_magnitude_eq {x : Binary64} (hx : x.isFinite)
    (h : d.magnitude = x.magnitude) : d.toBinary64 = { x with negative := d.negative } := by
  unfold toBinary64
  split
  · rename_i htiny
    have hrank := Binary64.rank_eq_zero_of_lt (h ▸ magnitude_lt_of_isTiny htiny)
    rw [← Binary64.ofRank_rank hx, hrank]
    rfl
  · split
    · rename_i hhuge
      exact absurd h (magnitude_lt_of_isHuge hx hhuge).ne'
    · exact Binary64.ofRatio_of_div_eq hx d.ratio_den_pos (d.ratio_div.trans h) d.negative

end Decimal

end CatalogFilter
