import CatalogFilter.Proofs.Number.Exact
import Mathlib.Tactic.FieldSimp

/-!
# Rounding keeps order

Rounding a quotient to a number of the format is a choice of a rank, and a larger quotient is
rounded to a rank at least as large. So a product of finite numbers is finite if a product of larger
ones is.

* `Binary64.roundHalfEven_le`: rounding to a natural number keeps order.
* `Binary64.roundingScale_spec`: fifty-three bits are left before the binary point.
* `Binary64.ratioRank_le`: rounding to a number of the format keeps order.
* `Binary64.isFinite_mul`: products of smaller magnitudes are finite too.
-/

namespace CatalogFilter.Binary64

/-! ### Rounding to a natural number -/

theorem roundHalfEven_cases (num den : Nat) :
    (roundHalfEven num den = num / den ∧
      (2 * (num % den) < den ∨ 2 * (num % den) = den ∧ num / den % 2 = 0)) ∨
    (roundHalfEven num den = num / den + 1 ∧
      (den < 2 * (num % den) ∨ 2 * (num % den) = den ∧ num / den % 2 = 1)) := by
  unfold roundHalfEven
  dsimp only
  split_ifs <;> omega

/-- A quotient that is a natural number is not changed by rounding. -/
theorem roundHalfEven_of_div_eq {num den k : Nat} (hden : 0 < den) (h : (num / den : ℚ) = k) :
    roundHalfEven num den = k := by
  have hd : (den : ℚ) ≠ 0 := mod_cast hden.ne'
  rw [div_eq_iff hd] at h
  obtain rfl : num = k * den := mod_cast h
  simp [roundHalfEven, hden]

/-- Rounding a quotient to a natural number keeps order. -/
theorem roundHalfEven_le {n₁ d₁ n₂ d₂ : Nat} (h₁ : 0 < d₁) (h₂ : 0 < d₂)
    (h : n₁ * d₂ ≤ n₂ * d₁) : roundHalfEven n₁ d₁ ≤ roundHalfEven n₂ d₂ := by
  have hfloor : n₁ / d₁ ≤ n₂ / d₂ := by
    rw [← Nat.mul_div_mul_right n₁ d₁ h₂, ← Nat.mul_div_mul_right n₂ d₂ h₁, Nat.mul_comm d₂ d₁]
    exact Nat.div_le_div_right h
  rcases hfloor.lt_or_eq with hlt | heq
  · rcases roundHalfEven_cases n₁ d₁ with ⟨hr, -⟩ | ⟨hr, -⟩ <;>
      rcases roundHalfEven_cases n₂ d₂ with ⟨hs, -⟩ | ⟨hs, -⟩ <;> omega
  · -- With equal floors only the remainders decide, and they compare like the quotients.
    have hrem : n₁ % d₁ * d₂ ≤ n₂ % d₂ * d₁ := by
      have e₁ : (d₁ * (n₂ / d₂) + n₁ % d₁) * d₂ = n₁ * d₂ := by rw [← heq, Nat.div_add_mod]
      have e₂ : (d₂ * (n₂ / d₂) + n₂ % d₂) * d₁ = n₂ * d₁ := by rw [Nat.div_add_mod]
      linarith
    rcases roundHalfEven_cases n₁ d₁ with ⟨hr, -⟩ | ⟨hr, hup⟩
    · rcases roundHalfEven_cases n₂ d₂ with ⟨hs, -⟩ | ⟨hs, -⟩ <;> omega
    · rcases roundHalfEven_cases n₂ d₂ with ⟨hs, hdown⟩ | ⟨hs, -⟩
      · exfalso
        rcases hup with hup | ⟨hup, hodd⟩
        · have hstrict : d₁ * d₂ < 2 * (n₁ % d₁) * d₂ := Nat.mul_lt_mul_of_pos_right hup h₂
          have hbound : 2 * (n₂ % d₂) * d₁ ≤ d₂ * d₁ := Nat.mul_le_mul_right d₁ (by omega)
          linarith
        · have hbelow : 2 * (n₂ % d₂) < d₂ := by omega
          have hstrict : 2 * (n₂ % d₂) * d₁ < d₂ * d₁ := Nat.mul_lt_mul_of_pos_right hbelow h₁
          have hbound : 2 * (n₁ % d₁) * d₂ = d₁ * d₂ := by rw [hup]
          linarith
      · omega

/-! ### Rounding a quotient -/

theorem scaled_den_pos (num : Nat) {den : Nat} (hden : 0 < den) (q : Int) :
    0 < (scaled num den q).2 := by
  unfold scaled
  split
  · exact Nat.mul_pos hden (twoPow_pos _)
  · exact hden

theorem scaled_div (num den : Nat) (q : Int) :
    ((scaled num den q).1 : ℚ) / (scaled num den q).2 = num / den / 2 ^ q := by
  unfold scaled
  split
  · rename_i hq
    rw [Nat.cast_mul, cast_twoPow, ← zpow_natCast, Int.toNat_of_nonneg hq, div_div]
  · rename_i hq
    rw [Nat.cast_mul, cast_twoPow, ← zpow_natCast, Int.toNat_of_nonneg (by omega), zpow_neg]
    field_simp

theorem zpow_log2_le {n : Nat} (hn : 0 < n) : (2 : ℚ) ^ (n.log2 : Int) ≤ n := by
  rw [zpow_natCast]
  exact mod_cast Nat.log2_self_le hn.ne'

theorem lt_zpow_log2 (n : Nat) : (n : ℚ) < 2 ^ (n.log2 + 1 : Int) := by
  rw [← Nat.cast_add_one, zpow_natCast]
  exact mod_cast Nat.lt_log2_self

/-- The difference of the binary logarithms leaves at least fifty-two and fewer than fifty-four
bits before the binary point. -/
theorem quotient_log2 {num den : Nat} (hnum : 0 < num) (hden : 0 < den) :
    (2 : ℚ) ^ 52 * 2 ^ ((num.log2 : Int) - den.log2 - 53) ≤ num / den ∧
      (num / den : ℚ) < 2 ^ 54 * 2 ^ ((num.log2 : Int) - den.log2 - 53) := by
  have hd : (0 : ℚ) < den := mod_cast hden
  constructor
  · calc (2 : ℚ) ^ 52 * 2 ^ ((num.log2 : Int) - den.log2 - 53)
        = 2 ^ (num.log2 : Int) / 2 ^ (den.log2 + 1 : Int) := by
          rw [← zpow_natCast (2 : ℚ) 52, ← zpow_add₀ two_ne_zero, ← zpow_sub₀ two_ne_zero]
          congr 1
          push_cast
          ring
      _ ≤ num / den := by
          gcongr
          · exact zpow_log2_le hnum
          · exact (lt_zpow_log2 den).le
  · calc (num / den : ℚ) < 2 ^ (num.log2 + 1 : Int) / 2 ^ (den.log2 : Int) := by
          exact div_lt_div₀ (lt_zpow_log2 num) (zpow_log2_le hden) (by positivity) (by positivity)
      _ = 2 ^ 54 * 2 ^ ((num.log2 : Int) - den.log2 - 53) := by
          rw [← zpow_natCast (2 : ℚ) 54, ← zpow_add₀ two_ne_zero, ← zpow_sub₀ two_ne_zero]
          congr 1
          push_cast
          ring

/-- A quotient is rounded where fifty-three bits are left before the binary point, unless that is
below the least exponent of the format. -/
theorem roundingScale_spec {num den : Nat} (hnum : 0 < num) (hden : 0 < den) :
    (num / den : ℚ) < 2 ^ 53 * 2 ^ roundingScale num den ∧
      minScale ≤ roundingScale num den ∧
      (roundingScale num den = minScale ∨
        2 ^ 52 * 2 ^ roundingScale num den ≤ (num / den : ℚ)) := by
  obtain ⟨hlow, hhigh⟩ := quotient_log2 hnum hden
  unfold roundingScale
  dsimp only
  generalize (num.log2 : Int) - den.log2 - 53 = q at hlow hhigh
  have hquotient := scaled_div num den q
  have hd : (0 : ℚ) < (scaled num den q).2 := mod_cast scaled_den_pos num hden q
  have hpow : (0 : ℚ) < 2 ^ q := by positivity
  -- The two candidates `q` and `q + 1` differ in one bit before the point.
  obtain ⟨s, hs, hbelow, habove⟩ : ∃ s : Int,
      (if (scaled num den q).1 < 2 * fractionCount * (scaled num den q).2 then q else q + 1) = s ∧
      (num / den : ℚ) < 2 ^ 53 * 2 ^ s ∧ 2 ^ 52 * 2 ^ s ≤ (num / den : ℚ) := by
    refine ⟨_, rfl, ?_⟩
    have hiff : (scaled num den q).1 < 2 * fractionCount * (scaled num den q).2 ↔
        (num / den : ℚ) < 2 ^ 53 * 2 ^ q := by
      rw [← div_lt_iff₀ hpow, ← hquotient, div_lt_iff₀ hd]
      norm_num
      exact_mod_cast Iff.rfl
    split
    · rename_i h
      exact ⟨hiff.mp h, hlow⟩
    · rename_i h
      rw [zpow_add_one₀ two_ne_zero]
      have := not_lt.mp (mt hiff.mpr h)
      constructor <;> linarith
  rw [hs]
  have hmax : (2 : ℚ) ^ s ≤ 2 ^ max s minScale :=
    zpow_le_zpow_right₀ (by norm_num) (le_max_left s minScale)
  refine ⟨by linarith, le_max_right s minScale, ?_⟩
  rcases le_total s minScale with h | h
  · exact .inl (max_eq_right h)
  · exact .inr (by rwa [max_eq_left h])

/-- The rank that a quotient is rounded to. -/
def ratioRank (num den : Nat) : Nat :=
  if num = 0 then 0
  else
    let q := roundingScale num den
    (q - minScale).toNat * fractionCount +
      roundHalfEven (scaled num den q).1 (scaled num den q).2

theorem ofRatio_eq_ofRank (negative : Bool) (num den : Nat) :
    ofRatio negative num den = ofRank negative (ratioRank num den) := by
  unfold ofRatio ratioRank
  split <;> rfl

theorem roundHalfEven_scaled_mono {n₁ d₁ n₂ d₂ : Nat} (h₁ : 0 < d₁) (h₂ : 0 < d₂)
    (h : (n₁ / d₁ : ℚ) ≤ n₂ / d₂) (q : Int) :
    roundHalfEven (scaled n₁ d₁ q).1 (scaled n₁ d₁ q).2 ≤
      roundHalfEven (scaled n₂ d₂ q).1 (scaled n₂ d₂ q).2 := by
  have hd₁ := scaled_den_pos n₁ h₁ q
  have hd₂ := scaled_den_pos n₂ h₂ q
  have hq : (0 : ℚ) < 2 ^ q := by positivity
  refine roundHalfEven_le hd₁ hd₂ ?_
  have hle := div_le_div_of_nonneg_right h hq.le
  rw [← scaled_div, ← scaled_div, div_le_div_iff₀ (mod_cast hd₁) (mod_cast hd₂)] at hle
  exact_mod_cast hle

theorem roundHalfEven_scaled_ratioOf (k : Nat) (q : Int) :
    roundHalfEven (scaled (ratioOf k q).1 (ratioOf k q).2 q).1
      (scaled (ratioOf k q).1 (ratioOf k q).2 q).2 = k := by
  have hq : (2 : ℚ) ^ q ≠ 0 := by positivity
  refine roundHalfEven_of_div_eq (scaled_den_pos _ (ratioOf_den_pos k q) q) ?_
  rw [scaled_div, ratioOf_div, mul_div_cancel_right₀ _ hq]

theorem roundHalfEven_scaled_le {num den : Nat} (hden : 0 < den) {q : Int} {k : Nat}
    (h : (num / den : ℚ) ≤ k * 2 ^ q) :
    roundHalfEven (scaled num den q).1 (scaled num den q).2 ≤ k := by
  rw [← ratioOf_div] at h
  have hle := roundHalfEven_scaled_mono hden (ratioOf_den_pos k q) h q
  rwa [roundHalfEven_scaled_ratioOf] at hle

theorem le_roundHalfEven_scaled {num den : Nat} (hden : 0 < den) {q : Int} {k : Nat}
    (h : k * 2 ^ q ≤ (num / den : ℚ)) :
    k ≤ roundHalfEven (scaled num den q).1 (scaled num den q).2 := by
  rw [← ratioOf_div] at h
  have hle := roundHalfEven_scaled_mono (ratioOf_den_pos k q) hden h q
  rwa [roundHalfEven_scaled_ratioOf] at hle

theorem roundingScale_le {n₁ d₁ n₂ d₂ : Nat} (hn₁ : 0 < n₁) (h₁ : 0 < d₁) (hn₂ : 0 < n₂)
    (h₂ : 0 < d₂) (h : (n₁ / d₁ : ℚ) ≤ n₂ / d₂) : roundingScale n₁ d₁ ≤ roundingScale n₂ d₂ := by
  obtain ⟨-, -, hscale⟩ := roundingScale_spec hn₁ h₁
  obtain ⟨hhigh, hmin, -⟩ := roundingScale_spec hn₂ h₂
  rcases hscale with hscale | hlow
  · rwa [hscale]
  · by_contra hlt
    have hpow : (2 : ℚ) ^ (roundingScale n₂ d₂ + 1) ≤ 2 ^ roundingScale n₁ d₁ :=
      zpow_le_zpow_right₀ (by norm_num) (by omega)
    rw [zpow_add_one₀ two_ne_zero] at hpow
    linarith

/-- Rounding a quotient keeps order. -/
theorem ratioRank_le {n₁ d₁ n₂ d₂ : Nat} (h₁ : 0 < d₁) (h₂ : 0 < d₂)
    (h : (n₁ / d₁ : ℚ) ≤ n₂ / d₂) : ratioRank n₁ d₁ ≤ ratioRank n₂ d₂ := by
  rcases Nat.eq_zero_or_pos n₁ with rfl | hn₁
  · exact Nat.zero_le _
  have hn₂ : 0 < n₂ := by
    have hpos : (0 : ℚ) < n₁ / d₁ := div_pos (mod_cast hn₁) (mod_cast h₁)
    refine Nat.pos_of_ne_zero fun hzero => ?_
    rw [hzero, Nat.cast_zero, zero_div] at h
    linarith
  obtain ⟨hhigh, hmin, -⟩ := roundingScale_spec hn₁ h₁
  obtain ⟨-, -, hlow⟩ := roundingScale_spec hn₂ h₂
  rw [ratioRank, ratioRank, if_neg hn₁.ne', if_neg hn₂.ne']
  dsimp only
  rcases (roundingScale_le hn₁ h₁ hn₂ h₂ h).lt_or_eq with hlt | heq
  · -- The larger quotient is rounded on a coarser grid, above all of the finer one.
    have hup : roundHalfEven (scaled n₁ d₁ (roundingScale n₁ d₁)).1
        (scaled n₁ d₁ (roundingScale n₁ d₁)).2 ≤ 2 * fractionCount := by
      refine roundHalfEven_scaled_le h₁ ?_
      rw [show ((2 * fractionCount : Nat) : ℚ) = 2 ^ 53 by norm_num]
      exact hhigh.le
    have hdown : fractionCount ≤ roundHalfEven (scaled n₂ d₂ (roundingScale n₂ d₂)).1
        (scaled n₂ d₂ (roundingScale n₂ d₂)).2 := by
      refine le_roundHalfEven_scaled h₂ ?_
      rw [show ((fractionCount : Nat) : ℚ) = 2 ^ 52 by norm_num]
      exact hlow.resolve_left (by omega)
    have hstep : (roundingScale n₁ d₁ - minScale).toNat + 1 ≤
        (roundingScale n₂ d₂ - minScale).toNat := by omega
    have hgrid := Nat.mul_le_mul_right fractionCount hstep
    rw [Nat.add_mul, Nat.one_mul] at hgrid
    omega
  · rw [heq]
    have := roundHalfEven_scaled_mono h₁ h₂ h (roundingScale n₂ d₂)
    omega

theorem rank_ofRatio_le (s₁ s₂ : Bool) {n₁ d₁ n₂ d₂ : Nat} (h₁ : 0 < d₁) (h₂ : 0 < d₂)
    (h : (n₁ / d₁ : ℚ) ≤ n₂ / d₂) : (ofRatio s₁ n₁ d₁).rank ≤ (ofRatio s₂ n₂ d₂).rank := by
  rw [ofRatio_eq_ofRank, ofRatio_eq_ofRank, rank_ofRank, rank_ofRank]
  exact min_le_min_right infiniteRank (ratioRank_le h₁ h₂ h)

/-! ### Natural numbers and products -/

theorem rank_ofNat_le {m n : Nat} (h : m ≤ n) : (ofNat m).rank ≤ (ofNat n).rank := by
  refine rank_ofRatio_le _ _ Nat.one_pos Nat.one_pos ?_
  gcongr

theorem mul_eq_ofRatio (x y : Binary64) :
    x.mul y = ofRatio (x.negative ^^ y.negative) (x.ratio.1 * y.ratio.1)
      (x.ratio.2 * y.ratio.2) := rfl

theorem rank_mul_le {x₁ y₁ x₂ y₂ : Binary64} (hx : x₁.rank ≤ x₂.rank) (hy : y₁.rank ≤ y₂.rank) :
    (x₁.mul y₁).rank ≤ (x₂.mul y₂).rank := by
  have hpos (x y : Binary64) : 0 < x.ratio.2 * y.ratio.2 :=
    Nat.mul_pos (ratioOf_den_pos _ _) (ratioOf_den_pos _ _)
  rw [mul_eq_ofRatio, mul_eq_ofRatio]
  refine rank_ofRatio_le _ _ (hpos x₁ y₁) (hpos x₂ y₂) ?_
  simp only [Nat.cast_mul, mul_div_mul_comm, ratio_div]
  exact mul_le_mul (magnitude_le_of_rank_le hx) (magnitude_le_of_rank_le hy)
    (magnitude_nonneg y₁) (magnitude_nonneg x₂)

/-- A product of finite numbers is finite if a product of larger ones is. -/
theorem isFinite_mul {x₁ y₁ x₂ y₂ : Binary64} (hx : x₁.rank ≤ x₂.rank) (hy : y₁.rank ≤ y₂.rank)
    (h : (x₂.mul y₂).isFinite) : (x₁.mul y₁).isFinite := by
  rw [isFinite_iff_rank_lt] at h ⊢
  exact (rank_mul_le hx hy).trans_lt h

end CatalogFilter.Binary64
