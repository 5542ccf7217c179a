import CatalogFilter.Json.FloatText
import CatalogFilter.Proofs.Json.Words
import CatalogFilter.Proofs.Number.ShortestDigits

/-!
# Floating point numbers read back

The text of a finite floating point number is one number of the JSON grammar, and it is never too
large to be read: a decimal that is written out has a point, and a decimal with a positive power of
ten stays, after both roundings, below the bound of the finite numbers.

* `isSome_scalePower`: the decimals that are read as finite numbers.
* `decimalParts`: the parts of the text of a decimal.
* `exists_floatValue_digits`: the decimal of a finite number is read as a floating point number.
-/

namespace CatalogFilter.Json

open Numeral Shortest

/-! ### Scaling by a power of ten -/

theorem isSome_scalePower_of_neg (n : Nat) {e : Int} (he : e < 0) : (scalePower n e).isSome := by
  unfold scalePower
  dsimp only
  rw [if_neg (by omega : ¬ 0 ≤ e)]
  split_ifs <;> rfl

theorem isSome_scalePower_zero (e : Int) : (scalePower 0 e).isSome := by
  have hzero : (Binary64.ofNat 0).isZero = true := by decide
  rw [scalePower, if_pos hzero]
  rfl

theorem isSome_scalePower_natCast_iff (n k : Nat) :
    (scalePower n k).isSome ↔ (Binary64.ofNat n).isZero ∨
      (k ≤ maxPower ∧ ((Binary64.ofNat n).mul (powerOfTen k)).isFinite) := by
  unfold scalePower
  dsimp only
  rw [Int.natAbs_natCast, if_pos (Int.natCast_nonneg k)]
  split_ifs with hzero hpower hfinite <;> simp [*]

/-- A significand times a power of ten is finite if a larger one is. -/
theorem isSome_scalePower_of_le {m n k l : Nat} (hmn : m ≤ n) (hkl : k ≤ l)
    (h : (scalePower n l).isSome) : (scalePower m k).isSome := by
  have hrank : (Binary64.ofNat m).rank ≤ (Binary64.ofNat n).rank := Binary64.rank_ofNat_le hmn
  have hpower : (powerOfTen k).rank ≤ (powerOfTen l).rank :=
    Binary64.rank_ofNat_le (tenPow_le_tenPow hkl)
  rw [isSome_scalePower_natCast_iff] at h ⊢
  rcases h with hzero | ⟨hl, hfinite⟩
  · rw [Binary64.isZero_iff_rank] at hzero ⊢
    exact .inl (by omega)
  · exact .inr ⟨hkl.trans hl, Binary64.isFinite_mul hrank hpower hfinite⟩

/-- A decimal of at most seventeen digits below the bound of the finite numbers is read as a finite
number, except for the last one. -/
theorem isSome_scalePower {n k : Nat} (hn : n ≤ 10 ^ 17)
    (hbound : n * tenPow k ≤ overflowBound) (hlast : k = 292 → n ≠ 17976931348623158) :
    (scalePower n k).isSome := by
  rcases Nat.eq_zero_or_pos n with rfl | hpos
  · exact isSome_scalePower_zero k
  have hcoarse : ∀ j < 16,
      (scalePower (overflowBound / tenPow (293 + j)) (293 + j : Nat)).isSome := by
    decide +kernel
  rcases (by omega : k ≤ 291 ∨ k = 292 ∨ (293 ≤ k ∧ k ≤ 308) ∨ 309 ≤ k) with
    hk | rfl | ⟨hlow, hhigh⟩ | hk
  · exact isSome_scalePower_of_le hn hk (by decide +kernel)
  · have hle : n ≤ overflowBound / tenPow 292 :=
      (Nat.le_div_iff_mul_le (tenPow_pos 292)).mpr hbound
    have hquotient : overflowBound / tenPow 292 = 17976931348623158 := by decide +kernel
    have hne := hlast rfl
    exact isSome_scalePower_of_le (by omega : n ≤ 17976931348623157) le_rfl (by decide +kernel)
  · have hle : n ≤ overflowBound / tenPow k := (Nat.le_div_iff_mul_le (tenPow_pos k)).mpr hbound
    have hsome := hcoarse (k - 293) (by omega)
    rw [Nat.add_sub_cancel' hlow] at hsome
    exact isSome_scalePower_of_le hle le_rfl hsome
  · have hpower : tenPow 309 ≤ tenPow k := tenPow_le_tenPow hk
    have hle : tenPow k ≤ n * tenPow k := Nat.le_mul_of_pos_left _ hpos
    have hover : overflowBound < tenPow 309 := by decide +kernel
    omega

/-! ### Collecting digits -/

theorem absorbDigits_of_le {n : Nat} {ds : List Char}
    (h : 10 ^ ds.length * n + value ds ≤ maxSignificand) :
    absorbDigits n ds = (10 ^ ds.length * n + value ds, []) := by
  induction ds generalizing n with
  | nil => simp [absorbDigits, value]
  | cons c ds ih =>
    have hvalue : 10 ^ (c :: ds).length * n + value (c :: ds) =
        10 ^ ds.length * (10 * n + digitValue c) + value ds := by
      rw [value_cons, List.length_cons, pow_succ]
      ring
    rw [hvalue] at h ⊢
    have hfits : 10 * n + digitValue c ≤ maxSignificand :=
      le_trans (Nat.le_mul_of_pos_left _ (by positivity)) (le_trans (Nat.le_add_right _ _) h)
    rw [absorbDigits, if_pos hfits, ih h]

theorem length_absorbDigits_le (n : Nat) (ds : List Char) :
    (absorbDigits n ds).2.length ≤ ds.length := by
  induction ds generalizing n with
  | nil => exact le_rfl
  | cons c ds ih =>
    rw [absorbDigits]
    split
    · exact (ih _).trans (Nat.le_succ _)
    · exact le_rfl

theorem length_absorbDigits_lt {n : Nat} (hn : 10 * n + 9 ≤ maxSignificand) {ds : List Char}
    (hne : ds ≠ []) (hds : AllDigits ds) : (absorbDigits n ds).2.length < ds.length := by
  cases ds with
  | nil => exact absurd rfl hne
  | cons c ds =>
    have hc := digitValue_lt (hds c List.mem_cons_self)
    rw [absorbDigits, if_pos (by omega)]
    exact Nat.lt_succ_of_le (length_absorbDigits_le _ ds)

/-- The power of ten that an exponent states. -/
def exponentValue : Option (Bool × List Char) → Int
  | some (true, ds) => -(value ds : Int)
  | some (false, ds) => value ds
  | none => 0

/-- A number is read if its digits, as far as they are collected, can be scaled. -/
theorem exists_floatValue (negative : Bool) {p : NumberParts} {n m : Nat} {left dropped : List Char}
    (hwhole : absorbDigits 0 p.whole = (n, left))
    (hfraction : absorbDigits n (p.fraction.getD []) = (m, dropped))
    (hscale : (scalePower m (left.length - ((p.fraction.getD []).length - dropped.length : Nat) +
      exponentValue p.exponent)).isSome) :
    ∃ x, floatValue negative p = .ok (.float x) := by
  obtain ⟨y, hy⟩ := Option.isSome_iff_exists.mp hscale
  refine ⟨signed negative y, ?_⟩
  obtain ⟨whole, fraction, exponent⟩ := p
  unfold floatValue
  rcases exponent with _ | ⟨_ | _, ds⟩ <;>
    simp only [exponentValue] at hy <;> simp only [hwhole, hfraction, hy]

/-! ### The text of a decimal -/

/-- The parts of the digits written out around a point. -/
def positionalParts (d : Digits) : NumberParts :=
  if 0 ≤ d.exponent then
    let places := d.exponent.toNat + 1
    let fraction := d.digits.drop places
    { whole := d.digits.take places ++ List.replicate (places - d.digits.length) '0'
      fraction := some (if fraction.isEmpty then ['0'] else fraction)
      exponent := none }
  else
    { whole := ['0']
      fraction := some (List.replicate ((-d.exponent).toNat - 1) '0' ++ d.digits)
      exponent := none }

/-- The parts of the digits with a point after the first one. -/
def scientificParts (d : Digits) : NumberParts where
  whole := d.digits.take 1
  fraction := if (d.digits.drop 1).isEmpty then none else some (d.digits.drop 1)
  exponent := some (decide (d.exponent < 0), print d.exponent.natAbs)

/-- The parts of the text of a decimal. -/
def decimalParts (d : Digits) : NumberParts :=
  if isPositional d.exponent then positionalParts d else scientificParts d

theorem text_positionalParts (d : Digits) : (positionalParts d).text = writePositional d := by
  unfold positionalParts writePositional
  split <;> simp [NumberParts.text, NumberParts.fractionText, NumberParts.exponentText]

theorem text_scientificParts (d : Digits) : (scientificParts d).text = writeScientific d := by
  obtain ⟨ds, e⟩ := d
  have hexponent : 'e' :: (if decide (e < 0) then '-' else '+') :: print e.natAbs =
      'e' :: (if e < 0 then printInt e else '+' :: printInt e) := by
    cases e with
    | ofNat n => simp [printInt, Int.not_lt.mpr (Int.natCast_nonneg n)]
    | negSucc n => simp [printInt, Int.negSucc_lt_zero]
  rw [writeScientific, scientificParts, NumberParts.text, NumberParts.exponentText]
  dsimp only
  rw [hexponent]
  rcases ds with _ | ⟨c, _ | ⟨b, ds⟩⟩ <;> simp [NumberParts.fractionText]

theorem wellFormed_positionalParts {d : Digits} (hd : d.WellFormed) :
    (positionalParts d).WellFormed := by
  unfold positionalParts
  split
  · rename_i hexponent
    obtain ⟨c, cs, hcs⟩ := List.exists_cons_of_ne_nil hd.ne_nil
    have hdrop : AllDigits (d.digits.drop (d.exponent.toNat + 1)) :=
      hd.allDigits.of_subset (List.drop_subset _ _)
    refine ⟨by simp [hcs], ?_, ?_, ?_, by simp⟩
    · exact (hd.allDigits.of_subset (List.take_subset _ _)).append (allDigits_replicate_zero _)
    · intro hzero
      have hhead : d.digits.head? = some '0' := by
        rw [hcs] at hzero ⊢
        simpa using hzero
      rw [hd.zero hhead]
      rfl
    · intro ds hds
      dsimp only at hds
      rw [Option.mem_def, Option.some.injEq] at hds
      subst hds
      split
      · exact ⟨by simp, by simp [AllDigits]⟩
      · rename_i hne
        exact ⟨by simpa using hne, hdrop⟩
  · refine ⟨by simp, by simp [AllDigits], fun _ => rfl, ?_, by simp⟩
    intro ds hds
    dsimp only at hds
    rw [Option.mem_def, Option.some.injEq] at hds
    subst hds
    exact ⟨by simp [hd.ne_nil], (allDigits_replicate_zero _).append hd.allDigits⟩

theorem wellFormed_scientificParts {d : Digits} (hd : d.WellFormed) :
    (scientificParts d).WellFormed := by
  obtain ⟨c, cs, hcs⟩ := List.exists_cons_of_ne_nil hd.ne_nil
  have htail : AllDigits cs := hd.allDigits.of_subset (hcs ▸ List.subset_cons_self c cs)
  have hwhole : (scientificParts d).whole = [c] := by rw [scientificParts, hcs]; rfl
  refine ⟨by simp [hwhole], ?_, ?_, ?_, ?_⟩
  · rw [hwhole]
    exact hd.allDigits.of_subset (by simp [hcs])
  · rw [hwhole]
    simp
  · intro ds hds
    simp only [scientificParts, hcs, List.drop_succ_cons, List.drop_zero, Option.mem_def,
      Option.ite_none_left_eq_some, List.isEmpty_iff, Option.some.injEq] at hds
    obtain ⟨hne, rfl⟩ := hds
    exact ⟨hne, htail⟩
  · intro e he
    simp only [scientificParts, Option.mem_def, Option.some.injEq] at he
    subst he
    exact ⟨print_ne_nil _, allDigits_print _⟩

theorem wellFormed_decimalParts {d : Digits} (hd : d.WellFormed) : (decimalParts d).WellFormed := by
  unfold decimalParts
  split
  · exact wellFormed_positionalParts hd
  · exact wellFormed_scientificParts hd

theorem text_decimalParts (d : Digits) : (decimalParts d).text =
    if isPositional d.exponent then writePositional d else writeScientific d := by
  unfold decimalParts
  split
  · exact text_positionalParts d
  · exact text_scientificParts d

/-! ### The value of a decimal -/

/-- A number that is written out with a point is never too large. -/
theorem exists_floatValue_of_point (negative : Bool) {whole ds : List Char}
    (hwhole : AllDigits whole) (hlength : whole.length ≤ 16) (hne : ds ≠ []) (hds : AllDigits ds) :
    ∃ x, floatValue negative ⟨whole, some ds, none⟩ = .ok (.float x) := by
  have hvalue : value whole < 10 ^ 16 :=
    (value_lt hwhole).trans_le (Nat.pow_le_pow_right (by decide) hlength)
  have hfits : 10 * value whole + 9 ≤ maxSignificand := by
    unfold maxSignificand
    omega
  have hcollect : absorbDigits 0 whole = (value whole, []) := by
    rw [absorbDigits_of_le (by omega), Nat.mul_zero, Nat.zero_add]
  have hshorter := length_absorbDigits_lt hfits hne hds
  refine exists_floatValue negative hcollect (Prod.eta _).symm (isSome_scalePower_of_neg _ ?_)
  simp only [exponentValue, List.length_nil, Option.getD_some]
  omega

theorem exists_floatValue_positionalParts (negative : Bool) {d : Digits} (hd : d.WellFormed)
    (hexponent : d.exponent ≤ 15) :
    ∃ x, floatValue negative (positionalParts d) = .ok (.float x) := by
  have hparts := wellFormed_positionalParts hd
  unfold positionalParts at hparts ⊢
  split at hparts
  · rename_i hnonneg
    rw [if_pos hnonneg]
    obtain ⟨hne, hds⟩ := hparts.fraction_digits _ rfl
    refine exists_floatValue_of_point negative hparts.whole_digits ?_ hne hds
    rw [List.length_append, List.length_take, List.length_replicate]
    omega
  · rename_i hneg
    rw [if_neg hneg]
    obtain ⟨hne, hds⟩ := hparts.fraction_digits _ rfl
    exact exists_floatValue_of_point negative hparts.whole_digits (by simp) hne hds

theorem exponentValue_print (e : Int) :
    exponentValue (some (decide (e < 0), print e.natAbs)) = e := by
  by_cases h : e < 0
  · rw [decide_eq_true h, exponentValue, value_print]
    omega
  · rw [decide_eq_false h, exponentValue, value_print]
    omega

/-- The digits after the first one and the power of ten make up the decimal again. -/
theorem exists_floatValue_scientificParts (negative : Bool) {d : Digits} (hd : d.WellFormed)
    (hsize : d.coefficient ≤ maxSignificand)
    (hscale : (scalePower d.coefficient d.lastExponent).isSome) :
    ∃ x, floatValue negative (scientificParts d) = .ok (.float x) := by
  obtain ⟨c, cs, hcs⟩ := List.exists_cons_of_ne_nil hd.ne_nil
  have hwhole : (scientificParts d).whole = [c] := by rw [scientificParts, hcs]; rfl
  have hfraction : (scientificParts d).fraction.getD [] = cs := by
    rw [scientificParts, hcs]
    cases cs <;> rfl
  have hvalue : d.coefficient = 10 ^ cs.length * digitValue c + value cs := by
    rw [Digits.coefficient, hcs, value_cons]
  have hdigit : digitValue c < 10 := digitValue_lt (hd.allDigits c (by simp [hcs]))
  have hfirst : absorbDigits 0 [c] = (digitValue c, []) := by
    have hfits : digitValue c ≤ maxSignificand := hdigit.le.trans (by decide)
    simp [absorbDigits, hfits]
  have hrest : absorbDigits (digitValue c) cs = (d.coefficient, []) := by
    rw [absorbDigits_of_le (by omega), hvalue]
  have hplace : ((0 : Nat) - (cs.length - 0 : Nat) +
      exponentValue (scientificParts d).exponent : Int) = d.lastExponent := by
    rw [scientificParts, exponentValue_print, Digits.lastExponent, hcs, List.length_cons]
    omega
  refine exists_floatValue negative (hwhole ▸ hfirst) (hfraction ▸ hrest) ?_
  rw [hfraction]
  simpa only [List.length_nil, hplace] using hscale

/-- The decimal of a finite number is never too large to be read. -/
theorem exists_floatValue_digits (negative : Bool) {x : Binary64} (hx : x.isFinite) :
    ∃ y, floatValue negative (decimalParts (digits x)) = .ok (.float y) := by
  have hd := wellFormed_digits x
  have hsize := coefficient_digits_le x
  unfold decimalParts
  split
  · rename_i hpositional
    refine exists_floatValue_positionalParts negative hd ?_
    simp only [isPositional, Bool.and_eq_true, decide_eq_true_eq] at hpositional
    exact hpositional.2
  · refine exists_floatValue_scientificParts negative hd (hsize.trans (by decide)) ?_
    rcases lt_or_ge (digits x).lastExponent 0 with hneg | hnonneg
    · exact isSome_scalePower_of_neg _ hneg
    · have hbound := decimal_digits_le_overflowBound hx hnonneg
      rw [← Int.toNat_of_nonneg hnonneg]
      exact isSome_scalePower hsize hbound fun h => digits_ne_last hx (by omega)

theorem numberValue_decimalParts (negative : Bool) (d : Digits) :
    numberValue negative (decimalParts d) = floatValue negative (decimalParts d) := by
  unfold decimalParts positionalParts scientificParts
  split_ifs <;> rfl

end CatalogFilter.Json
