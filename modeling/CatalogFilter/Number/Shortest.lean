import CatalogFilter.Number.Binary64
import CatalogFilter.Number.Numeral

/-!
# The shortest decimal that reads back

A finite floating point number is written with the fewest digits that are read back as the same
number: of the decimals with that many digits, the one nearest to the number, and of two equally
near the one that ends in an even digit. A decimal is read back when it lies between the midpoints
to the two neighbours of the number, ends included when the significand is even.

The search is on the decimal grids of one, two, three and more digits: if a point of a grid lies
between the midpoints, so does one of the two grid points around the number.

## Main definitions

* `Shortest.Digits`: a decimal as its digits and the exponent of the first one.
* `Shortest.digits`: the shortest decimal of a finite magnitude.
-/

namespace CatalogFilter.Shortest

/-- The decimal `d.ddd * 10 ^ exponent`, its digits in order. -/
structure Digits where
  /-- The digits, the first one before the point. -/
  digits : List Char
  /-- The power of ten of the first digit. -/
  exponent : Int
deriving DecidableEq

/-- A magnitude with the midpoints to its neighbours, as numerators over one denominator. -/
structure Interval where
  /-- The numerator of the lower midpoint. -/
  low : Nat
  /-- The numerator of the magnitude. -/
  mid : Nat
  /-- The numerator of the upper midpoint. -/
  high : Nat
  /-- The denominator. -/
  den : Nat
  /-- The midpoints themselves are read back as the magnitude. -/
  closed : Bool

/-- The interval of a finite magnitude. The neighbour below a power of two is nearer than the one
above it, except at the smallest magnitudes. -/
def intervalOf (x : Binary64) : Interval :=
  let m := x.significand
  let below := if x.fraction.val = 0 ∧ 1 < x.exponent.val then 1 else 2
  let (unit, den) := Binary64.ratioOf 1 (x.scale - 2)
  { low := (4 * m - below) * unit
    mid := 4 * m * unit
    high := (4 * m + 2) * unit
    den
    closed := m % 2 == 0 }

/-- The decimal `k / 10 ^ places` (or `k * 10 ^ (-places)`) lies in the interval. -/
def Interval.contains (i : Interval) (places : Int) (k : Nat) : Bool :=
  let (num, den) :=
    if 0 ≤ places then (k, tenPow places.toNat) else (k * tenPow (-places).toNat, 1)
  let a := num * i.den
  if i.closed then i.low * den ≤ a && a ≤ i.high * den
  else i.low * den < a && a < i.high * den

/-- The power of ten of the first digit of a positive quotient. -/
def leadingExponent (num den : Nat) : Int :=
  if den ≤ num then (Numeral.print (num / den)).length - 1
  else
    let k := (Numeral.print (den / num)).length
    if den ≤ num * tenPow (k - 1) then 1 - (k : Int) else -(k : Int)

/-- The point of the grid with `places` decimals that is nearest to the magnitude among those in
the interval, the even one of two equally near. -/
def Interval.nearest? (i : Interval) (places : Int) : Option Nat :=
  let (num, den) :=
    if 0 ≤ places then (i.mid * tenPow places.toNat, i.den)
    else (i.mid, i.den * tenPow (-places).toNat)
  let down := num / den
  match i.contains places down, i.contains places (down + 1) with
  | true, true => some (Binary64.roundHalfEven num den)
  | true, false => some down
  | false, true => some (down + 1)
  | false, false => none

/-- The digits without the zeros at their end. -/
def stripZeros (ds : List Char) : List Char :=
  (ds.reverse.dropWhile (· == '0')).reverse

/-- Tries the grids with `count`, `count + 1`, … digits; `fuel` bounds their number. -/
def search (i : Interval) (exponent : Int) : (fuel count : Nat) → Digits
  | 0, _ => ⟨['0'], 0⟩
  | fuel + 1, count =>
      let places := (count : Int) - 1 - exponent
      match i.nearest? places with
      | some k =>
          let ds := Numeral.print k
          ⟨stripZeros ds, exponent + (ds.length - count)⟩
      | none => search i exponent fuel (count + 1)

/-- The shortest decimal that is read back as the magnitude. Seventeen digits always suffice. -/
def digits (x : Binary64) : Digits :=
  if x.isZero then ⟨['0'], 0⟩
  else
    let i := intervalOf x
    search i (leadingExponent i.mid i.den) 17 1

end CatalogFilter.Shortest
