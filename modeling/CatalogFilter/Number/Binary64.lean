import CatalogFilter.Number.Power

/-!
# Binary floating point numbers of 64 bits

A number is held by the three parts of its format: a sign, an exponent of eleven bits and a
fraction of fifty-two. All arithmetic is exact arithmetic on natural numbers followed by one
rounding, to the nearest number of the format and to the even one of two equally near, so that
statements about it are statements about natural numbers.

## Main definitions

* `Binary64`: the type, with `Binary64.ofBits` and `Binary64.toBits`.
* `Binary64.significand`, `Binary64.scale`: a finite number is `significand * 2 ^ scale`.
* `Binary64.ofRatio`: the number nearest to a quotient.
* `Binary64.mul`, `Binary64.div`: rounded products and quotients of finite magnitudes.
* `Binary64.toInt?`: the integer that the number is, if it is one.
-/

namespace CatalogFilter

/-- The number of fractions, `2 ^ 52`. -/
abbrev fractionCount : Nat := 4503599627370496

/-- A floating point number with eleven bits of exponent and fifty-two bits of fraction. -/
structure Binary64 where
  /-- The sign bit. -/
  negative : Bool
  /-- The stored exponent; `0` marks the numbers around zero, `2047` the values that are not
  finite. -/
  exponent : Fin 2048
  /-- The bits after the binary point. -/
  fraction : Fin fractionCount
deriving DecidableEq

namespace Binary64

/-! ### Bits -/

/-- The number whose bits, read as a number of 64 bits, are `n`. -/
def ofBits (n : Nat) : Binary64 where
  negative := n / (2048 * fractionCount) % 2 == 1
  exponent := ⟨n / fractionCount % 2048, Nat.mod_lt _ (by decide)⟩
  fraction := ⟨n % fractionCount, Nat.mod_lt _ (by decide)⟩

/-- The bits of the number, read as a number of 64 bits. -/
def toBits (x : Binary64) : Nat :=
  (if x.negative then 2048 * fractionCount else 0) + x.exponent.val * fractionCount
    + x.fraction.val

/-- The number is neither infinite nor the outcome of an undefined operation. -/
def isFinite (x : Binary64) : Bool :=
  x.exponent.val < 2047

/-! ### Value -/

/-- The integer that is scaled by a power of two. -/
def significand (x : Binary64) : Nat :=
  if x.exponent.val = 0 then x.fraction.val else fractionCount + x.fraction.val

/-- The exponent of the power of two. -/
def scale (x : Binary64) : Int :=
  (max x.exponent.val 1 : Nat) - 1075

/-- The magnitude is zero. -/
def isZero (x : Binary64) : Bool :=
  x.significand == 0

/-- The magnitude `m * 2 ^ q` as a quotient of natural numbers. -/
def ratioOf (m : Nat) (q : Int) : Nat × Nat :=
  if 0 ≤ q then (m * twoPow q.toNat, 1) else (m, twoPow (-q).toNat)

/-- The magnitude of the number as a quotient of natural numbers. -/
def ratio (x : Binary64) : Nat × Nat :=
  ratioOf x.significand x.scale

/-- The integer that a finite number is, if it is one. -/
def toInt? (x : Binary64) : Option Int :=
  let (num, den) := x.ratio
  if x.isFinite && num % den == 0 then
    some (if x.negative then -(num / den : Nat) else (num / den : Nat))
  else none

/-! ### Rounding -/

/-- The natural number nearest to `num / den`, the even one of two equally near. -/
def roundHalfEven (num den : Nat) : Nat :=
  let down := num / den
  let excess := 2 * (num % den)
  if excess < den then down
  else if den < excess then down + 1
  else if down % 2 = 0 then down
  else down + 1

/-- `num / den` divided by `2 ^ q`, as a quotient of natural numbers. -/
def scaled (num den : Nat) (q : Int) : Nat × Nat :=
  if 0 ≤ q then (num, den * twoPow q.toNat) else (num * twoPow (-q).toNat, den)

/-- The least exponent of the format. -/
def minScale : Int := -1074

/-- The exponent at which `num / den` is rounded: the one that leaves fifty-three bits before the
binary point, but not below the least exponent of the format. -/
def roundingScale (num den : Nat) : Int :=
  let q := (num.log2 : Int) - den.log2 - 53
  let (n, d) := scaled num den q
  max (if n < 2 * fractionCount * d then q else q + 1) minScale

/-- The magnitudes of the format in increasing order, counted from zero; counts past the largest
finite magnitude give infinity. -/
def ofRank (negative : Bool) (rank : Nat) : Binary64 :=
  if rank < 2047 * fractionCount then
    { negative
      exponent := ⟨rank / fractionCount % 2048, Nat.mod_lt _ (by decide)⟩
      fraction := ⟨rank % fractionCount, Nat.mod_lt _ (by decide)⟩ }
  else { negative, exponent := 2047, fraction := 0 }

/-- Zero with a sign. -/
def zero (negative : Bool) : Binary64 :=
  ofRank negative 0

/-- The number of the format nearest to `num / den`, infinity if that is too large. A magnitude
`m * 2 ^ q` has the rank `(q - minScale) * 2 ^ 52 + m`, also when rounding carries `m` to
`2 ^ 53`. -/
def ofRatio (negative : Bool) (num den : Nat) : Binary64 :=
  if num = 0 then zero negative
  else
    let q := roundingScale num den
    let (n, d) := scaled num den q
    ofRank negative ((q - minScale).toNat * fractionCount + roundHalfEven n d)

/-- The number of the format nearest to a natural number. -/
def ofNat (n : Nat) : Binary64 :=
  ofRatio false n 1

/-- The rounded product of two finite numbers. -/
def mul (x y : Binary64) : Binary64 :=
  let (a, b) := x.ratio
  let (c, d) := y.ratio
  ofRatio (x.negative ^^ y.negative) (a * c) (b * d)

/-- The rounded quotient of a finite number by a finite number other than zero. -/
def div (x y : Binary64) : Binary64 :=
  let (a, b) := x.ratio
  let (c, d) := y.ratio
  ofRatio (x.negative ^^ y.negative) (a * d) (b * c)

/-- The number with the other sign. -/
def neg (x : Binary64) : Binary64 :=
  { x with negative := !x.negative }

end Binary64

end CatalogFilter
