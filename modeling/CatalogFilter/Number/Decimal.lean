import CatalogFilter.Number.Binary64
import CatalogFilter.Number.Numeral

/-!
# Decimal literals

The literals a numeric value may be written with:

```text
number   ::= sign? ( digits ( "." digits? )? | "." digits ) exponent?
sign     ::= "+" | "-"
exponent ::= ( "e" | "E" ) sign? digits
```

A literal is read into its sign, its digits as one number and a power of ten, which is its exact
value; rounding to a floating point number is a separate step.

## Main definitions

* `Decimal`: a signed natural number times a power of ten.
* `Decimal.read?`: the decimal that a literal denotes.
* `Decimal.toBinary64`: the floating point number nearest to a decimal.
-/

namespace CatalogFilter

/-- The number `± coefficient * 10 ^ exponent`. -/
structure Decimal where
  /-- The number is written with a minus sign. -/
  negative : Bool
  /-- The digits, read as one number. -/
  coefficient : Nat
  /-- The power of ten. -/
  exponent : Int
deriving DecidableEq

namespace Decimal

/-! ### Reading -/

/-- The sign at the start of a text, and the text after it. -/
def readSign : List Char → Bool × List Char
  | '-' :: rest => (true, rest)
  | '+' :: rest => (false, rest)
  | cs => (false, cs)

/-- The digits after a point at the start of a text, and the text after them. -/
def readFraction : List Char → List Char × List Char
  | '.' :: rest => (Numeral.leadingDigits rest, Numeral.afterDigits rest)
  | cs => ([], cs)

/-- The power of ten that a whole text states: none if the text is empty. -/
def readExponent? : List Char → Option Int
  | [] => some 0
  | c :: rest =>
      let (negative, ds) := readSign rest
      if (c = 'e' ∨ c = 'E') ∧ Numeral.isDigits ds then
        some (if negative then -(Numeral.value ds : Int) else Numeral.value ds)
      else none

/-- The decimal that a literal denotes. -/
def read? (cs : List Char) : Option Decimal :=
  let (negative, cs) := readSign cs
  let whole := Numeral.leadingDigits cs
  let (fraction, rest) := readFraction (Numeral.afterDigits cs)
  if whole.isEmpty && fraction.isEmpty then none
  else
    (readExponent? rest).map fun e =>
      ⟨negative, Numeral.value (whole ++ fraction), e - fraction.length⟩

/-! ### Rounding -/

/-- The magnitude as a quotient of natural numbers. -/
def ratio (d : Decimal) : Nat × Nat :=
  if 0 ≤ d.exponent then (d.coefficient * tenPow d.exponent.toNat, 1)
  else (d.coefficient, tenPow (-d.exponent).toNat)

/-- The magnitude is at least `10 ^ 400`, beyond every finite number of the format. -/
def isHuge (d : Decimal) : Bool :=
  d.coefficient != 0 && 400 ≤ d.exponent

/-- The magnitude is below `2 ^ (-1100)`, nearer to zero than to every other number of the format:
the coefficient is below `2 ^ (log2 + 1)` and ten is above `2 ^ 3`. -/
def isTiny (d : Decimal) : Bool :=
  d.coefficient == 0 || (d.coefficient.log2 : Int) + 1 + 3 * d.exponent < -1100

/-- The floating point number nearest to the decimal. Powers of ten that are out of reach are
decided before they are formed. -/
def toBinary64 (d : Decimal) : Binary64 :=
  if d.isTiny then Binary64.zero d.negative
  else if d.isHuge then Binary64.ofRank d.negative (2047 * fractionCount)
  else Binary64.ofRatio d.negative d.ratio.1 d.ratio.2

end Decimal

end CatalogFilter
