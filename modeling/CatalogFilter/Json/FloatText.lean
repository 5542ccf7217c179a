import CatalogFilter.Number.Shortest

/-!
# Floating point numbers in JSON

A finite number is written with its shortest digits. Exponents from `-5` to `15` are written out
with at least one digit on each side of the point, others after the letter `e`, with a sign always
present. A number that is not finite has no JSON form and is written `null`.

## Main definitions

* `Json.writePositional`, `Json.writeScientific`: the two ways to write digits.
* `Json.writeFloat`: the text of a number.
-/

namespace CatalogFilter.Json

/-- The digits written out around a point. -/
def writePositional (d : Shortest.Digits) : List Char :=
  if 0 ≤ d.exponent then
    let places := d.exponent.toNat + 1
    let whole := d.digits.take places ++ List.replicate (places - d.digits.length) '0'
    let fraction := d.digits.drop places
    whole ++ '.' :: (if fraction.isEmpty then ['0'] else fraction)
  else
    '0' :: '.' :: (List.replicate ((-d.exponent).toNat - 1) '0' ++ d.digits)

/-- The digits with a point after the first one, if there are more, and the power of ten. -/
def writeScientific (d : Shortest.Digits) : List Char :=
  let mantissa := match d.digits with
    | first :: rest => if rest.isEmpty then [first] else first :: '.' :: rest
    | [] => []
  let exponent := if d.exponent < 0 then Numeral.printInt d.exponent
    else '+' :: Numeral.printInt d.exponent
  mantissa ++ 'e' :: exponent

/-- The exponents that are written out. -/
def isPositional (exponent : Int) : Bool :=
  -5 ≤ exponent && exponent ≤ 15

/-- The text of a floating point number. -/
def writeFloat (x : Binary64) : List Char :=
  if x.isFinite then
    let d := Shortest.digits x
    let magnitude := if isPositional d.exponent then writePositional d else writeScientific d
    if x.negative then '-' :: magnitude else magnitude
  else "null".toList

end CatalogFilter.Json
