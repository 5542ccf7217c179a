/-!
# Decimal numerals

Natural numbers written with the ten ASCII digits, and read back.

## Main definitions

* `Numeral.print`: the digits of a number, most significant first, without leading zeros.
* `Numeral.value`: the number that a row of digits denotes.
* `Numeral.readPositive?`: a whole number from 1 to the largest that 32 bits hold.
-/

namespace CatalogFilter.Numeral

/-- The value of a digit. -/
def digitValue (c : Char) : Nat :=
  c.toNat - '0'.toNat

/-- The number that a row of digits denotes; an empty row denotes zero. -/
def value (ds : List Char) : Nat :=
  ds.foldl (fun n c => 10 * n + digitValue c) 0

/-- The digits of a number, most significant first. -/
def print (n : Nat) : List Char :=
  Nat.toDigits 10 n

/-- A number with a minus sign in front if it is negative. -/
def printInt : Int → List Char
  | .ofNat n => print n
  | .negSucc n => '-' :: print (n + 1)

/-- The digits at the start of a text. -/
def leadingDigits (cs : List Char) : List Char :=
  cs.takeWhile Char.isDigit

/-- The text after the digits at its start. -/
def afterDigits (cs : List Char) : List Char :=
  cs.dropWhile Char.isDigit

/-- The text is a row of one or more digits. -/
def isDigits (cs : List Char) : Bool :=
  !cs.isEmpty && cs.all Char.isDigit

/-- The largest number that 32 bits hold. -/
def maxWord : Nat := 4294967295

/-- Reads a whole number from 1 to `maxWord`. A plus sign and leading zeros are accepted, nothing
else besides the digits is. -/
def readPositive? (cs : List Char) : Option Nat :=
  let ds := match cs with
    | '+' :: rest => rest
    | _ => cs
  if isDigits ds && 1 ≤ value ds && value ds ≤ maxWord then some (value ds) else none

end CatalogFilter.Numeral
