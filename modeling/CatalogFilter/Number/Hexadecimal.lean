/-!
# Hexadecimal digits

## Main definitions

* `Hexadecimal.digit`: the digit of a number below sixteen.
* `Hexadecimal.value?`: the number of a digit.
* `Hexadecimal.number?`: the number of a row of digits.
-/

namespace CatalogFilter.Hexadecimal

/-- The digit of a number below sixteen, in lowercase. -/
def digit (n : Nat) : Char :=
  Nat.digitChar n

/-- The value of a digit of either case. -/
def value? (c : Char) : Option Nat :=
  let n := c.toNat
  if 0x30 ≤ n ∧ n ≤ 0x39 then some (n - 0x30)
  else if 0x41 ≤ n ∧ n ≤ 0x46 then some (n - 0x41 + 10)
  else if 0x61 ≤ n ∧ n ≤ 0x66 then some (n - 0x61 + 10)
  else none

/-- The number that a row of digits denotes. -/
def number? (cs : List Char) : Option Nat :=
  (cs.mapM value?).map fun ds => ds.foldl (fun n d => 16 * n + d) 0

end CatalogFilter.Hexadecimal
