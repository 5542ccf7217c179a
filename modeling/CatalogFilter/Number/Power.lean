/-!
# Powers of two and ten

The powers that the binary format and decimal numerals are made of.

## Main definitions

* `twoPow`, `tenPow`: the powers.
-/

namespace CatalogFilter

/-- Two to the power of `k`. -/
def twoPow (k : Nat) : Nat :=
  Nat.pow 2 k

/-- Ten to the power of `k`. -/
def tenPow (k : Nat) : Nat :=
  Nat.pow 10 k

end CatalogFilter
