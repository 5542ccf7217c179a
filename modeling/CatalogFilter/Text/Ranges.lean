/-!
# Classes of characters

A class of characters is given by the runs of their numbers, in increasing order.

## Main definitions

* `Text.inRanges`: the character belongs to a class.
-/

namespace CatalogFilter.Text

/-- The number of the character lies in one of the runs, each given by its first and last
number. -/
def inRanges (ranges : List (Nat × Nat)) (c : Char) : Bool :=
  ranges.any fun (first, last) => first ≤ c.toNat && c.toNat ≤ last

end CatalogFilter.Text
