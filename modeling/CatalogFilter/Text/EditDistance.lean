/-!
# Edit distance

The distance between two words is the least number of single-item insertions, deletions and
substitutions that turn one into the other. It is computed row by row: the row of a word `w`
against a fixed word `v` lists the distances from `w` to every prefix of `v`, the empty one first.

## Main definitions

* `Text.EditDistance.firstRow`, `Text.EditDistance.nextRow`: the row of the empty word, and the
  row of a word with one more item at its end.
* `Text.editDistance`: the last entry of the last row.
-/

namespace CatalogFilter.Text

variable {α : Type} [DecidableEq α]

namespace EditDistance

/-- The row of the empty word: a prefix of length `n` is `n` insertions away. -/
def firstRow (v : List α) : List Nat :=
  List.range (v.length + 1)

/-- The entries of the next row after its first one. `left` is the entry just computed, `diagonal`
and the head of `above` are the entries of the previous row for the shorter and for the same
prefix. -/
def fillRow (a : α) : (left diagonal : Nat) → (v : List α) → (above : List Nat) → List Nat
  | left, diagonal, b :: v, up :: above =>
      let entry := min (min (left + 1) (up + 1)) (diagonal + if a = b then 0 else 1)
      entry :: fillRow a entry up v above
  | _, _, _, _ => []

/-- The row of a word followed by `a`, from the row of the word. -/
def nextRow (v : List α) (row : List Nat) (a : α) : List Nat :=
  match row with
  | [] => []
  | diagonal :: above => (diagonal + 1) :: fillRow a (diagonal + 1) diagonal v above

end EditDistance

/-- The least number of insertions, deletions and substitutions of single items that turn `w`
into `v`. -/
def editDistance (w v : List α) : Nat :=
  (w.foldl (EditDistance.nextRow v) (EditDistance.firstRow v)).getLast?.getD 0

end CatalogFilter.Text
