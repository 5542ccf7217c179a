/-!
# Cells of a table

Lengths count characters. A cell is padded with spaces on the right, and a cell that is too long
is cut and marked with three dots.

## Main definitions

* `Text.padRight`: a cell filled up to a width.
* `Text.truncate`: a cell cut to at most a width.
-/

namespace CatalogFilter.Text

/-- The text followed by as many spaces as it is short of `width` characters. -/
def padRight (width : Nat) (cs : List Char) : List Char :=
  cs ++ List.replicate (width - cs.length) ' '

/-- The marker at the end of a text that was cut. -/
def ellipsis : List Char := ['.', '.', '.']

/-- A text of at most `width` characters as it is; of a longer one the start and the marker,
together `width` characters (or the marker alone, if `width` is smaller than that). -/
def truncate (width : Nat) (cs : List Char) : List Char :=
  if width < cs.length then cs.take (width - ellipsis.length) ++ ellipsis else cs

@[simp] theorem length_padRight (width : Nat) (cs : List Char) :
    (padRight width cs).length = max width cs.length := by
  simp [padRight]; omega

end CatalogFilter.Text
