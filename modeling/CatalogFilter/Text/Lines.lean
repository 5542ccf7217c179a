import CatalogFilter.Text.Blank

/-!
# Lines of a text

A text is cut at every line feed. The lines that count are those that still hold something after
trimming and do not start with the comment mark; a carriage return before the line feed is blank
and disappears with the rest of the padding.

## Main definitions

* `Text.lines`: the pieces of a text between its line feeds.
* `Text.joinLines`: lines put together again, with a line feed between two of them.
* `Text.significantLines`: the trimmed lines that are neither blank nor comments.
-/

namespace CatalogFilter.Text

/-- The mark that makes a line a comment. -/
def commentMark : Char := '#'

/-- The pieces of the text between its line feeds; the empty text has one, empty, piece. -/
def lines (cs : List Char) : List (List Char) :=
  cs.splitOn '\n'

/-- The lines in order, with a line feed between two neighbours. -/
def joinLines (ls : List (List Char)) : List Char :=
  ['\n'].intercalate ls

/-- A trimmed line counts when it is not empty and is not a comment. -/
def isSignificant (line : List Char) : Bool :=
  !line.isEmpty && line.head? != some commentMark

/-- The trimmed lines of the text that count, in order. -/
def significantLines (cs : List Char) : List (List Char) :=
  ((lines cs).map trim).filter isSignificant

end CatalogFilter.Text
