/-!
# Blank characters and trimming

Rule text, settings values and fields are trimmed of the characters that have the Unicode
property `White_Space`. The property is given here as a table of ranges, and trimming works on
lists of characters, so that statements about it are statements about `List.dropWhile`.

## Main definitions

* `Text.isBlank`: the characters with the property `White_Space`.
* `Text.trimStart`, `Text.trimEnd`, `Text.trim`: a text without the blank characters at its
  start, at its end, and at both.
-/

namespace CatalogFilter.Text

/-- The characters with the Unicode property `White_Space`: the five controls from the tab to the
carriage return, the space, and the blanks outside ASCII. -/
def isBlank (c : Char) : Bool :=
  let n := c.toNat
  (0x09 ≤ n && n ≤ 0x0D) || n == 0x20 || n == 0x85 || n == 0xA0 || n == 0x1680 ||
    (0x2000 ≤ n && n ≤ 0x200A) || n == 0x2028 || n == 0x2029 || n == 0x202F || n == 0x205F ||
    n == 0x3000

/-- The text without the blank characters at its start. -/
def trimStart (cs : List Char) : List Char :=
  cs.dropWhile isBlank

/-- The text without the blank characters at its end. -/
def trimEnd (cs : List Char) : List Char :=
  (cs.reverse.dropWhile isBlank).reverse

/-- The text without the blank characters at either end. -/
def trim (cs : List Char) : List Char :=
  trimEnd (trimStart cs)

@[simp] theorem trimStart_nil : trimStart [] = [] := rfl

@[simp] theorem trimEnd_nil : trimEnd [] = [] := rfl

@[simp] theorem trim_nil : trim [] = [] := rfl

end CatalogFilter.Text
