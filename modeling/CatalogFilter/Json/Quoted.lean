import CatalogFilter.Number.Hexadecimal

/-!
# JSON strings

A text between quotes. Quotes, backslashes and control characters are written as escapes, every
other character is written as it is.

## Main definitions

* `Json.escape`: how one character is written.
* `Json.quote`: a text between quotes.
-/

namespace CatalogFilter.Json

/-- How a character is written inside a string. -/
def escape (c : Char) : List Char :=
  if c = '"' then ['\\', '"']
  else if c = '\\' then ['\\', '\\']
  else if 0x20 ≤ c.toNat then [c]
  else if c.toNat = 0x08 then ['\\', 'b']
  else if c = '\t' then ['\\', 't']
  else if c = '\n' then ['\\', 'n']
  else if c.toNat = 0x0C then ['\\', 'f']
  else if c = '\r' then ['\\', 'r']
  else ['\\', 'u', '0', '0', Hexadecimal.digit (c.toNat / 16), Hexadecimal.digit (c.toNat % 16)]

/-- The text between quotes. -/
def quote (s : String) : List Char :=
  '"' :: s.toList.flatMap escape ++ ['"']

end CatalogFilter.Json
