import CatalogFilter.Number.Hexadecimal

/-!
# The words of a TOML document

Blanks, comments, ends of lines, and the four ways to write a text. Each reader takes the text
that is left and returns what it read with the text after it, or nothing.

## Main definitions

* `Toml.skipBlanks`, `Toml.skipComment`, `Toml.skipLineEnd?`: what stands between words.
* `Toml.skipPadding`: blanks, comments and ends of lines inside a list.
* `Toml.readString?`: a text on one line or several.
* `Toml.readKey?`: a key with its parts.
-/

namespace CatalogFilter.Toml

/-! ### Between words -/

/-- The characters that count as blanks. -/
def isBlank (c : Char) : Bool :=
  c == ' ' || c == '\t'

/-- The text without the blanks at its start. -/
def skipBlanks (cs : List Char) : List Char :=
  cs.dropWhile isBlank

/-- The characters that may stand in a comment. -/
def isCommentChar (c : Char) : Bool :=
  c == '\t' || (0x20 ≤ c.toNat && c.toNat != 0x7F)

/-- The text after a comment, if it starts with one. -/
def skipComment : List Char → List Char
  | '#' :: cs => cs.dropWhile isCommentChar
  | cs => cs

/-- The text after an end of line. -/
def skipNewline? : List Char → Option (List Char)
  | '\n' :: cs => some cs
  | '\r' :: '\n' :: cs => some cs
  | _ => none

/-- The text after the rest of a line that holds nothing but a comment. -/
def skipLineEnd? (cs : List Char) : Option (List Char) :=
  match skipComment (skipBlanks cs) with
  | [] => some []
  | rest => skipNewline? rest

/-- The text after the blanks, comments and ends of lines inside a list; `fuel` bounds the number
of lines. -/
def skipPaddingWith : (fuel : Nat) → List Char → List Char
  | 0, cs => cs
  | fuel + 1, cs =>
      match skipNewline? (skipComment (skipBlanks cs)) with
      | some rest => skipPaddingWith fuel rest
      | none => skipBlanks cs

/-- The text after the blanks, comments and ends of lines inside a list. -/
def skipPadding (cs : List Char) : List Char :=
  skipPaddingWith cs.length cs

/-! ### Texts -/

/-- The characters that stand for themselves in a text, apart from those that end or escape. -/
def isTextChar (c : Char) : Bool :=
  isCommentChar c

/-- The character whose number is written with `count` hexadecimal digits. -/
def readCodePoint? (count : Nat) (cs : List Char) : Option (Char × List Char) := do
  let n ← Hexadecimal.number? (cs.take count)
  if (cs.take count).length = count ∧ n.isValidChar then some (Char.ofNat n, cs.drop count)
  else none

/-- The character that an escape stands for, after the backslash. -/
def readEscape? : List Char → Option (Char × List Char)
  | 'b' :: cs => some (Char.ofNat 0x08, cs)
  | 't' :: cs => some ('\t', cs)
  | 'n' :: cs => some ('\n', cs)
  | 'f' :: cs => some (Char.ofNat 0x0C, cs)
  | 'r' :: cs => some ('\r', cs)
  | '"' :: cs => some ('"', cs)
  | '\\' :: cs => some ('\\', cs)
  | 'u' :: cs => readCodePoint? 4 cs
  | 'U' :: cs => readCodePoint? 8 cs
  | _ => none

/-- The rest of a text on one line after its opening double quote. -/
def readBasicWith : (fuel : Nat) → List Char → Option (List Char × List Char)
  | 0, _ => none
  | _, [] => none
  | fuel + 1, c :: cs =>
      if c = '"' then some ([], cs)
      else if c = '\\' then do
        let (d, rest) ← readEscape? cs
        let (ds, rest) ← readBasicWith fuel rest
        return (d :: ds, rest)
      else if isTextChar c then do
        let (ds, rest) ← readBasicWith fuel cs
        return (c :: ds, rest)
      else none

/-- The rest of a text on one line after its opening double quote. -/
def readBasic? (cs : List Char) : Option (List Char × List Char) :=
  readBasicWith (cs.length + 1) cs

/-- The rest of a text on one line after its opening single quote. There are no escapes. -/
def readLiteral? (cs : List Char) : Option (List Char × List Char) :=
  match cs.dropWhile fun c => isTextChar c && c != '\'' with
  | '\'' :: rest => some (cs.takeWhile fun c => isTextChar c && c != '\'', rest)
  | _ => none

/-- The text after its first end of line, which does not belong to a text on several lines. -/
def skipFirstNewline (cs : List Char) : List Char :=
  (skipNewline? cs).getD cs

/-- The text without the blanks and ends of lines at its start. -/
def skipBlankLines : List Char → List Char
  | ' ' :: cs => skipBlankLines cs
  | '\t' :: cs => skipBlankLines cs
  | '\n' :: cs => skipBlankLines cs
  | '\r' :: '\n' :: cs => skipBlankLines cs
  | cs => cs

/-- The text after a backslash at the end of a line, with all blanks and ends of lines that
follow. -/
def skipContinuation? (cs : List Char) : Option (List Char) :=
  (skipNewline? (skipBlanks cs)).map skipBlankLines

/-- A row of `count` quotes inside a text on several lines: from three on it ends the text, and
at most two of the quotes before those three belong to it. -/
def quoteRun (quote : Char) (cs : List Char) : List Char × Bool × List Char :=
  let count := (cs.takeWhile (· == quote)).length
  if count < 3 then (List.replicate count quote, false, cs.drop count)
  else
    let inner := min (count - 3) 2
    (List.replicate inner quote, true, cs.drop (inner + 3))

/-- The rest of a text on several lines. With double quotes there are escapes. -/
def readBlockWith (quote : Char) : (fuel : Nat) → List Char → Option (List Char × List Char)
  | 0, _ => none
  | _, [] => none
  | fuel + 1, c :: cs =>
      if c = quote then
        let (quotes, ends, rest) := quoteRun quote (c :: cs)
        if ends then some (quotes, rest)
        else do
          let (ds, rest) ← readBlockWith quote fuel rest
          return (quotes ++ ds, rest)
      else if c = '\\' ∧ quote = '"' then
        match skipContinuation? cs with
        | some rest => readBlockWith quote fuel rest
        | none => do
            let (d, rest) ← readEscape? cs
            let (ds, rest) ← readBlockWith quote fuel rest
            return (d :: ds, rest)
      else
        match skipNewline? (c :: cs) with
        | some rest => do
            let (ds, rest) ← readBlockWith quote fuel rest
            return ('\n' :: ds, rest)
        | none =>
            if isTextChar c then do
              let (ds, rest) ← readBlockWith quote fuel cs
              return (c :: ds, rest)
            else none

/-- The rest of a text on several lines after its opening quotes. -/
def readBlock? (quote : Char) (cs : List Char) : Option (List Char × List Char) :=
  let body := skipFirstNewline cs
  readBlockWith quote (body.length + 1) body

/-- A text. -/
def readString? : List Char → Option (List Char × List Char)
  | '"' :: '"' :: '"' :: cs => readBlock? '"' cs
  | '\'' :: '\'' :: '\'' :: cs => readBlock? '\'' cs
  | '"' :: cs => readBasic? cs
  | '\'' :: cs => readLiteral? cs
  | _ => none

/-! ### Keys -/

/-- The characters of a key without quotes. -/
def isKeyChar (c : Char) : Bool :=
  c.isAlphanum || c == '_' || c == '-'

/-- One part of a key. -/
def readKeyPart? : List Char → Option (String × List Char)
  | '"' :: cs => (readBasic? cs).map fun (s, rest) => (.ofList s, rest)
  | '\'' :: cs => (readLiteral? cs).map fun (s, rest) => (.ofList s, rest)
  | cs =>
      let part := cs.takeWhile isKeyChar
      if part.isEmpty then none else some (.ofList part, cs.dropWhile isKeyChar)

/-- The parts of a key, with points between them and blanks around them. -/
def readKeyWith : (fuel : Nat) → List Char → Option (List String × List Char)
  | 0, _ => none
  | fuel + 1, cs => do
      let (part, rest) ← readKeyPart? (skipBlanks cs)
      match skipBlanks rest with
      | '.' :: rest => do
          let (parts, rest) ← readKeyWith fuel rest
          return (part :: parts, rest)
      | rest => return ([part], rest)

/-- The number of parts that a key may have, and of lists and tables that may be open at once. -/
def maxDepth : Nat := 79

/-- A key: its parts, up to the first character that belongs to neither it nor the blanks after
it. -/
def readKey? (cs : List Char) : Option (List String × List Char) :=
  readKeyWith maxDepth cs

end CatalogFilter.Toml
