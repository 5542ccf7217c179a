import CatalogFilter.Toml.Literal
import CatalogFilter.Toml.Scan

/-!
# TOML documents

A document is a row of statements: headers that open a table, and pairs that put a value into the
open table. A statement must not define anything twice, and it must not add to a table that is
closed.

## Main definitions

* `Toml.readValue?`: a value.
* `Toml.Statement`, `Toml.readStatements?`: the statements of a text.
* `Toml.insertAt?`, `Toml.openAt?`: what a statement does to the tables.
* `Toml.parse?`: the table of a whole document.
-/

namespace CatalogFilter.Toml

/-! ### Adding to tables -/

/-- The table of the given kind may be entered on the way to a key. -/
def TableKind.isOpen : TableKind → Bool
  | .passed => true
  | .dotted => true
  | .header => false
  | .inline => false

/-- Changes the table that a path leads to. With `dotted` the path is part of a key and may enter
only tables that no header has defined; otherwise it is part of a header. The function gets the
kind of the table too. Tables that are missing on the way are made. -/
def changeAt? (dotted : Bool) (change : TableKind → Entries → Option Entries) :
    List String → TableKind → Entries → Option Entries
  | [], kind, es => change kind es
  | k :: ks, _, es =>
      match es.lookup k with
      | none => do
          let kind : TableKind := if dotted then .dotted else .passed
          let inner ← changeAt? dotted change ks kind []
          return es.set k (.table kind inner)
      | some (.table kind inner) =>
          if kind = .inline || dotted && !kind.isOpen then none
          else do
            let inner ← changeAt? dotted change ks kind inner
            return es.set k (.table kind inner)
      | some (.tables items) =>
          match items.getLast? with
          | some last => do
              let last ← changeAt? dotted change ks .header last
              return es.set k (.tables (items.dropLast ++ [last]))
          | none => none
      | some _ => none

/-- Adds a value under a key that is not in the table yet. -/
def addEntry? (key : String) (v : Value) (es : Entries) : Option Entries :=
  match es.lookup key with
  | some _ => none
  | none => some (es ++ [(key, v)])

/-- Adds a value under a dotted key. The table that holds it is either the one at hand or one that
only dotted keys have named. -/
def insertAt? (key : List String) (v : Value) (es : Entries) : Option Entries :=
  match key.getLast? with
  | none => none
  | some last =>
      changeAt? true
        (fun kind es =>
          if key.length = 1 || kind = .dotted then addEntry? last v es else none)
        key.dropLast .header es

/-! ### Reading values -/

mutual

/-- A value that may open at most `depth` lists and tables; `fuel` bounds the number of steps. -/
def readValueWith (fuel depth : Nat) (cs : List Char) : Option (Value × List Char) :=
  match fuel with
  | 0 => none
  | fuel + 1 =>
      match cs with
      | '"' :: _ => (readString? cs).map fun (s, rest) => (.string (.ofList s), rest)
      | '\'' :: _ => (readString? cs).map fun (s, rest) => (.string (.ofList s), rest)
      | '[' :: rest =>
          match depth with
          | 0 => none
          | depth + 1 => do
              let (items, rest) ← readItems fuel depth rest
              return (.array items, rest)
      | '{' :: rest =>
          match depth with
          | 0 => none
          | depth + 1 => do
              let (entries, rest) ← readInline fuel depth rest
              return (.table .inline entries, rest)
      | _ => readLiteralValue? cs
termination_by structural fuel

/-- The items of a list after its opening bracket or after a comma, where it may end. -/
def readItems (fuel depth : Nat) (cs : List Char) : Option (List Value × List Char) :=
  match fuel with
  | 0 => none
  | fuel + 1 =>
      match skipPadding cs with
      | ']' :: rest => some ([], rest)
      | rest => do
          let (v, rest) ← readValueWith fuel depth rest
          match skipPadding rest with
          | ']' :: rest => return ([v], rest)
          | ',' :: rest => do
              let (vs, rest) ← readItems fuel depth rest
              return (v :: vs, rest)
          | _ => none
termination_by structural fuel

/-- The contents of a table after its opening brace. -/
def readInline (fuel depth : Nat) (cs : List Char) : Option (Entries × List Char) :=
  match fuel with
  | 0 => none
  | fuel + 1 =>
      match skipBlanks cs with
      | '}' :: rest => some ([], rest)
      | rest => readPairs fuel depth [] rest
termination_by structural fuel

/-- The further pairs of a table between braces, of which there is at least one. -/
def readPairs (fuel depth : Nat) (es : Entries) (cs : List Char) :
    Option (Entries × List Char) :=
  match fuel with
  | 0 => none
  | fuel + 1 => do
      let (key, rest) ← readKey? cs
      match rest with
      | '=' :: rest => do
          let (v, rest) ← readValueWith fuel depth (skipBlanks rest)
          let es ← insertAt? key v es
          match skipBlanks rest with
          | '}' :: rest => return (es, rest)
          | ',' :: rest => readPairs fuel depth es rest
          | _ => none
      | _ => none
termination_by structural fuel

end

/-- A value. -/
def readValue? (cs : List Char) : Option (Value × List Char) :=
  readValueWith (3 * cs.length + 3) maxDepth cs

/-! ### Statements -/

/-- A statement of a document. -/
inductive Statement where
  /-- A value under a key of the open table. -/
  | pair (key : List String) (v : Value)
  /-- A header that opens a table. -/
  | header (key : List String)
  /-- A header that opens a new table at the end of a list. -/
  | item (key : List String)

/-- The text after a word. -/
def expect? (word cs : List Char) : Option (List Char) :=
  if word.isPrefixOf cs then some (cs.drop word.length) else none

/-- A header or pair, and the text after its line. -/
def readStatement? (cs : List Char) : Option (Statement × List Char) :=
  match cs with
  | '[' :: '[' :: rest => do
      let (key, rest) ← readKey? rest
      let rest ← expect? [']', ']'] rest
      return (.item key, ← skipLineEnd? rest)
  | '[' :: rest => do
      let (key, rest) ← readKey? rest
      let rest ← expect? [']'] rest
      return (.header key, ← skipLineEnd? rest)
  | rest => do
      let (key, rest) ← readKey? rest
      let rest ← expect? ['='] rest
      let (v, rest) ← readValue? (skipBlanks rest)
      return (.pair key v, ← skipLineEnd? rest)

/-- The statements of a text; `fuel` bounds the number of lines. -/
def readStatementsWith : (fuel : Nat) → List Char → Option (List Statement)
  | 0, _ => none
  | fuel + 1, cs =>
      match skipBlanks cs with
      | [] => some []
      | rest =>
          match skipLineEnd? rest with
          | some rest => readStatementsWith fuel rest
          | none => do
              let (s, rest) ← readStatement? rest
              let ss ← readStatementsWith fuel rest
              return s :: ss

/-- The mark that may stand at the very start of a text. -/
def byteOrderMark : Char := Char.ofNat 0xFEFF

/-- The statements of a text. -/
def readStatements? (cs : List Char) : Option (List Statement) :=
  let body := match cs with
    | c :: rest => if c = byteOrderMark then rest else cs
    | [] => []
  readStatementsWith (body.length + 1) body

/-! ### The tables of a document -/

/-- Opens the table of a header. It may exist only if headers have passed through it. -/
def openTable? (key : String) (es : Entries) : Option Entries :=
  match es.lookup key with
  | none => some (es ++ [(key, .table .header [])])
  | some (.table .passed inner) => some (es.set key (.table .header inner))
  | some _ => none

/-- Opens a new table at the end of a list. -/
def openItem? (key : String) (es : Entries) : Option Entries :=
  match es.lookup key with
  | none => some (es ++ [(key, .tables [[]])])
  | some (.tables items) => some (es.set key (.tables (items ++ [[]])))
  | some _ => none

/-- Opens what the last part of a header's key names, in the table that the other parts lead
to. -/
def openAt? (opening : String → Entries → Option Entries) (key : List String) (es : Entries) :
    Option Entries :=
  match key.getLast? with
  | some last => changeAt? false (fun _ => opening last) key.dropLast .header es
  | none => none

/-- The document after one statement, with the key of the table that is open then. -/
def advance? (state : Entries × List String) : Statement → Option (Entries × List String)
  | .pair key v => do
      let es ← changeAt? false (fun _ => insertAt? key v) state.2 .header state.1
      return (es, state.2)
  | .header key => do return (← openAt? openTable? key state.1, key)
  | .item key => do return (← openAt? openItem? key state.1, key)

/-- The table of a whole document. -/
def parse? (s : String) : Option Entries := do
  let statements ← readStatements? s.toList
  let (es, _) ← statements.foldlM advance? ([], [])
  return es

end CatalogFilter.Toml
