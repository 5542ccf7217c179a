import CatalogFilter.Json.Scan

/-!
# Reading JSON

A value is read from left to right, so that the first fault of the text is the one reported.
Lists and objects may be nested to a fixed depth in a value that is read, and to any depth in one
that is passed over.

## Main definitions

* `Json.readValue`: a value, within a number of levels.
* `Json.skipValue`: the text after a value that is passed over.
* `Json.parse`: the value of a whole text.
-/

namespace CatalogFilter.Json

/-- The number of lists and objects that may be open at once. -/
def maxLevels : Nat := 127

mutual

/-- A value that may open at most `levels` further lists and objects; `fuel` bounds the number
of steps. -/
def readValueWith (fuel levels : Nat) (cs : List Char) : Except ReadError (Json × List Char) :=
  match fuel with
  | 0 => .error .truncated
  | fuel + 1 =>
      match skipBlanks cs with
      | [] => .error .truncated
      | 'n' :: rest => (expectWord ['u', 'l', 'l'] rest).map (.null, ·)
      | 't' :: rest => (expectWord ['r', 'u', 'e'] rest).map (.bool true, ·)
      | 'f' :: rest => (expectWord ['a', 'l', 's', 'e'] rest).map (.bool false, ·)
      | '-' :: rest => readNumber true rest
      | '"' :: rest => do
          let (s, rest) ← readString rest
          return (.string s, rest)
      | '[' :: rest =>
          match levels with
          | 0 => .error .malformed
          | levels + 1 => do
              let (items, rest) ← readItems fuel levels rest
              return (.array items, rest)
      | '{' :: rest =>
          match levels with
          | 0 => .error .malformed
          | levels + 1 => do
              let (members, rest) ← readMembers fuel levels rest
              return (.object members, rest)
      | c :: rest => if c.isDigit then readNumber false (c :: rest) else .error .malformed
termination_by structural fuel

/-- The items of a list after its opening bracket. -/
def readItems (fuel levels : Nat) (cs : List Char) : Except ReadError (List Json × List Char) :=
  match fuel with
  | 0 => .error .truncated
  | fuel + 1 =>
      match skipBlanks cs with
      | ']' :: rest => .ok ([], rest)
      | rest => do
          let (v, rest) ← readValueWith fuel levels rest
          let (vs, rest) ← readMoreItems fuel levels rest
          return (v :: vs, rest)
termination_by structural fuel

/-- The items of a list after one of them. -/
def readMoreItems (fuel levels : Nat) (cs : List Char) :
    Except ReadError (List Json × List Char) :=
  match fuel with
  | 0 => .error .truncated
  | fuel + 1 =>
      match skipBlanks cs with
      | [] => .error .truncated
      | ']' :: rest => .ok ([], rest)
      | ',' :: rest => do
          let (v, rest) ← readValueWith fuel levels rest
          let (vs, rest) ← readMoreItems fuel levels rest
          return (v :: vs, rest)
      | _ => .error .malformed
termination_by structural fuel

/-- The members of an object after its opening brace. -/
def readMembers (fuel levels : Nat) (cs : List Char) :
    Except ReadError (List (String × Json) × List Char) :=
  match fuel with
  | 0 => .error .truncated
  | fuel + 1 =>
      match skipBlanks cs with
      | '}' :: rest => .ok ([], rest)
      | rest => readMember fuel levels rest
termination_by structural fuel

/-- A member of an object and the members after it. -/
def readMember (fuel levels : Nat) (cs : List Char) :
    Except ReadError (List (String × Json) × List Char) :=
  match fuel with
  | 0 => .error .truncated
  | fuel + 1 =>
      match skipBlanks cs with
      | [] => .error .truncated
      | '"' :: rest => do
          let (k, rest) ← readString rest
          match skipBlanks rest with
          | [] => .error .truncated
          | ':' :: rest => do
              let (v, rest) ← readValueWith fuel levels rest
              let (ms, rest) ← readMoreMembers fuel levels rest
              return ((k, v) :: ms, rest)
          | _ => .error .malformed
      | _ => .error .malformed
termination_by structural fuel

/-- The members of an object after one of them. -/
def readMoreMembers (fuel levels : Nat) (cs : List Char) :
    Except ReadError (List (String × Json) × List Char) :=
  match fuel with
  | 0 => .error .truncated
  | fuel + 1 =>
      match skipBlanks cs with
      | [] => .error .truncated
      | '}' :: rest => .ok ([], rest)
      | ',' :: rest => readMember fuel levels rest
      | _ => .error .malformed
termination_by structural fuel

end

/-- The number of steps that reading or passing over any part of a text can take: at most three
for each character. -/
def stepBound (cs : List Char) : Nat :=
  3 * cs.length + 3

/-- A value that may open at most `levels` lists and objects. -/
def readValue (levels : Nat) : Reader Json := fun cs =>
  readValueWith (stepBound cs) levels cs

mutual

/-- The text after a value that is passed over; `fuel` bounds the number of steps. -/
def skipValueWith (fuel : Nat) (cs : List Char) : Except ReadError (List Char) :=
  match fuel with
  | 0 => .error .truncated
  | fuel + 1 =>
      match skipBlanks cs with
      | [] => .error .truncated
      | 'n' :: rest => expectWord ['u', 'l', 'l'] rest
      | 't' :: rest => expectWord ['r', 'u', 'e'] rest
      | 'f' :: rest => expectWord ['a', 'l', 's', 'e'] rest
      | '-' :: rest => skipNumber rest
      | '"' :: rest => skipString rest
      | '[' :: rest => skipItems fuel rest
      | '{' :: rest => skipMembers fuel rest
      | c :: rest => if c.isDigit then skipNumber (c :: rest) else .error .malformed
termination_by structural fuel

/-- The text after the items of a list that are passed over. -/
def skipItems (fuel : Nat) (cs : List Char) : Except ReadError (List Char) :=
  match fuel with
  | 0 => .error .truncated
  | fuel + 1 =>
      match skipBlanks cs with
      | ']' :: rest => .ok rest
      | rest => do
          let rest ← skipValueWith fuel rest
          skipMoreItems fuel rest
termination_by structural fuel

/-- The text after the further items of a list that are passed over. -/
def skipMoreItems (fuel : Nat) (cs : List Char) : Except ReadError (List Char) :=
  match fuel with
  | 0 => .error .truncated
  | fuel + 1 =>
      match skipBlanks cs with
      | [] => .error .truncated
      | ']' :: rest => .ok rest
      | ',' :: rest => do
          let rest ← skipValueWith fuel rest
          skipMoreItems fuel rest
      | _ => .error .malformed
termination_by structural fuel

/-- The text after the members of an object that are passed over. -/
def skipMembers (fuel : Nat) (cs : List Char) : Except ReadError (List Char) :=
  match fuel with
  | 0 => .error .truncated
  | fuel + 1 =>
      match skipBlanks cs with
      | '}' :: rest => .ok rest
      | rest => skipMember fuel rest
termination_by structural fuel

/-- The text after a member and the members behind it, which are passed over. -/
def skipMember (fuel : Nat) (cs : List Char) : Except ReadError (List Char) :=
  match fuel with
  | 0 => .error .truncated
  | fuel + 1 =>
      match skipBlanks cs with
      | [] => .error .truncated
      | '"' :: rest => do
          let rest ← skipString rest
          match skipBlanks rest with
          | [] => .error .truncated
          | ':' :: rest => do
              let rest ← skipValueWith fuel rest
              skipMoreMembers fuel rest
          | _ => .error .malformed
      | _ => .error .malformed
termination_by structural fuel

/-- The text after the further members of an object that are passed over. -/
def skipMoreMembers (fuel : Nat) (cs : List Char) : Except ReadError (List Char) :=
  match fuel with
  | 0 => .error .truncated
  | fuel + 1 =>
      match skipBlanks cs with
      | [] => .error .truncated
      | '}' :: rest => .ok rest
      | ',' :: rest => skipMember fuel rest
      | _ => .error .malformed
termination_by structural fuel

end

/-- The text after a value that is passed over. -/
def skipValue (cs : List Char) : Except ReadError (List Char) :=
  skipValueWith (stepBound cs) cs

/-- Only blanks are left. -/
def expectEnd (cs : List Char) : Except ReadError Unit :=
  if (skipBlanks cs).isEmpty then .ok () else .error .malformed

/-- The value of a whole text. -/
def parse (s : String) : Except ReadError Json := do
  let (v, rest) ← readValue maxLevels s.toList
  expectEnd rest
  return v

end CatalogFilter.Json
