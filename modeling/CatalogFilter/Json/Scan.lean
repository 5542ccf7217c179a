import CatalogFilter.Json.Basic
import CatalogFilter.Number.Hexadecimal
import CatalogFilter.Number.Numeral
import CatalogFilter.Text.Bytes

/-!
# The words of JSON text

Readers for blanks, literal names, strings and numbers. Each takes the text that is left and
returns what it read together with the text after it. A failure says whether the text ended too
early or holds something that JSON does not allow.

A value that nobody looks at is passed over instead of read, by looser rules: a string may then
hold half of a surrogate pair, a number may be too large, and a number that the end of the text
cuts off counts as malformed.

## Main definitions

* `Json.ReadError`: why a text is not read.
* `Json.skipBlanks`, `Json.expectWord`: blanks and literal names.
* `Json.readString`, `Json.skipString`: the rest of a string after its opening quote.
* `Json.readNumber`, `Json.skipNumber`: a number after its minus sign, if it has one.
-/

namespace CatalogFilter.Json

/-- What stands in a place where something else is wanted. -/
inductive Found where
  /-- The literal `null`. -/
  | null
  /-- A truth value. -/
  | bool (b : Bool)
  /-- An integer. -/
  | integer (n : Int)
  /-- A floating point number. -/
  | float (x : Binary64)
  /-- A text. -/
  | string (s : String)
  /-- A list. -/
  | array
  /-- An object. -/
  | object

/-- How well-formed JSON can fail to be what is wanted. -/
inductive Mismatch where
  /-- A value of another kind than the one described by `wanted`. -/
  | kind (found : Found) (wanted : String)
  /-- An integer that does not fit the kind described by `wanted`. -/
  | range (n : Int) (wanted : String)
  /-- A required member is absent. -/
  | missing (name : String)
  /-- A member is given twice. -/
  | repeated (name : String)
  /-- A list has `count` items where the description asks for more or fewer. -/
  | length (count : Nat) (wanted : String)
  /-- A text is refused by the rule of its type, with that rule's message. -/
  | refused (message : String)

/-- Why a text is not read. -/
inductive ReadError where
  /-- The text is not JSON. -/
  | malformed
  /-- The text ends before the value does. -/
  | truncated
  /-- The text is JSON up to a value that is not the one wanted. -/
  | mismatch (m : Mismatch)

/-- A reader takes a text and returns what it read and the text after it. -/
abbrev Reader (α : Type) := List Char → Except ReadError (α × List Char)

/-! ### Blanks and literal names -/

/-- The characters that may stand between the words of JSON. -/
def isSpace (c : Char) : Bool :=
  c == ' ' || c == '\n' || c == '\t' || c == '\r'

/-- The text without the blanks at its start. -/
def skipBlanks (cs : List Char) : List Char :=
  cs.dropWhile isSpace

/-- The text after the given word. -/
def expectWord : List Char → List Char → Except ReadError (List Char)
  | [], cs => .ok cs
  | _ :: _, [] => .error .truncated
  | w :: ws, c :: cs => if c = w then expectWord ws cs else .error .malformed

/-! ### Strings -/

/-- The character that a backslash and one letter stand for. -/
def simpleEscape? : Char → Option Char
  | '"' => some '"'
  | '\\' => some '\\'
  | '/' => some '/'
  | 'b' => some (Char.ofNat 0x08)
  | 'f' => some (Char.ofNat 0x0C)
  | 'n' => some '\n'
  | 'r' => some '\r'
  | 't' => some '\t'
  | _ => none

/-- Four hexadecimal digits. Fewer than four bytes of text are a text that ends too early. -/
def readHex : Reader Nat
  | a :: b :: c :: d :: rest =>
      match Hexadecimal.number? [a, b, c, d] with
      | some n => .ok (n, rest)
      | none => .error .malformed
  | cs => .error (if Text.byteSize cs < 4 then .truncated else .malformed)

/-- The first half of a surrogate pair. -/
def isHighSurrogate (n : Nat) : Bool :=
  0xD800 ≤ n && n ≤ 0xDBFF

/-- The second half of a surrogate pair. -/
def isLowSurrogate (n : Nat) : Bool :=
  0xDC00 ≤ n && n ≤ 0xDFFF

/-- The character of a surrogate pair. -/
def joinSurrogates (high low : Nat) : Char :=
  Char.ofNat (0x10000 + (high - 0xD800) * 0x400 + (low - 0xDC00))

/-- The second half of a pair, as an escape of its own. -/
def readLowSurrogate (high : Nat) : Reader Char
  | [] => .error .truncated
  | ['\\'] => .error .truncated
  | '\\' :: 'u' :: cs => do
      let (low, rest) ← readHex cs
      if isLowSurrogate low then .ok (joinSurrogates high low, rest) else .error .malformed
  | _ => .error .malformed

/-- The character that an escape stands for, after the backslash. -/
def readEscape : Reader Char
  | [] => .error .truncated
  | 'u' :: cs => do
      let (n, rest) ← readHex cs
      if isLowSurrogate n then .error .malformed
      else if isHighSurrogate n then readLowSurrogate n rest
      else .ok (Char.ofNat n, rest)
  | c :: cs =>
      match simpleEscape? c with
      | some d => .ok (d, cs)
      | none => .error .malformed

/-- The characters of a string up to its closing quote; `fuel` bounds their number. -/
def readChars : (fuel : Nat) → Reader (List Char)
  | 0, _ => .error .truncated
  | _, [] => .error .truncated
  | fuel + 1, c :: cs =>
      if c = '"' then .ok ([], cs)
      else if c = '\\' then do
        let (d, rest) ← readEscape cs
        let (ds, rest) ← readChars fuel rest
        return (d :: ds, rest)
      else if c.toNat < 0x20 then .error .malformed
      else do
        let (ds, rest) ← readChars fuel cs
        return (c :: ds, rest)

/-- The rest of a string after its opening quote. -/
def readString : Reader String := fun cs => do
  let (ds, rest) ← readChars (cs.length + 1) cs
  return (.ofList ds, rest)

/-- The text after an escape that is passed over. -/
def skipEscape : List Char → Except ReadError (List Char)
  | [] => .error .truncated
  | 'u' :: cs => (readHex cs).map (·.2)
  | c :: cs => if (simpleEscape? c).isSome then .ok cs else .error .malformed

/-- The text after the closing quote of a string that is passed over. -/
def skipChars : (fuel : Nat) → List Char → Except ReadError (List Char)
  | 0, _ => .error .truncated
  | _, [] => .error .truncated
  | fuel + 1, c :: cs =>
      if c = '"' then .ok cs
      else if c = '\\' then do
        let rest ← skipEscape cs
        skipChars fuel rest
      else if c.toNat < 0x20 then .error .malformed
      else skipChars fuel cs

/-- The text after a string that is passed over from behind its opening quote. -/
def skipString (cs : List Char) : Except ReadError (List Char) :=
  skipChars (cs.length + 1) cs

/-! ### Numbers -/

/-- The parts of a number as they are written, without its sign. -/
structure NumberParts where
  /-- The digits before the point. -/
  whole : List Char
  /-- The digits after the point, if there is one. -/
  fraction : Option (List Char)
  /-- The sign and the digits of the power of ten, if there is one. -/
  exponent : Option (Bool × List Char)

/-- The digits before the point: a zero alone, or digits that start with another one. A text that
ends here fails with `atEnd`. -/
def scanWhole (atEnd : ReadError) : Reader (List Char)
  | [] => .error atEnd
  | '0' :: rest =>
      if (Numeral.leadingDigits rest).isEmpty then .ok (['0'], rest) else .error .malformed
  | c :: rest =>
      if c.isDigit then .ok (c :: Numeral.leadingDigits rest, Numeral.afterDigits rest)
      else .error .malformed

/-- One or more digits. -/
def scanDigits (atEnd : ReadError) : Reader (List Char)
  | [] => .error atEnd
  | c :: rest =>
      if c.isDigit then .ok (c :: Numeral.leadingDigits rest, Numeral.afterDigits rest)
      else .error .malformed

/-- The digits after a point, if one follows. -/
def scanFraction (atEnd : ReadError) : Reader (Option (List Char))
  | '.' :: cs => do
      let (ds, rest) ← scanDigits atEnd cs
      return (some ds, rest)
  | cs => .ok (none, cs)

/-- The sign and the digits after the letter `e`, if one follows. -/
def scanExponent (atEnd : ReadError) : Reader (Option (Bool × List Char))
  | [] => .ok (none, [])
  | c :: cs =>
      if c = 'e' ∨ c = 'E' then do
        let (negative, cs) := match cs with
          | '-' :: rest => (true, rest)
          | '+' :: rest => (false, rest)
          | _ => (false, cs)
        let (ds, rest) ← scanDigits atEnd cs
        return (some (negative, ds), rest)
      else .ok (none, c :: cs)

/-- The parts of a number after its sign. -/
def scanNumber (atEnd : ReadError) : Reader NumberParts := fun cs => do
  let (whole, rest) ← scanWhole atEnd cs
  let (fraction, rest) ← scanFraction atEnd rest
  let (exponent, rest) ← scanExponent atEnd rest
  return ({ whole, fraction, exponent }, rest)

/-- The largest number that 64 bits hold. -/
def maxSignificand : Nat := 18446744073709551615

/-- The largest magnitude of a negative number of 64 bits with a sign. -/
def maxNegative : Nat := 9223372036854775808

/-- Appends digits to a number as long as it stays within 64 bits. Returns the number and the
digits that are left over. -/
def absorbDigits (n : Nat) : List Char → Nat × List Char
  | [] => (n, [])
  | c :: cs =>
      let m := 10 * n + Numeral.digitValue c
      if m ≤ maxSignificand then absorbDigits m cs else (n, c :: cs)

/-- The floating point number nearest to a power of ten. -/
def powerOfTen (k : Nat) : Binary64 :=
  .ofNat (tenPow k)

/-- The largest power of ten that is a finite number. -/
def maxPower : Nat := 308

/-- A significand of 64 bits times a power of ten: the significand is rounded first, then scaled
by at most two powers of ten, each time with a rounding. Nothing if the outcome is not finite. -/
def scalePower (significand : Nat) (exponent : Int) : Option Binary64 :=
  let f := Binary64.ofNat significand
  let k := exponent.natAbs
  if f.isZero then some f
  else if 0 ≤ exponent then
    if k ≤ maxPower then
      let g := f.mul (powerOfTen k)
      if g.isFinite then some g else none
    else none
  else if k ≤ maxPower then some (f.div (powerOfTen k))
  else if k ≤ 2 * maxPower then
    some ((f.div (powerOfTen maxPower)).div (powerOfTen (k - maxPower)))
  else some (Binary64.zero false)

/-- A floating point number with the given sign. -/
def signed (negative : Bool) (x : Binary64) : Binary64 :=
  if negative then x.neg else x

/-- The value of a number that is written with a point, an exponent, or more digits than 64 bits
hold. Digits that do not fit are dropped; before the point they still count as places. -/
def floatValue (negative : Bool) (p : NumberParts) : Except ReadError Json :=
  let (n, left) := absorbDigits 0 p.whole
  let fraction := p.fraction.getD []
  let (n, dropped) := absorbDigits n fraction
  let exponent : Int := match p.exponent with
    | some (true, ds) => -(Numeral.value ds : Int)
    | some (false, ds) => Numeral.value ds
    | none => 0
  let places : Int := left.length - (fraction.length - dropped.length : Nat)
  match scalePower n (places + exponent) with
  | some x => .ok (.float (signed negative x))
  | none => .error .malformed

/-- The value of a number: an integer if it is written as one and fits into 64 bits, with a sign
if it is negative. Minus zero is a floating point number. -/
def numberValue (negative : Bool) (p : NumberParts) : Except ReadError Json :=
  match p.fraction, p.exponent with
  | none, none =>
      let n := Numeral.value p.whole
      if negative then
        if 1 ≤ n ∧ n ≤ maxNegative then .ok (.integer (-n)) else floatValue negative p
      else if n ≤ maxSignificand then .ok (.integer n)
      else floatValue negative p
  | _, _ => floatValue negative p

/-- A number after its sign. -/
def readNumber (negative : Bool) : Reader Json := fun cs => do
  let (p, rest) ← scanNumber .truncated cs
  let v ← numberValue negative p
  return (v, rest)

/-- The text after a number that is passed over from behind its sign. -/
def skipNumber (cs : List Char) : Except ReadError (List Char) :=
  (scanNumber .malformed cs).map (·.2)

end CatalogFilter.Json
