import CatalogFilter.Number.Decimal
import CatalogFilter.Number.Hexadecimal
import CatalogFilter.Toml.Basic

/-!
# Numbers, truth values and dates in TOML

These are written without quotes: a row of letters, digits and a few signs, which is classified as
a whole. Whole numbers have to fit into 64 bits with a sign.

## Main definitions

* `Toml.isLiteralChar`: the characters of such a row.
* `Toml.readInteger?`, `Toml.isFloat`, `Toml.isMoment`: the classes.
* `Toml.classify?`: the value of a row.
-/

namespace CatalogFilter.Toml

/-- The characters of values that are written without quotes. -/
def isLiteralChar (c : Char) : Bool :=
  c.isAlphanum || c == '+' || c == '-' || c == '_' || c == '.' || c == ':'

/-! ### Numbers -/

/-- One or more digits of a class, with single underscores between digits. -/
def isDigitRow (isDigit : Char → Bool) (cs : List Char) : Bool :=
  (cs.splitOn '_').all fun part => !part.isEmpty && part.all isDigit

/-- The row without its underscores. -/
def dropUnderscores (cs : List Char) : List Char :=
  cs.filter (· != '_')

/-- A whole number without sign in the decimal system: a single digit, or a row of digits that
does not start with zero. -/
def isDecimalRow (cs : List Char) : Bool :=
  isDigitRow Char.isDigit cs && (cs.length == 1 || cs.head? != some '0')

/-- The value of a row of digits in the given system. -/
def rowValue (base : Nat) (cs : List Char) : Nat :=
  (dropUnderscores cs).foldl (fun n c => base * n + (Hexadecimal.value? c).getD 0) 0

/-- A digit of a system. -/
def isDigitOf (base : Nat) (c : Char) : Bool :=
  match Hexadecimal.value? c with
  | some d => d < base
  | none => false

/-- A number that fits into 64 bits with a sign. -/
def inRange (n : Int) : Option Int :=
  if -9223372036854775808 ≤ n ∧ n ≤ 9223372036854775807 then some n else none

/-- The number of a row in a system that is named by a letter. -/
def readBased? (base : Nat) (cs : List Char) : Option Int :=
  if isDigitRow (isDigitOf base) cs then inRange (rowValue base cs) else none

/-- The number of a row in the decimal system. -/
def readDecimal? (negative : Bool) (cs : List Char) : Option Int :=
  if isDecimalRow cs then
    inRange (if negative then -(rowValue 10 cs : Int) else rowValue 10 cs)
  else none

/-- A whole number. -/
def readInteger? : List Char → Option Int
  | '0' :: 'x' :: cs => readBased? 16 cs
  | '0' :: 'o' :: cs => readBased? 8 cs
  | '0' :: 'b' :: cs => readBased? 2 cs
  | '-' :: cs => readDecimal? true cs
  | '+' :: cs => readDecimal? false cs
  | cs => readDecimal? false cs

/-- An exponent after its letter: digits with or without sign. -/
def isExponentRow (cs : List Char) : Bool :=
  isDigitRow Char.isDigit (Decimal.readSign cs).2

/-- The letter in front of an exponent. -/
def isExponentMark (c : Char) : Bool :=
  c == 'e' || c == 'E'

/-- A number without sign that has a fraction, an exponent, or both. -/
def isFloatRow (cs : List Char) : Bool :=
  let mantissa := cs.takeWhile fun c => !isExponentMark c
  let exponent := cs.dropWhile fun c => !isExponentMark c
  let whole := mantissa.takeWhile (· != '.')
  let fraction := mantissa.dropWhile (· != '.')
  isDecimalRow whole
    && (fraction.isEmpty || isDigitRow Char.isDigit fraction.tail)
    && (exponent.isEmpty || isExponentRow exponent.tail)
    && !(fraction.isEmpty && exponent.isEmpty)

/-- The number is not too large. Only positive ones can be. -/
def isBounded (cs : List Char) : Bool :=
  match Decimal.read? (dropUnderscores cs) with
  | some d => d.negative || d.toBinary64.isFinite
  | none => false

/-- A number with a fraction or exponent, or one of the words for infinity and no number. -/
def isFloat (cs : List Char) : Bool :=
  let (_, row) := Decimal.readSign cs
  row == ['i', 'n', 'f'] || row == ['n', 'a', 'n'] || (isFloatRow row && isBounded cs)

/-! ### Dates and times -/

/-- The number of two digits. -/
def pair? (a b : Char) : Option Nat :=
  if a.isDigit && b.isDigit then some (Numeral.value [a, b]) else none

/-- Two digits with a value from `least` to `most`. -/
def isPair (least most : Nat) (a b : Char) : Bool :=
  match pair? a b with
  | some n => least ≤ n && n ≤ most
  | none => false

/-- The year has a 29th of February. -/
def isLeapYear (year : Nat) : Bool :=
  year % 4 == 0 && (year % 100 != 0 || year % 400 == 0)

/-- The number of days of a month. -/
def daysIn (year month : Nat) : Nat :=
  if month = 2 then if isLeapYear year then 29 else 28
  else if month ∈ [4, 6, 9, 11] then 30
  else 31

/-- A date at the start of a row, and the row after it. -/
def afterDate? : List Char → Option (List Char)
  | a :: b :: c :: d :: '-' :: e :: f :: '-' :: g :: h :: rest =>
      let year := Numeral.value [a, b, c, d]
      let month := Numeral.value [e, f]
      if [a, b, c, d].all Char.isDigit && isPair 1 12 e f && isPair 1 (daysIn year month) g h then
        some rest
      else none
  | _ => none

/-- The row after a fraction of a second, if there is one. -/
def afterFraction? : List Char → Option (List Char)
  | '.' :: c :: cs => if c.isDigit then some (Numeral.afterDigits cs) else none
  | '.' :: [] => none
  | cs => some cs

/-- A time at the start of a row, and the row after it. -/
def afterTime? : List Char → Option (List Char)
  | a :: b :: ':' :: c :: d :: ':' :: e :: f :: rest =>
      if isPair 0 23 a b && isPair 0 59 c d && isPair 0 60 e f then afterFraction? rest else none
  | _ => none

/-- The distance of a time zone. -/
def isOffset : List Char → Bool
  | ['Z'] => true
  | ['z'] => true
  | [sign, a, b, ':', c, d] =>
      (sign == '+' || sign == '-') && isPair 0 23 a b && isPair 0 59 c d
  | _ => false

/-- A time, with or without a zone. -/
def isZonedTime (cs : List Char) : Bool :=
  match afterTime? cs with
  | some rest => rest.isEmpty || isOffset rest
  | none => false

/-- A time without a zone. -/
def isTime (cs : List Char) : Bool :=
  afterTime? cs == some []

/-- A date alone. -/
def isDate (cs : List Char) : Bool :=
  afterDate? cs == some []

/-- A date, a time, or a date and a time with a letter between them. -/
def isMoment (cs : List Char) : Bool :=
  isTime cs ||
    match afterDate? cs with
    | some [] => true
    | some (c :: rest) => (c == 'T' || c == 't') && isZonedTime rest
    | none => false

/-! ### Classification -/

/-- The value of a row. -/
def classify? (cs : List Char) : Option Value :=
  if cs = ['t', 'r', 'u', 'e'] then some (.bool true)
  else if cs = ['f', 'a', 'l', 's', 'e'] then some (.bool false)
  else if isMoment cs then some (.moment (.ofList cs))
  else if isFloat cs then some (.float (.ofList cs))
  else (readInteger? cs).map .integer

/-- A value without quotes. A date may be followed by a blank and a time. -/
def readLiteralValue? (cs : List Char) : Option (Value × List Char) :=
  let row := cs.takeWhile isLiteralChar
  match cs.dropWhile isLiteralChar with
  | ' ' :: c :: rest =>
      if isDate row && c.isDigit then
        let time := (c :: rest).takeWhile isLiteralChar
        if isZonedTime time then
          some (.moment (.ofList (row ++ ' ' :: time)), (c :: rest).dropWhile isLiteralChar)
        else none
      else (classify? row).map (·, ' ' :: c :: rest)
  | rest => (classify? row).map (·, rest)

end CatalogFilter.Toml
