import CatalogFilter.Catalog
import CatalogFilter.Number.Decimal
import CatalogFilter.RuleError

/-!
# Values of fields

The raw text of a value becomes a number, a truth value or a text, as the kind of its field asks.
Numbers and truth values are literals of a fixed form; a text stays as it is.

## Main definitions

* `Scalar`: a value of a field.
* `Scalar.toJson`: its JSON form.
* `Scalar.ofText`: the value of a raw text for a field of a kind.
-/

namespace CatalogFilter

/-- A value of a field. -/
inductive Scalar where
  /-- A number. -/
  | number (x : Binary64)
  /-- A truth value. -/
  | bool (b : Bool)
  /-- A text. -/
  | text (s : String)
  deriving DecidableEq

namespace Scalar

/-! ### JSON form -/

/-- The bound below which whole numbers are written as integers, `2 ^ 53`. -/
def integerBound : Nat := 9007199254740992

/-- A number in JSON: an integer if it is a whole number below the bound. -/
def numberToJson (x : Binary64) : Json :=
  match x.toInt? with
  | some n => if n.natAbs < integerBound then .integer n else .float x
  | none => .float x

/-- The value in JSON. -/
def toJson : Scalar → Json
  | .number x => numberToJson x
  | .bool b => .bool b
  | .text s => .string s

/-! ### Literals -/

/-- The number of a literal, if it is one and is not too large. -/
def readNumber? (raw : String) : Option Binary64 :=
  ((Decimal.read? raw.toList).map Decimal.toBinary64).filter Binary64.isFinite

/-- The texts agree up to the case of ASCII letters. -/
def sameLetters (a b : String) : Bool :=
  a.toList.map Char.toLower == b.toList.map Char.toLower

/-- The truth value of a literal. -/
def readBool? (raw : String) : Option Bool :=
  if sameLetters raw "true" then some true
  else if sameLetters raw "false" then some false
  else none

/-- What a message asks for where a number is wanted. -/
def wantedNumber : String := "a numeric"

/-- What a message asks for where a truth value is wanted. -/
def wantedBool : String := "a boolean (true/false)"

/-- The value that a raw text stands for in a field of the given kind. The name of the field is
only for the message. -/
def ofText (kind : FieldKind) (field raw : String) : Except RuleError Scalar :=
  match kind with
  | .number =>
      match readNumber? raw with
      | some x => .ok (.number x)
      | none => .error (.typeMismatch field wantedNumber raw)
  | .boolean =>
      match readBool? raw with
      | some b => .ok (.bool b)
      | none => .error (.typeMismatch field wantedBool raw)
  | .text => .ok (.text raw)

/-- The value that a raw text stands for in the field of the given name. -/
def coerce (field raw : String) : Except RuleError Scalar :=
  ofText (Catalog.kindOf field) field raw

end Scalar

end CatalogFilter
