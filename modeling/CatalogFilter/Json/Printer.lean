import CatalogFilter.Json.Basic
import CatalogFilter.Json.FloatText
import CatalogFilter.Json.Quoted

/-!
# Writing JSON

A value is written in one of two layouts: without any blank, or with every item of a list or
object on a line of its own, indented by two spaces a level. Empty lists and objects take no line
of their own in either.

## Main definitions

* `Json.Layout`: what is put between the parts of a value.
* `Json.write`: the text of a value in a layout.
* `Json.compact`, `Json.pretty`: the two layouts as functions to strings.
-/

namespace CatalogFilter.Json

/-- What is written between the parts of a value. -/
structure Layout where
  /-- Written before an item, and before the closing bracket, that stands at a level. -/
  lineBreak : Nat → List Char
  /-- Written between the colon and the value of a member. -/
  afterColon : List Char

/-- The layout without blanks. -/
def Layout.compact : Layout where
  lineBreak _ := []
  afterColon := []

/-- The layout with a line for each item. -/
def Layout.pretty : Layout where
  lineBreak level := '\n' :: List.replicate (2 * level) ' '
  afterColon := [' ']

mutual

/-- The text of a value that stands at a level. -/
def write (l : Layout) (level : Nat) : Json → List Char
  | .null => "null".toList
  | .bool b => if b then "true".toList else "false".toList
  | .integer n => Numeral.printInt n
  | .float x => writeFloat x
  | .string s => quote s
  | .array [] => ['[', ']']
  | .array (v :: vs) =>
      '[' :: l.lineBreak (level + 1) ++ write l (level + 1) v ++ writeItems l (level + 1) vs ++
        l.lineBreak level ++ [']']
  | .object [] => ['{', '}']
  | .object ((k, v) :: ms) =>
      '{' :: l.lineBreak (level + 1) ++ quote k ++ ':' :: l.afterColon ++ write l (level + 1) v ++
        writeMembers l (level + 1) ms ++ l.lineBreak level ++ ['}']

/-- The items after the first one, each after a comma. -/
def writeItems (l : Layout) (level : Nat) : List Json → List Char
  | [] => []
  | v :: vs => ',' :: l.lineBreak level ++ write l level v ++ writeItems l level vs

/-- The members after the first one, each after a comma. -/
def writeMembers (l : Layout) (level : Nat) : List (String × Json) → List Char
  | [] => []
  | (k, v) :: ms =>
      ',' :: l.lineBreak level ++ quote k ++ ':' :: l.afterColon ++ write l level v ++
        writeMembers l level ms

end

/-- The text of the value without blanks. -/
def compact (v : Json) : String :=
  .ofList (write .compact 0 v)

/-- The text of the value with a line for each item. -/
def pretty (v : Json) : String :=
  .ofList (write .pretty 0 v)

end CatalogFilter.Json
