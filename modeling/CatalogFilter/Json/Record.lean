import CatalogFilter.Json.Mismatch
import CatalogFilter.Json.Reader

/-!
# Records in JSON

A record has named slots. In JSON it is an object whose members fill the slots of their names, or
a list whose items fill the slots in order. Members with other names are passed over, a slot may
be filled once, and some slots may stay empty.

A record is taken either from a value or directly from a text. From a text the first fault in
reading order is reported, whether it is a fault of the JSON or of the record; from a value the
members are looked at in the order of their names.

## Main definitions

* `Json.Slot`, `Json.Record`: the shape of a record, filled step by step.
* `Json.Record.decode`: a record from a value.
* `Json.Record.read`, `Json.Record.parse`: a record from a text.
-/

namespace CatalogFilter.Json

/-- A named place of a record; `δ` is the record as far as it is filled. -/
structure Slot (δ : Type) where
  /-- The name of the member that fills the slot. -/
  name : String
  /-- Lists and objects never fill the slot. -/
  scalar : Bool
  /-- The slot has a value. -/
  isFilled : δ → Bool
  /-- Puts a value into the slot. -/
  fill : δ → Json → Except Mismatch δ

/-- The shape of a record `ρ`. -/
structure Record (δ ρ : Type) where
  /-- What messages call the record. -/
  title : String
  /-- The places, in the order of a list. -/
  slots : List (Slot δ)
  /-- The record with no place filled. -/
  blank : δ
  /-- The finished record. The function gives the mismatch for a required slot that is empty, by
  its position. -/
  finish : (Nat → Mismatch) → δ → Except Mismatch ρ

namespace Record

variable {δ ρ : Type}

/-- The slot of the given name. -/
def slot? (r : Record δ ρ) (name : String) : Option (Slot δ) :=
  r.slots.find? (·.name == name)

/-- A required member is absent from an object. -/
def missingMember (r : Record δ ρ) (i : Nat) : Mismatch :=
  .missing ((r.slots.map (·.name)).getD i "")

/-- A list ends before the item of a required slot. -/
def missingItem (r : Record δ ρ) (i : Nat) : Mismatch :=
  .length i (r.title ++ " with " ++ .ofList (Numeral.print r.slots.length) ++ " elements")

/-! ### From a value -/

/-- The record after one member of an object. -/
def addMember (r : Record δ ρ) (d : δ) (m : String × Json) : Except Mismatch δ :=
  match r.slot? m.1 with
  | some s => s.fill d m.2
  | none => .ok d

/-- The record after the items of a list, with the items that are left over. -/
def addItems : List (Slot δ) → δ → List Json → Except Mismatch (δ × List Json)
  | s :: ss, d, v :: vs => do
      let d ← s.fill d v
      addItems ss d vs
  | _, d, vs => .ok (d, vs)

/-- The record that a value stands for. -/
def decode (r : Record δ ρ) : Json → Except Mismatch ρ
  | .object members => do
      let d ← (members.mergeSort nameLe).foldlM r.addMember r.blank
      r.finish r.missingMember d
  | .array items => do
      let (d, left) ← addItems r.slots r.blank items
      let x ← r.finish r.missingItem d
      if left.isEmpty then .ok x
      else .error (.length items.length "fewer elements in array")
  | v => .error (.kind (.ofJson v) r.title)

/-! ### From a text -/

/-- An outcome whose mismatches count as failures of reading. -/
def lift {α : Type} : Except Mismatch α → Except ReadError α
  | .ok a => .ok a
  | .error m => .error (.mismatch m)

/-- A value without lists and objects. Of these only the opening mark is read, since nobody wants
their contents. -/
def readScalar : Reader Json := fun cs =>
  match skipBlanks cs with
  | '[' :: rest => .ok (.array [], rest)
  | '{' :: rest => .ok (.object [], rest)
  | rest => readValue 0 rest

/-- The record after the value of one slot. -/
def readSlot (levels : Nat) (s : Slot δ) (d : δ) : Reader δ := fun cs => do
  let (v, rest) ← if s.scalar then readScalar cs else readValue levels cs
  let d ← lift (s.fill d v)
  return (d, rest)

/-- The text after the colon between a name and its value. -/
def expectColon (cs : List Char) : Except ReadError (List Char) :=
  match skipBlanks cs with
  | [] => .error .truncated
  | ':' :: rest => .ok rest
  | _ => .error .malformed

/-- The record after one member of an object. That a slot is filled twice shows at the name. -/
def readMember (r : Record δ ρ) (levels : Nat) (d : δ) : Reader δ := fun cs =>
  match skipBlanks cs with
  | [] => .error .truncated
  | '"' :: rest => do
      let (name, rest) ← readString rest
      match r.slot? name with
      | some s =>
          if s.isFilled d then .error (.mismatch (.repeated s.name))
          else do
            let rest ← expectColon rest
            readSlot levels s d rest
      | none => do
          let rest ← expectColon rest
          let rest ← skipValue rest
          return (d, rest)
  | _ => .error .malformed

/-- The record after the members of an object up to its closing brace; `fuel` bounds their
number. -/
def readMembers (r : Record δ ρ) (levels : Nat) : (fuel : Nat) → δ → Reader δ
  | 0, _, _ => .error .truncated
  | fuel + 1, d, cs => do
      let (d, rest) ← r.readMember levels d cs
      match skipBlanks rest with
      | [] => .error .truncated
      | '}' :: rest => .ok (d, rest)
      | ',' :: rest => r.readMembers levels fuel d rest
      | _ => .error .malformed

/-- The record of an object after its opening brace. -/
def readObject (r : Record δ ρ) (levels : Nat) : Reader ρ := fun cs => do
  let (d, rest) ← match skipBlanks cs with
    | '}' :: rest => .ok (r.blank, rest)
    | rest => r.readMembers levels rest.length r.blank rest
  let x ← lift (r.finish r.missingMember d)
  return (x, rest)

/-- The record after the items of a list that follow an item already read. Stops in front of
whatever ends the items. -/
def readMoreItems (levels : Nat) : List (Slot δ) → δ → Reader δ
  | [], d, cs => .ok (d, cs)
  | s :: ss, d, cs =>
      match skipBlanks cs with
      | [] => .error .truncated
      | ']' :: rest => .ok (d, ']' :: rest)
      | ',' :: rest => do
          let (d, rest) ← readSlot levels s d rest
          readMoreItems levels ss d rest
      | _ => .error .malformed

/-- The record after the items of a list. -/
def readItems (levels : Nat) (slots : List (Slot δ)) (d : δ) : Reader δ := fun cs =>
  match slots, skipBlanks cs with
  | [], rest => .ok (d, rest)
  | _, [] => .error .truncated
  | _, ']' :: rest => .ok (d, ']' :: rest)
  | s :: ss, rest => do
      let (d, rest) ← readSlot levels s d rest
      readMoreItems levels ss d rest

/-- The text after the closing bracket of a list. -/
def expectClosing (cs : List Char) : Except ReadError (List Char) :=
  match skipBlanks cs with
  | [] => .error .truncated
  | ']' :: rest => .ok rest
  | _ => .error .malformed

/-- The record of a list after its opening bracket. -/
def readArray (r : Record δ ρ) (levels : Nat) : Reader ρ := fun cs => do
  let (d, rest) ← readItems levels r.slots r.blank cs
  let x ← lift (r.finish r.missingItem d)
  let rest ← expectClosing rest
  return (x, rest)

/-- A record that, with itself, may open at most one list or object more than `levels`. -/
def read (r : Record δ ρ) (levels : Nat) : Reader ρ := fun cs =>
  match skipBlanks cs with
  | '[' :: rest => r.readArray levels rest
  | '{' :: rest => r.readObject levels rest
  | rest => do
      let (v, _) ← readValue 0 rest
      .error (.mismatch (.kind (.ofJson v) r.title))

/-- The record of a whole text. -/
def parse (r : Record δ ρ) (s : String) : Except ReadError ρ := do
  let (x, rest) ← r.read (maxLevels - 1) s.toList
  expectEnd rest
  return x

end Record

end CatalogFilter.Json
