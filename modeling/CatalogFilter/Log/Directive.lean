import CatalogFilter.Log.Event
import CatalogFilter.Log.Level
import CatalogFilter.Number.Decimal
import CatalogFilter.Pattern.Check
import CatalogFilter.Text.Alphanumeric
import CatalogFilter.Text.Blank
import CatalogFilter.Text.Bytes

/-!
# Directives for the log

A directive gives a level to some events. It is written as the start of the targets it is for, in
brackets the name of a span of time and in braces the name of a detail, and the level after a sign
of equality: `target[span{detail}]=level`. Every part may be missing. A word alone is a level or
else the start of targets. After the name of a detail a value may be asked for, which is a truth
value, a number or else a pattern.

This program has no spans, and a detail whose value is asked for is looked for in spans only, so
directives with these parts are for no event.

## Main definitions

* `Log.Directive`: a directive.
* `Log.DirectiveError`: why a text is no directive.
* `Log.Directive.read`: the directive of a text.
* `Log.Directive.concerns`: the directive is for an event.
* `Log.Directive.yieldsTo`: of two directives for an event the second counts.
-/

namespace CatalogFilter.Log

/-- What a directive asks of a detail. -/
structure DetailTest where
  /-- The name of the detail. -/
  name : String
  /-- The value that it has to have. -/
  value : Option String := none
  deriving DecidableEq, Repr

/-- A directive. -/
structure Directive where
  /-- The start of the targets; without it they are all meant. -/
  target : Option String := none
  /-- The name of a span. -/
  span : Option String := none
  /-- The detail that has to be there. -/
  detail : Option DetailTest := none
  /-- How much is shown. -/
  level : Level := .trace
  deriving DecidableEq, Repr

/-- Why a directive is ignored. -/
inductive DirectiveError where
  /-- It has not the form of a directive. -/
  | form
  /-- There is no such level. -/
  | level
  /-- The pattern for a value cannot be used. -/
  | pattern (fault : Pattern.Fault)
  deriving DecidableEq, Repr

/-- The reason in words. -/
def DirectiveError.message : DirectiveError → String
  | .form => "invalid filter directive"
  | .level =>
      "error parsing level filter: expected one of \"off\", \"error\", \"warn\", \"info\", "
        ++ "\"debug\", \"trace\", or a number 0-5"
  | .pattern fault => "invalid field filter: " ++ fault.message

namespace Directive

/-! ### Reading

The parts are found in the text without the blanks around it, but they are cut out of the text as
it is. So blanks at the end belong to the last part, and blanks at the start move every part by
their size. -/

/-- The characters with which a target or a level may start. -/
def startsWord (c : Char) : Bool :=
  c == '-' || c == ':' || c == '_' || Text.isAlphanumeric c

/-- The characters that do not end the word at the start. -/
def isWordChar (c : Char) : Bool :=
  c != '=' && c != '['

/-- The part of a text between two positions. -/
def part (text : List Char) (start stop : Nat) : Except DirectiveError (List Char) :=
  match Text.cut? start stop text with
  | some cs => .ok cs
  | none => .error .form

/-- The part of a text from a position on. -/
def lastPart (text : List Char) (start : Nat) : Except DirectiveError (List Char) :=
  match Text.dropBytes? start text with
  | some cs => .ok cs
  | none => .error .form

/-- A directive that is a level or else the start of targets. -/
def ofWord (text : List Char) : Directive :=
  match Level.read? text with
  | some l => { level := l }
  | none => { target := some (.ofList text) }

/-- The directive with the level that starts at a position. Without one everything is shown. -/
def readLevel (text : List Char) (d : Directive) (start : Nat) :
    Except DirectiveError Directive := do
  let cs ← lastPart text start
  if cs.isEmpty then return { d with level := .trace }
  else
    match Level.read? cs with
    | some l => return { d with level := l }
    | none => .error .level

/-- The directive after its closing bracket, which stands before a position. -/
def readEnd (text : List Char) (d : Directive) (start : Nat) :
    (rest : List Char) → Except DirectiveError Directive
  | [] => .ok d
  | '=' :: _ => readLevel text d (start + 1)
  | _ => .error .form

/-- The text is a number: a decimal, or a word for a number that is infinite or none. -/
def isNumber (cs : List Char) : Bool :=
  (Decimal.read? cs).isSome
    || ["inf", "infinity", "nan"].contains (.ofList ((Decimal.readSign cs).2.map Char.toLower))

/-- What is asked of a detail: a name, and a value after a sign of equality. The words for truth
values are patterns too. -/
def readDetail (cs : List Char) : Except DirectiveError DetailTest :=
  match cs.splitOn '=' with
  | name :: value :: _ =>
      match if isNumber value then .ok () else Pattern.check value with
      | .ok () => .ok ⟨.ofList name, some (.ofList value)⟩
      | .error fault => .error (.pattern fault)
  | _ => .ok ⟨.ofList cs, none⟩

/-- The directive with the detail that starts at a position, after its opening brace. -/
def readBraces (text : List Char) (d : Directive) (start : Nat) (rest : List Char) :
    Except DirectiveError Directive := do
  let stop := start + Text.byteSize (rest.takeWhile (· != '}'))
  match rest.dropWhile (· != '}') with
  | _ :: rest => do
      let cs ← part text start stop
      if cs.isEmpty then .error .form
      else
        let detail ← readDetail cs
        match rest with
        | ']' :: rest => readEnd text { d with detail := some detail } (stop + 2) rest
        | _ => .error .form
  | [] => .error .form

/-- The directive with what stands in brackets, of which the opening one stands before a
position. -/
def readBrackets (text : List Char) (d : Directive) (start : Nat) (rest : List Char) :
    Except DirectiveError Directive := do
  let isNameChar := fun c => c != ']' && c != '{'
  let stop := start + Text.byteSize (rest.takeWhile isNameChar)
  match rest.dropWhile isNameChar with
  | [] => .error .form
  | mark :: rest => do
      let name ← part text start stop
      if mark = ']' then readEnd text { d with span := some (.ofList name) } (stop + 1) rest
      else
        let span := if name.isEmpty then none else some (String.ofList name)
        readBraces text { d with span := span } (stop + 1) rest

/-- The directive of a text. -/
def read (text : List Char) : Except DirectiveError Directive :=
  match Text.trim text with
  | [] => .error .form
  | c :: cs =>
      if c = '[' then readBrackets text {} 1 cs
      else if !startsWord c then .error .form
      else
        let stop := Text.byteSize ((c :: cs).takeWhile isWordChar)
        match (c :: cs).dropWhile isWordChar with
        | [] => .ok (ofWord text)
        | mark :: rest => do
            let d : Directive := { target := some (.ofList (← part text 0 stop)) }
            if mark = '[' then readBrackets text d (stop + 1) rest
            else readLevel text d (stop + 1)

/-! ### Choosing -/

/-- The directive may be for events. -/
def isForEvents (d : Directive) : Bool :=
  d.span.isNone && d.detail.all (·.value.isNone)

/-- The directive is for the event: the target starts as it should, and the detail is there. -/
def concerns (d : Directive) (e : Event) : Bool :=
  d.isForEvents
    && d.target.all (fun start => start.toList.isPrefixOf e.target.toList)
    && d.detail.all (fun test => e.names.contains test.name)

/-- The size of the start of targets, which is larger if there is one than if there is none. -/
def targetSize (d : Directive) : Nat :=
  match d.target with
  | some start => start.utf8ByteSize + 1
  | none => 0

/-- The second directive is preferred for an event that both are for: its target is longer, or of
equal targets it is the one that names a detail, or of two details it names the one that comes
later in the order of texts. With the same target and detail, too, it is preferred. -/
def yieldsTo (c d : Directive) : Bool :=
  c.targetSize < d.targetSize
    || c.targetSize == d.targetSize
      && match c.detail, d.detail with
        | none, _ => true
        | some _, none => false
        | some s, some t => s.name ≤ t.name

end Directive

end CatalogFilter.Log
