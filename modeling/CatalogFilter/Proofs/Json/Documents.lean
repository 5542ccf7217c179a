import CatalogFilter.Program.Failure
import CatalogFilter.Proofs.Json.RoundTrip

/-!
# Documents about failures

A failure is shown as a JSON document with its code, its message and the lines that are wrong. Its
numbers are whole and may have any size, so it is a text of the JSON grammar even where a reader
with numbers of limited size would refuse it.

* `Json.Lexicon.whole`: the words of a document whose numbers are whole.
* `Json.Written`: the text of a value stands for it; `Json.written_array`, `Json.written_object`
  for what is put together.
* `Program.Failure.toJson_eq`: the document about a failure.
* `Program.Failure.written_toJson`: its text.
* `Program.Failure.HasCode`, `Program.Failure.HasCode.code_toJson`: the code of each cause, which is
  the code in the document.
-/

namespace CatalogFilter

namespace Json

open Numeral

/-- The words of a value whose numbers are whole. A number may have any size. -/
def Lexicon.whole : Lexicon where
  string := SpellsString
  number v cs := ∃ (ds : List Char) (negative : Bool), SpellsNumber ⟨ds, none, none⟩ negative cs ∧
    v = .integer (if negative then -(value ds : Int) else value ds)

/-- The text of the value stands for it, at every level. -/
def Written (v : Json) : Prop :=
  ∀ level, Spells .whole v (write .pretty level v)

theorem written_string (s : String) : Written (.string s) :=
  fun _ => .string (spellsString_quote s)

theorem written_natural (n : Nat) : Written (.integer n) := by
  intro level
  have hparts := spellsParts_text (wellFormed_printedParts n)
  rw [text_printedParts] at hparts
  exact .number ⟨print n, false, .plain hparts, by simp [value_print]⟩

/-- A list is written if its items are. -/
theorem written_array {vs : List Json} (h : ∀ v ∈ vs, Written v) : Written (.array vs) := by
  intro level
  simpa using spells_array (f := id) blank_pretty fun v hv => h v hv (level + 1)

/-- An object is written if its members are. -/
theorem written_object {ms : List (String × Json)} (h : ∀ m ∈ ms, Written m.2) :
    Written (.object ms) := by
  intro level
  simpa using spells_object (f := id) blank_pretty spellsString_quote
    fun m hm => h m hm (level + 1)

theorem sortItems_eq_map (vs : List Json) : sortItems vs = vs.map sortMembers := by
  induction vs with
  | nil => rfl
  | cons v vs ih => rw [sortItems, ih, List.map_cons]

end Json

theorem LineFailure.sortMembers_toJson (f : LineFailure) :
    f.toJson.sortMembers = .object [("condition", .string f.condition),
      ("error", .string f.fault.name), ("line", .integer f.line)] := by
  simp [toJson, Json.sortMembers, Json.sortEntries, List.mergeSort, Json.nameLe,
    List.MergeSort.Internal.splitInTwo]

namespace Program.Failure

/-- The lines that are wrong. -/
def lines : Failure → List LineFailure
  | .rules e => e.failures
  | _ => []

/-- The member of the document with the lines that are wrong, if there are any. -/
def linesMember : List LineFailure → List (String × Json)
  | [] => []
  | failures => [("lines", .array (failures.map LineFailure.toJson))]

/-- The same member with sorted lines. -/
def sortedLinesMember : List LineFailure → List (String × Json)
  | [] => []
  | failures => [("lines", .array (failures.map fun g => g.toJson.sortMembers))]

/-- The members of the document in the order of their names. -/
theorem sortMembers_error (code message : String) (failures : List LineFailure) :
    Json.sortMembers (.object [("error", .object ([("code", .string code),
      ("message", .string message)] ++ linesMember failures))]) =
    .object [("error", .object (("code", .string code) ::
      (sortedLinesMember failures ++ [("message", .string message)])))] := by
  cases failures <;>
    simp [linesMember, sortedLinesMember, Json.sortMembers, Json.sortEntries, List.mergeSort,
      Json.nameLe, List.MergeSort.Internal.splitInTwo, Json.sortItems_eq_map]

/-- The document about a failure. -/
theorem toJson_eq (f : Failure) :
    f.toJson = .object [("error", .object (("code", .string f.code) ::
      (sortedLinesMember f.lines ++ [("message", .string f.message)])))] := by
  rw [← sortMembers_error]
  cases f with
  | rules e =>
    have hbody : e.toJson = .object ([("code", .string e.code), ("message", .string e.message)] ++
        linesMember e.failures) := by
      rw [RuleError.toJson]
      cases e.failures <;> rfl
    rw [toJson, hbody]
    rfl
  | input path e => rfl
  | settings e => rfl
  | stream e => rfl
  | json detail => rfl

/-- The text about a failure is a text of the JSON grammar. -/
theorem written_toJson (f : Failure) : f.toJson.Written := by
  have hline : ∀ g : LineFailure, g.toJson.sortMembers.Written := by
    intro g
    rw [g.sortMembers_toJson]
    exact Json.written_object (by simp [Json.written_string, Json.written_natural])
  have hlines : ∀ m ∈ sortedLinesMember f.lines, m.2.Written := by
    cases f.lines with
    | nil => simp [sortedLinesMember]
    | cons g gs =>
      have hall : ∀ v ∈ (g :: gs).map fun g => g.toJson.sortMembers, v.Written := by
        simp [hline]
      exact List.forall_mem_singleton.mpr (Json.written_array hall)
  rw [toJson_eq]
  refine Json.written_object (List.forall_mem_singleton.mpr (Json.written_object ?_))
  simp only [List.mem_cons, List.mem_append, List.not_mem_nil, or_false]
  rintro m (rfl | hm | rfl)
  · exact Json.written_string f.code
  · exact hlines m hm
  · exact Json.written_string f.message

/-- The code of each cause. Rules that cannot be read have one code, whether there is one condition
or there are many lines. -/
inductive HasCode : Failure → String → Prop
  | inputShape : HasCode (.rules .inputShape) "INPUT_SHAPE"
  | condition {text : String} {fault : Fault} :
      HasCode (.rules (.condition text fault)) "SYNTAX"
  | lines {failures : List LineFailure} : HasCode (.rules (.lines failures)) "SYNTAX"
  | emptyInput : HasCode (.rules .emptyInput) "EMPTY_INPUT"
  | fieldNotAllowed {field : String} {suggestion : Option String} {allowed : List String} :
      HasCode (.rules (.fieldNotAllowed field suggestion allowed)) "FIELD_NOT_ALLOWED"
  | operatorNotAllowed {operator : String} {allowed : List String} :
      HasCode (.rules (.operatorNotAllowed operator allowed)) "OPERATOR_NOT_ALLOWED"
  | typeMismatch {field expected value : String} :
      HasCode (.rules (.typeMismatch field expected value)) "TYPE_MISMATCH"
  | input {path : String} {e : Disk.Error} : HasCode (.input path e) "INPUT_ERROR"
  | settings {e : Settings.Error} : HasCode (.settings e) "CONFIG_ERROR"
  | stream {e : Disk.Error} : HasCode (.stream e) "IO_ERROR"
  | json {detail : String} : HasCode (.json detail) "JSON_ERROR"

/-- Every cause has the code that it is given in the document, and no other. -/
theorem hasCode_iff {f : Failure} {code : String} : f.HasCode code ↔ f.code = code := by
  constructor
  · intro h
    cases h <;> rfl
  · rintro rfl
    cases f with
    | rules e => cases e <;> constructor
    | _ => constructor

theorem HasCode.code_toJson {f : Failure} {code : String} (h : f.HasCode code) :
    (f.toJson.get? "error").bind (Json.get? "code") = some (.string code) := by
  rw [toJson_eq, hasCode_iff.mp h]
  rfl

end Program.Failure

end CatalogFilter
