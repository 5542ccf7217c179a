import CatalogFilter.Condition.Record
import CatalogFilter.Proofs.Json.Records
import CatalogFilter.Proofs.Json.RoundTrip

/-!
# Conditions read back from JSON text

The JSON form of a condition has four members, one for each part. However its text is laid out and
in whatever order the members come, the condition is read back as it was.

* `Condition.knownParts`: a condition while it is read.
* `Condition.lawful_record`: the parts of a condition are filled one by one.
* `Condition.ofJsonText_toJson`: a condition is read back.
-/

namespace CatalogFilter

/-- An operator is found by its symbol. -/
theorem Operator.parse_symbol (op : Operator) : Operator.parse op.symbol = .ok op := by
  cases op <;> rfl

namespace Condition

/-- The members of the JSON form. -/
def members (c : Condition) : List (String × Json) :=
  [("field", .string c.field), ("operator", c.operator.toJson), ("value", .string c.value),
   ("original", .string c.source)]

theorem toJson_eq_object (c : Condition) : c.toJson = .object c.members :=
  rfl

/-- What is known of a condition once the members of the given names are read. -/
def knownParts (c : Condition) (names : List String) : Draft where
  field := if "field" ∈ names then some c.field else none
  operator := if "operator" ∈ names then some c.operator else none
  value := if "value" ∈ names then some c.value else none
  source := if "original" ∈ names then some c.source else none

theorem operatorOfJson_toJson (op : Operator) : operatorOfJson op.toJson = .ok op := by
  simp only [operatorOfJson, Operator.toJson, Json.toText, Operator.parse_symbol, bind, Except.bind]

/-- A part of a condition is filled without regard to the others. -/
theorem lawful_record : record.Lawful where
  blank s hs := by
    simp only [record, slots, List.mem_cons, List.not_mem_nil, or_false] at hs
    rcases hs with rfl | rfl | rfl | rfl <;> rfl
  fill s hs t ht hne d v d' h := by
    simp only [record, slots, List.mem_cons, List.not_mem_nil, or_false] at hs ht
    rcases hs with rfl | rfl | rfl | rfl <;>
      obtain ⟨_, -, rfl⟩ := Except.bind_return_eq_ok_iff.mp h <;>
      rcases ht with rfl | rfl | rfl | rfl <;> first | rfl | exact absurd rfl hne

/-- One member of a condition is read. -/
theorem addMember_knownParts (c : Condition) (names : List String) {m : String × Json}
    (hm : m ∈ c.members) :
    record.addMember (c.knownParts names) m = .ok (c.knownParts (m.1 :: names)) := by
  simp only [members, List.mem_cons, List.not_mem_nil, or_false] at hm
  rcases hm with rfl | rfl | rfl | rfl <;>
    simp [Json.Record.addMember, Json.Record.slot?, record, slots, knownParts, Json.toText,
      operatorOfJson_toJson, bind, Except.bind, pure, Except.pure]

theorem ofDraft_knownParts (c : Condition) {names : List String}
    (h : ∀ m ∈ c.members, m.1 ∈ names) (missing : Nat → Json.Mismatch) :
    ofDraft missing (c.knownParts names) = .ok c := by
  simp only [members, List.forall_mem_cons] at h
  simp [ofDraft, knownParts, h]

theorem known_of_mem_members (c : Condition) {m : String × Json} (hm : m ∈ c.members) :
    (record.slot? m.1).isSome ∧ m.2.depth = 0 := by
  simp only [members, List.mem_cons, List.not_mem_nil, or_false] at hm
  rcases hm with rfl | rfl | rfl | rfl <;> exact ⟨rfl, rfl⟩

theorem namedOnce_members (c : Condition) : record.NamedOnce c.members := by
  simp [Json.Record.NamedOnce, record, slots, members]

/-- A condition is read from every text of an object with its members. -/
theorem ofJsonText_of_spellsText (c : Condition) {ms : List (String × Json)}
    (hms : ms.Perm c.members) {text : String} (h : Json.SpellsText (.object ms) text) :
    ofJsonText text = .ok c := by
  have hmem : ∀ m ∈ ms, m ∈ c.members := fun m hm => hms.mem_iff.mp hm
  have hobject : record.SpellsObject ms text.toList :=
    .of_exact h fun m hm => (c.known_of_mem_members (hmem m hm)).1
  have honce : record.NamedOnce ms := by
    intro s hs
    rw [(hms.map Prod.fst).count_eq]
    exact c.namedOnce_members s hs
  have hadd := Json.Record.foldlM_addMember (fun done => c.knownParts (done.map Prod.fst))
    (fun done m hm => c.addMember_knownParts (done.map Prod.fst) (hmem m hm)) []
  refine Json.Record.parse_of_spells lawful_record hobject honce ?_ hadd ?_
  · intro m hm s _
    rw [(c.known_of_mem_members (hmem m hm)).2]
    exact Nat.zero_le _
  · refine c.ofDraft_knownParts ?_ _
    intro m hm
    refine List.mem_map_of_mem ?_
    simpa using hms.mem_iff.mpr hm

theorem fits_members (c : Condition) : (Json.object c.members).Fits 1 := by
  simp [members, Operator.toJson, Json.Fits, Json.FitsMembers]

/-- **A condition survives JSON.** Its compact text and its text with line breaks are read back as
the condition that was written, and so is every other text of an object with the same members,
in any order, with any blanks and with its strings escaped in any way. -/
theorem ofJsonText_toJson (c : Condition) :
    ofJsonText c.toJson.compact = .ok c ∧ ofJsonText c.toJson.pretty = .ok c ∧
      ∀ (ms : List (String × Json)) (text : String), ms.Perm c.members →
        Json.SpellsText (.object ms) text → ofJsonText text = .ok c := by
  rw [toJson_eq_object]
  have hcompact := Json.spellsText_compact c.fits_members
  have hpretty := Json.spellsText_pretty c.fits_members
  exact ⟨c.ofJsonText_of_spellsText (.refl _) hcompact,
    c.ofJsonText_of_spellsText (.refl _) hpretty,
    fun _ _ hms htext => c.ofJsonText_of_spellsText hms htext⟩

theorem ofJsonText_toJson_reversed :
    ofJsonText ("\x7b\n  \"original\": \"a\\\\ >= \\\"é\\u001f\",\n" ++
        "  \"value\": \"\\\"é\\u001f\",\n  \"operator\": \">=\",\n  \"field\": \"a\\\\\"\n\x7d") =
      .ok (ofParts "a\\" .atLeast "\"é\x1f") := by
  have hfits : (Json.object (members (ofParts "a\\" .atLeast "\"é\x1f")).reverse).Fits 1 := by
    simp [members, Operator.toJson, Json.Fits, Json.FitsMembers]
  have htext : (Json.object (members (ofParts "a\\" .atLeast "\"é\x1f")).reverse).pretty =
      "\x7b\n  \"original\": \"a\\\\ >= \\\"é\\u001f\",\n" ++
        "  \"value\": \"\\\"é\\u001f\",\n  \"operator\": \">=\",\n  \"field\": \"a\\\\\"\n\x7d" := by
    decide +kernel
  rw [← htext]
  exact (ofJsonText_toJson _).2.2 _ _ (List.reverse_perm _) (Json.spellsText_pretty hfits)

end Condition

end CatalogFilter
