import CatalogFilter.Proofs.Filter.Meaning
import CatalogFilter.Proofs.Json.RoundTrip

/-!
# The text of a query

What a store receives is the text of a query, and that text holds texts that users chose. Read back,
it has the shape that the conditions ask for and no other: every name and every key is one of a
fixed list, and the text of a condition is found only as a text.

* `Query.IsLeaf`: the JSON value is the constraint of a condition.
* `Query.Encodes`: the members of an object are the constraints of a list of conditions.
* `Query.parse_compile`: the text of a compiled query encodes its conditions.
-/

namespace CatalogFilter

theorem Scalar.isFinite_of_readNumber? {raw : String} {x : Binary64}
    (h : Scalar.readNumber? raw = some x) : x.isFinite :=
  (Option.filter_eq_some_iff.mp h).2

namespace Query

/-! ### The shape of a query -/

/-- The JSON value is a scalar of the given kind; as a text, it is the given one. -/
def IsScalar (kind : FieldKind) (raw : String) : Json → Prop
  | .integer _ => kind = .number
  | .float _ => kind = .number
  | .bool _ => kind = .boolean
  | .string s => kind = .text ∧ s = raw
  | _ => False

/-- The JSON value is the constraint of a condition: an object with one member, whose key names the
comparison, or a scalar if the condition asks for equality. -/
def IsLeaf (c : Condition) : Json → Prop
  | .object [(key, j)] =>
      comparison? key = some c.operator ∧ IsScalar (Catalog.kindOf c.field) c.value j
  | j => c.operator = .equal ∧ IsScalar (Catalog.kindOf c.field) c.value j

/-- The members of an object are the constraints of the conditions. -/
structure Encodes (conditions : List Condition) (members : List (String × Json)) : Prop where
  /-- No two members have the same name. -/
  nodup : (members.map Prod.fst).Nodup
  /-- A member is the constraint of a condition on a field that rules may speak of, under the
  field's name, or the shared list. The shared list has two or more clauses, each an object with one
  member, which is such a constraint on a field that is not a name of the query. -/
  member : ∀ m ∈ members,
    (m.1 ∈ Catalog.selectableNames ∧ ∃ c ∈ conditions, c.field = m.1 ∧ IsLeaf c m.2) ∨
      m.1 = "$and" ∧ ∃ clauses, m.2 = .array clauses ∧ 2 ≤ clauses.length ∧
        ∀ clause ∈ clauses, ∃ field j, clause = .object [(field, j)] ∧
          field ∈ Catalog.selectableNames ∧ field ∉ members.map Prod.fst ∧
          ∃ c ∈ conditions, c.field = field ∧ IsLeaf c j
  /-- Every condition has its constraint, under its field's name or in the shared list. -/
  covers : ∀ c ∈ conditions, ∃ j, IsLeaf c j ∧
    ((c.field, j) ∈ members ∨
      ∃ clauses, ("$and", .array clauses) ∈ members ∧ .object [(c.field, j)] ∈ clauses)

/-! ### Scalars and constraints -/

theorem isScalar_reread_numberToJson {x : Binary64} (hx : x.isFinite) (raw : String) :
    IsScalar .number raw (Scalar.numberToJson x).reread := by
  obtain ⟨y, hy⟩ := Json.exists_rereadFloat hx
  have hfloat : IsScalar .number raw (Json.float x).reread := by
    rw [Json.reread, hy]
    rfl
  unfold Scalar.numberToJson
  split
  · split
    · rfl
    · exact hfloat
  · exact hfloat

/-- The value of a condition comes back as a scalar of its field's kind. -/
theorem isScalar_reread_toJson {kind : FieldKind} {field raw : String} {v : Scalar}
    (h : Scalar.ofText kind field raw = .ok v) : IsScalar kind raw v.toJson.reread := by
  cases kind with
  | text =>
    cases h
    exact ⟨rfl, rfl⟩
  | boolean =>
    rw [Scalar.ofText] at h
    split at h <;> cases h
    rfl
  | number =>
    rw [Scalar.ofText] at h
    split at h <;> cases h
    rename_i x hx
    exact isScalar_reread_numberToJson (Scalar.isFinite_of_readNumber? hx) raw

theorem isLeaf_of_isScalar {c : Condition} {j : Json} (hop : c.operator = .equal)
    (h : IsScalar (Catalog.kindOf c.field) c.value j) : IsLeaf c j := by
  cases j with
  | object members => exact absurd h id
  | _ => exact ⟨hop, h⟩

/-- The constraint of a condition comes back as a constraint of that condition. -/
theorem isLeaf_reread_toJson {c : Condition} {v : Scalar}
    (h : Scalar.coerce c.field c.value = .ok v) :
    IsLeaf c (Leaf.ofOperator c.operator v).toJson.reread := by
  have hscalar := isScalar_reread_toJson h
  rcases ofOperator_cases c.operator v with ⟨hop, hleaf⟩ | ⟨comparator, hkey, hleaf⟩
  · rw [hleaf]
    exact isLeaf_of_isScalar hop hscalar
  · rw [hleaf]
    exact ⟨hkey, hscalar⟩

/-! ### Limits of the reader -/

theorem fits_scalar (levels : Nat) (v : Scalar) : v.toJson.Fits levels := by
  cases v with
  | bool b => trivial
  | text s => trivial
  | number x =>
    rw [Scalar.toJson, Scalar.numberToJson]
    split
    · split
      · rename_i n _ hn
        have hbound : n.natAbs < 9007199254740992 := hn
        constructor
        · unfold Json.maxNegative
          omega
        · unfold Json.maxSignificand
          omega
      · trivial
    · trivial

theorem fits_leaf (levels : Nat) (leaf : Leaf) : leaf.toJson.Fits (levels + 1) := by
  cases leaf with
  | equals v => exact fits_scalar _ v
  | compare comparator v => exact ⟨Nat.succ_pos _, fits_scalar _ v, trivial⟩

theorem fits_clause (levels : Nat) (c : Clause) : c.toJson.Fits (levels + 2) :=
  ⟨Nat.succ_pos _, fits_leaf levels c.leaf, trivial⟩

/-- No query is nested deeper than four levels. -/
theorem fits_toJson (levels : Nat) (f : Filter) : f.toJson.Fits (levels + 4) := by
  refine ⟨Nat.succ_pos _, Json.fitsMembers_iff.mpr ?_⟩
  intro m hm
  obtain ⟨e, -, rfl⟩ := List.mem_map.mp hm
  cases e with
  | direct c => exact fits_leaf _ c.leaf
  | conjunction clauses =>
    refine ⟨Nat.succ_pos _, Json.fitsItems_iff.mpr ?_⟩
    intro j hj
    obtain ⟨c, -, rfl⟩ := List.mem_map.mp hj
    exact fits_clause levels c

/-! ### The text of a compiled query -/

/-- The members that the text of a filter is read as. -/
def decodedMembers (f : Filter) : List (String × Json) :=
  f.entries.map fun e => ((Filter.member e).1, (Filter.member e).2.reread)

theorem reread_toJson (f : Filter) : f.toJson.reread = .object (decodedMembers f) := by
  rw [Filter.toJson, Json.reread, Json.rereadMembers_eq_map, List.map_map]
  rfl

theorem map_fst_decodedMembers (f : Filter) : (decodedMembers f).map Prod.fst = f.keys := by
  rw [decodedMembers, List.map_map]
  rfl

theorem reread_conjunction (clauses : List Clause) :
    (Json.array (clauses.map Clause.toJson)).reread =
      .array (clauses.map fun c => .object [(c.field, c.leaf.toJson.reread)]) := by
  rw [Json.reread, Json.rereadItems_eq_map, List.map_map]
  rfl

/-- A layout comes back as the constraints of the conditions that state its clauses. -/
theorem encodes_layout {conditions : List Condition} {clauses : List Clause}
    (h : List.Forall₂ (fun c k => c.field ∈ Catalog.selectableNames ∧ c.States k)
      conditions clauses) : Encodes conditions (decodedMembers ⟨Filter.layout clauses⟩) := by
  have hand := Filter.field_ne_conjunctionKey h
  have hleaf {k : Clause} (hk : k ∈ clauses) : k.field ∈ Catalog.selectableNames ∧
      ∃ c ∈ conditions, c.field = k.field ∧ IsLeaf c k.leaf.toJson.reread := by
    obtain ⟨c, hc, hname, hfield, v, hv, hstates⟩ := exists_mem_of_forall₂ h hk
    refine ⟨hfield ▸ hname, c, hc, hfield.symm, ?_⟩
    rw [hstates]
    exact isLeaf_reread_toJson hv
  refine ⟨?_, ?_, ?_⟩
  · rw [map_fst_decodedMembers]
    exact Filter.nodup_keys_layout hand
  · intro m hm
    obtain ⟨e, he, rfl⟩ := List.mem_map.mp hm
    rcases Filter.mem_layout_iff.mp he with ⟨k, hk, -, rfl⟩ | ⟨hrepeat, rfl⟩
    · exact .inl (hleaf hk)
    · refine .inr ⟨rfl, _, reread_conjunction _, ?_, ?_⟩
      · rw [List.length_map]
        exact Filter.two_le_length_shared hrepeat
      · intro clause hclause
        obtain ⟨k, hk, rfl⟩ := List.mem_map.mp hclause
        obtain ⟨hname, hc⟩ := hleaf (Filter.mem_shared_iff.mp hk).1
        refine ⟨k.field, _, rfl, hname, ?_, hc⟩
        rw [map_fst_decodedMembers]
        exact Filter.field_notMem_keys_of_mem_shared hand hk
  · intro c hc
    obtain ⟨k, hk, -, hfield, v, hv, hstates⟩ := exists_mem_of_forall₂ h.flip hc
    refine ⟨k.leaf.toJson.reread, hstates ▸ isLeaf_reread_toJson hv, ?_⟩
    rw [← hfield]
    rcases Filter.isSingle_or_mem_shared hk with hsingle | hmem
    · have he := Filter.mem_layout_iff.mpr (.inl ⟨k, hk, hsingle, rfl⟩)
      exact .inl (List.mem_map.mpr ⟨_, he, rfl⟩)
    · have hrepeat := Filter.firstRepeat?_ne_none_of_mem_shared hmem
      have he := Filter.mem_layout_iff.mpr (.inr ⟨hrepeat, rfl⟩)
      have hentry : ("$and", .array ((Filter.shared clauses).map fun k =>
          .object [(k.field, k.leaf.toJson.reread)])) ∈ decodedMembers ⟨Filter.layout clauses⟩ :=
        List.mem_map.mpr ⟨_, he, congrArg _ (reread_conjunction _)⟩
      exact .inr ⟨_, hentry, List.mem_map.mpr ⟨k, hmem, rfl⟩⟩

/-- **User text stays text.** The text of a compiled query, in either layout, is read back as an
object whose members are exactly the constraints of the conditions, whatever characters the
conditions hold. -/
theorem parse_compile {conditions : List Condition} {f : Filter}
    (h : Filter.compile conditions = .ok f) :
    ∃ members, Json.parse f.toJson.compact = .ok (.object members) ∧
      Json.parse f.toJson.pretty = .ok (.object members) ∧ Encodes conditions members := by
  obtain ⟨clauses, rfl, hclauses⟩ := Filter.exists_layout_of_compile h
  have hfits := fits_toJson 123 ⟨Filter.layout clauses⟩
  refine ⟨_, ?_, ?_, encodes_layout hclauses⟩
  · rw [Json.parse_compact hfits, reread_toJson]
  · rw [Json.parse_pretty hfits, reread_toJson]

/-- Conditions whose texts look like the end of a text, like structure, like the name of the shared
list and like a key, with a quote, a backslash, a line break and a zero character among them. -/
def hostile : List Condition :=
  [.ofParts "title" .equal "\", \"$where\": \"1", .ofParts "tags" .notEqual "$and",
    .ofParts "stock_quantity" .atLeast "1e-7", .ofParts "tags" .equal "\x7b\"$gt\": 0\x7d\\",
    .ofParts "on_sale" .equal "TRUE", .ofParts "price" .less "\n\x00",
    .ofParts "stock_quantity" .less "1.7976931348623157e308"]

theorem parse_compile_hostile :
    ∃ f, Filter.compile hostile = .ok f ∧
      ∃ members, Json.parse f.toJson.compact = .ok (.object members) ∧
        Json.parse f.toJson.pretty = .ok (.object members) ∧ Encodes hostile members := by
  have hok : (Filter.compile hostile).isOk := by decide +kernel
  cases hf : Filter.compile hostile with
  | ok f => exact ⟨f, rfl, parse_compile hf⟩
  | error e =>
    rw [hf] at hok
    cases hok

end Query

end CatalogFilter
