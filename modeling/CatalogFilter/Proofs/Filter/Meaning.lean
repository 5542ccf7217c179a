import CatalogFilter.Proofs.Filter.Compiled
import CatalogFilter.Proofs.Number.Exact

/-!
# The meaning of a query

A query is read by a store that knows nothing of conditions: it sees a JSON tree. This file gives
the store's reading of such trees, for any kind of documents and any meaning of the comparisons,
and shows that the query of a list of conditions selects the documents that satisfy all of them.

* `Value` is what documents are compared with. Numbers are exact values, so that `0` and `-0`
  are one value, as they are for every comparison of numbers.
* `Query.Matches holds d j` says that the document `d` is selected by the query `j`, where
  `holds d field op v` is the meaning of a comparison.
* `Query.matches_compile_iff`: compiling preserves the meaning.
-/

namespace CatalogFilter

/-- What the fields of documents are compared with. -/
inductive Value where
  /-- A number. -/
  | number (q : ℚ)
  /-- A truth value. -/
  | bool (b : Bool)
  /-- A text. -/
  | text (s : String)
  deriving DecidableEq

/-- The value that a scalar stands for. -/
def Scalar.toValue : Scalar → Value
  | .number x => .number x.toRat
  | .bool b => .bool b
  | .text s => .text s

namespace Query

/-! ### Reading a query -/

/-- The value that a JSON scalar stands for. -/
def value? : Json → Option Value
  | .bool b => some (.bool b)
  | .integer n => some (.number n)
  | .float x => some (.number x.toRat)
  | .string s => some (.text s)
  | _ => none

/-- The comparison that a key names. -/
def comparison? : String → Option Operator
  | "$ne" => some .notEqual
  | "$gt" => some .greater
  | "$lt" => some .less
  | "$gte" => some .atLeast
  | "$lte" => some .atMost
  | _ => none

variable {Document : Type*} (holds : Document → String → Operator → Value → Prop) (d : Document)

/-- The document compares with the JSON scalar. -/
def Compares (field : String) (op : Operator) (j : Json) : Prop :=
  ∃ v, value? j = some v ∧ holds d field op v

/-- The document satisfies the constraint that is written under a field's name: a comparison named
by the key of an object with one member, or else equality. -/
def FieldMatches (field : String) : Json → Prop
  | .object [(key, j)] => ∃ op, comparison? key = some op ∧ Compares holds d field op j
  | j => Compares holds d field .equal j

/-- The document satisfies an object with one member, named by a field. -/
def ClauseMatches : Json → Prop
  | .object [(field, j)] => FieldMatches holds d field j
  | _ => False

/-- The document satisfies a member of a query: all clauses of the list, or the constraint on the
field of the name. -/
def MemberMatches (name : String) (j : Json) : Prop :=
  if name = "$and" then ∃ clauses, j = .array clauses ∧ ∀ c ∈ clauses, ClauseMatches holds d c
  else FieldMatches holds d name j

/-- The document is selected by a query: it satisfies all members. -/
def Matches : Json → Prop
  | .object members => ∀ m ∈ members, MemberMatches holds d m.1 m.2
  | _ => False

/-! ### Constraints -/

theorem value?_numberToJson (x : Binary64) :
    value? (Scalar.numberToJson x) = some (.number x.toRat) := by
  unfold Scalar.numberToJson
  split
  · rename_i n hn
    split
    · rw [value?, Binary64.toRat_eq_of_toInt? hn]
    · rfl
  · rfl

/-- A scalar is read back as its value. -/
theorem value?_toJson (v : Scalar) : value? v.toJson = some v.toValue := by
  cases v with
  | number x => exact value?_numberToJson x
  | bool b => rfl
  | text s => rfl

/-- A scalar under a field's name asks for equality. -/
theorem fieldMatches_scalar_iff (field : String) (v : Scalar) :
    FieldMatches holds d field v.toJson ↔ holds d field .equal v.toValue := by
  have hv := value?_toJson v
  cases hj : v.toJson with
  | null => simp [hj, value?] at hv
  | array items => simp [hj, value?] at hv
  | object members => simp [hj, value?] at hv
  | bool b => simp [hj] at hv; simp [FieldMatches, Compares, hv]
  | integer n => simp [hj] at hv; simp [FieldMatches, Compares, hv]
  | float x => simp [hj] at hv; simp [FieldMatches, Compares, hv]
  | string s => simp [hj] at hv; simp [FieldMatches, Compares, hv]

/-- An operator other than equality is written as a comparison whose key names it. -/
theorem ofOperator_cases (op : Operator) (v : Scalar) :
    (op = .equal ∧ Leaf.ofOperator op v = .equals v) ∨
      ∃ c : Comparator, comparison? c.key = some op ∧ Leaf.ofOperator op v = .compare c v := by
  cases op with
  | equal => exact Or.inl ⟨rfl, rfl⟩
  | notEqual => exact Or.inr ⟨.ne, rfl, rfl⟩
  | greater => exact Or.inr ⟨.gt, rfl, rfl⟩
  | less => exact Or.inr ⟨.lt, rfl, rfl⟩
  | atLeast => exact Or.inr ⟨.gte, rfl, rfl⟩
  | atMost => exact Or.inr ⟨.lte, rfl, rfl⟩

/-- The constraint of an operator and a value is read as that comparison. -/
theorem fieldMatches_ofOperator_iff (field : String) (op : Operator) (v : Scalar) :
    FieldMatches holds d field (Leaf.ofOperator op v).toJson ↔ holds d field op v.toValue := by
  rcases ofOperator_cases op v with ⟨rfl, hleaf⟩ | ⟨c, hkey, hleaf⟩
  · rw [hleaf]
    exact fieldMatches_scalar_iff holds d field v
  · rw [hleaf, Leaf.toJson, FieldMatches]
    simp [hkey, Compares, value?_toJson]

/-- A clause of the shared list is read as the constraint on its field. -/
theorem clauseMatches_toJson_iff (c : Clause) :
    ClauseMatches holds d c.toJson ↔ FieldMatches holds d c.field c.leaf.toJson :=
  Iff.rfl

/-! ### Filters -/

theorem memberMatches_direct_iff {c : Clause} (hc : c.field ≠ Filter.conjunctionKey) :
    MemberMatches holds d c.field c.leaf.toJson ↔
      FieldMatches holds d c.field c.leaf.toJson := by
  rw [MemberMatches, if_neg (show c.field ≠ "$and" from hc)]

theorem memberMatches_conjunction_iff (clauses : List Clause) :
    MemberMatches holds d Filter.conjunctionKey (.array (clauses.map Clause.toJson)) ↔
      ∀ c ∈ clauses, FieldMatches holds d c.field c.leaf.toJson := by
  rw [MemberMatches, if_pos (show Filter.conjunctionKey = "$and" from rfl)]
  simp [clauseMatches_toJson_iff]

/-- The query of a layout selects the documents that satisfy every constraint. -/
theorem matches_layout_iff {clauses : List Clause}
    (hand : ∀ c ∈ clauses, c.field ≠ Filter.conjunctionKey) :
    Matches holds d (Filter.toJson ⟨Filter.layout clauses⟩) ↔
      ∀ c ∈ clauses, FieldMatches holds d c.field c.leaf.toJson := by
  simp only [Matches, Filter.toJson, List.forall_mem_map]
  constructor
  · intro h c hc
    rcases Filter.isSingle_or_mem_shared hc with hsingle | hmem
    · have hentry := h _ (Filter.mem_layout_iff.mpr (Or.inl ⟨c, hc, hsingle, rfl⟩))
      exact (memberMatches_direct_iff holds d (hand c hc)).mp hentry
    · have hrepeat := Filter.firstRepeat?_ne_none_of_mem_shared hmem
      have hentry := h _ (Filter.mem_layout_iff.mpr (Or.inr ⟨hrepeat, rfl⟩))
      exact (memberMatches_conjunction_iff holds d _).mp hentry c hmem
  · intro h e he
    rcases Filter.mem_layout_iff.mp he with ⟨c, hc, -, rfl⟩ | ⟨-, rfl⟩
    · exact (memberMatches_direct_iff holds d (hand c hc)).mpr (h c hc)
    · refine (memberMatches_conjunction_iff holds d _).mpr fun c hc => ?_
      exact h c (Filter.mem_shared_iff.mp hc).1

/-- **Compiling preserves the meaning.** The names of the query are distinct, so that no member
hides another, and a document is selected by the query exactly when it satisfies every condition,
each compared with the value that its text stands for in its field. This holds for every kind of
documents and every meaning of the comparisons. -/
theorem matches_compile_iff {conditions : List Condition} {f : Filter}
    (h : Filter.compile conditions = .ok f) :
    f.keys.Nodup ∧
      (Matches holds d f.toJson ↔ ∀ c ∈ conditions, ∃ v,
        Scalar.coerce c.field c.value = .ok v ∧ holds d c.field c.operator v.toValue) := by
  obtain ⟨clauses, rfl, hclauses⟩ := Filter.exists_layout_of_compile h
  have hand := Filter.field_ne_conjunctionKey hclauses
  refine ⟨Filter.nodup_keys_layout hand, ?_⟩
  rw [matches_layout_iff holds d hand]
  refine (forall_mem_iff_of_forall₂ hclauses ?_).symm
  rintro c k ⟨-, hfield, v, hv, hleaf⟩
  rw [hfield, hleaf, fieldMatches_ofOperator_iff, hv]
  simp

/-- Documents are quantities in stock, with the comparisons of numbers. -/
def inStock (stock : ℚ) (_ : String) (op : Operator) : Value → Prop
  | .number q =>
      match op with
      | .equal => stock = q
      | .notEqual => stock ≠ q
      | .greater => q < stock
      | .less => stock < q
      | .atLeast => q ≤ stock
      | .atMost => stock ≤ q
  | _ => False

/-- A range of quantities with a gap, from three conditions on one field. The lower end is `-0`. -/
theorem matches_compile_iff_inStock :
    ∃ f, Filter.compile [.ofParts "stock_quantity" .greater "-0",
        .ofParts "stock_quantity" .notEqual "7", .ofParts "stock_quantity" .atMost "12.5"] = .ok f ∧
      ∀ stock : ℚ, Matches inStock stock f.toJson ↔ 0 < stock ∧ stock ≠ 7 ∧ stock ≤ 25 / 2 := by
  obtain ⟨f, hf⟩ : ∃ f, Filter.compile [.ofParts "stock_quantity" .greater "-0",
      .ofParts "stock_quantity" .notEqual "7",
      .ofParts "stock_quantity" .atMost "12.5"] = .ok f := ⟨_, rfl⟩
  have hvalue (raw : String) (x : Binary64) (q : ℚ) (hraw : Scalar.readNumber? raw = some x)
      (hx : x.toRat = q) : ∃ v, Scalar.coerce "stock_quantity" raw = .ok v ∧
        v.toValue = .number q := by
    refine ⟨.number x, ?_, congrArg Value.number hx⟩
    rw [Scalar.coerce, show Catalog.kindOf "stock_quantity" = .number from rfl, Scalar.ofText, hraw]
  obtain ⟨low, hlow, hlowValue⟩ := hvalue "-0" ⟨true, 0, 0⟩ 0
    (by decide +kernel) (by decide +kernel)
  obtain ⟨gap, hgap, hgapValue⟩ := hvalue "7" ⟨false, 1025, 3377699720527872⟩ 7
    (by decide +kernel) (by decide +kernel)
  obtain ⟨high, hhigh, hhighValue⟩ := hvalue "12.5" ⟨false, 1026, 2533274790395904⟩ (25 / 2)
    (by decide +kernel) (by decide +kernel)
  refine ⟨f, hf, fun stock => ?_⟩
  rw [(matches_compile_iff inStock stock hf).2]
  simp [Condition.ofParts, hlow, hlowValue, hgap, hgapValue, hhigh, hhighValue, inStock]

end Query

end CatalogFilter
