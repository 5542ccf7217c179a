import CatalogFilter.Filter.Compile
import Mathlib.Data.List.Forall2

/-!
# Accepted conditions

A condition is accepted when rules may speak of its field and its value is one of the field's kind.
The check and the constraint are two passes over the same facts: the check of the value asks whether
the value can be read, and the constraint reads it. So the check succeeds exactly when there is a
constraint, and fails with the same error otherwise (`Condition.validate_eq_map_clause`).

* `Catalog.selectable?_eq_some_iff` describes the fields that rules may speak of.
* `Condition.States c k` says that `k` is the constraint of the condition `c`, and
  `Condition.clause_eq_ok_iff` which conditions are accepted.
* `Filter.compile_eq_ok_iff` carries this over to lists of conditions.
-/

namespace CatalogFilter

namespace Catalog

theorem lookup?_eq_some_iff {name : String} {f : Field} :
    lookup? name = some f ↔ f ∈ fields ∧ f.name = name := by
  have hnodup : ∀ f ∈ fields, ∀ g ∈ fields, f.name = g.name → f = g := by decide
  constructor
  · intro h
    exact ⟨List.mem_of_find?_eq_some h, by simpa using List.find?_some h⟩
  · rintro ⟨hf, rfl⟩
    obtain ⟨g, hg⟩ : ∃ g, fields.find? (·.name == f.name) = some g :=
      Option.isSome_iff_exists.mp (List.find?_isSome.mpr ⟨f, hf, beq_self_eq_true f.name⟩)
    have hname : g.name = f.name := by simpa using List.find?_some hg
    rw [lookup?, hg, hnodup g (List.mem_of_find?_eq_some hg) f hf hname]

theorem selectable?_eq_some_iff {name : String} {f : Field} :
    selectable? name = some f ↔ f ∈ fields ∧ f.name = name ∧ f.selectable := by
  rw [selectable?, Option.filter_eq_some_iff, lookup?_eq_some_iff, and_assoc]

theorem mem_selectableNames_iff {name : String} :
    name ∈ selectableNames ↔ ∃ f, selectable? name = some f := by
  simp only [selectable?_eq_some_iff, selectableNames, selectableFields, List.mem_map,
    List.mem_filter]
  constructor
  · rintro ⟨f, ⟨hf, hsel⟩, hname⟩
    exact ⟨f, hf, hname, hsel⟩
  · rintro ⟨f, hf, hname, hsel⟩
    exact ⟨f, ⟨hf, hsel⟩, hname⟩

theorem kindOf_eq_of_selectable? {name : String} {f : Field} (h : selectable? name = some f) :
    kindOf name = f.kind := by
  obtain ⟨hf, hname, -⟩ := selectable?_eq_some_iff.mp h
  rw [kindOf, lookup?_eq_some_iff.mpr ⟨hf, hname⟩]
  rfl

end Catalog

namespace Condition

/-! ### The check and the constraint -/

/-- The value of a condition passes its check exactly when it can be read. -/
theorem checkValue_eq_map_ofText (f : Field) (raw : String) :
    checkValue f raw = (Scalar.ofText f.kind f.name raw).map fun _ => () := by
  unfold checkValue Scalar.ofText
  cases f.kind with
  | number => cases Scalar.readNumber? raw <;> rfl
  | boolean => cases Scalar.readBool? raw <;> rfl
  | text => rfl

/-- Every operator is a listed one. -/
theorem checkOperator_eq_ok (c : Condition) : c.checkOperator = .ok () :=
  if_pos (Operator.mem_displayOrder c.operator)

/-- The check of a condition looks at its field and then at its value. -/
theorem check_eq_bind (c : Condition) :
    c.check = c.checkField.bind fun f =>
      (Scalar.ofText f.kind f.name c.value).map fun _ => f := by
  rw [check, checkOperator_eq_ok]
  cases c.checkField with
  | error e => rfl
  | ok f =>
    change (checkValue f c.value >>= fun _ => .ok f) =
      (Scalar.ofText f.kind f.name c.value).map fun _ => f
    rw [checkValue_eq_map_ofText]
    cases Scalar.ofText f.kind f.name c.value <;> rfl

/-- The constraint of a condition is made from its field and its value. -/
theorem clause_eq_bind (c : Condition) :
    c.clause = c.checkField.bind fun f =>
      (Scalar.ofText f.kind f.name c.value).map fun v => ⟨c.field, .ofOperator c.operator v⟩ := by
  rw [clause, check_eq_bind]
  cases c.checkField with
  | error e => rfl
  | ok f =>
    cases hv : Scalar.ofText f.kind f.name c.value with
    | error e => simp [bind, Except.bind, Except.map, hv]
    | ok v => simp [bind, Except.bind, Except.map, pure, Except.pure, hv]

/-- A condition keeps the rules exactly when it states a constraint, and fails alike otherwise. -/
theorem validate_eq_map_clause (c : Condition) : c.validate = c.clause.map fun _ => () := by
  rw [validate, check_eq_bind, clause_eq_bind]
  cases c.checkField with
  | error e => rfl
  | ok f =>
    cases hv : Scalar.ofText f.kind f.name c.value with
    | error e => simp [bind, Except.bind, Except.map, hv]
    | ok v => simp [bind, Except.bind, Except.map, pure, Except.pure, hv]

/-- The constraint of a condition on a field that rules may speak of is decided by its value. -/
theorem clause_of_selectable? {c : Condition} {f : Field}
    (h : Catalog.selectable? c.field = some f) :
    c.clause =
      (Scalar.coerce c.field c.value).map fun v => ⟨c.field, .ofOperator c.operator v⟩ := by
  have hname : f.name = c.field := (Catalog.selectable?_eq_some_iff.mp h).2.1
  rw [clause_eq_bind, checkField, h, Scalar.coerce, Catalog.kindOf_eq_of_selectable? h, ← hname]
  rfl

/-- The constraint compares the field of the condition, by its operator, with the value that its
text stands for. -/
def States (c : Condition) (k : Clause) : Prop :=
  k.field = c.field ∧
    ∃ v, Scalar.coerce c.field c.value = .ok v ∧ k.leaf = .ofOperator c.operator v

/-- The accepted conditions are those on a field that rules may speak of, with a value of the
field's kind. -/
theorem clause_eq_ok_iff {c : Condition} {k : Clause} :
    c.clause = .ok k ↔ c.field ∈ Catalog.selectableNames ∧ c.States k := by
  cases h : Catalog.selectable? c.field with
  | none =>
    have hfield : c.field ∉ Catalog.selectableNames := by
      simp [Catalog.mem_selectableNames_iff, h]
    simp [clause_eq_bind, checkField, h, Except.bind, hfield]
  | some f =>
    obtain ⟨field, leaf⟩ := k
    rw [clause_of_selectable? h, and_iff_right (Catalog.mem_selectableNames_iff.mpr ⟨f, h⟩),
      States]
    cases Scalar.coerce c.field c.value with
    | error e => simp [Except.map]
    | ok v => simp [Except.map, eq_comm]

theorem validate_eq_ok_iff {c : Condition} : c.validate = .ok () ↔ ∃ k, c.clause = .ok k := by
  rw [validate_eq_map_clause]
  cases c.clause <;> simp [Except.map]

/-- A condition is refused by its check just if it states no constraint, for the same reason. -/
theorem validate_eq_error_iff {c : Condition} {e : RuleError} :
    c.validate = .error e ↔ c.clause = .error e := by
  rw [validate_eq_map_clause]
  cases c.clause <;> simp [Except.map]

theorem exists_clause_of_validate {c : Condition} (h : c.validate = .ok ()) :
    ∃ k, c.clause = .ok k :=
  validate_eq_ok_iff.mp h

end Condition

/-! ### Lists of conditions -/

theorem mapM_eq_ok_iff {α β ε : Type} {f : α → Except ε β} {as : List α} {bs : List β} :
    as.mapM f = .ok bs ↔ List.Forall₂ (fun a b => f a = .ok b) as bs := by
  induction as generalizing bs with
  | nil => simp [pure, Except.pure, eq_comm]
  | cons a as ih =>
    rw [List.mapM_cons, List.forall₂_cons_left_iff]
    constructor
    · intro h
      cases ha : f a with
      | error e => simp [ha, bind, Except.bind] at h
      | ok b =>
        cases hs : as.mapM f with
        | error e => simp [ha, hs, bind, Except.bind] at h
        | ok bs' =>
          simp only [ha, hs, bind, Except.bind, pure, Except.pure, Except.ok.injEq] at h
          exact ⟨b, bs', rfl, ih.mp hs, h.symm⟩
    · rintro ⟨b, bs', ha, hbs, rfl⟩
      rw [ha, ih.mpr hbs]
      rfl

theorem forall_mem_iff_of_forall₂ {α β : Type} {R : α → β → Prop} {P : α → Prop} {Q : β → Prop}
    {as : List α} {bs : List β} (h : List.Forall₂ R as bs)
    (hR : ∀ a b, R a b → (P a ↔ Q b)) : (∀ a ∈ as, P a) ↔ ∀ b ∈ bs, Q b := by
  induction h with
  | nil => simp
  | cons hab _ ih => simp [hR _ _ hab, ih]

theorem exists_mem_of_forall₂ {α β : Type} {R : α → β → Prop} {as : List α} {bs : List β}
    (h : List.Forall₂ R as bs) {b : β} (hb : b ∈ bs) : ∃ a ∈ as, R a b := by
  induction h with
  | nil => simp at hb
  | cons hab _ ih =>
    rcases List.mem_cons.mp hb with rfl | hb
    · exact ⟨_, List.mem_cons_self, hab⟩
    · obtain ⟨a, ha, hR⟩ := ih hb
      exact ⟨a, List.mem_cons_of_mem _ ha, hR⟩

namespace Filter

/-- A list of conditions is compiled when it is not empty and each condition states a
constraint; the constraints are then placed one after the other. -/
theorem compile_eq_ok_iff {conditions : List Condition} {f : Filter} :
    compile conditions = .ok f ↔ conditions ≠ [] ∧ ∃ clauses,
      List.Forall₂ (fun c k => c.clause = .ok k) conditions clauses ∧
        f = (Builder.ofClauses clauses).filter := by
  unfold compile
  cases conditions with
  | nil => simp
  | cons c cs =>
    simp only [List.isEmpty_cons, Bool.false_eq_true, ↓reduceIte, ne_eq, reduceCtorEq,
      not_false_eq_true, true_and, ← mapM_eq_ok_iff]
    cases (c :: cs).mapM Condition.clause with
    | error e => simp [bind, Except.bind]
    | ok clauses => simp [bind, Except.bind, pure, Except.pure, eq_comm]

end Filter

end CatalogFilter
