import CatalogFilter.Proofs.Condition.Accepted

/-!
# Lists of conditions that are refused

The conditions of a list are checked one after the other, and the first that breaks the rules
decides the error. Every condition is looked at twice, once to check its value and once to read it.
The two agree for every field and every value, so that reading fails for no condition that was
checked.

* `mapM_eq_error_iff`: of steps that may fail, the first that does decides.
* `Condition.exists_ofText_of_check`: the check of a condition leaves nothing for the reading of its
  value to refuse.
* `Scalar.exists_typeMismatch`: why a value is refused.
* `Filter.compile_eq_first_error`: the error of a list of conditions.
-/

namespace CatalogFilter

theorem mapM_cons_eq_error_iff {α β ε : Type} {f : α → Except ε β} {a : α} {as : List α} {e : ε} :
    (a :: as).mapM f = .error e ↔
      f a = .error e ∨ (∃ y, f a = .ok y) ∧ as.mapM f = .error e := by
  rw [List.mapM_cons]
  cases f a with
  | error e' => simp [bind, Except.bind]
  | ok y => cases as.mapM f <;> simp [bind, Except.bind, pure, Except.pure]

/-- Of steps that may fail, the first that does decides the error. -/
theorem mapM_eq_error_iff {α β ε : Type} {f : α → Except ε β} {as : List α} {e : ε} :
    as.mapM f = .error e ↔
      ∃ i a, as[i]? = some a ∧ f a = .error e ∧ ∀ b ∈ as.take i, ∃ y, f b = .ok y := by
  induction as with
  | nil => simp [pure, Except.pure]
  | cons a as ih =>
    rw [mapM_cons_eq_error_iff, ih]
    constructor
    · rintro (ha | ⟨hok, i, b, hget, hb, hbefore⟩)
      · exact ⟨0, a, rfl, ha, by simp⟩
      · refine ⟨i + 1, b, hget, hb, ?_⟩
        rw [List.take_succ_cons, List.forall_mem_cons]
        exact ⟨hok, hbefore⟩
    · rintro ⟨i, b, hget, hb, hbefore⟩
      cases i with
      | zero =>
        obtain rfl : a = b := by simpa using hget
        exact .inl hb
      | succ i =>
        rw [List.take_succ_cons, List.forall_mem_cons] at hbefore
        exact .inr ⟨hbefore.1, i, b, hget, hb, hbefore.2⟩

/-- A value is refused because it is not of the kind that is wanted. -/
theorem Scalar.exists_typeMismatch {kind : FieldKind} {field raw : String} {e : RuleError}
    (h : Scalar.ofText kind field raw = .error e) :
    ∃ expected, e = .typeMismatch field expected raw := by
  unfold Scalar.ofText at h
  cases kind with
  | number =>
    cases hread : Scalar.readNumber? raw with
    | none =>
      simp only [hread, Except.error.injEq] at h
      exact ⟨_, h.symm⟩
    | some x => simp [hread] at h
  | boolean =>
    cases hread : Scalar.readBool? raw with
    | none =>
      simp only [hread, Except.error.injEq] at h
      exact ⟨_, h.symm⟩
    | some b => simp [hread] at h
  | text => cases h

namespace Condition

theorem exists_check_of_validate {c : Condition} (h : c.validate = .ok ()) :
    ∃ f, c.check = .ok f := by
  unfold validate at h
  cases hcheck : c.check with
  | error e => simp [hcheck, bind, Except.bind] at h
  | ok f => exact ⟨f, rfl⟩

/-- The value of a condition that was checked can be read. -/
theorem exists_ofText_of_check {c : Condition} {f : Field} (h : c.check = .ok f) :
    ∃ v, Scalar.ofText f.kind f.name c.value = .ok v := by
  rw [check_eq_bind] at h
  cases hfield : c.checkField with
  | error e => simp [hfield, Except.bind] at h
  | ok f' =>
    cases hvalue : Scalar.ofText f'.kind f'.name c.value with
    | error e => simp [hfield, hvalue, Except.bind, Except.map] at h
    | ok v =>
      obtain rfl : f' = f := by simpa [hfield, hvalue, Except.bind, Except.map] using h
      exact ⟨v, hvalue⟩

/-- The check of a value and its reading agree in every field that rules may speak of. -/
theorem checkValue_eq_map_coerce {name : String} {f : Field}
    (h : Catalog.selectable? name = some f) (raw : String) :
    checkValue f raw = (Scalar.coerce name raw).map fun _ => () := by
  have hname : f.name = name := (Catalog.selectable?_eq_some_iff.mp h).2.1
  rw [checkValue_eq_map_ofText, Scalar.coerce, Catalog.kindOf_eq_of_selectable? h, hname]

end Condition

namespace Filter

/-- The error of a list of conditions is that of the first condition that breaks the rules. -/
theorem compile_eq_error_iff {conditions : List Condition} {e : RuleError} :
    compile conditions = .error e ↔ (conditions = [] ∧ e = .emptyInput) ∨
      ∃ i c, conditions[i]? = some c ∧ c.validate = .error e ∧
        ∀ b ∈ conditions.take i, b.validate = .ok () := by
  cases conditions with
  | nil => simp [compile, eq_comm]
  | cons c cs =>
    have hcompile : compile (c :: cs) = .error e ↔
        (c :: cs).mapM Condition.clause = .error e := by
      unfold compile
      cases (c :: cs).mapM Condition.clause <;> simp [bind, Except.bind, pure, Except.pure]
    simp only [hcompile, mapM_eq_error_iff, Condition.validate_eq_error_iff,
      Condition.validate_eq_ok_iff]
    simp

/-- **The first condition that breaks the rules decides the error.** A list of conditions is refused
with an error just if it is empty, and has nothing to compile, or if the error is that of one of its
conditions and all conditions before it keep the rules; the conditions after it do not matter. A
condition that keeps the rules never fails when its value is read, since in every field that rules
may speak of, the check of a value and its reading accept the same texts and refuse all others with
the same mismatch. -/
theorem compile_eq_first_error :
    (∀ conditions e, compile conditions = .error e ↔ (conditions = [] ∧ e = .emptyInput) ∨
        ∃ i c, conditions[i]? = some c ∧ c.validate = .error e ∧
          ∀ b ∈ conditions.take i, b.validate = .ok ()) ∧
      (∀ before c after e, (∀ b ∈ before, b.validate = .ok ()) → c.validate = .error e →
        compile (before ++ c :: after) = .error e) ∧
      (∀ c : Condition, c.validate = .ok () →
        ∃ f v, c.check = .ok f ∧ Scalar.ofText f.kind f.name c.value = .ok v) ∧
      ∀ name f raw, Catalog.selectable? name = some f →
        (Condition.checkValue f raw = .ok () ↔ ∃ v, Scalar.coerce name raw = .ok v) ∧
        ∀ e, (Condition.checkValue f raw = .error e ↔ Scalar.coerce name raw = .error e) ∧
          (Scalar.coerce name raw = .error e →
            ∃ expected, e = .typeMismatch name expected raw) := by
  refine ⟨fun conditions e => compile_eq_error_iff, ?_, ?_, ?_⟩
  · intro before c after e hbefore hc
    refine compile_eq_error_iff.mpr (.inr ⟨before.length, c, by simp, hc, ?_⟩)
    rwa [List.take_left]
  · intro c hc
    obtain ⟨f, hf⟩ := Condition.exists_check_of_validate hc
    obtain ⟨v, hv⟩ := Condition.exists_ofText_of_check hf
    exact ⟨f, v, hf, hv⟩
  · intro name f raw hname
    rw [Condition.checkValue_eq_map_coerce hname]
    refine ⟨?_, fun e => ⟨?_, fun h => Scalar.exists_typeMismatch h⟩⟩
    · cases Scalar.coerce name raw <;> simp [Except.map]
    · cases Scalar.coerce name raw <;> simp [Except.map]

example : compile [.ofParts "price" .less "cheap", .ofParts "stock_quantity" .equal "1e400",
    .ofParts "colour" .equal "red"] =
      .error (.typeMismatch "stock_quantity" "a numeric" "1e400") := by
  decide +kernel

end Filter

end CatalogFilter
