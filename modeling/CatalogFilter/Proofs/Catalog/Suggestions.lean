import CatalogFilter.Proofs.Condition.Accepted
import CatalogFilter.Proofs.Text.EditScripts

/-!
# The suggested name

The name that is suggested for a mistyped one is the first of the names that need the fewest edits,
if it needs three at most and is not what was typed (`Catalog.suggestion?_nearest`).

Edits are counted from the typed name in lowercase. A capital sigma has two lowercase forms, and
which one it takes depends on the letters around it. Neither occurs in a name of the catalog, so the
count does not depend on the choice (`Text.Aligns.congr_left`).

* `Text.IsLowercase`: the lowercase forms of a text; `Text.isLowercase_iff_of_ascii` for ASCII.
* `Catalog.nearest?_eq_some_iff`: the nearest item is the first of those with the least distance.
-/

namespace CatalogFilter

namespace Text

/-! ### Lowercase forms -/

/-- The second text is the first one in lowercase, with either form for every capital sigma. -/
inductive IsLowercase : List Char → List Char → Prop
  | nil : IsLowercase [] []
  | char (c : Char) {cs ls : List Char} :
      IsLowercase cs ls → IsLowercase (c :: cs) (lowercaseChar c ++ ls)
  | finalSigma {cs ls : List Char} : IsLowercase cs ls → IsLowercase ('Σ' :: cs) ('ς' :: ls)

theorem isLowercase_lowercase (cs : List Char) : IsLowercase cs (lowercase cs) := by
  induction cs with
  | nil => exact .nil
  | cons c cs ih =>
    rw [lowercase, List.flatMap_cons]
    exact .char c ih

theorem lowercaseChar_of_ascii {c : Char} (h : c.toNat < 128) : lowercaseChar c = [c.toLower] := by
  have hall : ∀ n < 128, lowercaseChar (.ofNat n) = [(Char.ofNat n).toLower] := by decide +kernel
  have hc := hall c.toNat h
  rwa [Char.ofNat_toNat] at hc

/-- An ASCII text has one lowercase form: its capitals are replaced by small letters, and all else
stays as it is. -/
theorem isLowercase_iff_of_ascii {cs ls : List Char} (h : ∀ c ∈ cs, c.toNat < 128) :
    IsLowercase cs ls ↔ ls = cs.map Char.toLower := by
  induction cs generalizing ls with
  | nil =>
    constructor
    · rintro ⟨⟩
      rfl
    · rintro rfl
      exact .nil
  | cons c cs ih =>
    obtain ⟨hc, hcs⟩ := List.forall_mem_cons.mp h
    constructor
    · intro hlow
      cases hlow with
      | char _ hlow =>
        rw [lowercaseChar_of_ascii hc, (ih hcs).mp hlow]
        rfl
      | finalSigma => exact absurd hc (by decide)
    · rintro rfl
      have hlow := IsLowercase.char c ((ih hcs).mpr rfl)
      rwa [lowercaseChar_of_ascii hc] at hlow

/-- The two characters are the same, or neither of them occurs in the word. -/
def Alike {α : Type} (w : List α) (a b : α) : Prop :=
  a = b ∨ a ∉ w ∧ b ∉ w

/-- The lowercase forms of a text are alike for a word without small sigmas. -/
theorem IsLowercase.forall₂_alike {w cs ls : List Char} (h : IsLowercase cs ls) (hσ : 'σ' ∉ w)
    (hς : 'ς' ∉ w) : List.Forall₂ (Alike w) (lowercase cs) ls := by
  induction h with
  | nil => exact .nil
  | char c _ ih =>
    have hchar : List.Forall₂ (Alike w) (lowercaseChar c) (lowercaseChar c) :=
      List.forall₂_same.mpr fun _ _ => .inl rfl
    exact List.rel_append hchar ih
  | finalSigma _ ih =>
    have hsigma : lowercaseChar 'Σ' = ['σ'] := by decide
    rw [lowercase, List.flatMap_cons, hsigma]
    exact .cons (.inr ⟨hσ, hς⟩) ih

/-- An alignment with a word does not tell characters apart that the word does not have. -/
theorem Aligns.congr_left {α : Type} {n : Nat} {w u u' v : List α} (h : Aligns n u v) (hv : v ⊆ w)
    (hu : List.Forall₂ (Alike w) u u') : Aligns n u' v := by
  induction h generalizing u' with
  | nil =>
    cases hu
    exact .nil
  | insert b _ ih => exact .insert b (ih (List.subset_of_cons_subset hv) hu)
  | delete a _ ih =>
    obtain _ | ⟨-, hu⟩ := hu
    exact .delete _ (ih hv hu)
  | keep a _ ih =>
    obtain _ | ⟨ha, hu⟩ := hu
    -- The item is kept, so the word has it.
    obtain rfl | ⟨hnot, -⟩ := ha
    · exact .keep a (ih (List.subset_of_cons_subset hv) hu)
    · exact absurd (hv List.mem_cons_self) hnot
  | substitute a b _ ih =>
    obtain _ | ⟨-, hu⟩ := hu
    exact .substitute _ b (ih (List.subset_of_cons_subset hv) hu)

/-- The distance from a text in lowercase is the same for all its lowercase forms. -/
theorem IsLowercase.isLeast_edits {w cs ls : List Char} (h : IsLowercase cs ls) (hσ : 'σ' ∉ w)
    (hς : 'ς' ∉ w) : IsLeast {n | Edits n ls w} (editDistance (lowercase cs) w) := by
  have halike := h.forall₂_alike hσ hς
  have halike' : List.Forall₂ (Alike w) ls (lowercase cs) :=
    (halike.imp fun _ _ hab => hab.imp Eq.symm And.symm).flip
  have hleast := least_editDistance (lowercase cs) w
  exact Least.isLeast_edits ⟨hleast.1.congr_left (List.Subset.refl w) halike,
    fun m hm => hleast.2 (hm.congr_left (List.Subset.refl w) halike')⟩

end Text

namespace Catalog

/-! ### The nearest item -/

section Nearest

variable {α : Type} {d : α → Nat} {a b : α} {as : List α}

/-- The item is the first of those with the least distance. -/
def IsNearest (d : α → Nat) (as : List α) (a : α) : Prop :=
  ∃ before after, as = before ++ a :: after ∧ (∀ b ∈ as, d a ≤ d b) ∧ ∀ b ∈ before, d b ≠ d a

/-- The nearest item is the first one, or it is the nearest of the others and nearer than it. -/
theorem isNearest_cons_iff :
    IsNearest d (b :: as) a ↔
      (a = b ∧ ∀ c ∈ as, d b ≤ d c) ∨ d a < d b ∧ IsNearest d as a := by
  constructor
  · rintro ⟨before, after, heq, hleast, hbefore⟩
    have hb := hleast b List.mem_cons_self
    have hrest : ∀ c ∈ as, d a ≤ d c := fun c hc => hleast c (List.mem_cons_of_mem b hc)
    rcases List.cons_eq_append_iff.mp heq with ⟨rfl, hcons⟩ | ⟨before, rfl, rfl⟩
    · obtain ⟨rfl, rfl⟩ := List.cons.inj hcons
      exact .inl ⟨rfl, hrest⟩
    · have hne := hbefore b List.mem_cons_self
      exact .inr ⟨by omega, before, after, rfl, hrest,
        fun c hc => hbefore c (List.mem_cons_of_mem b hc)⟩
  · rintro (⟨rfl, hleast⟩ | ⟨hlt, before, after, rfl, hleast, hbefore⟩)
    · refine ⟨[], as, rfl, fun c hc => ?_, fun _ hc => absurd hc List.not_mem_nil⟩
      rcases List.mem_cons.mp hc with rfl | hc
      · exact le_rfl
      · exact hleast c hc
    · refine ⟨b :: before, after, rfl, fun c hc => ?_, fun c hc => ?_⟩
      · rcases List.mem_cons.mp hc with rfl | hc
        · exact hlt.le
        · exact hleast c hc
      · rcases List.mem_cons.mp hc with rfl | hc
        · exact hlt.ne'
        · exact hbefore c hc

theorem nearest?_eq_none_iff : nearest? d as = none ↔ as = [] := by
  cases as with
  | nil => exact iff_of_true rfl rfl
  | cons a as =>
    rw [nearest?]
    cases nearest? d as with
    | none => simp
    | some b => by_cases hab : d a ≤ d b <;> simp [hab]

/-- The search finds the first item with the least distance. -/
theorem nearest?_eq_some_iff : nearest? d as = some a ↔ IsNearest d as a := by
  induction as generalizing a with
  | nil => simp [nearest?, IsNearest]
  | cons b as ih =>
    rw [isNearest_cons_iff, nearest?]
    cases hnearest : nearest? d as with
    | none =>
      obtain rfl := nearest?_eq_none_iff.mp hnearest
      simp [IsNearest, eq_comm]
    | some c =>
      obtain ⟨before, after, heq, hleast, -⟩ := ih.mp hnearest
      have hc : c ∈ as := by simp [heq]
      have hall : (∀ x ∈ as, d b ≤ d x) ↔ d b ≤ d c :=
        ⟨fun h => h c hc, fun h x hx => h.trans (hleast x hx)⟩
      rw [hall, ← ih, hnearest]
      by_cases hbc : d b ≤ d c
      · simp only [if_pos hbc, Option.some.injEq]
        grind
      · simp only [if_neg hbc, Option.some.injEq]
        grind

end Nearest

/-! ### Suggestions -/

theorem suggestion?_eq_some_iff {typed name : String} :
    suggestion? typed = some name ↔
      name ≠ typed ∧ distance typed name ≤ 3 ∧ IsNearest (distance typed) selectableNames name := by
  rw [suggestion?, Option.filter_eq_some_iff, nearest?_eq_some_iff, and_comm, Bool.and_eq_true,
    bne_iff_ne, decide_eq_true_eq, and_assoc]
  rfl

/-- There is no suggestion for a name that rules may not speak of when all names are far away. -/
theorem suggestion?_eq_none_iff {typed : String} (h : typed ∉ selectableNames) :
    suggestion? typed = none ↔ ∀ name ∈ selectableNames, 3 < distance typed name := by
  obtain ⟨nearest, hnearest⟩ : ∃ name, nearest? (distance typed) selectableNames = some name :=
    Option.ne_none_iff_exists'.mp fun hnone =>
      absurd (nearest?_eq_none_iff.mp hnone) (by decide)
  obtain ⟨before, after, heq, hleast, -⟩ := nearest?_eq_some_iff.mp hnearest
  have hmem : nearest ∈ selectableNames := by simp [heq]
  constructor
  · intro hnone name hname
    by_contra hnot
    have hle : distance typed nearest ≤ 3 := (hleast name hname).trans (by omega)
    have hsome : suggestion? typed = some nearest :=
      suggestion?_eq_some_iff.mpr ⟨fun heq => h (heq ▸ hmem), hle, nearest?_eq_some_iff.mp hnearest⟩
    rw [hnone] at hsome
    cases hsome
  · intro hfar
    refine Option.eq_none_iff_forall_ne_some.mpr fun name hsome => ?_
    obtain ⟨-, hle, before, after, heq, -⟩ := suggestion?_eq_some_iff.mp hsome
    have := hfar name (by simp [heq])
    omega

/-- The names of the catalog have no sigmas. -/
theorem not_mem_toList_of_mem_selectableNames :
    ∀ name ∈ selectableNames, 'σ' ∉ name.toList ∧ 'ς' ∉ name.toList := by
  decide

end Catalog

/-- A condition on a field that rules may not speak of is refused, with a suggestion. -/
theorem Condition.validate_of_not_mem {c : Condition} (h : c.field ∉ Catalog.selectableNames) :
    c.validate = .error
      (.fieldNotAllowed c.field (Catalog.suggestion? c.field) Catalog.selectableNames) := by
  have hnone : Catalog.selectable? c.field = none :=
    Option.eq_none_iff_forall_ne_some.mpr fun f hf =>
      h (Catalog.mem_selectableNames_iff.mpr ⟨f, hf⟩)
  rw [validate, check_eq_bind, checkField, hnone]
  rfl

namespace Catalog

/-- The suggestion for a name is the first of the names that need the fewest edits from it, in
lowercase, provided that they are three at most and that it is another name; a condition on an
unknown name is refused without a suggestion exactly when every name needs more. -/
theorem suggestion?_nearest (typed : String) :
    (Text.IsLowercase typed.toList (Text.lowercase typed.toList) ∧
      ∀ low, Text.IsLowercase typed.toList low → ∀ name ∈ selectableNames,
        IsLeast {n | Text.Edits n low name.toList} (distance typed name)) ∧
    (∀ name, suggestion? typed = some name ↔
      name ≠ typed ∧ distance typed name ≤ 3 ∧
        ∃ before after, selectableNames = before ++ name :: after ∧
          (∀ other ∈ selectableNames, distance typed name ≤ distance typed other) ∧
          ∀ other ∈ before, distance typed other ≠ distance typed name) ∧
    ∀ c : Condition, c.field = typed → typed ∉ selectableNames →
      c.validate = .error (.fieldNotAllowed typed (suggestion? typed) selectableNames) ∧
        (suggestion? typed = none ↔ ∀ name ∈ selectableNames, 3 < distance typed name) := by
  refine ⟨⟨Text.isLowercase_lowercase _, fun low hlow name hname => ?_⟩,
    fun name => suggestion?_eq_some_iff, ?_⟩
  · obtain ⟨hσ, hς⟩ := not_mem_toList_of_mem_selectableNames name hname
    exact hlow.isLeast_edits hσ hς
  · rintro c rfl hnot
    exact ⟨Condition.validate_of_not_mem hnot, suggestion?_eq_none_iff hnot⟩

-- `title` and `tags` are both two edits away.
example : suggestion? "TATE" = some "title" := by decide

end Catalog

end CatalogFilter
