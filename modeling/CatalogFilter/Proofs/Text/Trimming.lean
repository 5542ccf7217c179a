import CatalogFilter.Text.Blank
import Mathlib.Data.List.DropRight
import Mathlib.Data.List.TakeWhile
import Mathlib.Tactic.MkIffOfInductiveProp

/-!
# What trimming leaves

Trimming takes the blanks around a text away and nothing else, and what is left has no blanks around
it. So a text without blanks around it comes back from among any blanks that are put there.

* `Text.Tight`: a text with something in it and no blanks around it.
* `Text.exists_append_trim`, `Text.trim_eq_nil_iff`: what trimming takes away.
* `Text.trim_append_append`: blanks around a text are trimmed.
* `Text.tight_trim`: what is left by trimming.
-/

namespace CatalogFilter.Text

theorem isBlank_of_all {ws : List String} (h : ws.all fun w => w.toList.all isBlank) :
    ∀ w ∈ ws, ∀ x ∈ w.toList, isBlank x := by
  simpa only [List.all_eq_true] using h

/-- Trimming takes blanks away and nothing else. -/
theorem exists_append_trim (cs : List Char) :
    ∃ left right, cs = left ++ trim cs ++ right ∧
      (∀ c ∈ left, isBlank c) ∧ ∀ c ∈ right, isBlank c := by
  refine ⟨cs.takeWhile isBlank, ((trimStart cs).reverse.takeWhile isBlank).reverse, ?_, ?_, ?_⟩
  · have hend : trimEnd (trimStart cs) ++ ((trimStart cs).reverse.takeWhile isBlank).reverse =
        trimStart cs := by
      rw [trimEnd, ← List.reverse_append, List.takeWhile_append_dropWhile, List.reverse_reverse]
    rw [List.append_assoc, trim, hend, trimStart, List.takeWhile_append_dropWhile]
  · exact fun c hc => List.mem_takeWhile_imp hc
  · exact fun c hc => List.mem_takeWhile_imp (List.mem_reverse.mp hc)

theorem trim_infix (cs : List Char) : trim cs <:+: cs := by
  obtain ⟨left, right, hcs, -⟩ := exists_append_trim cs
  exact ⟨left, right, hcs.symm⟩

theorem trim_eq_nil_iff {cs : List Char} : trim cs = [] ↔ ∀ c ∈ cs, isBlank c := by
  constructor
  · intro h
    obtain ⟨left, right, hcs, hleft, hright⟩ := exists_append_trim cs
    rw [h, List.append_nil] at hcs
    rw [hcs]
    exact fun c hc => (List.mem_append.mp hc).elim (hleft c) (hright c)
  · intro h
    rw [trim, trimStart, List.dropWhile_eq_nil_iff.mpr h, trimEnd_nil]

/-- Blanks around a text are trimmed, whatever the text is. -/
theorem trim_append_append {left cs right : List Char} (hleft : ∀ c ∈ left, isBlank c)
    (hright : ∀ c ∈ right, isBlank c) : trim (left ++ cs ++ right) = trim cs := by
  have hstart : trimStart (left ++ cs ++ right) = trimStart (cs ++ right) := by
    rw [trimStart, List.append_assoc, List.dropWhile_append_of_pos hleft, ← trimStart]
  rw [trim, hstart, ← trim]
  by_cases hcs : ∀ c ∈ cs, isBlank c
  · have hall : ∀ c ∈ cs ++ right, isBlank c :=
      fun c hc => (List.mem_append.mp hc).elim (hcs c) (hright c)
    rw [trim_eq_nil_iff.mpr hall, trim_eq_nil_iff.mpr hcs]
  · have hne : (cs.dropWhile isBlank).isEmpty = false := by
      rw [List.isEmpty_eq_false_iff, Ne, List.dropWhile_eq_nil_iff]
      exact hcs
    have hsplit : trimStart (cs ++ right) = trimStart cs ++ right := by
      rw [trimStart, List.dropWhile_append, hne, if_neg Bool.false_ne_true, ← trimStart]
    have hend : trimEnd (trimStart cs ++ right) = trimEnd (trimStart cs) := by
      rw [trimEnd, List.reverse_append,
        List.dropWhile_append_of_pos fun c hc => hright c (List.mem_reverse.mp hc), ← trimEnd]
    rw [trim, hsplit, hend, ← trim]

/-! ### Texts without blanks around them -/

/-- The text has a first and a last character, and neither is a blank. -/
@[mk_iff]
structure Tight (cs : List Char) : Prop where
  /-- There is something. -/
  ne_nil : cs ≠ []
  /-- It does not start with a blank. -/
  head : ∀ c ∈ cs.head?, isBlank c = false
  /-- It does not end with a blank. -/
  last : ∀ c ∈ cs.getLast?, isBlank c = false

instance (cs : List Char) : Decidable (Tight cs) :=
  decidable_of_iff (cs ≠ [] ∧ cs.head?.all (!isBlank ·) ∧ cs.getLast?.all (!isBlank ·)) <| by
    rw [tight_iff, Option.all_eq_true, Option.all_eq_true]
    simp

theorem trimStart_of_head {cs : List Char} (h : ∀ c ∈ cs.head?, isBlank c = false) :
    trimStart cs = cs := by
  cases cs with
  | nil => rfl
  | cons c cs => simp [trimStart, h c rfl]

theorem trimEnd_of_last {cs : List Char} (h : ∀ c ∈ cs.getLast?, isBlank c = false) :
    trimEnd cs = cs := by
  have hreverse : trimStart cs.reverse = cs.reverse :=
    trimStart_of_head (by simpa using h)
  rw [trimEnd, ← trimStart, hreverse, List.reverse_reverse]

theorem Tight.trim_eq {cs : List Char} (h : Tight cs) : trim cs = cs := by
  rw [trim, trimStart_of_head h.head, trimEnd_of_last h.last]

theorem Tight.append {cs ds : List Char} (hcs : Tight cs) (hds : Tight ds) (mid : List Char) :
    Tight (cs ++ (mid ++ ds)) where
  ne_nil := by simp [hcs.ne_nil]
  head c hc := hcs.head c (by rwa [List.head?_append_of_ne_nil _ hcs.ne_nil] at hc)
  last c hc := by
    rw [← List.append_assoc, List.getLast?_append_of_ne_nil _ hds.ne_nil] at hc
    exact hds.last c hc

/-- What is left by trimming has no blanks around it. -/
theorem tight_trim {cs : List Char} (h : trim cs ≠ []) : Tight (trim cs) where
  ne_nil := h
  head c hc := by
    have hprefix : trim cs <+: trimStart cs := List.rdropWhile_prefix isBlank _
    have hstart : (trimStart cs).head? = (trim cs).head? := by
      obtain ⟨rest, hrest⟩ := hprefix
      rw [← hrest, List.head?_append_of_ne_nil _ h]
    have hblank := List.head?_dropWhile_not isBlank cs
    rw [← trimStart, hstart, hc] at hblank
    exact hblank
  last c hc := by
    obtain ⟨hne, rfl⟩ := List.mem_getLast?_eq_getLast hc
    exact Bool.eq_false_iff.mpr (List.rdropWhile_last_not isBlank (trimStart cs) hne)

namespace Tight

variable {cs part : List Char}

theorem trim_append_append (h : Tight cs) {left right : List Char} (hleft : ∀ c ∈ left, isBlank c)
    (hright : ∀ c ∈ right, isBlank c) : trim (left ++ cs ++ right) = cs := by
  rw [Text.trim_append_append hleft hright, h.trim_eq]

/-- What a text without a blank at its start begins with is not blank. -/
theorem trim_ne_nil_of_prefix (h : Tight cs) (hpart : part <+: cs) (hne : part ≠ []) :
    trim part ≠ [] := by
  obtain ⟨x, xs, rfl⟩ := List.exists_cons_of_ne_nil hne
  obtain ⟨rest, rfl⟩ := hpart
  intro hnil
  have hblank := trim_eq_nil_iff.mp hnil x List.mem_cons_self
  have hsolid := h.head x rfl
  simp [hsolid] at hblank

/-- What a text without a blank at its end closes with is not blank. -/
theorem trim_ne_nil_of_suffix (h : Tight cs) (hpart : part <:+ cs) (hne : part ≠ []) :
    trim part ≠ [] := by
  obtain ⟨rest, rfl⟩ := hpart
  intro hnil
  have hblank := trim_eq_nil_iff.mp hnil _ (List.getLast_mem hne)
  have hsolid := h.last (part.getLast hne) (by
    rw [List.getLast?_append_of_ne_nil _ hne]
    exact List.getLast?_eq_some_getLast hne)
  simp [hsolid] at hblank

end Tight

end CatalogFilter.Text
