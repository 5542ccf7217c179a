/-!
# Cutting a text at a word

## Main definitions

* `Text.splitFirst`: the texts before and after the first place where a word stands.
-/

namespace CatalogFilter.Text

variable {α : Type} [DecidableEq α]

/-- The texts before and after the first place where the word stands. -/
def splitFirst (word : List α) : List α → Option (List α × List α)
  | [] => if word.isEmpty then some ([], []) else none
  | c :: cs =>
      if word.isPrefixOf (c :: cs) then some ([], (c :: cs).drop word.length)
      else (splitFirst word cs).map fun (before, after) => (c :: before, after)

/-- Nothing is lost by cutting. -/
theorem splitFirst_eq_some {word cs before after : List α}
    (h : splitFirst word cs = some (before, after)) : cs = before ++ word ++ after := by
  induction cs generalizing before after with
  | nil =>
    simp only [splitFirst] at h
    split at h <;> simp_all
  | cons c cs ih =>
    simp only [splitFirst] at h
    split at h
    · rename_i hp
      obtain ⟨rest, hr⟩ := List.isPrefixOf_iff_prefix.mp hp
      simp only [Option.some.injEq, Prod.mk.injEq] at h
      obtain ⟨rfl, rfl⟩ := h
      rw [← hr]
      simp
    · obtain ⟨⟨b, a⟩, hs, he⟩ := Option.map_eq_some_iff.mp h
      simp only [Prod.mk.injEq] at he
      obtain ⟨rfl, rfl⟩ := he
      simp [ih hs]

end CatalogFilter.Text
