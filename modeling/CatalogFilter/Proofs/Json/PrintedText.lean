import CatalogFilter.Proofs.Json.RoundTrip

/-!
# Characters of printed JSON

Control characters inside strings are written as escapes, and numbers and punctuation have none. So
a printed value holds no control character but the line feeds that its layout puts between the
parts, whatever texts are in it.

* `Json.Clean`: a text without control characters, line feeds apart.
* `Json.clean_quote`, `Json.clean_writeFloat`: strings and numbers.
* `Json.clean_write`, `Json.clean_pretty`: whole values.
-/

namespace CatalogFilter.Json

open Numeral

/-- No character is a control character, except for line feeds. -/
def Clean (cs : List Char) : Prop :=
  ∀ c ∈ cs, 0x20 ≤ c.toNat ∨ c = '\n'

@[simp] theorem clean_nil : Clean [] := by
  simp [Clean]

@[simp] theorem clean_cons {c : Char} {cs : List Char} :
    Clean (c :: cs) ↔ (0x20 ≤ c.toNat ∨ c = '\n') ∧ Clean cs :=
  List.forall_mem_cons

@[simp] theorem clean_append {cs ds : List Char} : Clean (cs ++ ds) ↔ Clean cs ∧ Clean ds :=
  List.forall_mem_append

theorem clean_of_allDigits {ds : List Char} (h : AllDigits ds) : Clean ds := by
  intro c hc
  have hzero : '0'.toNat ≤ c.toNat := (Char.isDigit_iff_toNat.mp (h c hc)).1
  have hcode : '0'.toNat = 0x30 := rfl
  omega

/-! ### Strings and numbers -/

theorem clean_escape (c : Char) : Clean (escape c) := by
  have hdigit : ∀ n < 16, 0x20 ≤ (Hexadecimal.digit n).toNat := by decide
  unfold escape
  split_ifs with _ _ hplain
  all_goals simp only [clean_cons, clean_nil, and_true]
  on_goal 3 => exact .inl hplain
  on_goal 8 => exact ⟨by decide, by decide, by decide, by decide, .inl (hdigit _ (by omega)),
    .inl (hdigit _ (by omega))⟩
  all_goals decide

theorem clean_quote (s : String) : Clean (quote s) := by
  have htext : Clean (s.toList.flatMap escape) := by
    intro x hx
    obtain ⟨c, -, hc⟩ := List.mem_flatMap.mp hx
    exact clean_escape c x hc
  simp [quote, htext]

theorem clean_printInt (n : Int) : Clean (printInt n) := by
  cases n with
  | ofNat n => exact clean_of_allDigits (allDigits_print n)
  | negSucc n => simpa [printInt] using clean_of_allDigits (allDigits_print (n + 1))

theorem clean_text {p : NumberParts} (hp : p.WellFormed) : Clean p.text := by
  have hfraction : Clean (NumberParts.fractionText p.fraction) := by
    cases hds : p.fraction with
    | none => exact clean_nil
    | some ds =>
      have hdigits := clean_of_allDigits (hp.fraction_digits ds hds).2
      simpa [NumberParts.fractionText] using hdigits
  have hexponent : Clean (NumberParts.exponentText p.exponent) := by
    cases he : p.exponent with
    | none => exact clean_nil
    | some e =>
      obtain ⟨negative, ds⟩ := e
      have hdigits := clean_of_allDigits (hp.exponent_digits (negative, ds) he).2
      cases negative <;> simpa [NumberParts.exponentText] using hdigits
  simp [NumberParts.text, clean_of_allDigits hp.whole_digits, hfraction, hexponent]

theorem clean_writeFloat (x : Binary64) : Clean (writeFloat x) := by
  by_cases hx : x.isFinite
  · have htext := clean_text (wellFormed_decimalParts (Shortest.wellFormed_digits x))
    rw [writeFloat_of_isFinite hx]
    cases x.negative <;> simpa using htext
  · simp [writeFloat, hx]

/-! ### Values -/

mutual

/-- The text of a value is clean if its layout is. -/
theorem clean_write {l : Layout} (hbreak : ∀ level, Clean (l.lineBreak level))
    (hcolon : Clean l.afterColon) : ∀ (level : Nat) (v : Json), Clean (write l level v)
  | _, .null => by simp [write]
  | _, .bool b => by cases b <;> simp [write]
  | _, .integer n => clean_printInt n
  | _, .float x => clean_writeFloat x
  | _, .string s => clean_quote s
  | _, .array [] => by simp [write]
  | level, .array (v :: vs) => by
    simp [write, hbreak, clean_write hbreak hcolon (level + 1) v,
      clean_writeItems hbreak hcolon (level + 1) vs]
  | _, .object [] => by simp [write]
  | level, .object ((k, v) :: ms) => by
    simp [write, hbreak, hcolon, clean_quote, clean_write hbreak hcolon (level + 1) v,
      clean_writeMembers hbreak hcolon (level + 1) ms]

theorem clean_writeItems {l : Layout} (hbreak : ∀ level, Clean (l.lineBreak level))
    (hcolon : Clean l.afterColon) : ∀ (level : Nat) (vs : List Json), Clean (writeItems l level vs)
  | _, [] => clean_nil
  | level, v :: vs => by
    simp [writeItems, hbreak, clean_write hbreak hcolon level v,
      clean_writeItems hbreak hcolon level vs]

theorem clean_writeMembers {l : Layout} (hbreak : ∀ level, Clean (l.lineBreak level))
    (hcolon : Clean l.afterColon) :
    ∀ (level : Nat) (ms : List (String × Json)), Clean (writeMembers l level ms)
  | _, [] => clean_nil
  | level, (k, v) :: ms => by
    simp [writeMembers, hbreak, hcolon, clean_quote, clean_write hbreak hcolon level v,
      clean_writeMembers hbreak hcolon level ms]

end

/-- A value with a line for each item is clean. -/
theorem clean_pretty (v : Json) : Clean v.pretty.toList := by
  rw [pretty, String.toList_ofList]
  refine clean_write (fun level => ?_) (by simp [Layout.pretty]) 0 v
  intro c hc
  simp only [Layout.pretty, List.mem_cons, List.mem_replicate] at hc
  rcases hc with rfl | ⟨-, rfl⟩
  · exact .inr rfl
  · exact .inl le_rfl

end CatalogFilter.Json
