import CatalogFilter.Json.Printer
import CatalogFilter.Proofs.Json.FloatWords
import CatalogFilter.Proofs.Json.Grammar

/-!
# JSON text read back

A value that is written in any layout with blanks between its parts is read back. Texts, names,
integers of 64 bits and the shape of the tree come back exactly; a finite floating point number
comes back as a floating point number, and one that is not finite comes back as `null`.

* `Json.reread`: the value that comes back.
* `Json.Fits`: the values that are written within the limits of the reader.
* `spells_array`, `spells_object`: texts that are put together.
* `spells_write`: the text of a value stands for the value that comes back.
* `parse_compact`, `parse_pretty`: the two layouts.
-/

namespace CatalogFilter.Json

open Numeral

/-! ### What comes back -/

/-- What the text of a floating point number is read as. -/
def rereadFloat (x : Binary64) : Json :=
  if x.isFinite then
    match floatValue x.negative (decimalParts (Shortest.digits x)) with
    | .ok v => v
    | .error _ => .null
  else .null

mutual

/-- The value that the text of a value is read as. -/
def reread : Json → Json
  | .float x => rereadFloat x
  | .array items => .array (rereadItems items)
  | .object members => .object (rereadMembers members)
  | v => v

/-- The values that the texts of the items of a list are read as. -/
def rereadItems : List Json → List Json
  | [] => []
  | v :: vs => reread v :: rereadItems vs

/-- The members that the text of an object is read as. -/
def rereadMembers : List (String × Json) → List (String × Json)
  | [] => []
  | (k, v) :: ms => (k, reread v) :: rereadMembers ms

end

theorem rereadItems_eq_map (vs : List Json) : rereadItems vs = vs.map reread := by
  induction vs with
  | nil => rfl
  | cons v vs ih => rw [rereadItems, ih, List.map_cons]

theorem rereadMembers_eq_map (ms : List (String × Json)) :
    rereadMembers ms = ms.map fun m => (m.1, reread m.2) := by
  induction ms with
  | nil => rfl
  | cons m ms ih => rw [rereadMembers, ih, List.map_cons]

theorem exists_rereadFloat {x : Binary64} (hx : x.isFinite) : ∃ y, rereadFloat x = .float y := by
  obtain ⟨y, hy⟩ := exists_floatValue_digits x.negative hx
  exact ⟨y, by rw [rereadFloat, if_pos hx, hy]⟩

mutual

/-- The value opens at most `levels` lists and objects, and its integers have 64 bits. -/
def Fits (levels : Nat) : Json → Prop
  | .integer n => -(maxNegative : Int) ≤ n ∧ n ≤ maxSignificand
  | .array items => 0 < levels ∧ FitsItems (levels - 1) items
  | .object members => 0 < levels ∧ FitsMembers (levels - 1) members
  | _ => True

/-- All items of a list fit. -/
def FitsItems (levels : Nat) : List Json → Prop
  | [] => True
  | v :: vs => Fits levels v ∧ FitsItems levels vs

/-- All members of an object fit. -/
def FitsMembers (levels : Nat) : List (String × Json) → Prop
  | [] => True
  | (_, v) :: ms => Fits levels v ∧ FitsMembers levels ms

end

theorem fitsItems_iff {levels : Nat} {vs : List Json} :
    FitsItems levels vs ↔ ∀ v ∈ vs, v.Fits levels := by
  induction vs with
  | nil => simp [FitsItems]
  | cons v vs ih => simp [FitsItems, ih]

theorem fitsMembers_iff {levels : Nat} {ms : List (String × Json)} :
    FitsMembers levels ms ↔ ∀ m ∈ ms, m.2.Fits levels := by
  induction ms with
  | nil => simp [FitsMembers]
  | cons m ms ih => simp [FitsMembers, ih]

/-! ### Layouts -/

/-- The layout puts nothing but blanks between the parts of a value. -/
structure Layout.Blank (l : Layout) : Prop where
  /-- A line is broken with blanks. -/
  lineBreak : ∀ level, Json.Blank (l.lineBreak level)
  /-- Only blanks follow a colon. -/
  afterColon : Json.Blank l.afterColon

theorem blank_compact : Layout.compact.Blank :=
  ⟨fun _ => blank_nil, blank_nil⟩

theorem blank_pretty : Layout.pretty.Blank := by
  refine ⟨fun level => ?_, by simp [Layout.pretty, Blank, isSpace]⟩
  intro c hc
  simp only [Layout.pretty, List.mem_cons, List.mem_replicate] at hc
  rcases hc with rfl | ⟨-, rfl⟩ <;> rfl

/-! ### Printed values follow the grammar -/

theorem spells_printInt {n : Int} {levels : Nat} (h : (Json.integer n).Fits levels) :
    Spells .exact (.integer n) (printInt n) := by
  obtain ⟨hlow, hhigh⟩ : -(maxNegative : Int) ≤ n ∧ n ≤ maxSignificand := h
  cases n with
  | ofNat n =>
    have hn : n ≤ maxSignificand := Int.ofNat_le.mp hhigh
    have hparts := spellsParts_text (wellFormed_printedParts n)
    rw [text_printedParts] at hparts
    exact .number ⟨printedParts n, false, .plain hparts, numberValue_printedParts hn⟩
  | negSucc n =>
    have hn : n + 1 ≤ maxNegative := by omega
    have hparts := spellsParts_text (wellFormed_printedParts (n + 1))
    rw [text_printedParts] at hparts
    exact .number ⟨printedParts (n + 1), true, .minus hparts,
      numberValue_printedParts_neg (by omega) hn⟩

theorem writeFloat_of_isFinite {x : Binary64} (hx : x.isFinite) :
    writeFloat x = if x.negative then '-' :: (decimalParts (Shortest.digits x)).text
      else (decimalParts (Shortest.digits x)).text := by
  rw [writeFloat, if_pos hx, text_decimalParts]

theorem spells_writeFloat (x : Binary64) : Spells .exact (rereadFloat x) (writeFloat x) := by
  by_cases hx : x.isFinite
  · obtain ⟨y, hy⟩ := exists_floatValue_digits x.negative hx
    have hparts := spellsParts_text (wellFormed_decimalParts (Shortest.wellFormed_digits x))
    have hvalue : numberValue x.negative (decimalParts (Shortest.digits x)) = .ok (.float y) := by
      rw [numberValue_decimalParts, hy]
    have hreread : rereadFloat x = .float y := by rw [rereadFloat, if_pos hx, hy]
    rw [hreread, writeFloat_of_isFinite hx]
    refine .number ⟨_, x.negative, ?_, hvalue⟩
    cases x.negative with
    | true => exact .minus hparts
    | false => exact .plain hparts
  · rw [writeFloat, if_neg hx, rereadFloat, if_neg hx]
    exact .null

section Steps

-- The parts of a value stand for `f` of them; the words may be those of any lexicon.
variable {L : Lexicon} {l : Layout} {f : Json → Json} {level : Nat}

/-- The text of the further items of a list. -/
theorem spellsMoreItems_writeItems (hl : l.Blank) {vs : List Json}
    (h : ∀ v ∈ vs, Spells L (f v) (write l level v)) {ws : List Char} (hws : Blank ws) :
    SpellsMoreItems L (vs.map f) (writeItems l level vs ++ (ws ++ [']'])) := by
  induction vs with
  | nil => exact .close hws
  | cons v vs ih =>
    obtain ⟨hv, hvs⟩ := List.forall_mem_cons.mp h
    simpa [writeItems] using SpellsMoreItems.comma blank_nil (hl.lineBreak level) hv (ih hvs)

/-- The text of the further members of an object. -/
theorem spellsMoreMembers_writeMembers (hl : l.Blank) (hL : ∀ s, L.string s (quote s))
    {ms : List (String × Json)} (h : ∀ m ∈ ms, Spells L (f m.2) (write l level m.2))
    {ws : List Char} (hws : Blank ws) :
    SpellsMoreMembers L (ms.map fun m => (m.1, f m.2))
      (writeMembers l level ms ++ (ws ++ ['}'])) := by
  induction ms with
  | nil => exact .close hws
  | cons m ms ih =>
    obtain ⟨hm, hms⟩ := List.forall_mem_cons.mp h
    simpa [writeMembers] using
      SpellsMoreMembers.comma blank_nil (.member (hl.lineBreak level) (hL m.1) blank_nil
        hl.afterColon hm (ih hms))

/-- The text of a list is made of the texts of its items. -/
theorem spells_array (hl : l.Blank) {vs : List Json}
    (h : ∀ v ∈ vs, Spells L (f v) (write l (level + 1) v)) :
    Spells L (.array (vs.map f)) (write l level (.array vs)) := by
  cases vs with
  | nil => exact .emptyArray blank_nil
  | cons v vs =>
    obtain ⟨hv, hvs⟩ := List.forall_mem_cons.mp h
    simpa [write] using Spells.array (hl.lineBreak (level + 1)) hv
      (spellsMoreItems_writeItems hl hvs (hl.lineBreak level))

/-- The text of an object is made of the texts of its members. -/
theorem spells_object (hl : l.Blank) (hL : ∀ s, L.string s (quote s)) {ms : List (String × Json)}
    (h : ∀ m ∈ ms, Spells L (f m.2) (write l (level + 1) m.2)) :
    Spells L (.object (ms.map fun m => (m.1, f m.2))) (write l level (.object ms)) := by
  cases ms with
  | nil => exact .emptyObject blank_nil
  | cons m ms =>
    obtain ⟨hm, hms⟩ := List.forall_mem_cons.mp h
    simpa [write] using Spells.object (.member (hl.lineBreak (level + 1)) (hL m.1) blank_nil
      hl.afterColon hm (spellsMoreMembers_writeMembers hl hL hms (hl.lineBreak level)))

end Steps

mutual

/-- The text of a value is one of the texts that stand for the value that comes back. -/
theorem spells_write {l : Layout} (hl : l.Blank) :
    ∀ (v : Json) {levels : Nat} (level : Nat), v.Fits levels →
      Spells .exact v.reread (write l level v)
  | .null, _, _, _ => .null
  | .bool _, _, _, _ => .bool
  | .integer _, _, _, hv => spells_printInt hv
  | .float x, _, _, _ => spells_writeFloat x
  | .string s, _, _, _ => .string (spellsString_quote s)
  | .array vs, _, level, hv => by
    rw [reread, rereadItems_eq_map]
    exact spells_array hl (spells_write_items hl vs (level + 1) hv.2)
  | .object ms, _, level, hv => by
    rw [reread, rereadMembers_eq_map]
    exact spells_object hl spellsString_quote (spells_write_members hl ms (level + 1) hv.2)

theorem spells_write_items {l : Layout} (hl : l.Blank) :
    ∀ (vs : List Json) {levels : Nat} (level : Nat), FitsItems levels vs →
      ∀ v ∈ vs, Spells .exact v.reread (write l level v)
  | [], _, _, _ => by simp
  | v :: vs, _, level, hvs => List.forall_mem_cons.mpr
      ⟨spells_write hl v level hvs.1, spells_write_items hl vs level hvs.2⟩

theorem spells_write_members {l : Layout} (hl : l.Blank) :
    ∀ (ms : List (String × Json)) {levels : Nat} (level : Nat), FitsMembers levels ms →
      ∀ m ∈ ms, Spells .exact m.2.reread (write l level m.2)
  | [], _, _, _ => by simp
  | (_, v) :: ms, _, level, hms => List.forall_mem_cons.mpr
      ⟨spells_write hl v level hms.1, spells_write_members hl ms level hms.2⟩

end

theorem depth_rereadFloat (x : Binary64) : (rereadFloat x).depth = 0 := by
  by_cases hx : x.isFinite
  · obtain ⟨y, hy⟩ := exists_rereadFloat hx
    rw [hy]
    rfl
  · rw [rereadFloat, if_neg hx]
    rfl

mutual

/-- A value that comes back is not nested deeper than the one that was written. -/
theorem depth_reread_le : ∀ (v : Json) {levels : Nat}, v.Fits levels → v.reread.depth ≤ levels
  | .null, _, _ => Nat.zero_le _
  | .bool _, _, _ => Nat.zero_le _
  | .integer _, _, _ => Nat.zero_le _
  | .float x, _, _ => by rw [reread, depth_rereadFloat]; exact Nat.zero_le _
  | .string _, _, _ => Nat.zero_le _
  | .array vs, levels, hv => by
    have hitems := depthItems_reread_le vs hv.2
    have hpos := hv.1
    rw [reread, depth]
    omega
  | .object ms, levels, hv => by
    have hmembers := depthMembers_reread_le ms hv.2
    have hpos := hv.1
    rw [reread, depth]
    omega

theorem depthItems_reread_le :
    ∀ (vs : List Json) {levels : Nat}, FitsItems levels vs → depthItems (rereadItems vs) ≤ levels
  | [], _, _ => Nat.zero_le _
  | v :: vs, _, hvs => Nat.max_le.mpr ⟨depth_reread_le v hvs.1, depthItems_reread_le vs hvs.2⟩

theorem depthMembers_reread_le :
    ∀ (ms : List (String × Json)) {levels : Nat}, FitsMembers levels ms →
      depthMembers (rereadMembers ms) ≤ levels
  | [], _, _ => Nat.zero_le _
  | (_, v) :: ms, _, hms =>
    Nat.max_le.mpr ⟨depth_reread_le v hms.1, depthMembers_reread_le ms hms.2⟩

end

/-! ### Whole texts -/

theorem spellsText_compact {v : Json} {levels : Nat} (hv : v.Fits levels) :
    SpellsText v.reread v.compact :=
  (spells_write blank_compact v 0 hv).spellsText

theorem spellsText_pretty {v : Json} {levels : Nat} (hv : v.Fits levels) :
    SpellsText v.reread v.pretty :=
  (spells_write blank_pretty v 0 hv).spellsText

/-- A value within the limits of the reader is read back from its compact text. -/
theorem parse_compact {v : Json} (hv : v.Fits maxLevels) : parse v.compact = .ok v.reread :=
  parse_of_spellsText (spellsText_compact hv) (depth_reread_le v hv)

/-- A value within the limits of the reader is read back from its text with line breaks. -/
theorem parse_pretty {v : Json} (hv : v.Fits maxLevels) : parse v.pretty = .ok v.reread :=
  parse_of_spellsText (spellsText_pretty hv) (depth_reread_le v hv)

end CatalogFilter.Json
