import CatalogFilter.Json.Reader
import CatalogFilter.Proofs.Json.Words

/-!
# The grammar of JSON text

Which texts stand for a value: the words of JSON put together with brackets, commas and colons, and
with any blanks between them. A value that is read and one that is passed over follow the same
grammar and differ in their words only. The readers accept every text of the grammar, whatever
follows it.

* `Json.Lexicon`: the strings and numbers that a text may hold, and what they stand for;
  `Lexicon.exact` for values that are read, `Lexicon.loose` for values that are passed over.
* `Json.Spells`: the text stands for the value.
* `Json.SpellsText`: the same for a whole text.
* `Json.WellFormed`: the text is JSON, whatever it stands for.
* `Json.depth`: how many lists and objects are open at once.
* `readValueWith_of_spells`: a value is read however it is written.
* `skipValueWith_of_spells`: a value is passed over however it is written.
-/

namespace CatalogFilter.Json

/-! ### Blanks -/

/-- The text consists of blanks. -/
def Blank (ws : List Char) : Prop :=
  ∀ c ∈ ws, isSpace c

theorem blank_nil : Blank [] := by
  simp [Blank]

theorem skipBlanks_append {ws : List Char} (hws : Blank ws) (cs : List Char) :
    skipBlanks (ws ++ cs) = skipBlanks cs :=
  List.dropWhile_append_of_pos hws

theorem skipBlanks_cons {c : Char} (hc : isSpace c = false) (cs : List Char) :
    skipBlanks (c :: cs) = c :: cs := by
  simp [skipBlanks, hc]

theorem skipBlanks_append_cons {ws : List Char} (hws : Blank ws) {c : Char}
    (hc : isSpace c = false) (cs : List Char) : skipBlanks (ws ++ c :: cs) = c :: cs := by
  rw [skipBlanks_append hws, skipBlanks_cons hc]

theorem skipBlanks_skipBlanks (cs : List Char) : skipBlanks (skipBlanks cs) = skipBlanks cs := by
  have hws : Blank (cs.takeWhile isSpace) := fun c hc => List.mem_takeWhile_imp hc
  have hsplit : cs.takeWhile isSpace ++ skipBlanks cs = cs := List.takeWhile_append_dropWhile
  rw [← skipBlanks_append hws (skipBlanks cs), hsplit]

theorem EndsNumber.append_blank {ws cs : List Char} (hws : Blank ws) (h : EndsNumber cs) :
    EndsNumber (ws ++ cs) := by
  cases ws with
  | nil => exact h
  | cons c ws =>
    intro d hd
    obtain rfl : c = d := by simpa using hd
    have hc : isSpace c := hws c List.mem_cons_self
    simp only [isSpace, Bool.or_eq_true, beq_iff_eq] at hc
    rcases hc with ((rfl | rfl) | rfl) | rfl <;> decide

/-! ### Texts and values -/

/-- The strings and numbers that a text may hold, each with what it stands for. -/
structure Lexicon where
  /-- The strings. -/
  string : String → List Char → Prop
  /-- The numbers. -/
  number : Json → List Char → Prop

/-- How a number with the given parts may be written with its sign. -/
inductive SpellsNumber (p : NumberParts) : Bool → List Char → Prop
  | plain {cs : List Char} : SpellsParts p cs → SpellsNumber p false cs
  | minus {cs : List Char} : SpellsParts p cs → SpellsNumber p true ('-' :: cs)

/-- The words of a value that is read. A string stands for a text, and a number does not exceed the
floating point numbers. -/
def Lexicon.exact : Lexicon where
  string := SpellsString
  number v cs := ∃ p negative, SpellsNumber p negative cs ∧ numberValue negative p = .ok v

/-- The words of a value that is passed over. What they stand for does not matter. -/
def Lexicon.loose : Lexicon where
  string _ := LooseString
  number _ cs := ∃ p negative, SpellsNumber p negative cs

mutual

/-- The text stands for the value. No blanks stand around it. -/
inductive Spells (L : Lexicon) : Json → List Char → Prop
  | null : Spells L .null "null".toList
  | bool {b : Bool} : Spells L (.bool b) (if b then "true".toList else "false".toList)
  | number {v : Json} {cs : List Char} : L.number v cs → Spells L v cs
  | string {s : String} {cs : List Char} : L.string s cs → Spells L (.string s) cs
  | emptyArray {ws : List Char} : Blank ws → Spells L (.array []) ('[' :: (ws ++ [']']))
  | array {ws cs ds : List Char} {v : Json} {vs : List Json} : Blank ws → Spells L v cs →
      SpellsMoreItems L vs ds → Spells L (.array (v :: vs)) ('[' :: (ws ++ (cs ++ ds)))
  | emptyObject {ws : List Char} : Blank ws → Spells L (.object []) ('{' :: (ws ++ ['}']))
  | object {ms : List (String × Json)} {cs : List Char} : SpellsMembers L ms cs →
      Spells L (.object ms) ('{' :: cs)

/-- The text behind an item of a list, up to the closing bracket. -/
inductive SpellsMoreItems (L : Lexicon) : List Json → List Char → Prop
  | close {ws : List Char} : Blank ws → SpellsMoreItems L [] (ws ++ [']'])
  | comma {ws ws' cs ds : List Char} {v : Json} {vs : List Json} : Blank ws → Blank ws' →
      Spells L v cs → SpellsMoreItems L vs ds →
      SpellsMoreItems L (v :: vs) (ws ++ ',' :: (ws' ++ (cs ++ ds)))

/-- The text of the members of an object, up to the closing brace. -/
inductive SpellsMembers (L : Lexicon) : List (String × Json) → List Char → Prop
  | member {ws ws' ws'' ks cs ds : List Char} {k : String} {v : Json}
      {ms : List (String × Json)} : Blank ws → L.string k ks → Blank ws' → Blank ws'' →
      Spells L v cs → SpellsMoreMembers L ms ds →
      SpellsMembers L ((k, v) :: ms) (ws ++ (ks ++ (ws' ++ ':' :: (ws'' ++ (cs ++ ds)))))

/-- The text behind a member of an object, up to the closing brace. -/
inductive SpellsMoreMembers (L : Lexicon) : List (String × Json) → List Char → Prop
  | close {ws : List Char} : Blank ws → SpellsMoreMembers L [] (ws ++ ['}'])
  | comma {ws cs : List Char} {ms : List (String × Json)} : Blank ws → SpellsMembers L ms cs →
      SpellsMoreMembers L ms (ws ++ ',' :: cs)

end

/-- The text is a value of the JSON grammar. -/
def WellFormed (cs : List Char) : Prop :=
  ∃ v, Spells .loose v cs

mutual

/-- The number of lists and objects that are open at once. -/
def depth : Json → Nat
  | .array vs => depthItems vs + 1
  | .object ms => depthMembers ms + 1
  | _ => 0

/-- The depth of the deepest item. -/
def depthItems : List Json → Nat
  | [] => 0
  | v :: vs => max (depth v) (depthItems vs)

/-- The depth of the deepest member. -/
def depthMembers : List (String × Json) → Nat
  | [] => 0
  | (_, v) :: ms => max (depth v) (depthMembers ms)

end

/-! ### The ends of texts -/

theorem endsNumber_cons {c : Char} (h : c.isDigit = false ∧ c ≠ '.' ∧ c ≠ 'e' ∧ c ≠ 'E')
    (cs : List Char) : EndsNumber (c :: cs) := by
  intro d hd
  obtain rfl : c = d := by simpa using hd
  exact h

theorem SpellsMoreItems.endsNumber {L : Lexicon} {vs : List Json} {cs : List Char}
    (h : SpellsMoreItems L vs cs) (rest : List Char) : EndsNumber (cs ++ rest) := by
  cases h with
  | close hws =>
    rw [List.append_assoc]
    exact .append_blank hws (endsNumber_cons (by decide) _)
  | comma hws =>
    rw [List.append_assoc]
    exact .append_blank hws (endsNumber_cons (by decide) _)

theorem SpellsMoreMembers.endsNumber {L : Lexicon} {ms : List (String × Json)} {cs : List Char}
    (h : SpellsMoreMembers L ms cs) (rest : List Char) : EndsNumber (cs ++ rest) := by
  cases h with
  | close hws =>
    rw [List.append_assoc]
    exact .append_blank hws (endsNumber_cons (by decide) _)
  | comma hws =>
    rw [List.append_assoc]
    exact .append_blank hws (endsNumber_cons (by decide) _)

theorem SpellsParts.exists_digit {p : NumberParts} {cs : List Char} (h : SpellsParts p cs) :
    ∃ c ds, cs = c :: ds ∧ c.isDigit := by
  obtain ⟨hp, -⟩ := h
  obtain ⟨c, ds, hwhole⟩ := List.exists_cons_of_ne_nil hp.whole_ne_nil
  exact ⟨c, _, by rw [hwhole]; rfl, hp.whole_digits c (by simp [hwhole])⟩

theorem isSpace_of_isDigit {c : Char} (hc : c.isDigit) : isSpace c = false := by
  by_contra h
  simp only [isSpace, Bool.not_eq_false, Bool.or_eq_true, beq_iff_eq] at h
  rcases h with ((rfl | rfl) | rfl) | rfl <;> exact absurd hc (by decide)

theorem SpellsNumber.length_pos {p : NumberParts} {negative : Bool} {cs : List Char}
    (h : SpellsNumber p negative cs) : 0 < cs.length := by
  cases h with
  | plain hp =>
    obtain ⟨c, ds, rfl, -⟩ := hp.exists_digit
    simp
  | minus => simp

/-! ### Steps of reading -/

/-- A value is read alike with and without blanks in front of it. -/
theorem readValueWith_congr (fuel levels : Nat) {cs cs' : List Char}
    (h : skipBlanks cs = skipBlanks cs') :
    readValueWith fuel levels cs = readValueWith fuel levels cs' := by
  cases fuel with
  | zero => rfl
  | succ fuel => rw [readValueWith, readValueWith, h]

theorem readValueWith_append {ws : List Char} (hws : Blank ws) (fuel levels : Nat)
    (cs : List Char) : readValueWith fuel levels (ws ++ cs) = readValueWith fuel levels cs :=
  readValueWith_congr fuel levels (skipBlanks_append hws cs)

/-- A member is read alike with and without blanks in front of it. -/
theorem readMember_congr (fuel levels : Nat) {cs cs' : List Char}
    (h : skipBlanks cs = skipBlanks cs') :
    readMember fuel levels cs = readMember fuel levels cs' := by
  cases fuel with
  | zero => rfl
  | succ fuel => rw [readMember, readMember, h]

theorem readValueWith_digit (fuel levels : Nat) {c : Char} (hc : c.isDigit) (cs : List Char) :
    readValueWith (fuel + 1) levels (c :: cs) = readNumber false (c :: cs) := by
  rw [readValueWith, skipBlanks_cons (isSpace_of_isDigit hc)]
  split
  case h_9 =>
    rename_i heq
    cases heq
    exact if_pos hc
  all_goals
    rename_i heq
    cases heq <;> exact absurd hc (by decide)

/-- A number is read as the value of its parts. -/
theorem readValueWith_number (fuel levels : Nat) {p : NumberParts} {negative : Bool}
    {cs : List Char} (h : SpellsNumber p negative cs) {rest : List Char}
    (hrest : EndsNumber rest) :
    readValueWith (fuel + 1) levels (cs ++ rest) = (numberValue negative p).map (·, rest) := by
  cases h with
  | plain hp =>
    rw [← readNumber_of_spells false hp hrest]
    obtain ⟨c, ds, rfl, hc⟩ := hp.exists_digit
    exact readValueWith_digit fuel levels hc _
  | minus hp => exact readNumber_of_spells true hp hrest

theorem readValueWith_string (fuel levels : Nat) {s : String} {cs : List Char}
    (h : SpellsString s cs) (rest : List Char) :
    readValueWith (fuel + 1) levels (cs ++ rest) = .ok (.string s, rest) := by
  obtain ⟨h⟩ := h
  rename_i cs
  have htext : '"' :: (cs ++ ['"']) ++ rest = '"' :: (cs ++ '"' :: rest) := by simp
  rw [htext, readValueWith, skipBlanks_cons (by decide)]
  simp only [readString_of_spellsChars h, bind, Except.bind, pure, Except.pure]

theorem readValueWith_array {fuel levels : Nat} {cs rest : List Char} {vs : List Json}
    (h : readItems fuel levels cs = .ok (vs, rest)) :
    readValueWith (fuel + 1) (levels + 1) ('[' :: cs) = .ok (.array vs, rest) := by
  rw [readValueWith, skipBlanks_cons (by decide)]
  simp only [h, bind, Except.bind, pure, Except.pure]

theorem readValueWith_object {fuel levels : Nat} {cs rest : List Char}
    {ms : List (String × Json)} (h : readMembers fuel levels cs = .ok (ms, rest)) :
    readValueWith (fuel + 1) (levels + 1) ('{' :: cs) = .ok (.object ms, rest) := by
  rw [readValueWith, skipBlanks_cons (by decide)]
  simp only [h, bind, Except.bind, pure, Except.pure]

theorem readItems_close (fuel levels : Nat) {ws : List Char} (hws : Blank ws)
    (rest : List Char) : readItems (fuel + 1) levels (ws ++ ']' :: rest) = .ok ([], rest) := by
  rw [readItems, skipBlanks_append_cons hws (by decide)]
  rfl

theorem readItems_cons {fuel levels : Nat} {cs rest rest' : List Char} {v : Json} {vs : List Json}
    (hv : readValueWith fuel levels cs = .ok (v, rest))
    (hvs : readMoreItems fuel levels rest = .ok (vs, rest')) :
    readItems (fuel + 1) levels cs = .ok (v :: vs, rest') := by
  rw [readItems]
  split
  · rename_i rest'' hclose
    cases fuel with
    | zero => cases hv
    | succ fuel =>
      rw [readValueWith, hclose] at hv
      cases hv
  · rw [readValueWith_congr fuel levels (skipBlanks_skipBlanks cs)]
    simp only [hv, hvs, bind, Except.bind, pure, Except.pure]

theorem readMoreItems_comma {fuel levels : Nat} {ws cs rest rest' : List Char} (hws : Blank ws)
    {v : Json} {vs : List Json} (hv : readValueWith fuel levels cs = .ok (v, rest))
    (hvs : readMoreItems fuel levels rest = .ok (vs, rest')) :
    readMoreItems (fuel + 1) levels (ws ++ ',' :: cs) = .ok (v :: vs, rest') := by
  rw [readMoreItems, skipBlanks_append_cons hws (by decide)]
  simp only [hv, hvs, bind, Except.bind, pure, Except.pure]

theorem readMoreItems_close (fuel levels : Nat) {ws : List Char} (hws : Blank ws)
    (rest : List Char) : readMoreItems (fuel + 1) levels (ws ++ ']' :: rest) = .ok ([], rest) := by
  rw [readMoreItems, skipBlanks_append_cons hws (by decide)]
  rfl

theorem readMember_string {fuel levels : Nat} {ws ws' ks cs rest rest' : List Char}
    (hws : Blank ws) {k : String} (hk : SpellsString k ks) (hws' : Blank ws') {v : Json}
    {ms : List (String × Json)} (hv : readValueWith fuel levels cs = .ok (v, rest))
    (hms : readMoreMembers fuel levels rest = .ok (ms, rest')) :
    readMember (fuel + 1) levels (ws ++ (ks ++ (ws' ++ ':' :: cs))) =
      .ok ((k, v) :: ms, rest') := by
  obtain ⟨hk⟩ := hk
  rename_i ks
  have htext : ws ++ ('"' :: (ks ++ ['"']) ++ (ws' ++ ':' :: cs)) =
      ws ++ '"' :: (ks ++ '"' :: (ws' ++ ':' :: cs)) := by simp
  rw [htext, readMember, skipBlanks_append_cons hws (by decide)]
  have hcolon : skipBlanks (ws' ++ ':' :: cs) = ':' :: cs :=
    skipBlanks_append_cons hws' (by decide) cs
  simp only [readString_of_spellsChars hk, hcolon, hv, hms, bind, Except.bind, pure, Except.pure]

theorem readMembers_close (fuel levels : Nat) {ws : List Char} (hws : Blank ws)
    (rest : List Char) : readMembers (fuel + 1) levels (ws ++ '}' :: rest) = .ok ([], rest) := by
  rw [readMembers, skipBlanks_append_cons hws (by decide)]
  rfl

theorem readMembers_cons {fuel levels : Nat} {cs rest : List Char} {ms : List (String × Json)}
    (h : readMember fuel levels cs = .ok (ms, rest)) :
    readMembers (fuel + 1) levels cs = .ok (ms, rest) := by
  rw [readMembers]
  split
  · rename_i rest' hclose
    cases fuel with
    | zero => cases h
    | succ fuel =>
      rw [readMember, hclose] at h
      cases h
  · rwa [readMember_congr fuel levels (skipBlanks_skipBlanks cs)]

theorem readMoreMembers_comma (fuel levels : Nat) {ws : List Char} (hws : Blank ws)
    (cs : List Char) :
    readMoreMembers (fuel + 1) levels (ws ++ ',' :: cs) = readMember fuel levels cs := by
  rw [readMoreMembers, skipBlanks_append_cons hws (by decide)]
  rfl

theorem readMoreMembers_close (fuel levels : Nat) {ws : List Char} (hws : Blank ws)
    (rest : List Char) :
    readMoreMembers (fuel + 1) levels (ws ++ '}' :: rest) = .ok ([], rest) := by
  rw [readMoreMembers, skipBlanks_append_cons hws (by decide)]
  rfl

/-! ### Values are read -/

-- The recursion follows the text. Each part of it pays for at most three steps: an opening bracket
-- for the value, its list of items and the item after it, a comma for the next item.
mutual

/-- A value is read however it is written, in front of any text that does not continue a
number. -/
theorem readValueWith_of_spells :
    ∀ {v : Json} {cs : List Char}, Spells .exact v cs → ∀ {levels fuel : Nat} {rest : List Char},
      v.depth ≤ levels → 3 * cs.length ≤ fuel → EndsNumber rest →
      readValueWith fuel levels (cs ++ rest) = .ok (v, rest)
  | _, _, .null, _, fuel, _, _, hfuel, _ => by
    obtain ⟨fuel, rfl⟩ : ∃ n, fuel = n + 1 := ⟨fuel - 1, by simp at hfuel; omega⟩
    rfl
  | .bool b, _, .bool, _, fuel, _, _, hfuel, _ => by
    cases b with
    | true =>
      obtain ⟨fuel, rfl⟩ : ∃ n, fuel = n + 1 := ⟨fuel - 1, by simp at hfuel; omega⟩
      rfl
    | false =>
      obtain ⟨fuel, rfl⟩ : ∃ n, fuel = n + 1 := ⟨fuel - 1, by simp at hfuel; omega⟩
      rfl
  | _, _, .number h, levels, fuel, _, _, hfuel, hrest => by
    obtain ⟨p, negative, hp, hv⟩ := h
    have hpos := hp.length_pos
    obtain ⟨fuel, rfl⟩ : ∃ n, fuel = n + 1 := ⟨fuel - 1, by omega⟩
    rw [readValueWith_number fuel levels hp hrest, hv]
    rfl
  | _, _, .string h, levels, fuel, rest, _, hfuel, _ => by
    have h : SpellsString _ _ := h
    obtain ⟨fuel, rfl⟩ : ∃ n, fuel = n + 1 := ⟨fuel - 1, by cases h; simp at hfuel; omega⟩
    exact readValueWith_string fuel levels h rest
  | _, _, .emptyArray hws, levels, fuel, rest, hlevels, hfuel, _ => by
    simp only [depth, depthItems] at hlevels
    simp only [List.length_cons, List.length_append, List.length_nil] at hfuel
    obtain ⟨levels, rfl⟩ : ∃ n, levels = n + 1 := ⟨levels - 1, by omega⟩
    obtain ⟨fuel, rfl⟩ : ∃ n, fuel = n + 2 := ⟨fuel - 2, by omega⟩
    rw [List.cons_append, List.append_assoc]
    exact readValueWith_array (readItems_close fuel levels hws rest)
  | _, _, .array hws hv hvs, levels, fuel, rest, hlevels, hfuel, _ => by
    simp only [depth, depthItems] at hlevels
    simp only [List.length_cons, List.length_append] at hfuel
    obtain ⟨levels, rfl⟩ : ∃ n, levels = n + 1 := ⟨levels - 1, by omega⟩
    obtain ⟨fuel, rfl⟩ : ∃ n, fuel = n + 2 := ⟨fuel - 2, by omega⟩
    have hitems := readMoreItems_of_spells hvs rest (by omega : _ ≤ levels)
      (by omega : _ ≤ fuel)
    have hvalue := readValueWith_of_spells hv (by omega : _ ≤ levels) (by omega : _ ≤ fuel)
      (hvs.endsNumber rest)
    rw [← readValueWith_append hws] at hvalue
    rw [List.cons_append, List.append_assoc, List.append_assoc]
    exact readValueWith_array (readItems_cons hvalue hitems)
  | _, _, .emptyObject hws, levels, fuel, rest, hlevels, hfuel, _ => by
    simp only [depth, depthMembers] at hlevels
    simp only [List.length_cons, List.length_append, List.length_nil] at hfuel
    obtain ⟨levels, rfl⟩ : ∃ n, levels = n + 1 := ⟨levels - 1, by omega⟩
    obtain ⟨fuel, rfl⟩ : ∃ n, fuel = n + 2 := ⟨fuel - 2, by omega⟩
    rw [List.cons_append, List.append_assoc]
    exact readValueWith_object (readMembers_close fuel levels hws rest)
  | _, _, .object hms, levels, fuel, rest, hlevels, hfuel, _ => by
    simp only [depth] at hlevels
    rw [List.length_cons] at hfuel
    obtain ⟨levels, rfl⟩ : ∃ n, levels = n + 1 := ⟨levels - 1, by omega⟩
    obtain ⟨fuel, rfl⟩ : ∃ n, fuel = n + 2 := ⟨fuel - 2, by omega⟩
    exact readValueWith_object (readMembers_cons
      (readMember_of_spells hms rest (by omega) (by omega)))

/-- The further items of a list are read. -/
theorem readMoreItems_of_spells :
    ∀ {vs : List Json} {cs : List Char}, SpellsMoreItems .exact vs cs →
      ∀ {levels fuel : Nat} (rest : List Char), depthItems vs ≤ levels → 3 * cs.length ≤ fuel →
      readMoreItems fuel levels (cs ++ rest) = .ok (vs, rest)
  | _, _, .close hws, levels, fuel, rest, _, hfuel => by
    rw [List.length_append, List.length_singleton] at hfuel
    obtain ⟨fuel, rfl⟩ : ∃ n, fuel = n + 1 := ⟨fuel - 1, by omega⟩
    rw [List.append_assoc]
    exact readMoreItems_close fuel levels hws rest
  | _, _, .comma hws hws' hv hvs, levels, fuel, rest, hlevels, hfuel => by
    simp only [depthItems] at hlevels
    simp only [List.length_append, List.length_cons] at hfuel
    obtain ⟨fuel, rfl⟩ : ∃ n, fuel = n + 1 := ⟨fuel - 1, by omega⟩
    have hitems := readMoreItems_of_spells hvs rest (by omega : _ ≤ levels)
      (by omega : _ ≤ fuel)
    have hvalue := readValueWith_of_spells hv (by omega : _ ≤ levels) (by omega : _ ≤ fuel)
      (hvs.endsNumber rest)
    rw [← readValueWith_append hws'] at hvalue
    rw [List.append_assoc, List.cons_append, List.append_assoc, List.append_assoc]
    exact readMoreItems_comma hws hvalue hitems

/-- The members of an object are read. -/
theorem readMember_of_spells :
    ∀ {ms : List (String × Json)} {cs : List Char}, SpellsMembers .exact ms cs →
      ∀ {levels fuel : Nat} (rest : List Char), depthMembers ms ≤ levels → 3 * cs.length ≤ fuel →
      readMember fuel levels (cs ++ rest) = .ok (ms, rest)
  | _, _, .member hws hk hws' hws'' hv hms, levels, fuel, rest, hlevels, hfuel => by
    simp only [depthMembers] at hlevels
    simp only [List.length_append, List.length_cons] at hfuel
    obtain ⟨fuel, rfl⟩ : ∃ n, fuel = n + 1 := ⟨fuel - 1, by omega⟩
    have hmembers := readMoreMembers_of_spells hms rest (by omega : _ ≤ levels)
      (by omega : _ ≤ fuel)
    have hvalue := readValueWith_of_spells hv (by omega : _ ≤ levels) (by omega : _ ≤ fuel)
      (hms.endsNumber rest)
    rw [← readValueWith_append hws''] at hvalue
    simp only [List.append_assoc, List.cons_append]
    exact readMember_string hws hk hws' hvalue hmembers

/-- The further members of an object are read. -/
theorem readMoreMembers_of_spells :
    ∀ {ms : List (String × Json)} {cs : List Char}, SpellsMoreMembers .exact ms cs →
      ∀ {levels fuel : Nat} (rest : List Char), depthMembers ms ≤ levels → 3 * cs.length ≤ fuel →
      readMoreMembers fuel levels (cs ++ rest) = .ok (ms, rest)
  | _, _, .close hws, levels, fuel, rest, _, hfuel => by
    rw [List.length_append, List.length_singleton] at hfuel
    obtain ⟨fuel, rfl⟩ : ∃ n, fuel = n + 1 := ⟨fuel - 1, by omega⟩
    rw [List.append_assoc]
    exact readMoreMembers_close fuel levels hws rest
  | _, _, .comma hws hms, levels, fuel, rest, hlevels, hfuel => by
    simp only [List.length_append, List.length_cons] at hfuel
    obtain ⟨fuel, rfl⟩ : ∃ n, fuel = n + 1 := ⟨fuel - 1, by omega⟩
    rw [List.append_assoc, List.cons_append, readMoreMembers_comma fuel levels hws]
    exact readMember_of_spells hms rest hlevels (by omega)

end

/-! ### Steps of passing over -/

/-- A value is passed over alike with and without blanks in front of it. -/
theorem skipValueWith_congr (fuel : Nat) {cs cs' : List Char}
    (h : skipBlanks cs = skipBlanks cs') : skipValueWith fuel cs = skipValueWith fuel cs' := by
  cases fuel with
  | zero => rfl
  | succ fuel => rw [skipValueWith, skipValueWith, h]

theorem skipValueWith_append {ws : List Char} (hws : Blank ws) (fuel : Nat) (cs : List Char) :
    skipValueWith fuel (ws ++ cs) = skipValueWith fuel cs :=
  skipValueWith_congr fuel (skipBlanks_append hws cs)

/-- A member is passed over alike with and without blanks in front of it. -/
theorem skipMember_congr (fuel : Nat) {cs cs' : List Char}
    (h : skipBlanks cs = skipBlanks cs') : skipMember fuel cs = skipMember fuel cs' := by
  cases fuel with
  | zero => rfl
  | succ fuel => rw [skipMember, skipMember, h]

theorem skipValueWith_digit (fuel : Nat) {c : Char} (hc : c.isDigit) (cs : List Char) :
    skipValueWith (fuel + 1) (c :: cs) = skipNumber (c :: cs) := by
  rw [skipValueWith, skipBlanks_cons (isSpace_of_isDigit hc)]
  split
  case h_9 =>
    rename_i heq
    cases heq
    exact if_pos hc
  all_goals
    rename_i heq
    cases heq <;> exact absurd hc (by decide)

theorem skipValueWith_number (fuel : Nat) {p : NumberParts} {negative : Bool} {cs : List Char}
    (h : SpellsNumber p negative cs) {rest : List Char} (hrest : EndsNumber rest) :
    skipValueWith (fuel + 1) (cs ++ rest) = .ok rest := by
  cases h with
  | plain hp =>
    rw [← skipNumber_of_spells hp hrest]
    obtain ⟨c, ds, rfl, hc⟩ := hp.exists_digit
    exact skipValueWith_digit fuel hc _
  | minus hp => exact skipNumber_of_spells hp hrest

theorem skipValueWith_string (fuel : Nat) {cs : List Char} (h : LooseString cs)
    (rest : List Char) : skipValueWith (fuel + 1) (cs ++ rest) = .ok rest := by
  obtain ⟨h⟩ := h
  rename_i cs
  have htext : '"' :: (cs ++ ['"']) ++ rest = '"' :: (cs ++ '"' :: rest) := by simp
  rw [htext, skipValueWith, skipBlanks_cons (by decide)]
  exact skipString_of_looseChars h rest

theorem skipItems_close (fuel : Nat) {ws : List Char} (hws : Blank ws) (rest : List Char) :
    skipItems (fuel + 1) (ws ++ ']' :: rest) = .ok rest := by
  rw [skipItems, skipBlanks_append_cons hws (by decide)]
  rfl

theorem skipItems_cons {fuel : Nat} {cs rest rest' : List Char}
    (hv : skipValueWith fuel cs = .ok rest) (hvs : skipMoreItems fuel rest = .ok rest') :
    skipItems (fuel + 1) cs = .ok rest' := by
  rw [skipItems]
  split
  · rename_i rest'' hclose
    cases fuel with
    | zero => cases hv
    | succ fuel =>
      rw [skipValueWith, hclose] at hv
      cases hv
  · rw [skipValueWith_congr fuel (skipBlanks_skipBlanks cs)]
    simp only [hv, hvs, bind, Except.bind]

theorem skipMoreItems_comma {fuel : Nat} {ws cs rest rest' : List Char} (hws : Blank ws)
    (hv : skipValueWith fuel cs = .ok rest) (hvs : skipMoreItems fuel rest = .ok rest') :
    skipMoreItems (fuel + 1) (ws ++ ',' :: cs) = .ok rest' := by
  rw [skipMoreItems, skipBlanks_append_cons hws (by decide)]
  simp only [hv, hvs, bind, Except.bind]

theorem skipMoreItems_close (fuel : Nat) {ws : List Char} (hws : Blank ws) (rest : List Char) :
    skipMoreItems (fuel + 1) (ws ++ ']' :: rest) = .ok rest := by
  rw [skipMoreItems, skipBlanks_append_cons hws (by decide)]
  rfl

theorem skipMember_string {fuel : Nat} {ws ws' ks cs rest rest' : List Char} (hws : Blank ws)
    (hk : LooseString ks) (hws' : Blank ws') (hv : skipValueWith fuel cs = .ok rest)
    (hms : skipMoreMembers fuel rest = .ok rest') :
    skipMember (fuel + 1) (ws ++ (ks ++ (ws' ++ ':' :: cs))) = .ok rest' := by
  obtain ⟨hk⟩ := hk
  rename_i ks
  have htext : ws ++ ('"' :: (ks ++ ['"']) ++ (ws' ++ ':' :: cs)) =
      ws ++ '"' :: (ks ++ '"' :: (ws' ++ ':' :: cs)) := by simp
  have hcolon : skipBlanks (ws' ++ ':' :: cs) = ':' :: cs :=
    skipBlanks_append_cons hws' (by decide) cs
  rw [htext, skipMember, skipBlanks_append_cons hws (by decide)]
  simp only [skipString_of_looseChars hk, hcolon, hv, hms, bind, Except.bind]

theorem skipMembers_close (fuel : Nat) {ws : List Char} (hws : Blank ws) (rest : List Char) :
    skipMembers (fuel + 1) (ws ++ '}' :: rest) = .ok rest := by
  rw [skipMembers, skipBlanks_append_cons hws (by decide)]
  rfl

theorem skipMembers_cons {fuel : Nat} {cs rest : List Char}
    (h : skipMember fuel cs = .ok rest) : skipMembers (fuel + 1) cs = .ok rest := by
  rw [skipMembers]
  split
  · rename_i rest' hclose
    cases fuel with
    | zero => cases h
    | succ fuel =>
      rw [skipMember, hclose] at h
      cases h
  · rwa [skipMember_congr fuel (skipBlanks_skipBlanks cs)]

theorem skipMoreMembers_comma (fuel : Nat) {ws : List Char} (hws : Blank ws) (cs : List Char) :
    skipMoreMembers (fuel + 1) (ws ++ ',' :: cs) = skipMember fuel cs := by
  rw [skipMoreMembers, skipBlanks_append_cons hws (by decide)]
  rfl

theorem skipMoreMembers_close (fuel : Nat) {ws : List Char} (hws : Blank ws)
    (rest : List Char) : skipMoreMembers (fuel + 1) (ws ++ '}' :: rest) = .ok rest := by
  rw [skipMoreMembers, skipBlanks_append_cons hws (by decide)]
  rfl

/-! ### Values are passed over -/

mutual

/-- A value is passed over however it is written, in front of any text that does not continue a
number. -/
theorem skipValueWith_of_spells :
    ∀ {v : Json} {cs : List Char}, Spells .loose v cs → ∀ {fuel : Nat} {rest : List Char},
      3 * cs.length ≤ fuel → EndsNumber rest → skipValueWith fuel (cs ++ rest) = .ok rest
  | _, _, .null, fuel, _, hfuel, _ => by
    obtain ⟨fuel, rfl⟩ : ∃ n, fuel = n + 1 := ⟨fuel - 1, by simp at hfuel; omega⟩
    rfl
  | .bool b, _, .bool, fuel, _, hfuel, _ => by
    cases b with
    | true =>
      obtain ⟨fuel, rfl⟩ : ∃ n, fuel = n + 1 := ⟨fuel - 1, by simp at hfuel; omega⟩
      rfl
    | false =>
      obtain ⟨fuel, rfl⟩ : ∃ n, fuel = n + 1 := ⟨fuel - 1, by simp at hfuel; omega⟩
      rfl
  | _, _, .number h, fuel, _, hfuel, hrest => by
    obtain ⟨p, negative, hp⟩ := h
    have hpos := hp.length_pos
    obtain ⟨fuel, rfl⟩ : ∃ n, fuel = n + 1 := ⟨fuel - 1, by omega⟩
    exact skipValueWith_number fuel hp hrest
  | _, _, .string h, fuel, rest, hfuel, _ => by
    have h : LooseString _ := h
    obtain ⟨fuel, rfl⟩ : ∃ n, fuel = n + 1 := ⟨fuel - 1, by cases h; simp at hfuel; omega⟩
    exact skipValueWith_string fuel h rest
  | _, _, .emptyArray hws, fuel, rest, hfuel, _ => by
    simp only [List.length_cons, List.length_append, List.length_nil] at hfuel
    obtain ⟨fuel, rfl⟩ : ∃ n, fuel = n + 2 := ⟨fuel - 2, by omega⟩
    rw [List.cons_append, List.append_assoc]
    exact skipItems_close fuel hws rest
  | _, _, .array hws hv hvs, fuel, rest, hfuel, _ => by
    simp only [List.length_cons, List.length_append] at hfuel
    obtain ⟨fuel, rfl⟩ : ∃ n, fuel = n + 2 := ⟨fuel - 2, by omega⟩
    have hitems := skipMoreItems_of_spells hvs rest (by omega : _ ≤ fuel)
    have hvalue := skipValueWith_of_spells hv (by omega : _ ≤ fuel) (hvs.endsNumber rest)
    rw [← skipValueWith_append hws] at hvalue
    rw [List.cons_append, List.append_assoc, List.append_assoc]
    exact skipItems_cons hvalue hitems
  | _, _, .emptyObject hws, fuel, rest, hfuel, _ => by
    simp only [List.length_cons, List.length_append, List.length_nil] at hfuel
    obtain ⟨fuel, rfl⟩ : ∃ n, fuel = n + 2 := ⟨fuel - 2, by omega⟩
    rw [List.cons_append, List.append_assoc]
    exact skipMembers_close fuel hws rest
  | _, _, .object hms, fuel, rest, hfuel, _ => by
    rw [List.length_cons] at hfuel
    obtain ⟨fuel, rfl⟩ : ∃ n, fuel = n + 2 := ⟨fuel - 2, by omega⟩
    exact skipMembers_cons (skipMember_of_spells hms rest (by omega))

/-- The further items of a list are passed over. -/
theorem skipMoreItems_of_spells :
    ∀ {vs : List Json} {cs : List Char}, SpellsMoreItems .loose vs cs →
      ∀ {fuel : Nat} (rest : List Char), 3 * cs.length ≤ fuel →
      skipMoreItems fuel (cs ++ rest) = .ok rest
  | _, _, .close hws, fuel, rest, hfuel => by
    rw [List.length_append, List.length_singleton] at hfuel
    obtain ⟨fuel, rfl⟩ : ∃ n, fuel = n + 1 := ⟨fuel - 1, by omega⟩
    rw [List.append_assoc]
    exact skipMoreItems_close fuel hws rest
  | _, _, .comma hws hws' hv hvs, fuel, rest, hfuel => by
    simp only [List.length_append, List.length_cons] at hfuel
    obtain ⟨fuel, rfl⟩ : ∃ n, fuel = n + 1 := ⟨fuel - 1, by omega⟩
    have hitems := skipMoreItems_of_spells hvs rest (by omega : _ ≤ fuel)
    have hvalue := skipValueWith_of_spells hv (by omega : _ ≤ fuel) (hvs.endsNumber rest)
    rw [← skipValueWith_append hws'] at hvalue
    rw [List.append_assoc, List.cons_append, List.append_assoc, List.append_assoc]
    exact skipMoreItems_comma hws hvalue hitems

/-- The members of an object are passed over. -/
theorem skipMember_of_spells :
    ∀ {ms : List (String × Json)} {cs : List Char}, SpellsMembers .loose ms cs →
      ∀ {fuel : Nat} (rest : List Char), 3 * cs.length ≤ fuel →
      skipMember fuel (cs ++ rest) = .ok rest
  | _, _, .member hws hk hws' hws'' hv hms, fuel, rest, hfuel => by
    simp only [List.length_append, List.length_cons] at hfuel
    obtain ⟨fuel, rfl⟩ : ∃ n, fuel = n + 1 := ⟨fuel - 1, by omega⟩
    have hmembers := skipMoreMembers_of_spells hms rest (by omega : _ ≤ fuel)
    have hvalue := skipValueWith_of_spells hv (by omega : _ ≤ fuel) (hms.endsNumber rest)
    rw [← skipValueWith_append hws''] at hvalue
    simp only [List.append_assoc, List.cons_append]
    exact skipMember_string hws hk hws' hvalue hmembers

/-- The further members of an object are passed over. -/
theorem skipMoreMembers_of_spells :
    ∀ {ms : List (String × Json)} {cs : List Char}, SpellsMoreMembers .loose ms cs →
      ∀ {fuel : Nat} (rest : List Char), 3 * cs.length ≤ fuel →
      skipMoreMembers fuel (cs ++ rest) = .ok rest
  | _, _, .close hws, fuel, rest, hfuel => by
    rw [List.length_append, List.length_singleton] at hfuel
    obtain ⟨fuel, rfl⟩ : ∃ n, fuel = n + 1 := ⟨fuel - 1, by omega⟩
    rw [List.append_assoc]
    exact skipMoreMembers_close fuel hws rest
  | _, _, .comma hws hms, fuel, rest, hfuel => by
    simp only [List.length_append, List.length_cons] at hfuel
    obtain ⟨fuel, rfl⟩ : ∃ n, fuel = n + 1 := ⟨fuel - 1, by omega⟩
    rw [List.append_assoc, List.cons_append, skipMoreMembers_comma fuel hws]
    exact skipMember_of_spells hms rest (by omega)

end

/-! ### Whole readers -/

/-- A value is read however it is written, with blanks in front of it. -/
theorem readValue_of_spells {v : Json} {cs : List Char} (h : Spells .exact v cs) {levels : Nat}
    (hlevels : v.depth ≤ levels) {ws : List Char} (hws : Blank ws) {rest : List Char}
    (hrest : EndsNumber rest) : readValue levels (ws ++ (cs ++ rest)) = .ok (v, rest) := by
  rw [readValue, readValueWith_append hws]
  refine readValueWith_of_spells h hlevels ?_ hrest
  simp only [stepBound, List.length_append]
  omega

/-- A well-formed value is passed over, with blanks in front of it. -/
theorem WellFormed.skipValue {cs : List Char} (h : WellFormed cs) {ws : List Char}
    (hws : Blank ws) {rest : List Char} (hrest : EndsNumber rest) :
    skipValue (ws ++ (cs ++ rest)) = .ok rest := by
  obtain ⟨v, hv⟩ := h
  rw [Json.skipValue, skipValueWith_append hws]
  refine skipValueWith_of_spells hv ?_ hrest
  simp only [stepBound, List.length_append]
  omega

/-- Only blanks may follow a value. -/
theorem expectEnd_blank {ws : List Char} (hws : Blank ws) : expectEnd ws = .ok () := by
  have hskip := skipBlanks_append hws []
  rw [List.append_nil] at hskip
  rw [expectEnd, hskip]
  rfl

/-- The whole text stands for the value. Blanks may stand around it. -/
def SpellsText (v : Json) (text : String) : Prop :=
  ∃ ws cs ws', text.toList = ws ++ (cs ++ ws') ∧ Blank ws ∧ Spells .exact v cs ∧ Blank ws'

theorem Spells.spellsText {v : Json} {cs : List Char} (h : Spells .exact v cs) :
    SpellsText v (.ofList cs) :=
  ⟨[], cs, [], by simp, blank_nil, h, blank_nil⟩

/-- Blanks may be put behind a text. -/
theorem SpellsText.append_blank {v : Json} {text blanks : String} (h : SpellsText v text)
    (hblanks : Blank blanks.toList) : SpellsText v (text ++ blanks) := by
  obtain ⟨ws, cs, ws', htext, hws, hv, hws'⟩ := h
  refine ⟨ws, cs, ws' ++ blanks.toList, ?_, hws, hv, List.forall_mem_append.mpr ⟨hws', hblanks⟩⟩
  simp [htext]

/-- **JSON text is read.** Every text of the grammar within the limit of nesting is read as the
value that it stands for. -/
theorem parse_of_spellsText {v : Json} {text : String} (h : SpellsText v text)
    (hdepth : v.depth ≤ maxLevels) : parse text = .ok v := by
  obtain ⟨ws, cs, ws', htext, hws, hv, hws'⟩ := h
  have hrest : EndsNumber ws' := by
    simpa using EndsNumber.append_blank hws' endsNumber_nil
  rw [parse, htext, readValue_of_spells hv hdepth hws hrest]
  simp only [bind, Except.bind, expectEnd_blank hws', pure, Except.pure]

end CatalogFilter.Json
