import CatalogFilter.Proofs.Toml.Lines
import CatalogFilter.Settings.Store

/-!
# The text of the settings

Settings are read back from their text as they were, whichever of them are set, if 32 bits hold
their numbers. Those that were loaded are always such.

* `Settings.Fits`: the numbers have the size that can be read.
* `Settings.lines_toToml`: the lines of the text.
* `Settings.ofToml?_toToml`: the text is read back.
* `Settings.fits_of_load`: settings that were loaded can be read back.
-/

namespace CatalogFilter.Settings

/-- The numbers are such that 32 bits hold them. -/
structure Fits (s : Settings) : Prop where
  /-- The number of the page. -/
  page : ∀ n ∈ s.page, n ≤ Numeral.maxWord
  /-- The number of items. -/
  limit : ∀ n ∈ s.limit, n ≤ Numeral.maxWord

/-! ### The text is read back -/

/-- The statement that gives a setting, if it is set. -/
def statement {α : Type} (name : String) (value : α → Toml.Value) :
    Option α → List Toml.Statement
  | some a => [.pair [name] (value a)]
  | none => []

/-- The value for a number. -/
def countValue (n : Nat) : Toml.Value :=
  .integer n

/-- The statements in the text of the settings. -/
def statements (s : Settings) : List Toml.Statement :=
  .pair ["version"] (countValue version) :: .header ["output"] ::
    (statement "color" .bool s.color ++ .header ["pagination"] ::
      (statement "page" countValue s.page ++ statement "limit" countValue s.limit))

theorem lines_line {α : Type} {name : String} (hname : Toml.BareKey name.toList)
    {word : α → String} {value : α → Toml.Value} {o : Option α}
    (hword : ∀ a ∈ o, Toml.Literal (value a) (word a).toList) {cs : List Char}
    {ss : List Toml.Statement} (h : Toml.Lines cs ss) :
    Toml.Lines ((line "" name " = " word o).toList ++ cs) (statement name value o ++ ss) := by
  cases o with
  | none => exact h
  | some a =>
    have hpair := Toml.Lines.pair hname (hword a rfl) h
    simpa [line, statement] using hpair

theorem literal_boolWord (b : Bool) : Toml.Literal (.bool b) (boolWord b).toList := by
  cases b
  · exact Toml.literal_false
  · exact Toml.literal_true

theorem literal_countWord {n : Nat} (hn : n ≤ Numeral.maxWord) :
    Toml.Literal (countValue n) (countWord n).toList := by
  rw [countWord, String.toList_ofList]
  exact Toml.literal_print hn

theorem bareKey_of_all {key : List Char} (hne : key ≠ []) (hall : key.all Toml.isKeyChar) :
    Toml.BareKey key :=
  ⟨hne, by simpa using hall⟩

/-- The lines of the text, from the last to the first. -/
theorem lines_toToml {s : Settings} (h : s.Fits) : Toml.Lines s.toToml.toList s.statements := by
  have hlimit : Toml.Lines (line "" "limit" " = " countWord s.limit).toList
      (statement "limit" countValue s.limit) := by
    simpa using lines_line (bareKey_of_all (by decide) (by decide))
      (fun n hn => literal_countWord (h.limit n hn)) .nil
  have hpage := lines_line (bareKey_of_all (by decide) (by decide) : Toml.BareKey "page".toList)
    (fun n hn => literal_countWord (h.page n hn)) hlimit
  have hpagination := Toml.Lines.header
    (bareKey_of_all (by decide) (by decide) : Toml.BareKey "pagination".toList) hpage
  have hcolor := lines_line (bareKey_of_all (by decide) (by decide) : Toml.BareKey "color".toList)
    (fun b (_ : b ∈ s.color) => literal_boolWord b) hpagination.blank
  have houtput := Toml.Lines.header
    (bareKey_of_all (by decide) (by decide) : Toml.BareKey "output".toList) hcolor
  have hversion := Toml.Lines.pair
    (bareKey_of_all (by decide) (by decide) : Toml.BareKey "version".toList)
    (literal_countWord (by decide : version ≤ Numeral.maxWord)) houtput.blank
  have htext : s.toToml = "version = " ++ countWord version ++ "\n\n[output]\n" ++
      line "" "color" " = " boolWord s.color ++ "\n[pagination]\n" ++
      line "" "page" " = " countWord s.page ++ line "" "limit" " = " countWord s.limit := rfl
  simpa [htext, statements] using hversion

/-- The entry that gives a setting, if it is set. -/
def entry {α : Type} (name : String) (value : α → Toml.Value) : Option α → Toml.Entries
  | some a => [(name, value a)]
  | none => []

/-- The table that the statements make. -/
def entries (s : Settings) : Toml.Entries :=
  [("version", countValue version),
   ("output", .table .header (entry "color" .bool s.color)),
   ("pagination", .table .header (entry "page" countValue s.page ++
     entry "limit" countValue s.limit))]

theorem foldlM_statements (s : Settings) :
    s.statements.foldlM Toml.advance? ([], []) = some (s.entries, ["pagination"]) := by
  obtain ⟨color, page, limit⟩ := s
  cases color <;> cases page <;> cases limit <;> rfl

theorem wordOf?_countValue {n : Nat} (hn : n ≤ Numeral.maxWord) :
    wordOf? (countValue n) = some n := by
  simp [wordOf?, countValue, hn]

theorem lookup_entry {α : Type} (name : String) (value : α → Toml.Value) (o : Option α) :
    (entry name value o).lookup name = o.map value := by
  cases o <;> simp [entry]

theorem lookup_entry_of_ne {α : Type} {name name' : String} (hne : name' ≠ name)
    (value : α → Toml.Value) (o : Option α) : (entry name value o).lookup name' = none := by
  cases o <;> simp [entry, hne]

theorem field?_of_lookup {α : Type} {name : String} {es : Toml.Entries} {value : α → Toml.Value}
    {o : Option α} (hes : es.lookup name = o.map value) {read : Toml.Value → Option α}
    (hread : ∀ a ∈ o, read (value a) = some a) : field? read name es = some o := by
  rw [field?, hes]
  cases o with
  | none => rfl
  | some a => simp [hread a rfl]

theorem pagesOf?_entries {s : Settings} (h : s.Fits) :
    pagesOf? (.table .header (entry "page" countValue s.page ++
      entry "limit" countValue s.limit)) = some (s.page, s.limit) := by
  have hpage : (entry "page" countValue s.page ++ entry "limit" countValue s.limit).lookup "page" =
      s.page.map countValue := by
    rw [List.lookup_append, lookup_entry, lookup_entry_of_ne (by decide), Option.or_none]
  have hlimit : (entry "page" countValue s.page ++ entry "limit" countValue s.limit).lookup
      "limit" = s.limit.map countValue := by
    rw [List.lookup_append, lookup_entry, lookup_entry_of_ne (by decide), Option.none_or]
  rw [pagesOf?, field?_of_lookup hpage fun n hn => wordOf?_countValue (h.page n hn),
    field?_of_lookup hlimit fun n hn => wordOf?_countValue (h.limit n hn)]
  rfl

theorem ofEntries?_entries {s : Settings} (h : s.Fits) : ofEntries? s.entries = some s := by
  have hversion : field? wordOf? "version" s.entries = some (some version) := rfl
  have hcolor : field? colorOf? "output" s.entries = some (some s.color) := by
    have hread : colorOf? (.table .header (entry "color" .bool s.color)) = some s.color :=
      field?_of_lookup (lookup_entry ..) fun _ _ => rfl
    have hlookup : s.entries.lookup "output" =
        some (.table .header (entry "color" .bool s.color)) := rfl
    simp [field?, hlookup, hread]
  have hpages : field? pagesOf? "pagination" s.entries = some (some (s.page, s.limit)) := by
    have hlookup : s.entries.lookup "pagination" = some (.table .header
        (entry "page" countValue s.page ++ entry "limit" countValue s.limit)) := rfl
    simp [field?, hlookup, pagesOf?_entries h]
  rw [ofEntries?, hversion, hcolor, hpages]
  rfl

/-- Settings are read back from their text. -/
theorem ofToml?_toToml {s : Settings} (h : s.Fits) : ofToml? s.toToml = some s := by
  rw [ofToml?, Toml.parse?, Toml.readStatements?_of_lines (lines_toToml h)]
  simp only [Option.bind_eq_bind, Option.bind_some, foldlM_statements]
  exact ofEntries?_entries h

/-! ### Settings that were loaded -/

theorem le_of_wordOf? {v : Toml.Value} {n : Nat} (h : wordOf? v = some n) : n ≤ Numeral.maxWord := by
  unfold wordOf? at h
  split at h
  · split at h
    · rename_i hn
      exact Option.some.inj h ▸ hn.2
    · cases h
  · cases h

theorem le_of_field?_eq {name : String} {es : Toml.Entries} {o : Option Nat}
    (h : field? wordOf? name es = some o) : ∀ n ∈ o, n ≤ Numeral.maxWord := by
  rintro n rfl
  rw [field?] at h
  split at h
  · exact le_of_wordOf? (by simpa using h)
  · cases h

theorem le_of_pagesOf? {v : Toml.Value} {pages : Option Nat × Option Nat}
    (h : pagesOf? v = some pages) :
    (∀ n ∈ pages.1, n ≤ Numeral.maxWord) ∧ ∀ n ∈ pages.2, n ≤ Numeral.maxWord := by
  unfold pagesOf? at h
  split at h
  · obtain ⟨page, hpage, limit, hlimit, rfl⟩ : ∃ page, field? wordOf? "page" _ = some page ∧
        ∃ limit, field? wordOf? "limit" _ = some limit ∧ (page, limit) = pages := by
      simpa [Option.bind_eq_some_iff] using h
    exact ⟨le_of_field?_eq hpage, le_of_field?_eq hlimit⟩
  · obtain ⟨page, hpage, limit, hlimit, rfl⟩ : ∃ page, wordOf? _ = some page ∧
        ∃ limit, wordOf? _ = some limit ∧ (some page, some limit) = pages := by
      simpa [Option.bind_eq_some_iff] using h
    simpa using And.intro (le_of_wordOf? hpage) (le_of_wordOf? hlimit)
  · obtain rfl : (none, none) = pages := Option.some.inj h
    simp
  · cases h

theorem fits_of_ofEntries? {es : Toml.Entries} {s : Settings} (h : ofEntries? es = some s) :
    s.Fits := by
  obtain ⟨version, -, color, -, pages, hpages, rfl⟩ : ∃ version, field? wordOf? "version" es =
      some version ∧ ∃ color, field? colorOf? "output" es = some color ∧
        ∃ pages, field? pagesOf? "pagination" es = some pages ∧
          ⟨color.getD none, (pages.getD (none, none)).1, (pages.getD (none, none)).2⟩ = s := by
    simpa [ofEntries?, Option.bind_eq_some_iff] using h
  have hle : (∀ n ∈ (pages.getD (none, none)).1, n ≤ Numeral.maxWord) ∧
      ∀ n ∈ (pages.getD (none, none)).2, n ≤ Numeral.maxWord := by
    cases pages with
    | none => simp
    | some pages =>
      rw [field?] at hpages
      split at hpages
      · exact le_of_pagesOf? (by simpa using hpages)
      · cases hpages
  exact ⟨hle.1, hle.2⟩

/-- Settings that are loaded can be written. -/
theorem fits_of_load {d : Disk} {path : String} {s : Settings} (h : load d path = .ok s) :
    s.Fits := by
  rw [load] at h
  cases hcontent : content? d path with
  | error e => simp [hcontent, bind, Except.bind] at h
  | ok content =>
    rw [hcontent] at h
    cases content with
    | none =>
      obtain rfl : {} = s := Except.ok.inj h
      exact ⟨by simp, by simp⟩
    | some content =>
      have hparse : parse content = .ok s := h
      rw [parse] at hparse
      split at hparse
      · rename_i hread
        obtain rfl := Except.ok.inj hparse
        obtain ⟨es, -, hes⟩ := Option.bind_eq_some_iff.mp hread
        exact fits_of_ofEntries? hes
      · cases hparse

end CatalogFilter.Settings
