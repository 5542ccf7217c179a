import CatalogFilter.Proofs.Disk.Changes
import CatalogFilter.Proofs.Number.Numerals
import CatalogFilter.Proofs.Results
import CatalogFilter.Proofs.Settings.RoundTrip

/-!
# Changes of the settings

A key and a value ask for at most one change, and exactly the changes that are asked for are made.
A change that is stored is what the next load finds, and then the settings can be stored again.

* `Settings.Change`, `Settings.apply`: a change of one setting.
* `Settings.Asks`: the keys and values that ask for a change; `Settings.Asks.unique`: they ask for
  one.
* `Settings.assign_eq_ok_iff`: exactly these changes are made.
* `Settings.Writable`: the settings can be stored.
* `Settings.load_put`, `Settings.Writable.put`: what was stored is loaded, and can be stored again.
-/

namespace CatalogFilter.Settings

/-! ### Changes -/

/-- A new value for one of the settings. -/
inductive Change where
  /-- Colours are used or not. -/
  | color (b : Bool)
  /-- The number of the page. -/
  | page (n : Nat)
  /-- The number of items on a page. -/
  | limit (n : Nat)

/-- The settings after a change. The other two stay as they are. -/
def apply (s : Settings) : Change → Settings
  | .color b => { s with color := some b }
  | .page n => { s with page := some n }
  | .limit n => { s with limit := some n }

/-- The text is a word for the truth value, in letters of either case. -/
def WritesBool (value : String) (b : Bool) : Prop :=
  String.ofList (Text.lowercase value.toList) ∈
    if b then ["true", "yes", "1", "on"] else ["false", "no", "0", "off"]

/-- The key and the value ask for the change. -/
inductive Asks (key value : String) : Change → Prop
  | color {b : Bool} : key = "output.color" → WritesBool value b → Asks key value (.color b)
  | page {n : Nat} : key = "pagination.page" → Numeral.WritesCount (Text.trim value.toList) n →
      Asks key value (.page n)
  | limit {n : Nat} : key = "pagination.limit" → Numeral.WritesCount (Text.trim value.toList) n →
      Asks key value (.limit n)

theorem readBool_eq_ok_iff {value : String} {b : Bool} :
    readBool value = .ok b ↔ WritesBool value b := by
  -- No word stands for yes and for no.
  have hdisjoint : ∀ word ∈ yesWords, word ∉ noWords := by decide
  have hwords : WritesBool value b ↔
      String.ofList (Text.lowercase value.toList) ∈ if b then yesWords else noWords := Iff.rfl
  rw [readBool, hwords]
  by_cases hyes : String.ofList (Text.lowercase value.toList) ∈ yesWords
  · have hno := hdisjoint _ hyes
    cases b <;> simp [hyes, hno]
  · by_cases hno : String.ofList (Text.lowercase value.toList) ∈ noWords <;>
      cases b <;> simp [hyes, hno]

theorem readCount_eq_ok_iff (key : String) {value : String} {n : Nat} :
    readCount key value = .ok n ↔ Numeral.WritesCount (Text.trim value.toList) n := by
  rw [← Numeral.readPositive?_eq_some_iff, readCount]
  cases Numeral.readPositive? (Text.trim value.toList) <;> simp

/-- Exactly the changes that are asked for are made. -/
theorem assign_eq_ok_iff {s s' : Settings} {key value : String} :
    s.assign key value = .ok s' ↔ ∃ c, Asks key value c ∧ s.apply c = s' := by
  rw [assign]
  constructor
  · intro h
    split_ifs at h with hcolor hpage hlimit
    · obtain ⟨b, hb, h⟩ := Except.bind_return_eq_ok_iff.mp h
      exact ⟨.color b, .color hcolor (readBool_eq_ok_iff.mp hb), h⟩
    · obtain ⟨n, hn, h⟩ := Except.bind_return_eq_ok_iff.mp h
      exact ⟨.page n, .page hpage ((readCount_eq_ok_iff key).mp hn), h⟩
    · obtain ⟨n, hn, h⟩ := Except.bind_return_eq_ok_iff.mp h
      exact ⟨.limit n, .limit hlimit ((readCount_eq_ok_iff key).mp hn), h⟩
  · rintro ⟨c, hc, h⟩
    cases hc with
    | color hkey hb =>
      rw [if_pos hkey]
      exact Except.bind_return_eq_ok_iff.mpr ⟨_, readBool_eq_ok_iff.mpr hb, h⟩
    | page hkey hn =>
      rw [if_neg (by simp [hkey]), if_pos hkey]
      exact Except.bind_return_eq_ok_iff.mpr ⟨_, (readCount_eq_ok_iff key).mpr hn, h⟩
    | limit hkey hn =>
      rw [if_neg (by simp [hkey]), if_neg (by simp [hkey]), if_pos hkey]
      exact Except.bind_return_eq_ok_iff.mpr ⟨_, (readCount_eq_ok_iff key).mpr hn, h⟩

/-- A key and a value ask for at most one change. -/
theorem Asks.unique {key value : String} {c c' : Change} (h : Asks key value c)
    (h' : Asks key value c') : c = c' := by
  have hassign : ∀ {c : Change}, Asks key value c →
      assign {} key value = .ok (apply {} c) := fun hc => assign_eq_ok_iff.mpr ⟨_, hc, rfl⟩
  have hsame : apply {} c = apply {} c' := Except.ok.inj ((hassign h).symm.trans (hassign h'))
  cases c <;> cases c' <;> simp_all [apply]

theorem fits_apply {s : Settings} (h : s.Fits) {key value : String} {c : Change}
    (hc : Asks key value c) : (s.apply c).Fits := by
  cases hc with
  | color => exact ⟨h.page, h.limit⟩
  | page _ hn => exact ⟨by simpa [apply] using hn.bounds.2, h.limit⟩
  | limit _ hn => exact ⟨h.page, by simpa [apply] using hn.bounds.2⟩

/-! ### Loading what is stored -/

/-- Nothing is changed by the directories that are made. -/
theorem extends_prepare (d : Disk) (path : String) : d.Extends (prepare d path).disk := by
  rw [prepare]
  split
  · exact Disk.extends_makeAll d _
  · exact .refl d

/-- The settings can be stored: their directory can be made, and then their file be written. -/
structure Writable (d : Disk) (path : String) : Prop where
  /-- The directory can be made. -/
  prepared : (prepare d path).fault = none
  /-- The file can be written there. -/
  opens : ∃ p, (prepare d path).disk.Opens path p

namespace Writable

variable {d : Disk} {path : String}

/-- The directory is there once it is made, and nothing is left to be made then. -/
theorem prepare_of_keeps (h : Writable d path) {d' : Disk}
    (hkeeps : (prepare d path).disk.KeepsDirectories d') : prepare d' path = ⟨d', none⟩ := by
  have hprepared := h.prepared
  cases hparent : Disk.parent? path with
  | none => simp only [prepare, hparent]
  | some around =>
    simp only [prepare, hparent, Disk.makeDirectories] at hkeeps hprepared ⊢
    cases hchain : Disk.chain around with
    | nil => rfl
    | cons inner outer =>
      rw [hchain] at hkeeps hprepared
      exact Disk.makeAll_of_isDirectory
        (Disk.isDirectory_of_keeps hkeeps (Disk.isDirectory_of_makeAll hprepared)) outer

/-- The settings can be written again. -/
theorem put (h : Writable d path) {p : Disk.Place} (hp : (prepare d path).disk.Opens path p)
    (bytes : ByteArray) : Writable ((prepare d path).disk.put p (.file bytes)) path := by
  have hprepare := h.prepare_of_keeps (Disk.keepsDirectories_put hp.node (.file bytes))
  exact ⟨by rw [hprepare], p, by rw [hprepare]; exact hp.put bytes⟩

end Writable

theorem store_eq_ok_iff {d d' : Disk} {path : String} {s : Settings} :
    store d path s = .ok d' ↔ ∃ p, d.Opens path p ∧ d' = d.put p (.file s.toToml.toUTF8) := by
  rw [← Disk.write_eq_ok_iff, store]
  cases d.write path s.toToml <;> simp

/-- The settings that are written are loaded. -/
theorem load_put {d : Disk} {path : String} {p : Disk.Place} (hp : d.Opens path p) {s : Settings}
    (hs : s.Fits) : load (d.put p (.file s.toToml.toUTF8)) path = .ok s := by
  have hparse : parse s.toToml = .ok s := by rw [parse, ofToml?_toToml hs]
  rw [load, content?, if_pos (hp.isPresent_put _), hp.readText_put]
  exact hparse

end CatalogFilter.Settings
