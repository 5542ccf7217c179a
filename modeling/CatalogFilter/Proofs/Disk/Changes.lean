import CatalogFilter.Disk.Basic

/-!
# Changes of a disk

A path leads to its place through directories only, so it leads to the same place on every disk that
has kept them. Making directories keeps everything that is there and every file. Writing a file
keeps everything except what stands in its place, and the text that is written is read back.

* `Disk.file?`: the bytes of a file.
* `Disk.KeepsDirectories`, `Disk.Extends`: what a change leaves alone.
* `Disk.locate_of_keeps`: paths lead to the same places.
* `Disk.extends_makeAll`, `Disk.isDirectory_of_makeAll`: making directories.
* `Disk.Opens`, `Disk.write_eq_ok_iff`, `Disk.Opens.readText_put`: writing a file.
-/

namespace CatalogFilter

/-- The bytes of a text are read as the text. -/
theorem Disk.decodeText_toUTF8 (text : String) : Disk.decodeText text.toUTF8 = .ok text := by
  have hvalid : text.toUTF8.IsValidUTF8 := text.isValidUTF8
  rw [Disk.decodeText, String.fromUTF8?, dif_pos hvalid]
  rfl

namespace Disk

/-- The bytes of the file in a place, if there is one. -/
def file? (d : Disk) (p : Place) : Option ByteArray :=
  match d.node? p with
  | some (.file bytes) => some bytes
  | _ => none

theorem file?_eq_some_iff {d : Disk} {p : Place} {bytes : ByteArray} :
    d.file? p = some bytes ↔ d.node? p = some (.file bytes) := by
  rw [file?]
  split <;> simp_all

/-! ### One place -/

theorem node?_put_of_ne {p q : Place} (h : q ≠ p) (d : Disk) (n : Node) :
    (d.put p n).node? q = d.node? q := by
  cases q with
  | nil => rfl
  | cons => exact if_neg h

theorem file?_put_of_ne {p q : Place} (h : q ≠ p) (d : Disk) (n : Node) :
    (d.put p n).file? q = d.file? q := by
  rw [file?, node?_put_of_ne h, file?]

theorem ne_nil_of_node? {d : Disk} {p : Place} (h : d.node? p ≠ some .directory) : p ≠ [] := by
  rintro rfl
  exact h rfl

theorem node?_put_self {p : Place} (h : p ≠ []) (d : Disk) (n : Node) :
    (d.put p n).node? p = some n := by
  cases p with
  | nil => exact absurd rfl h
  | cons => exact if_pos rfl

/-! ### What a change leaves alone -/

/-- The second disk has every directory of the first, and paths start in the same place. -/
structure KeepsDirectories (d d' : Disk) : Prop where
  /-- Paths start in the same place. -/
  here : d'.here = d.here
  /-- Directories stay. -/
  directory : ∀ p, d.node? p = some .directory → d'.node? p = some .directory

/-- The second disk has what the first has, and it has no other files. -/
structure Extends (d d' : Disk) : Prop where
  /-- Paths start in the same place. -/
  here : d'.here = d.here
  /-- Everything stays. -/
  node : ∀ p n, d.node? p = some n → d'.node? p = some n
  /-- No file is added. -/
  file : ∀ p bytes, d'.node? p = some (.file bytes) → d.node? p = some (.file bytes)

namespace Extends

variable {d d' d'' : Disk}

theorem refl (d : Disk) : d.Extends d :=
  ⟨rfl, fun _ _ h => h, fun _ _ h => h⟩

theorem trans (h : d.Extends d') (h' : d'.Extends d'') : d.Extends d'' :=
  ⟨h'.here.trans h.here, fun p n hn => h'.node p n (h.node p n hn),
    fun p bytes hf => h.file p bytes (h'.file p bytes hf)⟩

theorem file?_eq (h : d.Extends d') (p : Place) : d'.file? p = d.file? p := by
  ext bytes
  rw [file?_eq_some_iff, file?_eq_some_iff]
  exact ⟨h.file p bytes, h.node p _⟩

end Extends

/-- A directory is put where nothing stands. -/
theorem extends_put_directory {d : Disk} {p : Place} (h : d.node? p = none) :
    d.Extends (d.put p .directory) := by
  have hp : p ≠ [] := by
    rintro rfl
    cases h
  refine ⟨rfl, fun q n hq => ?_, fun q bytes hq => ?_⟩
  · have hne : q ≠ p := by
      rintro rfl
      simp [h] at hq
    rw [node?_put_of_ne hne, hq]
  · have hne : q ≠ p := by
      rintro rfl
      simp [node?_put_self hp] at hq
    rwa [node?_put_of_ne hne] at hq

/-- Something is put where no directory stands. -/
theorem keepsDirectories_put {d : Disk} {p : Place} (h : d.node? p ≠ some .directory) (n : Node) :
    d.KeepsDirectories (d.put p n) := by
  refine ⟨rfl, fun q hq => ?_⟩
  have hne : q ≠ p := by
    rintro rfl
    exact h hq
  rw [node?_put_of_ne hne, hq]

/-! ### Paths -/

theorem walk_of_keeps {d d' : Disk} (h : d.KeepsDirectories d') {p q : Place} {names : List String}
    (hwalk : d.walk p names = .ok q) : d'.walk p names = .ok q := by
  induction names generalizing p with
  | nil => exact hwalk
  | cons name names ih =>
    rw [walk] at hwalk ⊢
    split at hwalk
    · rename_i hp
      rw [h.directory p hp]
      simp only
      split at hwalk
      · cases hwalk
      · rename_i hsize
        rw [if_neg hsize]
        exact ih hwalk
    · cases hwalk
    · cases hwalk

/-- A path leads to the same place on a disk that has kept the directories. -/
theorem locate_of_keeps {d d' : Disk} (h : d.KeepsDirectories d') {path : Path} {p : Place}
    (hp : d.locate path = .ok p) : d'.locate path = .ok p := by
  rw [locate] at hp ⊢
  split at hp
  · cases hp
  · rename_i hsize
    rw [if_neg hsize]
    split at hp
    · cases hp
    · rename_i hnames
      rw [if_neg hnames, h.here]
      exact walk_of_keeps h hp

theorem isDirectory_iff {d : Disk} {path : String} :
    d.isDirectory path ↔ ∃ p, d.locate (.ofString path) = .ok p ∧ d.node? p = some .directory := by
  rw [isDirectory, find]
  cases hp : d.locate (.ofString path) with
  | error e => simp [bind, Except.bind]
  | ok p =>
    simp only [bind, Except.bind, Except.ok.injEq, exists_eq_left']
    cases hn : d.node? p with
    | none => simp
    | some n =>
      cases n with
      | directory => simp [pure, Except.pure]
      | file bytes => cases (Path.ofString path).slash <;> simp [pure, Except.pure]

theorem isDirectory_of_keeps {d d' : Disk} (h : d.KeepsDirectories d') {path : String}
    (hpath : d.isDirectory path) : d'.isDirectory path := by
  rw [isDirectory_iff] at hpath ⊢
  obtain ⟨p, hp, hn⟩ := hpath
  exact ⟨p, locate_of_keeps h hp, h.directory p hn⟩

/-! ### Making directories -/

theorem makeDirectory_eq_ok {d d' : Disk} {path : String} (h : d.makeDirectory path = .ok d') :
    ∃ p, d.locate (.ofString path) = .ok p ∧ d.node? p = none ∧ d' = d.put p .directory := by
  rw [makeDirectory] at h
  cases hp : d.locate (.ofString path) with
  | error e => simp [hp, bind, Except.bind] at h
  | ok p =>
    rw [hp] at h
    cases hn : d.node? p with
    | none =>
      simp only [bind, Except.bind, hn] at h
      exact ⟨p, rfl, hn, (Except.ok.inj h).symm⟩
    | some n => simp [bind, Except.bind, hn] at h

/-- A directory that is wanted is there already, or it is made where nothing stood. -/
theorem ensureDirectory_eq_ok {d d' : Disk} {path : String} (h : d.ensureDirectory path = .ok d') :
    d' = d ∧ d.isDirectory path ∨ d.makeDirectory path = .ok d' := by
  rw [ensureDirectory] at h
  split at h
  · split at h
    · rename_i hdir
      exact .inl ⟨(Except.ok.inj h).symm, hdir⟩
    · cases h
  · exact .inr h

theorem extends_of_ensureDirectory {d d' : Disk} {path : String}
    (h : d.ensureDirectory path = .ok d') : d.Extends d' := by
  obtain ⟨rfl, -⟩ | h := ensureDirectory_eq_ok h
  · exact .refl _
  · obtain ⟨p, -, hn, rfl⟩ := makeDirectory_eq_ok h
    exact extends_put_directory hn

theorem isDirectory_of_ensureDirectory {d d' : Disk} {path : String}
    (h : d.ensureDirectory path = .ok d') : d'.isDirectory path := by
  obtain ⟨rfl, hdir⟩ | h := ensureDirectory_eq_ok h
  · exact hdir
  · obtain ⟨p, hp, hn, rfl⟩ := makeDirectory_eq_ok h
    have hne : d.node? p ≠ some .directory := by simp [hn]
    rw [isDirectory_iff]
    exact ⟨p, locate_of_keeps (keepsDirectories_put hne _) hp,
      node?_put_self (ne_nil_of_node? hne) d _⟩

theorem ensureDirectory_of_isDirectory {d : Disk} {path : String} (h : d.isDirectory path) :
    d.ensureDirectory path = .ok d := by
  obtain ⟨p, hp, hn⟩ := isDirectory_iff.mp h
  have hmake : d.makeDirectory path = .error .alreadyThere := by
    simp [makeDirectory, hp, hn, bind, Except.bind]
  rw [ensureDirectory, hmake]
  exact if_pos h

/-- Making directories keeps what is there, whether it succeeds or not. -/
theorem extends_makeAll (d : Disk) (paths : List String) : d.Extends (d.makeAll paths).disk := by
  induction paths with
  | nil => exact .refl d
  | cons path paths ih =>
    rw [makeAll]
    split
    · dsimp only
      split
      · cases h : (d.makeAll paths).disk.ensureDirectory path with
        | ok d' => exact ih.trans (extends_of_ensureDirectory h)
        | error e => exact ih
      · exact ih
    · cases h : d.ensureDirectory path with
      | ok d' => exact extends_of_ensureDirectory h
      | error e => exact .refl d

/-- Directories that could be made are there. -/
theorem isDirectory_of_makeAll {d : Disk} {path : String} {paths : List String}
    (h : (d.makeAll (path :: paths)).fault = none) :
    (d.makeAll (path :: paths)).disk.isDirectory path := by
  rw [makeAll] at h ⊢
  split at h
  · dsimp only at h ⊢
    split at h
    · cases hdir : (d.makeAll paths).disk.ensureDirectory path with
      | ok d' => exact isDirectory_of_ensureDirectory hdir
      | error e => rw [hdir] at h; cases h
    · rename_i hfault
      rw [hfault] at h
      cases h
  · cases hdir : d.ensureDirectory path with
    | ok d' => exact isDirectory_of_ensureDirectory hdir
    | error e => rw [hdir] at h; cases h

/-- A directory that is there is not made again. -/
theorem makeAll_of_isDirectory {d : Disk} {path : String} (h : d.isDirectory path)
    (paths : List String) : d.makeAll (path :: paths) = ⟨d, none⟩ := by
  rw [makeAll, ensureDirectory_of_isDirectory h]
  rfl

/-! ### Writing files -/

/-- The path leads to a place where a file can be written. -/
structure Opens (d : Disk) (path : String) (p : Place) : Prop where
  /-- The path is not that of a directory. -/
  slash : (Path.ofString path).slash = false
  /-- The directories on the way are there. -/
  locate : d.locate (.ofString path) = .ok p
  /-- No directory stands in the place. -/
  node : d.node? p ≠ some .directory

theorem write_eq_ok_iff {d d' : Disk} {path content : String} :
    d.write path content = .ok d' ↔
      ∃ p, d.Opens path p ∧ d' = d.put p (.file content.toUTF8) := by
  rw [write]
  constructor
  · intro h
    split at h
    · simp only [bind, Except.bind] at h
      split at h <;> cases h
    · rename_i hslash
      cases hp : d.locate (.ofString path) with
      | error e => simp [hp, bind, Except.bind] at h
      | ok p =>
        simp only [hp, bind, Except.bind] at h
        split at h
        · cases h
        · rename_i hn
          exact ⟨p, ⟨by simpa using hslash, hp, hn⟩, (Except.ok.inj h).symm⟩
  · rintro ⟨p, hp, rfl⟩
    simp only [hp.slash, hp.locate, bind, Except.bind, Bool.false_eq_true, if_false]
    split
    · exact absurd ‹_› hp.node
    · rfl

namespace Opens

variable {d : Disk} {path : String} {p : Place}

theorem put (h : d.Opens path p) (bytes : ByteArray) : (d.put p (.file bytes)).Opens path p := by
  refine ⟨h.slash, locate_of_keeps (keepsDirectories_put h.node _) h.locate, ?_⟩
  rw [node?_put_self (ne_nil_of_node? h.node)]
  simp

theorem find_put (h : d.Opens path p) (bytes : ByteArray) :
    (d.put p (.file bytes)).find (.ofString path) = .ok (.file bytes) := by
  rw [find, (h.put bytes).locate]
  simp [node?_put_self (ne_nil_of_node? h.node), h.slash, bind, Except.bind, pure, Except.pure]

theorem isPresent_put (h : d.Opens path p) (bytes : ByteArray) :
    (d.put p (.file bytes)).isPresent path := by
  rw [isPresent, h.find_put]
  rfl

/-- A text that is written is read back. -/
theorem readText_put (h : d.Opens path p) (content : String) :
    (d.put p (.file content.toUTF8)).readText path = .ok content := by
  rw [readText, readBytes, h.find_put]
  exact decodeText_toUTF8 content

end Opens

end Disk

end CatalogFilter
