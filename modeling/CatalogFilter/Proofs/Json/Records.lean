import CatalogFilter.Json.Record
import CatalogFilter.Proofs.Json.Grammar
import CatalogFilter.Proofs.Results

/-!
# Records read from JSON text

A record is read from the text of an object member by member. The value of a slot is read, and any
other value is passed over; both consume exactly the text of the value. So reading a text gives the
record that is filled with the members of the object one after the other, in the order in which
they are written.

* `Record.SpellsObject`: the text of an object, as far as a record looks at it.
* `Record.NamedOnce`: no slot is named twice.
* `Record.Lawful`: filling a slot does not fill another one.
* `Record.readMember_of_spells`: one member is read.
* `Record.readMembers_of_spells`: all members are read.
* `Record.parse_of_spells`: a record is read from a whole text.
-/

namespace CatalogFilter.Json

/-- A value does not start with a blank. -/
theorem Spells.skipBlanks {v : Json} {cs : List Char} (h : Spells .exact v cs)
    (rest : List Char) : skipBlanks (cs ++ rest) = cs ++ rest := by
  cases h with
  | null => rfl
  | @bool b => cases b <;> rfl
  | number hn =>
    obtain ⟨p, negative, hp, -⟩ := hn
    cases hp with
    | plain hp =>
      obtain ⟨c, ds, rfl, hc⟩ := hp.exists_digit
      exact skipBlanks_cons (isSpace_of_isDigit hc) _
    | minus => rfl
  | string hs =>
    obtain ⟨hs⟩ := hs
    rfl
  | emptyArray => rfl
  | array => rfl
  | emptyObject => rfl
  | object => rfl

namespace Record

variable {δ ρ : Type} {r : Record δ ρ}

/-! ### The text of an object -/

/-- The text of the value behind a name, as far as the record looks at it. -/
inductive SpellsValue (r : Record δ ρ) (k : String) (v : Json) (cs : List Char) : Prop
  | slot {s : Slot δ} : r.slot? k = some s → Spells .exact v cs → SpellsValue r k v cs
  | other : r.slot? k = none → WellFormed cs → SpellsValue r k v cs

/-- The text of a member, with blanks around the name and around the colon. -/
inductive SpellsMember (r : Record δ ρ) : String × Json → List Char → Prop
  | mk {ws ws' ws'' ks cs : List Char} {k : String} {v : Json} : Blank ws → SpellsString k ks →
      Blank ws' → Blank ws'' → r.SpellsValue k v cs →
      SpellsMember r (k, v) (ws ++ (ks ++ (ws' ++ ':' :: (ws'' ++ cs))))

/-- The text of the members of an object, up to the closing brace. -/
inductive SpellsMembers (r : Record δ ρ) : List (String × Json) → List Char → Prop
  | last {cs ws : List Char} {m : String × Json} : r.SpellsMember m cs → Blank ws →
      SpellsMembers r [m] (cs ++ (ws ++ ['}']))
  | more {cs ws ds : List Char} {m : String × Json} {ms : List (String × Json)} :
      r.SpellsMember m cs → Blank ws → SpellsMembers r ms ds →
      SpellsMembers r (m :: ms) (cs ++ (ws ++ ',' :: ds))

/-- The text of an object with the given members, as far as the record looks at it: the values of
its slots are spelled out, and behind other names there may be any JSON value. Blanks may stand
around the object and between all its parts. -/
inductive SpellsObject (r : Record δ ρ) : List (String × Json) → List Char → Prop
  | empty {ws ws' ws'' : List Char} : Blank ws → Blank ws' → Blank ws'' →
      SpellsObject r [] (ws ++ '{' :: (ws' ++ '}' :: ws''))
  | members {ms : List (String × Json)} {ws cs ws' : List Char} : Blank ws →
      r.SpellsMembers ms cs → Blank ws' → SpellsObject r ms (ws ++ '{' :: (cs ++ ws'))

/-- No slot is named twice. -/
def NamedOnce (r : Record δ ρ) (ms : List (String × Json)) : Prop :=
  ∀ s ∈ r.slots, (ms.map Prod.fst).count s.name ≤ 1

/-- Filling a slot fills no other slot. -/
structure Lawful (r : Record δ ρ) : Prop where
  /-- At first no slot is filled. -/
  blank : ∀ s ∈ r.slots, s.isFilled r.blank = false
  /-- Filling a slot leaves those of other names as they are. -/
  fill : ∀ s ∈ r.slots, ∀ t ∈ r.slots, s.name ≠ t.name → ∀ d v d', s.fill d v = .ok d' →
    t.isFilled d' = t.isFilled d

theorem mem_of_slot? {k : String} {s : Slot δ} (h : r.slot? k = some s) :
    s ∈ r.slots ∧ s.name = k := by
  refine ⟨List.mem_of_find?_eq_some h, ?_⟩
  simpa using List.find?_some h

theorem NamedOnce.tail {m : String × Json} {ms : List (String × Json)}
    (h : r.NamedOnce (m :: ms)) : r.NamedOnce ms := by
  intro s hs
  have := h s hs
  rw [List.map_cons, List.count_cons] at this
  omega

theorem NamedOnce.notMem {m : String × Json} {ms : List (String × Json)}
    (h : r.NamedOnce (m :: ms)) {s : Slot δ} (hs : r.slot? m.1 = some s) :
    m.1 ∉ ms.map Prod.fst := by
  obtain ⟨hmem, hname⟩ := mem_of_slot? hs
  have hcount := h s hmem
  rw [hname, List.map_cons, List.count_cons_self] at hcount
  exact List.count_eq_zero.mp (by omega)

/-! ### One member -/

/-- The lists and objects that a value may open in a slot. -/
def slotLevels (levels : Nat) (s : Slot δ) : Nat :=
  if s.scalar then 0 else levels

theorem readScalar_of_spells {v : Json} {cs : List Char} (h : Spells .exact v cs)
    (hdepth : v.depth ≤ 0) {ws : List Char} (hws : Blank ws) {rest : List Char}
    (hrest : EndsNumber rest) : readScalar (ws ++ (cs ++ rest)) = .ok (v, rest) := by
  have hread : readValue 0 (cs ++ rest) = .ok (v, rest) :=
    readValue_of_spells h hdepth blank_nil hrest
  rw [readScalar, skipBlanks_append hws, h.skipBlanks]
  -- A value that opens nothing is none of those that end at their opening mark.
  split
  · rename_i heq
    rw [heq] at hread
    cases hread
  · rename_i heq
    rw [heq] at hread
    cases hread
  · exact hread

theorem readSlot_of_spells {levels : Nat} {s : Slot δ} {d d' : δ} {v : Json} {cs : List Char}
    (h : Spells .exact v cs) (hdepth : v.depth ≤ slotLevels levels s)
    (hfill : s.fill d v = .ok d') {ws : List Char} (hws : Blank ws) {rest : List Char}
    (hrest : EndsNumber rest) : readSlot levels s d (ws ++ (cs ++ rest)) = .ok (d', rest) := by
  rw [slotLevels] at hdepth
  by_cases hs : s.scalar
  · rw [if_pos hs] at hdepth
    simp only [readSlot, if_pos hs, readScalar_of_spells h hdepth hws hrest, hfill, lift, bind,
      Except.bind, pure, Except.pure]
  · rw [if_neg hs] at hdepth
    simp only [readSlot, if_neg hs, readValue_of_spells h hdepth hws hrest, hfill, lift, bind,
      Except.bind, pure, Except.pure]

theorem expectColon_append {ws : List Char} (hws : Blank ws) (cs : List Char) :
    expectColon (ws ++ ':' :: cs) = .ok cs := by
  rw [expectColon, skipBlanks_append_cons hws (by decide)]
  rfl

/-- One member is read: a slot is filled, and any other member is passed over. -/
theorem readMember_of_spells {levels : Nat} {d d' : δ} {m : String × Json} {cs : List Char}
    (h : r.SpellsMember m cs) (hfree : ∀ s ∈ r.slot? m.1, s.isFilled d = false)
    (hdepth : ∀ s ∈ r.slot? m.1, m.2.depth ≤ slotLevels levels s)
    (hadd : r.addMember d m = .ok d') {rest : List Char} (hrest : EndsNumber rest) :
    r.readMember levels d (cs ++ rest) = .ok (d', rest) := by
  obtain ⟨hws, hk, hws', hws'', hvalue⟩ := h
  obtain ⟨hk⟩ := hk
  rename_i ws ws' ws'' vs k v ks
  have htext : ws ++ ('"' :: (ks ++ ['"']) ++ (ws' ++ ':' :: (ws'' ++ vs))) ++ rest =
      ws ++ '"' :: (ks ++ '"' :: (ws' ++ ':' :: (ws'' ++ (vs ++ rest)))) := by simp
  rw [htext, Record.readMember, skipBlanks_append_cons hws (by decide)]
  cases hvalue with
  | @slot s hslot hv =>
    have hfill : s.fill d v = .ok d' := by simpa [addMember, hslot] using hadd
    have hread := readSlot_of_spells hv (hdepth _ hslot) hfill hws'' hrest
    simp only [readString_of_spellsChars hk, hslot, hfree _ hslot, expectColon_append hws', hread,
      bind, Except.bind]
    rfl
  | other hslot hv =>
    have hsame : d = d' := by simpa [addMember, hslot] using hadd
    simp only [readString_of_spellsChars hk, hslot, expectColon_append hws',
      hv.skipValue hws'' hrest, hsame, bind, Except.bind, pure, Except.pure]

/-! ### All members -/

theorem endsNumber_comma {ws : List Char} (hws : Blank ws) (cs : List Char) :
    EndsNumber (ws ++ ',' :: cs) :=
  .append_blank hws (endsNumber_cons (by decide) _)

theorem endsNumber_close {ws : List Char} (hws : Blank ws) (cs : List Char) :
    EndsNumber (ws ++ '}' :: cs) :=
  .append_blank hws (endsNumber_cons (by decide) _)

theorem readMembers_last (fuel : Nat) {levels : Nat} {d d' : δ} {cs ws rest : List Char}
    (h : r.readMember levels d cs = .ok (d', ws ++ '}' :: rest)) (hws : Blank ws) :
    r.readMembers levels (fuel + 1) d cs = .ok (d', rest) := by
  simp only [readMembers, h, bind, Except.bind, skipBlanks_append_cons hws (c := '}') (by decide)]

theorem readMembers_more (fuel : Nat) {levels : Nat} {d d' : δ} {cs ws rest : List Char}
    (h : r.readMember levels d cs = .ok (d', ws ++ ',' :: rest)) (hws : Blank ws) :
    r.readMembers levels (fuel + 1) d cs = r.readMembers levels fuel d' rest := by
  simp only [readMembers, h, bind, Except.bind, skipBlanks_append_cons hws (c := ',') (by decide)]

/-- After a member the slots of the members behind it are as they were. -/
theorem Lawful.isFilled_addMember (hr : r.Lawful) {d d' : δ} {m : String × Json}
    {ms : List (String × Json)} (honce : r.NamedOnce (m :: ms)) (hadd : r.addMember d m = .ok d')
    {n : String × Json} (hn : n ∈ ms) {t : Slot δ} (ht : r.slot? n.1 = some t) :
    t.isFilled d' = t.isFilled d := by
  obtain ⟨htmem, htname⟩ := mem_of_slot? ht
  cases hslot : r.slot? m.1 with
  | none =>
    have hsame : d = d' := by simpa [addMember, hslot] using hadd
    rw [hsame]
  | some s =>
    obtain ⟨hsmem, hsname⟩ := mem_of_slot? hslot
    have hfill : s.fill d m.2 = .ok d' := by simpa [addMember, hslot] using hadd
    have hne : s.name ≠ t.name := by
      intro heq
      refine honce.notMem hslot (List.mem_map.mpr ⟨n, hn, ?_⟩)
      rw [← htname, ← heq, hsname]
    exact hr.fill s hsmem t htmem hne d m.2 d' hfill

/-- All members of an object are read, one after the other. -/
theorem readMembers_of_spells (hr : r.Lawful) {levels : Nat} {ms : List (String × Json)}
    {cs : List Char} (h : r.SpellsMembers ms cs) (honce : r.NamedOnce ms)
    (hdepth : ∀ m ∈ ms, ∀ s ∈ r.slot? m.1, m.2.depth ≤ slotLevels levels s) {fuel : Nat}
    (hfuel : ms.length ≤ fuel) {d d' : δ}
    (hfree : ∀ m ∈ ms, ∀ s ∈ r.slot? m.1, s.isFilled d = false)
    (hadd : ms.foldlM r.addMember d = .ok d') (rest : List Char) :
    r.readMembers levels fuel d (cs ++ rest) = .ok (d', rest) := by
  induction h generalizing fuel d with
  | @last cs ws m hm hws =>
    obtain ⟨fuel, rfl⟩ := Nat.exists_eq_add_of_lt hfuel
    have hmember := readMember_of_spells hm (hfree m (by simp)) (hdepth m (by simp))
      (by simpa using hadd) (endsNumber_close hws rest)
    simpa using readMembers_last _ hmember hws
  | @more cs ws ds m ms hm hws hms ih =>
    obtain ⟨fuel, rfl⟩ := Nat.exists_eq_add_of_lt hfuel
    rw [List.foldlM_cons] at hadd
    -- The slots of the later members are still empty once this one is read.
    cases hstep : r.addMember d m with
    | error e => simp [hstep, bind, Except.bind] at hadd
    | ok d₁ =>
      rw [hstep] at hadd
      have hmember := readMember_of_spells hm (hfree m (by simp)) (hdepth m (by simp)) hstep
        (endsNumber_comma hws (ds ++ rest))
      have hfree₁ : ∀ n ∈ ms, ∀ s ∈ r.slot? n.1, s.isFilled d₁ = false := by
        intro n hn s hs
        rw [hr.isFilled_addMember honce hstep hn hs]
        exact hfree n (by simp [hn]) s hs
      have hmembers := ih honce.tail (fun n hn => hdepth n (by simp [hn]))
        (Nat.le_add_right ms.length fuel) hfree₁ hadd
      have hread := readMembers_more (ms.length + fuel) hmember hws
      rw [hmembers] at hread
      simpa using hread

/-- The members of an object are put into a record one after the other; `state` is the record by
the members it holds, the last one first. -/
theorem foldlM_addMember (state : List (String × Json) → δ) {ms : List (String × Json)}
    (h : ∀ done, ∀ m ∈ ms, r.addMember (state done) m = .ok (state (m :: done)))
    (done : List (String × Json)) :
    ms.foldlM r.addMember (state done) = .ok (state (ms.reverse ++ done)) := by
  induction ms generalizing done with
  | nil => rfl
  | cons m ms ih =>
    rw [List.foldlM_cons, h done m List.mem_cons_self]
    have hrest := ih (fun done n hn => h done n (List.mem_cons_of_mem m hn)) (m :: done)
    simpa [bind, Except.bind] using hrest

/-! ### Whole texts -/

theorem SpellsMember.exists_name {m : String × Json} {cs : List Char} (h : r.SpellsMember m cs) :
    ∃ ws ds, Blank ws ∧ cs = ws ++ '"' :: ds := by
  obtain ⟨hws, hk, -, -, -⟩ := h
  obtain ⟨hk⟩ := hk
  exact ⟨_, _, hws, rfl⟩

/-- Members start with the quote of a name, and each of them takes a place in the text. -/
theorem SpellsMembers.exists_name {ms : List (String × Json)} {cs : List Char}
    (h : r.SpellsMembers ms cs) :
    ∃ ws ds, Blank ws ∧ cs = ws ++ '"' :: ds ∧ ms.length ≤ ds.length := by
  induction h with
  | last hm =>
    obtain ⟨ws, ds, hws, rfl⟩ := hm.exists_name
    exact ⟨ws, _, hws, List.append_assoc .., by simp; omega⟩
  | more hm _ _ ih =>
    obtain ⟨ws, ds, hws, rfl⟩ := hm.exists_name
    obtain ⟨ws', ds', -, rfl, hlen⟩ := ih
    exact ⟨ws, _, hws, List.append_assoc .., by simp; omega⟩

theorem readMembers_skipBlanks (levels fuel : Nat) (d : δ) (cs : List Char) :
    r.readMembers levels fuel d (skipBlanks cs) = r.readMembers levels fuel d cs := by
  cases fuel with
  | zero => rfl
  | succ fuel => simp only [readMembers, Record.readMember, skipBlanks_skipBlanks]

/-- An object is read behind its opening brace. -/
theorem readObject_of_spells (hr : r.Lawful) {levels : Nat} {ms : List (String × Json)}
    {cs : List Char} (h : r.SpellsMembers ms cs) (honce : r.NamedOnce ms)
    (hdepth : ∀ m ∈ ms, ∀ s ∈ r.slot? m.1, m.2.depth ≤ slotLevels levels s) {d : δ} {x : ρ}
    (hadd : ms.foldlM r.addMember r.blank = .ok d) (hx : r.finish r.missingMember d = .ok x)
    (rest : List Char) : r.readObject levels (cs ++ rest) = .ok (x, rest) := by
  obtain ⟨ws, ds, hws, hcs, hlen⟩ := h.exists_name
  have hskip : skipBlanks (cs ++ rest) = '"' :: (ds ++ rest) := by
    rw [hcs, List.append_assoc]
    exact skipBlanks_append_cons hws (by decide) _
  have hfree : ∀ m ∈ ms, ∀ s ∈ r.slot? m.1, s.isFilled r.blank = false :=
    fun m _ s hs => hr.blank s (mem_of_slot? hs).1
  have hfuel : ms.length ≤ ('"' :: (ds ++ rest)).length := by
    simp only [List.length_cons, List.length_append]
    omega
  have hmembers := readMembers_of_spells hr h honce hdepth hfuel hfree hadd rest
  rw [← readMembers_skipBlanks, hskip] at hmembers
  have hopen : r.readObject levels (cs ++ rest) =
      (r.readMembers levels ('"' :: (ds ++ rest)).length r.blank ('"' :: (ds ++ rest))).bind
        fun p => (lift (r.finish r.missingMember p.1)).bind fun x => .ok (x, p.2) := by
    rw [readObject, hskip]
    rfl
  rw [hopen, hmembers]
  simp only [Except.bind, hx, lift]

/-- **A record is read.** Every text of an object is read as the record that its members fill, as
long as no slot is named twice and the values of the slots are nested within the limit. -/
theorem parse_of_spells (hr : r.Lawful) {ms : List (String × Json)} {text : String}
    (h : r.SpellsObject ms text.toList) (honce : r.NamedOnce ms)
    (hdepth : ∀ m ∈ ms, ∀ s ∈ r.slot? m.1, m.2.depth ≤ slotLevels (maxLevels - 1) s) {d : δ} {x : ρ}
    (hadd : ms.foldlM r.addMember r.blank = .ok d) (hx : r.finish r.missingMember d = .ok x) :
    r.parse text = .ok x := by
  have hread : ∃ ws, Blank ws ∧ r.read (maxLevels - 1) text.toList = .ok (x, ws) := by
    generalize text.toList = cs at h
    cases h with
    | @empty ws ws' ws'' hws hws' hws'' =>
      obtain rfl : r.blank = d := by simpa [pure, Except.pure] using hadd
      refine ⟨ws'', hws'', ?_⟩
      rw [Record.read, skipBlanks_append_cons hws (by decide)]
      simp only [readObject, skipBlanks_append_cons hws' (c := '}') (by decide), hx, lift, bind,
        Except.bind, pure, Except.pure]
    | @members ms ws cs ws' hws hms hws' =>
      refine ⟨ws', hws', ?_⟩
      rw [Record.read, skipBlanks_append_cons hws (by decide)]
      exact readObject_of_spells hr hms honce hdepth hadd hx ws'
  obtain ⟨ws, hws, hread⟩ := hread
  simp only [Record.parse, hread, expectEnd_blank hws, bind, Except.bind, pure, Except.pure]

/-! ### Objects of known members -/

theorem floatValue_ne_object (negative : Bool) (p : NumberParts) (ms : List (String × Json)) :
    floatValue negative p ≠ .ok (.object ms) := by
  intro h
  simp only [floatValue] at h
  split at h <;> cases h

theorem numberValue_ne_object (negative : Bool) (p : NumberParts) (ms : List (String × Json)) :
    numberValue negative p ≠ .ok (.object ms) := by
  have hfloat := floatValue_ne_object negative p ms
  intro h
  simp only [numberValue] at h
  split at h
  · split_ifs at h
    · cases h
    · exact hfloat h
    · cases h
    · exact hfloat h
  · exact hfloat h

/-- The text of an object is one for every record that has a slot for each member. -/
theorem SpellsMembers.of_exact : {ms : List (String × Json)} → {cs : List Char} →
    Json.SpellsMembers .exact ms cs → (∀ m ∈ ms, (r.slot? m.1).isSome) → r.SpellsMembers ms cs
  | _, _, .member (k := k) (v := v) hws hk hws' hws'' hv hms, hknown => by
    obtain ⟨s, hs⟩ := Option.isSome_iff_exists.mp (hknown (k, v) List.mem_cons_self)
    have hm := SpellsMember.mk hws hk hws' hws'' (.slot hs hv)
    cases hms with
    | close hend => simpa using SpellsMembers.last hm hend
    | comma hend hms =>
      have hmore := SpellsMembers.of_exact hms fun m hm => hknown m (List.mem_cons_of_mem _ hm)
      simpa using SpellsMembers.more hm hend hmore

theorem SpellsObject.of_exact {ms : List (String × Json)} {text : String}
    (h : SpellsText (.object ms) text) (hknown : ∀ m ∈ ms, (r.slot? m.1).isSome) :
    r.SpellsObject ms text.toList := by
  obtain ⟨ws, cs, ws', htext, hws, hv, hws'⟩ := h
  rw [htext]
  cases hv with
  | number hn =>
    obtain ⟨p, negative, -, hvalue⟩ := hn
    exact absurd hvalue (numberValue_ne_object negative p ms)
  | emptyObject h => simpa using SpellsObject.empty hws h hws'
  | object h => exact .members hws (.of_exact h hknown) hws'

end Record

end CatalogFilter.Json
