import CatalogFilter.Proofs.Json.Records
import CatalogFilter.Proofs.Json.RoundTrip
import CatalogFilter.Request
import Mathlib.Data.List.Nodup

/-!
# The JSON text of a request

A request is read from the text of an object by its three members for the rules, the page and the
limit. All other members are passed over, the three may come in any order and may be absent, and
rules that are no text are refused when the request is answered and not before.

* `Request.Draft.ofMembers`: a request while it is read.
* `Request.ofJsonText_of_spells`: a request is read from the text of an object.
* `Request.Describes`: the members of an object describe a request.
* `Request.exists_ofJsonText_evaluate`: only the three known members count.
* `Request.ofJsonText_half_pair`: what stands for no text is refused where a text is read.
-/

namespace CatalogFilter.Request

open Json (maxLevels)

/-! ### Members by name -/

/-- With at most one member of a name, the member that is found is the one there is. -/
theorem lookup_eq_some_iff_mem {ms : List (String × Json)} {k : String}
    (hk : (ms.map Prod.fst).count k ≤ 1) {v : Json} : ms.lookup k = some v ↔ (k, v) ∈ ms := by
  rw [List.lookup_eq_some_iff]
  constructor
  · rintro ⟨before, behind, rfl, -⟩
    simp
  · intro hmem
    obtain ⟨before, behind, rfl⟩ := List.append_of_mem hmem
    refine ⟨before, behind, rfl, ?_⟩
    intro m hm
    rw [List.map_append, List.map_cons, List.count_append, List.count_cons_self] at hk
    have hnone : k ∉ before.map Prod.fst := List.count_eq_zero.mp (by omega)
    simp only [bne_iff_ne]
    rintro rfl
    exact hnone (List.mem_map_of_mem hm)

theorem lookup_reverse {ms : List (String × Json)} {k : String}
    (hk : (ms.map Prod.fst).count k ≤ 1) : ms.reverse.lookup k = ms.lookup k := by
  have hk' : (ms.reverse.map Prod.fst).count k ≤ 1 := by simpa using hk
  ext v
  rw [lookup_eq_some_iff_mem hk, lookup_eq_some_iff_mem hk', List.mem_reverse]

/-! ### Reading the members -/

/-- The number that a value holds. -/
def word? (v : Json) : Option Nat :=
  (wordOfJson v).toOption

/-- What is known of a request once the given members are read, the last one first. -/
def Draft.ofMembers (ms : List (String × Json)) : Draft where
  rules := (ms.lookup "rules").map presentJson
  page := (ms.lookup "page").bind word?
  limit := (ms.lookup "limit").bind word?

/-- A number of 32 bits stands where the name of the member asks for one. -/
def Readable (m : String × Json) : Prop :=
  m.1 = "page" ∨ m.1 = "limit" → ∃ n, wordOfJson m.2 = .ok n

/-- A part of a request is filled without regard to the others. -/
theorem lawful_record : record.Lawful where
  blank s hs := by
    simp only [record, slots, List.mem_cons, List.not_mem_nil, or_false] at hs
    rcases hs with rfl | rfl | rfl <;> rfl
  fill s hs t ht hne d v d' h := by
    simp only [record, slots, List.mem_cons, List.not_mem_nil, or_false] at hs ht
    rcases hs with rfl | rfl | rfl
    · cases h
      rcases ht with rfl | rfl | rfl <;> first | rfl | exact absurd rfl hne
    all_goals
      obtain ⟨_, -, rfl⟩ := Except.bind_return_eq_ok_iff.mp h
      rcases ht with rfl | rfl | rfl <;> first | rfl | exact absurd rfl hne

theorem slot?_eq_none {k : String} (hrules : k ≠ "rules") (hpage : k ≠ "page")
    (hlimit : k ≠ "limit") : record.slot? k = none := by
  simp [Json.Record.slot?, record, slots, hrules.symm, hpage.symm, hlimit.symm]

/-- One member of a request is read. -/
theorem addMember_ofMembers (done : List (String × Json)) {m : String × Json} (hm : Readable m) :
    record.addMember (.ofMembers done) m = .ok (.ofMembers (m :: done)) := by
  obtain ⟨k, v⟩ := m
  by_cases hrules : k = "rules"
  · subst hrules
    rfl
  by_cases hpage : k = "page"
  · subst hpage
    obtain ⟨n, hn⟩ := hm (.inl rfl)
    simp [Json.Record.addMember, Json.Record.slot?, record, slots, Draft.ofMembers, word?, hn,
      List.lookup_cons, Except.toOption, Functor.map, Except.map]
  by_cases hlimit : k = "limit"
  · subst hlimit
    obtain ⟨n, hn⟩ := hm (.inr rfl)
    simp [Json.Record.addMember, Json.Record.slot?, record, slots, Draft.ofMembers, word?, hn,
      List.lookup_cons, Except.toOption, Functor.map, Except.map]
  rw [Json.Record.addMember, slot?_eq_none hrules hpage hlimit]
  simp [Draft.ofMembers, List.lookup_cons, beq_false_of_ne (Ne.symm hrules),
    beq_false_of_ne (Ne.symm hpage), beq_false_of_ne (Ne.symm hlimit)]

theorem ofMembers_reverse {ms : List (String × Json)} (honce : record.NamedOnce ms) :
    Draft.ofMembers ms.reverse = .ofMembers ms := by
  simp only [Json.Record.NamedOnce, record, slots, List.forall_mem_cons] at honce
  obtain ⟨hrules, hpage, hlimit, -⟩ := honce
  simp only [Draft.ofMembers, lookup_reverse hrules, lookup_reverse hpage, lookup_reverse hlimit]

theorem depth_of_wordOfJson {v : Json} {n : Nat} (h : wordOfJson v = .ok n) : v.depth = 0 := by
  cases v with
  | array => cases h
  | object => cases h
  | _ => rfl

/-- A request is read from every text of an object with its members. -/
theorem ofJsonText_of_spells {ms : List (String × Json)} {text : String}
    (htext : record.SpellsObject ms text.toList) (honce : record.NamedOnce ms)
    (hms : ∀ m ∈ ms, Readable m) (hdepth : ∀ v, ("rules", v) ∈ ms → v.depth < maxLevels) :
    ofJsonText text = .ok (ofDraft (.ofMembers ms)) := by
  have hfold := Json.Record.foldlM_addMember Draft.ofMembers
    (fun done m hm => addMember_ofMembers done (hms m hm)) []
  rw [List.append_nil, ofMembers_reverse honce] at hfold
  refine Json.Record.parse_of_spells lawful_record htext honce ?_ hfold rfl
  rintro ⟨k, v⟩ hm s hslot
  obtain ⟨hs, rfl⟩ := Json.Record.mem_of_slot? hslot
  simp only [record, slots, List.mem_cons, List.not_mem_nil, or_false] at hs
  clear hslot
  rcases hs with rfl | rfl | rfl
  · exact Nat.le_sub_one_of_lt (hdepth v hm)
  · obtain ⟨n, hn⟩ := hms _ hm (.inl rfl)
    exact (depth_of_wordOfJson hn).le
  · obtain ⟨n, hn⟩ := hms _ hm (.inr rfl)
    exact (depth_of_wordOfJson hn).le

/-! ### Members that describe a request -/

/-- The members of an object describe a request with the given parts, each of which may be absent.
They may have other names too. -/
structure Describes (ms : List (String × Json)) (rules : Option Json) (page limit : Option Nat) :
    Prop where
  /-- No part is named twice. -/
  once : ∀ name ∈ ["rules", "page", "limit"], (ms.map Prod.fst).count name ≤ 1
  /-- The rules are any value. -/
  lookup_rules : ms.lookup "rules" = rules
  /-- The object and its rules are nested within the limit of the reader. -/
  depth_lt : ∀ v ∈ rules, v.depth < maxLevels
  /-- The page is a whole number. -/
  lookup_page : ms.lookup "page" = page.map fun (n : Nat) => .integer n
  /-- The page is a number of 32 bits. -/
  page_lt : ∀ n ∈ page, n < 2 ^ 32
  /-- The limit is a whole number. -/
  lookup_limit : ms.lookup "limit" = limit.map fun (n : Nat) => .integer n
  /-- The limit is a number of 32 bits. -/
  limit_lt : ∀ n ∈ limit, n < 2 ^ 32

theorem wordOfJson_integer {n : Nat} (hn : n < 2 ^ 32) : wordOfJson (.integer n) = .ok n := by
  simp [wordOfJson, Numeral.maxWord]
  omega

theorem bind_word? {word : Option Nat} (h : ∀ n ∈ word, n < 2 ^ 32) :
    (word.map fun (n : Nat) => Json.integer n).bind word? = word := by
  cases word with
  | none => rfl
  | some n => simp [word?, wordOfJson_integer (h n rfl), Except.toOption]

namespace Describes

variable {ms : List (String × Json)} {rules : Option Json} {page limit : Option Nat}

theorem namedOnce (h : Describes ms rules page limit) : record.NamedOnce ms := by
  simpa [Json.Record.NamedOnce, record, slots] using h.once

theorem lookup_of_mem (h : Describes ms rules page limit) {k : String} {v : Json}
    (hk : k ∈ ["rules", "page", "limit"]) (hmem : (k, v) ∈ ms) : ms.lookup k = some v :=
  (lookup_eq_some_iff_mem (h.once k hk)).mpr hmem

theorem readable (h : Describes ms rules page limit) {m : String × Json} (hm : m ∈ ms) :
    Readable m := by
  obtain ⟨k, v⟩ := m
  rintro (rfl | rfl)
  · have hv := h.lookup_of_mem (by simp) hm
    rw [h.lookup_page, Option.map_eq_some_iff] at hv
    obtain ⟨n, hn, rfl⟩ := hv
    exact ⟨n, wordOfJson_integer (h.page_lt n hn)⟩
  · have hv := h.lookup_of_mem (by simp) hm
    rw [h.lookup_limit, Option.map_eq_some_iff] at hv
    obtain ⟨n, hn, rfl⟩ := hv
    exact ⟨n, wordOfJson_integer (h.limit_lt n hn)⟩

theorem ofDraft_ofMembers (h : Describes ms rules page limit) :
    ofDraft (.ofMembers ms) = ⟨rules.bind presentJson, page.getD 1, limit.getD 50⟩ := by
  have hdraft : Draft.ofMembers ms = ⟨rules.map presentJson, page, limit⟩ := by
    rw [Draft.ofMembers, h.lookup_rules, h.lookup_page, h.lookup_limit, bind_word? h.page_lt,
      bind_word? h.limit_lt]
  have hrules : (rules.map presentJson).getD none = rules.bind presentJson := by
    cases rules <;> rfl
  rw [hdraft, ofDraft, hrules]

/-- The request that is described is read from every text of an object with these members. -/
theorem ofJsonText_eq (h : Describes ms rules page limit) {text : String}
    (htext : record.SpellsObject ms text.toList) :
    ofJsonText text = .ok ⟨rules.bind presentJson, page.getD 1, limit.getD 50⟩ := by
  have hdepth : ∀ v, ("rules", v) ∈ ms → v.depth < maxLevels := by
    intro v hv
    refine h.depth_lt v ?_
    rw [← h.lookup_rules, h.lookup_of_mem (by simp) hv]
    rfl
  rw [ofJsonText_of_spells htext h.namedOnce (fun m hm => h.readable hm) hdepth,
    h.ofDraft_ofMembers]

end Describes

/-- The members of a request for a text. -/
def membersOf (text : String) (p : Pagination) : List (String × Json) :=
  [("rules", .string text), ("page", .integer p.page), ("limit", .integer p.limit)]

theorem describes_of_perm {text : String} {p : Pagination} (hpage : p.page < 2 ^ 32)
    (hlimit : p.limit < 2 ^ 32) {ms : List (String × Json)} (hms : ms.Perm (membersOf text p)) :
    Describes ms (some (.string text)) (some p.page) (some p.limit) := by
  have honce : ∀ name ∈ ["rules", "page", "limit"], (ms.map Prod.fst).count name ≤ 1 := by
    intro name _
    have hnodup : ((membersOf text p).map Prod.fst).Nodup := by simp [membersOf]
    rw [(hms.map Prod.fst).count_eq]
    exact List.nodup_iff_count_le_one.mp hnodup name
  have hlookup : ∀ m ∈ membersOf text p, ms.lookup m.1 = some m.2 := by
    intro m hm
    have hname : m.1 ∈ ["rules", "page", "limit"] := List.mem_map_of_mem hm
    exact (lookup_eq_some_iff_mem (honce m.1 hname)).mpr (hms.mem_iff.mpr hm)
  simp only [membersOf, List.forall_mem_cons] at hlookup
  obtain ⟨hrules, hpages, hlimits, -⟩ := hlookup
  exact ⟨honce, hrules, by simp [Json.depth, maxLevels], hpages, by simpa using hpage, hlimits,
    by simpa using hlimit⟩

/-- A request for a text is read from every text of an object with its members. -/
theorem ofJsonText_of_perm {text : String} {p : Pagination} (hpage : p.page < 2 ^ 32)
    (hlimit : p.limit < 2 ^ 32) {ms : List (String × Json)} (hms : ms.Perm (membersOf text p))
    {body : String} (hbody : Json.SpellsText (.object ms) body) :
    ofJsonText body = .ok (ofText text p) := by
  have hknown : ∀ m ∈ ms, (record.slot? m.1).isSome := by
    intro m hm
    have hmem := hms.mem_iff.mp hm
    simp only [membersOf, List.mem_cons, List.not_mem_nil, or_false] at hmem
    rcases hmem with rfl | rfl | rfl <;> rfl
  exact (describes_of_perm hpage hlimit hms).ofJsonText_eq (.of_exact hbody hknown)

/-! ### The answer -/

theorem evaluate_of_rules_ne {r : Request} (h : ∀ s, r.rules ≠ some (.string s)) :
    r.evaluate = .error .inputShape := by
  rw [evaluate, RuleText.parseValue]
  · rfl
  · exact h

theorem presentJson_eq_string {v : Json} {s : String} (h : presentJson v = some (.string s)) :
    v = .string s := by
  cases v <;> simp_all [presentJson]

/-- **Only the three known members of a request count.** Every text of an object whose members
describe a request is read, whatever its other members are. The request is answered like one for the
text of its rules, with the standard page and limit where these are absent; if the rules are absent
or no text, that is the answer.

Behind other names there may be any JSON. A name or a text that is read stands for Unicode text,
which half of a surrogate pair does not, and a number that is read is not beyond the floating point
numbers; in what is passed over nothing is excluded. -/
theorem exists_ofJsonText_evaluate {ms : List (String × Json)} {rules : Option Json}
    {page limit : Option Nat} (h : Describes ms rules page limit) {text : String}
    (htext : record.SpellsObject ms text.toList) :
    ∃ r, ofJsonText text = .ok r ∧
      (∀ s, rules = some (.string s) →
        r.evaluate = (ofText s ⟨page.getD 1, limit.getD 50⟩).evaluate) ∧
      ((∀ s, rules ≠ some (.string s)) → r.evaluate = .error .inputShape) := by
  refine ⟨_, h.ofJsonText_eq htext, ?_, ?_⟩
  · rintro s rfl
    rfl
  · intro hrules
    refine evaluate_of_rules_ne fun s hs => ?_
    obtain ⟨v, hv, hpresent⟩ := Option.bind_eq_some_iff.mp hs
    exact hrules s (hv.trans (congrArg some (presentJson_eq_string hpresent)))

theorem exists_ofJsonText_evaluate_note :
    ∃ r, ofJsonText "\x7b\"note\":\"\\ud800\" ,\"limit\": 7,\"rules\":\"price > 1\"\x7d" = .ok r ∧
      r.evaluate = (ofText "price > 1" ⟨1, 7⟩).evaluate := by
  have hmembers : Describes [("note", .null), ("limit", .integer 7), ("rules", .string "price > 1")]
      (some (.string "price > 1")) none (some 7) :=
    ⟨by decide, rfl, by simp [Json.depth, maxLevels], rfl, by simp, rfl, by simp⟩
  have hnote : Json.WellFormed "\"\\ud800\"".toList :=
    ⟨.string "", .string (.mk (.cons (.code rfl) .nil))⟩
  have hblank : Json.Blank " ".toList := by simp [Json.Blank, Json.isSpace]
  have hfits : (Json.integer 7).Fits 0 := by
    simp [Json.Fits, Json.maxNegative, Json.maxSignificand]
  have hlimit : Json.Spells .exact (.integer 7) "7".toList := Json.spells_printInt hfits
  have htext : record.SpellsObject
      [("note", .null), ("limit", .integer 7), ("rules", .string "price > 1")]
      "\x7b\"note\":\"\\ud800\" ,\"limit\": 7,\"rules\":\"price > 1\"\x7d".toList :=
    .members Json.blank_nil
      (.more (.mk Json.blank_nil (Json.spellsString_quote _) Json.blank_nil Json.blank_nil
        (.other rfl hnote)) hblank
      (.more (.mk Json.blank_nil (Json.spellsString_quote _) Json.blank_nil hblank
        (.slot rfl hlimit)) Json.blank_nil
      (.last (.mk Json.blank_nil (Json.spellsString_quote _) Json.blank_nil Json.blank_nil
        (.slot rfl (.string (Json.spellsString_quote _)))) Json.blank_nil))) Json.blank_nil
  obtain ⟨r, hr, hrules, -⟩ := exists_ofJsonText_evaluate hmembers htext
  exact ⟨r, hr, hrules _ rfl⟩

theorem spells_loose_member {k : String} {ks cs : List Char} {v : Json}
    (hk : Json.LooseString ks) (hv : Json.Spells .loose v cs) :
    Json.Spells .loose (.object [(k, v)]) ('{' :: (ks ++ ':' :: (cs ++ ['}']))) :=
  .object (.member Json.blank_nil hk Json.blank_nil Json.blank_nil hv (.close Json.blank_nil))

/-- **Half of a surrogate pair is no text.** By the grammar alone each text is an object whose
members describe a request: the first has no known member, the others have rules and nothing else.
None is read, since the half pair stands in a name or in the rules and not in what is passed
over. -/
theorem ofJsonText_half_pair :
    (Describes [("note", .null)] none none none ∧
      Json.Spells .loose (.object [("note", .null)]) "\x7b\"\\ud800\":null\x7d".toList ∧
      ofJsonText "\x7b\"\\ud800\":null\x7d" = .error .malformed) ∧
    (Describes [("rules", .string "")] (some (.string "")) none none ∧
      Json.Spells .loose (.object [("rules", .string "")])
        "\x7b\"rules\":\"\\ud800\"\x7d".toList ∧
      ofJsonText "\x7b\"rules\":\"\\ud800\"\x7d" = .error .malformed) ∧
    (Describes [("rules", .array [.string ""])] (some (.array [.string ""])) none none ∧
      Json.Spells .loose (.object [("rules", .array [.string ""])])
        "\x7b\"rules\":[\"\\ud800\"]\x7d".toList ∧
      ofJsonText "\x7b\"rules\":[\"\\ud800\"]\x7d" = .error .malformed) := by
  have hname : Json.LooseString "\"rules\"".toList := (Json.spellsString_quote "rules").loose
  have hhalf : Json.LooseString "\"\\ud800\"".toList := .mk (.cons (.code rfl) .nil)
  have hstring : Json.Spells .loose (.string "") "\"\\ud800\"".toList := .string hhalf
  have harray : Json.Spells .loose (.array [.string ""]) "[\"\\ud800\"]".toList :=
    .array Json.blank_nil hstring (.close Json.blank_nil)
  have honce : ∀ name ∈ ["rules", "page", "limit"], ["rules"].count name ≤ 1 := by decide
  have hrules : ∀ {v : Json}, v.depth < maxLevels → Describes [("rules", v)] (some v) none none :=
    fun hv => ⟨honce, rfl, by simpa using hv, rfl, by simp, rfl, by simp⟩
  refine ⟨⟨⟨by decide, rfl, by simp, rfl, by simp, rfl, by simp⟩, spells_loose_member hhalf .null,
    by cbv⟩, ⟨hrules (by decide), spells_loose_member hname hstring, by cbv⟩,
    hrules (by decide), spells_loose_member hname harray, by cbv⟩

end CatalogFilter.Request
