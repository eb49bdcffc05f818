import AuditTrail.Proofs.Refiling
import AuditTrail.Proofs.Store

/-!
# Reading one record by its id

A record is read by the text of its id. Exactly 24 hexadecimal digits, of either case, name an
id (`ObjectId.isText`), and the id prints as the same digits in lower case. Any other text names
nothing, and the read answers that there is no record rather than failing.

The point read and the listing reach documents by different routes: the read takes the first
inserted document under the id, the listing sorts all documents newest first. Both drop a
document that does not read back as a filed event, by the same reader. So when no two stored
documents share an object id, reading a text finds a record exactly when the unfiltered listing
holds a record under the id that the text names, and then finds that record
(`read_by_text_finds_listed_record`). The condition matters: of two documents under one id the
read takes the first inserted, which may be one that does not read back.

## Main definitions

* `ObjectId.isText` — the texts that name an id

## Main results

* `ObjectId.parse?_isSome`, `ObjectId.toHex_of_parse?` — a text names an id exactly when it
  is 24 hex digits, and the id prints as the text in lower case
* `Collection.findById_eq_some` — under distinct ids, the point lookup finds the document that
  carries the id
* `Audit.findById_bind_recordOf?_eq_some` — under distinct ids, the record under an id is the
  record of a stored document with that id
* `read_by_text_finds_listed_record`
-/

namespace AuditTrail

namespace Char

theorem toNat_le_of_le {a b : Char} (h : a ≤ b) : a.toNat ≤ b.toNat := by
  rwa [Char.le_def, UInt32.le_iff_toNat_le] at h

/-- The test for a capital letter that lower-casing makes, on code points. -/
theorem isCapital_iff (c : Char) :
    (c.val ≥ 'A'.val ∧ c.val ≤ 'Z'.val) ↔ 65 ≤ c.toNat ∧ c.toNat ≤ 90 := by
  simp only [ge_iff_le, UInt32.le_iff_toNat_le, Char.toNat_val]
  simp

end Char

namespace ObjectId

/-! ### The text of an id -/

/-- Exactly 24 hexadecimal digits, of either case. -/
def isText (s : String) : Bool := s.length == 24 && s.toList.all Char.isHexDigit

/-- A hex digit's value is below 16 and prints back as the same digit in lower case. -/
theorem hexDigit_of_hexValue? {c : Char} {d : Nat} (h : hexValue? c = some d) :
    d < 16 ∧ hexDigit d = c.toLower := by
  unfold hexValue? at h
  split_ifs at h with hdig hlow hup <;> simp only [Option.some.injEq] at h <;> subst h
  · -- a decimal digit is itself, and no capital letter
    have hr := Char.isDigit_iff_toNat.mp hdig
    simp only [Char.reduceToNat] at hr
    have hcap : ¬(c.val ≥ 'A'.val ∧ c.val ≤ 'Z'.val) := by rw [Char.isCapital_iff]; omega
    refine ⟨by simp only [Char.reduceToNat]; omega, ?_⟩
    simp only [hexDigit, Char.toLower, dif_neg hcap, Char.reduceToNat,
      if_pos (show c.toNat - 48 < 10 by omega)]
    rw [show 48 + (c.toNat - 48) = c.toNat by omega, Char.ofNat_toNat]
  · -- a small letter is itself
    have hr := And.intro (Char.toNat_le_of_le hlow.1) (Char.toNat_le_of_le hlow.2)
    simp only [Char.reduceToNat] at hr
    have hcap : ¬(c.val ≥ 'A'.val ∧ c.val ≤ 'Z'.val) := by rw [Char.isCapital_iff]; omega
    refine ⟨by simp only [Char.reduceToNat]; omega, ?_⟩
    simp only [hexDigit, Char.toLower, dif_neg hcap, Char.reduceToNat,
      if_neg (show ¬c.toNat - 97 + 10 < 10 by omega)]
    rw [show 97 + (c.toNat - 97 + 10) - 10 = c.toNat by omega, Char.ofNat_toNat]
  · -- a capital letter becomes the small one
    have hr := And.intro (Char.toNat_le_of_le hup.1) (Char.toNat_le_of_le hup.2)
    simp only [Char.reduceToNat] at hr
    have hcap : c.val ≥ 'A'.val ∧ c.val ≤ 'Z'.val := (Char.isCapital_iff c).mpr (by omega)
    refine ⟨by simp only [Char.reduceToNat]; omega, ?_⟩
    simp only [hexDigit, Char.toLower, dif_pos hcap, Char.reduceToNat,
      if_neg (show ¬c.toNat - 65 + 10 < 10 by omega)]
    rw [← Char.ofNat_toNat ⟨_, _⟩, Char.toNat_mk]
    congr 1
    simp
    omega

theorem hexValue?_isSome (c : Char) : (hexValue? c).isSome = c.isHexDigit := by
  unfold hexValue? Char.isHexDigit
  simp only [Char.le_def, ge_iff_le]
  split_ifs <;> simp_all

theorem hexNumber?_append (cs : List Char) (c : Char) :
    hexNumber? (cs ++ [c]) = (hexNumber? cs).bind fun n => (hexValue? c).map (n * 16 + ·) := by
  simp [hexNumber?, List.foldlM_append]

/-- Hex digits read as a number print back as the same digits in lower case. -/
theorem hexDigits_of_hexNumber? {cs : List Char} {n : Nat} (h : hexNumber? cs = some n) :
    hexDigits cs.length n = cs.map Char.toLower := by
  induction cs using List.reverseRecOn generalizing n with
  | nil => rfl
  | append_singleton cs c ih =>
    -- the last digit is the remainder by 16, the others read the quotient
    obtain ⟨m, hm, d, hd, rfl⟩ : ∃ m, hexNumber? cs = some m ∧ ∃ d, hexValue? c = some d ∧
        m * 16 + d = n := by
      simpa [hexNumber?_append, Option.bind_eq_some_iff] using h
    obtain ⟨hlt, hdigit⟩ := hexDigit_of_hexValue? hd
    rw [List.length_append, List.length_singleton, hexDigits, List.map_append,
      show (m * 16 + d) / 16 = m by omega, show (m * 16 + d) % 16 = d by omega, ih hm, hdigit]
    rfl

theorem hexNumber?_lt {cs : List Char} {n : Nat} (h : hexNumber? cs = some n) :
    n < Nat.pow 16 cs.length := by
  induction cs using List.reverseRecOn generalizing n with
  | nil =>
    cases h
    decide
  | append_singleton cs c ih =>
    obtain ⟨m, hm, d, hd, rfl⟩ : ∃ m, hexNumber? cs = some m ∧ ∃ d, hexValue? c = some d ∧
        m * 16 + d = n := by
      simpa [hexNumber?_append, Option.bind_eq_some_iff] using h
    have hlt := (hexDigit_of_hexValue? hd).1
    have hm' := ih hm
    rw [List.length_append, List.length_singleton,
      show Nat.pow 16 (cs.length + 1) = Nat.pow 16 cs.length * 16 from rfl]
    omega

/-- The digits of a text read as a number exactly when each is a hex digit. -/
theorem hexNumber?_isSome (cs : List Char) : (hexNumber? cs).isSome = cs.all Char.isHexDigit := by
  induction cs using List.reverseRecOn with
  | nil => rfl
  | append_singleton cs c ih =>
    rw [hexNumber?_append, List.all_append, ← ih, List.all_cons, List.all_nil, Bool.and_true,
      ← hexValue?_isSome]
    cases hexNumber? cs <;> cases hexValue? c <;> rfl

/-- The ids that texts name are the stored ids that their digits spell. -/
theorem parse?_eq_some {s : String} {id : ObjectId} (h : parse? s = some id) :
    s.toList.length = 24 ∧ ∃ n, hexNumber? s.toList = some n ∧ ∃ hn : n < Nat.pow 2 96,
      id = .stored ⟨n, hn⟩ := by
  unfold parse? at h
  dsimp only at h
  split_ifs at h with hlen
  split at h
  · rename_i n hn
    split_ifs at h with hlt
    cases h
    exact ⟨hlen, n, hn, hlt, rfl⟩
  · cases h

/-- A text names an id exactly when it is 24 hex digits. -/
theorem parse?_isSome (s : String) : (parse? s).isSome = isText s := by
  have hbound : Nat.pow 16 24 = Nat.pow 2 96 := by decide
  unfold parse? isText
  dsimp only
  rw [← String.length_toList]
  by_cases hlen : s.toList.length = 24
  · -- 24 digits read as a number below `16^24`, which is `2^96`
    rw [if_pos hlen, ← hexNumber?_isSome]
    cases hn : hexNumber? s.toList with
    | none => simp [hlen]
    | some n =>
      have hlt : n < Nat.pow 2 96 := hbound ▸ hlen ▸ hexNumber?_lt hn
      simp [hlen, hlt]
  · simp [hlen]

/-- The id a text names prints as the text in lower case. -/
theorem toHex_of_parse? {s : String} {id : ObjectId} (h : parse? s = some id) :
    id.toHex = s.map Char.toLower := by
  obtain ⟨hlen, n, hn, hlt, rfl⟩ := parse?_eq_some h
  rw [toHex, ← hlen, hexDigits_of_hexNumber? hn, ← String.toList_map, String.ofList_toList]

/-- An id that a text names is the only id that prints as it does. -/
theorem eq_of_toHex_eq {a b : ObjectId} {s : String} (hb : parse? s = some b)
    (h : a.toHex = b.toHex) : a = b := by
  obtain ⟨-, n, -, hlt, rfl⟩ := parse?_eq_some hb
  -- both texts read back: `b` as itself, `a` as itself or as nothing
  have hback := parse?_toHex_stored ⟨n, hlt⟩
  rw [← h] at hback
  cases a with
  | stored v => rw [parse?_toHex_stored] at hback; exact Option.some.inj hback
  | minted k => rw [parse?_toHex_minted] at hback; cases hback

end ObjectId

namespace Collection

/-- Under distinct object ids, the first document that carries an id is the one that does. -/
theorem find?_objectId_of_nodup {id : ObjectId} {d : Document} :
    ∀ {l : List Document}, (l.filterMap Document.objectId?).Nodup → d ∈ l →
      d.objectId? = some id → l.find? (fun d' => d'.objectId? == some id) = some d
  | [], _, hd, _ => absurd hd List.not_mem_nil
  | a :: l, hnd, hd, hid => by
    have htail : (l.filterMap Document.objectId?).Nodup := by
      cases ha : a.objectId? <;> simp only [List.filterMap_cons, ha, List.nodup_cons] at hnd
      · exact hnd
      · exact hnd.2
    rcases List.mem_cons.mp hd with rfl | hd'
    · simp [hid]
    · -- `a` does not carry the id, or the id would occur twice
      have hne : a.objectId? ≠ some id := fun ha => by
        simp only [List.filterMap_cons, ha, List.nodup_cons] at hnd
        exact hnd.1 (List.mem_filterMap.mpr ⟨d, hd', hid⟩)
      rw [List.find?_cons_of_neg (by simpa using hne)]
      exact find?_objectId_of_nodup htail hd' hid

/-- Under distinct object ids, the point lookup finds exactly the document that carries the id. -/
theorem findById_eq_some {c : Collection} (hids : (c.documents.filterMap Document.objectId?).Nodup)
    {id : ObjectId} {d : Document} :
    c.findById id = some d ↔ d ∈ c.documents ∧ d.objectId? = some id := by
  refine ⟨fun h => ⟨List.mem_of_find?_eq_some h, by simpa using List.find?_some h⟩,
    fun ⟨hd, hid⟩ => find?_objectId_of_nodup hids hd hid⟩

end Collection

namespace Audit

variable {s : Session} {c : Collection}

/-- A record carries the object id of the document it is read from. -/
theorem objectId?_of_recordOf? {d : Document} {r : Record} (h : recordOf? d = some r) :
    d.objectId? = some r.id := by
  obtain ⟨st, hst, rfl⟩ := recordOf?_eq_some.mp h
  exact (Stored.ofDocument_eq_ok.mp hst).1

/-- The unfiltered listing holds exactly the records that the stored documents read back as. -/
theorem mem_listing {r : Record} :
    r ∈ (c.newestFirst ({} : Query).toFilter 0 0).filterMap recordOf? ↔
      ∃ d ∈ c.documents, recordOf? d = some r := by
  -- the empty query is the empty conjunction, which every document passes
  have hall : ∀ d, ({} : Query).toFilter.accepts d = true := fun _ => rfl
  simp [Collection.newestFirst_zero, Collection.mem_sortedMatches, hall]

/-- Under distinct object ids, the record under an id is a record that a stored document reads
back as, with that id. -/
theorem findById_bind_recordOf?_eq_some (hids : (c.documents.filterMap Document.objectId?).Nodup)
    {id : ObjectId} {r : Record} :
    (c.findById id).bind recordOf? = some r ↔ ∃ d ∈ c.documents, recordOf? d = some r ∧ r.id = id := by
  constructor
  · intro h
    obtain ⟨d, hfind, hr⟩ := Option.bind_eq_some_iff.mp h
    obtain ⟨hd, hid⟩ := (Collection.findById_eq_some hids).mp hfind
    refine ⟨d, hd, hr, ?_⟩
    rw [objectId?_of_recordOf? hr] at hid
    exact Option.some.inj hid
  · rintro ⟨d, hd, hr, rfl⟩
    have hfind := (Collection.findById_eq_some hids).mpr ⟨hd, objectId?_of_recordOf? hr⟩
    rw [hfind]
    exact hr

/-- Reading by text looks up the id the text names, if any. -/
theorem get_run (hs : s.backend = .memory c) (t : String) :
    (get t).run s = .ok ((ObjectId.parse? t).bind fun id => (c.findById id).bind recordOf?) s := by
  unfold get
  cases ObjectId.parse? t with
  | none => rfl
  | some id => exact getById_run hs id

end Audit

/-- Reading a record by the text of its id never fails on an in-memory store. When no two stored
documents share an object id, it finds a record exactly when the text is 24 hex digits and the
unfiltered listing, which holds the record of every stored document that reads back, holds a
record whose id prints as the text in lower case; and it finds that record. -/
theorem read_by_text_finds_listed_record (s : Session) (c : Collection) (hs : s.backend = .memory c)
    (hids : (c.documents.filterMap Document.objectId?).Nodup) (t : String) :
    ∃ found records total, (Audit.get t).run s = .ok found s ∧
      (Audit.query {} 0 0).run s = .ok (records, total) s ∧
      (∀ r, r ∈ records ↔ ∃ d ∈ c.documents, Audit.recordOf? d = some r) ∧
      ∀ r, found = some r ↔
        ObjectId.isText t = true ∧ r ∈ records ∧ r.id.toHex = t.map Char.toLower := by
  refine ⟨_, _, _, Audit.get_run hs t, Audit.query_run hs {} 0 0, fun r => Audit.mem_listing,
    fun r => ?_⟩
  rw [Audit.mem_listing]
  cases hp : ObjectId.parse? t with
  | none =>
    -- a text that names no id is not 24 hex digits
    have htext : ObjectId.isText t = false := by rw [← ObjectId.parse?_isSome, hp]; rfl
    simp [htext]
  | some id =>
    have htext : ObjectId.isText t = true := by rw [← ObjectId.parse?_isSome, hp]; rfl
    rw [Option.bind_some, Audit.findById_bind_recordOf?_eq_some hids, ← ObjectId.toHex_of_parse? hp]
    constructor
    · rintro ⟨d, hd, hr, rfl⟩
      exact ⟨htext, ⟨d, hd, hr⟩, rfl⟩
    · -- the listed record's id prints as the named id, so it is that id
      rintro ⟨-, ⟨d, hd, hr⟩, hhex⟩
      exact ⟨d, hd, hr, ObjectId.eq_of_toHex_eq hp hhex⟩

/-- Reading the text of the first stored id from a store that holds only the restock finds the
restock. -/
theorem restockStore_reads_by_text :
    (Audit.get "000000000000000000000001").run { backend := .memory ⟨[restockUpdate]⟩ } =
      .ok (some restockStored.toRecord) { backend := .memory ⟨[restockUpdate]⟩ } := by
  obtain ⟨found, records, total, hget, -, hmem, hfound⟩ :=
    read_by_text_finds_listed_record { backend := .memory ⟨[restockUpdate]⟩ } ⟨[restockUpdate]⟩ rfl
      (by decide +kernel) "000000000000000000000001"
  have hparse : ObjectId.parse? "000000000000000000000001" =
      some (.stored ⟨1, ObjectId.one_lt_bound⟩) := by
    decide +kernel
  have hlisted : restockStored.toRecord ∈ records :=
    (hmem _).mpr ⟨restockUpdate, List.mem_singleton_self _, rfl⟩
  rw [hget, (hfound _).mpr ⟨by decide +kernel, hlisted, ObjectId.toHex_of_parse? hparse⟩]

end AuditTrail
