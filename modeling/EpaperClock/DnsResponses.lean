import EpaperClock.DnsResources

/-! What a server answers to a query, read back by `dns_recv`. -/
namespace EpaperClock

open StepSystem

/-! ### The answers of a server -/

def putU16 (n : UInt16) : Bytes := [(n >>> 8).toUInt8, n.toUInt8]

def putU32 (n : UInt32) : Bytes := putU16 (n >>> 16).toUInt16 ++ putU16 n.toUInt16

/-- A resource record. Its name ends with the root or with a pointer, and is not the root
alone. -/
structure ResourceRecord where
  labels : List Bytes
  pointer : Option (UInt8 × UInt8)
  type : UInt16
  cls : UInt16
  ttl : UInt32
  data : Bytes
  formed : WellFormed labels
  marked : ∀ high low, pointer = some (high, low) → high &&& 0xc0 = 0xc0
  named : pointer = none → labels ≠ []
  short : data.length < 0x10000

namespace ResourceRecord

variable (r : ResourceRecord)

def ending : Bytes := r.pointer.elim [0] fun (high, low) => [high, low]

theorem ending_length_pos : 0 < r.ending.length := by
  unfold ending
  cases r.pointer <;> simp

/-- The record behind its name. -/
def body : Bytes :=
  putU16 r.type ++ (putU16 r.cls ++ (putU32 r.ttl ++ (putU16 r.data.length.toUInt16 ++ r.data)))

def encode : Bytes := wire r.labels ++ r.ending ++ r.body

/-- An IPv4 address, as the query asks for it. -/
def IsAddress : Prop := r.cls = 1 ∧ r.type = 1 ∧ r.data.length = 4

instance : DecidablePred IsAddress := fun _ => inferInstanceAs (Decidable (_ ∧ _))

/-- The bytes of the address, as they lie in memory. -/
def address : Ip4Addr := lwipHtonl (getU32 r.data 0)

end ResourceRecord

/-- The first address among the answers, with its time to live. -/
def firstAddress (records : List ResourceRecord) : Option (Ip4Addr × UInt32) :=
  (records.find? fun r => r.IsAddress).map fun r => (r.address, r.ttl)

/-- A server's reply: the query with other flags and counts, the answers, and other records. -/
def reply (query : Bytes) (flags1 flags2 : UInt8) (counts : UInt32) (records : List ResourceRecord)
    (others : Bytes) : Bytes :=
  query.take 2 ++ ([flags1, flags2] ++ (putU16 1 ++ (putU16 records.length.toUInt16 ++
    (putU32 counts ++ (query.drop sizeofDnsHdr ++ (records.flatMap ResourceRecord.encode ++ others))))))

/-! ### Numbers -/

theorem toUInt16_toUInt8 (n : UInt16) : n.toUInt8.toUInt16 = n &&& 0xff := by
  apply UInt16.toNat_inj.mp
  have low := Nat.and_two_pow_sub_one_eq_mod n.toNat 8
  simpa using low.symm

theorem toUInt32_toUInt16 (n : UInt32) : n.toUInt16.toUInt32 = n &&& 0xffff := by
  apply UInt32.toNat_inj.mp
  have low := Nat.and_two_pow_sub_one_eq_mod n.toNat 16
  simpa using low.symm

theorem getU16_append_right (front p : Bytes) (i : Nat) :
    getU16 (front ++ p) (front.length + i) = getU16 p i := by
  have byte (i : Nat) : (front ++ p).getD (front.length + i) 0 = p.getD i 0 := by
    rw [List.getD_append_right _ _ _ _ (Nat.le_add_right _ _), Nat.add_sub_cancel_left]
  rw [getU16, getU16, Nat.add_assoc, byte, byte]

theorem getU32_append_right (front p : Bytes) (i : Nat) :
    getU32 (front ++ p) (front.length + i) = getU32 p i := by
  rw [getU32, getU32, Nat.add_assoc, getU16_append_right, getU16_append_right]

theorem getU16_putU16 (n : UInt16) (back : Bytes) : getU16 (putU16 n ++ back) 0 = n := by
  have high : (putU16 n ++ back).getD 0 0 = (n >>> 8).toUInt8 := by simp [putU16]
  have low : (putU16 n ++ back).getD (0 + 1) 0 = n.toUInt8 := by simp [putU16]
  rw [getU16, high, low, toUInt16_toUInt8, toUInt16_toUInt8]
  apply UInt16.eq_of_toBitVec_eq
  apply BitVec.eq_of_getLsbD_eq
  intro i inside
  interval_cases i <;> simp

theorem getU32_putU32 (n : UInt32) (back : Bytes) : getU32 (putU32 n ++ back) 0 = n := by
  have high := getU16_putU16 (n >>> 16).toUInt16 (putU16 n.toUInt16 ++ back)
  have low := getU16_append_right (putU16 (n >>> 16).toUInt16) (putU16 n.toUInt16 ++ back) 0
  rw [getU16_putU16] at low
  rw [getU32, putU32, List.append_assoc, high]
  rw [show getU16 _ (0 + 2) = _ from low, toUInt32_toUInt16, toUInt32_toUInt16]
  apply UInt32.eq_of_toBitVec_eq
  apply BitVec.eq_of_getLsbD_eq
  intro i inside
  interval_cases i <;> simp

theorem getU32_append_left {data : Bytes} (length : data.length = 4) (back : Bytes) :
    getU32 (data ++ back) 0 = getU32 data 0 := by
  have byte (i : Nat) (inside : i < 4) : (data ++ back).getD i 0 = data.getD i 0 :=
    List.getD_append _ _ _ _ (by omega)
  rw [getU32, getU32, getU16, getU16, getU16, getU16, byte _ (by omega), byte _ (by omega),
    byte _ (by omega), byte _ (by omega)]

/-! ### Names -/

theorem skipLabels_label (totLen : Nat) (rest : Bytes) (label : Bytes) : ∀ offset,
    skipLabels totLen label.length offset (label ++ rest) =
      skipLabels totLen 0 (offset + label.length) rest := by
  induction label with
  | nil => exact fun _ => rfl
  | cons c label ih =>
    intro offset
    have behind : offset + 1 + label.length = offset + (label.length + 1) := by omega
    rw [List.cons_append, List.length_cons, skipLabels, ih, behind]

variable (r : ResourceRecord)

theorem skipLabels_ending {totLen offset : Nat} (back : Bytes) (bound : totLen ≤ 0xFFFF)
    (inside : offset + r.ending.length ≤ totLen) :
    skipLabels totLen 0 offset (r.ending ++ back) = offset + r.ending.length := by
  have early : offset ≠ 0xFFFF := by
    have some := r.ending_length_pos
    omega
  unfold ResourceRecord.ending at *
  cases ends : r.pointer with
  | none => simp [skipLabels, early]
  | some pointer =>
    obtain ⟨high, low⟩ := pointer
    have mark := r.marked high low ends
    have nonzero : high ≠ 0 := by
      rintro rfl
      exact absurd mark (by decide)
    rw [ends] at inside
    have last : offset + 1 ≠ 0xFFFF := by
      simp only [Option.elim_some, List.length_cons] at inside
      omega
    simp [skipLabels, early, mark, nonzero, last]

/-- Labels of which none is empty are skipped one by one. -/
theorem skipLabels_wire {totLen : Nat} (back : Bytes) (bound : totLen ≤ 0xFFFF)
    (labels : List Bytes) : ∀ offset, (∀ l ∈ labels, l ≠ [] ∧ l.length < 0xc0) →
      offset + (wire labels).length + r.ending.length ≤ totLen →
      skipLabels totLen 0 offset (wire labels ++ (r.ending ++ back)) =
        offset + (wire labels).length + r.ending.length := by
  induction labels with
  | nil => exact fun offset _ inside => skipLabels_ending r back bound inside
  | cons label labels ih =>
    intro offset each inside
    obtain ⟨full, short⟩ := each label List.mem_cons_self
    have small : label.length < 256 := by omega
    have length := length_eq_of_toUInt8 small rfl
    simp only [wire_cons, List.length_cons, List.length_append] at inside ⊢
    have nonzero : label.length.toUInt8 ≠ 0 := by
      intro zero
      rw [zero] at length
      exact full (List.eq_nil_of_length_eq_zero length)
    have plain : ¬label.length.toUInt8 &&& 0xc0 = 0xc0 := by
      rw [compressed_iff, ← length]
      omega
    have early : offset ≠ 0xFFFF := by omega
    have room : ¬offset + 1 + label.length.toUInt8.toNat ≥ totLen := by
      have some := r.ending_length_pos
      rw [← length]
      omega
    rw [List.cons_append, skipLabels, if_neg nonzero, if_neg early, if_neg plain, if_neg room,
      ← length, List.append_assoc, skipLabels_label,
      ih _ (fun l member => each l (List.mem_cons_of_mem _ member)) (by omega)]
    omega

/-- `dns_skip_name` finds the end of a record's name. -/
theorem dnsSkipName_append (front back : Bytes)
    (bound : (front ++ (wire r.labels ++ (r.ending ++ back))).length ≤ 0xFFFF) :
    dnsSkipName (front ++ (wire r.labels ++ (r.ending ++ back))) front.length =
      front.length + (wire r.labels ++ r.ending).length := by
  have some := r.ending_length_pos
  simp only [List.length_append] at bound ⊢
  have early : front.length ≠ 0xFFFF := by omega
  unfold dnsSkipName
  rw [List.drop_left]
  cases split : r.labels with
  | nil =>
    cases ends : r.pointer with
    | none => exact absurd split (r.named ends)
    | some pointer =>
      obtain ⟨high, low⟩ := pointer
      have pair : r.ending = [high, low] := by simp [ResourceRecord.ending, ends]
      rw [pair] at bound ⊢
      have last : front.length + 1 ≠ 0xFFFF := by
        simp only [List.length_cons] at bound
        omega
      simp [early, r.marked high low ends, last]
  | cons label labels =>
    have formed := r.formed
    rw [split] at formed bound
    have short := formed.short label List.mem_cons_self
    have each : ∀ l ∈ labels, l ≠ [] ∧ l.length < 0xc0 := fun l member =>
      ⟨formed.full l member, formed.short l (List.mem_cons_of_mem _ member)⟩
    have small : label.length < 256 := by omega
    have length := length_eq_of_toUInt8 small rfl
    have plain : ¬label.length.toUInt8 &&& 0xc0 = 0xc0 := by
      rw [compressed_iff, ← length]
      omega
    simp only [wire_cons, List.length_cons, List.length_append, List.cons_append] at bound ⊢
    rw [if_neg early, if_neg plain, if_neg (by omega), ← length, List.append_assoc,
      skipLabels_label, skipLabels_wire r back (by omega) labels _ each (by omega)]
    omega

/-! ### Answers -/

theorem body_length : r.body.length = sizeofDnsAnswer + r.data.length := by
  simp only [ResourceRecord.body, putU32, putU16, List.length_append, List.length_cons,
    List.length_nil, sizeofDnsAnswer]
  omega

/-- The fields of a record are read where they were written. -/
theorem body_fields (back : Bytes) :
    getU16 (r.body ++ back) 0 = r.type ∧ getU16 (r.body ++ back) 2 = r.cls ∧
      getU32 (r.body ++ back) 4 = r.ttl ∧
      getU16 (r.body ++ back) 8 = r.data.length.toUInt16 ∧
      (r.data.length = 4 → getU32 (r.body ++ back) sizeofDnsAnswer = getU32 r.data 0) := by
  have type := getU16_putU16 r.type (putU16 r.cls ++
    (putU32 r.ttl ++ (putU16 r.data.length.toUInt16 ++ r.data)) ++ back)
  have cls := getU16_append_right (putU16 r.type) (putU16 r.cls ++
    ((putU32 r.ttl ++ (putU16 r.data.length.toUInt16 ++ r.data)) ++ back)) 0
  have ttl := getU32_append_right (putU16 r.type ++ putU16 r.cls) (putU32 r.ttl ++
    ((putU16 r.data.length.toUInt16 ++ r.data) ++ back)) 0
  have len := getU16_append_right (putU16 r.type ++ putU16 r.cls ++ putU32 r.ttl)
    (putU16 r.data.length.toUInt16 ++ (r.data ++ back)) 0
  have data := getU32_append_right (putU16 r.type ++ putU16 r.cls ++ putU32 r.ttl ++
    putU16 r.data.length.toUInt16) (r.data ++ back) 0
  rw [getU16_putU16] at cls len
  rw [getU32_putU32] at ttl
  simp only [ResourceRecord.body, List.append_assoc] at type cls ttl len data ⊢
  refine ⟨type, cls, ttl, len, fun length => ?_⟩
  rw [getU32_append_left length] at data
  exact data

theorem encode_length :
    r.encode.length = (wire r.labels ++ r.ending).length + sizeofDnsAnswer + r.data.length := by
  rw [ResourceRecord.encode, List.length_append, body_length, Nat.add_assoc]

/-- What `dns_recv` makes of the answers. -/
def answered (records : List ResourceRecord) : DnsAnswers :=
  match firstAddress records with
  | some (ip4addr, ttl) => .address ip4addr ttl
  | none => .none

theorem answered_cons (records : List ResourceRecord) : answered (r :: records) =
    if r.IsAddress then .address r.address r.ttl else answered records := by
  by_cases this : r.IsAddress
  · simp [answered, firstAddress, this]
  · simp [answered, firstAddress, this]

theorem isAddress_iff : r.IsAddress ↔ r.cls = 1 ∧ r.type = 1 ∧ r.data.length.toUInt16 = 4 := by
  have short := r.short
  have same : r.data.length = 4 ↔ r.data.length.toUInt16 = 4 := by
    rw [← UInt16.toNat_inj, Nat.toUInt16, UInt16.toNat_ofNat', Nat.mod_eq_of_lt short]
    rfl
  rw [ResourceRecord.IsAddress, same]

/-- One turn of the loop; `front` ends with the record's name. -/
theorem dnsAnswers_record {nanswers start : Nat} {front back : Bytes}
    (bound : (front ++ (r.body ++ back)).length ≤ 0xFFFF) (inside : start ≤ front.length)
    (skipped : dnsSkipName (front ++ (r.body ++ back)) start = front.length) :
    dnsAnswers (front ++ (r.body ++ back)) (nanswers + 1) start =
      if r.IsAddress then .address r.address r.ttl
      else dnsAnswers (front ++ (r.body ++ back)) nanswers (front ++ r.body).length := by
  obtain ⟨type, cls, ttl, len, data⟩ := body_fields r back
  have length := body_length r
  have short := r.short
  have size : r.data.length.toUInt16.toNat = r.data.length := by
    rw [Nat.toUInt16, UInt16.toNat_ofNat', Nat.mod_eq_of_lt short]
  simp only [List.length_append, length, sizeofDnsAnswer] at bound
  have type' := getU16_append_right front (r.body ++ back) 0
  rw [Nat.add_zero] at type'
  rw [dnsAnswers, skipped]
  simp only [List.length_append, length, sizeofDnsAnswer, type', getU16_append_right,
    getU32_append_right, type, cls, ttl, len, size, ← isAddress_iff]
  rw [if_pos (by omega), if_neg (by simp only [nameError]; omega), if_neg (by omega),
    if_neg (by omega)]
  split_ifs with address few long
  · have four := address.2.2
    omega
  · rw [data address.2.2, ResourceRecord.address]
  · omega
  · rw [Nat.add_assoc]

/-- The loop over the answers finds the first address among them. -/
theorem dnsAnswers_encode (others : Bytes) (records : List ResourceRecord) : ∀ front : Bytes,
    (front ++ (records.flatMap ResourceRecord.encode ++ others)).length ≤ 0xFFFF →
      dnsAnswers (front ++ (records.flatMap ResourceRecord.encode ++ others)) records.length
        front.length = answered records := by
  induction records with
  | nil => exact fun _ _ => rfl
  | cons r records ih =>
    intro front bound
    have bytes : front ++ ((r :: records).flatMap ResourceRecord.encode ++ others) =
        (front ++ (wire r.labels ++ r.ending)) ++
          (r.body ++ (records.flatMap ResourceRecord.encode ++ others)) := by
      simp [ResourceRecord.encode]
    have whole : front ++ r.encode = front ++ (wire r.labels ++ r.ending) ++ r.body := by
      simp [ResourceRecord.encode]
    have later := ih (front ++ r.encode)
    have skipped := dnsSkipName_append r front
      (r.body ++ (records.flatMap ResourceRecord.encode ++ others))
    have named : front ++ (wire r.labels ++ (r.ending ++
        (r.body ++ (records.flatMap ResourceRecord.encode ++ others)))) =
        (front ++ (wire r.labels ++ r.ending)) ++
          (r.body ++ (records.flatMap ResourceRecord.encode ++ others)) := by
      simp
    rw [whole, List.append_assoc] at later
    rw [named, ← List.length_append] at skipped
    rw [bytes] at bound ⊢
    rw [List.length_cons, answered_cons, dnsAnswers_record r bound (by simp) (skipped bound),
      later bound]

/-! ### Replies -/

section Reply

variable (txid : UInt16) (name : Bytes) (flags1 flags2 : UInt8) (counts : UInt32)
  (records : List ResourceRecord) (others : Bytes)

/-- The header of a reply, in front of the name. -/
def replyHdr : Bytes :=
  putU16 txid ++ ([flags1, flags2] ++ (putU16 1 ++ (putU16 records.length.toUInt16 ++ putU32 counts)))

theorem reply_eq : reply (dnsQuery txid name) flags1 flags2 counts records others =
    replyHdr txid flags1 flags2 counts records ++ queryName name ++
      ([0, 1, 0, 1] ++ (records.flatMap ResourceRecord.encode ++ others)) := by
  simp [reply, replyHdr, dnsQuery, putU16, sizeofDnsHdr]

theorem length_replyHdr : (replyHdr txid flags1 flags2 counts records).length = sizeofDnsHdr := rfl

theorem length_queryName : (queryName name).length = name.length + 2 := by
  rw [queryName_eq, List.length_append, length_wire_splitOn]
  rfl

/-- The header is read as it was written. -/
theorem reply_header (back : Bytes) :
    let p := replyHdr txid flags1 flags2 counts records ++ back
    getU16 p 0 = txid ∧ p.getD 2 0 = flags1 ∧ p.getD 3 0 = flags2 ∧ getU16 p 4 = 1 ∧
      getU16 p 6 = records.length.toUInt16 := by
  dsimp only
  have id := getU16_putU16 txid ([flags1, flags2] ++
    (putU16 1 ++ (putU16 records.length.toUInt16 ++ (putU32 counts ++ back))))
  have questions := getU16_append_right (putU16 txid ++ [flags1, flags2])
    (putU16 1 ++ (putU16 records.length.toUInt16 ++ (putU32 counts ++ back))) 0
  have answers := getU16_append_right (putU16 txid ++ [flags1, flags2] ++ putU16 1)
    (putU16 records.length.toUInt16 ++ (putU32 counts ++ back)) 0
  rw [getU16_putU16] at questions answers
  simp only [replyHdr, List.append_assoc] at id questions answers ⊢
  exact ⟨id, rfl, rfl, questions, answers⟩

theorem length_le_encode : records.length ≤ (records.flatMap ResourceRecord.encode).length := by
  induction records with
  | nil => rfl
  | cons r records ih =>
    have some := encode_length r
    simp only [List.flatMap_cons, List.length_cons, List.length_append, sizeofDnsAnswer] at *
    omega

/-- The reply's question is that of the query. -/
theorem dnsQuestion_reply {entry : DnsTableEntry} (server : Ip4Addr) (behind : Nat → UInt8)
    (fits : entry.name.length < dnsMaxNameLength) (formed : WellFormed (entry.name.splitOn 0x2e))
    (response : flags1 &&& 0x80 ≠ 0) :
    dnsQuestion entry server behind
        (reply (dnsQuery txid entry.name) flags1 flags2 counts records others) server =
      some (sizeofDnsHdr + (queryName entry.name).length + sizeofDnsQuery) := by
  have holds : Holds (fun i => (entry.name ++ [0]).getD i (behind i)) 0 entry.name := by
    intro i inside
    simp [inside, List.getElem?_append_left]
  have hdr := length_replyHdr txid flags1 flags2 counts records
  have length := length_queryName entry.name
  have early : (replyHdr txid flags1 flags2 counts records).length + entry.name.length + 2 <
      nameError := by
    simp only [hdr, sizeofDnsHdr, nameError, dnsMaxNameLength] at *
    omega
  have compared := (dnsCompareName_queryName _ _ _
    ([0, 1, 0, 1] ++ (records.flatMap ResourceRecord.encode ++ others)) holds fits early).mpr formed
  obtain ⟨_, flag, _, questions, _⟩ := reply_header txid flags1 flags2 counts records
    (queryName entry.name ++ ([0, 1, 0, 1] ++ (records.flatMap ResourceRecord.encode ++ others)))
  rw [← List.append_assoc] at flag questions
  have place : (replyHdr txid flags1 flags2 counts records).length + entry.name.length + 2 =
      (replyHdr txid flags1 flags2 counts records ++ queryName entry.name).length := by
    rw [List.length_append, length, Nat.add_assoc]
  have cls := getU16_append_right (replyHdr txid flags1 flags2 counts records ++ queryName entry.name)
    ([0, 1, 0, 1] ++ (records.flatMap ResourceRecord.encode ++ others)) 2
  have type := getU16_append_right (replyHdr txid flags1 flags2 counts records ++ queryName entry.name)
    ([0, 1, 0, 1] ++ (records.flatMap ResourceRecord.encode ++ others)) 0
  have one (rest : Bytes) : getU16 ([0, 1, 0, 1] ++ rest) 2 = 1 ∧
      getU16 ([0, 1, 0, 1] ++ rest) 0 = 1 := by
    simp [getU16]
  rw [(one _).1] at cls
  rw [(one _).2, Nat.add_zero] at type
  rw [reply_eq, dnsQuestion, flag, questions]
  rw [hdr] at compared place
  rw [compared, place, if_neg response]
  simp only [cls, type, ne_eq, not_true_eq_false, if_false, or_self]
  rw [← place, length]
  have long : sizeofDnsHdr + entry.name.length + 2 + sizeofDnsQuery ≤
      (replyHdr txid flags1 flags2 counts records ++ queryName entry.name ++
        ([0, 1, 0, 1] ++ (records.flatMap ResourceRecord.encode ++ others))).length := by
    rw [List.length_append, ← place, List.length_append]
    exact Nat.add_le_add_left (Nat.le_add_right 4 _) _
  simp only [sizeofDnsHdr, nameError, sizeofDnsQuery, dnsMaxNameLength] at fits long ⊢
  rw [if_neg (by omega), if_neg (by omega), if_neg (by omega), Nat.add_assoc 12]

end Reply

variable {F : Type} {s : DnsClient F}

/-- The transaction of an entry leads back to it. -/
theorem DnsSound.find_txid (sound : DnsSound s) {i : Fin dnsTableSize} (asks : s.Asks i) :
    ((List.finRange dnsTableSize).find? fun j =>
      decide ((s.dnsTable j).state = .asking ∧ (s.dnsTable j).txid = (s.dnsTable i).txid)) =
      some i := by
  cases found : (List.finRange dnsTableSize).find? fun j =>
      decide ((s.dnsTable j).state = .asking ∧ (s.dnsTable j).txid = (s.dnsTable i).txid) with
  | none =>
    have none := List.find?_eq_none.mp found i (List.mem_finRange i)
    exact absurd (decide_eq_true ⟨asks, rfl⟩) none
  | some j =>
    have both := List.find?_some found
    simp only [decide_eq_true_eq] at both
    rw [sound.txids j i both.1 asks both.2]

/-- A response without an error ends the lookup of its entry. -/
theorem dnsRecv_eq (sound : DnsSound s) {i : Fin dnsTableSize} (asks : s.Asks i) {p : Bytes}
    {addr : Ip4Addr} {behind : Nat → UInt8} {resIdx : Nat} {records : List ResourceRecord}
    (long : sizeofDnsHdr + sizeofDnsQuery ≤ p.length) (txid : getU16 p 0 = (s.dnsTable i).txid)
    (question : dnsQuestion (s.dnsTable i) (s.dnsServers (s.dnsTable i).serverIdx) behind p addr =
      some resIdx) (success : p.getD 3 0 &&& 0x0f = 0)
    (answer : dnsAnswers p (getU16 p 6).toNat resIdx = answered records) (outcome : CheckOutcome) :
    dnsRecv outcome behind p addr s =
      match firstAddress records with
      | some (ip4addr, ttl) =>
        some (dnsCorrectResponse i ttl (s.setEntry i { s.dnsTable i with ipaddr := ip4addr }))
      | none => some (dnsFail i s) := by
  simp only [dnsRecv, txid, sound.find_txid asks, question, success, answer, answered]
  rw [if_neg (not_lt.mpr long)]
  cases firstAddress records <;> rfl

section Resolved

variable {ts : List (Transition (DnsClient F) (DnsEvent F))} {i : Fin dnsTableSize}
  {flags1 flags2 : UInt8} (counts : UInt32) (records : List ResourceRecord) (others : Bytes)
  (behind : Nat → UInt8) (outcome : CheckOutcome)

/-- The query of an entry, answered. -/
def DnsClient.replyTo (s : DnsClient F) (i : Fin dnsTableSize) (flags1 flags2 : UInt8)
    (counts : UInt32) (records : List ResourceRecord) (others : Bytes) : Bytes :=
  reply (dnsQuery (s.dnsTable i).txid (s.dnsTable i).name) flags1 flags2 counts records others

theorem dnsRecv_replyTo (sound : DnsSound s) (asks : s.Asks i)
    (formed : WellFormed ((s.dnsTable i).name.splitOn 0x2e)) (response : flags1 &&& 0x80 ≠ 0)
    (success : flags2 &&& 0x0f = 0)
    (bound : (s.replyTo i flags1 flags2 counts records others).length ≤ 0xFFFF) :
    dnsRecv outcome behind (s.replyTo i flags1 flags2 counts records others)
        (s.dnsServers (s.dnsTable i).serverIdx) s =
      match firstAddress records with
      | some (ip4addr, ttl) =>
        some (dnsCorrectResponse i ttl (s.setEntry i { s.dnsTable i with ipaddr := ip4addr }))
      | none => some (dnsFail i s) := by
  have fits := (sound.strings i asks.named).2
  generalize equal : s.replyTo i flags1 flags2 counts records others = p at bound
  have question := dnsQuestion_reply (s.dnsTable i).txid flags1 flags2 counts records others
    (s.dnsServers (s.dnsTable i).serverIdx) behind fits formed response
  have bytes := reply_eq (s.dnsTable i).txid (s.dnsTable i).name flags1 flags2 counts records others
  rw [← DnsClient.replyTo, equal] at question bytes
  obtain ⟨txid, _, flag, _, nanswers⟩ := reply_header (s.dnsTable i).txid flags1 flags2 counts records
    (queryName (s.dnsTable i).name ++
      ([0, 1, 0, 1] ++ (records.flatMap ResourceRecord.encode ++ others)))
  rw [← List.append_assoc, ← bytes] at txid flag nanswers
  have split : p = (replyHdr (s.dnsTable i).txid flags1 flags2 counts records ++
      queryName (s.dnsTable i).name ++ [0, 1, 0, 1]) ++
        (records.flatMap ResourceRecord.encode ++ others) := by
    simp [bytes]
  have answer := dnsAnswers_encode others records _ (split ▸ bound)
  rw [← split] at answer
  have count : (getU16 p 6).toNat = records.length := by
    have few := length_le_encode records
    rw [nanswers, Nat.toUInt16, UInt16.toNat_ofNat', Nat.mod_eq_of_lt]
    simp only [split, List.length_append] at bound
    omega
  refine dnsRecv_eq sound asks ?_ txid question (by rwa [flag]) ?_ outcome
  · simp only [split, List.length_append, length_replyHdr, List.length_cons, List.length_nil,
      sizeofDnsHdr, sizeofDnsQuery]
    omega
  · rw [count, ← answer, List.length_append, List.length_append, length_replyHdr]
    rfl

/-- A reply without an error, from the server asked, is given to all who wait for its name: the
first address in it, or NULL where there is none. -/
theorem reply_answered (run : Run dnsStep (dnsBoot F) ts s) (asks : s.Asks i)
    (formed : WellFormed ((s.dnsTable i).name.splitOn 0x2e)) (response : flags1 &&& 0x80 ≠ 0)
    (success : flags2 &&& 0x0f = 0)
    (bound : (s.replyTo i flags1 flags2 counts records others).length ≤ 0xFFFF) :
    answers (dnsCalls s (.recv (s.replyTo i flags1 flags2 counts records others)
        (s.dnsServers (s.dnsTable i).serverIdx) behind outcome)) =
      (s.waitingFor i).map (·, (firstAddress records).map Prod.fst) := by
  have received := dnsRecv_replyTo counts records others behind outcome (dnsSound_of_run run) asks
    formed response success bound
  rw [dnsCalls, dnsHandle, received]
  cases firstAddress records with
  | none =>
    have closed := (closed_dnsFail i s (s.dnsTable i) asks rfl rfl).1
    rw [s.setEntry_dnsTable i] at closed
    exact closed.called
  | some found =>
    obtain ⟨ip4addr, ttl⟩ := found
    generalize responded : dnsCorrectResponse i ttl
      (s.setEntry i { s.dnsTable i with ipaddr := ip4addr }) = result
    obtain ⟨s', calls⟩ := result
    have closed := dnsCorrectResponse_closed asks (by rfl) (by rfl) responded
    dsimp only
    rw [responded]
    exact closed.1.called

/-- An alias, then an address of it. -/
def aliasReply : List ResourceRecord :=
  [{ labels := [], pointer := some (0xc0, 12), type := 5, cls := 1, ttl := 60, data := [0xc0, 17]
     formed := ⟨by simp, by simp⟩
     marked := by rintro _ _ ⟨⟩; rfl
     named := by simp
     short := by decide },
   { labels := [ascii "0"], pointer := some (0xc0, 17), type := 1, cls := 1, ttl := 9
     data := [162, 159, 200, 1]
     formed := ⟨by decide, by simp⟩
     marked := by rintro _ _ ⟨⟩; rfl
     named := by simp
     short := by decide }]

/-- The entry that the replies are for. -/
theorem poolLookups_asks : ∃ ts, ∃ s : DnsClient Nat, Run dnsStep (dnsBoot Nat) ts s ∧ s.Asks 0 ∧
    (s.dnsTable 0).name = ascii "pool.ntp.org" ∧ s.waitingFor 0 = [5, 6] ∧
    (s.replyTo 0 0x81 0x80 0 aliasReply []).length = 62 ∧
    (dnsStep s (.recv (s.replyTo 0 0x81 0x80 0 aliasReply []) (s.dnsServers (s.dnsTable 0).serverIdx)
      (fun _ => 0) ⟨[], false⟩)).isSome ∧
    WellFormed ((s.dnsTable 0).name.splitOn 0x2e) := by
  have done : (exec dnsStep (dnsBoot Nat) poolLookups).map (fun result => decide (
      (result.2.dnsTable 0).state = .asking ∧ (result.2.dnsTable 0).name = ascii "pool.ntp.org" ∧
      result.2.waitingFor 0 = [5, 6] ∧
      (result.2.replyTo 0 0x81 0x80 0 aliasReply []).length = 62 ∧
      (dnsStep result.2 (.recv (result.2.replyTo 0 0x81 0x80 0 aliasReply [])
        (result.2.dnsServers (result.2.dnsTable 0).serverIdx) (fun _ => 0) ⟨[], false⟩)).isSome)) =
      some true := by
    decide +kernel
  obtain ⟨ts, s, run, facts⟩ := exists_run done
  obtain ⟨asks, name, waiting, length, goes⟩ := of_decide_eq_true facts
  have split : (ascii "pool.ntp.org").splitOn 0x2e = [ascii "pool", ascii "ntp", ascii "org"] := by
    decide +kernel
  refine ⟨ts, s, run, asks, name, waiting, length, goes, ?_⟩
  rw [show (s.dnsTable 0).name = ascii "pool.ntp.org" from name, split]
  exact ⟨by decide, by decide⟩

theorem reply_answered_aliasReply : ∃ s : DnsClient Nat,
    answers (dnsCalls s (.recv (s.replyTo 0 0x81 0x80 0 aliasReply [])
      (s.dnsServers (s.dnsTable 0).serverIdx) (fun _ => 0) ⟨[], false⟩)) =
      [(5, some 0x01c89fa2), (6, some 0x01c89fa2)] := by
  obtain ⟨ts, s, run, asks, _, waiting, length, _, formed⟩ := poolLookups_asks
  have response : (0x81 : UInt8) &&& 0x80 ≠ 0 := by decide
  have success : (0x80 : UInt8) &&& 0x0f = 0 := by decide
  have answered := reply_answered 0 aliasReply [] (fun _ => 0) ⟨[], false⟩ run asks formed response
    success (by rw [length]; decide)
  rw [waiting] at answered
  exact ⟨s, answered⟩

theorem dnsLookup_of_done (sound : DnsSound s) (done : (s.dnsTable i).state = .done)
    {hostname : Bytes} (string : 0 ∉ hostname)
    (alike : lowered hostname = lowered (s.dnsTable i).name) :
    dnsLookup hostname s = some (s.dnsTable i).ipaddr := by
  have name := sound.strings i (.inr done)
  have length : hostname.length = (s.dnsTable i).name.length := by
    simpa [lowered] using congrArg List.length alike
  have short : hostname.length < dnsMaxNameLength := length ▸ name.2
  cases found : (List.finRange dnsTableSize).find? fun j => decide ((s.dnsTable j).state = .done ∧
      lwipStrnicmp hostname (s.dnsTable j).name dnsMaxNameLength = 0) with
  | none =>
    have none := List.find?_eq_none.mp found i (List.mem_finRange i)
    have same := (lwipStrnicmp_eq_zero_iff string name.1 short).mpr alike
    exact absurd (decide_eq_true ⟨done, same⟩) none
  | some j =>
    have both := List.find?_some found
    simp only [decide_eq_true_eq] at both
    have other := sound.strings j (.inr both.1)
    have same := (lwipStrnicmp_eq_zero_iff string other.1 short).mp both.2
    -- the name is in the table only once
    have unique := sound.names j i (.inr both.1) (.inr done) (same.symm.trans alike)
    rw [dnsLookup, found, Option.map_some, unique]

/-- The address of a reply is there at once for who asks for the name next, in capitals or not. -/
theorem reply_cached {s' : DnsClient F} (run : Run dnsStep (dnsBoot F) ts s) (asks : s.Asks i)
    (formed : WellFormed ((s.dnsTable i).name.splitOn 0x2e)) (response : flags1 &&& 0x80 ≠ 0)
    (success : flags2 &&& 0x0f = 0)
    (bound : (s.replyTo i flags1 flags2 counts records others).length ≤ 0xFFFF)
    {ip4addr : Ip4Addr} {ttl : UInt32} (first : firstAddress records = some (ip4addr, ttl))
    (lives : ttl ≠ 0) (taken : dnsStep s (.recv (s.replyTo i flags1 flags2 counts records others)
      (s.dnsServers (s.dnsTable i).serverIdx) behind outcome) = some s')
    {hostname : Bytes} (string : 0 ∉ hostname) (full : hostname ≠ [])
    (alike : lowered hostname = lowered (s.dnsTable i).name) (found : F) (ports : PortOutcome) (next : CheckOutcome) :
    dnsReturned s' (.gethostbyname hostname found ports next) = some (errOk, some ip4addr) := by
  have sound := dnsSound_of_run run
  have sound' := dnsSound_of_run (run.next taken)
  have short : hostname.length < dnsMaxNameLength := by
    have length : hostname.length = (s.dnsTable i).name.length := by
      simpa [lowered] using congrArg List.length alike
    rw [length]
    exact (sound.strings i asks.named).2
  -- the name would have been answered as an address before
  have noAddress : ip4addrAton hostname = none := by
    rw [← ip4addrAton_lowered, alike, ip4addrAton_lowered]
    exact sound.noAddress i asks.named
  rw [dnsStep, dnsHandle, dnsRecv_replyTo counts records others behind outcome sound asks formed
    response success bound, first] at taken
  generalize responded : dnsCorrectResponse i ttl
    (s.setEntry i { s.dnsTable i with ipaddr := ip4addr }) = result
  obtain ⟨s₁, calls⟩ := result
  dsimp only at taken
  rw [responded] at taken
  obtain rfl : s₁ = s' := by simpa using taken
  obtain ⟨closed, ⟨zero, _⟩ | ⟨_, done, ipaddr, _⟩⟩ :=
    dnsCorrectResponse_closed asks (by rfl) (by rfl) responded
  · exact absurd zero lives
  · have cached := dnsLookup_of_done sound' done string (by rw [alike, closed.name])
    rw [ipaddr] at cached
    simp [dnsReturned, dnsGethostbyname, full, not_le.mpr short, noAddress, cached]

theorem reply_cached_aliasReply : ∃ s' : DnsClient Nat,
    dnsReturned s' (.gethostbyname (ascii "pool.NTP.org") 7 ⟨false, []⟩ ⟨[], false⟩) =
      some (errOk, some 0x01c89fa2) := by
  obtain ⟨ts, s, run, asks, name, _, length, goes, formed⟩ := poolLookups_asks
  obtain ⟨s', taken⟩ := Option.isSome_iff_exists.mp goes
  have first : firstAddress aliasReply = some (0x01c89fa2, 9) := by decide +kernel
  have alike : lowered (ascii "pool.NTP.org") = lowered (s.dnsTable 0).name := by
    rw [name]
    decide +kernel
  have response : (0x81 : UInt8) &&& 0x80 ≠ 0 := by decide
  have success : (0x80 : UInt8) &&& 0x0f = 0 := by decide
  exact ⟨s', reply_cached 0 aliasReply [] (fun _ => 0) ⟨[], false⟩ run asks formed response success
    (by rw [length]; decide) first (by decide) taken (by decide) (by decide) alike 7 ⟨false, []⟩
    ⟨[], false⟩⟩

end Resolved

end EpaperClock
