import EpaperClock.DnsClient
import EpaperClock.Library.Run

/-! What one event does to the resolver. -/
namespace EpaperClock

open Decimal

variable {F : Type}

/-! ### Equal names -/

def lowered (name : Bytes) : Bytes := name.map lwipTolower

/-- What holds of all 256 bytes. -/
theorem forall_uint8 {p : UInt8 → Prop} (all : ∀ n : Fin 256, p (UInt8.ofNat n)) (c : UInt8) : p c := by
  have this := all ⟨c.toNat, c.toNat_lt⟩
  simpa using this

theorem lwipTolower_eq (c : UInt8) :
    lwipTolower c = if 0x61 ≤ c ||| 0x20 ∧ c ||| 0x20 ≤ 0x7a then c ||| 0x20 else c :=
  forall_uint8 (p := fun c => lwipTolower c =
    if 0x61 ≤ c ||| 0x20 ∧ c ||| 0x20 ≤ 0x7a then c ||| 0x20 else c) (by decide +kernel) c

theorem lwipTolower_eq_zero {c : UInt8} : lwipTolower c = 0 ↔ c = 0 :=
  forall_uint8 (p := fun c => lwipTolower c = 0 ↔ c = 0) (by decide +kernel) c

/-- The two ways in which the comparison takes characters for equal. -/
theorem lwipTolower_inj (c1 c2 : UInt8) : lwipTolower c1 = lwipTolower c2 ↔
    c1 = c2 ∨ 0x61 ≤ c1 ||| 0x20 ∧ c1 ||| 0x20 ≤ 0x7a ∧ c1 ||| 0x20 = c2 ||| 0x20 := by
  have upc (c : UInt8) : c ||| 0x20 ||| 0x20 = c ||| 0x20 := by
    rw [UInt8.or_assoc, UInt8.or_self]
  rw [lwipTolower_eq, lwipTolower_eq]
  constructor
  · intro same
    split at same <;> split at same
    next letter _ => exact .inr ⟨letter.1, letter.2, same⟩
    next letter other =>
      -- a letter in lower case is one
      exact absurd (by rw [← same, upc]; exact letter) other
    next other letter => exact absurd (by rw [same, upc]; exact letter) other
    next => exact .inl same
  · rintro (rfl | ⟨low, high, same⟩)
    · rfl
    · rw [if_pos ⟨low, high⟩, if_pos ⟨same ▸ low, same ▸ high⟩, same]

theorem lwipStrnicmp_succ (str1 str2 : Bytes) (len : Nat) : lwipStrnicmp str1 str2 (len + 1) = 0 ↔
    lwipTolower (str1.headD 0) = lwipTolower (str2.headD 0) ∧
      (str1.headD 0 = 0 ∨ lwipStrnicmp str1.tail str2.tail len = 0) := by
  rw [lwipTolower_inj, lwipStrnicmp]
  split
  next differ =>
    obtain ⟨differ, other⟩ := differ
    simp only [Nat.one_ne_zero, differ, other, or_self, false_and]
  next same =>
    rw [not_and_or, not_not, not_not] at same
    rw [and_iff_right same]
    split
    next ends => exact iff_of_true rfl (.inl ends)
    next goes => exact (or_iff_right goes).symm

/-- The strings that compare equal are those with the same lower case. -/
theorem lwipStrnicmp_eq_zero_iff {len : Nat} : ∀ {str1 str2 : Bytes}, 0 ∉ str1 → 0 ∉ str2 →
    str1.length < len → (lwipStrnicmp str1 str2 len = 0 ↔ lowered str1 = lowered str2) := by
  induction len with
  | zero => intro _ _ _ _ long; omega
  | succ len ih =>
    intro str1 str2 string1 string2 fits
    rw [lwipStrnicmp_succ]
    cases str1 with
    | nil =>
      cases str2 with
      | nil => simp
      | cons c2 str2 =>
        have nonzero : c2 ≠ 0 := fun zero => string2 (by simp [zero])
        have differ : lwipTolower 0 ≠ lwipTolower c2 := fun same =>
          nonzero (lwipTolower_eq_zero.mp same.symm)
        simp [lowered, differ]
    | cons c1 str1 =>
      have nonzero : c1 ≠ 0 := fun zero => string1 (by simp [zero])
      cases str2 with
      | nil =>
        have differ : lwipTolower c1 ≠ lwipTolower 0 := fun same =>
          nonzero (lwipTolower_eq_zero.mp same)
        simp [lowered, differ]
      | cons c2 str2 =>
        have rest := ih (fun zero => string1 (List.mem_cons_of_mem _ zero))
          (fun zero => string2 (List.mem_cons_of_mem _ zero)) (Nat.lt_of_succ_lt_succ fits)
        simp [lowered, nonzero, rest]

/-! ### Addresses as names -/

theorem lwipTolower_of_isDigit {c : UInt8} : isDigit c = true → lwipTolower c = c :=
  forall_uint8 (p := fun c => isDigit c = true → lwipTolower c = c) (by decide +kernel) c

theorem isDigit_lwipTolower (c : UInt8) : isDigit (lwipTolower c) = isDigit c :=
  forall_uint8 (p := fun c => isDigit (lwipTolower c) = isDigit c) (by decide +kernel) c

theorem isSpace_lwipTolower (c : UInt8) : isSpace (lwipTolower c) = isSpace c :=
  forall_uint8 (p := fun c => isSpace (lwipTolower c) = isSpace c) (by decide +kernel) c

theorem lwipIsxdigit_lwipTolower (c : UInt8) : lwipIsxdigit (lwipTolower c) = lwipIsxdigit c :=
  forall_uint8 (p := fun c => lwipIsxdigit (lwipTolower c) = lwipIsxdigit c) (by decide +kernel) c

/-- The letters among the hexadecimal digits count the same in capitals. -/
theorem hexLetter_lwipTolower {c : UInt8} : lwipIsxdigit c = true → isDigit c = false →
    lwipTolower c + 10 - (if lwipIslower (lwipTolower c) then 0x61 else 0x41) =
      c + 10 - if lwipIslower c then 0x61 else 0x41 :=
  forall_uint8 (p := fun c => lwipIsxdigit c = true → isDigit c = false →
    lwipTolower c + 10 - (if lwipIslower (lwipTolower c) then 0x61 else 0x41) =
      c + 10 - if lwipIslower c then 0x61 else 0x41) (by decide +kernel) c

theorem lwipTolower_eq_dot (c : UInt8) : lwipTolower c = 0x2e ↔ c = 0x2e :=
  forall_uint8 (p := fun c => lwipTolower c = 0x2e ↔ c = 0x2e) (by decide +kernel) c

/-- The marks of a hexadecimal number. -/
theorem lwipTolower_eq_x (c : UInt8) :
    lwipTolower c = 0x78 ∨ lwipTolower c = 0x58 ↔ c = 0x78 ∨ c = 0x58 :=
  forall_uint8 (p := fun c => lwipTolower c = 0x78 ∨ lwipTolower c = 0x58 ↔ c = 0x78 ∨ c = 0x58)
    (by decide +kernel) c

theorem atonDigits_lowered (base : UInt32) (cp : Bytes) : ∀ val, atonDigits base val (lowered cp) =
    ((atonDigits base val cp).1, lowered (atonDigits base val cp).2) := by
  induction cp with
  | nil => exact fun _ => rfl
  | cons c cp ih =>
    intro val
    have step : lowered (c :: cp) = lwipTolower c :: lowered cp := rfl
    rw [step, atonDigits, atonDigits, isDigit_lwipTolower, lwipIsxdigit_lwipTolower]
    cases digit : isDigit c with
    | true =>
      simp only [if_true, lwipTolower_of_isDigit digit]
      exact ih _
    | false =>
      simp only [Bool.false_eq_true, if_false]
      split
      next hex =>
        rw [hexLetter_lwipTolower (Bool.and_eq_true_iff.mp hex).2 digit]
        exact ih _
      next => rfl

theorem atonPart_lowered (cp : Bytes) :
    atonPart (lowered cp) = (atonPart cp).map fun part => (part.1, lowered part.2) := by
  cases cp with
  | nil => rfl
  | cons c cp =>
    have step : lowered (c :: cp) = lwipTolower c :: lowered cp := rfl
    rw [step]
    unfold atonPart
    dsimp only
    rw [isDigit_lwipTolower]
    cases digit : isDigit c with
    | false => rfl
    | true =>
      simp only [if_true, lwipTolower_of_isDigit digit]
      split
      next zero =>
        cases cp with
        | nil => rfl
        | cons c' cp =>
          have step' : lowered (c' :: cp) = lwipTolower c' :: lowered cp := rfl
          rw [step']
          simp only [lwipTolower_eq_x c']
          split
          next => rw [atonDigits_lowered]; rfl
          next => rw [← step', atonDigits_lowered]; rfl
      next =>
        have digits := atonDigits_lowered 10 (c :: cp) 0
        rw [step, lwipTolower_of_isDigit digit] at digits
        rw [digits]
        rfl

theorem atonParts_lowered (room : Nat) : ∀ cp, atonParts room (lowered cp) =
    (atonParts room cp).map fun parts => (parts.1, parts.2.1, lowered parts.2.2) := by
  have dot (cp : Bytes) : (lowered cp).head? = some 0x2e ↔ cp.head? = some 0x2e := by
    cases cp with
    | nil => rfl
    | cons c cp => simpa [lowered] using lwipTolower_eq_dot c
  have tail (cp : Bytes) : (lowered cp).tail = lowered cp.tail := List.map_tail.symm
  induction room with
  | zero =>
    intro cp
    rw [atonParts, atonParts, atonPart_lowered]
    cases atonPart cp with
    | none => rfl
    | some part =>
      simp only [Option.map_some, Option.bind_eq_bind, Option.bind_some, dot]
      split <;> rfl
  | succ room ih =>
    intro cp
    rw [atonParts, atonParts, atonPart_lowered]
    cases atonPart cp with
    | none => rfl
    | some part =>
      simp only [Option.map_some, Option.bind_eq_bind, Option.bind_some, dot, tail, ih]
      split
      next =>
        cases atonParts room part.2.tail with
        | none => rfl
        | some parts => rfl
      next => rfl

/-- A text is an address in capitals or not. -/
theorem ip4addrAton_lowered (cp : Bytes) : ip4addrAton (lowered cp) = ip4addrAton cp := by
  rw [ip4addrAton, ip4addrAton, atonParts_lowered]
  cases atonParts 3 cp with
  | none => rfl
  | some parts =>
    have space : ((lowered parts.2.2).head?.map isSpace).getD true =
        (parts.2.2.head?.map isSpace).getD true := by
      cases parts.2.2 with
      | nil => rfl
      | cons c cp => simp [lowered, isSpace_lwipTolower]
    simp only [Option.map_some, Option.bind_eq_bind, Option.bind_some, space]

/-! ### Answers -/

/-- The callback of a call, with the address it is given. -/
def DnsCall.answer : DnsCall F → Option (F × Option Ip4Addr)
  | found callback _ ipaddr => some (callback, ipaddr)
  | udpSendto _ _ _ => none

def answers (calls : List (DnsCall F)) : List (F × Option Ip4Addr) := calls.filterMap DnsCall.answer

/-- The callbacks that wait for an entry. -/
def DnsClient.waitingFor (i : Fin dnsTableSize) (s : DnsClient F) : List F :=
  (List.finRange dnsTableSize).filterMap fun r =>
    if (s.dnsRequests r).dnsTableIdx = i then (s.dnsRequests r).found else none

namespace DnsClient

variable (s : DnsClient F) (i : Fin dnsTableSize) (entry : DnsTableEntry)

@[simp] theorem setEntry_dnsTable_self : (s.setEntry i entry).dnsTable i = entry :=
  Function.update_self ..

theorem setEntry_dnsTable_of_ne {j : Fin dnsTableSize} (other : j ≠ i) :
    (s.setEntry i entry).dnsTable j = s.dnsTable j :=
  Function.update_of_ne other ..

@[simp] theorem setEntry_dnsTable : s.setEntry i (s.dnsTable i) = s := by simp [setEntry]

@[simp] theorem setEntry_dnsRequests : (s.setEntry i entry).dnsRequests = s.dnsRequests := rfl

@[simp] theorem setEntry_dnsPcbs : (s.setEntry i entry).dnsPcbs = s.dnsPcbs := rfl

@[simp] theorem setEntry_dnsServers : (s.setEntry i entry).dnsServers = s.dnsServers := rfl

@[simp] theorem setRequest_dnsTable (r : Fin dnsTableSize) (req : DnsReqEntry F) :
    (s.setRequest r req).dnsTable = s.dnsTable := rfl

@[simp] theorem setRequest_dnsPcbs (r : Fin dnsTableSize) (req : DnsReqEntry F) :
    (s.setRequest r req).dnsPcbs = s.dnsPcbs := rfl

@[simp] theorem setRequest_dnsServers (r : Fin dnsTableSize) (req : DnsReqEntry F) :
    (s.setRequest r req).dnsServers = s.dnsServers := rfl

@[simp] theorem setRequest_dnsRequests (r : Fin dnsTableSize) (req : DnsReqEntry F) :
    (s.setRequest r req).dnsRequests = Function.update s.dnsRequests r req := rfl

@[simp] theorem setEntry_setEntry (entry' : DnsTableEntry) :
    (s.setEntry i entry).setEntry i entry' = s.setEntry i entry' := by
  simp [setEntry]

@[simp] theorem setEntry_waitingFor (j : Fin dnsTableSize) :
    (s.setEntry i entry).waitingFor j = s.waitingFor j := rfl

end DnsClient

section Setserver

variable (numdns : UInt8) (dnsserver : Option Ip4Addr) (s : DnsClient F)

@[simp] theorem dnsSetserver_dnsTable : (dnsSetserver numdns dnsserver s).dnsTable = s.dnsTable := by
  unfold dnsSetserver
  split <;> rfl

@[simp] theorem dnsSetserver_dnsRequests :
    (dnsSetserver numdns dnsserver s).dnsRequests = s.dnsRequests := by
  unfold dnsSetserver
  split <;> rfl

@[simp] theorem dnsSetserver_dnsPcbs : (dnsSetserver numdns dnsserver s).dnsPcbs = s.dnsPcbs := by
  unfold dnsSetserver
  split <;> rfl

end Setserver

/-- All who wait for an entry have been called, and its control block is closed unless another
entry uses it. -/
structure Closed (s : DnsClient F) (i : Fin dnsTableSize) (addr : Option Ip4Addr)
    (s' : DnsClient F) (gone : List (F × Option Ip4Addr)) : Prop where
  asking : (s.dnsTable i).state = .asking
  called : gone = (s.waitingFor i).map (·, addr)
  requests : s'.dnsRequests = fun r =>
    if (s.dnsRequests r).dnsTableIdx = i then { s.dnsRequests r with found := none }
    else s.dnsRequests r
  pcbs : ∀ pcb, s'.dnsPcbs pcb =
    if (s.dnsTable i).pcbIdx = some pcb ∧
        ¬∃ j, j ≠ i ∧ (s.dnsTable j).state = .asking ∧ (s.dnsTable j).pcbIdx = some pcb then none
    else s.dnsPcbs pcb
  others : ∀ j, j ≠ i → s'.dnsTable j = s.dnsTable j
  name : (s'.dnsTable i).name = (s.dnsTable i).name
  servers : s'.dnsServers = s.dnsServers

theorem Closed.name_eq {s s' : DnsClient F} {i : Fin dnsTableSize} {addr : Option Ip4Addr}
    {gone : List (F × Option Ip4Addr)} (closed : Closed s i addr s' gone) (j : Fin dnsTableSize) :
    (s'.dnsTable j).name = (s.dnsTable j).name := by
  by_cases this : j = i
  · rw [this, closed.name]
  · rw [closed.others j this]

theorem Closed.request {s s' : DnsClient F} {i : Fin dnsTableSize} {addr : Option Ip4Addr}
    {gone : List (F × Option Ip4Addr)} (closed : Closed s i addr s' gone)
    {r j : Fin dnsTableSize} {found : F} (held : s'.dnsRequests r = ⟨some found, j⟩) :
    s.dnsRequests r = ⟨some found, j⟩ := by
  rw [closed.requests] at held
  dsimp only at held
  split at held
  next => cases held
  next => exact held

section CallFound

variable (idx : Fin dnsTableSize) (addr : Option Ip4Addr) (s : DnsClient F)

theorem answers_dnsCallFound :
    answers (dnsCallFound idx addr s).2 = (s.waitingFor idx).map (·, addr) := by
  simp only [answers, dnsCallFound, DnsClient.waitingFor, List.filterMap_filterMap,
    List.map_filterMap]
  refine List.filterMap_congr fun r _ => ?_
  split <;> cases (s.dnsRequests r).found <;> rfl

theorem shared_setEntry (before : DnsTableEntry) (pcb : Fin dnsTableSize) :
    (∃ j, j ≠ idx ∧ ((s.setEntry idx before).dnsTable j).state = .asking ∧
      ((s.setEntry idx before).dnsTable j).pcbIdx = some pcb) ↔
    ∃ j, j ≠ idx ∧ (s.dnsTable j).state = .asking ∧ (s.dnsTable j).pcbIdx = some pcb := by
  refine exists_congr fun j => and_congr_right fun other => ?_
  rw [s.setEntry_dnsTable_of_ne idx before other]

theorem closed_dnsCallFound (before : DnsTableEntry) (asking : (s.dnsTable idx).state = .asking)
    (same : before.pcbIdx = (s.dnsTable idx).pcbIdx) (name : before.name = (s.dnsTable idx).name) :
    Closed s idx addr (dnsCallFound idx addr (s.setEntry idx before)).1
      (answers (dnsCallFound idx addr (s.setEntry idx before)).2) where
  asking
  called := answers_dnsCallFound ..
  requests := rfl
  pcbs pcb := by
    simp only [dnsCallFound, DnsClient.setEntry_dnsPcbs, DnsClient.setEntry_dnsTable_self, same,
      shared_setEntry]
    cases (s.dnsTable idx).pcbIdx with
    | none => simp
    | some used =>
      by_cases this : pcb = used
      · subst this
        by_cases shared : ∃ j, j ≠ idx ∧ (s.dnsTable j).state = .asking ∧
            (s.dnsTable j).pcbIdx = some pcb
        · simp [shared]
        · simp [shared]
      · rw [if_neg (fun both => this (Option.some.inj both.1).symm)]
        dsimp only
        split
        next => rfl
        next => exact Function.update_of_ne this ..
  others j other := by
    simp [dnsCallFound, DnsClient.setEntry, other]
  name := by simp [dnsCallFound, name]
  servers := rfl

/-- What becomes of the entry itself does not matter. -/
theorem Closed.setEntry {s s' : DnsClient F} {i : Fin dnsTableSize} {addr : Option Ip4Addr}
    {gone : List (F × Option Ip4Addr)} (closed : Closed s i addr s' gone) {entry : DnsTableEntry}
    (name : entry.name = (s.dnsTable i).name) : Closed s i addr (s'.setEntry i entry) gone where
  asking := closed.asking
  called := closed.called
  requests := closed.requests
  pcbs := closed.pcbs
  others j other := by rw [s'.setEntry_dnsTable_of_ne i entry other, closed.others j other]
  name := by rw [DnsClient.setEntry_dnsTable_self, name]
  servers := closed.servers

theorem closed_dnsFail (before : DnsTableEntry) (asking : (s.dnsTable idx).state = .asking)
    (same : before.pcbIdx = (s.dnsTable idx).pcbIdx) (name : before.name = (s.dnsTable idx).name) :
    Closed s idx none (dnsFail idx (s.setEntry idx before)).1
        (answers (dnsFail idx (s.setEntry idx before)).2) ∧
      ((dnsFail idx (s.setEntry idx before)).1.dnsTable idx).state = .unused := by
  constructor
  · have closed := closed_dnsCallFound idx none s before asking same name
    exact closed.setEntry closed.name
  · simp [dnsFail]

end CallFound

/-! ### The timer of an entry -/

/-- `tmr` and `retries` of an entry that asks a server, in the order in which they come. -/
def timerStates : List (UInt8 × UInt8) := [(1, 0), (1, 1), (2, 2), (1, 2), (3, 3), (2, 3), (1, 3)]

def DnsTableEntry.Timed (entry : DnsTableEntry) : Prop := (entry.tmr, entry.retries) ∈ timerStates

/-- The calls of `dns_tmr` until the entry gives up. -/
def DnsTableEntry.ticksLeft (entry : DnsTableEntry) : Nat :=
  timerStates.length * (1 - entry.serverIdx.val) +
    (timerStates.length - timerStates.idxOf (entry.tmr, entry.retries))

/-- The same request, at another time or to another server. -/
structure Retimed (entry entry' : DnsTableEntry) : Prop where
  state : entry'.state = entry.state
  txid : entry'.txid = entry.txid
  pcbIdx : entry'.pcbIdx = entry.pcbIdx
  name : entry'.name = entry.name

/-- How `dns_check_entry` walks down the list. -/
theorem timerStates_next : ∀ timer ∈ timerStates,
    (timer.1 - 1 ≠ 0 → (timer.1 - 1, timer.2) ∈ timerStates ∧
      timerStates.idxOf timer < timerStates.idxOf (timer.1 - 1, timer.2)) ∧
    (timer.1 - 1 = 0 → timer.2 + 1 ≠ dnsMaxRetries →
      (timer.2 + 1, timer.2 + 1) ∈ timerStates ∧
        timerStates.idxOf timer < timerStates.idxOf (timer.2 + 1, timer.2 + 1)) := by
  intro timer member
  simp only [timerStates, List.mem_cons, List.not_mem_nil, or_false] at member
  rcases member with rfl | rfl | rfl | rfl | rfl | rfl | rfl <;> decide

namespace DnsTableEntry

variable {entry entry' : DnsTableEntry}

theorem ticksLeft_lt (server : entry'.serverIdx = entry.serverIdx) (timed : entry.Timed)
    (later : timerStates.idxOf (entry.tmr, entry.retries) <
      timerStates.idxOf (entry'.tmr, entry'.retries)) : entry'.ticksLeft < entry.ticksLeft := by
  have inside := List.idxOf_lt_length_of_mem timed
  simp only [ticksLeft, server]
  omega

/-- With the next server, the retries start over. -/
theorem ticksLeft_nextServer (server : entry.serverIdx.val + 1 = entry'.serverIdx.val)
    (fresh : (entry'.tmr, entry'.retries) = (1, 0)) (timed : entry.Timed) :
    entry'.ticksLeft < entry.ticksLeft := by
  have inside := List.idxOf_lt_length_of_mem timed
  have last : entry'.serverIdx.val < 2 := entry'.serverIdx.isLt
  have start : timerStates.idxOf (entry'.tmr, entry'.retries) = 0 := by
    rw [fresh]
    rfl
  have first : entry.serverIdx.val = 0 := by omega
  have second : entry'.serverIdx.val = 1 := by omega
  simp only [ticksLeft, start, first, second]
  omega

/-- The last retry with the server. -/
theorem ticksLeft_last (timed : entry.Timed) :
    let last := { entry with retries := dnsMaxRetries - 1, tmr := 1 }
    last.Timed ∧ last.ticksLeft ≤ entry.ticksLeft := by
  have inside := List.idxOf_lt_length_of_mem timed
  have place : timerStates.idxOf (1, dnsMaxRetries - 1) = timerStates.length - 1 := by decide
  refine ⟨(by decide : (1, dnsMaxRetries - 1) ∈ timerStates), ?_⟩
  simp only [ticksLeft, place]
  omega

end DnsTableEntry

/-- What `dns_check_entry` does to an entry that is not new. -/
inductive DnsChecked (s : DnsClient F) (i : Fin dnsTableSize) :
    DnsClient F → List (F × Option Ip4Addr) → Prop where
  | idle (unused : (s.dnsTable i).state = .unused) : DnsChecked s i s []
  | waits {entry : DnsTableEntry} (asking : (s.dnsTable i).state = .asking)
      (same : Retimed (s.dnsTable i) entry) (timed : entry.Timed)
      (sooner : entry.ticksLeft < (s.dnsTable i).ticksLeft) :
      DnsChecked s i (s.setEntry i entry) []
  | fails {s' gone} (closed : Closed s i none s' gone) (unused : (s'.dnsTable i).state = .unused) :
      DnsChecked s i s' gone
  | ages (done : (s.dnsTable i).state = .done) (lives : 1 < (s.dnsTable i).ttl) :
      DnsChecked s i (s.setEntry i { s.dnsTable i with ttl := (s.dnsTable i).ttl - 1 }) []
  | flushes {ttl} (done : (s.dnsTable i).state = .done) :
      DnsChecked s i (s.setEntry i { s.dnsTable i with ttl, state := .unused }) []

/-- `dns_send` sends, or finds no server. -/
theorem dnsSend_eq {allocated : Bool} {i : Fin dnsTableSize} {s s' : DnsClient F}
    {calls : List (DnsCall F)} (sent : dnsSend allocated i s = some (s', calls)) :
    (s' = s ∧ answers calls = []) ∨ (s', calls) = dnsFail i s := by
  simp only [dnsSend] at sent
  split_ifs at sent
  · exact .inr (Option.some.inj sent).symm
  · obtain ⟨pcb, _, sent⟩ := Option.bind_eq_some_iff.mp sent
    obtain ⟨localPort, _, sent⟩ := Option.bind_eq_some_iff.mp sent
    obtain ⟨rfl, rfl⟩ := Prod.mk.inj (Option.some.inj sent)
    exact .inl ⟨rfl, rfl⟩
  · obtain ⟨rfl, rfl⟩ := Prod.mk.inj (Option.some.inj sent)
    exact .inl ⟨rfl, rfl⟩

/-- The entry asks again, here or elsewhere, unless `dns_send` finds no server. -/
theorem DnsChecked.of_dnsSend {allocated : Bool} {i : Fin dnsTableSize} {s s' : DnsClient F}
    {calls : List (DnsCall F)} {entry : DnsTableEntry}
    (sent : dnsSend allocated i (s.setEntry i entry) = some (s', calls))
    (asking : (s.dnsTable i).state = .asking) (same : Retimed (s.dnsTable i) entry)
    (timed : entry.Timed) (sooner : entry.ticksLeft < (s.dnsTable i).ticksLeft) :
    DnsChecked s i s' (answers calls) := by
  rcases dnsSend_eq sent with ⟨rfl, none⟩ | failed
  · rw [none]
    exact .waits asking same timed sooner
  · obtain ⟨rfl, rfl⟩ := Prod.mk.inj failed
    have closed := closed_dnsFail i s entry asking same.pcbIdx same.name
    exact .fails closed.1 closed.2

theorem dnsBackupserverAvailable_eq {entry : DnsTableEntry} {s : DnsClient F}
    {serverIdx : Fin dnsMaxServers} (found : dnsBackupserverAvailable entry s = some serverIdx) :
    entry.serverIdx.val + 1 = serverIdx.val ∧ s.dnsServers serverIdx ≠ 0 := by
  unfold dnsBackupserverAvailable at found
  split_ifs at found with inside set
  · cases found
    exact ⟨rfl, set⟩

theorem dnsCheckEntry_spec {outcome : CheckOutcome} {i : Fin dnsTableSize} {s s' : DnsClient F}
    {calls : List (DnsCall F)} (settled : (s.dnsTable i).state ≠ .new)
    (timed : (s.dnsTable i).state = .asking → (s.dnsTable i).Timed)
    (checked : dnsCheckEntry outcome i s = some (s', calls)) :
    DnsChecked s i s' (answers calls) := by
  cases state : (s.dnsTable i).state with
  | new => exact absurd state settled
  | unused =>
    simp only [dnsCheckEntry, state] at checked
    obtain ⟨rfl, rfl⟩ := Prod.mk.inj (Option.some.inj checked)
    exact .idle state
  | done =>
    simp only [dnsCheckEntry, state] at checked
    by_cases last : (s.dnsTable i).ttl = 0 ∨ (s.dnsTable i).ttl - 1 = 0
    · have zero : (if (s.dnsTable i).ttl = 0 then 0 else (s.dnsTable i).ttl - 1) = 0 := by
        rcases last with none | one
        · rw [if_pos none]
        · simp [one]
      rw [zero, if_pos rfl] at checked
      obtain ⟨rfl, rfl⟩ := Prod.mk.inj (Option.some.inj checked)
      exact .flushes state
    · obtain ⟨some, more⟩ := not_or.mp last
      rw [if_neg some, if_neg more, ← state] at checked
      obtain ⟨rfl, rfl⟩ := Prod.mk.inj (Option.some.inj checked)
      have lives : 1 < (s.dnsTable i).ttl := by
        grind
      exact .ages state lives
  | asking =>
    have timed := timed state
    obtain ⟨waits, asks⟩ := timerStates_next _ timed
    simp only [dnsCheckEntry, state] at checked
    split_ifs at checked with ended given
    · -- the last retry with this server
      split at checked
      next serverIdx backup =>
        have next := (dnsBackupserverAvailable_eq backup).1
        exact .of_dnsSend checked state ⟨state.symm, rfl, rfl, rfl⟩ (List.mem_cons_self ..)
          (DnsTableEntry.ticksLeft_nextServer next rfl timed)
      next =>
        obtain ⟨rfl, rfl⟩ := Prod.mk.inj (Option.some.inj checked)
        have closed := closed_dnsFail i s { s.dnsTable i with
          state := .asking, tmr := (s.dnsTable i).tmr - 1, retries := (s.dnsTable i).retries + 1 }
          state rfl rfl
        exact .fails closed.1 closed.2
    · obtain ⟨timed', later⟩ := asks ended given
      exact .of_dnsSend checked state ⟨state.symm, rfl, rfl, rfl⟩ timed'
        (DnsTableEntry.ticksLeft_lt rfl timed later)
    · obtain ⟨timed', later⟩ := waits ended
      obtain ⟨rfl, rfl⟩ := Prod.mk.inj (Option.some.inj checked)
      exact .waits state ⟨state.symm, rfl, rfl, rfl⟩ timed'
        (DnsTableEntry.ticksLeft_lt rfl timed later)

end EpaperClock
