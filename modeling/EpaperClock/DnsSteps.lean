import EpaperClock.DnsMoves
import EpaperClock.Library.Run

/-! What each event does to the resolver, in one relation. -/
namespace EpaperClock

open StepSystem

variable {F : Type}

/-- What `dns_check_entries` does, entry by entry. -/
inductive DnsCheckedEach : DnsClient F → List (Fin dnsTableSize) → DnsClient F →
    List (F × Option Ip4Addr) → Prop where
  | done (s : DnsClient F) : DnsCheckedEach s [] s []
  | next {s s₁ s' i rest gone more} (first : DnsChecked s i s₁ gone)
      (others : DnsCheckedEach s₁ rest s' more) : DnsCheckedEach s (i :: rest) s' (gone ++ more)

/-- A response that belongs to an entry; `resIdx` is behind its question. -/
structure Matches (s : DnsClient F) (p : Bytes) (addr : Ip4Addr) (behind : Nat → UInt8)
    (i : Fin dnsTableSize) (resIdx : Nat) : Prop where
  asking : (s.dnsTable i).state = .asking
  txid : (s.dnsTable i).txid = getU16 p 0
  question : dnsQuestion (s.dnsTable i) (s.dnsServers (s.dnsTable i).serverIdx) behind p addr =
    some resIdx

/-- The entry holds a name, with or without its address. -/
def DnsClient.Named (s : DnsClient F) (i : Fin dnsTableSize) : Prop :=
  (s.dnsTable i).state = .asking ∨ (s.dnsTable i).state = .done

/-- An entry has been made for a new request. -/
structure Started (s : DnsClient F) (hostname : Bytes) (found : F) (i r : Fin dnsTableSize)
    (s' : DnsClient F) : Prop where
  free : (s.dnsRequests r).found = none
  idle : (s.dnsTable i).state = .unused ∨ (s.dnsTable i).state = .done
  requests : s'.dnsRequests = Function.update s.dnsRequests r ⟨some found, i⟩
  others : ∀ j, j ≠ i → s'.dnsTable j = s.dnsTable j
  asking : (s'.dnsTable i).state = .asking
  name : (s'.dnsTable i).name = hostname
  timer : ((s'.dnsTable i).tmr, (s'.dnsTable i).retries) = (1, 0)
  unlike : ∀ j, s.Named j → lwipStrnicmp hostname (s.dnsTable j).name dnsMaxNameLength ≠ 0
  txid : ∀ j, (s.dnsTable j).state = .asking → (s.dnsTable j).txid ≠ (s'.dnsTable i).txid
  pcb : ∃ pcb, (s'.dnsTable i).pcbIdx = some pcb ∧ s'.dnsPcbs pcb ≠ none ∧
    ∀ other, other ≠ pcb → s'.dnsPcbs other = s.dnsPcbs other
  servers : s'.dnsServers = s.dnsServers

/-- The event, the request it accepts and the answers it gives. -/
inductive DnsMove (s : DnsClient F) : DnsEvent F → DnsClient F → List F →
    List (F × Option Ip4Addr) → Prop where
  | configured {numdns dnsserver} :
      DnsMove s (.setserver numdns dnsserver) (dnsSetserver numdns dnsserver s) [] []
  | ticked {outcome s' gone} (each : DnsCheckedEach s (List.finRange dnsTableSize) s' gone) :
      DnsMove s (.tmr outcome) s' [] gone
  | declined {hostname found ports outcome} :
      DnsMove s (.gethostbyname hostname found ports outcome) s [] []
  | joined {hostname found ports outcome r i} (string : 0 ∉ hostname)
      (short : hostname.length < dnsMaxNameLength) (free : (s.dnsRequests r).found = none)
      (asking : (s.dnsTable i).state = .asking)
      (alike : lwipStrnicmp hostname (s.dnsTable i).name dnsMaxNameLength = 0) :
      DnsMove s (.gethostbyname hostname found ports outcome) (s.setRequest r ⟨some found, i⟩)
        [found] []
  | started {hostname found ports outcome r i s'} (string : 0 ∉ hostname)
      (short : hostname.length < dnsMaxNameLength) (noAddress : ip4addrAton hostname = none)
      (start : Started s hostname found i r s') :
      DnsMove s (.gethostbyname hostname found ports outcome) s' [found] []
  -- no control block for the request
  | dropped {hostname found ports outcome r i entry} (free : (s.dnsRequests r).found = none)
      (idle : (s.dnsTable i).state = .unused ∨ (s.dnsTable i).state = .done)
      (unused : entry.state = .unused) :
      DnsMove s (.gethostbyname hostname found ports outcome)
        ((s.setEntry i entry).setRequest r ⟨none, i⟩) [] []
  | ignored {p addr behind outcome} : DnsMove s (.recv p addr behind outcome) s [] []
  | resolved {p addr behind outcome i resIdx ip4addr ttl s' gone}
      (response : Matches s p addr behind i resIdx)
      (answer : dnsAnswers p (getU16 p 6).toNat resIdx = .address ip4addr ttl)
      (closed : Closed s i (some ip4addr) s' gone)
      (cached : ttl = 0 ∧ (s'.dnsTable i).state = .unused ∨
        ttl ≠ 0 ∧ (s'.dnsTable i).state = .done ∧ (s'.dnsTable i).ipaddr = ip4addr ∧
          (s'.dnsTable i).ttl = cappedTtl ttl) :
      DnsMove s (.recv p addr behind outcome) s' [] gone
  | failed {p addr behind outcome i resIdx s' gone} (response : Matches s p addr behind i resIdx)
      (closed : Closed s i none s' gone) (unused : (s'.dnsTable i).state = .unused) :
      DnsMove s (.recv p addr behind outcome) s' [] gone
  | rerouted {p addr behind outcome i resIdx s' gone} (response : Matches s p addr behind i resIdx)
      (checked : DnsChecked s i s' gone) :
      DnsMove s (.recv p addr behind outcome) s' [] gone

/-- The request that an event makes, where `dns_gethostbyname` accepts it. -/
def dnsAccepted (s : DnsClient F) (e : DnsEvent F) : List F :=
  match e with
  | .gethostbyname _ found _ _ =>
    if (dnsReturned s e).map Prod.fst = some errInprogress then [found] else []
  | _ => []

variable {s s' : DnsClient F}

/-- What each entry's check keeps, all of them keep. -/
theorem DnsCheckedEach.keeps {P : DnsClient F → Prop}
    (first : ∀ {s i s' gone}, DnsChecked s i s' gone → P s → P s') {l : List (Fin dnsTableSize)}
    {gone : List (F × Option Ip4Addr)} (each : DnsCheckedEach s l s' gone) (before : P s) : P s' := by
  induction each with
  | done => exact before
  | next checked _ ih => exact ih (first checked before)

/-! ### Requests -/

theorem dnsAllocPcb_eq {ports : PortOutcome} {pcbIdx : Option (Fin dnsTableSize)}
    (allocated : dnsAllocPcb ports s = some (s', pcbIdx)) :
    (pcbIdx = none ∧ s' = s) ∨ ∃ pcb, pcbIdx = some pcb ∧ s'.dnsPcbs pcb ≠ none ∧
      (∀ other, other ≠ pcb → s'.dnsPcbs other = s.dnsPcbs other) ∧
      s'.dnsTable = s.dnsTable ∧ s'.dnsRequests = s.dnsRequests ∧ s'.dnsServers = s.dnsServers := by
  obtain ⟨fresh, _, allocated⟩ := Option.map_eq_some_iff.mp allocated
  cases fresh with
  | some fresh =>
    obtain ⟨rfl, rfl⟩ := Prod.mk.inj allocated
    exact .inr ⟨fresh.1, rfl, by simp, fun other differs => Function.update_of_ne differs .., rfl,
      rfl, rfl⟩
  | none =>
    dsimp only at allocated
    split at allocated
    next idx found =>
      have there := List.find?_some found
      obtain ⟨rfl, rfl⟩ := Prod.mk.inj allocated
      exact .inr ⟨idx, rfl, by simpa using there, fun _ _ => rfl, rfl, rfl, rfl⟩
    next =>
      obtain ⟨rfl, rfl⟩ := Prod.mk.inj allocated
      exact .inl ⟨rfl, rfl⟩

theorem dnsOlder_done (l : List (Fin dnsTableSize)) : ∀ best : UInt8 × Option (Fin dnsTableSize),
    (∀ i, best.2 = some i → (s.dnsTable i).state = .done) →
      ∀ i, (l.foldl (dnsOlder s) best).2 = some i → (s.dnsTable i).state = .done := by
  induction l with
  | nil => exact fun _ before => before
  | cons j l ih =>
    intro best before
    refine ih _ fun i => ?_
    simp only [dnsOlder]
    split
    next older =>
      rintro ⟨⟩
      exact older.1
    next => exact before i

theorem dnsUsableEntry_idle {i : Fin dnsTableSize} (usable : dnsUsableEntry s = some i) :
    (s.dnsTable i).state = .unused ∨ (s.dnsTable i).state = .done := by
  unfold dnsUsableEntry at usable
  split at usable
  next unused =>
    cases usable
    exact .inl (by simpa using List.find?_some unused)
  next => exact .inr (dnsOlder_done _ _ (by simp) i usable)

theorem dnsDuplicate_none {name : Bytes} (none : dnsDuplicate name s = none) (j : Fin dnsTableSize)
    (asking : (s.dnsTable j).state = .asking) :
    lwipStrnicmp name (s.dnsTable j).name dnsMaxNameLength ≠ 0 := by
  have each := List.find?_eq_none.mp none j (List.mem_finRange j)
  simpa [asking] using each

theorem dnsLookup_none {name : Bytes} (none : dnsLookup name s = none) (j : Fin dnsTableSize)
    (done : (s.dnsTable j).state = .done) :
    lwipStrnicmp name (s.dnsTable j).name dnsMaxNameLength ≠ 0 := by
  have each := List.find?_eq_none.mp (Option.map_eq_none_iff.mp none) j (List.mem_finRange j)
  simpa [done] using each

theorem dnsCreateTxid_fresh {txids : List UInt16} {txid : UInt16}
    (created : dnsCreateTxid txids s = some txid) (j : Fin dnsTableSize)
    (asking : (s.dnsTable j).state = .asking) : (s.dnsTable j).txid ≠ txid := by
  have fresh := List.find?_some created
  intro same
  simp only [decide_eq_true_eq] at fresh
  exact fresh ⟨j, asking, same⟩

/-- A new entry is sent at once. -/
theorem dnsCheckEntry_new {outcome : CheckOutcome} {i : Fin dnsTableSize}
    {calls : List (DnsCall F)} (new : (s.dnsTable i).state = .new) (server : s.dnsServers 0 ≠ 0)
    (checked : dnsCheckEntry outcome i s = some (s', calls)) :
    ∃ txid, (∀ j, (s.dnsTable j).state = .asking → (s.dnsTable j).txid ≠ txid) ∧
      answers calls = [] ∧ s' = s.setEntry i { s.dnsTable i with
        txid, state := .asking, serverIdx := 0, tmr := 1, retries := 0 } := by
  simp only [dnsCheckEntry, new] at checked
  obtain ⟨txid, created, sent⟩ := Option.bind_eq_some_iff.mp checked
  refine ⟨txid, dnsCreateTxid_fresh created, ?_⟩
  simp only [dnsSend, DnsClient.setEntry_dnsTable_self, DnsClient.setEntry_dnsServers,
    if_neg server] at sent
  split_ifs at sent
  · obtain ⟨pcb, _, sent⟩ := Option.bind_eq_some_iff.mp sent
    obtain ⟨localPort, _, sent⟩ := Option.bind_eq_some_iff.mp sent
    obtain ⟨rfl, rfl⟩ := Prod.mk.inj (Option.some.inj sent)
    exact ⟨rfl, rfl⟩
  · obtain ⟨rfl, rfl⟩ := Prod.mk.inj (Option.some.inj sent)
    exact ⟨rfl, rfl⟩

theorem dnsFillEntry_move {ports : PortOutcome} {outcome : CheckOutcome} {name : Bytes} {found : F}
    {i r : Fin dnsTableSize} {err : ErrT} {calls : List (DnsCall F)} (string : 0 ∉ name)
    (short : name.length < dnsMaxNameLength) (noAddress : ip4addrAton name = none)
    (server : s.dnsServers 0 ≠ 0) (free : (s.dnsRequests r).found = none)
    (idle : (s.dnsTable i).state = .unused ∨ (s.dnsTable i).state = .done)
    (unlike : ∀ j, s.Named j → lwipStrnicmp name (s.dnsTable j).name dnsMaxNameLength ≠ 0)
    (filled : dnsFillEntry ports outcome name found i r s = some (err, s', calls)) :
    DnsMove s (.gethostbyname name found ports outcome) s'
      (if err = errInprogress then [found] else []) (answers calls) := by
  simp only [dnsFillEntry] at filled
  obtain ⟨⟨s₁, pcbIdx⟩, allocated, filled⟩ := Option.bind_eq_some_iff.mp filled
  rcases dnsAllocPcb_eq allocated with ⟨rfl, rfl⟩ | ⟨pcb, rfl, bound, kept, table, requests, servers⟩
  · obtain ⟨rfl, same⟩ := Prod.mk.inj (Option.some.inj filled)
    obtain ⟨rfl, rfl⟩ := Prod.mk.inj same
    exact .dropped free idle rfl
  · obtain ⟨⟨s₂, calls'⟩, checked, same⟩ := Option.map_eq_some_iff.mp filled
    obtain ⟨rfl, rest⟩ := Prod.mk.inj same
    obtain ⟨rfl, rfl⟩ := Prod.mk.inj rest
    obtain ⟨txid, fresh, none, rfl⟩ :=
      dnsCheckEntry_new (by simp) (by simpa [servers] using server) checked
    have other {j : Fin dnsTableSize} (asking : (s.dnsTable j).state = .asking) : j ≠ i := by
      rintro rfl
      rcases idle with unused | done
      · rw [asking] at unused
        cases unused
      · rw [asking] at done
        cases done
    have whole : name.take (dnsMaxNameLength - 1) = name :=
      List.take_of_length_le (Nat.le_sub_one_of_lt short)
    rw [none, if_pos rfl]
    refine .started string short noAddress
      { free, idle, unlike, requests := ?_, others := ?_, asking := ?_, name := ?_, timer := ?_,
        txid := ?_, pcb := ⟨pcb, ?_, bound, kept⟩, servers := servers }
    · simp [requests]
    · intro j differs
      simp [DnsClient.setEntry_dnsTable_of_ne _ _ _ differs, table]
    · simp
    · simpa using whole
    · simp
    · intro j asking
      have differs := other asking
      have earlier := fresh j
      simp only [DnsClient.setEntry_dnsTable_of_ne _ _ _ differs, DnsClient.setRequest_dnsTable,
        table] at earlier
      simpa using earlier asking
    · simp

theorem dnsEnqueue_move {ports : PortOutcome} {outcome : CheckOutcome} {name : Bytes} {found : F}
    {err : ErrT} {calls : List (DnsCall F)} (string : 0 ∉ name)
    (short : name.length < dnsMaxNameLength) (noAddress : ip4addrAton name = none)
    (server : s.dnsServers 0 ≠ 0) (uncached : dnsLookup name s = none)
    (enqueued : dnsEnqueue ports outcome name found s = some (err, s', calls)) :
    DnsMove s (.gethostbyname name found ports outcome) s'
      (if err = errInprogress then [found] else []) (answers calls) := by
  have declined : some (errMem, s, []) = some (err, s', calls) →
      DnsMove s (.gethostbyname name found ports outcome) s'
        (if err = errInprogress then [found] else []) (answers calls) := by
    intro refused
    obtain ⟨rfl, same⟩ := Prod.mk.inj (Option.some.inj refused)
    obtain ⟨rfl, rfl⟩ := Prod.mk.inj same
    exact .declined
  unfold dnsEnqueue at enqueued
  split at enqueued
  next => exact declined enqueued
  next r found =>
    have free : (s.dnsRequests r).found = none := by simpa using List.find?_some found
    split at enqueued
    next i duplicate =>
      obtain ⟨rfl, same⟩ := Prod.mk.inj (Option.some.inj enqueued)
      obtain ⟨rfl, rfl⟩ := Prod.mk.inj same
      have alike := List.find?_some duplicate
      simp only [decide_eq_true_eq] at alike
      exact .joined string short free alike.1 alike.2
    next single =>
      have unlike (j : Fin dnsTableSize) (named : s.Named j) :
          lwipStrnicmp name (s.dnsTable j).name dnsMaxNameLength ≠ 0 := by
        rcases named with asking | done
        · exact dnsDuplicate_none single j asking
        · exact dnsLookup_none uncached j done
      split at enqueued
      next i usable =>
        exact dnsFillEntry_move string short noAddress server free (dnsUsableEntry_idle usable) unlike
          enqueued
      next => exact declined enqueued

theorem dnsGethostbyname_move {ports : PortOutcome} {outcome : CheckOutcome} {hostname : Bytes}
    {found : F} {result : ErrT × Option Ip4Addr} {calls : List (DnsCall F)} (string : 0 ∉ hostname)
    (taken : dnsGethostbyname ports outcome hostname found s = some (result, s', calls)) :
    DnsMove s (.gethostbyname hostname found ports outcome) s'
      (if result.1 = errInprogress then [found] else []) (answers calls) := by
  have declined {err : ErrT} {addr : Option Ip4Addr} (other : err ≠ errInprogress)
      (refused : some ((err, addr), s, []) = some (result, s', calls)) :
      DnsMove s (.gethostbyname hostname found ports outcome) s'
        (if result.1 = errInprogress then [found] else []) (answers calls) := by
    obtain ⟨rfl, same⟩ := Prod.mk.inj (Option.some.inj refused)
    obtain ⟨rfl, rfl⟩ := Prod.mk.inj same
    rw [if_neg other]
    exact .declined
  unfold dnsGethostbyname at taken
  split at taken
  next => exact declined (by decide) taken
  next legal =>
    split at taken
    next => exact declined (by decide) taken
    next noAddress =>
      split at taken
      next => exact declined (by decide) taken
      next uncached =>
        split at taken
        next => exact declined (by decide) taken
        next server =>
          obtain ⟨⟨err, s₁, calls'⟩, enqueued, same⟩ := Option.map_eq_some_iff.mp taken
          obtain ⟨rfl, rest⟩ := Prod.mk.inj same
          obtain ⟨rfl, rfl⟩ := Prod.mk.inj rest
          exact dnsEnqueue_move string (not_le.mp (not_or.mp legal).2) noAddress server uncached
            enqueued

/-! ### Settled entries -/

/-- No entry is new, and the timers of those that ask are right. -/
def Settled (s : DnsClient F) : Prop :=
  ∀ i, (s.dnsTable i).state ≠ .new ∧ ((s.dnsTable i).state = .asking → (s.dnsTable i).Timed)

theorem Closed.settled {i : Fin dnsTableSize} {addr : Option Ip4Addr}
    {gone : List (F × Option Ip4Addr)} (settled : Settled s) (closed : Closed s i addr s' gone)
    (ended : (s'.dnsTable i).state = .unused ∨ (s'.dnsTable i).state = .done) : Settled s' := by
  intro j
  by_cases this : j = i
  · subst this
    rcases ended with unused | done
    · simp [unused]
    · simp [done]
  · rw [closed.others j this]
    exact settled j

theorem Settled.setEntry {i : Fin dnsTableSize} {entry : DnsTableEntry} (settled : Settled s)
    (here : entry.state ≠ .new ∧ (entry.state = .asking → entry.Timed)) :
    Settled (s.setEntry i entry) := by
  intro j
  by_cases this : j = i
  · subst this
    simpa using here
  · rw [s.setEntry_dnsTable_of_ne i entry this]
    exact settled j

theorem DnsChecked.settled {i : Fin dnsTableSize} {gone : List (F × Option Ip4Addr)}
    (settled : Settled s) (checked : DnsChecked s i s' gone) : Settled s' := by
  cases checked with
  | idle => exact settled
  | waits asking same timed =>
    exact settled.setEntry ⟨by simp [same.state, asking], fun _ => timed⟩
  | fails closed unused => exact closed.settled settled (.inl unused)
  | ages done => exact settled.setEntry (by simp [done])
  | flushes => exact settled.setEntry (by simp)

/-! ### Responses -/

theorem cappedTtl_eq_zero (ttl : UInt32) : cappedTtl ttl = 0 ↔ ttl = 0 := by
  unfold cappedTtl
  split
  next long =>
    constructor
    · intro zero
      exact absurd zero (by decide)
    · rintro rfl
      exact absurd long (by decide)
  next => rfl

theorem dnsCorrectResponse_closed {i : Fin dnsTableSize} {entry : DnsTableEntry} {ttl : UInt32}
    {calls : List (DnsCall F)} (asking : (s.dnsTable i).state = .asking)
    (pcbIdx : entry.pcbIdx = (s.dnsTable i).pcbIdx) (name : entry.name = (s.dnsTable i).name)
    (responded : dnsCorrectResponse i ttl (s.setEntry i entry) = (s', calls)) :
    Closed s i (some entry.ipaddr) s' (answers calls) ∧
      (ttl = 0 ∧ (s'.dnsTable i).state = .unused ∨
        ttl ≠ 0 ∧ (s'.dnsTable i).state = .done ∧ (s'.dnsTable i).ipaddr = entry.ipaddr ∧
          (s'.dnsTable i).ttl = cappedTtl ttl) := by
  simp only [dnsCorrectResponse, cappedTtl_eq_zero, DnsClient.setEntry_dnsTable_self,
    DnsClient.setEntry_setEntry] at responded
  have closed := closed_dnsCallFound i (some entry.ipaddr) s
    { entry with state := .done, ttl := cappedTtl ttl } asking pcbIdx name
  split at responded
  next zero =>
    obtain ⟨rfl, rfl⟩ := Prod.mk.inj responded
    exact ⟨closed.setEntry closed.name, .inl ⟨zero, by simp⟩⟩
  next lives =>
    obtain ⟨rfl, rfl⟩ := Prod.mk.inj responded
    exact ⟨closed, .inr ⟨lives, by simp [dnsCallFound]⟩⟩

theorem DnsChecked.of_setEntry {i : Fin dnsTableSize} {entry : DnsTableEntry}
    {gone : List (F × Option Ip4Addr)} (checked : DnsChecked (s.setEntry i entry) i s' gone)
    (asking : (s.dnsTable i).state = .asking) (same : Retimed (s.dnsTable i) entry)
    (sooner : entry.ticksLeft ≤ (s.dnsTable i).ticksLeft) : DnsChecked s i s' gone := by
  have goes : ((s.setEntry i entry).dnsTable i).state = .asking := by
    rw [DnsClient.setEntry_dnsTable_self, same.state, asking]
  cases checked with
  | idle unused =>
    rw [goes] at unused
    cases unused
  | @waits entry' _ same' timed sooner' =>
    rw [DnsClient.setEntry_dnsTable_self] at same' sooner'
    rw [DnsClient.setEntry_setEntry]
    refine .waits asking ?_ timed (sooner'.trans_le sooner)
    exact ⟨same'.state.trans same.state, same'.txid.trans same.txid,
      same'.pcbIdx.trans same.pcbIdx, same'.name.trans same.name⟩
  | fails closed unused =>
    refine .fails ⟨asking, closed.called, closed.requests, ?_, ?_, ?_, closed.servers⟩ unused
    · intro pcb
      have here := closed.pcbs pcb
      simp only [DnsClient.setEntry_dnsTable_self, same.pcbIdx, shared_setEntry] at here
      exact here
    · intro j other
      rw [closed.others j other, s.setEntry_dnsTable_of_ne i entry other]
    · rw [closed.name, DnsClient.setEntry_dnsTable_self, same.name]
  | ages done =>
    rw [goes] at done
    cases done
  | flushes done =>
    rw [goes] at done
    cases done

theorem dnsRecv_move {outcome : CheckOutcome} {behind : Nat → UInt8} {p : Bytes} {addr : Ip4Addr}
    {calls : List (DnsCall F)}
    (settled : Settled s) (received : dnsRecv outcome behind p addr s = some (s', calls)) :
    DnsMove s (.recv p addr behind outcome) s' [] (answers calls) := by
  have ignored (same : some (s, []) = some (s', calls)) :
      DnsMove s (.recv p addr behind outcome) s' [] (answers calls) := by
    obtain ⟨rfl, rfl⟩ := Prod.mk.inj (Option.some.inj same)
    exact .ignored
  unfold dnsRecv at received
  split at received
  next => exact ignored received
  next =>
    dsimp only at received
    split at received
    next => exact ignored received
    next i found =>
      split at received
      next => exact ignored received
      next resIdx question =>
        have entry := List.find?_some found
        simp only [decide_eq_true_eq] at entry
        have response : Matches s p addr behind i resIdx := ⟨entry.1, entry.2, question⟩
        have failed (same : some (dnsFail i s) = some (s', calls)) :
            DnsMove s (.recv p addr behind outcome) s' [] (answers calls) := by
          obtain ⟨rfl, rfl⟩ := Prod.mk.inj (Option.some.inj same)
          have closed := closed_dnsFail i s (s.dnsTable i) entry.1 rfl rfl
          rw [s.setEntry_dnsTable i] at closed
          exact .failed response closed.1 closed.2
        split at received
        next error =>
          split at received
          next backup =>
            -- as if the retries were over
            have last := DnsTableEntry.ticksLeft_last ((settled i).2 entry.1)
            have checked := dnsCheckEntry_spec (by simp [entry.1])
              (fun _ => by simpa using last.1) received
            exact .rerouted response
              (checked.of_setEntry entry.1 ⟨rfl, rfl, rfl, rfl⟩ last.2)
          next => exact failed received
        next =>
          split at received
          next => exact ignored received
          next ip4addr ttl answer =>
            have responded := dnsCorrectResponse_closed entry.1
              (by rfl) (by rfl) (Option.some.inj received)
            exact .resolved response answer responded.1 responded.2
          next => exact failed received

/-! ### The timer -/

theorem dnsCheckEach_spec {outcome : Fin dnsTableSize → CheckOutcome} :
    ∀ {l : List (Fin dnsTableSize)} {s : DnsClient F} {calls : List (DnsCall F)}, Settled s →
      dnsCheckEach outcome l s = some (s', calls) → DnsCheckedEach s l s' (answers calls) := by
  intro l
  induction l with
  | nil =>
    intro s calls _ checked
    obtain ⟨rfl, rfl⟩ := Prod.mk.inj (Option.some.inj checked)
    exact .done s
  | cons i l ih =>
    intro s calls settled checked
    obtain ⟨⟨s₁, first⟩, now, checked⟩ := Option.bind_eq_some_iff.mp checked
    obtain ⟨⟨s₂, more⟩, later, checked⟩ := Option.bind_eq_some_iff.mp checked
    obtain ⟨rfl, rfl⟩ := Prod.mk.inj (Option.some.inj checked)
    have here := dnsCheckEntry_spec (settled i).1 (settled i).2 now
    rw [answers, List.filterMap_append]
    exact .next here (ih (here.settled settled) later)

/-- Every event of the resolver is one of these moves. -/
theorem dnsMove_of_dnsHandle {e : DnsEvent F} {calls : List (DnsCall F)} (settled : Settled s)
    (handled : dnsHandle s e = some (s', calls)) :
    DnsMove s e s' (dnsAccepted s e) (answers calls) := by
  cases e with
  | gethostbyname hostname found ports outcome =>
    simp only [dnsHandle] at handled
    split at handled
    next => cases handled
    next string =>
      obtain ⟨⟨result, s₁, calls'⟩, taken, same⟩ := Option.map_eq_some_iff.mp handled
      obtain ⟨rfl, rfl⟩ := Prod.mk.inj same
      have returned : dnsAccepted s (.gethostbyname hostname found ports outcome) =
          if result.1 = errInprogress then [found] else [] := by
        simp [dnsAccepted, dnsReturned, taken]
      rw [returned]
      exact dnsGethostbyname_move string taken
  | recv => exact dnsRecv_move settled handled
  | tmr => exact .ticked (dnsCheckEach_spec settled handled)
  | setserver =>
    obtain ⟨rfl, rfl⟩ := Prod.mk.inj (Option.some.inj handled)
    exact .configured

theorem DnsMove.settled {e : DnsEvent F} {taken : List F} {gone : List (F × Option Ip4Addr)}
    (settled : Settled s) (move : DnsMove s e s' taken gone) : Settled s' := by
  cases move with
  | configured => simpa [Settled] using settled
  | ticked each => exact each.keeps (fun checked settled => checked.settled settled) settled
  | declined => exact settled
  | joined => exact settled
  | @started _ _ _ _ _ i _ _ _ _ start =>
    intro j
    by_cases this : j = i
    · subst this
      refine ⟨by simp [start.asking], fun _ => ?_⟩
      rw [DnsTableEntry.Timed, start.timer]
      exact List.mem_cons_self ..
    · rw [start.others j this]
      exact settled j
  | dropped _ _ unused => exact settled.setEntry (by simp [unused])
  | ignored => exact settled
  | resolved _ _ closed cached =>
    rcases cached with ⟨_, unused⟩ | ⟨_, done, _⟩
    · exact closed.settled settled (.inl unused)
    · exact closed.settled settled (.inr done)
  | failed _ closed unused => exact closed.settled settled (.inl unused)
  | rerouted _ checked => exact checked.settled settled

/-! ### Reachable states -/

theorem settled_dnsBoot : Settled (dnsBoot F) := fun _ => by simp [dnsBoot]

theorem dnsMove_of_dnsStep {e : DnsEvent F} (settled : Settled s) (taken : dnsStep s e = some s') :
    DnsMove s e s' (dnsAccepted s e) (answers (dnsCalls s e)) := by
  obtain ⟨⟨s₁, calls⟩, handled, rfl⟩ := Option.map_eq_some_iff.mp taken
  have same : dnsCalls s e = calls := by simp [dnsCalls, handled]
  rw [same]
  exact dnsMove_of_dnsHandle settled handled

theorem settled_of_run {ts : List (Transition (DnsClient F) (DnsEvent F))}
    (run : Run dnsStep (dnsBoot F) ts s) : Settled s :=
  (run.invariant settled_dnsBoot fun taken settled =>
    (dnsMove_of_dnsStep settled taken).settled settled).1

end EpaperClock
