import EpaperClock.DnsResources
import EpaperClock.Library.Ledger

/-! Every lookup is answered once, and soon. -/
namespace EpaperClock

open StepSystem Ledger

variable {F : Type} {s s' : DnsClient F}

/-! ### Once -/

/-- The callbacks that have not been called. -/
def DnsClient.pending (s : DnsClient F) : List F := held fun r => (s.dnsRequests r).found

/-- The callback of an accepted request. -/
def dnsOpened (t : Transition (DnsClient F) (DnsEvent F)) : List F := dnsAccepted t.source t.event

/-- The callbacks called. -/
def dnsClosed (t : Transition (DnsClient F) (DnsEvent F)) : List F :=
  (answers (dnsCalls t.source t.event)).map Prod.fst

theorem Closed.pending {i : Fin dnsTableSize} {addr : Option Ip4Addr}
    {gone : List (F × Option Ip4Addr)} (closed : Closed s i addr s' gone) :
    (gone.map Prod.fst ++ s'.pending).Perm s.pending := by
  have called : gone.map Prod.fst = s.waitingFor i := by
    rw [closed.called, List.map_map]
    exact List.map_id _
  have rest : s'.pending =
      held fun r => if (s.dnsRequests r).dnsTableIdx = i then none else (s.dnsRequests r).found := by
    simp only [DnsClient.pending, closed.requests]
    congr 1
    funext r
    split <;> rfl
  rw [called, rest]
  exact held_split (fun r => (s.dnsRequests r).found) (fun r => (s.dnsRequests r).dnsTableIdx = i)

theorem DnsChecked.pending {i : Fin dnsTableSize} {gone : List (F × Option Ip4Addr)}
    (checked : DnsChecked s i s' gone) : (gone.map Prod.fst ++ s'.pending).Perm s.pending := by
  cases checked with
  | idle => exact .refl _
  | waits => exact .refl _
  | fails closed => exact closed.pending
  | ages => exact .refl _
  | flushes => exact .refl _

theorem DnsCheckedEach.pending {l : List (Fin dnsTableSize)} {gone : List (F × Option Ip4Addr)}
    (each : DnsCheckedEach s l s' gone) : (gone.map Prod.fst ++ s'.pending).Perm s.pending := by
  induction each with
  | done => exact .refl _
  | @next s s₁ s' i rest gone more first _ ih =>
    rw [List.map_append, List.append_assoc]
    exact (ih.append_left _).trans first.pending

theorem pending_update {r : Fin dnsTableSize} {req : DnsReqEntry F}
    (free : (s.dnsRequests r).found = none)
    (requests : s'.dnsRequests = Function.update s.dnsRequests r req) :
    s'.pending.Perm (req.found.toList ++ s.pending) := by
  have slots : (fun q => (s'.dnsRequests q).found) =
      Function.update (fun q => (s.dnsRequests q).found) r req.found := by
    funext q
    rw [requests]
    exact Function.apply_update (fun _ => DnsReqEntry.found) ..
  simp only [DnsClient.pending, slots]
  exact held_update free req.found

theorem DnsMove.pending {e : DnsEvent F} {taken : List F} {gone : List (F × Option Ip4Addr)}
    (move : DnsMove s e s' taken gone) :
    (taken ++ s.pending).Perm (gone.map Prod.fst ++ s'.pending) := by
  cases move with
  | configured => simp [DnsClient.pending]
  | ticked each => exact each.pending.symm
  | declined => exact .refl _
  | @joined _ found _ _ r i _ _ free =>
    have slots : (s.setRequest r ⟨some found, i⟩).dnsRequests =
        Function.update s.dnsRequests r ⟨some found, i⟩ := rfl
    exact (pending_update free slots).symm
  | started _ _ _ start => exact (pending_update start.free start.requests).symm
  | @dropped _ _ _ _ r i entry free =>
    have slots : ((s.setEntry i entry).setRequest r ⟨none, i⟩).dnsRequests =
        Function.update s.dnsRequests r ⟨none, i⟩ := rfl
    exact (pending_update free slots).symm
  | ignored => exact .refl _
  | resolved _ _ closed => exact closed.pending.symm
  | failed _ closed => exact closed.pending.symm
  | rerouted _ checked => exact checked.pending.symm

/-- Over any run, the callbacks called and those that still wait are those of the accepted
requests. -/
theorem lookups_called_once {ts : List (Transition (DnsClient F) (DnsEvent F))}
    (run : Run dnsStep (dnsBoot F) ts s) :
    (ts.flatMap dnsOpened).Perm (ts.flatMap dnsClosed ++ s.pending) := by
  have each : ∀ t ∈ ts, (dnsOpened t ++ t.source.pending).Perm (dnsClosed t ++ t.target.pending) := by
    intro t member
    obtain ⟨before, _, reached⟩ := run.source_of_mem member
    exact (dnsMove_of_dnsStep (settled_of_run reached) (run.step_of_mem member)).pending
  have balanced := run.balanced dnsOpened dnsClosed DnsClient.pending each
  have none : (dnsBoot F).pending = [] := by simp [DnsClient.pending, held, dnsBoot]
  rwa [none, List.append_nil] at balanced

/-- The control blocks and their ports are in use exactly while lookups are under way: requests
and entries that ask belong together, transactions and names are told apart. -/
theorem control_blocks_released {ts : List (Transition (DnsClient F) (DnsEvent F))}
    (run : Run dnsStep (dnsBoot F) ts s) :
    DnsSound s ∧ ((∀ pcb, s.dnsPcbs pcb = none) ↔ s.pending = []) := by
  have sound := dnsSound_of_run run
  refine ⟨sound, ?_⟩
  constructor
  · intro closed
    rw [List.eq_nil_iff_forall_not_mem]
    intro found waits
    obtain ⟨r, slot⟩ := mem_held.mp waits
    obtain ⟨pcb, _, there⟩ := sound.bound _ (sound.waiting r found _ (by rw [← slot]))
    exact there (closed pcb)
  · intro none pcb
    by_contra there
    obtain ⟨i, asks, _⟩ := sound.used pcb there
    obtain ⟨r, found, held⟩ := sound.wanted i asks
    have waits : found ∈ s.pending := mem_held.mpr ⟨r, by rw [held]⟩
    rw [none] at waits
    cases waits

/-- A reply with two answers to the second lookup that is under way. -/
def poolReply : DnsEvent Nat :=
  .recv ([0, 77, 0x81, 0x80, 0, 1, 0, 1, 0, 0, 0, 0] ++ queryName (ascii "Pool.NTP.org") ++
    [0, 1, 0, 1, 0xc0, 12, 0, 1, 0, 1, 0, 0, 0, 9, 0, 4, 162, 159, 200, 1]) 0x08080808 (fun _ => 0)
    ⟨[], false⟩

theorem lookups_called_once_poolReply : ∃ ts : List (Transition (DnsClient Nat) (DnsEvent Nat)),
    ts.flatMap dnsOpened = [5, 6] ∧ (ts.flatMap dnsClosed).Perm [5, 6] := by
  have done : (exec dnsStep (dnsBoot Nat) (poolLookups ++ [poolReply])).map (fun result =>
      decide (result.1.flatMap dnsOpened = [5, 6] ∧ result.2.pending = [])) = some true := by
    decide +kernel
  obtain ⟨ts, s, run, facts⟩ := exists_run done
  obtain ⟨opened, none⟩ := of_decide_eq_true facts
  have once := lookups_called_once run
  rw [show s.pending = [] from none, List.append_nil,
    show ts.flatMap dnsOpened = [5, 6] from opened] at once
  exact ⟨ts, opened, once.symm⟩

theorem control_blocks_released_poolReply : ∃ s : DnsClient Nat,
    (s.dnsTable 0).state = .done ∧ ∀ pcb, s.dnsPcbs pcb = none := by
  have done : (exec dnsStep (dnsBoot Nat) (poolLookups ++ [poolReply])).map (fun result =>
      decide ((result.2.dnsTable 0).state = .done ∧ result.2.pending = [])) = some true := by
    decide +kernel
  obtain ⟨ts, s, run, facts⟩ := exists_run done
  obtain ⟨answered, none⟩ := of_decide_eq_true facts
  exact ⟨s, answered, (control_blocks_released run).2.mpr none⟩

/-! ### Soon -/

/-- The slot holds a callback, and the entry it belongs to asks. -/
structure Waits (s : DnsClient F) (r : Fin dnsTableSize) (found : F) (i : Fin dnsTableSize) :
    Prop where
  request : s.dnsRequests r = ⟨some found, i⟩
  asks : s.Asks i

namespace Waits

variable {r i : Fin dnsTableSize} {found : F}

/-- Called, or still waiting, with at least `ticks` ticks less to go. -/
def Goes (s : DnsClient F) (r i : Fin dnsTableSize) (found : F) (ticks : Nat) (s' : DnsClient F)
    (gone : List (F × Option Ip4Addr)) : Prop :=
  (∃ addr, (found, addr) ∈ gone) ∨
    Waits s' r found i ∧ (s'.dnsTable i).ticksLeft + ticks ≤ (s.dnsTable i).ticksLeft

theorem closed (waits : Waits s r found i) {j : Fin dnsTableSize} {addr : Option Ip4Addr}
    {gone : List (F × Option Ip4Addr)} (closed : Closed s j addr s' gone) :
    Goes s r i found (if i = j then 1 else 0) s' gone := by
  by_cases this : i = j
  · refine .inl ⟨addr, ?_⟩
    rw [closed.called]
    refine List.mem_map_of_mem (mem_held.mpr ⟨r, ?_⟩)
    rw [waits.request, if_pos this]
  · have same := closed.others i this
    refine .inr ⟨⟨?_, by rw [DnsClient.Asks, same, waits.asks]⟩, ?_⟩
    · rw [closed.requests]
      dsimp only
      rw [waits.request, if_neg this]
    · rw [same, if_neg this, Nat.add_zero]

/-- Where another entry changes. -/
theorem setEntry (waits : Waits s r found i) {j : Fin dnsTableSize} {entry : DnsTableEntry}
    (other : i ≠ j) {gone : List (F × Option Ip4Addr)} :
    Goes s r i found (if i = j then 1 else 0) (s.setEntry j entry) gone := by
  have same := s.setEntry_dnsTable_of_ne j entry other
  refine .inr ⟨⟨waits.request, by rw [DnsClient.Asks, same, waits.asks]⟩, ?_⟩
  rw [same, if_neg other, Nat.add_zero]

theorem checked (waits : Waits s r found i) {j : Fin dnsTableSize}
    {gone : List (F × Option Ip4Addr)} (checked : DnsChecked s j s' gone) :
    Goes s r i found (if i = j then 1 else 0) s' gone := by
  have other {state : DnsState} (rests : (s.dnsTable j).state = state) (idle : state ≠ .asking) :
      i ≠ j := by
    rintro rfl
    exact idle (rests.symm.trans waits.asks)
  cases checked with
  | idle unused =>
    refine .inr ⟨waits, ?_⟩
    rw [if_neg (other unused (by decide)), Nat.add_zero]
  | waits asking same timed sooner =>
    by_cases this : i = j
    · subst this
      rw [if_pos rfl]
      refine .inr ⟨⟨waits.request, ?_⟩, by rwa [DnsClient.setEntry_dnsTable_self]⟩
      rw [DnsClient.Asks, DnsClient.setEntry_dnsTable_self, same.state, asking]
    · exact waits.setEntry this
  | fails closed => exact waits.closed closed
  | ages done => exact waits.setEntry (other done (by decide))
  | flushes done => exact waits.setEntry (other done (by decide))

theorem checkedEach {l : List (Fin dnsTableSize)} {gone : List (F × Option Ip4Addr)}
    (each : DnsCheckedEach s l s' gone) (waits : Waits s r found i) :
    Goes s r i found (l.count i) s' gone := by
  induction each with
  | done => exact .inr ⟨waits, by simp⟩
  | @next s s₁ s' j rest gone more first _ ih =>
    rcases waits.checked first with ⟨addr, member⟩ | ⟨still, lower⟩
    · exact .inl ⟨addr, List.mem_append_left _ member⟩
    · rcases ih still with ⟨addr, member⟩ | ⟨still, lowest⟩
      · exact .inl ⟨addr, List.mem_append_right _ member⟩
      · refine .inr ⟨still, ?_⟩
        have count : (j :: rest).count i = rest.count i + if i = j then 1 else 0 := by
          by_cases this : i = j
          · simp [this]
          · rw [List.count_cons_of_ne (Ne.symm this), if_neg this, Nat.add_zero]
        omega

/-- A slot in use is not chosen again. -/
theorem ne_of_free (waits : Waits s r found i) {q : Fin dnsTableSize}
    (free : (s.dnsRequests q).found = none) : r ≠ q := by
  rintro rfl
  rw [waits.request] at free
  cases free

theorem move (waits : Waits s r found i) {e : DnsEvent F} {taken : List F}
    {gone : List (F × Option Ip4Addr)} (move : DnsMove s e s' taken gone) :
    Goes s r i found (if e.isTmr then 1 else 0) s' gone := by
  have unhurried {j : Fin dnsTableSize} {s' : DnsClient F}
      (goes : Goes s r i found (if i = j then 1 else 0) s' gone) : Goes s r i found 0 s' gone := by
    rcases goes with called | ⟨still, lower⟩
    · exact .inl called
    · exact .inr ⟨still, by omega⟩
  have stays {q : Fin dnsTableSize} {req : DnsReqEntry F} (free : (s.dnsRequests q).found = none) :
      Function.update s.dnsRequests q req r = ⟨some found, i⟩ := by
    rw [Function.update_of_ne (waits.ne_of_free free), waits.request]
  have other {j : Fin dnsTableSize}
      (idle : (s.dnsTable j).state = .unused ∨ (s.dnsTable j).state = .done) : i ≠ j :=
    waits.asks.ne idle
  cases move with
  | configured =>
    refine .inr ⟨⟨by simp [waits.request], ?_⟩, by simp [DnsEvent.isTmr]⟩
    rw [DnsClient.Asks, dnsSetserver_dnsTable, waits.asks]
  | ticked each =>
    have goes := checkedEach each waits
    rwa [List.count_eq_one_of_mem (List.nodup_finRange _) (List.mem_finRange i)] at goes
  | declined => exact .inr ⟨waits, le_rfl⟩
  | joined _ _ free => exact .inr ⟨⟨stays free, waits.asks⟩, le_rfl⟩
  | started _ _ _ start =>
    have same := start.others i (other start.idle)
    refine .inr ⟨⟨?_, by rw [DnsClient.Asks, same, waits.asks]⟩, by simp [same, DnsEvent.isTmr]⟩
    rw [start.requests]
    exact stays start.free
  | @dropped _ _ _ _ _ j entry free idle =>
    have same := s.setEntry_dnsTable_of_ne j entry (other idle)
    refine .inr ⟨⟨stays free, ?_⟩, ?_⟩
    · rw [DnsClient.Asks, DnsClient.setRequest_dnsTable, same, waits.asks]
    · simp [same, DnsEvent.isTmr]
  | ignored => exact .inr ⟨waits, le_rfl⟩
  | resolved _ _ closed => exact unhurried (waits.closed closed)
  | failed _ closed => exact unhurried (waits.closed closed)
  | rerouted _ checked => exact unhurried (waits.checked checked)

end Waits

theorem DnsTableEntry.ticksLeft_le (entry : DnsTableEntry) : entry.ticksLeft ≤ 14 := by
  have length : timerStates.length = 7 := rfl
  simp only [ticksLeft, length]
  omega

theorem DnsTableEntry.Timed.ticksLeft_pos {entry : DnsTableEntry} (timed : entry.Timed) :
    0 < entry.ticksLeft := by
  have inside := List.idxOf_lt_length_of_mem timed
  simp only [ticksLeft]
  omega

/-- A lookup under way is answered, if only with NULL, before `dns_tmr` has been called fifteen
times. -/
theorem lookup_answered {ts us : List (Transition (DnsClient F) (DnsEvent F))}
    {r : Fin dnsTableSize} {found : F} (before : Run dnsStep (dnsBoot F) ts s)
    (run : Run dnsStep s us s') (pending : (s.dnsRequests r).found = some found)
    (ticks : 14 ≤ us.countP fun t => t.event.isTmr) :
    ∃ t ∈ us, (t.source.dnsRequests r).found = some found ∧ found ∈ dnsClosed t := by
  have sound := dnsSound_of_run before
  generalize belongs : (s.dnsRequests r).dnsTableIdx = i
  have request : s.dnsRequests r = ⟨some found, i⟩ := by rw [← pending, ← belongs]
  have waits : Waits s r found i := ⟨request, sound.waiting r found i request⟩
  refine run.discharged (P := fun s => DnsSound s ∧ Waits s r found i)
    (fun s => (s.dnsTable i).ticksLeft - 1) (fun t => t.event.isTmr) ?_ ⟨sound, waits⟩ ?_
  · rintro t member ⟨sound, waits⟩
    have move := dnsMove_of_dnsStep sound.settled (run.step_of_mem member)
    rcases waits.move move with ⟨addr, called⟩ | ⟨still, lower⟩
    · exact .inl ⟨by rw [waits.request], List.mem_map_of_mem called⟩
    · have sound' := sound.move move
      have left := ((sound'.settled i).2 still.asks).ticksLeft_pos
      refine .inr ⟨⟨sound', still⟩, ?_⟩
      omega
  · have most := (s.dnsTable i).ticksLeft_le
    have left := ((sound.settled i).2 waits.asks).ticksLeft_pos
    omega

/-- Two servers, and no answer from either. -/
theorem lookup_answered_twoServers : ∃ us : List (Transition (DnsClient Nat) (DnsEvent Nat)),
    us.length = 14 ∧ ∃ t ∈ us, (t.source.dnsRequests 0).found = some 5 ∧ 5 ∈ dnsClosed t := by
  have done : ((exec dnsStep (dnsBoot Nat) (.setserver 1 (some 0x04040808) :: poolLookups)).bind
      fun first => (exec dnsStep first.2 (List.replicate 14 (.tmr fun _ => ⟨[], true⟩))).map
        fun later => decide ((first.2.dnsRequests 0).found = some 5 ∧ later.1.length = 14 ∧
          14 ≤ later.1.countP fun t => t.event.isTmr)) = some true := by
    decide +kernel
  obtain ⟨first, before, done⟩ := Option.bind_eq_some_iff.mp done
  obtain ⟨later, ran, facts⟩ := Option.map_eq_some_iff.mp done
  obtain ⟨pending, length, ticks⟩ := of_decide_eq_true facts
  exact ⟨later.1, length, lookup_answered (.of_exec before) (.of_exec ran) pending ticks⟩

end EpaperClock
