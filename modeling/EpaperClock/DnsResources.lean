import EpaperClock.DnsSteps

/-! What the resolver keeps in order: requests, entries, transactions and control blocks. -/
namespace EpaperClock

open StepSystem

variable {F : Type} {s s' : DnsClient F}

/-- The entry waits for a response. -/
def DnsClient.Asks (s : DnsClient F) (i : Fin dnsTableSize) : Prop :=
  (s.dnsTable i).state = .asking

theorem DnsClient.Asks.named {i : Fin dnsTableSize} (asks : s.Asks i) : s.Named i := .inl asks

/-- An entry that is unused, or done, does not ask. -/
theorem DnsClient.Asks.ne {i j : Fin dnsTableSize} (asks : s.Asks j)
    (idle : (s.dnsTable i).state = .unused ∨ (s.dnsTable i).state = .done) : j ≠ i := by
  rintro rfl
  rw [DnsClient.Asks] at asks
  rcases idle with rests | rests
  · rw [asks] at rests
    cases rests
  · rw [asks] at rests
    cases rests

structure DnsSound (s : DnsClient F) : Prop where
  settled : Settled s
  -- requests belong to entries that ask, and such entries to requests
  waiting : ∀ r f i, s.dnsRequests r = ⟨some f, i⟩ → s.Asks i
  wanted : ∀ i, s.Asks i → ∃ r f, s.dnsRequests r = ⟨some f, i⟩
  txids : ∀ i j, s.Asks i → s.Asks j → (s.dnsTable i).txid = (s.dnsTable j).txid → i = j
  names : ∀ i j, s.Named i → s.Named j →
    lowered (s.dnsTable i).name = lowered (s.dnsTable j).name → i = j
  strings : ∀ i, s.Named i →
    0 ∉ (s.dnsTable i).name ∧ (s.dnsTable i).name.length < dnsMaxNameLength
  -- addresses are answered without an entry
  noAddress : ∀ i, s.Named i → ip4addrAton (s.dnsTable i).name = none
  -- entries that ask have control blocks, and these are all there are
  bound : ∀ i, s.Asks i → ∃ pcb, (s.dnsTable i).pcbIdx = some pcb ∧ s.dnsPcbs pcb ≠ none
  used : ∀ pcb, s.dnsPcbs pcb ≠ none → ∃ i, s.Asks i ∧ (s.dnsTable i).pcbIdx = some pcb

theorem dnsSound_dnsBoot : DnsSound (dnsBoot F) where
  settled := settled_dnsBoot
  waiting := by simp [dnsBoot]
  wanted i asks := by cases asks
  txids i _ asks := by cases asks
  names i _ named := by rcases named with ⟨⟨⟩⟩ | ⟨⟨⟩⟩
  strings i named := by rcases named with ⟨⟨⟩⟩ | ⟨⟨⟩⟩
  noAddress i named := by rcases named with ⟨⟨⟩⟩ | ⟨⟨⟩⟩
  bound i asks := by cases asks
  used pcb there := absurd rfl there

namespace DnsSound

/-- Where the entries that ask, their requests and the control blocks stay. -/
theorem kept (sound : DnsSound s) (settled : Settled s')
    (asks : ∀ i, s'.Asks i ↔ s.Asks i)
    (same : ∀ i, s.Asks i → Retimed (s.dnsTable i) (s'.dnsTable i))
    (named : ∀ i, s'.Named i → s.Named i ∧ (s'.dnsTable i).name = (s.dnsTable i).name)
    (requests : ∀ r f i, s'.dnsRequests r = ⟨some f, i⟩ ↔ s.dnsRequests r = ⟨some f, i⟩)
    (pcbs : s'.dnsPcbs = s.dnsPcbs) : DnsSound s' where
  settled
  waiting r f i held := (asks i).mpr (sound.waiting r f i ((requests r f i).mp held))
  wanted i here := by
    obtain ⟨r, f, held⟩ := sound.wanted i ((asks i).mp here)
    exact ⟨r, f, (requests r f i).mpr held⟩
  txids i j here there equal := by
    have here := (asks i).mp here
    have there := (asks j).mp there
    rw [(same i here).txid, (same j there).txid] at equal
    exact sound.txids i j here there equal
  names i j here there equal := by
    obtain ⟨here, name⟩ := named i here
    obtain ⟨there, other⟩ := named j there
    rw [name, other] at equal
    exact sound.names i j here there equal
  strings i here := by
    obtain ⟨here, name⟩ := named i here
    rw [name]
    exact sound.strings i here
  noAddress i here := by
    obtain ⟨here, name⟩ := named i here
    rw [name]
    exact sound.noAddress i here
  bound i here := by
    have here := (asks i).mp here
    rw [(same i here).pcbIdx, pcbs]
    exact sound.bound i here
  used pcb there := by
    obtain ⟨i, here, uses⟩ := sound.used pcb (pcbs ▸ there)
    exact ⟨i, (asks i).mpr here, (same i here).pcbIdx.trans uses⟩

/-- An entry that goes on asking. -/
theorem retimed (sound : DnsSound s) {i : Fin dnsTableSize} {entry : DnsTableEntry}
    (asking : s.Asks i) (same : Retimed (s.dnsTable i) entry) (timed : entry.Timed) :
    DnsSound (s.setEntry i entry) := by
  have goes : entry.state = .asking := same.state.trans asking
  refine sound.kept (sound.settled.setEntry ⟨by simp [goes], fun _ => timed⟩) (fun j => ?_)
    (fun j _ => ?_) (fun j here => ?_) (fun _ _ _ => .rfl) rfl
  · by_cases this : j = i
    · subst this
      simp [DnsClient.Asks, goes, asking.symm]
    · rw [DnsClient.Asks, s.setEntry_dnsTable_of_ne i entry this, DnsClient.Asks]
  · by_cases this : j = i
    · subst this
      rwa [DnsClient.setEntry_dnsTable_self]
    · rw [s.setEntry_dnsTable_of_ne i entry this]
      exact ⟨rfl, rfl, rfl, rfl⟩
  · by_cases this : j = i
    · subst this
      rw [DnsClient.setEntry_dnsTable_self]
      exact ⟨asking.named, same.name⟩
    · rw [DnsClient.Named, s.setEntry_dnsTable_of_ne i entry this] at here
      rw [s.setEntry_dnsTable_of_ne i entry this]
      exact ⟨here, rfl⟩

/-- An entry that does not ask, before and after, and gets no new name. -/
theorem idle (sound : DnsSound s) {i : Fin dnsTableSize} {entry : DnsTableEntry}
    (before : ¬s.Asks i) (after : entry.state = .unused ∨
      entry.state = .done ∧ s.Named i ∧ entry.name = (s.dnsTable i).name) :
    DnsSound (s.setEntry i entry) := by
  have rests : entry.state ≠ .asking ∧ entry.state ≠ .new := by
    rcases after with unused | ⟨done, _⟩
    · simp [unused]
    · simp [done]
  refine sound.kept (sound.settled.setEntry ⟨rests.2, fun asking => absurd asking rests.1⟩)
    (fun j => ?_) (fun j asks => ?_) (fun j here => ?_) (fun _ _ _ => .rfl) rfl
  · by_cases this : j = i
    · subst this
      rw [DnsClient.Asks, DnsClient.setEntry_dnsTable_self]
      exact iff_of_false rests.1 before
    · rw [DnsClient.Asks, s.setEntry_dnsTable_of_ne i entry this, DnsClient.Asks]
  · have this : j ≠ i := by
      rintro rfl
      exact before asks
    rw [s.setEntry_dnsTable_of_ne i entry this]
    exact ⟨rfl, rfl, rfl, rfl⟩
  · by_cases this : j = i
    · subst this
      rw [DnsClient.Named, DnsClient.setEntry_dnsTable_self] at here
      rw [DnsClient.setEntry_dnsTable_self]
      rcases after with unused | ⟨_, named, same⟩
      · rw [unused] at here
        rcases here with ⟨⟨⟩⟩ | ⟨⟨⟩⟩
      · exact ⟨named, same⟩
    · rw [DnsClient.Named, s.setEntry_dnsTable_of_ne i entry this] at here
      rw [s.setEntry_dnsTable_of_ne i entry this]
      exact ⟨here, rfl⟩

theorem closed (sound : DnsSound s) {i : Fin dnsTableSize} {addr : Option Ip4Addr}
    {gone : List (F × Option Ip4Addr)} (closed : Closed s i addr s' gone)
    (ended : (s'.dnsTable i).state = .unused ∨ (s'.dnsTable i).state = .done) : DnsSound s' := by
  -- the entries that ask are the others
  have asks (j : Fin dnsTableSize) (here : s'.Asks j) : j ≠ i ∧ s.Asks j := by
    have this := here.ne ended
    exact ⟨this, by rwa [DnsClient.Asks, closed.others j this] at here⟩
  have named (j : Fin dnsTableSize) (here : s'.Named j) : s.Named j := by
    by_cases this : j = i
    · subst this
      exact .inl closed.asking
    · rwa [DnsClient.Named, closed.others j this] at here
  have stays (j : Fin dnsTableSize) (other : j ≠ i) (here : s.Asks j) : s'.Asks j := by
    rwa [DnsClient.Asks, closed.others j other]
  constructor
  case settled => exact closed.settled sound.settled ended
  case waiting =>
    intro r f j held
    have before := closed.request held
    rw [closed.requests] at held
    dsimp only at held
    split at held
    next => cases held
    next other =>
      rw [held] at other
      exact stays j other (sound.waiting r f j before)
  case wanted =>
    intro j here
    obtain ⟨other, before⟩ := asks j here
    obtain ⟨r, f, held⟩ := sound.wanted j before
    refine ⟨r, f, ?_⟩
    rw [closed.requests]
    dsimp only
    rw [held, if_neg other]
  case txids =>
    intro j k here there equal
    obtain ⟨this, here⟩ := asks j here
    obtain ⟨that, there⟩ := asks k there
    rw [closed.others j this, closed.others k that] at equal
    exact sound.txids j k here there equal
  case names =>
    intro j k here there equal
    rw [closed.name_eq j, closed.name_eq k] at equal
    exact sound.names j k (named j here) (named k there) equal
  case strings =>
    intro j here
    rw [closed.name_eq j]
    exact sound.strings j (named j here)
  case noAddress =>
    intro j here
    rw [closed.name_eq j]
    exact sound.noAddress j (named j here)
  case bound =>
    intro j here
    obtain ⟨this, here⟩ := asks j here
    obtain ⟨pcb, uses, there⟩ := sound.bound j here
    refine ⟨pcb, by rw [closed.others j this, uses], ?_⟩
    rw [closed.pcbs, if_neg]
    · exact there
    · exact fun both => both.2 ⟨j, this, here, uses⟩
  case used =>
    intro pcb there
    rw [closed.pcbs] at there
    split at there
    next => exact absurd rfl there
    next kept =>
      obtain ⟨j, here, uses⟩ := sound.used pcb there
      by_cases this : j = i
      · -- the control block stays because another entry uses it
        subst this
        obtain ⟨k, other, shares, same⟩ := not_not.mp (not_and.mp kept uses)
        exact ⟨k, stays k other shares, by rw [closed.others k other, same]⟩
      · exact ⟨j, stays j this here, by rw [closed.others j this, uses]⟩

theorem checked (sound : DnsSound s) {i : Fin dnsTableSize} {gone : List (F × Option Ip4Addr)}
    (checked : DnsChecked s i s' gone) : DnsSound s' := by
  cases checked with
  | idle => exact sound
  | waits asking same timed => exact sound.retimed asking same timed
  | fails closed unused => exact sound.closed closed (.inl unused)
  | ages done => exact sound.idle (by simp [DnsClient.Asks, done]) (.inr ⟨done, .inr done, rfl⟩)
  | flushes done => exact sound.idle (by simp [DnsClient.Asks, done]) (.inl rfl)

theorem joined (sound : DnsSound s) {r i : Fin dnsTableSize} {found : F}
    (free : (s.dnsRequests r).found = none) (asks : s.Asks i) :
    DnsSound (s.setRequest r ⟨some found, i⟩) where
  settled := sound.settled
  waiting q f j held := by
    rw [DnsClient.setRequest_dnsRequests, Function.update_apply] at held
    split at held
    next =>
      obtain ⟨_, rfl⟩ := DnsReqEntry.mk.inj held
      exact asks
    next => exact sound.waiting q f j held
  wanted j here := by
    obtain ⟨q, f, held⟩ := sound.wanted j here
    refine ⟨q, f, ?_⟩
    rw [DnsClient.setRequest_dnsRequests, Function.update_of_ne]
    · exact held
    · rintro rfl
      rw [held] at free
      cases free
  txids := sound.txids
  names := sound.names
  strings := sound.strings
  noAddress := sound.noAddress
  bound := sound.bound
  used := sound.used

theorem dropped (sound : DnsSound s) {r i : Fin dnsTableSize}
    (free : (s.dnsRequests r).found = none) : DnsSound (s.setRequest r ⟨none, i⟩) := by
  refine sound.kept sound.settled (fun _ => .rfl) (fun _ _ => ⟨rfl, rfl, rfl, rfl⟩)
    (fun _ here => ⟨here, rfl⟩) (fun q f j => ?_) rfl
  rw [DnsClient.setRequest_dnsRequests, Function.update_apply]
  split
  next this =>
    subst this
    refine iff_of_false (by simp) fun held => ?_
    rw [held] at free
    cases free
  next => rfl

theorem started (sound : DnsSound s) {hostname : Bytes} {found : F} {i r : Fin dnsTableSize}
    (settled : Settled s') (string : 0 ∉ hostname) (short : hostname.length < dnsMaxNameLength)
    (noAddress : ip4addrAton hostname = none) (start : Started s hostname found i r s') : DnsSound s' := by
  have asks (j : Fin dnsTableSize) (here : s'.Asks j) : j = i ∨ j ≠ i ∧ s.Asks j := by
    by_cases this : j = i
    · exact .inl this
    · exact .inr ⟨this, by rwa [DnsClient.Asks, start.others j this] at here⟩
  have named (j : Fin dnsTableSize) (here : s'.Named j) : j = i ∨ j ≠ i ∧ s.Named j := by
    by_cases this : j = i
    · exact .inl this
    · exact .inr ⟨this, by rwa [DnsClient.Named, start.others j this] at here⟩
  have other (j : Fin dnsTableSize) (here : s.Asks j) : j ≠ i := here.ne start.idle
  have stays (j : Fin dnsTableSize) (here : s.Asks j) : s'.Asks j := by
    rwa [DnsClient.Asks, start.others j (other j here)]
  have unlike (j : Fin dnsTableSize) (here : s.Named j) :
      lowered hostname ≠ lowered (s.dnsTable j).name := fun equal =>
    start.unlike j here
      ((lwipStrnicmp_eq_zero_iff string (sound.strings j here).1 short).mpr equal)
  obtain ⟨pcb, uses, there, kept⟩ := start.pcb
  constructor
  case settled => exact settled
  case waiting =>
    intro q f j held
    rw [start.requests, Function.update_apply] at held
    split at held
    next =>
      obtain ⟨_, rfl⟩ := DnsReqEntry.mk.inj held
      exact start.asking
    next => exact stays j (sound.waiting q f j held)
  case wanted =>
    intro j here
    rcases asks j here with rfl | ⟨this, here⟩
    · exact ⟨r, found, by rw [start.requests, Function.update_self]⟩
    · obtain ⟨q, f, held⟩ := sound.wanted j here
      refine ⟨q, f, ?_⟩
      rw [start.requests, Function.update_of_ne]
      · exact held
      · rintro rfl
        have free := start.free
        rw [held] at free
        cases free
  case txids =>
    intro j k here there equal
    rcases asks j here with rfl | ⟨this, here⟩ <;> rcases asks k there with rfl | ⟨that, there⟩
    · rfl
    · rw [start.others k that] at equal
      exact absurd equal.symm (start.txid k there)
    · rw [start.others j this] at equal
      exact absurd equal (start.txid j here)
    · rw [start.others j this, start.others k that] at equal
      exact sound.txids j k here there equal
  case names =>
    intro j k here there equal
    rcases named j here with rfl | ⟨this, here⟩ <;> rcases named k there with rfl | ⟨that, there⟩
    · rfl
    · rw [start.others k that, start.name] at equal
      exact absurd equal (unlike k there)
    · rw [start.others j this, start.name] at equal
      exact absurd equal.symm (unlike j here)
    · rw [start.others j this, start.others k that] at equal
      exact sound.names j k here there equal
  case strings =>
    intro j here
    rcases named j here with rfl | ⟨this, here⟩
    · rw [start.name]
      exact ⟨string, short⟩
    · rw [start.others j this]
      exact sound.strings j here
  case noAddress =>
    intro j here
    rcases named j here with rfl | ⟨this, here⟩
    · rw [start.name]
      exact noAddress
    · rw [start.others j this]
      exact sound.noAddress j here
  case bound =>
    intro j here
    rcases asks j here with rfl | ⟨this, here⟩
    · exact ⟨pcb, uses, there⟩
    · obtain ⟨pcb', uses', there'⟩ := sound.bound j here
      refine ⟨pcb', by rw [start.others j this, uses'], ?_⟩
      by_cases shared : pcb' = pcb
      · rwa [shared]
      · rwa [kept pcb' shared]
  case used =>
    intro pcb' there'
    by_cases new : pcb' = pcb
    · exact ⟨i, start.asking, by rw [new, uses]⟩
    · rw [kept pcb' new] at there'
      obtain ⟨j, here, uses'⟩ := sound.used pcb' there'
      exact ⟨j, stays j here, by rw [start.others j (other j here), uses']⟩

theorem move (sound : DnsSound s) {e : DnsEvent F} {taken : List F}
    {gone : List (F × Option Ip4Addr)} (move : DnsMove s e s' taken gone) : DnsSound s' := by
  have settled := move.settled sound.settled
  cases move with
  | configured =>
    exact sound.kept settled (by simp [DnsClient.Asks]) (fun _ _ => by constructor <;> simp)
      (by simp [DnsClient.Named]) (by simp) (by simp)
  | ticked each => exact each.keeps (fun checked sound => sound.checked checked) sound
  | declined => exact sound
  | joined _ _ free asking => exact sound.joined free asking
  | started string short noAddress start =>
    exact sound.started settled string short noAddress start
  | @dropped _ _ _ _ _ i entry free idle unused =>
    have before : ¬s.Asks i := by
      rcases idle with unused | done
      · simp [DnsClient.Asks, unused]
      · simp [DnsClient.Asks, done]
    exact (sound.idle before (.inl unused)).dropped free
  | ignored => exact sound
  | resolved _ _ closed cached =>
    rcases cached with ⟨_, unused⟩ | ⟨_, done, _⟩
    · exact sound.closed closed (.inl unused)
    · exact sound.closed closed (.inr done)
  | failed _ closed unused => exact sound.closed closed (.inl unused)
  | rerouted _ checked => exact sound.checked checked

end DnsSound

theorem dnsSound_of_run {ts : List (Transition (DnsClient F) (DnsEvent F))}
    (run : Run dnsStep (dnsBoot F) ts s) : DnsSound s :=
  (run.invariant dnsSound_dnsBoot fun taken sound =>
    sound.move (dnsMove_of_dnsStep sound.settled taken)).1

/-! ### No control block is missed -/

/-- The entry has a control block that is there. -/
def DnsClient.Bound (s : DnsClient F) (i : Fin dnsTableSize) : Prop :=
  ∃ pcb, (s.dnsTable i).pcbIdx = some pcb ∧ s.dnsPcbs pcb ≠ none

theorem dnsSend_isSome {i : Fin dnsTableSize} (bound : s.Bound i) (allocated : Bool) :
    (dnsSend allocated i s).isSome := by
  obtain ⟨pcb, uses, there⟩ := bound
  obtain ⟨localPort, open_⟩ := Option.ne_none_iff_exists'.mp there
  simp only [dnsSend, uses, Option.bind_eq_bind, Option.bind_some, open_]
  split_ifs <;> rfl

theorem dnsSend_setEntry_isSome {i : Fin dnsTableSize} {entry : DnsTableEntry} (bound : s.Bound i)
    (same : entry.pcbIdx = (s.dnsTable i).pcbIdx) (allocated : Bool) :
    (dnsSend allocated i (s.setEntry i entry)).isSome := by
  refine dnsSend_isSome ?_ allocated
  rw [DnsClient.Bound, DnsClient.setEntry_dnsTable_self, same]
  exact bound

theorem dnsCheckEntry_isSome {i : Fin dnsTableSize} (settled : (s.dnsTable i).state ≠ .new)
    (bound : s.Asks i → s.Bound i) (outcome : CheckOutcome) :
    (dnsCheckEntry outcome i s).isSome := by
  cases state : (s.dnsTable i).state with
  | new => exact absurd state settled
  | unused => simp [dnsCheckEntry, state]
  | done =>
    simp only [dnsCheckEntry, state]
    split_ifs <;> rfl
  | asking =>
    have bound := bound state
    simp only [dnsCheckEntry, state]
    split_ifs
    · split
      · refine dnsSend_setEntry_isSome bound ?_ _
        rfl
      · rfl
    · refine dnsSend_setEntry_isSome bound ?_ _
      rfl
    · rfl

theorem dnsCheckEach_isSome (outcome : Fin dnsTableSize → CheckOutcome) :
    ∀ (l : List (Fin dnsTableSize)) {s : DnsClient F}, DnsSound s →
      (dnsCheckEach outcome l s).isSome := by
  intro l
  induction l with
  | nil => exact fun _ => rfl
  | cons i l ih =>
    intro s sound
    obtain ⟨⟨s₁, calls⟩, checked⟩ := Option.isSome_iff_exists.mp
      (dnsCheckEntry_isSome (sound.settled i).1 (sound.bound i) (outcome i))
    have here := dnsCheckEntry_spec (sound.settled i).1 (sound.settled i).2 checked
    obtain ⟨⟨s₂, more⟩, rest⟩ := Option.isSome_iff_exists.mp (ih (sound.checked here))
    simp [dnsCheckEach, checked, rest]

/-- The numbers drawn end the loops that draw them. -/
def DnsEvent.Drawn (s : DnsClient F) : DnsEvent F → Prop
  | gethostbyname hostname _ ports outcome => 0 ∉ hostname ∧
    (ports.created → ∃ draw ∈ ports.draws, 1024 ≤ draw.1 ∧ draw.2 ≠ errUse) ∧
    ∃ txid ∈ outcome.txids, ∀ i, s.Asks i → (s.dnsTable i).txid ≠ txid
  | _ => True

theorem dnsRecv_isSome (sound : DnsSound s) (outcome : CheckOutcome) (behind : Nat → UInt8)
    (p : Bytes) (addr : Ip4Addr) : (dnsRecv outcome behind p addr s).isSome := by
  unfold dnsRecv
  split
  next => rfl
  next =>
    dsimp only
    split
    next => rfl
    next i found =>
      have entry := List.find?_some found
      simp only [decide_eq_true_eq] at entry
      split
      next => rfl
      next =>
        split_ifs
        · refine dnsCheckEntry_isSome (by simp [entry.1]) (fun _ => ?_) _
          rw [DnsClient.Bound, DnsClient.setEntry_dnsTable_self]
          exact sound.bound i entry.1
        · rfl
        · split <;> rfl

theorem dnsAllocPcb_isSome {ports : PortOutcome}
    (drawn : ports.created → ∃ draw ∈ ports.draws, 1024 ≤ draw.1 ∧ draw.2 ≠ errUse) :
    (dnsAllocPcb ports s).isSome := by
  have port : (dnsAllocRandomPort ports).isSome := by
    unfold dnsAllocRandomPort
    split
    next created =>
      obtain ⟨draw, member, allowed, bound⟩ := drawn created
      rw [Option.isSome_map, List.find?_isSome]
      exact ⟨_, List.mem_map_of_mem member, by simp [allowed, bound]⟩
    next => rfl
  rw [dnsAllocPcb, Option.isSome_map, dnsFreshPcb]
  split
  next => rwa [Option.isSome_map]
  next => rfl

theorem dnsCreateTxid_isSome {txids : List UInt16}
    (drawn : ∃ txid ∈ txids, ∀ i, s.Asks i → (s.dnsTable i).txid ≠ txid) :
    (dnsCreateTxid txids s).isSome := by
  obtain ⟨txid, member, fresh⟩ := drawn
  rw [dnsCreateTxid, List.find?_isSome]
  refine ⟨txid, member, ?_⟩
  simp only [decide_eq_true_eq]
  rintro ⟨i, asks, same⟩
  exact fresh i asks same

theorem dnsCheckEntry_new_isSome {outcome : CheckOutcome} {i : Fin dnsTableSize}
    (new : (s.dnsTable i).state = .new) (bound : s.Bound i)
    (drawn : ∃ txid ∈ outcome.txids, ∀ j, s.Asks j → (s.dnsTable j).txid ≠ txid) :
    (dnsCheckEntry outcome i s).isSome := by
  obtain ⟨txid, created⟩ := Option.isSome_iff_exists.mp (dnsCreateTxid_isSome drawn)
  simp only [dnsCheckEntry, new, created, Option.bind_eq_bind, Option.bind_some]
  refine dnsSend_setEntry_isSome bound ?_ _
  rfl

theorem dnsFillEntry_isSome {ports : PortOutcome} {outcome : CheckOutcome} {name : Bytes} {found : F}
    {i r : Fin dnsTableSize}
    (drawn : DnsEvent.Drawn s (.gethostbyname name found ports outcome)) :
    (dnsFillEntry ports outcome name found i r s).isSome := by
  obtain ⟨⟨s₁, pcbIdx⟩, allocated⟩ :=
    Option.isSome_iff_exists.mp (dnsAllocPcb_isSome (s := s) drawn.2.1)
  obtain ⟨txid, member, fresh⟩ := drawn.2.2
  simp only [dnsFillEntry, allocated, Option.bind_some]
  rcases dnsAllocPcb_eq allocated with ⟨rfl, rfl⟩ | ⟨pcb, rfl, there, _, table, _⟩
  · rfl
  · rw [Option.isSome_map]
    refine dnsCheckEntry_new_isSome (by simp) ⟨pcb, by simp, there⟩ ⟨txid, member, fun j asks => ?_⟩
    by_cases this : j = i
    · subst this
      simp [DnsClient.Asks] at asks
    · rw [DnsClient.Asks, DnsClient.setEntry_dnsTable_of_ne _ _ _ this] at asks
      rw [DnsClient.setEntry_dnsTable_of_ne _ _ _ this]
      simp only [DnsClient.setRequest_dnsTable, table] at asks ⊢
      exact fresh j asks

theorem dnsEnqueue_isSome {ports : PortOutcome} {outcome : CheckOutcome} {name : Bytes} {found : F}
    (drawn : DnsEvent.Drawn s (.gethostbyname name found ports outcome)) :
    (dnsEnqueue ports outcome name found s).isSome := by
  unfold dnsEnqueue
  split
  next => rfl
  next =>
    split
    next => rfl
    next =>
      split
      next => exact dnsFillEntry_isSome drawn
      next => rfl

/-- Where the draws end, so does every step: the resolver sends from no control block that is not
there. -/
theorem dnsStep_isSome {ts : List (Transition (DnsClient F) (DnsEvent F))}
    (run : Run dnsStep (dnsBoot F) ts s) (e : DnsEvent F) (drawn : e.Drawn s) :
    (dnsStep s e).isSome := by
  have sound := dnsSound_of_run run
  rw [dnsStep, Option.isSome_map]
  cases e with
  | gethostbyname hostname found ports outcome =>
    rw [dnsHandle, if_neg drawn.1, Option.isSome_map]
    unfold dnsGethostbyname
    split_ifs
    · rfl
    · split
      · rfl
      · split
        · rfl
        · rfl
    · split
      · rfl
      · split
        · rfl
        · rw [Option.isSome_map]
          exact dnsEnqueue_isSome drawn
  | recv p addr behind outcome => exact dnsRecv_isSome sound outcome behind p addr
  | tmr outcome => exact dnsCheckEach_isSome outcome _ sound
  | setserver => rfl

/-- Two lookups of one name. -/
def poolLookups : List (DnsEvent Nat) :=
  let ports : PortOutcome := ⟨true, [(80, errOk), (5000, errOk)]⟩
  [.setserver 0 (some 0x08080808), .gethostbyname (ascii "pool.ntp.org") 5 ports ⟨[77], true⟩,
    .gethostbyname (ascii "POOL.ntp.org") 6 ports ⟨[], false⟩]

/-- The first number drawn is in use. -/
theorem dnsStep_isSome_poolLookups : ∃ s : DnsClient Nat, s.Asks 0 ∧
    (dnsStep s (.gethostbyname (ascii "time.nist.gov") 7 ⟨true, [(5001, errOk)]⟩
      ⟨[77, 78], true⟩)).isSome := by
  have done : (exec dnsStep (dnsBoot Nat) poolLookups).map (fun result =>
      decide ((result.2.dnsTable 0).state = .asking ∧
        ∀ i, (result.2.dnsTable i).state = .asking → (result.2.dnsTable i).txid ≠ 78)) =
      some true := by
    decide +kernel
  obtain ⟨ts, s, run, facts⟩ := exists_run done
  obtain ⟨asks, fresh⟩ := of_decide_eq_true facts
  have drawn : DnsEvent.Drawn s (.gethostbyname (ascii "time.nist.gov") 7 ⟨true, [(5001, errOk)]⟩
      ⟨[77, 78], true⟩) :=
    ⟨by decide, fun _ => ⟨_, List.mem_singleton_self _, by decide, by decide⟩, 78, by decide, fresh⟩
  exact ⟨s, asks, dnsStep_isSome run _ drawn⟩

end EpaperClock
