import EpaperClock.DnsLookups

/-! The addresses handed out come from responses for their names, and do not outlive them. -/
namespace EpaperClock

open StepSystem

variable {F : Type} {s s' : DnsClient F}

/-- A completed entry some calls of `dns_tmr` ago. -/
structure Aged (s : DnsClient F) (i : Fin dnsTableSize) (ticks : Nat) (s' : DnsClient F) : Prop where
  done : (s.dnsTable i).state = .done
  name : (s'.dnsTable i).name = (s.dnsTable i).name
  ipaddr : (s'.dnsTable i).ipaddr = (s.dnsTable i).ipaddr
  ttl : (s'.dnsTable i).ttl.toNat + ticks = (s.dnsTable i).ttl.toNat
  lives : 0 < ticks → 0 < (s'.dnsTable i).ttl.toNat

/-- A response that gave the entry of a name its address and its time to live. -/
def Response (t : Transition (DnsClient F) (DnsEvent F)) (name : Bytes) (ip4addr : Ip4Addr)
    (ttl : UInt32) : Prop :=
  ∃ p addr behind outcome i resIdx, t.event = .recv p addr behind outcome ∧
    Matches t.source p addr behind i resIdx ∧ (t.source.dnsTable i).name = name ∧
    dnsAnswers p (getU16 p 6).toNat resIdx = .address ip4addr ttl

variable {i : Fin dnsTableSize}

theorem Aged.same (equal : s'.dnsTable i = s.dnsTable i) (done : (s'.dnsTable i).state = .done) :
    Aged s i 0 s' where
  done := by rw [← equal, done]
  name := by rw [equal]
  ipaddr := by rw [equal]
  ttl := by rw [equal, Nat.add_zero]
  lives none := absurd none (Nat.lt_irrefl 0)

theorem Aged.trans {s₁ : DnsClient F} {m n : Nat} (first : Aged s i m s₁) (later : Aged s₁ i n s') :
    Aged s i (m + n) s' where
  done := first.done
  name := later.name.trans first.name
  ipaddr := later.ipaddr.trans first.ipaddr
  ttl := by
    have before := first.ttl
    have after := later.ttl
    omega
  lives some := by
    rcases Nat.eq_zero_or_pos n with rfl | more
    · have after := later.ttl
      have lives := first.lives (by omega)
      omega
    · exact later.lives more

theorem Aged.other {j : Fin dnsTableSize} {state : DnsState}
    (same : ∀ k, k ≠ j → s'.dnsTable k = s.dnsTable k) (here : (s'.dnsTable j).state = state)
    (rests : state ≠ .done) (done : (s'.dnsTable i).state = .done) :
    i ≠ j ∧ Aged s i 0 s' := by
  have other : i ≠ j := by
    rintro rfl
    exact rests (here.symm.trans done)
  exact ⟨other, .same (same i other) done⟩

theorem DnsChecked.aged {j : Fin dnsTableSize} {gone : List (F × Option Ip4Addr)}
    (checked : DnsChecked s j s' gone) (done : (s'.dnsTable i).state = .done) :
    Aged s i (if i = j then 1 else 0) s' := by
  have idle {state : DnsState} (same : ∀ k, k ≠ j → s'.dnsTable k = s.dnsTable k)
      (here : (s'.dnsTable j).state = state) (rests : state ≠ .done) :
      Aged s i (if i = j then 1 else 0) s' := by
    obtain ⟨other, aged⟩ := Aged.other same here rests done
    rwa [if_neg other]
  cases checked with
  | idle unused => exact idle (fun _ _ => rfl) unused (by decide)
  | waits asking same =>
    exact idle (fun k => s.setEntry_dnsTable_of_ne j _)
      (by rw [DnsClient.setEntry_dnsTable_self, same.state, asking]) (by decide)
  | fails closed unused => exact idle closed.others unused (by decide)
  | @flushes ttl =>
    have unused := s.setEntry_dnsTable_self j { s.dnsTable j with ttl, state := .unused }
    exact idle (fun k => s.setEntry_dnsTable_of_ne j _) (congrArg DnsTableEntry.state unused)
      DnsState.noConfusion
  | ages before lives =>
    by_cases this : i = j
    · subst this
      have one : 1 < (s.dnsTable i).ttl.toNat := UInt32.lt_iff_toNat_lt.mp lives
      have less : ((s.dnsTable i).ttl - 1).toNat = (s.dnsTable i).ttl.toNat - 1 :=
        UInt32.toNat_sub_of_le _ _ (UInt32.le_of_lt lives)
      rw [if_pos rfl]
      constructor
      case done => exact before
      case name => simp
      case ipaddr => simp
      case ttl =>
        rw [DnsClient.setEntry_dnsTable_self, less]
        omega
      case lives =>
        rw [DnsClient.setEntry_dnsTable_self, less]
        omega
    · rw [if_neg this]
      exact .same (s.setEntry_dnsTable_of_ne j _ this) done

theorem DnsCheckedEach.aged {l : List (Fin dnsTableSize)} {gone : List (F × Option Ip4Addr)}
    (each : DnsCheckedEach s l s' gone) (done : (s'.dnsTable i).state = .done) :
    Aged s i (l.count i) s' := by
  induction each with
  | done => exact .same rfl done
  | @next s s₁ s' j rest gone more first _ ih =>
    have later := ih done
    have count : (j :: rest).count i = (if i = j then 1 else 0) + rest.count i := by
      by_cases this : i = j
      · simp [this, Nat.add_comm]
      · rw [List.count_cons_of_ne (Ne.symm this), if_neg this, Nat.zero_add]
    rw [count]
    exact (first.aged later.done).trans later

theorem DnsMove.aged {e : DnsEvent F} {taken : List F} {gone : List (F × Option Ip4Addr)}
    (move : DnsMove s e s' taken gone) (done : (s'.dnsTable i).state = .done) :
    Aged s i (if e.isTmr then 1 else 0) s' ∨
      e.isTmr = false ∧ ∃ ttl, ttl ≠ 0 ∧
        Response ⟨s, e, s'⟩ (s'.dnsTable i).name (s'.dnsTable i).ipaddr ttl ∧
        (s'.dnsTable i).ttl = cappedTtl ttl := by
  cases move with
  | configured => exact .inl (.same (by simp) done)
  | ticked each =>
    have aged := each.aged done
    rw [List.count_eq_one_of_mem (List.nodup_finRange _) (List.mem_finRange i)] at aged
    exact .inl aged
  | declined => exact .inl (.same rfl done)
  | joined => exact .inl (.same rfl done)
  | started _ _ _ start => exact .inl (Aged.other start.others start.asking (by decide) done).2
  | @dropped _ _ _ _ _ j entry _ _ unused =>
    have other := Aged.other (s := s) (i := i) (j := j) (fun k => s.setEntry_dnsTable_of_ne j entry)
      (by rw [DnsClient.setEntry_dnsTable_self, unused]) (by decide) done
    exact .inl (.same (s.setEntry_dnsTable_of_ne j entry other.1) done)
  | ignored => exact .inl (.same rfl done)
  | @resolved p addr behind outcome j resIdx ip4addr ttl _ _ response answer closed cached =>
    by_cases this : i = j
    · subst this
      rcases cached with ⟨_, unused⟩ | ⟨lives, _, ipaddr, capped⟩
      · rw [done] at unused
        cases unused
      · refine .inr ⟨rfl, ttl, lives, ?_, capped⟩
        exact ⟨p, addr, behind, outcome, i, resIdx, rfl, response, closed.name.symm,
          by rw [ipaddr, answer]⟩
    · exact .inl (.same (closed.others i this) done)
  | failed _ closed unused => exact .inl (Aged.other closed.others unused (by decide) done).2
  | @rerouted p addr behind outcome j resIdx _ _ response checked =>
    have aged := checked.aged done
    have other : i ≠ j := by
      rintro rfl
      have asking := response.asking
      rw [aged.done] at asking
      cases asking
    rw [if_neg other] at aged
    exact .inl aged

/-- The entry was filled by a response of the run, and has aged since. -/
def Filled (ts : List (Transition (DnsClient F) (DnsEvent F))) (entry : DnsTableEntry) : Prop :=
  0 < entry.ttl.toNat ∧ ∃ pre t post ttl, ts = pre ++ t :: post ∧
    Response t entry.name entry.ipaddr ttl ∧
    (post.countP fun u => u.event.isTmr) + entry.ttl.toNat = (cappedTtl ttl).toNat

theorem fresh_of_run {ts : List (Transition (DnsClient F) (DnsEvent F))}
    (run : Run dnsStep (dnsBoot F) ts s) :
    ∀ i, (s.dnsTable i).state = .done → Filled ts (s.dnsTable i) := by
  induction run with
  | start =>
    intro i done
    cases done
  | @next ts s e s' before taken ih =>
    intro i done
    have move := dnsMove_of_dnsStep (settled_of_run before) taken
    rcases move.aged done with aged | ⟨quiet, ttl, lives, response, capped⟩
    · obtain ⟨alive, pre, t, post, ttl, rfl, response, age⟩ := ih i aged.done
      have left := aged.ttl
      refine ⟨?_, pre, t, post ++ [⟨s, e, s'⟩], ttl, by simp, ?_, ?_⟩
      · have lives := aged.lives
        split at left
        next tick => exact lives (by simp [tick])
        next => omega
      · rwa [aged.name, aged.ipaddr]
      · rw [List.countP_append, List.countP_singleton]
        dsimp only
        omega
    · refine ⟨?_, ts, _, [], ttl, rfl, response, by simp [capped]⟩
      rw [capped, Nat.pos_iff_ne_zero]
      exact fun zero => lives ((cappedTtl_eq_zero ttl).mp (UInt32.toNat_inj.mp zero))

/-- A host name that is no address itself is answered at once only from a response for that
name, and only until `dns_tmr` has been called as often as the response's time to live or the
limit of a week allow. -/
theorem cached_address_fresh {ts : List (Transition (DnsClient F) (DnsEvent F))}
    (run : Run dnsStep (dnsBoot F) ts s) {hostname : Bytes} {found : F} {ports : PortOutcome}
    {outcome : CheckOutcome} {resolved : Ip4Addr} (name : ip4addrAton hostname = none)
    (returned : dnsReturned s (.gethostbyname hostname found ports outcome) =
      some (errOk, some resolved)) :
    ∃ pre t post alike ttl, ts = pre ++ t :: post ∧ Response t alike resolved ttl ∧
      lwipStrnicmp hostname alike dnsMaxNameLength = 0 ∧
      (post.countP fun u => u.event.isTmr) < (cappedTtl ttl).toNat := by
  have found : ∃ i, (s.dnsTable i).state = .done ∧
      lwipStrnicmp hostname (s.dnsTable i).name dnsMaxNameLength = 0 ∧
      (s.dnsTable i).ipaddr = resolved := by
    obtain ⟨⟨result, rest⟩, taken, same⟩ := Option.map_eq_some_iff.mp returned
    simp only at same
    subst same
    simp only [dnsGethostbyname, name] at taken
    split at taken
    next => simp at taken
    next =>
      split at taken
      next addr looked =>
        obtain ⟨i, entry, rfl⟩ := Option.map_eq_some_iff.mp looked
        have matched := List.find?_some entry
        simp only [decide_eq_true_eq] at matched
        obtain rfl : (s.dnsTable i).ipaddr = resolved := by
          simpa using congrArg Prod.snd (congrArg Prod.fst (Option.some.inj taken))
        exact ⟨i, matched.1, matched.2, rfl⟩
      next =>
        split at taken
        next => simp at taken
        next =>
          obtain ⟨_, _, taken⟩ := Option.map_eq_some_iff.mp taken
          simp at taken
  obtain ⟨i, done, alike, rfl⟩ := found
  obtain ⟨alive, pre, t, post, ttl, split, response, age⟩ := fresh_of_run run i done
  exact ⟨pre, t, post, _, ttl, split, response, alike, by omega⟩

theorem cached_address_fresh_poolReply :
    ∃ (t : Transition (DnsClient Nat) (DnsEvent Nat)) (alike : Bytes) (ttl : UInt32),
      Response t alike 0x01c89fa2 ttl ∧
      lwipStrnicmp (ascii "pool.NTP.org") alike dnsMaxNameLength = 0 := by
  have done : (exec dnsStep (dnsBoot Nat) (poolLookups ++ [poolReply])).map (fun result =>
      decide (dnsReturned result.2 (.gethostbyname (ascii "pool.NTP.org") 7 ⟨false, []⟩ ⟨[], false⟩) =
        some (errOk, some 0x01c89fa2))) = some true := by
    decide +kernel
  obtain ⟨ts, s, run, facts⟩ := exists_run done
  have name : ip4addrAton (ascii "pool.NTP.org") = none := by decide +kernel
  obtain ⟨_, t, _, alike, ttl, _, response, same, _⟩ :=
    cached_address_fresh run name (of_decide_eq_true facts)
  exact ⟨t, alike, ttl, response, same⟩

/-! ### Addresses for callbacks -/

/-- The callback was passed along with the name of its entry. -/
def Asked (ts : List (Transition (DnsClient F) (DnsEvent F))) (found : F) (name : Bytes) : Prop :=
  ∃ t ∈ ts, ∃ hostname ports outcome, t.event = .gethostbyname hostname found ports outcome ∧
    dnsOpened t = [found] ∧ lowered hostname = lowered name

/-- Requests that remain belong to entries of the same names. -/
def Remains (s s' : DnsClient F) : Prop :=
  ∀ r f i, s'.dnsRequests r = ⟨some f, i⟩ →
    s.dnsRequests r = ⟨some f, i⟩ ∧ (s'.dnsTable i).name = (s.dnsTable i).name

theorem Closed.remains {j : Fin dnsTableSize} {addr : Option Ip4Addr}
    {gone : List (F × Option Ip4Addr)} (closed : Closed s j addr s' gone) : Remains s s' :=
  fun _ _ i held => ⟨closed.request held, closed.name_eq i⟩

theorem Remains.setEntry {j : Fin dnsTableSize} {entry : DnsTableEntry}
    (same : entry.name = (s.dnsTable j).name) : Remains s (s.setEntry j entry) := by
  refine fun r f i held => ⟨held, ?_⟩
  by_cases this : i = j
  · rw [this, DnsClient.setEntry_dnsTable_self, same]
  · rw [s.setEntry_dnsTable_of_ne j entry this]

theorem DnsChecked.remains {j : Fin dnsTableSize} {gone : List (F × Option Ip4Addr)}
    (checked : DnsChecked s j s' gone) : Remains s s' := by
  cases checked with
  | idle => exact fun _ _ _ held => ⟨held, rfl⟩
  | waits _ same => exact .setEntry same.name
  | fails closed => exact closed.remains
  | ages => exact .setEntry rfl
  | flushes => exact .setEntry rfl

theorem Remains.trans {s₁ : DnsClient F} (first : Remains s s₁) (later : Remains s₁ s') :
    Remains s s' := by
  intro r f i held
  obtain ⟨held, after⟩ := later r f i held
  obtain ⟨held, before⟩ := first r f i held
  exact ⟨held, after.trans before⟩

/-- A request that is in its slot after an event was there before, or is that of the event. -/
theorem DnsMove.request (sound : DnsSound s) {e : DnsEvent F} {taken : List F}
    {gone : List (F × Option Ip4Addr)} (move : DnsMove s e s' taken gone) :
    ∀ r f i, s'.dnsRequests r = ⟨some f, i⟩ →
      s.dnsRequests r = ⟨some f, i⟩ ∧ (s'.dnsTable i).name = (s.dnsTable i).name ∨
      taken = [f] ∧ ∃ hostname ports outcome, e = .gethostbyname hostname f ports outcome ∧
        lowered hostname = lowered (s'.dnsTable i).name := by
  have remains (remains : Remains s s') (r f i) (held : s'.dnsRequests r = ⟨some f, i⟩) :
      s.dnsRequests r = ⟨some f, i⟩ ∧ (s'.dnsTable i).name = (s.dnsTable i).name ∨
      taken = [f] ∧ ∃ hostname ports outcome, e = .gethostbyname hostname f ports outcome ∧
        lowered hostname = lowered (s'.dnsTable i).name := .inl (remains r f i held)
  have other {j : Fin dnsTableSize}
      (idle : (s.dnsTable j).state = .unused ∨ (s.dnsTable j).state = .done) {r f i}
      (held : s.dnsRequests r = ⟨some f, i⟩) : i ≠ j :=
    (sound.waiting r f i held).ne idle
  cases move with
  | configured => exact remains fun _ _ _ held => ⟨by simpa using held, by simp⟩
  | ticked each =>
    exact remains (each.keeps (P := Remains s) (fun checked before => before.trans checked.remains)
      fun _ _ _ held => ⟨held, rfl⟩)
  | declined => exact remains fun _ _ _ held => ⟨held, rfl⟩
  | @joined hostname found ports outcome q j string short _ asking alike =>
    intro r f i held
    rw [DnsClient.setRequest_dnsRequests, Function.update_apply] at held
    split at held
    next =>
      obtain ⟨callback, rfl⟩ := DnsReqEntry.mk.inj held
      cases callback
      exact .inr ⟨rfl, hostname, ports, outcome, rfl,
        (lwipStrnicmp_eq_zero_iff string (sound.strings j (.inl asking)).1 short).mp alike⟩
    next => exact .inl ⟨held, rfl⟩
  | @started hostname found ports outcome q j _ string short _ start =>
    intro r f i held
    rw [start.requests, Function.update_apply] at held
    split at held
    next =>
      obtain ⟨callback, rfl⟩ := DnsReqEntry.mk.inj held
      cases callback
      exact .inr ⟨rfl, hostname, ports, outcome, rfl, by rw [start.name]⟩
    next => exact .inl ⟨held, by rw [start.others i (other start.idle held)]⟩
  | @dropped hostname found ports outcome q j entry free idle unused =>
    intro r f i held
    rw [DnsClient.setRequest_dnsRequests, DnsClient.setEntry_dnsRequests,
      Function.update_apply] at held
    split at held
    next => cases held
    next =>
      refine .inl ⟨held, ?_⟩
      rw [DnsClient.setRequest_dnsTable, s.setEntry_dnsTable_of_ne j entry (other idle held)]
  | ignored => exact remains fun _ _ _ held => ⟨held, rfl⟩
  | resolved _ _ closed => exact remains closed.remains
  | failed _ closed => exact remains closed.remains
  | rerouted _ checked => exact remains checked.remains

theorem asked_of_run {ts : List (Transition (DnsClient F) (DnsEvent F))}
    (run : Run dnsStep (dnsBoot F) ts s) :
    ∀ r f i, s.dnsRequests r = ⟨some f, i⟩ → Asked ts f (s.dnsTable i).name := by
  induction run with
  | start =>
    intro r f i held
    cases held
  | @next ts s e s' before taken ih =>
    intro r f i held
    have sound := dnsSound_of_run before
    have move := dnsMove_of_dnsStep sound.settled taken
    rcases move.request sound r f i held with ⟨held, name⟩ | ⟨opened, hostname, ports, outcome, rfl, alike⟩
    · obtain ⟨t, member, earlier⟩ := ih r f i held
      rw [name]
      exact ⟨t, List.mem_append_left _ member, earlier⟩
    · exact ⟨_, List.mem_append_right _ (List.mem_singleton_self _), hostname, ports, outcome, rfl,
        opened, alike⟩

theorem Closed.answered {j : Fin dnsTableSize} {addr : Option Ip4Addr}
    {gone : List (F × Option Ip4Addr)} (closed : Closed s j addr s' gone) {found : F}
    {ipaddr : Option Ip4Addr} (member : (found, ipaddr) ∈ gone) :
    ipaddr = addr ∧ ∃ r, s.dnsRequests r = ⟨some found, j⟩ := by
  rw [closed.called] at member
  obtain ⟨f, waiting, same⟩ := List.mem_map.mp member
  obtain ⟨rfl, rfl⟩ := Prod.mk.inj same
  obtain ⟨r, _, held⟩ := List.mem_filterMap.mp waiting
  split at held
  next here =>
    refine ⟨rfl, r, ?_⟩
    rw [← held, ← here]
  next => cases held

/-- The timer has no addresses to give. -/
theorem DnsChecked.unanswered {j : Fin dnsTableSize} {gone : List (F × Option Ip4Addr)}
    (checked : DnsChecked s j s' gone) {found : F} {resolved : Ip4Addr} :
    (found, some resolved) ∉ gone := by
  cases checked with
  | fails closed =>
    intro member
    cases (closed.answered member).1
  | _ => exact List.not_mem_nil

theorem DnsCheckedEach.unanswered {l : List (Fin dnsTableSize)} {gone : List (F × Option Ip4Addr)}
    (each : DnsCheckedEach s l s' gone) {found : F} {resolved : Ip4Addr} :
    (found, some resolved) ∉ gone := by
  induction each with
  | done => exact List.not_mem_nil
  | next first _ ih => simp [first.unanswered, ih]

/-- An address is given by a response, to who waits for its entry. -/
theorem DnsMove.answered {e : DnsEvent F} {taken : List F} {gone : List (F × Option Ip4Addr)}
    (move : DnsMove s e s' taken gone) {found : F} {resolved : Ip4Addr}
    (member : (found, some resolved) ∈ gone) :
    ∃ i r ttl, s.dnsRequests r = ⟨some found, i⟩ ∧
      Response ⟨s, e, s'⟩ (s.dnsTable i).name resolved ttl := by
  cases move with
  | ticked each => exact absurd member each.unanswered
  | @resolved p addr behind outcome i resIdx ip4addr ttl _ _ response answer closed =>
    obtain ⟨same, r, held⟩ := closed.answered member
    obtain rfl := Option.some.inj same
    exact ⟨i, r, ttl, held, p, addr, behind, outcome, i, resIdx, rfl, response, rfl, answer⟩
  | failed _ closed => cases (closed.answered member).1
  | rerouted _ checked => exact absurd member checked.unanswered
  | _ => cases member

/-- A callback is given an address only from a response for the name that it was passed along
with. -/
theorem callback_address_asked {ts : List (Transition (DnsClient F) (DnsEvent F))}
    (run : Run dnsStep (dnsBoot F) ts s) {pre post : List (Transition (DnsClient F) (DnsEvent F))}
    {t : Transition (DnsClient F) (DnsEvent F)} (split : ts = pre ++ t :: post) {found : F}
    {resolved : Ip4Addr}
    (called : (found, some resolved) ∈ answers (dnsCalls t.source t.event)) :
    ∃ name ttl, Asked pre found name ∧ Response t name resolved ttl := by
  subst split
  obtain ⟨before, taken⟩ := run.split
  have move := dnsMove_of_dnsStep (settled_of_run before) taken
  obtain ⟨i, r, ttl, held, response⟩ := move.answered called
  exact ⟨_, ttl, asked_of_run before r found i held, response⟩

/-- Both who wait are given the address. -/
theorem callback_address_asked_poolReply :
    ∃ (pre : List (Transition (DnsClient Nat) (DnsEvent Nat)))
      (t : Transition (DnsClient Nat) (DnsEvent Nat)) (name : Bytes) (ttl : UInt32),
      Asked pre 6 name ∧ Response t name 0x01c89fa2 ttl := by
  have done : (exec dnsStep (dnsBoot Nat) (poolLookups ++ [poolReply])).map (fun result =>
      decide (result.1.getLast?.map (fun t => answers (dnsCalls t.source t.event)) =
        some [(5, some 0x01c89fa2), (6, some 0x01c89fa2)])) = some true := by
    decide +kernel
  obtain ⟨ts, s, run, facts⟩ := exists_run done
  obtain ⟨t, last, called⟩ := Option.map_eq_some_iff.mp (of_decide_eq_true facts)
  obtain ⟨pre, split⟩ := List.getLast?_eq_some_iff.mp last
  have given : (6, some 0x01c89fa2) ∈ answers (dnsCalls t.source t.event) := by
    rw [called]
    decide
  obtain ⟨name, ttl, asked, response⟩ := callback_address_asked run split given
  exact ⟨pre, t, name, ttl, asked, response⟩

end EpaperClock
