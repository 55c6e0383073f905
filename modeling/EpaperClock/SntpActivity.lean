import EpaperClock.SntpClient

/-! How many timers run, over whole runs on either clock: one for every cyclic timer, and for
the SNTP client one more with each reply that comes when it should not. -/
namespace EpaperClock

open StepSystem TimerQueue

variable {T : Type} {base : TimeBase T} {s s' : SntpClient T}

def LoopPhase.calls (phase : LoopPhase T) (handler : TimeoutHandler) : Nat :=
  match phase with
  | calling _ called => if called = handler then 1 else 0
  | _ => 0

/-- The calls of a handler that are to come or under way. -/
def SntpClient.live (s : SntpClient T) (handler : TimeoutHandler) : Nat :=
  pending handler s.timeouts.nextTimeout + s.phase.calls handler

/-- What will come to another attempt to send a request. -/
def SntpClient.activity (s : SntpClient T) : Nat :=
  s.live .sntpRequest + s.live .sntpTryNextServer + s.dnsRequests

/-! ### One step -/

theorem Arms.live {msecs : UInt32} {armed : TimeoutHandler} (arms : Arms base s msecs armed s')
    (handler : TimeoutHandler) :
    s'.live handler = s.live handler + if armed = handler then 1 else 0 := by
  rw [SntpClient.live, SntpClient.live, arms.timeouts, arms.phase, pending_insert]
  exact Nat.add_right_comm _ _ _

theorem live_called {now : T} {called : TimeoutHandler} (calling : s.phase = .calling now called)
    (handler : TimeoutHandler) : s.live handler =
      SntpClient.live { s with phase := .checking now } handler +
        if called = handler then 1 else 0 := by
  rw [SntpClient.live, calling]
  rfl

/-- A handler that sets itself again. -/
theorem live_again (base : TimeBase T) {now : T} {called : TimeoutHandler} (calling : s.phase = .calling now called)
    (time : T) (handler : TimeoutHandler) :
    SntpClient.live { s with
      phase := .checking now
      timeouts := { s.timeouts with
        nextTimeout := insert base ⟨time, called⟩ s.timeouts.nextTimeout } } handler =
      s.live handler := by
  rw [live_called calling]
  simp only [SntpClient.live, pending_insert]
  rfl

theorem live_expired {now : T} {called : TimeoutHandler} {timeouts : Timeouts T}
    (checking : s.phase = .checking now)
    (taken : nextExpired base now s.timeouts = some (called, timeouts)) (handler : TimeoutHandler) :
    SntpClient.live { s with timeouts, phase := .calling now called } handler = s.live handler := by
  simp only [SntpClient.live, (nextExpired_eq_some taken).2.1, checking, pending_cons]
  rfl

theorem Arms.activity {msecs : UInt32} {armed : TimeoutHandler} (arms : Arms base s msecs armed s')
    (sntp : armed = .sntpRequest ∨ armed = .sntpTryNextServer) : s'.activity = s.activity + 1 := by
  simp only [SntpClient.activity, arms.live, arms.dnsRequests]
  rcases sntp with rfl | rfl <;> simp <;> omega

/-- Every attempt ends in a timer or in a lookup. -/
theorem Attempt.activity {sent : List UdpDatagram} (attempt : Attempt base s s' sent) :
    s'.activity = s.activity + 1 := by
  cases attempt with
  | sent _ armed => exact armed.activity (.inr rfl)
  | failed sntp armed => exact armed.activity sntp
  | retried armed => exact armed.activity (.inl rfl)
  | lookup => exact (Nat.add_assoc _ _ _).symm

theorem Attempt.live {sent : List UdpDatagram} (attempt : Attempt base s s' sent)
    {handler : TimeoutHandler} (request : handler ≠ .sntpRequest)
    (tryNext : handler ≠ .sntpTryNextServer) : s'.live handler = s.live handler := by
  cases attempt with
  | sent _ armed => rw [armed.live, if_neg tryNext.symm, Nat.add_zero]
  | failed sntp armed =>
    rcases sntp with rfl | rfl
    · rw [armed.live, if_neg request.symm, Nat.add_zero]
    · rw [armed.live, if_neg tryNext.symm, Nat.add_zero]
  | retried armed => rw [armed.live, if_neg request.symm, Nat.add_zero]
  | lookup => rfl

theorem Attempt.active {sent : List UdpDatagram} (attempt : Attempt base s s' sent) :
    s'.timeouts.tcpipTcpTimerActive = s.timeouts.tcpipTcpTimerActive := by
  cases attempt with
  | sent _ armed => rw [armed.timeouts]
  | failed _ armed => rw [armed.timeouts]
  | retried armed => rw [armed.timeouts]
  | lookup => rfl

theorem Attempt.sntpPcb {sent : List UdpDatagram} (attempt : Attempt base s s' sent) :
    s'.sntpPcb = s.sntpPcb := by
  cases attempt with
  | sent _ armed => exact armed.sntpPcb
  | failed _ armed => exact armed.sntpPcb
  | retried armed => exact armed.sntpPcb
  | lookup => rfl

/-! ### The timers of the stack -/

/-- Every cyclic timer is set once; the TCP timer is not among them, and the flag tells
whether it is set. -/
structure OneEach (s : SntpClient T) : Prop where
  cyclic : ∀ cyclic, s.live (.lwipCyclicTimer cyclic) = if cyclic = .tcpTmr then 0 else 1
  tcp : s.live .tcpipTcpTimer = if s.timeouts.tcpipTcpTimerActive then 1 else 0

namespace OneEach

/-- Steps of the client leave them alone. -/
theorem of_live (each : OneEach s)
    (live : ∀ handler, handler ≠ .sntpRequest → handler ≠ .sntpTryNextServer →
      s'.live handler = s.live handler)
    (active : s'.timeouts.tcpipTcpTimerActive = s.timeouts.tcpipTcpTimerActive) : OneEach s' where
  cyclic := fun cyclic => (live (.lwipCyclicTimer cyclic) nofun nofun).trans (each.cyclic cyclic)
  tcp := by rw [live .tcpipTcpTimer nofun nofun, each.tcp, active]

theorem attempt (each : OneEach s) {sent : List UdpDatagram} (attempt : Attempt base s s' sent) :
    OneEach s' :=
  each.of_live (fun _ request tryNext => attempt.live request tryNext) attempt.active

theorem called (each : OneEach s) {now : T} {sntp : TimeoutHandler}
    (calling : s.phase = .calling now sntp)
    (client : sntp = .sntpRequest ∨ sntp = .sntpTryNextServer) :
    OneEach { s with phase := .checking now } := by
  refine each.of_live (fun handler request tryNext => ?_) rfl
  have other : sntp ≠ handler := by
    rcases client with rfl | rfl
    · exact request.symm
    · exact tryNext.symm
  rw [live_called calling, if_neg other, Nat.add_zero]

theorem recv (each : OneEach s) {p : List UInt8} (received : sntpRecv base p s = some s') :
    OneEach s' := by
  rcases sntpRecv_eq received with ⟨_, _, _, _, armed⟩ | ⟨_, retried⟩ | ⟨_, _, rfl⟩
  · refine each.of_live (fun handler request tryNext => ?_) (by rw [armed.timeouts]; rfl)
    rw [armed.live, if_neg request.symm, Nat.add_zero]
    simp only [SntpClient.live, sysUntimeout]
    rw [pending_cancel_other request.symm, pending_cancel_other tryNext.symm]
  · exact each.attempt retried
  · exact each

theorem cyclicTimer (each : OneEach s) {now : T} {cyclic : CyclicTimer} {timeouts : Timeouts T}
    (calling : s.phase = .calling now (.lwipCyclicTimer cyclic))
    (set : lwipCyclicTimer base cyclic s.timeouts = some timeouts) :
    OneEach { s with phase := .checking now, timeouts } := by
  obtain ⟨_, time, _, rfl⟩ := lwipCyclicTimer_eq set
  have same := live_again base calling time
  exact ⟨fun other => (same _).trans (each.cyclic other), (same _).trans each.tcp⟩

theorem tcpTimer (each : OneEach s) {now : T} {pcbs : Bool} {timeouts : Timeouts T}
    (calling : s.phase = .calling now .tcpipTcpTimer)
    (set : tcpipTcpTimer base pcbs s.timeouts = some timeouts) :
    OneEach { s with phase := .checking now, timeouts } := by
  rcases tcpipTcpTimer_eq set with ⟨time, rfl⟩ | rfl
  · have same := live_again base calling time
    exact ⟨fun other => (same _).trans (each.cyclic other), (same _).trans each.tcp⟩
  · constructor
    · intro cyclic
      have before := live_called calling (.lwipCyclicTimer cyclic)
      have other : TimeoutHandler.tcpipTcpTimer ≠ .lwipCyclicTimer cyclic := nofun
      rw [if_neg other, Nat.add_zero] at before
      exact before.symm.trans (each.cyclic cyclic)
    · have before := live_called calling .tcpipTcpTimer
      have most : s.live .tcpipTcpTimer ≤ 1 := by
        rw [each.tcp]
        split <;> decide
      rw [if_pos rfl] at before
      change SntpClient.live { s with phase := .checking now } .tcpipTcpTimer = 0
      omega

theorem tcpNeeded (each : OneEach s) {pcbs : Bool} {timeouts : Timeouts T}
    (set : tcpTimerNeeded base pcbs s.timeouts = some timeouts) :
    OneEach { s with timeouts } := by
  rcases tcpTimerNeeded_eq set with ⟨inactive, time, rfl⟩ | rfl
  · constructor
    · intro cyclic
      rw [← each.cyclic cyclic]
      simp [SntpClient.live]
    · have none := each.tcp
      rw [inactive] at none
      simp only [SntpClient.live, pending_insert] at none ⊢
      simp at none ⊢
      omega
  · exact each

theorem move (each : OneEach s) {e : SntpEvent} {sent : List UdpDatagram}
    (move : SntpMove base s e s' sent) : OneEach s' := by
  cases move with
  | tick => exact ⟨each.cyclic, each.tcp⟩
  | initAgain => exact ⟨each.cyclic, each.tcp⟩
  | init polling stopped set =>
    obtain ⟨_, _, rfl⟩ := sysTimeout_eq set
    refine each.of_live (fun handler request _ => ?_) rfl
    simp only [SntpClient.live, pending_insert, if_neg request.symm, Nat.add_zero]
  | check polling =>
    refine each.of_live (fun handler _ _ => ?_) rfl
    rw [SntpClient.live, SntpClient.live, polling]
    rfl
  | expired checking taken =>
    refine each.of_live (fun handler _ _ => live_expired checking taken handler) ?_
    rw [(nextExpired_eq_some taken).2.2]
  | checked checking none =>
    refine each.of_live (fun handler _ _ => ?_) rfl
    rw [SntpClient.live, SntpClient.live, checking]
    rfl
  | cyclic calling set => exact each.cyclicTimer calling set
  | tcp calling set => exact each.tcpTimer calling set
  | request calling requested =>
    exact (each.called calling (.inl rfl)).attempt (sntpRequest_attempt requested)
  | retry calling retried =>
    exact (each.called calling (.inr rfl)).attempt (sntpRetry_attempt retried)
  | recv _ _ received => exact each.recv received
  | found _ _ answered =>
    have before : OneEach { s with dnsRequests := s.dnsRequests - 1 } := ⟨each.cyclic, each.tcp⟩
    exact before.attempt (sntpDnsFound_attempt answered)
  | tcpNeeded _ set => exact each.tcpNeeded set

end OneEach

/-! ### The activity of the client -/

/-- A reply that does not end what it finds under way: a kiss of death, or an answer that
comes while no timer of the client is set. -/
def surplus (t : Transition (SntpClient T) SntpEvent) : Bool :=
  match t.event with
  | .sntpRecv p =>
    sntpRecvErr p = sntpErrKod ||
      (sntpRecvErr p = errOk && pending .sntpRequest t.source.timeouts.nextTimeout = 0 &&
        pending .sntpTryNextServer t.source.timeouts.nextTimeout = 0)
  | _ => false

theorem activity_called {now : T} {sntp : TimeoutHandler}
    (calling : s.phase = .calling now sntp)
    (client : sntp = .sntpRequest ∨ sntp = .sntpTryNextServer) :
    s.activity = SntpClient.activity { s with phase := .checking now } + 1 := by
  rw [SntpClient.activity, live_called calling, live_called calling .sntpTryNextServer,
    SntpClient.activity]
  rcases client with rfl | rfl
  · simp
    omega
  · simp
    omega

theorem activity_of_live (request : s'.live .sntpRequest = s.live .sntpRequest)
    (tryNext : s'.live .sntpTryNextServer = s.live .sntpTryNextServer)
    (requests : s'.dnsRequests = s.dnsRequests) : s'.activity = s.activity := by
  rw [SntpClient.activity, request, tryNext, requests, SntpClient.activity]

/-- An accepted answer leaves one timer of the client in place of those it finds. -/
theorem activity_answer {p : List UInt8} (polling : s.phase = .polling)
    (accepted : sntpRecvErr p = errOk) (received : sntpRecv base p s = some s') :
    s'.activity = pending .sntpRequest s.timeouts.nextTimeout - 1 +
      (pending .sntpTryNextServer s.timeouts.nextTimeout - 1) + s.dnsRequests + 1 := by
  rcases sntpRecv_eq received with ⟨_, _, _, _, armed⟩ | ⟨kod, _⟩ | ⟨ignored, _⟩
  · have other : TimeoutHandler.sntpTryNextServer ≠ .sntpRequest := nofun
    rw [armed.activity (.inl rfl)]
    simp only [SntpClient.activity, SntpClient.live, sysUntimeout, polling]
    rw [pending_cancel_same, pending_cancel_other other, pending_cancel_other other.symm,
      pending_cancel_same]
    rfl
  · rw [accepted] at kod
    cases kod
  · exact absurd accepted ignored

/-- From its start on the client has something under way, and no more than the surplus of
replies accounts for. -/
structure Busy (surplus : Nat) (s : SntpClient T) : Prop where
  active : s.sntpPcb = true → 1 ≤ s.activity
  bounded : s.activity ≤ if s.sntpPcb then surplus + 1 else 0

namespace Busy

variable {n : Nat}

theorem same (busy : Busy n s) (activity : s'.activity = s.activity)
    (pcb : s'.sntpPcb = s.sntpPcb) : Busy n s' where
  active := by
    rw [pcb, activity]
    exact busy.active
  bounded := by
    rw [pcb, activity]
    exact busy.bounded

theorem recv (busy : Busy n s) {p : List UInt8} (polling : s.phase = .polling)
    (started : s.sntpPcb = true) (received : sntpRecv base p s = some s') :
    Busy (n + if surplus ⟨s, .sntpRecv p, s'⟩ then 1 else 0) s' := by
  have active := busy.active started
  have bounded := busy.bounded
  rw [if_pos started] at bounded
  rcases sntpRecv_eq received with ⟨accepted, _, _, _, armed⟩ | ⟨kod, retried⟩ | ⟨_, ignored, rfl⟩
  · have pcb : s'.sntpPcb = true := armed.sntpPcb.trans started
    have activity := activity_answer polling accepted received
    have before : s.activity = pending .sntpRequest s.timeouts.nextTimeout +
        pending .sntpTryNextServer s.timeouts.nextTimeout + s.dnsRequests := by
      simp only [SntpClient.activity, SntpClient.live, polling]
      rfl
    refine ⟨fun _ => by omega, ?_⟩
    rw [pcb, if_pos rfl]
    by_cases idle : pending .sntpRequest s.timeouts.nextTimeout = 0 ∧
        pending .sntpTryNextServer s.timeouts.nextTimeout = 0
    · have extra : surplus ⟨s, .sntpRecv p, s'⟩ = true := by simp [surplus, accepted, idle]
      rw [if_pos extra]
      omega
    · omega
  · have pcb : s'.sntpPcb = true := retried.sntpPcb.trans started
    have extra : surplus ⟨s, .sntpRecv p, s'⟩ = true := by simp [surplus, kod]
    have activity := retried.activity
    refine ⟨fun _ => by omega, ?_⟩
    rw [if_pos extra, pcb, if_pos rfl]
    omega
  · refine ⟨busy.active, ?_⟩
    rw [if_pos started]
    omega

theorem move (busy : Busy n s) {e : SntpEvent} {sent : List UdpDatagram}
    (move : SntpMove base s e s' sent) : Busy (n + if surplus ⟨s, e, s'⟩ then 1 else 0) s' := by
  cases move with
  | tick => exact busy.same rfl rfl
  | initAgain => exact busy.same rfl rfl
  | @init rand timeouts polling stopped set =>
    have bounded := busy.bounded
    rw [stopped] at bounded
    obtain ⟨_, _, queued⟩ := sysTimeout_eq set
    have activity : SntpClient.activity { s with timeouts } = s.activity + 1 := by
      simp only [SntpClient.activity, SntpClient.live, queued, pending_insert]
      simp
      omega
    exact ⟨fun _ => Nat.le_trans (Nat.le_add_left _ _) (Nat.le_of_eq activity.symm),
      Nat.le_trans (Nat.le_of_eq activity)
        (Nat.add_le_add_right (Nat.le_trans bounded (Nat.zero_le _)) 1)⟩
  | check polling =>
    refine busy.same (activity_of_live ?_ ?_ rfl) rfl <;>
      · rw [SntpClient.live, SntpClient.live, polling]
        rfl
  | expired checking taken =>
    exact busy.same (activity_of_live (live_expired checking taken _)
      (live_expired checking taken _) rfl) rfl
  | checked checking none =>
    refine busy.same (activity_of_live ?_ ?_ rfl) rfl <;>
      · rw [SntpClient.live, SntpClient.live, checking]
        rfl
  | cyclic calling set =>
    obtain ⟨_, time, _, rfl⟩ := lwipCyclicTimer_eq set
    exact busy.same (activity_of_live (live_again base calling time _)
      (live_again base calling time _) rfl) rfl
  | tcp calling set =>
    rcases tcpipTcpTimer_eq set with ⟨time, rfl⟩ | rfl
    · exact busy.same (activity_of_live (live_again base calling time _)
        (live_again base calling time _) rfl) rfl
    · exact busy.same (activity_of_live (live_called calling .sntpRequest).symm
        (live_called calling .sntpTryNextServer).symm rfl) rfl
  | request calling requested =>
    have attempt := sntpRequest_attempt requested
    exact busy.same (attempt.activity.trans (activity_called calling (.inl rfl)).symm)
      attempt.sntpPcb
  | retry calling retried =>
    have attempt := sntpRetry_attempt retried
    exact busy.same (attempt.activity.trans (activity_called calling (.inr rfl)).symm)
      attempt.sntpPcb
  | recv polling started received => exact busy.recv polling started received
  | found _ waiting answered =>
    have attempt := sntpDnsFound_attempt answered
    refine busy.same (attempt.activity.trans ?_) attempt.sntpPcb
    rw [SntpClient.activity, SntpClient.activity, Nat.add_assoc, Nat.sub_add_cancel waiting]
    rfl
  | tcpNeeded _ set =>
    rcases tcpTimerNeeded_eq set with ⟨_, time, rfl⟩ | rfl
    · refine busy.same (activity_of_live ?_ ?_ rfl) rfl <;>
        simp [SntpClient.live]
    · exact busy.same rfl rfl

end Busy

/-- The client is never stopped. -/
theorem SntpMove.started {e : SntpEvent} {sent : List UdpDatagram} (move : SntpMove base s e s' sent)
    (started : s.sntpPcb = true) : s'.sntpPcb = true := by
  cases move with
  | init => rfl
  | request _ requested => exact (sntpRequest_attempt requested).sntpPcb.trans started
  | retry _ retried => exact (sntpRetry_attempt retried).sntpPcb.trans started
  | recv _ _ received =>
    rcases sntpRecv_eq received with ⟨_, _, _, _, armed⟩ | ⟨_, retried⟩ | ⟨_, _, rfl⟩
    · exact armed.sntpPcb.trans started
    · exact retried.sntpPcb.trans started
    · exact started
  | found _ _ answered => exact (sntpDnsFound_attempt answered).sntpPcb.trans started
  | _ => exact started

/-- Only an attempt under way sends. -/
theorem SntpMove.active {e : SntpEvent} {sent : List UdpDatagram} (move : SntpMove base s e s' sent)
    (sends : sent ≠ []) : 1 ≤ s.activity := by
  cases move with
  | request calling =>
    rw [activity_called calling (.inl rfl)]
    exact Nat.le_add_left _ _
  | found _ waiting => exact Nat.le_trans waiting (Nat.le_add_left _ _)
  | _ => exact absurd rfl sends

/-! ### Whole runs -/

section Runs

variable {s₀ : SntpClient T} {ts : List (Transition (SntpClient T) SntpEvent)} {ticks : Nat}
  {rtc : Rtc}

theorem OneEach.boot (booted : sntpBoot base ticks rtc = some s) : OneEach s := by
  obtain ⟨timeouts, initial, rfl⟩ := Option.map_eq_some_iff.mp booted
  rw [sysTimeoutsInit_eq rfl] at initial
  cases initial
  constructor
  · intro cyclic
    cases cyclic <;> simp [SntpClient.live, lwipCyclicTimers, LoopPhase.calls]
  · simp [SntpClient.live, lwipCyclicTimers, LoopPhase.calls]

theorem Busy.boot (booted : sntpBoot base ticks rtc = some s) : Busy 0 s := by
  obtain ⟨timeouts, initial, rfl⟩ := Option.map_eq_some_iff.mp booted
  rw [sysTimeoutsInit_eq rfl] at initial
  cases initial
  constructor
  · simp
  · simp [SntpClient.activity, SntpClient.live, lwipCyclicTimers, LoopPhase.calls]

theorem OneEach.run (booted : sntpBoot base ticks rtc = some s₀) (run : Run (sntpStep base) s₀ ts s) :
    OneEach s :=
  (run.invariant (boot booted) fun taken each => each.move (sntpStep_move taken)).1

theorem Busy.run (booted : sntpBoot base ticks rtc = some s₀) (run : Run (sntpStep base) s₀ ts s) :
    Busy (ts.countP surplus) s := by
  induction run with
  | start => exact boot booted
  | next _ taken ih =>
    rw [List.countP_append, List.countP_singleton]
    exact ih.move (sntpStep_move taken)

/-- Whatever happens, each cyclic timer is set once or being called, the TCP timer just when
the flag says so, and never through `lwip_cyclic_timer`. -/
theorem cyclic_timers_live (booted : sntpBoot base ticks rtc = some s₀)
    (run : Run (sntpStep base) s₀ ts s) :
    (∀ cyclic ∈ lwipCyclicTimers.drop 1, s.live (.lwipCyclicTimer cyclic) = 1) ∧
      s.live (.lwipCyclicTimer .tcpTmr) = 0 ∧
      s.live .tcpipTcpTimer = if s.timeouts.tcpipTcpTimerActive then 1 else 0 := by
  have each := OneEach.run booted run
  refine ⟨fun cyclic member => ?_, each.cyclic .tcpTmr, each.tcp⟩
  have other : cyclic ≠ .tcpTmr := by
    rintro rfl
    simp [lwipCyclicTimers] at member
  rw [each.cyclic, if_neg other]

/-- The client never stops trying once it is started, and what it has under way is at most one
attempt and one more for every reply that came when it should not. -/
theorem activity_bounds (booted : sntpBoot base ticks rtc = some s₀)
    (run : Run (sntpStep base) s₀ ts s) (started : s.sntpPcb = true) :
    1 ≤ s.activity ∧ s.activity ≤ 1 + ts.countP surplus := by
  have busy := Busy.run booted run
  have bounded := busy.bounded
  rw [if_pos started, Nat.add_comm] at bounded
  exact ⟨busy.active started, bounded⟩

end Runs

/-- A first request whose lookup is still open when a stray answer comes. -/
def strayAnswer : List SntpEvent :=
  [.sntpInit 0, .tcpTimerNeeded true, .sysCheckTimeouts, .nextExpired,
    .callHandler ⟨errInprogress, 0, true, true⟩, .nextExpired,
    .sntpRecv (0x24 :: 1 :: List.replicate 46 0)]

theorem cyclic_timers_live_strayAnswer : ∃ s : SntpClient UInt32,
    s.live (.lwipCyclicTimer .dnsTmr) = 1 ∧ s.live .tcpipTcpTimer = 1 := by
  have done : (sntpExec wrapping 4294967000 ⟨0, false⟩ strayAnswer).map (fun result =>
      result.2.timeouts.tcpipTcpTimerActive) = some true := by
    decide +kernel
  obtain ⟨s₀, ts, s, booted, run, active⟩ := exists_run_sntpExec done
  obtain ⟨cyclic, _, tcp⟩ := cyclic_timers_live booted run
  rw [active] at tcp
  exact ⟨s, cyclic .dnsTmr (by simp [lwipCyclicTimers]), tcp⟩

/-- Both bounds are reached: the lookup goes on beside the timer that the answer sets. -/
theorem activity_bounds_strayAnswer : ∃ s : SntpClient UInt32, s.activity = 2 ∧ s.activity ≤ 1 + 1 := by
  have done : (sntpExec wrapping 4294967000 ⟨0, false⟩ strayAnswer).map (fun result =>
      decide (result.2.sntpPcb = true ∧ result.2.activity = 2 ∧ result.1.countP surplus = 1)) =
        some true := by
    decide +kernel
  obtain ⟨s₀, ts, s, booted, run, facts⟩ := exists_run_sntpExec done
  obtain ⟨started, two, one⟩ := of_decide_eq_true facts
  have bounds := (activity_bounds booted run started).2
  rw [show ts.countP surplus = 1 from one] at bounds
  exact ⟨s, two, bounds⟩

end EpaperClock
