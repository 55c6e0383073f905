import EpaperClock.SntpActivity

/-! The pool of ten timeouts. An allocation that fails stops the program in `sys_assert`; that
takes four replies which come when they should not. -/
namespace EpaperClock

open StepSystem TimerQueue

variable {T : Type} {base : TimeBase T} {s s' : SntpClient T}

/-- The event can happen where the loop stands. -/
def Enabled (s : SntpClient T) : SntpEvent → Prop
  | .timeIsr => True
  | .sntpInit _ => s.phase = .polling
  | .sysCheckTimeouts => s.phase = .polling
  | .nextExpired => ∃ now, s.phase = .checking now
  | .callHandler _ => ∃ now handler, s.phase = .calling now handler
  | .sntpRecv _ => s.phase = .polling ∧ s.sntpPcb = true
  | .sntpDnsFound _ _ => s.phase.inDns = true ∧ 0 < s.dnsRequests
  | .tcpTimerNeeded _ => s.phase.inDns = true

/-! ### The retry timeout stays below its maximum -/

theorem nextRetryTimeout_le {timeout : UInt32} (bounded : timeout ≤ sntpRetryTimeoutMax) :
    nextRetryTimeout timeout ≤ sntpRetryTimeoutMax := by
  unfold nextRetryTimeout
  split
  next doubled => exact doubled.1
  next => exact bounded

theorem Attempt.retry_le {sent : List UdpDatagram} (attempt : Attempt base s s' sent)
    (bounded : s.sntpRetryTimeout ≤ sntpRetryTimeoutMax) :
    s'.sntpRetryTimeout ≤ sntpRetryTimeoutMax := by
  cases attempt with
  | sent _ _ retry => rwa [retry]
  | failed _ _ retry => rwa [retry]
  | retried _ retry =>
    rw [retry]
    exact nextRetryTimeout_le bounded
  | lookup => exact bounded

theorem SntpMove.retry_le {e : SntpEvent} {sent : List UdpDatagram}
    (move : SntpMove base s e s' sent) (bounded : s.sntpRetryTimeout ≤ sntpRetryTimeoutMax) :
    s'.sntpRetryTimeout ≤ sntpRetryTimeoutMax := by
  cases move with
  | init => exact show sntpRetryTimeoutMin ≤ sntpRetryTimeoutMax by decide
  | request _ requested => exact (sntpRequest_attempt requested).retry_le bounded
  | retry _ retried => exact (sntpRetry_attempt retried).retry_le bounded
  | recv _ _ received =>
    rcases sntpRecv_eq received with ⟨_, retry, _⟩ | ⟨_, retried⟩ | ⟨_, _, rfl⟩
    · rw [retry]
      decide
    · exact retried.retry_le bounded
    · exact bounded
  | found _ _ answered => exact (sntpDnsFound_attempt answered).retry_le bounded
  | _ => exact bounded

/-! ### The timeouts in use -/

/-- Every timeout in use belongs to one of the handlers. -/
theorem length_pending (queue : List (Timer T TimeoutHandler)) :
    queue.length = pending (.lwipCyclicTimer .tcpTmr) queue +
      pending (.lwipCyclicTimer .ipReassTmr) queue + pending (.lwipCyclicTimer .etharpTmr) queue +
      pending (.lwipCyclicTimer .dhcpCoarseTmr) queue +
      pending (.lwipCyclicTimer .dhcpFineTmr) queue + pending (.lwipCyclicTimer .dnsTmr) queue +
      pending .tcpipTcpTimer queue + pending .sntpRequest queue +
      pending .sntpTryNextServer queue := by
  induction queue with
  | nil => rfl
  | cons timer queue ih =>
    obtain ⟨time, handler⟩ := timer
    simp only [List.length_cons, ih, pending_cons]
    cases handler with
    | lwipCyclicTimer cyclic => cases cyclic <;> simp <;> omega
    | tcpipTcpTimer => simp; omega
    | sntpRequest => simp; omega
    | sntpTryNextServer => simp; omega

/-- The timeout of a handler that runs has been given back. -/
def LoopPhase.freed (phase : LoopPhase T) : Nat :=
  match phase with
  | calling _ _ => 1
  | _ => 0

/-- The part of the pool that the timers of the stack and the client take. -/
theorem OneEach.length_eq (each : OneEach s) :
    s.timeouts.nextTimeout.length + s.phase.freed =
      5 + (if s.timeouts.tcpipTcpTimerActive then 1 else 0) + s.live .sntpRequest +
        s.live .sntpTryNextServer := by
  have tcpTmr := each.cyclic .tcpTmr
  have ipReass := each.cyclic .ipReassTmr
  have etharp := each.cyclic .etharpTmr
  have dhcpCoarse := each.cyclic .dhcpCoarseTmr
  have dhcpFine := each.cyclic .dhcpFineTmr
  have dns := each.cyclic .dnsTmr
  rw [← each.tcp, length_pending]
  cases phase : s.phase with
  | polling =>
    simp [SntpClient.live, phase, LoopPhase.calls, LoopPhase.freed] at *
    omega
  | checking now =>
    simp [SntpClient.live, phase, LoopPhase.calls, LoopPhase.freed] at *
    omega
  | calling now handler =>
    cases handler with
    | lwipCyclicTimer cyclic =>
      cases cyclic <;> simp [SntpClient.live, phase, LoopPhase.calls, LoopPhase.freed] at * <;> omega
    | tcpipTcpTimer =>
      simp [SntpClient.live, phase, LoopPhase.calls, LoopPhase.freed] at *
      omega
    | sntpRequest =>
      simp [SntpClient.live, phase, LoopPhase.calls, LoopPhase.freed] at *
      omega
    | sntpTryNextServer =>
      simp [SntpClient.live, phase, LoopPhase.calls, LoopPhase.freed] at *
      omega

/-! ### With room in the pool no assertion fails -/

theorem sysTimeout_isSome {t : Timeouts T}
    (room : t.nextTimeout.length < mempNumSysTimeout) {msecs : UInt32}
    (short : msecs ≤ longestTimeout) (handler : TimeoutHandler) :
    (sysTimeout base msecs handler t).isSome := by
  rw [sysTimeout_of_room base handler short room]
  rfl

section Room

variable (room : s.timeouts.nextTimeout.length < mempNumSysTimeout)

include room

theorem sntpRetry_isSome (bounded : s.sntpRetryTimeout ≤ sntpRetryTimeoutMax) :
    (sntpRetry base s).isSome := by
  rw [sntpRetry, Option.isSome_map]
  exact sysTimeout_isSome room (UInt32.le_trans bounded (by decide)) _

theorem sntpSendRequest_isSome (serverAddr : Ip4Addr) (allocated : Bool) :
    (sntpSendRequest base serverAddr allocated s).isSome := by
  rw [sntpSendRequest]
  split
  · rw [Option.isSome_map]
    exact sysTimeout_isSome room (by decide) _
  · rw [Option.isSome_map]
    exact sysTimeout_isSome room (by decide) _

theorem sntpDnsFound_isSome (bounded : s.sntpRetryTimeout ≤ sntpRetryTimeoutMax)
    (ipaddr : Option Ip4Addr) (allocated : Bool) : (sntpDnsFound base ipaddr allocated s).isSome := by
  cases ipaddr with
  | some ipaddr =>
    exact sntpSendRequest_isSome (s := { s with sntpServer.addr := ipaddr }) room ipaddr allocated
  | none =>
    rw [sntpDnsFound, Option.isSome_map]
    exact sntpRetry_isSome room bounded

theorem sntpRequest_isSome (outcome : HandlerOutcome) : (sntpRequest base outcome s).isSome := by
  have invalid : (sysTimeout base sntpRetryTimeoutMin .sntpTryNextServer s.timeouts).isSome :=
    sysTimeout_isSome room (by decide) _
  rw [sntpRequest]
  split
  · split
    · rfl
    · split
      · exact sntpSendRequest_isSome
          (s := { s with sntpServer.addr := outcome.resolved }) room _ _
      · rw [Option.isSome_map]
        exact invalid
  · split
    · rw [Option.isSome_map]
      exact invalid
    · exact sntpSendRequest_isSome room _ _

theorem callHandler_isSome (bounded : s.sntpRetryTimeout ≤ sntpRetryTimeoutMax)
    (outcome : HandlerOutcome) (handler : TimeoutHandler) :
    (callHandler base outcome s handler).isSome := by
  cases handler with
  | lwipCyclicTimer cyclic =>
    rw [callHandler, Option.isSome_map, lwipCyclicTimer]
    split <;> simp [sysTimeoutAbs, room]
  | tcpipTcpTimer =>
    rw [callHandler, Option.isSome_map, tcpipTcpTimer]
    split
    · exact sysTimeout_isSome room (by decide) _
    · rfl
  | sntpRequest => exact sntpRequest_isSome room outcome
  | sntpTryNextServer =>
    rw [callHandler, Option.isSome_map]
    exact sntpRetry_isSome room bounded

end Room

/-- What an accepted answer gives back to the pool. -/
theorem length_answered (s : Timeouts T) :
    (sysUntimeout .sntpRequest (sysUntimeout .sntpTryNextServer s)).nextTimeout.length +
        (pending .sntpRequest s.nextTimeout - (pending .sntpRequest s.nextTimeout - 1)) +
        (pending .sntpTryNextServer s.nextTimeout - (pending .sntpTryNextServer s.nextTimeout - 1)) =
      s.nextTimeout.length := by
  rw [length_pending s.nextTimeout, length_pending]
  simp (disch := decide) only [sysUntimeout, pending_cancel_other, pending_cancel_same]
  omega

theorem sntpRecv_isSome (each : OneEach s) (polling : s.phase = .polling)
    (bounded : s.sntpRetryTimeout ≤ sntpRetryTimeoutMax) {n : Nat} (busy : s.activity ≤ n + 1)
    {p : List UInt8} (few : (n + if surplus ⟨s, .sntpRecv p, s⟩ then 1 else 0) ≤ 3) :
    (sntpRecv base p s).isSome := by
  have length := each.length_eq
  have active : (if s.timeouts.tcpipTcpTimerActive then 1 else 0) ≤ 1 := by split <;> decide
  have activity : s.activity = pending .sntpRequest s.timeouts.nextTimeout +
      pending .sntpTryNextServer s.timeouts.nextTimeout + s.dnsRequests := by
    simp only [SntpClient.activity, SntpClient.live, polling]
    rfl
  simp only [SntpClient.live, polling, LoopPhase.freed, LoopPhase.calls] at length
  rw [sntpRecv]
  split
  next accepted =>
    have answered := length_answered s.timeouts
    rw [Option.isSome_map]
    refine sysTimeout_isSome (?_ : _ < 10) (by decide) _
    -- either a timer of the client is given back, or none of the pool's was its own
    by_cases idle : pending .sntpRequest s.timeouts.nextTimeout = 0 ∧
        pending .sntpTryNextServer s.timeouts.nextTimeout = 0
    · omega
    · omega
  next rejected =>
    split
    next kod =>
      have extra : surplus ⟨s, .sntpRecv p, s⟩ = true := by simp [surplus, kod]
      rw [if_pos extra] at few
      have room : s.timeouts.nextTimeout.length < 10 := by omega
      exact sntpRetry_isSome room bounded
    next => rfl

/-! ### Whole runs -/

section Runs

variable {s₀ : SntpClient T} {ts : List (Transition (SntpClient T) SntpEvent)} {ticks : Nat}
  {rtc : Rtc}

theorem retry_le_run (booted : sntpBoot base ticks rtc = some s₀) (run : Run (sntpStep base) s₀ ts s) :
    s.sntpRetryTimeout ≤ sntpRetryTimeoutMax := by
  have init : s₀.sntpRetryTimeout ≤ sntpRetryTimeoutMax := by
    obtain ⟨timeouts, _, rfl⟩ := Option.map_eq_some_iff.mp booted
    exact show (0 : UInt32) ≤ sntpRetryTimeoutMax by decide
  exact (run.invariant (P := fun s => s.sntpRetryTimeout ≤ sntpRetryTimeoutMax) init
    fun taken bounded => (sntpStep_move taken).retry_le bounded).1

/-- Up to three replies that come when they should not, no assertion of the timeouts fails:
whatever the loop, the interrupt and the network do next is carried out. -/
theorem sntpStep_isSome (booted : sntpBoot base ticks rtc = some s₀)
    (run : Run (sntpStep base) s₀ ts s) {e : SntpEvent} (enabled : Enabled s e)
    (few : ts.countP surplus + (if surplus ⟨s, e, s⟩ then 1 else 0) ≤ 3) : (sntpStep base s e).isSome := by
  have each := OneEach.run booted run
  have busy := Busy.run booted run
  have bounded := retry_le_run booted run
  have length := each.length_eq
  have most : s.activity ≤ ts.countP surplus + 1 := by
    refine Nat.le_trans busy.bounded ?_
    split <;> omega
  have parts : s.activity = s.live .sntpRequest + s.live .sntpTryNextServer + s.dnsRequests := rfl
  have active : (if s.timeouts.tcpipTcpTimerActive then 1 else 0) ≤ 1 := by split <;> decide
  rw [sntpStep, Option.isSome_map]
  cases e with
  | timeIsr => rfl
  | sntpInit rand =>
    have polling : s.phase = .polling := enabled
    simp only [sntpHandle, polling, Option.isSome_map, sntpInit]
    split
    · rfl
    next stopped =>
      have idle : s.activity ≤ 0 := by
        have bounded := busy.bounded
        rwa [if_neg stopped] at bounded
      have short : rand % 5000 ≤ longestTimeout :=
        UInt32.le_trans (UInt32.le_of_lt (UInt32.mod_lt _ (by decide))) (by decide)
      rw [Option.isSome_map]
      exact sysTimeout_isSome (show _ < 10 by omega) short _
  | sysCheckTimeouts =>
    have polling : s.phase = .polling := enabled
    simp [sntpHandle, polling]
  | nextExpired =>
    obtain ⟨now, checking⟩ := enabled
    simp only [sntpHandle, checking]
    split <;> rfl
  | callHandler outcome =>
    obtain ⟨now, handler, calling⟩ := enabled
    rw [calling] at length
    have room : s.timeouts.nextTimeout.length < 10 := by
      simp only [LoopPhase.freed] at length
      omega
    simp only [sntpHandle, calling]
    exact callHandler_isSome (s := { s with phase := .checking now }) room bounded outcome handler
  | sntpRecv p =>
    obtain ⟨polling, started⟩ := enabled
    simp only [sntpHandle, polling, started, if_true, Option.isSome_map]
    exact sntpRecv_isSome each polling bounded most few
  | sntpDnsFound ipaddr allocated =>
    have found : s.phase.inDns = true ∧ 0 < s.dnsRequests := enabled
    have room : s.timeouts.nextTimeout.length < 10 := by omega
    rw [sntpHandle, if_pos found]
    exact sntpDnsFound_isSome (s := { s with dnsRequests := s.dnsRequests - 1 }) room bounded _ _
  | tcpTimerNeeded pcbs =>
    have inDns : s.phase.inDns = true := enabled
    rw [sntpHandle, if_pos inDns, Option.isSome_map, tcpTimerNeeded]
    split
    next needed =>
      have inactive : s.timeouts.tcpipTcpTimerActive = false := by simp at needed; exact needed.1
      rw [inactive] at length
      simp only [Bool.false_eq_true, if_false] at length
      have room : s.timeouts.nextTimeout.length < 10 := by omega
      exact sysTimeout_isSome (t := { s.timeouts with tcpipTcpTimerActive := true }) room
        (intervalMs_le .tcpTmr) _
    next => rfl

end Runs

/-- Mode 4, stratum 0. -/
def kissOfDeath : List UInt8 := 0x24 :: List.replicate 47 0

/-- A request, with the TCP timer running, and three kisses of death for it. -/
def thriceKissed : List SntpEvent :=
  [.sntpInit 0, .tcpTimerNeeded true, .sysCheckTimeouts, .nextExpired,
    .callHandler ⟨errOk, 1, true, true⟩, .nextExpired] ++ List.replicate 3 (.sntpRecv kissOfDeath)

theorem exists_run_thriceKissed : ∃ ticks rtc s₀ ts s, sntpBoot wrapping ticks rtc = some s₀ ∧
    Run (sntpStep wrapping) s₀ ts s ∧ ts.countP surplus = 3 ∧ Enabled s (.sntpRecv kissOfDeath) ∧
      sntpStep wrapping s (.sntpRecv kissOfDeath) = none := by
  have done : (sntpExec wrapping 4294967000 ⟨0, false⟩ thriceKissed).map (fun result =>
      decide (result.1.countP surplus = 3 ∧ (result.2.phase = .polling ∧ result.2.sntpPcb = true) ∧
        sntpStep wrapping result.2 (.sntpRecv kissOfDeath) = none)) = some true := by
    decide +kernel
  obtain ⟨s₀, ts, s, booted, run, facts⟩ := exists_run_sntpExec done
  obtain ⟨three, enabled, stops⟩ := of_decide_eq_true facts
  exact ⟨_, _, s₀, ts, s, booted, run, three, enabled, stops⟩

/-- Whatever can happen next is carried out, as long as no more than `n` replies come when they
should not, with that event counted in. -/
def ToleratesSurplus (base : TimeBase T) (n : Nat) : Prop :=
  ∀ ticks rtc s₀ ts s e, sntpBoot base ticks rtc = some s₀ → Run (sntpStep base) s₀ ts s →
    Enabled s e → ts.countP surplus + (if surplus ⟨s, e, s⟩ then 1 else 0) ≤ n →
      (sntpStep base s e).isSome

/-- Three such replies are tolerated, on every clock. On the program's own there is a run with
three kisses of death after which a fourth stops it. -/
theorem toleratesSurplus_three (base : TimeBase T) : ToleratesSurplus base 3 ∧
    ∃ ticks rtc s₀ ts s, sntpBoot wrapping ticks rtc = some s₀ ∧ Run (sntpStep wrapping) s₀ ts s ∧
      ts.countP surplus = 3 ∧ Enabled s (.sntpRecv kissOfDeath) ∧
        sntpStep wrapping s (.sntpRecv kissOfDeath) = none :=
  ⟨fun _ _ _ _ _ _ booted run enabled few => sntpStep_isSome booted run enabled few,
    exists_run_thriceKissed⟩

end EpaperClock
