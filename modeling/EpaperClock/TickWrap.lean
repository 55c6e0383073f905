import EpaperClock.Library.Simulation
import EpaperClock.TimerChecks

/-! The 32-bit tick counter wraps every 49.7 days.

A loop that completes a check of the timeouts at least every 2^30 ms never notices. -/
namespace EpaperClock

open StepSystem TimerQueue

def LoopPhase.shown {T : Type} (base : TimeBase T) : LoopPhase Nat → LoopPhase T
  | polling => .polling
  | checking now => .checking (base.stamp now)
  | calling now handler => .calling (base.stamp now) handler

theorem LoopPhase.inDns_shown {T : Type} (base : TimeBase T) (phase : LoopPhase Nat) :
    (phase.shown base).inDns = phase.inDns := by
  cases phase <;> rfl

/-- What the counter shows of a state that keeps the instants. -/
def SntpClient.shown {T : Type} (base : TimeBase T) (s : SntpClient Nat) : SntpClient T where
  timeouts := s.timeouts.shown base
  phase := s.phase.shown base
  checkStart := s.checkStart
  lastCheck := s.lastCheck
  sntpPcb := s.sntpPcb
  sntpRetryTimeout := s.sntpRetryTimeout
  sntpServer := s.sntpServer
  dnsRequests := s.dnsRequests
  rtc := s.rtc

@[simp] theorem SntpClient.shown_sntpServer {T : Type} (base : TimeBase T) (s : SntpClient Nat) :
    (s.shown base).sntpServer = s.sntpServer := rfl

/-- The loop has come round to a check within the time that `sys_timeout` allows. -/
def Polled {T : Type} (s : SntpClient T) : Prop := s.timeouts.timeNow ≤ s.lastCheck + 2 ^ 30

instance {T : Type} (s : SntpClient T) : Decidable (Polled s) := inferInstanceAs (Decidable (_ ≤ _))

/-! ### The functions of the client on either clock -/

section Functions

variable {T : Type} {base : TimeBase T} {low : Nat} {s : SntpClient Nat}

theorem sntpRetry_shown (window : InWindow low s.timeouts)
    (faithful : Faithful base low (s.timeouts.timeNow + longestTimeout.toNat)) :
    sntpRetry base (s.shown base) = (sntpRetry exact s).map (·.shown base) := by
  have set := window.sysTimeout_shown s.sntpRetryTimeout .sntpRequest faithful
  simp only [sntpRetry, SntpClient.shown, set, Option.map_map]
  rfl

theorem sntpRecv_shown (window : InWindow low s.timeouts) (p : List UInt8)
    (faithful : Faithful base low (s.timeouts.timeNow + longestTimeout.toNat)) :
    sntpRecv base p (s.shown base) = (sntpRecv exact p s).map (·.shown base) := by
  have cancelled := (window.sysUntimeout .sntpTryNextServer).sysUntimeout .sntpRequest
  have set := cancelled.sysTimeout_shown sntpUpdateDelay .sntpRequest faithful
  simp only [← InWindow.sysUntimeout_shown] at set
  simp only [sntpRecv]
  split
  · simp only [SntpClient.shown, set, Option.map_map]
    rfl
  · split
    · exact sntpRetry_shown window faithful
    · rfl

theorem sntpSendRequest_shown (window : InWindow low s.timeouts) (serverAddr : Ip4Addr)
    (allocated : Bool) (faithful : Faithful base low (s.timeouts.timeNow + longestTimeout.toNat)) :
    sntpSendRequest base serverAddr allocated (s.shown base) =
      (sntpSendRequest exact serverAddr allocated s).map (Prod.map (·.shown base) id) := by
  cases allocated with
  | true =>
    have set := window.sysTimeout_shown sntpRecvTimeout .sntpTryNextServer faithful
    simp only [sntpSendRequest, if_true, SntpClient.shown, set, Option.map_map]
    rfl
  | false =>
    have set := window.sysTimeout_shown sntpRetryTimeoutMin .sntpRequest faithful
    simp only [sntpSendRequest, Bool.false_eq_true, if_false, SntpClient.shown, set,
      Option.map_map]
    rfl

theorem sntpDnsFound_shown (window : InWindow low s.timeouts) (ipaddr : Option Ip4Addr)
    (allocated : Bool) (faithful : Faithful base low (s.timeouts.timeNow + longestTimeout.toNat)) :
    sntpDnsFound base ipaddr allocated (s.shown base) =
      (sntpDnsFound exact ipaddr allocated s).map (Prod.map (·.shown base) id) := by
  cases ipaddr with
  | some ipaddr =>
    exact sntpSendRequest_shown (s := { s with sntpServer.addr := ipaddr }) window ipaddr allocated
      faithful
  | none =>
    rw [sntpDnsFound, sntpDnsFound, sntpRetry_shown window faithful, Option.map_map, Option.map_map]
    rfl

theorem sntpRequest_shown (window : InWindow low s.timeouts) (outcome : HandlerOutcome)
    (faithful : Faithful base low (s.timeouts.timeNow + longestTimeout.toNat)) :
    sntpRequest base outcome (s.shown base) =
      (sntpRequest exact outcome s).map (Prod.map (·.shown base) id) := by
  have set := window.sysTimeout_shown sntpRetryTimeoutMin .sntpTryNextServer faithful
  have send (addr : Ip4Addr) := sntpSendRequest_shown (s := { s with sntpServer.addr := addr })
    window addr outcome.allocated faithful
  simp only [sntpRequest, SntpClient.shown_sntpServer]
  by_cases named : s.sntpServer.name.isSome = true
  · simp only [named, if_true]
    by_cases waits : outcome.err = errInprogress
    · simp only [waits, if_true]
      rfl
    · simp only [waits, if_false]
      by_cases found : outcome.err = errOk
      · simp only [found, if_true]
        exact send outcome.resolved
      · simp only [found, if_false, SntpClient.shown, set, Option.map_map]
        rfl
  · simp only [named, Bool.false_eq_true, if_false]
    by_cases missing : s.sntpServer.addr = 0
    · simp only [missing, if_true, SntpClient.shown, set, Option.map_map]
      rfl
    · simp only [missing, if_false]
      exact sntpSendRequest_shown window _ _ faithful

theorem sntpInit_shown (window : InWindow low s.timeouts) (rand : UInt32)
    (faithful : Faithful base low (s.timeouts.timeNow + longestTimeout.toNat)) :
    sntpInit base rand (s.shown base) = (sntpInit exact rand s).map (·.shown base) := by
  have set := window.sysTimeout_shown (rand % 5000) .sntpRequest faithful
  have same : (s.shown base).sntpPcb = s.sntpPcb := rfl
  simp only [sntpInit, same]
  by_cases started : s.sntpPcb = true
  · simp only [started, if_true]
    rfl
  · simp only [started, Bool.false_eq_true, if_false, SntpClient.shown, set, Option.map_map]
    rfl

theorem callHandler_shown (window : InWindow low s.timeouts)
    (lower : low ≤ s.timeouts.currentTimeoutDueTime)
    (upper : s.timeouts.currentTimeoutDueTime ≤ s.timeouts.timeNow) (outcome : HandlerOutcome)
    (faithful : Faithful base low (s.timeouts.timeNow + longestTimeout.toNat))
    (handler : TimeoutHandler) :
    callHandler base outcome (s.shown base) handler =
      (callHandler exact outcome s handler).map (Prod.map (·.shown base) id) := by
  cases handler with
  | lwipCyclicTimer cyclic =>
    have set := window.lwipCyclicTimer_shown cyclic lower upper faithful
    simp only [callHandler, SntpClient.shown, set, Option.map_map]
    rfl
  | tcpipTcpTimer =>
    have set := window.tcpipTcpTimer_shown outcome.pcbs faithful
    simp only [callHandler, SntpClient.shown, set, Option.map_map]
    rfl
  | sntpRequest => exact sntpRequest_shown window outcome faithful
  | sntpTryNextServer =>
    simp only [callHandler, sntpRetry_shown window faithful, Option.map_map]
    rfl

end Functions

/-! ### One step -/

section Step

variable {T : Type} {base : TimeBase T} {s s' : SntpClient Nat}

/-- One step shows what the same step on exact time leaves, and sends the same. -/
theorem sntpHandle_shown (punctual : Punctual s) (e : SntpEvent)
    (faithful : Faithful base s.lastCheck (s.timeouts.timeNow + longestTimeout.toNat)) :
    sntpHandle base (s.shown base) e =
      (sntpHandle exact s e).map (Prod.map (·.shown base) id) := by
  have window := punctual.window
  have started := punctual.started
  have now_le : s.checkStart ≤ s.timeouts.timeNow := punctual.checkStart_le
  obtain ⟨timeouts, phase, checkStart, lastCheck, sntpPcb, retryTimeout, server, requests, rtc⟩ := s
  cases e with
  | timeIsr => rfl
  | sntpInit rand =>
    cases phase with
    | polling =>
      refine (congrArg (Option.map (·, [])) (sntpInit_shown window rand faithful)).trans ?_
      simp only [sntpHandle, Option.map_map]
      rfl
    | checking now => rfl
    | calling now handler => rfl
  | sysCheckTimeouts => cases phase <;> rfl
  | nextExpired =>
    cases phase with
    | polling => rfl
    | checking now =>
      obtain rfl : now = checkStart := started
      have taken := window.nextExpired_shown punctual.lastCheck_le now_le faithful
      simp only [sntpHandle, SntpClient.shown, LoopPhase.shown, taken]
      cases nextExpired exact now timeouts <;> rfl
    | calling now handler => rfl
  | callHandler outcome =>
    cases phase with
    | polling => rfl
    | checking now => rfl
    | calling now handler =>
      obtain ⟨rfl, lower, upper⟩ := started
      exact callHandler_shown (s := ⟨timeouts, .checking now, _, _, _, _, _, _, _⟩) window lower
        (Nat.le_trans upper now_le) outcome faithful handler
  | sntpRecv p =>
    cases phase with
    | polling =>
      cases sntpPcb with
      | true =>
        refine (congrArg (Option.map (·, [])) (sntpRecv_shown window p faithful)).trans ?_
        simp only [sntpHandle, if_true, Option.map_map]
        rfl
      | false => rfl
    | checking now => rfl
    | calling now handler => rfl
  | sntpDnsFound ipaddr allocated =>
    by_cases enabled : phase.inDns = true ∧ 0 < requests
    · have shown : (phase.shown base).inDns = true ∧ 0 < requests := by rwa [LoopPhase.inDns_shown]
      refine (if_pos shown).trans (Eq.trans ?_ (congrArg _ (if_pos enabled).symm))
      exact sntpDnsFound_shown (s := ⟨timeouts, phase, _, _, _, _, _, requests - 1, _⟩) window
        ipaddr allocated faithful
    · have shown : ¬((phase.shown base).inDns = true ∧ 0 < requests) := by
        rwa [LoopPhase.inDns_shown]
      exact (if_neg shown).trans (Option.map_eq_none_iff.mpr (if_neg enabled)).symm
  | tcpTimerNeeded pcbs =>
    have set := window.tcpTimerNeeded_shown pcbs faithful
    by_cases enabled : phase.inDns = true
    · have shown : (phase.shown base).inDns = true := by rwa [LoopPhase.inDns_shown]
      refine (if_pos shown).trans (Eq.trans ?_ (congrArg _ (if_pos enabled).symm))
      simp only [SntpClient.shown, set, Option.map_map]
      rfl
    · have shown : ¬(phase.shown base).inDns = true := by rwa [LoopPhase.inDns_shown]
      exact (if_neg shown).trans (Option.map_eq_none_iff.mpr (if_neg enabled)).symm

end Step

theorem sntpBoot_shown {T : Type} {base : TimeBase T} {ticks : Nat}
    (faithful : Faithful base ticks (ticks + longestTimeout.toNat)) (rtc : Rtc) :
    sntpBoot base ticks rtc = (sntpBoot exact ticks rtc).map (·.shown base) := by
  have empty : InWindow ticks ⟨ticks, [], 0, false⟩ :=
    ⟨Nat.le_refl _, List.Pairwise.nil, by simp [Spans]⟩
  have initial := empty.sysTimeoutsInit_shown faithful
  simp only [Timeouts.shown, List.map_nil] at initial
  simp only [sntpBoot, exact, initial, Option.map_map]
  rfl

/-! ### Whole runs on the 32-bit counter -/

theorem faithful_of_polled {s : SntpClient Nat} (polled : Polled s) :
    Faithful wrapping s.lastCheck (s.timeouts.timeNow + longestTimeout.toNat) := by
  have limit : longestTimeout.toNat = 2 ^ 30 - 1 := rfl
  rw [Polled] at polled
  exact faithful_wrapping (by omega)

theorem polled_boot {ticks : Nat} {rtc : Rtc} {s : SntpClient Nat}
    (booted : sntpBoot exact ticks rtc = some s) : Polled s := by
  obtain ⟨timeouts, initial, rfl⟩ := Option.map_eq_some_iff.mp booted
  rw [sysTimeoutsInit_eq rfl] at initial
  cases initial
  exact Nat.le_add_right _ _

theorem exact_run_of_polled {ticks : Nat} {rtc : Rtc} {s₀ s : SntpClient UInt32}
    {ts : List (Transition (SntpClient UInt32) SntpEvent)}
    (booted : sntpBoot wrapping ticks rtc = some s₀) (run : Run (sntpStep wrapping) s₀ ts s)
    (polled : ∀ t ∈ ts, Polled t.target) :
    ∃ r₀ us r, sntpBoot exact ticks rtc = some r₀ ∧ Run (sntpStep exact) r₀ us r ∧
      ts = us.map (.map (·.shown wrapping)) ∧ s = r.shown wrapping ∧
      ∀ u ∈ us, sntpSent wrapping (u.source.shown wrapping) u.event =
        sntpSent exact u.source u.event := by
  have start : Faithful wrapping ticks (ticks + longestTimeout.toNat) := by
    have limit : longestTimeout.toNat = 2 ^ 30 - 1 := rfl
    exact faithful_wrapping (by omega)
  rw [sntpBoot_shown start rtc] at booted
  obtain ⟨r₀, exactly, rfl⟩ := Option.map_eq_some_iff.mp booted
  have init : Punctual r₀ ∧ Polled r₀ := ⟨.boot exactly, polled_boot exactly⟩
  have matched {r : SntpClient Nat} (e : SntpEvent) (holds : Punctual r ∧ Polled r) :
      sntpStep wrapping (r.shown wrapping) e = (sntpStep exact r e).map (·.shown wrapping) := by
    rw [sntpStep, sntpHandle_shown holds.1 e (faithful_of_polled holds.2), Option.map_map, sntpStep,
      Option.map_map]
    rfl
  obtain ⟨us, r, before, _, sources, rfl, rfl⟩ := run.of_image (·.shown wrapping)
    (P := fun r => Punctual r ∧ Polled r) init matched
    (fun holds taken kept => ⟨holds.1.move (sntpStep_move taken), kept⟩) polled
  refine ⟨r₀, us, r, exactly, before, rfl, rfl, ?_⟩
  intro u member
  obtain ⟨punctual, kept⟩ := sources u member
  rw [sntpSent, sntpHandle_shown punctual u.event (faithful_of_polled kept), Option.map_map, sntpSent]
  rfl

/-- A program whose loop keeps polling runs as on a counter that never wraps: the same
handlers are called in the same order, each when it is due, and the same requests are sent. -/
theorem sntpStep_wrapping_refines {ticks : Nat} {rtc : Rtc} {s₀ s : SntpClient UInt32}
    {ts : List (Transition (SntpClient UInt32) SntpEvent)}
    (booted : sntpBoot wrapping ticks rtc = some s₀) (run : Run (sntpStep wrapping) s₀ ts s)
    (polled : ∀ t ∈ ts, Polled t.target) :
    ∃ r₀ us r, sntpBoot exact ticks rtc = some r₀ ∧ Run (sntpStep exact) r₀ us r ∧
      ts = us.map (.map (·.shown wrapping)) ∧ s = r.shown wrapping ∧
      ∀ u ∈ us, sntpSent wrapping (u.source.shown wrapping) u.event =
          sntpSent exact u.source u.event ∧
        (u.event = .nextExpired → SoundCheck u) := by
  obtain ⟨r₀, us, r, exactly, before, shown, last, sent⟩ := exact_run_of_polled booted run polled
  refine ⟨r₀, us, r, exactly, before, shown, last, fun u member => ⟨sent u member, ?_⟩⟩
  exact soundCheck exactly before member

/-- A first request, sent while the counter wraps. -/
def requestAtWrap : List SntpEvent :=
  [.sntpInit 0, .timeIsr, .timeIsr, .sysCheckTimeouts, .nextExpired,
    .callHandler ⟨errOk, 1, true, false⟩, .nextExpired]

theorem sntpStep_wrapping_refines_requestAtWrap : ∃ (us : List _) (r : SntpClient Nat),
    us.length = 7 ∧ r.sntpServer.addr = 1 ∧ ∀ u ∈ us, u.event = .nextExpired → SoundCheck u := by
  have done : (sntpExec wrapping 4294967295 ⟨0, false⟩ requestAtWrap).map (fun result =>
      decide ((∀ t ∈ result.1, Polled t.target) ∧ result.1.length = 7 ∧
        result.2.sntpServer.addr = 1)) = some true := by
    decide +kernel
  obtain ⟨s₀, ts, s, booted, run, facts⟩ := exists_run_sntpExec done
  obtain ⟨polled, length, address⟩ := of_decide_eq_true facts
  obtain ⟨_, us, r, _, _, rfl, rfl, steps⟩ := sntpStep_wrapping_refines booted run polled
  rw [List.length_map] at length
  exact ⟨us, r, length, address, fun u member => (steps u member).2⟩

end EpaperClock
