import EpaperClock.SntpClient

/-! When `sys_check_timeouts` calls what: the instants of the timers over whole runs. -/
namespace EpaperClock

open StepSystem TimerQueue

/-- The instants that a phase holds lie between the last complete check and the present one. -/
def LoopPhase.Started (s : SntpClient Nat) : LoopPhase Nat → Prop
  | polling => True
  | checking now => now = s.checkStart
  | calling now _ => now = s.checkStart ∧ s.lastCheck ≤ s.timeouts.currentTimeoutDueTime ∧
      s.timeouts.currentTimeoutDueTime ≤ s.checkStart

structure Punctual (s : SntpClient Nat) : Prop where
  window : InWindow s.lastCheck s.timeouts
  lastCheck_le : s.lastCheck ≤ s.checkStart
  checkStart_le : s.checkStart ≤ s.timeouts.timeNow
  started : s.phase.Started s

namespace Punctual

variable {s s' : SntpClient Nat}

theorem arms (punctual : Punctual s) {msecs : UInt32} {handler : TimeoutHandler}
    (armed : Arms exact s msecs handler s') : Punctual s' where
  window := by
    rw [armed.timeouts, armed.lastCheck]
    exact punctual.window.insert (Nat.le_trans punctual.window.started (Nat.le_add_right _ _))
      (Nat.add_le_add_left (UInt32.le_iff_toNat_le.mp armed.short) _)
  lastCheck_le := by
    rw [armed.lastCheck, armed.checkStart]
    exact punctual.lastCheck_le
  checkStart_le := by
    rw [armed.checkStart, armed.timeouts]
    exact punctual.checkStart_le
  started := by
    have before := punctual.started
    rw [armed.phase]
    cases phase : s.phase with
    | polling => trivial
    | checking now =>
      rw [phase] at before
      rwa [LoopPhase.Started, armed.checkStart]
    | calling now handler =>
      rw [phase] at before
      rwa [LoopPhase.Started, armed.checkStart, armed.lastCheck, armed.timeouts]

theorem attempt (punctual : Punctual s) {sent : List UdpDatagram}
    (attempt : Attempt exact s s' sent) : Punctual s' := by
  cases attempt with
  | sent _ armed => exact punctual.arms armed
  | failed _ armed => exact punctual.arms armed
  | retried armed => exact punctual.arms armed
  | lookup =>
    exact ⟨punctual.window, punctual.lastCheck_le, punctual.checkStart_le, punctual.started⟩

/-- Timers that operations on exact time keep in the window. -/
theorem withTimeouts (punctual : Punctual s) {timeouts : Timeouts Nat}
    (window : InWindow s.lastCheck timeouts) (timeNow : timeouts.timeNow = s.timeouts.timeNow)
    (due : timeouts.currentTimeoutDueTime = s.timeouts.currentTimeoutDueTime) :
    Punctual { s with timeouts } where
  window := window
  lastCheck_le := punctual.lastCheck_le
  checkStart_le := Nat.le_trans punctual.checkStart_le (Nat.le_of_eq timeNow.symm)
  started := by
    have before := punctual.started
    cases phase : s.phase with
    | polling => trivial
    | checking now =>
      rw [phase] at before
      exact before
    | calling now handler =>
      rw [phase] at before
      simp only [LoopPhase.Started, due]
      exact before

theorem sntpRecv (punctual : Punctual s) {p : List UInt8} (done : sntpRecv exact p s = some s') :
    Punctual s' := by
  rcases sntpRecv_eq done with ⟨_, _, _, _, armed⟩ | ⟨_, retried⟩ | ⟨_, _, rfl⟩
  · have cancelled := (punctual.window.sysUntimeout .sntpTryNextServer).sysUntimeout .sntpRequest
    exact (punctual.withTimeouts cancelled rfl rfl).arms armed
  · exact punctual.attempt retried
  · exact punctual

/-- A handler that runs belongs to the check that is under way. -/
theorem checking (punctual : Punctual s) {now : Nat} {handler : TimeoutHandler}
    (calling : s.phase = .calling now handler) : Punctual { s with phase := .checking now } ∧
      s.lastCheck ≤ s.timeouts.currentTimeoutDueTime ∧
      s.timeouts.currentTimeoutDueTime ≤ s.checkStart := by
  have started := punctual.started
  rw [calling] at started
  exact ⟨⟨punctual.window, punctual.lastCheck_le, punctual.checkStart_le, started.1⟩, started.2⟩

theorem expired (punctual : Punctual s) {now : Nat} {handler : TimeoutHandler}
    {timeouts : Timeouts Nat} (checking : s.phase = .checking now)
    (taken : nextExpired exact now s.timeouts = some (handler, timeouts)) :
    Punctual { s with timeouts, phase := .calling now handler } := by
  have started := punctual.started
  rw [checking] at started
  obtain ⟨due, queued, same⟩ := nextExpired_eq_some taken
  have window := punctual.window
  have ordered := window.ordered
  have spans := window.spans
  rw [queued] at ordered spans
  have first := spans _ List.mem_cons_self
  have timeNow : timeouts.timeNow = s.timeouts.timeNow := by rw [same]
  have rest : InWindow s.lastCheck timeouts :=
    { started := Nat.le_trans window.started (Nat.le_of_eq timeNow.symm)
      ordered := (List.pairwise_cons.mp ordered).2
      spans := by
        rw [timeNow]
        exact fun timer member => spans timer (List.mem_cons_of_mem _ member) }
  have past : timeouts.currentTimeoutDueTime ≤ now :=
    Nat.le_of_not_lt fun early => absurd (decide_eq_true early) (ne_true_of_eq_false due)
  exact ⟨rest, punctual.lastCheck_le, Nat.le_trans punctual.checkStart_le (Nat.le_of_eq timeNow.symm),
    started, first.1, Nat.le_trans past (Nat.le_of_eq started)⟩

/-- The timers stay in the window, whatever happens. -/
theorem move (punctual : Punctual s) {e : SntpEvent} {sent : List UdpDatagram}
    (move : SntpMove exact s e s' sent) : Punctual s' := by
  cases move with
  | tick =>
    have started := punctual.started
    exact ⟨punctual.window.tick, punctual.lastCheck_le,
      Nat.le_succ_of_le punctual.checkStart_le, started⟩
  | initAgain =>
    exact ⟨punctual.window, punctual.lastCheck_le, punctual.checkStart_le, punctual.started⟩
  | init polling stopped set =>
    have window := punctual.window.sysTimeout set
    obtain ⟨_, _, rfl⟩ := sysTimeout_eq set
    have armed := punctual.withTimeouts window rfl rfl
    exact ⟨armed.window, armed.lastCheck_le, armed.checkStart_le, armed.started⟩
  | check polling =>
    exact ⟨punctual.window, Nat.le_trans punctual.lastCheck_le punctual.checkStart_le,
      Nat.le_refl _, rfl⟩
  | expired checking taken => exact punctual.expired checking taken
  | @checked now checking none =>
    have started := punctual.started
    rw [checking] at started
    obtain rfl : now = s.checkStart := started
    have left := nextExpired_eq_none punctual.window.ordered none
    have later := fun timer member => Nat.le_of_lt (left timer member)
    exact ⟨punctual.window.advance punctual.checkStart_le later, Nat.le_refl _,
      punctual.checkStart_le, trivial⟩
  | cyclic calling set =>
    obtain ⟨checking, lower, upper⟩ := punctual.checking calling
    have window := punctual.window.lwipCyclicTimer lower
      (Nat.le_trans upper punctual.checkStart_le) set
    obtain ⟨_, time, _, rfl⟩ := lwipCyclicTimer_eq set
    exact checking.withTimeouts window rfl rfl
  | tcp calling set =>
    have checking := (punctual.checking calling).1
    have window := punctual.window.tcpipTcpTimer set
    obtain ⟨time, rfl⟩ | rfl := tcpipTcpTimer_eq set
    · exact checking.withTimeouts window rfl rfl
    · exact checking.withTimeouts window rfl rfl
  | request calling requested =>
    exact (punctual.checking calling).1.attempt (sntpRequest_attempt requested)
  | retry calling retried =>
    exact (punctual.checking calling).1.attempt (sntpRetry_attempt retried)
  | recv _ _ received => exact punctual.sntpRecv received
  | found _ _ answered =>
    have before : Punctual { s with dnsRequests := s.dnsRequests - 1 } :=
      ⟨punctual.window, punctual.lastCheck_le, punctual.checkStart_le, punctual.started⟩
    exact before.attempt (sntpDnsFound_attempt answered)
  | tcpNeeded _ set =>
    have window := punctual.window.tcpTimerNeeded set
    obtain ⟨_, time, rfl⟩ | rfl := tcpTimerNeeded_eq set
    · exact punctual.withTimeouts window rfl rfl
    · exact punctual

theorem boot {ticks : Nat} {rtc : Rtc} (booted : sntpBoot exact ticks rtc = some s) :
    Punctual s := by
  obtain ⟨timeouts, initial, rfl⟩ := Option.map_eq_some_iff.mp booted
  have empty : InWindow ticks ⟨ticks, [], 0, false⟩ :=
    ⟨Nat.le_refl _, List.Pairwise.nil, by simp [Spans]⟩
  have window := empty.sysTimeoutsInit initial
  exact ⟨window, Nat.le_refl _, window.started, trivial⟩

theorem run {s₀ : SntpClient Nat} {ts : List (Transition (SntpClient Nat) SntpEvent)} {ticks : Nat}
    {rtc : Rtc} (booted : sntpBoot exact ticks rtc = some s₀) (run : Run (sntpStep exact) s₀ ts s) :
    Punctual s :=
  (run.invariant (boot booted) fun taken punctual => punctual.move (sntpStep_move taken)).1

end Punctual

/-- What a check does at its next timer: it calls the handler of the earliest, which is due,
or it returns, and then none is left that was due when it began. -/
structure SoundCheck (t : Transition (SntpClient Nat) SntpEvent) : Prop where
  taken : ∀ now handler, t.target.phase = .calling now handler →
    t.source.lastCheck ≤ t.target.timeouts.currentTimeoutDueTime ∧
      t.target.timeouts.currentTimeoutDueTime ≤ t.source.checkStart ∧
      ∀ timer ∈ t.target.timeouts.nextTimeout,
        t.target.timeouts.currentTimeoutDueTime ≤ timer.time
  returned : t.target.phase = .polling →
    ∀ timer ∈ t.target.timeouts.nextTimeout, t.source.checkStart < timer.time

theorem soundCheck {s₀ s : SntpClient Nat} {ts : List (Transition (SntpClient Nat) SntpEvent)}
    {ticks : Nat} {rtc : Rtc} (booted : sntpBoot exact ticks rtc = some s₀)
    (run : Run (sntpStep exact) s₀ ts s) {t : Transition (SntpClient Nat) SntpEvent}
    (member : t ∈ ts) (check : t.event = .nextExpired) : SoundCheck t := by
  obtain ⟨pre, _, before⟩ := run.source_of_mem member
  have punctual := Punctual.run booted before
  have move := sntpStep_move (run.step_of_mem member)
  rw [check] at move
  generalize target : t.target = s' at move
  generalize sntpSent exact t.source .nextExpired = sent at move
  cases move with
  | @expired now handler timeouts checking taken =>
    have after := punctual.expired checking taken
    refine ⟨?_, ?_⟩
    · intro _ _ _
      rw [target]
      have queued := (nextExpired_eq_some taken).2.1
      have ordered := punctual.window.ordered
      rw [queued] at ordered
      exact ⟨after.started.2.1, after.started.2.2, (List.pairwise_cons.mp ordered).1⟩
    · intro polling
      rw [target] at polling
      cases polling
  | @checked now checking none =>
    have started := punctual.started
    rw [checking] at started
    obtain rfl : now = t.source.checkStart := started
    refine ⟨?_, ?_⟩
    · intro _ _ calling
      rw [target] at calling
      cases calling
    · intro _
      rw [target]
      exact nextExpired_eq_none punctual.window.ordered none

end EpaperClock
