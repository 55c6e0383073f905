import EpaperClock.SntpRetries
import EpaperClock.TickWrap
import EpaperClock.TimeoutPool

/-! When the client sends: not too often, and never not at all. -/
namespace EpaperClock

open StepSystem TimerQueue

/-- The client sends, waits, retries or starts. -/
def clientStep {T : Type} (t : Transition (SntpClient T) SntpEvent) : Bool :=
  match t.event with
  | .sntpInit _ => !t.source.sntpPcb
  | .sntpRecv p => sntpRecvErr p = errOk || sntpRecvErr p = sntpErrKod
  | .sntpDnsFound _ _ => true
  | .callHandler _ =>
    t.source.phase.calls .sntpRequest + t.source.phase.calls .sntpTryNextServer ≠ 0
  | _ => false

variable {s s' : SntpClient Nat}

/-! ### The next attempt -/

/-- A lookup is open, or a timer of the client is due by the deadline. -/
def Awaits (deadline : Nat) (s : SntpClient Nat) : Prop :=
  0 < s.dnsRequests ∨ ∃ time ≤ deadline, ∃ handler,
    (handler = .sntpRequest ∨ handler = .sntpTryNextServer) ∧
      (⟨time, handler⟩ ∈ s.timeouts.nextTimeout ∨
        (∃ now, s.phase = .calling now handler) ∧ s.timeouts.currentTimeoutDueTime = time)

theorem Arms.awaits {msecs : UInt32} {handler : TimeoutHandler} (armed : Arms exact s msecs handler s')
    (sntp : handler = .sntpRequest ∨ handler = .sntpTryNextServer) {deadline : Nat}
    (early : s.timeouts.timeNow + msecs.toNat ≤ deadline) : Awaits deadline s' := by
  refine .inr ⟨_, early, handler, sntp, .inl ?_⟩
  rw [armed.timeouts]
  exact mem_insert.mpr (.inl rfl)

theorem Attempt.awaits {sent : List UdpDatagram} (attempt : Attempt exact s s' sent)
    (retry : s.sntpRetryTimeout ≤ sntpRetryTimeoutMax) :
    Awaits (s.timeouts.timeNow + 360000) s' := by
  have waits : s.sntpRetryTimeout.toNat ≤ 150000 := UInt32.le_iff_toNat_le.mp retry
  cases attempt with
  | sent _ armed => exact armed.awaits (.inr rfl) (Nat.add_le_add_left (by decide) _)
  | failed sntp armed => exact armed.awaits sntp (Nat.add_le_add_left (by decide) _)
  | retried armed => exact armed.awaits (.inl rfl) (by omega)
  | lookup => exact .inl (Nat.succ_pos _)

namespace Awaits

variable {deadline : Nat}

/-- Where no handler of the client is under way, its timers remain. -/
theorem kept (awaits : Awaits deadline s) (requests : s'.dnsRequests = s.dnsRequests)
    (queued : ∀ timer ∈ s.timeouts.nextTimeout, timer ∈ s'.timeouts.nextTimeout)
    (other : s.phase.calls .sntpRequest + s.phase.calls .sntpTryNextServer = 0 ∨
      s'.phase = s.phase ∧ s'.timeouts.currentTimeoutDueTime = s.timeouts.currentTimeoutDueTime) :
    Awaits deadline s' := by
  rcases awaits with waiting | ⟨time, early, handler, sntp, member | ⟨⟨now, calling⟩, due⟩⟩
  · exact .inl (requests ▸ waiting)
  · exact .inr ⟨time, early, handler, sntp, .inl (queued _ member)⟩
  · rcases other with none | ⟨phase, same⟩
    · rw [calling] at none
      rcases sntp with rfl | rfl <;> simp [LoopPhase.calls] at none
    · exact .inr ⟨time, early, handler, sntp, .inr ⟨⟨now, phase.trans calling⟩, same.trans due⟩⟩

theorem move (awaits : Awaits deadline s) {e : SntpEvent} {sent : List UdpDatagram}
    (move : SntpMove exact s e s' sent) (other : clientStep ⟨s, e, s'⟩ = false) :
    Awaits deadline s' := by
  cases move with
  | tick => exact awaits.kept rfl (fun _ member => member) (.inr ⟨rfl, rfl⟩)
  | initAgain => exact awaits.kept rfl (fun _ member => member) (.inr ⟨rfl, rfl⟩)
  | init _ stopped => simp [clientStep, stopped] at other
  | check polling =>
    refine awaits.kept rfl (fun _ member => member) (.inl ?_)
    rw [polling]
    rfl
  | @expired now handler timeouts checking taken =>
    have queued := (nextExpired_eq_some taken).2.1
    rcases awaits with waiting | ⟨time, early, handler, sntp, member | ⟨⟨now, calling⟩, _⟩⟩
    · exact .inl waiting
    · rw [queued] at member
      rcases List.mem_cons.mp member with first | behind
      · cases first
        exact .inr ⟨_, early, handler, sntp, .inr ⟨⟨now, rfl⟩, rfl⟩⟩
      · exact .inr ⟨time, early, handler, sntp, .inl behind⟩
    · rw [checking] at calling
      cases calling
  | checked checking none =>
    refine awaits.kept rfl (fun _ member => member) (.inl ?_)
    rw [checking]
    rfl
  | cyclic calling set =>
    obtain ⟨_, time, _, rfl⟩ := lwipCyclicTimer_eq set
    refine awaits.kept rfl (fun _ member => mem_insert.mpr (.inr member)) (.inl ?_)
    rw [calling]
    rfl
  | tcp calling set =>
    have none : s.phase.calls .sntpRequest + s.phase.calls .sntpTryNextServer = 0 := by
      rw [calling]
      rfl
    rcases tcpipTcpTimer_eq set with ⟨time, rfl⟩ | rfl
    · exact awaits.kept rfl (fun _ member => mem_insert.mpr (.inr member)) (.inl none)
    · exact awaits.kept rfl (fun _ member => member) (.inl none)
  | request calling => simp [clientStep, calling, LoopPhase.calls] at other
  | retry calling => simp [clientStep, calling, LoopPhase.calls] at other
  | recv _ _ received =>
    rcases sntpRecv_eq received with ⟨accepted, _⟩ | ⟨kod, _⟩ | ⟨_, _, rfl⟩
    · simp [clientStep, accepted] at other
    · simp [clientStep, kod] at other
    · exact awaits
  | found => simp [clientStep] at other
  | tcpNeeded _ set =>
    rcases tcpTimerNeeded_eq set with ⟨_, time, rfl⟩ | rfl
    · exact awaits.kept rfl (fun _ member => mem_insert.mpr (.inr member)) (.inr ⟨rfl, rfl⟩)
    · exact awaits

/-- Every step of the client itself leaves it waiting for something. -/
theorem of_clientStep (retry : s.sntpRetryTimeout ≤ sntpRetryTimeoutMax) {e : SntpEvent}
    {sent : List UdpDatagram} (move : SntpMove exact s e s' sent)
    (client : clientStep ⟨s, e, s'⟩ = true) : Awaits (s.timeouts.timeNow + 360000) s' := by
  cases move with
  | @init rand timeouts _ _ set =>
    obtain ⟨_, _, rfl⟩ := sysTimeout_eq set
    refine .inr ⟨_, ?_, .sntpRequest, .inl rfl, .inl (mem_insert.mpr (.inl rfl))⟩
    have short : (rand % 5000).toNat < 5000 := by
      rw [UInt32.toNat_mod]
      exact Nat.mod_lt _ (by decide)
    exact Nat.add_le_add_left (by omega) _
  | request _ requested => exact (sntpRequest_attempt requested).awaits retry
  | retry _ retried => exact (sntpRetry_attempt retried).awaits retry
  | recv _ _ received =>
    rcases sntpRecv_eq received with ⟨_, _, _, _, armed⟩ | ⟨_, retried⟩ | ⟨rejected, ignored, rfl⟩
    · exact armed.awaits (.inl rfl) (Nat.le_refl _)
    · exact retried.awaits retry
    · simp [clientStep, rejected, ignored] at client
  | found _ _ answered => exact (sntpDnsFound_attempt answered).awaits retry
  | initAgain _ started => simp [clientStep, started] at client
  | cyclic calling => simp [clientStep, calling, LoopPhase.calls] at client
  | tcp calling => simp [clientStep, calling, LoopPhase.calls] at client
  | _ => cases client

/-- The deadline cannot pass before a whole check. -/
theorem lastCheck_le (awaits : Awaits deadline s) (punctual : Punctual s)
    (answered : s.dnsRequests = 0) : s.lastCheck ≤ deadline := by
  rcases awaits with waiting | ⟨time, early, handler, _, member | ⟨⟨now, calling⟩, due⟩⟩
  · omega
  · exact Nat.le_trans (punctual.window.spans _ member).1 early
  · have started := punctual.started
    rw [calling] at started
    exact Nat.le_trans started.2.1 (Nat.le_trans (Nat.le_of_eq due) early)

end Awaits

/-! ### The distance between requests -/

/-- After a request at `last`, and before the next. -/
structure Spaced (last : Nat) (s : SntpClient Nat) : Prop where
  now : last ≤ s.timeouts.timeNow
  tryNext : ∀ timer ∈ s.timeouts.nextTimeout, timer.handler = .sntpTryNextServer →
    last + 15000 ≤ timer.time
  request : ∀ timer ∈ s.timeouts.nextTimeout, timer.handler = .sntpRequest →
    last + 30000 ≤ timer.time
  retrying : ∀ now, s.phase = .calling now .sntpTryNextServer →
    last + 15000 ≤ s.timeouts.timeNow
  requesting : ∀ now, s.phase = .calling now .sntpRequest → last + 30000 ≤ s.timeouts.timeNow
  lookup : 0 < s.dnsRequests → last + 30000 ≤ s.timeouts.timeNow

namespace Spaced

variable {last : Nat}

theorem mono (spaced : Spaced last s) {earlier : Nat} (le : earlier ≤ last) :
    Spaced earlier s where
  now := Nat.le_trans le spaced.now
  tryNext := fun timer member handler =>
    Nat.le_trans (Nat.add_le_add_right le _) (spaced.tryNext timer member handler)
  request := fun timer member handler =>
    Nat.le_trans (Nat.add_le_add_right le _) (spaced.request timer member handler)
  retrying := fun now calling =>
    Nat.le_trans (Nat.add_le_add_right le _) (spaced.retrying now calling)
  requesting := fun now calling =>
    Nat.le_trans (Nat.add_le_add_right le _) (spaced.requesting now calling)
  lookup := fun waiting => Nat.le_trans (Nat.add_le_add_right le _) (spaced.lookup waiting)

theorem arms (spaced : Spaced last s) {msecs : UInt32} {handler : TimeoutHandler}
    (armed : Arms exact s msecs handler s')
    (tryNext : handler = .sntpTryNextServer → last + 15000 ≤ s.timeouts.timeNow + msecs.toNat)
    (request : handler = .sntpRequest → last + 30000 ≤ s.timeouts.timeNow + msecs.toNat) :
    Spaced last s' where
  now := by
    rw [armed.timeouts]
    exact spaced.now
  tryNext := by
    rw [armed.timeouts]
    intro timer member
    rcases mem_insert.mp member with rfl | queued
    · exact tryNext
    · exact spaced.tryNext timer queued
  request := by
    rw [armed.timeouts]
    intro timer member
    rcases mem_insert.mp member with rfl | queued
    · exact request
    · exact spaced.request timer queued
  retrying := by
    rw [armed.timeouts, armed.phase]
    exact spaced.retrying
  requesting := by
    rw [armed.timeouts, armed.phase]
    exact spaced.requesting
  lookup := by
    rw [armed.timeouts, armed.dnsRequests]
    exact spaced.lookup

/-- What follows a request of the client that was due. -/
theorem attempt (spaced : Spaced last s) (retry : 15000 ≤ s.sntpRetryTimeout.toNat)
    (due : last + 30000 ≤ s.timeouts.timeNow) (attempt : Attempt exact s s' []) :
    Spaced last s' := by
  generalize none : ([] : List UdpDatagram) = sent at attempt
  cases attempt with
  | sent => cases none
  | failed sntp armed => exact spaced.arms armed (fun _ => by omega) (fun _ => by omega)
  | retried armed => exact spaced.arms armed (fun _ => by omega) (fun _ => by omega)
  | lookup =>
    exact ⟨spaced.now, spaced.tryNext, spaced.request, spaced.retrying, spaced.requesting,
      fun _ => due⟩

/-- Other timers may come and go. -/
theorem withTimeouts (spaced : Spaced last s) {timeouts : Timeouts Nat}
    (timeNow : timeouts.timeNow = s.timeouts.timeNow)
    (client : ∀ timer ∈ timeouts.nextTimeout,
      timer.handler = .sntpRequest ∨ timer.handler = .sntpTryNextServer →
        timer ∈ s.timeouts.nextTimeout) : Spaced last { s with timeouts } where
  now := Nat.le_trans spaced.now (Nat.le_of_eq timeNow.symm)
  tryNext := fun timer member handler =>
    spaced.tryNext timer (client timer member (.inr handler)) handler
  request := fun timer member handler =>
    spaced.request timer (client timer member (.inl handler)) handler
  retrying := fun now calling =>
    Nat.le_trans (spaced.retrying now calling) (Nat.le_of_eq timeNow.symm)
  requesting := fun now calling =>
    Nat.le_trans (spaced.requesting now calling) (Nat.le_of_eq timeNow.symm)
  lookup := fun waiting => Nat.le_trans (spaced.lookup waiting) (Nat.le_of_eq timeNow.symm)

theorem insert_other {time : Nat} {handler : TimeoutHandler} {queue : List (Timer Nat TimeoutHandler)}
    (request : handler ≠ .sntpRequest) (tryNext : handler ≠ .sntpTryNextServer) :
    ∀ timer ∈ insert exact ⟨time, handler⟩ queue,
      timer.handler = .sntpRequest ∨ timer.handler = .sntpTryNextServer → timer ∈ queue := by
  intro timer member client
  rcases mem_insert.mp member with rfl | queued
  · rcases client with own | own
    · exact absurd own request
    · exact absurd own tryNext
  · exact queued

theorem checking (spaced : Spaced last s) (now : Nat) :
    Spaced last { s with phase := .checking now } :=
  ⟨spaced.now, spaced.tryNext, spaced.request, nofun, nofun, spaced.lookup⟩

theorem recv (spaced : Spaced last s) {p : List UInt8} (received : sntpRecv exact p s = some s')
    (ordinary : surplus ⟨s, .sntpRecv p, s'⟩ = false) : Spaced last s' := by
  rcases sntpRecv_eq received with ⟨_, _, _, _, armed⟩ | ⟨kod, _⟩ | ⟨_, _, rfl⟩
  · have cancelled : Spaced last { s with
        timeouts := sysUntimeout .sntpRequest (sysUntimeout .sntpTryNextServer s.timeouts) } :=
      spaced.withTimeouts rfl fun timer member _ =>
        List.mem_of_mem_eraseP (List.mem_of_mem_eraseP member)
    have delay : sntpUpdateDelay.toNat = 360000 := rfl
    have now : last ≤ s.timeouts.timeNow := spaced.now
    refine cancelled.arms armed nofun (fun _ => ?_)
    change last + 30000 ≤ s.timeouts.timeNow + sntpUpdateDelay.toNat
    omega
  · simp [surplus, kod] at ordinary
  · exact spaced

theorem expired (spaced : Spaced last s) (punctual : Punctual s) {now : Nat}
    {handler : TimeoutHandler} {timeouts : Timeouts Nat} (checking : s.phase = .checking now)
    (taken : nextExpired exact now s.timeouts = some (handler, timeouts)) :
    Spaced last { s with timeouts, phase := .calling now handler } := by
  have after := punctual.expired checking taken
  obtain ⟨_, queued, same⟩ := nextExpired_eq_some taken
  have timeNow : timeouts.timeNow = s.timeouts.timeNow := by rw [same]
  have first : ⟨timeouts.currentTimeoutDueTime, handler⟩ ∈ s.timeouts.nextTimeout := by
    rw [queued]
    exact List.mem_cons_self
  have behind : ∀ timer ∈ timeouts.nextTimeout, timer ∈ s.timeouts.nextTimeout := by
    rw [queued]
    exact fun timer member => List.mem_cons_of_mem _ member
  have due : timeouts.currentTimeoutDueTime ≤ timeouts.timeNow :=
    Nat.le_trans after.started.2.2 after.checkStart_le
  have rest := spaced.withTimeouts timeNow (fun timer member _ => behind timer member)
  refine ⟨rest.now, rest.tryNext, rest.request, ?_, ?_, rest.lookup⟩
  · intro _ calling
    cases calling
    exact Nat.le_trans (spaced.tryNext _ first rfl) due
  · intro _ calling
    cases calling
    exact Nat.le_trans (spaced.request _ first rfl) due

theorem move (spaced : Spaced last s) (punctual : Punctual s) (started : s.sntpPcb = true)
    (retry : 15000 ≤ s.sntpRetryTimeout.toNat) {e : SntpEvent} (move : SntpMove exact s e s' [])
    (ordinary : surplus ⟨s, e, s'⟩ = false) : Spaced last s' := by
  generalize none : ([] : List UdpDatagram) = sent at move
  cases move with
  | tick =>
    exact ⟨Nat.le_succ_of_le spaced.now, spaced.tryNext, spaced.request,
      fun now calling => Nat.le_succ_of_le (spaced.retrying now calling),
      fun now calling => Nat.le_succ_of_le (spaced.requesting now calling),
      fun waiting => Nat.le_succ_of_le (spaced.lookup waiting)⟩
  | initAgain =>
    exact ⟨spaced.now, spaced.tryNext, spaced.request, spaced.retrying, spaced.requesting,
      spaced.lookup⟩
  | init _ stopped =>
    rw [started] at stopped
    cases stopped
  | check =>
    exact ⟨spaced.now, spaced.tryNext, spaced.request, nofun, nofun, spaced.lookup⟩
  | expired checking taken => exact spaced.expired punctual checking taken
  | checked =>
    exact ⟨spaced.now, spaced.tryNext, spaced.request, nofun, nofun, spaced.lookup⟩
  | @cyclic now _ _ _ _ set =>
    obtain ⟨_, time, _, rfl⟩ := lwipCyclicTimer_eq set
    exact (spaced.checking now).withTimeouts rfl (insert_other nofun nofun)
  | @tcp now _ _ _ set =>
    rcases tcpipTcpTimer_eq set with ⟨time, rfl⟩ | rfl
    · exact (spaced.checking now).withTimeouts rfl (insert_other nofun nofun)
    · exact (spaced.checking now).withTimeouts rfl (fun _ member _ => member)
  | @request now _ _ _ calling requested =>
    subst none
    have due := spaced.requesting now calling
    exact (spaced.checking now).attempt retry due (sntpRequest_attempt requested)
  | @retry now _ _ calling retried =>
    have due : last + 15000 ≤ s.timeouts.timeNow := spaced.retrying now calling
    refine (spaced.checking now).arms (sntpRetry_arms retried) nofun (fun _ => ?_)
    change last + 30000 ≤ s.timeouts.timeNow + s.sntpRetryTimeout.toNat
    omega
  | recv _ _ received => exact spaced.recv received ordinary
  | found _ waiting answered =>
    subst none
    have due := spaced.lookup waiting
    have before : Spaced last { s with dnsRequests := s.dnsRequests - 1 } :=
      ⟨spaced.now, spaced.tryNext, spaced.request, spaced.retrying, spaced.requesting,
        fun _ => due⟩
    exact before.attempt retry due (sntpDnsFound_attempt answered)
  | tcpNeeded _ set =>
    rcases tcpTimerNeeded_eq set with ⟨_, time, rfl⟩ | rfl
    · exact spaced.withTimeouts rfl (insert_other nofun nofun)
    · exact spaced

/-- The attempt that sends a request leaves nothing but the timer for its answer. -/
theorem of_sent {sent : List UdpDatagram} (attempt : Attempt exact s s' sent) (sends : sent ≠ [])
    (idle : s.activity = 0) : Spaced s.timeouts.timeNow s' := by
  cases attempt with
  | sent _ armed =>
    simp only [SntpClient.activity, SntpClient.live] at idle
    have none (handler : TimeoutHandler) (idle : pending handler s.timeouts.nextTimeout = 0) :
        ∀ timer ∈ s.timeouts.nextTimeout, timer.handler ≠ handler := by
      intro timer member same
      exact List.countP_eq_zero.mp idle timer member (decide_eq_true same)
    have noTryNext := none .sntpTryNextServer (by omega)
    have noRequest := none .sntpRequest (by omega)
    have delay : sntpRecvTimeout.toNat = 15000 := rfl
    have timeNow : s'.timeouts.timeNow = s.timeouts.timeNow := by rw [armed.timeouts]
    have idlePhase {handler : TimeoutHandler} {now : Nat} (none : s.phase.calls handler = 0)
        (calling : s'.phase = .calling now handler) : False := by
      rw [armed.phase] at calling
      simp [calling, LoopPhase.calls] at none
    refine ⟨Nat.le_of_eq timeNow.symm, ?_, ?_, ?_, ?_, ?_⟩
    · rw [armed.timeouts]
      intro timer member handler
      rcases mem_insert.mp member with rfl | queued
      · exact Nat.le_refl _
      · exact absurd handler (noTryNext timer queued)
    · rw [armed.timeouts]
      intro timer member handler
      rcases mem_insert.mp member with rfl | queued
      · cases handler
      · exact absurd handler (noRequest timer queued)
    · exact fun now calling => (idlePhase (by omega) calling).elim
    · exact fun now calling => (idlePhase (by omega) calling).elim
    · rw [armed.dnsRequests]
      omega
  | _ => exact absurd rfl sends

/-- A request is sent when it is due, and begins the wait for the next. -/
theorem sends {last : Nat} (spaced : Spaced last s) {e : SntpEvent} {sent : List UdpDatagram}
    (move : SntpMove exact s e s' sent) (sends : sent ≠ []) :
    last + 30000 ≤ s.timeouts.timeNow := by
  cases move with
  | request calling => exact spaced.requesting _ calling
  | found _ waiting => exact spaced.lookup waiting
  | _ => exact absurd rfl sends

theorem of_move {e : SntpEvent} {sent : List UdpDatagram} (move : SntpMove exact s e s' sent)
    (sends : sent ≠ []) (single : s.activity ≤ 1) : Spaced s.timeouts.timeNow s' := by
  cases move with
  | request calling requested =>
    have called := activity_called calling (.inl rfl)
    have spaced := of_sent (sntpRequest_attempt requested) sends (by omega)
    exact spaced
  | found _ waiting answered =>
    have idle : SntpClient.activity { s with dnsRequests := s.dnsRequests - 1 } = 0 := by
      simp only [SntpClient.activity, SntpClient.live] at single ⊢
      omega
    have spaced := of_sent (sntpDnsFound_attempt answered) sends idle
    exact spaced
  | _ => exact absurd rfl sends

end Spaced

section Runs

variable {s₀ : SntpClient Nat} {ts pre mid : List (Transition (SntpClient Nat) SntpEvent)}
  {t : Transition (SntpClient Nat) SntpEvent} {ticks : Nat} {rtc : Rtc}

theorem lastCheck_le_of_run (booted : sntpBoot exact ticks rtc = some s₀)
    (run : Run (sntpStep exact) s₀ (pre ++ t :: mid) s) (client : clientStep t = true)
    (silent : ∀ u ∈ mid, clientStep u = false) (answered : s.dnsRequests = 0) :
    s.lastCheck ≤ t.source.timeouts.timeNow + 360000 := by
  obtain ⟨before, taken⟩ := run.split
  have armed : Awaits (t.source.timeouts.timeNow + 360000) t.target :=
    .of_clientStep (retry_le_run booted before) (sntpStep_move taken) client
  have keeps (u : Transition (SntpClient Nat) SntpEvent)
      (taken : sntpStep exact u.source u.event = some u.target) (other : clientStep u = false)
      (awaits : Awaits (t.source.timeouts.timeNow + 360000) u.source) :
      Awaits (t.source.timeouts.timeNow + 360000) u.target :=
    awaits.move (sntpStep_move taken) other
  have kept := (run.after.guarded_invariant armed keeps silent).1
  exact kept.lastCheck_le (Punctual.run booted run) answered

theorem activity_le_of_run (booted : sntpBoot exact ticks rtc = some s₀)
    (run : Run (sntpStep exact) s₀ ts s) (ordinary : ∀ u ∈ ts, surplus u = false) :
    s.activity ≤ 1 := by
  have busy := Busy.run booted run
  have none : ts.countP surplus = 0 := List.countP_eq_zero.mpr fun u member => by
    rw [ordinary u member]
    decide
  rw [none] at busy
  refine Nat.le_trans busy.bounded ?_
  split <;> decide

/-- From a request on, every attempt keeps its distance to it. -/
theorem Spaced.run (booted : sntpBoot exact ticks rtc = some s₀)
    (run : Run (sntpStep exact) s₀ (pre ++ t :: mid) s)
    (ordinary : ∀ u ∈ pre ++ t :: mid, surplus u = false)
    (sends : sntpSent exact t.source t.event ≠ []) :
    Spaced t.source.timeouts.timeNow s ∧ s.sntpPcb = true := by
  induction mid using List.reverseRecOn generalizing s with
  | nil =>
    obtain ⟨before, taken⟩ := run.split
    have single := activity_le_of_run booted before
      (fun u member => ordinary u (List.mem_append_left _ member))
    have move := sntpStep_move taken
    have started : t.source.sntpPcb = true := by
      refine eq_true_of_ne_false fun stopped => ?_
      have active := move.active sends
      have bounded := (Busy.run booted before).bounded
      rw [stopped] at bounded
      exact absurd (Nat.le_trans active bounded) (Nat.not_succ_le_zero 0)
    rw [run.after.eq_of_nil]
    exact ⟨.of_move move sends single, move.started started⟩
  | append_singleton mid u ih =>
    rw [← List.cons_append, ← List.append_assoc] at run ordinary
    obtain ⟨before, taken⟩ := run.split
    have earlier := fun v member => ordinary v (List.mem_append_left _ member)
    obtain ⟨spaced, started⟩ := ih before earlier
    have move := sntpStep_move taken
    rw [run.after.eq_of_nil]
    refine ⟨?_, move.started started⟩
    by_cases silent : sntpSent exact u.source u.event = []
    · have retry := (Retried.run booted before).started started
      rw [silent] at move
      refine spaced.move (Punctual.run booted before) started ?_ move (ordinary u (by simp))
      rw [retry]
      exact Nat.le_mul_of_pos_right _ (Nat.two_pow_pos _)
    · have again := Spaced.of_move move silent (activity_le_of_run booted before earlier)
      exact again.mono spaced.now

theorem requests_apart_of_exact {u : Transition (SntpClient Nat) SntpEvent}
    {post : List (Transition (SntpClient Nat) SntpEvent)}
    (booted : sntpBoot exact ticks rtc = some s₀)
    (run : Run (sntpStep exact) s₀ (pre ++ t :: (mid ++ u :: post)) s)
    (ordinary : ∀ v ∈ pre ++ t :: (mid ++ u :: post), surplus v = false)
    (first : sntpSent exact t.source t.event ≠ [])
    (second : sntpSent exact u.source u.event ≠ []) :
    t.source.timeouts.timeNow + 30000 ≤ u.source.timeouts.timeNow := by
  rw [← List.cons_append, ← List.append_assoc] at run ordinary
  obtain ⟨before, taken⟩ := run.split
  have earlier := fun v member => ordinary v (List.mem_append_left _ member)
  exact (Spaced.run booted before earlier first).1.sends (sntpStep_move taken) second

end Runs

/-! ### On the 32-bit counter -/

section Shown

variable (base : TimeBase T)

theorem pending_stamped (handler : TimeoutHandler) (queue : List (Timer Nat TimeoutHandler)) :
    pending handler (queue.map (·.stamped base)) = pending handler queue := by
  rw [pending, List.countP_map]
  rfl

theorem surplus_shown (u : Transition (SntpClient Nat) SntpEvent) :
    surplus (u.map (·.shown base)) = surplus u := by
  obtain ⟨source, event, target⟩ := u
  cases event with
  | sntpRecv p =>
    simp only [surplus, Transition.map, SntpClient.shown, Timeouts.shown, pending_stamped]
  | _ => rfl

theorem clientStep_shown (u : Transition (SntpClient Nat) SntpEvent) :
    clientStep (u.map (·.shown base)) = clientStep u := by
  obtain ⟨source, event, target⟩ := u
  cases event with
  | callHandler outcome =>
    cases phase : source.phase <;>
      simp [clientStep, Transition.map, SntpClient.shown, LoopPhase.shown, LoopPhase.calls, phase]
  | _ => rfl

end Shown

section Wrapping

variable {s₀ s : SntpClient UInt32} {ticks : Nat} {rtc : Rtc}
  {pre mid post : List (Transition (SntpClient UInt32) SntpEvent)}
  {t u : Transition (SntpClient UInt32) SntpEvent}

/-- No two requests are sent within 30 s, as long as no reply comes when it should not. -/
theorem requests_apart (booted : sntpBoot wrapping ticks rtc = some s₀)
    (run : Run (sntpStep wrapping) s₀ (pre ++ t :: (mid ++ u :: post)) s)
    (polled : ∀ v ∈ pre ++ t :: (mid ++ u :: post), Polled v.target)
    (ordinary : ∀ v ∈ pre ++ t :: (mid ++ u :: post), surplus v = false)
    (first : sntpSent wrapping t.source t.event ≠ [])
    (second : sntpSent wrapping u.source u.event ≠ []) :
    t.source.timeouts.timeNow + 30000 ≤ u.source.timeouts.timeNow := by
  obtain ⟨r₀, us, r, exactly, before, shown, _, sent⟩ := exact_run_of_polled booted run polled
  obtain ⟨pre, rest, rfl, rfl, tail⟩ := List.append_eq_map_iff.mp shown
  obtain ⟨t, after, rfl, rfl, between⟩ := List.map_eq_cons_iff.mp tail
  obtain ⟨mid, last, rfl, rfl, ending⟩ := List.map_eq_append_iff.mp between
  obtain ⟨u, post, rfl, rfl, rfl⟩ := List.map_eq_cons_iff.mp ending
  have ordinarily (v : Transition (SntpClient Nat) SntpEvent)
      (member : v ∈ pre ++ t :: (mid ++ u :: post)) : surplus v = false := by
    rw [← surplus_shown wrapping v]
    refine ordinary _ ?_
    rw [shown]
    exact List.mem_map_of_mem member
  refine requests_apart_of_exact exactly before ordinarily ?_ ?_
  · rw [← sent t (by simp)]
    exact first
  · rw [← sent u (by simp)]
    exact second

/-- The client never falls silent: but for an open lookup, no complete check begins more than
360 s after its last step. -/
theorem check_begins_in_time (booted : sntpBoot wrapping ticks rtc = some s₀)
    (run : Run (sntpStep wrapping) s₀ (pre ++ t :: mid) s)
    (polled : ∀ v ∈ pre ++ t :: mid, Polled v.target) (client : clientStep t = true)
    (silent : ∀ v ∈ mid, clientStep v = false) (answered : s.dnsRequests = 0) :
    s.lastCheck ≤ t.source.timeouts.timeNow + 360000 := by
  obtain ⟨r₀, us, r, exactly, before, shown, rfl, sent⟩ := exact_run_of_polled booted run polled
  obtain ⟨pre, rest, rfl, rfl, tail⟩ := List.append_eq_map_iff.mp shown
  obtain ⟨t, mid, rfl, rfl, rfl⟩ := List.map_eq_cons_iff.mp tail
  have silently (v : Transition (SntpClient Nat) SntpEvent) (member : v ∈ mid) :
      clientStep v = false := by
    rw [← clientStep_shown wrapping v]
    exact silent _ (List.mem_map_of_mem member)
  rw [clientStep_shown] at client
  exact lastCheck_le_of_run exactly before client silently answered

end Wrapping

/-- A start, and a check that finds nothing due. -/
def earlyCheck : List SntpEvent := [.sntpInit 4999, .timeIsr, .sysCheckTimeouts, .nextExpired]

theorem check_begins_in_time_earlyCheck : ∃ s : SntpClient UInt32,
    s.lastCheck = 4294967001 ∧ s.lastCheck ≤ 4294967000 + 360000 := by
  have done : (sntpExec wrapping 4294967000 ⟨0, false⟩ earlyCheck).map (fun result =>
      decide ((∀ t ∈ result.1, Polled t.target) ∧
        result.1.map (fun t => (clientStep t, t.source.timeouts.timeNow)) =
          [(true, 4294967000), (false, 4294967000), (false, 4294967001), (false, 4294967001)] ∧
        result.2.dnsRequests = 0 ∧ result.2.lastCheck = 4294967001)) = some true := by
    decide +kernel
  obtain ⟨s₀, ts, s, booted, run, facts⟩ := exists_run_sntpExec done
  obtain ⟨polled, steps, answered, last⟩ := of_decide_eq_true facts
  obtain ⟨t, mid, rfl, start, rest⟩ := List.map_eq_cons_iff.mp steps
  have silent (v : Transition (SntpClient UInt32) SntpEvent) (member : v ∈ mid) :
      clientStep v = false := by
    have listed := List.mem_map_of_mem (f := fun t => (clientStep t, t.source.timeouts.timeNow)) member
    rw [rest] at listed
    simp at listed
    tauto
  rw [← List.nil_append (t :: mid)] at run polled
  have bound := check_begins_in_time booted run polled (congrArg Prod.fst start) silent answered
  rw [show t.source.timeouts.timeNow = 4294967000 from congrArg Prod.snd start] at bound
  exact ⟨s, last, bound⟩

def SntpClient.ticked {T : Type} (s : SntpClient T) (ticks : Nat) : SntpClient T :=
  { s with timeouts.timeNow := s.timeouts.timeNow + ticks }

/-- Ticks alone, with nothing else between them. -/
theorem run_ticked {T : Type} {base : TimeBase T} {s₀ s : SntpClient T}
    {ts : List (Transition (SntpClient T) SntpEvent)} (run : Run (sntpStep base) s₀ ts s) (n : Nat) :
    ∃ us, Run (sntpStep base) s₀ (ts ++ us) (s.ticked n) ∧
      ∀ u ∈ us, surplus u = false ∧ (Polled (s.ticked n) → Polled u.target) := by
  induction n with
  | zero => exact ⟨[], (List.append_nil ts).symm ▸ run, by simp⟩
  | succ n ih =>
    obtain ⟨us, before, ticks⟩ := ih
    refine ⟨us ++ [⟨s.ticked n, .timeIsr, s.ticked (n + 1)⟩], ?_, ?_⟩
    · rw [← List.append_assoc]
      exact before.next rfl
    · intro u member
      rcases List.mem_append.mp member with earlier | last
      · refine ⟨(ticks u earlier).1, fun polled => (ticks u earlier).2 ?_⟩
        exact Nat.le_trans (Nat.le_succ _) polled
      · rw [List.mem_singleton.mp last]
        exact ⟨rfl, fun polled => polled⟩

theorem run_ticked_exec {T : Type} {base : TimeBase T} {s₀ s : SntpClient T}
    {ts : List (Transition (SntpClient T) SntpEvent)} (run : Run (sntpStep base) s₀ ts s) {n : Nat}
    {es : List SntpEvent} {result : List (Transition (SntpClient T) SntpEvent) × SntpClient T}
    (done : exec (sntpStep base) (s.ticked n) es = some result) (polled : Polled (s.ticked n)) :
    ∃ us, Run (sntpStep base) s₀ (ts ++ us ++ result.1) result.2 ∧
      ∀ u ∈ us, surplus u = false ∧ Polled u.target := by
  obtain ⟨us, before, ticks⟩ := run_ticked run n
  exact ⟨us, before.append_exec done,
    fun u member => ⟨(ticks u member).1, (ticks u member).2 polled⟩⟩

def firstRequest : List SntpEvent :=
  [.sntpInit 0, .sysCheckTimeouts, .nextExpired, .callHandler ⟨errOk, 1, true, false⟩]

/-- The end of a check, and another that calls five handlers. -/
def nextCheck : List SntpEvent :=
  .nextExpired :: .sysCheckTimeouts ::
    (List.replicate 5 [.nextExpired, .callHandler ⟨errOk, 1, true, false⟩]).flatten

/-- Two requests without an answer between them, 15 s before each of two checks. -/
def twoRequests : Option (List (List (Transition (SntpClient UInt32) SntpEvent) ×
    SntpClient UInt32)) := do
  let requested ← sntpExec wrapping 4294967000 ⟨0, false⟩ firstRequest
  let retried ← exec (sntpStep wrapping) (requested.2.ticked 15000) nextCheck
  let again ← exec (sntpStep wrapping) (retried.2.ticked 15000) nextCheck
  some [requested, retried, again]

/-- The bound is reached. -/
theorem requests_apart_twoRequests : ∃ t u : Transition (SntpClient UInt32) SntpEvent,
    u.source.timeouts.timeNow = 4294997000 ∧
      t.source.timeouts.timeNow + 30000 ≤ u.source.timeouts.timeNow := by
  have facts : twoRequests.map (fun results => decide (
      results.all (fun result => result.1.all fun t => decide (Polled t.target) && !surplus t) = true ∧
      results.all (fun result => decide (Polled (result.2.ticked 15000))) = true ∧
      results.map (fun result => result.1.getLast?.map fun t =>
        (t.source.timeouts.timeNow, (sntpSent wrapping t.source t.event).length)) =
        [some (4294967000, 1), some (4294982000, 0), some (4294997000, 1)])) = some true := by
    decide +kernel
  obtain ⟨results, done, facts⟩ := Option.map_eq_some_iff.mp facts
  rw [twoRequests] at done
  obtain ⟨requested, first, done⟩ := Option.bind_eq_some_iff.mp done
  obtain ⟨retried, second, done⟩ := Option.bind_eq_some_iff.mp done
  obtain ⟨again, third, equal⟩ := Option.bind_eq_some_iff.mp done
  cases equal
  simp only [List.all_cons, List.all_nil, Bool.and_true, Bool.and_eq_true, List.all_eq_true,
    decide_eq_true_eq, Bool.not_eq_true', List.map_cons, List.map_nil, List.cons.injEq] at facts
  obtain ⟨⟨steps₁, steps₂, steps₃⟩, ⟨waits₁, waits₂, _⟩, sent₁, _, sent₃, _⟩ := facts
  obtain ⟨t, lastOf₁, requests₁⟩ := Option.map_eq_some_iff.mp sent₁
  obtain ⟨u, lastOf₃, requests₃⟩ := Option.map_eq_some_iff.mp sent₃
  rw [sntpExec] at first
  obtain ⟨s₀, booted, ran⟩ := Option.bind_eq_some_iff.mp first
  obtain ⟨ticks₁, run, ticked₁⟩ := run_ticked_exec (.of_exec ran) second waits₁
  obtain ⟨ticks₂, run, ticked₂⟩ := run_ticked_exec run third waits₂
  obtain ⟨pre, split₁⟩ := List.getLast?_eq_some_iff.mp lastOf₁
  obtain ⟨mid, split₃⟩ := List.getLast?_eq_some_iff.mp lastOf₃
  have every : ∀ v ∈ requested.1 ++ ticks₁ ++ retried.1 ++ ticks₂ ++ again.1,
      surplus v = false ∧ Polled v.target := by
    intro v member
    simp only [List.mem_append] at member
    rcases member with (((first | tick) | second) | tick) | third
    · exact (steps₁ v first).symm
    · exact ticked₁ v tick
    · exact (steps₂ v second).symm
    · exact ticked₂ v tick
    · exact (steps₃ v third).symm
  have whole : requested.1 ++ ticks₁ ++ retried.1 ++ ticks₂ ++ again.1 =
      pre ++ t :: (ticks₁ ++ retried.1 ++ ticks₂ ++ mid ++ u :: []) := by
    simp [split₁, split₃]
  rw [whole] at run every
  obtain ⟨time₁, one₁⟩ := Prod.mk.inj requests₁
  obtain ⟨time₃, one₃⟩ := Prod.mk.inj requests₃
  refine ⟨t, u, time₃, requests_apart booted run (fun v member => (every v member).2)
    (fun v member => (every v member).1) ?_ ?_⟩
  · exact List.ne_nil_of_length_pos (Nat.lt_of_lt_of_eq Nat.one_pos one₁.symm)
  · exact List.ne_nil_of_length_pos (Nat.lt_of_lt_of_eq Nat.one_pos one₃.symm)

end EpaperClock
