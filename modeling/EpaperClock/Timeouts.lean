import EpaperClock.Library.TimerQueue

/-! lwIP's timeouts, `lwip/src/core/timeouts.c`, on the tick counter of `lwip/port/sys_arch.c`.

The clock is a parameter: the program runs on `wrapping`. A failing (`none`) result is an
assertion that does not hold, as `sys_assert` never returns. -/
namespace EpaperClock

open TimerQueue

inductive CyclicTimer where
  | tcpTmr
  | ipReassTmr
  | etharpTmr
  | dhcpCoarseTmr
  | dhcpFineTmr
  | dnsTmr
  deriving DecidableEq, Repr

def CyclicTimer.intervalMs : CyclicTimer → UInt32
  | tcpTmr => 250
  | ipReassTmr => 1000
  | etharpTmr => 1000
  | dhcpCoarseTmr => 60000
  | dhcpFineTmr => 500
  | dnsTmr => 1000

def lwipCyclicTimers : List CyclicTimer :=
  [.tcpTmr, .ipReassTmr, .etharpTmr, .dhcpCoarseTmr, .dhcpFineTmr, .dnsTmr]

/-- The handlers that the program passes to `sys_timeout`, with their argument. -/
inductive TimeoutHandler where
  | lwipCyclicTimer (cyclic : CyclicTimer)
  | tcpipTcpTimer
  | sntpRequest
  -- `sntp_retry`, as there is one server
  | sntpTryNextServer
  deriving DecidableEq, Repr

/-- `LWIP_UINT32_MAX / 4`. -/
abbrev longestTimeout : UInt32 := 0x3fffffff

/-- `MEMP_NUM_SYS_TIMEOUT`. -/
abbrev mempNumSysTimeout : Nat := 10

/-- `timeNow` counts the ticks since power-on; the counter shows a stamp of it. -/
structure Timeouts (T : Type) where
  timeNow : Nat
  nextTimeout : List (Timer T TimeoutHandler)
  currentTimeoutDueTime : T
  tcpipTcpTimerActive : Bool
  deriving DecidableEq, Repr

section Program

variable {T : Type} (base : TimeBase T)

def sysNow (s : Timeouts T) : T := base.stamp s.timeNow

/-- The search of `sys_timeout_abs`, from `t` on. -/
def linkBehind (timeout t : Timer T TimeoutHandler) :
    List (Timer T TimeoutHandler) → List (Timer T TimeoutHandler)
  | [] => [t, timeout]
  | next :: rest =>
    if base.before timeout.time next.time then t :: timeout :: next :: rest
    else t :: linkBehind timeout next rest

def link (timeout : Timer T TimeoutHandler) :
    List (Timer T TimeoutHandler) → List (Timer T TimeoutHandler)
  | [] => [timeout]
  | nextTimeout :: rest =>
    if base.before timeout.time nextTimeout.time then timeout :: nextTimeout :: rest
    else linkBehind base timeout nextTimeout rest

/-- `sys_timeout_abs`. -/
def sysTimeoutAbs (absTime : T) (handler : TimeoutHandler) (s : Timeouts T) : Option (Timeouts T) :=
  if s.nextTimeout.length < mempNumSysTimeout then
    some { s with nextTimeout := link base ⟨absTime, handler⟩ s.nextTimeout }
  -- the pool `MEMP_SYS_TIMEOUT` is empty
  else none

/-- `sys_timeout`. -/
def sysTimeout (msecs : UInt32) (handler : TimeoutHandler) (s : Timeouts T) : Option (Timeouts T) :=
  if msecs ≤ longestTimeout then
    sysTimeoutAbs base (base.after (sysNow base s) msecs.toNat) handler s
  else none

/-- `sys_untimeout`. -/
def sysUntimeout (handler : TimeoutHandler) (s : Timeouts T) : Timeouts T :=
  { s with nextTimeout := cancel handler s.nextTimeout }

/-- `tcpip_tcp_timer`; `pcbs` is `tcp_active_pcbs || tcp_tw_pcbs` after `tcp_tmr`. -/
def tcpipTcpTimer (pcbs : Bool) (s : Timeouts T) : Option (Timeouts T) :=
  if pcbs then sysTimeout base CyclicTimer.tcpTmr.intervalMs .tcpipTcpTimer s
  else some { s with tcpipTcpTimerActive := false }

/-- `tcp_timer_needed`. -/
def tcpTimerNeeded (pcbs : Bool) (s : Timeouts T) : Option (Timeouts T) :=
  if !s.tcpipTcpTimerActive && pcbs then
    sysTimeout base CyclicTimer.tcpTmr.intervalMs .tcpipTcpTimer { s with tcpipTcpTimerActive := true }
  else some s

/-- `lwip_cyclic_timer`, from the return of its handler on. -/
def lwipCyclicTimer (cyclic : CyclicTimer) (s : Timeouts T) : Option (Timeouts T) :=
  let now := sysNow base s
  let nextTimeoutTime := base.after s.currentTimeoutDueTime cyclic.intervalMs.toNat
  if base.before nextTimeoutTime now then
    sysTimeoutAbs base (base.after now cyclic.intervalMs.toNat) (.lwipCyclicTimer cyclic) s
  else sysTimeoutAbs base nextTimeoutTime (.lwipCyclicTimer cyclic) s

/-- `sys_timeouts_init`. -/
def sysTimeoutsInit (s : Timeouts T) : Option (Timeouts T) :=
  -- `tcp_tmr` at index 0 is started on demand
  (lwipCyclicTimers.drop 1).foldlM
    (fun s cyclic => sysTimeout base cyclic.intervalMs (.lwipCyclicTimer cyclic) s) s

/-- A pass of the loop in `sys_check_timeouts`, up to the call of the handler; `none` is
its `return`. -/
def nextExpired (now : T) (s : Timeouts T) : Option (TimeoutHandler × Timeouts T) :=
  match s.nextTimeout with
  | [] => none
  | tmptimeout :: next =>
    if base.before now tmptimeout.time then none
    else some (tmptimeout.handler,
      { s with nextTimeout := next, currentTimeoutDueTime := tmptimeout.time })

end Program

/-! ### What the operations do -/

section Operations

variable {T : Type} {base : TimeBase T} {s s' : Timeouts T} {handler : TimeoutHandler}

theorem linkBehind_eq (timeout t : Timer T TimeoutHandler) (rest : List (Timer T TimeoutHandler)) :
    linkBehind base timeout t rest = t :: insert base timeout rest := by
  induction rest generalizing t with
  | nil => rfl
  | cons next rest ih =>
    rw [linkBehind, TimerQueue.insert, ih]
    split <;> rfl

theorem link_eq (timeout : Timer T TimeoutHandler) (queue : List (Timer T TimeoutHandler)) :
    link base timeout queue = insert base timeout queue := by
  cases queue with
  | nil => rfl
  | cons next rest => rw [link, TimerQueue.insert, linkBehind_eq]

theorem sysTimeoutAbs_eq {absTime : T} (done : sysTimeoutAbs base absTime handler s = some s') :
    s.nextTimeout.length < mempNumSysTimeout ∧
      s' = { s with nextTimeout := insert base ⟨absTime, handler⟩ s.nextTimeout } := by
  simp only [sysTimeoutAbs, link_eq, Option.ite_none_right_eq_some, Option.some.injEq] at done
  exact ⟨done.1, done.2.symm⟩

theorem sysTimeout_eq {msecs : UInt32} (done : sysTimeout base msecs handler s = some s') :
    msecs ≤ longestTimeout ∧ s.nextTimeout.length < mempNumSysTimeout ∧
      s' = { s with
        nextTimeout := insert base ⟨base.stamp (s.timeNow + msecs.toNat), handler⟩ s.nextTimeout } := by
  obtain ⟨short, set⟩ := Option.ite_none_right_eq_some.mp done
  obtain ⟨room, rfl⟩ := sysTimeoutAbs_eq set
  rw [sysNow, base.after_stamp]
  exact ⟨short, room, rfl⟩

/-- A cyclic timer is set again, from the time it was due or, under overload, from now. -/
theorem lwipCyclicTimer_eq {cyclic : CyclicTimer} (done : lwipCyclicTimer base cyclic s = some s') :
    s.nextTimeout.length < mempNumSysTimeout ∧ ∃ time,
      (time = base.after s.currentTimeoutDueTime cyclic.intervalMs.toNat ∧
          base.before time (sysNow base s) = false ∨
        time = base.stamp (s.timeNow + cyclic.intervalMs.toNat)) ∧
      s' = { s with
        nextTimeout := insert base ⟨time, .lwipCyclicTimer cyclic⟩ s.nextTimeout } := by
  rw [lwipCyclicTimer] at done
  split at done
  · obtain ⟨room, rfl⟩ := sysTimeoutAbs_eq done
    exact ⟨room, _, .inr (base.after_stamp _ _), rfl⟩
  next punctual =>
    obtain ⟨room, rfl⟩ := sysTimeoutAbs_eq done
    exact ⟨room, _, .inl ⟨rfl, eq_false_of_ne_true punctual⟩, rfl⟩

theorem tcpipTcpTimer_eq {pcbs : Bool} (done : tcpipTcpTimer base pcbs s = some s') :
    (∃ time, s' = { s with nextTimeout := insert base ⟨time, .tcpipTcpTimer⟩ s.nextTimeout }) ∨
      s' = { s with tcpipTcpTimerActive := false } := by
  rw [tcpipTcpTimer] at done
  split at done
  · obtain ⟨_, _, rfl⟩ := sysTimeout_eq done
    exact .inl ⟨_, rfl⟩
  · cases done
    exact .inr rfl

theorem tcpTimerNeeded_eq {pcbs : Bool} (done : tcpTimerNeeded base pcbs s = some s') :
    (s.tcpipTcpTimerActive = false ∧ ∃ time, s' = { s with
      tcpipTcpTimerActive := true
      nextTimeout := insert base ⟨time, .tcpipTcpTimer⟩ s.nextTimeout }) ∨ s' = s := by
  rw [tcpTimerNeeded] at done
  split at done
  next needed =>
    obtain ⟨_, _, rfl⟩ := sysTimeout_eq done
    have inactive : s.tcpipTcpTimerActive = false := by simp at needed; exact needed.1
    exact .inl ⟨inactive, _, rfl⟩
  next =>
    cases done
    exact .inr rfl

/-- The timer taken is the first, and its time has come. -/
theorem nextExpired_eq_some {now : T} (taken : nextExpired base now s = some (handler, s')) :
    base.before now s'.currentTimeoutDueTime = false ∧
      s.nextTimeout = ⟨s'.currentTimeoutDueTime, handler⟩ :: s'.nextTimeout ∧
      s' = { s with nextTimeout := s'.nextTimeout, currentTimeoutDueTime := s'.currentTimeoutDueTime } := by
  unfold nextExpired at taken
  split at taken
  · cases taken
  next tmptimeout next queued =>
    split at taken
    · cases taken
    next expired =>
      cases taken
      exact ⟨eq_false_of_ne_true expired, queued, rfl⟩

/-- When the check ends, no timer is left whose time had come at its start. -/
theorem nextExpired_eq_none {now : Nat} {s : Timeouts Nat} (ordered : Ordered s.nextTimeout)
    (done : nextExpired exact now s = none) : ∀ timer ∈ s.nextTimeout, now < timer.time := by
  unfold nextExpired at done
  split at done
  next empty => simp [empty]
  next tmptimeout next queued =>
    rw [queued] at ordered ⊢
    split at done
    next early =>
      have first : now < tmptimeout.time := of_decide_eq_true early
      intro timer member
      rcases List.mem_cons.mp member with rfl | behind
      · exact first
      · exact Nat.lt_of_lt_of_le first ((List.pairwise_cons.mp ordered).1 timer behind)
    · cases done

theorem sysTimeout_of_room (base : TimeBase T) (handler : TimeoutHandler) {msecs : UInt32}
    (short : msecs ≤ longestTimeout)
    (room : s.nextTimeout.length < mempNumSysTimeout) :
    sysTimeout base msecs handler s = some { s with
      nextTimeout := insert base ⟨base.stamp (s.timeNow + msecs.toNat), handler⟩ s.nextTimeout } := by
  rw [sysTimeout, if_pos short, sysTimeoutAbs, if_pos room, link_eq, sysNow, base.after_stamp]

theorem intervalMs_le (cyclic : CyclicTimer) : cyclic.intervalMs ≤ longestTimeout := by
  cases cyclic <;> decide

/-- What is set up at the start: the cyclic timers but the first, counted from then. -/
theorem sysTimeoutsInit_eq (empty : s.nextTimeout = []) :
    sysTimeoutsInit base s = some { s with
      nextTimeout := (lwipCyclicTimers.drop 1).foldl (fun queue cyclic =>
        insert base ⟨base.stamp (s.timeNow + cyclic.intervalMs.toNat), .lwipCyclicTimer cyclic⟩
          queue) s.nextTimeout } := by
  have room : s.nextTimeout.length + (lwipCyclicTimers.drop 1).length ≤ mempNumSysTimeout := by
    simp [empty, lwipCyclicTimers, mempNumSysTimeout]
  rw [sysTimeoutsInit]
  clear empty
  generalize lwipCyclicTimers.drop 1 = cyclics at room ⊢
  induction cyclics generalizing s with
  | nil => rfl
  | cons cyclic rest ih =>
    simp only [List.length_cons] at room
    have set := sysTimeout_of_room base (.lwipCyclicTimer cyclic) (intervalMs_le cyclic) (s := s)
      (by omega)
    simp only [List.foldlM_cons, set, List.foldl_cons]
    refine ih ?_
    simp only [length_insert]
    omega

end Operations

/-! ### The instants behind the counter -/

/-- What the counter shows of a state that keeps the instants. -/
def Timeouts.shown {T : Type} (base : TimeBase T) (s : Timeouts Nat) : Timeouts T where
  timeNow := s.timeNow
  nextTimeout := s.nextTimeout.map (·.stamped base)
  currentTimeoutDueTime := base.stamp s.currentTimeoutDueTime
  tcpipTcpTimerActive := s.tcpipTcpTimerActive

@[simp] theorem Timeouts.shown_timeNow {T : Type} (base : TimeBase T) (s : Timeouts Nat) :
    (s.shown base).timeNow = s.timeNow := rfl

@[simp] theorem Timeouts.shown_currentTimeoutDueTime {T : Type} (base : TimeBase T)
    (s : Timeouts Nat) :
    (s.shown base).currentTimeoutDueTime = base.stamp s.currentTimeoutDueTime := rfl

@[simp] theorem Timeouts.shown_tcpipTcpTimerActive {T : Type} (base : TimeBase T)
    (s : Timeouts Nat) : (s.shown base).tcpipTcpTimerActive = s.tcpipTcpTimerActive := rfl

/-- The timers stand in order, none due before `low` or later than `sys_timeout` allows. -/
structure InWindow (low : Nat) (s : Timeouts Nat) : Prop where
  started : low ≤ s.timeNow
  ordered : Ordered s.nextTimeout
  spans : Spans low (s.timeNow + longestTimeout.toNat) s.nextTimeout

namespace InWindow

variable {low : Nat} {s s' : Timeouts Nat} {handler : TimeoutHandler}

theorem tick (window : InWindow low s) : InWindow low { s with timeNow := s.timeNow + 1 } where
  started := Nat.le_succ_of_le window.started
  ordered := window.ordered
  spans := by
    intro timer member
    have ⟨lower, upper⟩ := window.spans timer member
    exact ⟨lower, by simp only at *; omega⟩

/-- The window may follow the timers. -/
theorem advance (window : InWindow low s) {start : Nat} (started : start ≤ s.timeNow)
    (later : ∀ timer ∈ s.nextTimeout, start ≤ timer.time) : InWindow start s where
  started := started
  ordered := window.ordered
  spans := fun timer member => ⟨later timer member, (window.spans timer member).2⟩

theorem insert (window : InWindow low s) {time : Nat} (lower : low ≤ time)
    (upper : time ≤ s.timeNow + longestTimeout.toNat) :
    InWindow low { s with nextTimeout := insert exact ⟨time, handler⟩ s.nextTimeout } := by
  refine ⟨window.started, window.ordered.insert _, ?_⟩
  intro timer member
  rcases mem_insert.mp member with rfl | queued
  · exact ⟨lower, upper⟩
  · exact window.spans timer queued

theorem sysTimeoutAbs (window : InWindow low s) {absTime : Nat} (lower : low ≤ absTime)
    (upper : absTime ≤ s.timeNow + longestTimeout.toNat)
    (done : sysTimeoutAbs exact absTime handler s = some s') : InWindow low s' := by
  obtain ⟨_, rfl⟩ := sysTimeoutAbs_eq done
  exact window.insert lower upper

theorem sysTimeout (window : InWindow low s) {msecs : UInt32}
    (done : sysTimeout exact msecs handler s = some s') : InWindow low s' := by
  obtain ⟨short, set⟩ := Option.ite_none_right_eq_some.mp done
  refine window.sysTimeoutAbs (Nat.le_trans window.started (Nat.le_add_right _ _)) ?_ set
  exact Nat.add_le_add_left (UInt32.le_iff_toNat_le.mp short) _

theorem sysUntimeout (window : InWindow low s) (handler : TimeoutHandler) :
    InWindow low (sysUntimeout handler s) where
  started := window.started
  ordered := window.ordered.cancel handler
  spans := fun timer member => window.spans timer (List.mem_of_mem_eraseP member)

theorem tcpipTcpTimer (window : InWindow low s) {pcbs : Bool}
    (done : tcpipTcpTimer exact pcbs s = some s') : InWindow low s' := by
  rw [EpaperClock.tcpipTcpTimer] at done
  split at done
  · exact window.sysTimeout done
  · cases done
    exact ⟨window.started, window.ordered, window.spans⟩

theorem tcpTimerNeeded (window : InWindow low s) {pcbs : Bool}
    (done : tcpTimerNeeded exact pcbs s = some s') : InWindow low s' := by
  rw [EpaperClock.tcpTimerNeeded] at done
  split at done
  next =>
    have active : InWindow low { s with tcpipTcpTimerActive := true } :=
      ⟨window.started, window.ordered, window.spans⟩
    exact active.sysTimeout done
  next =>
    cases done
    exact window

/-- A cyclic timer stays in the window as it was due within it. -/
theorem lwipCyclicTimer (window : InWindow low s) {cyclic : CyclicTimer}
    (lower : low ≤ s.currentTimeoutDueTime) (upper : s.currentTimeoutDueTime ≤ s.timeNow)
    (done : lwipCyclicTimer exact cyclic s = some s') : InWindow low s' := by
  have interval := UInt32.le_iff_toNat_le.mp (intervalMs_le cyclic)
  have started := window.started
  rw [EpaperClock.lwipCyclicTimer] at done
  split at done
  · refine window.sysTimeoutAbs ?_ ?_ done <;> simp only [exact, sysNow] <;> omega
  · refine window.sysTimeoutAbs ?_ ?_ done <;> simp only [exact] <;> omega

theorem sysTimeoutsInit (window : InWindow low s) (done : sysTimeoutsInit exact s = some s') :
    InWindow low s' := by
  rw [EpaperClock.sysTimeoutsInit] at done
  generalize lwipCyclicTimers.drop 1 = cyclics at done
  induction cyclics generalizing s with
  | nil =>
    cases done
    exact window
  | cons cyclic rest ih =>
    obtain ⟨armed, set, done⟩ := Option.bind_eq_some_iff.mp done
    exact ih (window.sysTimeout set) done

/-! What the counter shows is what the same operation makes of what it showed before. -/

variable {T : Type} {base : TimeBase T}

theorem sysTimeoutAbs_shown (window : InWindow low s) (handler : TimeoutHandler) {absTime : Nat} (lower : low ≤ absTime)
    (upper : absTime ≤ s.timeNow + longestTimeout.toNat)
    (faithful : Faithful base low (s.timeNow + longestTimeout.toNat)) :
    EpaperClock.sysTimeoutAbs base (base.stamp absTime) handler (s.shown base) =
      (EpaperClock.sysTimeoutAbs exact absTime handler s).map (·.shown base) := by
  have linked := insert_stamped faithful ⟨absTime, handler⟩
    (List.forall_mem_cons.mpr ⟨⟨lower, upper⟩, window.spans⟩)
  simp only [EpaperClock.sysTimeoutAbs, link_eq, Timeouts.shown, List.length_map]
  split
  · exact congrArg some (congrArg (Timeouts.mk _ · _ _) linked)
  · rfl

theorem sysTimeout_shown (window : InWindow low s) (msecs : UInt32) (handler : TimeoutHandler)
    (faithful : Faithful base low (s.timeNow + longestTimeout.toNat)) :
    EpaperClock.sysTimeout base msecs handler (s.shown base) =
      (EpaperClock.sysTimeout exact msecs handler s).map (·.shown base) := by
  simp only [EpaperClock.sysTimeout]
  split
  next short =>
    have lower : low ≤ s.timeNow + msecs.toNat := Nat.le_trans window.started (Nat.le_add_right _ _)
    have upper := Nat.add_le_add_left (UInt32.le_iff_toNat_le.mp short) s.timeNow
    have due : base.after (sysNow base (s.shown base)) msecs.toNat =
        base.stamp (s.timeNow + msecs.toNat) := base.after_stamp _ _
    rw [due]
    exact window.sysTimeoutAbs_shown handler lower upper faithful
  next => rfl

theorem sysUntimeout_shown (handler : TimeoutHandler) (s : Timeouts Nat) :
    EpaperClock.sysUntimeout handler (s.shown base) =
      (EpaperClock.sysUntimeout handler s).shown base :=
  congrArg (Timeouts.mk _ · _ _) (cancel_stamped base handler s.nextTimeout)

theorem tcpipTcpTimer_shown (window : InWindow low s) (pcbs : Bool)
    (faithful : Faithful base low (s.timeNow + longestTimeout.toNat)) :
    EpaperClock.tcpipTcpTimer base pcbs (s.shown base) =
      (EpaperClock.tcpipTcpTimer exact pcbs s).map (·.shown base) := by
  simp only [EpaperClock.tcpipTcpTimer]
  split
  · exact window.sysTimeout_shown _ _ faithful
  · rfl

theorem tcpTimerNeeded_shown (window : InWindow low s) (pcbs : Bool)
    (faithful : Faithful base low (s.timeNow + longestTimeout.toNat)) :
    EpaperClock.tcpTimerNeeded base pcbs (s.shown base) =
      (EpaperClock.tcpTimerNeeded exact pcbs s).map (·.shown base) := by
  have active : InWindow low { s with tcpipTcpTimerActive := true } :=
    ⟨window.started, window.ordered, window.spans⟩
  simp only [EpaperClock.tcpTimerNeeded, Timeouts.shown_tcpipTcpTimerActive]
  by_cases needed : (!s.tcpipTcpTimerActive && pcbs) = true
  · simp only [needed, if_true]
    exact active.sysTimeout_shown _ _ faithful
  · simp only [needed]
    rfl

theorem lwipCyclicTimer_shown (window : InWindow low s) (cyclic : CyclicTimer)
    (lower : low ≤ s.currentTimeoutDueTime) (upper : s.currentTimeoutDueTime ≤ s.timeNow)
    (faithful : Faithful base low (s.timeNow + longestTimeout.toNat)) :
    EpaperClock.lwipCyclicTimer base cyclic (s.shown base) =
      (EpaperClock.lwipCyclicTimer exact cyclic s).map (·.shown base) := by
  have interval := UInt32.le_iff_toNat_le.mp (intervalMs_le cyclic)
  have started := window.started
  have compared : base.before (base.stamp (s.currentTimeoutDueTime + cyclic.intervalMs.toNat))
      (base.stamp s.timeNow) = exact.before (exact.after s.currentTimeoutDueTime
        cyclic.intervalMs.toNat) (exact.stamp s.timeNow) :=
    faithful _ _ (by omega) (by omega) started (by omega)
  simp only [EpaperClock.lwipCyclicTimer, sysNow, Timeouts.shown_timeNow,
    Timeouts.shown_currentTimeoutDueTime, base.after_stamp, compared]
  by_cases overload : exact.before (exact.after s.currentTimeoutDueTime
      cyclic.intervalMs.toNat) (exact.stamp s.timeNow) = true
  · have restart : low ≤ s.timeNow + cyclic.intervalMs.toNat := by omega
    simp only [overload, if_true]
    exact window.sysTimeoutAbs_shown _ restart (Nat.add_le_add_left interval _) faithful
  · have punctual : low ≤ s.currentTimeoutDueTime + cyclic.intervalMs.toNat := by omega
    simp only [overload]
    exact window.sysTimeoutAbs_shown _ punctual (Nat.add_le_add upper interval) faithful

theorem sysTimeoutsInit_shown (window : InWindow low s)
    (faithful : Faithful base low (s.timeNow + longestTimeout.toNat)) :
    EpaperClock.sysTimeoutsInit base (s.shown base) =
      (EpaperClock.sysTimeoutsInit exact s).map (·.shown base) := by
  simp only [EpaperClock.sysTimeoutsInit]
  generalize lwipCyclicTimers.drop 1 = cyclics
  induction cyclics generalizing s with
  | nil => rfl
  | cons cyclic rest ih =>
    simp only [List.foldlM_cons, window.sysTimeout_shown cyclic.intervalMs _ faithful]
    cases set : EpaperClock.sysTimeout exact cyclic.intervalMs (.lwipCyclicTimer cyclic) s with
    | none => rfl
    | some armed =>
      have same : armed.timeNow = s.timeNow := by
        obtain ⟨_, _, rfl⟩ := sysTimeout_eq set
        rfl
      rw [← same] at faithful
      exact ih (window.sysTimeout set) faithful

/-- A timer whose time has come is taken from the queue on either clock. -/
theorem nextExpired_shown (window : InWindow low s) {now : Nat} (lower : low ≤ now)
    (upper : now ≤ s.timeNow) (faithful : Faithful base low (s.timeNow + longestTimeout.toNat)) :
    nextExpired base (base.stamp now) (s.shown base) =
      (nextExpired exact now s).map (Prod.map id (·.shown base)) := by
  obtain ⟨timeNow, queue, due, active⟩ := s
  cases queue with
  | nil => rfl
  | cons tmptimeout next =>
    obtain ⟨first, last⟩ := window.spans tmptimeout List.mem_cons_self
    have compared : base.before (base.stamp now) (tmptimeout.stamped base).time =
        exact.before now tmptimeout.time :=
      faithful now tmptimeout.time lower (Nat.le_trans upper (Nat.le_add_right _ _)) first last
    simp only [nextExpired, Timeouts.shown, List.map_cons, compared]
    split <;> rfl

end InWindow

end EpaperClock
