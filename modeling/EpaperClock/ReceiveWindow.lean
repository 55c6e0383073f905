import EpaperClock.Segmentation

/-! The receive window of a weather connection, `lwip/src/core/tcp.c` and `tcp_in.c`.

lwIP lowers the window by every segment it delivers and leaves it to the application to
raise it with `tcp_recved`. -/
namespace EpaperClock

open StepSystem

abbrev tcpMss : Nat := 1500 - 40

/-- `TCP_WND`, of which `TCP_WND_MAX` is a copy here. -/
abbrev tcpWnd : Nat := 2 * tcpMss

/-- What `tcp_recved` makes of `rcv_wnd`, which has 16 bits. -/
def tcpRecved (rcvWnd len : Nat) : Nat :=
  let wnd := (rcvWnd + len) % 2 ^ 16
  if wnd > tcpWnd ∨ wnd < rcvWnd then tcpWnd else wnd

/-- The bytes that an action hands to `tcp_recved`. -/
def RecvAction.recved : RecvAction → Nat
  | tcpClose => 0
  | strncpy _ _ => 0
  | pbufFree => 0

structure Connection where
  rcvWnd : Nat
  -- bytes of the pbufs that the callback accepted, and bytes handed to `tcp_recved`
  consumed : Nat
  credited : Nat
  closed : Bool
  deriving DecidableEq, Repr

/-- A connection that `tcp_connect` has set up. -/
def connected : Connection := ⟨tcpWnd, 0, 0, false⟩

inductive WindowEvent where
  -- `behind` is what the memory holds behind the first payload
  | segment (p : Pbuf) (behind : Bytes)
  -- a FIN, which `tcpRecvCallback` sees as a NULL pbuf
  | fin

def windowStep (c : Connection) : WindowEvent → Option Connection
  | .segment p behind =>
    -- a segment is trimmed to the window
    if p.bytes.length ≤ c.rcvWnd then do
      let (actions, err) ← tcpRecvCallback (some ⟨p.payload ++ behind, p.next⟩)
      let rcvWnd := c.rcvWnd - p.bytes.length
      some { c with
        rcvWnd := actions.foldl (fun wnd action => tcpRecved wnd action.recved) rcvWnd
        consumed := if err = errOk then c.consumed + p.bytes.length else c.consumed
        credited := c.credited + (actions.map RecvAction.recved).sum }
    else none
  | .fin =>
    -- the FIN needs room for its sequence number, which lwIP gives back by itself
    if 0 < c.rcvWnd then do
      let (actions, _) ← tcpRecvCallback none
      some { c with closed := c.closed || decide (.tcpClose ∈ actions) }
    else none

abbrev WindowTransition := Transition Connection WindowEvent

/-- After every call that consumed a pbuf the window is whole again, and it is never shut. -/
structure WindowConserved (ts : List WindowTransition) : Prop where
  restored : ∀ t ∈ ts, ∀ p behind, t.event = .segment p behind →
    t.target.rcvWnd = tcpWnd ∧ t.target.credited = t.target.consumed
  reachable : ∀ t ∈ ts, 0 < t.target.rcvWnd

theorem recved_eq_zero (action : RecvAction) : action.recved = 0 := by
  cases action <;> rfl

theorem tcpRecved_zero {rcvWnd : Nat} (bound : rcvWnd ≤ tcpWnd) : tcpRecved rcvWnd 0 = rcvWnd := by
  have small : rcvWnd % 2 ^ 16 = rcvWnd := Nat.mod_eq_of_lt (Nat.lt_of_le_of_lt bound (by decide))
  simp only [tcpRecved, Nat.add_zero, small]
  rw [if_neg]
  omega

theorem foldl_tcpRecved (actions : List RecvAction) {rcvWnd : Nat} (bound : rcvWnd ≤ tcpWnd) :
    actions.foldl (fun wnd action => tcpRecved wnd action.recved) rcvWnd = rcvWnd := by
  induction actions with
  | nil => rfl
  | cons action rest ih => rw [List.foldl_cons, recved_eq_zero, tcpRecved_zero bound, ih]

theorem sum_recved (actions : List RecvAction) : (actions.map RecvAction.recved).sum = 0 := by
  induction actions with
  | nil => rfl
  | cons action rest ih => rw [List.map_cons, List.sum_cons, recved_eq_zero, ih]

/-- The callback accepts everything. -/
theorem tcpRecvCallback_errOk {p : Option Pbuf} {result : List RecvAction × ErrT}
    (done : tcpRecvCallback p = some result) : result.2 = errOk := by
  cases p with
  | none =>
    cases done
    rfl
  | some p =>
    obtain ⟨equal, _, done⟩ := Option.bind_eq_some_iff.mp done
    split at done
    next =>
      cases done
      rfl
    next =>
      obtain ⟨⟨_, _⟩, _, done⟩ := Option.bind_eq_some_iff.mp done
      obtain ⟨⟨_, _⟩, _, done⟩ := Option.bind_eq_some_iff.mp done
      obtain ⟨⟨_, _⟩, _, done⟩ := Option.bind_eq_some_iff.mp done
      cases done
      rfl

/-- A delivered segment is consumed and lowers the window for good. -/
theorem windowStep_segment {c c' : Connection} {p : Pbuf} {behind : Bytes}
    (bound : c.rcvWnd ≤ tcpWnd) (taken : windowStep c (.segment p behind) = some c') :
    p.bytes.length ≤ c.rcvWnd ∧ c'.rcvWnd = c.rcvWnd - p.bytes.length ∧
      c'.consumed = c.consumed + p.bytes.length ∧ c'.credited = c.credited := by
  simp only [windowStep, Option.ite_none_right_eq_some] at taken
  obtain ⟨fits, taken⟩ := taken
  obtain ⟨⟨actions, err⟩, done, taken⟩ := Option.bind_eq_some_iff.mp taken
  cases taken
  refine ⟨fits, foldl_tcpRecved _ (Nat.le_trans (Nat.sub_le _ _) bound), ?_, ?_⟩
  · exact if_pos (tcpRecvCallback_errOk done)
  · change _ + _ = _
    rw [sum_recved, Nat.add_zero]

theorem windowStep_fin {c c' : Connection} (taken : windowStep c .fin = some c') :
    0 < c.rcvWnd ∧ c'.rcvWnd = c.rcvWnd ∧ c'.consumed = c.consumed ∧ c'.credited = c.credited := by
  simp only [windowStep, Option.ite_none_right_eq_some] at taken
  obtain ⟨room, taken⟩ := taken
  obtain ⟨_, _, taken⟩ := Option.bind_eq_some_iff.mp taken
  cases taken
  exact ⟨room, rfl, rfl, rfl⟩

/-- Nothing is ever credited, so what is consumed is what the window has lost. -/
theorem window_of_run {c : Connection} {ts : List WindowTransition}
    (run : Run windowStep connected ts c) : c.rcvWnd + c.consumed = tcpWnd ∧ c.credited = 0 := by
  refine (run.invariant (P := fun c => c.rcvWnd + c.consumed = tcpWnd ∧ c.credited = 0)
    ⟨rfl, rfl⟩ ?_).1
  intro c e c' taken kept
  cases e with
  | segment p behind =>
    obtain ⟨fits, wnd, consumed, credited⟩ := windowStep_segment (by omega) taken
    omega
  | fin =>
    obtain ⟨_, wnd, consumed, credited⟩ := windowStep_fin taken
    omega

/-- Once a whole window has been consumed, neither bytes nor the FIN get through. -/
theorem stalled {c c' : Connection} {ts : List WindowTransition} {e : WindowEvent}
    (run : Run windowStep connected ts c) (full : c.consumed = tcpWnd)
    (taken : windowStep c e = some c') : ∃ p behind, e = .segment p behind ∧ p.bytes = [] := by
  have window := window_of_run run
  cases e with
  | segment p behind =>
    obtain ⟨fits, _⟩ := windowStep_segment (by omega) taken
    exact ⟨p, behind, rfl, List.eq_nil_of_length_eq_zero (by omega)⟩
  | fin =>
    obtain ⟨room, _⟩ := windowStep_fin taken
    omega

/-- The window is conserved exactly in the runs in which no byte is ever delivered. -/
theorem windowConserved_iff_nothing_delivered {c : Connection} {ts : List WindowTransition}
    (run : Run windowStep connected ts c) :
    WindowConserved ts ↔ ∀ t ∈ ts, ∀ p behind, t.event = .segment p behind → p.bytes = [] := by
  constructor
  · intro conserved t member p behind event
    obtain ⟨_, _, before⟩ := run.source_of_mem member
    have taken := run.step_of_mem member
    have window := window_of_run before
    have whole := (conserved.restored t member p behind event).1
    rw [event] at taken
    obtain ⟨fits, lowered, _⟩ := windowStep_segment (by omega) taken
    exact List.eq_nil_of_length_eq_zero (by omega)
  · intro empty
    have untouched := run.guarded_invariant
      (P := fun c => c.rcvWnd = tcpWnd ∧ c.consumed = 0 ∧ c.credited = 0) ⟨rfl, rfl, rfl⟩
      (fun t taken nothing before => by
        obtain ⟨source, event, target⟩ := t
        cases event with
        | segment p behind =>
          have none : p.bytes.length = 0 := by rw [nothing p behind rfl]; rfl
          obtain ⟨_, wnd, consumed, credited⟩ := windowStep_segment (by omega) taken
          omega
        | fin =>
          obtain ⟨_, wnd, consumed, credited⟩ := windowStep_fin taken
          omega) empty
    constructor
    · intro t member p behind _
      obtain ⟨wnd, consumed, credited⟩ := untouched.2 t member
      exact ⟨wnd, credited.trans consumed.symm⟩
    · intro t member
      obtain ⟨wnd, _⟩ := untouched.2 t member
      exact wnd ▸ (by decide)

/-- A page of two full segments that is not a 200. -/
def longPage : List WindowEvent :=
  [.segment ⟨ascii "HTTP/1.1 404" ++ List.replicate 1448 32, []⟩ [],
    .segment ⟨List.replicate 1460 32, []⟩ []]

theorem longPage_shuts_window :
    ¬∀ ts c, Run windowStep connected ts c → WindowConserved ts := by
  intro claim
  have shut : (exec windowStep connected longPage).map (fun r =>
      r.1.length == 2 && r.1.getLast?.all fun t => t.target.rcvWnd == 0) = some true := by
    decide +kernel
  obtain ⟨ts, c, run, found⟩ := exists_run shut
  simp only [Bool.and_eq_true, beq_iff_eq, Option.all_eq_true] at found
  obtain ⟨two, zero⟩ := found
  have nonempty : ts ≠ [] := by
    rintro rfl
    cases two
  have last := List.getLast?_eq_some_getLast nonempty
  have room := (claim ts c run).reachable _ (List.getLast_mem nonempty)
  rw [zero _ last] at room
  exact absurd room (Nat.lt_irrefl 0)

theorem windowConserved_iff_nothing_delivered_longPage : ∃ ts c,
    Run windowStep connected ts c ∧ ts.length = 2 ∧ (WindowConserved ts ↔
      ∀ t ∈ ts, ∀ p behind, t.event = .segment p behind → p.bytes = []) := by
  have ran : (exec windowStep connected longPage).map (fun r => r.1.length == 2) = some true := by
    decide +kernel
  obtain ⟨ts, c, run, found⟩ := exists_run ran
  exact ⟨ts, c, run, by simpa using found, windowConserved_iff_nothing_delivered run⟩

end EpaperClock
