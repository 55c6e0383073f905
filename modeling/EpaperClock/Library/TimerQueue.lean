import Mathlib.Algebra.GroupWithZero.Nat
import Mathlib.Data.List.Basic
import Mathlib.Tactic.Common

/-! Queues of one-shot timers, the next one first, on a clock that may wrap.

The operations are written over what a clock shows of an instant. Under `exact` it shows the
instant, under `wrapping` its residue; `Faithful` says where the two agree. -/
namespace TimerQueue

/-- What a clock shows, and how the times that it shows are compared. -/
structure TimeBase (T : Type) where
  stamp : Nat → T
  after : T → Nat → T
  before : T → T → Bool
  after_stamp : ∀ instant delay, after (stamp instant) delay = stamp (instant + delay)

def exact : TimeBase Nat where
  stamp instant := instant
  after time delay := time + delay
  before time other := time < other
  after_stamp _ _ := rfl

/-- A 32-bit counter; of two times within half a turn, the earlier is before the later. -/
def wrapping : TimeBase UInt32 where
  stamp := UInt32.ofNat
  after time delay := time + UInt32.ofNat delay
  before time other := time - other > 0x7fffffff
  after_stamp instant delay := (UInt32.ofNat_add instant delay).symm

structure Timer (T H : Type) where
  time : T
  handler : H
  deriving DecidableEq, Repr

variable {T H : Type}

/-- Times from `low` to `high` are compared as the instants are. -/
def Faithful (base : TimeBase T) (low high : Nat) : Prop :=
  ∀ a b, low ≤ a → a ≤ high → low ≤ b → b ≤ high →
    base.before (base.stamp a) (base.stamp b) = decide (a < b)

theorem faithful_wrapping {low high : Nat} (window : high < low + 2 ^ 31) :
    Faithful wrapping low high := by
  intro a b lowA highA lowB highB
  have difference : (UInt32.ofNat a - UInt32.ofNat b).toNat =
      (2 ^ 32 - b % 2 ^ 32 + a % 2 ^ 32) % 2 ^ 32 := by
    simp [UInt32.toNat_sub]
  simp only [wrapping, gt_iff_lt, UInt32.lt_iff_toNat_lt, difference, decide_eq_decide]
  have half : (0x7fffffff : UInt32).toNat = 0x7fffffff := rfl
  rw [half]
  omega

/-- Put a timer in front of the first one that is due later. -/
def insert (base : TimeBase T) (timer : Timer T H) : List (Timer T H) → List (Timer T H)
  | [] => [timer]
  | next :: queue =>
    if base.before timer.time next.time then timer :: next :: queue
    else next :: insert base timer queue

/-- Take the first timer of a handler out. -/
def cancel [DecidableEq H] (handler : H) (queue : List (Timer T H)) : List (Timer T H) :=
  queue.eraseP (·.handler = handler)

/-- How many timers will call the handler. -/
def pending [DecidableEq H] (handler : H) (queue : List (Timer T H)) : Nat :=
  queue.countP (·.handler = handler)

/-! ### Counting -/

theorem mem_insert {base : TimeBase T} {timer other : Timer T H} {queue : List (Timer T H)} :
    other ∈ insert base timer queue ↔ other = timer ∨ other ∈ queue := by
  induction queue with
  | nil => simp [insert]
  | cons next queue ih =>
    rw [insert]
    split
    · exact List.mem_cons
    · simp only [List.mem_cons, ih]
      exact or_left_comm

theorem perm_insert (base : TimeBase T) (timer : Timer T H) (queue : List (Timer T H)) :
    (insert base timer queue).Perm (timer :: queue) := by
  induction queue with
  | nil => exact .refl _
  | cons next queue ih =>
    rw [insert]
    split
    · exact .refl _
    · exact (ih.cons next).trans (.swap timer next queue)

@[simp] theorem length_insert (base : TimeBase T) (timer : Timer T H) (queue : List (Timer T H)) :
    (insert base timer queue).length = queue.length + 1 :=
  (perm_insert base timer queue).length_eq

section Handlers

variable [DecidableEq H]

@[simp] theorem pending_nil (handler : H) : pending handler ([] : List (Timer T H)) = 0 := rfl

@[simp] theorem pending_insert (base : TimeBase T) (timer : Timer T H) (handler : H)
    (queue : List (Timer T H)) : pending handler (insert base timer queue) =
      pending handler queue + if timer.handler = handler then 1 else 0 := by
  rw [pending, (perm_insert base timer queue).countP_eq, List.countP_cons]
  simp only [decide_eq_true_eq, pending]

@[simp] theorem pending_cons (timer : Timer T H) (handler : H) (queue : List (Timer T H)) :
    pending handler (timer :: queue) =
      pending handler queue + if timer.handler = handler then 1 else 0 := by
  simp only [pending, List.countP_cons, decide_eq_true_eq]

theorem pending_cancel_same (handler : H) (queue : List (Timer T H)) :
    pending handler (cancel handler queue) = pending handler queue - 1 := by
  induction queue with
  | nil => rfl
  | cons next queue ih =>
    by_cases found : next.handler = handler
    · simp [cancel, pending, found]
    · have later : cancel handler (next :: queue) = next :: cancel handler queue := by
        simp [cancel, found]
      rw [later, pending_cons, pending_cons, ih, if_neg found, Nat.add_zero, Nat.add_zero]

theorem pending_cancel_other {handler other : H} (differ : handler ≠ other)
    (queue : List (Timer T H)) : pending other (cancel handler queue) = pending other queue := by
  induction queue with
  | nil => rfl
  | cons next queue ih =>
    by_cases found : next.handler = handler
    · simp [cancel, pending, found, differ]
    · have later : cancel handler (next :: queue) = next :: cancel handler queue := by
        simp [cancel, found]
      rw [later, pending_cons, pending_cons, ih]

end Handlers

/-! ### Order -/

/-- Whatever is due earlier stands in front. -/
def Ordered (queue : List (Timer Nat H)) : Prop := queue.Pairwise fun a b => a.time ≤ b.time

theorem Ordered.insert {queue : List (Timer Nat H)} (ordered : Ordered queue) (timer : Timer Nat H) :
    Ordered (insert exact timer queue) := by
  induction queue with
  | nil => exact List.pairwise_singleton _ _
  | cons next queue ih =>
    obtain ⟨first, rest⟩ := List.pairwise_cons.mp ordered
    rw [TimerQueue.insert]
    split
    next earlier =>
      have due : timer.time < next.time := of_decide_eq_true earlier
      refine List.pairwise_cons.mpr ⟨?_, ordered⟩
      intro other member
      rcases List.mem_cons.mp member with rfl | behind
      · exact Nat.le_of_lt due
      · exact Nat.le_trans (Nat.le_of_lt due) (first other behind)
    next later =>
      have due : next.time ≤ timer.time := Nat.le_of_not_lt fun earlier => later (decide_eq_true earlier)
      refine List.pairwise_cons.mpr ⟨?_, ih rest⟩
      intro other member
      rcases mem_insert.mp member with rfl | behind
      · exact due
      · exact first other behind

theorem Ordered.cancel [DecidableEq H] {queue : List (Timer Nat H)} (ordered : Ordered queue)
    (handler : H) : Ordered (cancel handler queue) :=
  List.Pairwise.sublist List.eraseP_sublist ordered

/-! ### The queue that a clock shows -/

def Timer.stamped (base : TimeBase T) (timer : Timer Nat H) : Timer T H :=
  ⟨base.stamp timer.time, timer.handler⟩

/-- All timers are due from `low` to `high`. -/
def Spans (low high : Nat) (queue : List (Timer Nat H)) : Prop :=
  ∀ timer ∈ queue, low ≤ timer.time ∧ timer.time ≤ high

/-- Where the clock is faithful, the queue is kept as it would be without it. -/
theorem insert_stamped {base : TimeBase T} {low high : Nat} (faithful : Faithful base low high)
    (timer : Timer Nat H) {queue : List (Timer Nat H)} (spans : Spans low high (timer :: queue)) :
    insert base (timer.stamped base) (queue.map (·.stamped base)) =
      (insert exact timer queue).map (·.stamped base) := by
  induction queue with
  | nil => rfl
  | cons next queue ih =>
    obtain ⟨own, others⟩ := List.forall_mem_cons.mp spans
    obtain ⟨first, behind⟩ := List.forall_mem_cons.mp others
    have compared : base.before (timer.stamped base).time (next.stamped base).time =
        exact.before timer.time next.time :=
      faithful timer.time next.time own.1 own.2 first.1 first.2
    rw [List.map_cons, insert, insert, compared]
    split
    · rfl
    · rw [List.map_cons, ih (List.forall_mem_cons.mpr ⟨own, behind⟩)]

theorem cancel_stamped [DecidableEq H] (base : TimeBase T) (handler : H)
    (queue : List (Timer Nat H)) : cancel handler (queue.map (·.stamped base)) =
      (cancel handler queue).map (·.stamped base) := by
  rw [cancel, List.eraseP_map]
  rfl

end TimerQueue
