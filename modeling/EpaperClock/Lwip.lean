import Mathlib.Algebra.GroupWithZero.Nat
import Mathlib.Data.Fintype.Basic
import Mathlib.Logic.Function.Basic

/-! The part of lwIP's TCP core that the weather request uses, `lwip/src/core/tcp.c`
and `tcp_out.c`.

A failing (`none`) result is an access to a block that is not allocated. What the
network decides is an argument. -/
namespace EpaperClock

abbrev ErrT := Int

abbrev errOk : ErrT := 0
abbrev errMem : ErrT := -1
abbrev errBuf : ErrT := -2
abbrev errRte : ErrT := -4
abbrev errInprogress : ErrT := -5
abbrev errVal : ErrT := -6
abbrev errIsconn : ErrT := -10
abbrev errConn : ErrT := -11
abbrev errArg : ErrT := -16

abbrev Ip4Addr := UInt32

inductive TcpState where
  | closed
  | listen
  | synSent
  | synRcvd
  | established
  | finWait1
  | finWait2
  | closeWait
  | closing
  | lastAck
  | timeWait
  deriving DecidableEq, Repr

structure TcpPcb where
  state : TcpState
  remoteIp : Ip4Addr
  deriving DecidableEq, Repr

/-- `MEMP_NUM_TCP_PCB`. -/
abbrev mempNumTcpPcb : Nat := 10

instance neZero_mempNumTcpPcb : NeZero mempNumTcpPcb := ⟨Nat.succ_ne_zero 9⟩

abbrev Block := Fin mempNumTcpPcb

/-- The memory pool of control blocks; a free block is `none`. -/
abbrev Pool := Block → Option TcpPcb

namespace Pool

def state (pool : Pool) (b : Block) : Option TcpState := (pool b).map TcpPcb.state

/-- On one of lwIP's lists: `tcp_connect` leaves `CLOSED` and registers in one step. -/
def Listed (pool : Pool) (b : Block) : Prop := pool.state b ∉ [none, some .closed]

instance (pool : Pool) (b : Block) : Decidable (pool.Listed b) :=
  inferInstanceAs (Decidable (_ ∉ _))

/-- Allocated, but on no list: lwIP will never touch the block. -/
def Unlisted (pool : Pool) (b : Block) : Prop := pool.state b = some .closed

instance (pool : Pool) (b : Block) : Decidable (pool.Unlisted b) :=
  inferInstanceAs (Decidable (pool.state b = some .closed))

theorem Listed.not_unlisted {pool : Pool} {b : Block} (listed : pool.Listed b) :
    ¬pool.Unlisted b := by
  intro unlisted
  exact listed (by rw [show pool.state b = some .closed from unlisted]; simp)

theorem Listed.allocated {pool : Pool} {b : Block} (listed : pool.Listed b) :
    ∃ pcb, pool b = some pcb ∧ pcb.state ≠ .closed := by
  cases stored : pool b with
  | none => exact absurd (by simp [state, stored]) listed
  | some pcb =>
    refine ⟨pcb, rfl, fun closed => listed ?_⟩
    simp [state, stored, closed]

def Full (pool : Pool) : Prop := ∀ b, pool b ≠ none

instance (pool : Pool) : Decidable pool.Full := inferInstanceAs (Decidable (∀ b, pool b ≠ none))

/-- The blocks that `tcp_alloc` may kill. `tcp_kill_prio` finds no block of lower
priority, as every block here comes from `tcp_new`. -/
def Reclaimable (pool : Pool) (b : Block) : Prop :=
  pool.state b ∈ [some .timeWait, some .lastAck, some .closing]

instance (pool : Pool) (b : Block) : Decidable (pool.Reclaimable b) :=
  inferInstanceAs (Decidable (_ ∈ _))

def set (pool : Pool) (b : Block) (pcb : Option TcpPcb) : Pool := Function.update pool b pcb

theorem state_set (pool : Pool) (b c : Block) (pcb : Option TcpPcb) :
    (pool.set b pcb).state c = if c = b then pcb.map TcpPcb.state else pool.state c := by
  simp only [state, set, Function.update_apply]
  split <;> rfl

@[simp] theorem set_same (pool : Pool) (b : Block) (pcb : Option TcpPcb) :
    pool.set b pcb b = pcb :=
  Function.update_self ..

@[simp] theorem set_set (pool : Pool) (b : Block) (first second : Option TcpPcb) :
    (pool.set b first).set b second = pool.set b second :=
  Function.update_idem ..

theorem unlisted_set {pool : Pool} {b : Block} {pcb : Option TcpPcb}
    (other : pcb.map TcpPcb.state ≠ some .closed) (unlisted : ¬pool.Unlisted b) (c : Block) :
    (pool.set b pcb).Unlisted c ↔ pool.Unlisted c := by
  simp only [Unlisted, state_set] at *
  split
  next same => subst same; exact iff_of_false other unlisted
  next => rfl

end Pool

/-- How `tcp_alloc` finds a block. -/
inductive TcpAlloc where
  -- a free block of the pool
  | free (b : Block)
  -- a block whose connection is killed first
  | reclaimed (b : Block)
  | null
  deriving DecidableEq, Repr

def TcpAlloc.block : TcpAlloc → Option Block
  | free b => some b
  | reclaimed b => some b
  | null => none

/-- `tcp_handle_closepend` moves blocks between lists only; a `tcpInput` step before the
allocation stands for it. -/
def TcpAlloc.Possible (pool : Pool) : TcpAlloc → Prop
  | free b => pool b = none
  | reclaimed b => pool.Full ∧ pool.Reclaimable b
  | null => pool.Full ∧ ∀ b, ¬pool.Reclaimable b

instance (pool : Pool) : (alloc : TcpAlloc) → Decidable (alloc.Possible pool)
  | .free b => inferInstanceAs (Decidable (pool b = none))
  | .reclaimed b => inferInstanceAs (Decidable (pool.Full ∧ pool.Reclaimable b))
  | .null => inferInstanceAs (Decidable (pool.Full ∧ ∀ b, ¬pool.Reclaimable b))

/-- `tcp_new`. -/
def tcpNew (pool : Pool) (alloc : TcpAlloc) : Pool × Option Block :=
  match alloc.block with
  | some b => (pool.set b (some ⟨.closed, 0⟩), some b)
  | none => (pool, none)

/-- What decides `tcp_connect` on a new block. -/
structure ConnectOutcome where
  -- `ip_route` finds an interface
  route : Bool
  -- the interface has an address
  localIp : Bool
  -- `tcp_new_port` finds a port
  localPort : Bool
  enqueueFlags : ErrT
  deriving DecidableEq, Repr

/-- `tcp_connect`. -/
def tcpConnect (pool : Pool) (pcb : Option Block) (ipaddr : Ip4Addr) (outcome : ConnectOutcome) :
    Option (Pool × ErrT) :=
  match pcb with
  | none => some (pool, errArg)
  | some b => do
    let block ← pool b
    if block.state ≠ .closed then some (pool, errIsconn)
    else
      let pool := pool.set b (some { block with remoteIp := ipaddr })
      if ¬outcome.route then some (pool, errRte)
      else if ¬outcome.localIp then some (pool, errRte)
      else if ¬outcome.localPort then some (pool, errBuf)
      else if outcome.enqueueFlags = errOk then
        -- `TCP_REG_ACTIVE` only here
        some (pool.set b (some { block with remoteIp := ipaddr, state := .synSent }), errOk)
      else some (pool, outcome.enqueueFlags)

/-- `tcp_write`; `outcome` is its result once the state of the block allows sending. -/
def tcpWrite (pool : Pool) (pcb : Option Block) (outcome : ErrT) : Option ErrT :=
  match pcb with
  | none => some errArg
  | some b => do
    let block ← pool b
    if block.state ∉ [.established, .closeWait, .synSent, .synRcvd] then some errConn
    else some outcome

/-- `tcp_close`; `unread` says that received data was not acknowledged by `tcp_recved`. -/
def tcpClose (pool : Pool) (b : Block) (unread : Bool) (sendFin : ErrT) : Option Pool := do
  let block ← pool b
  if unread ∧ block.state ∈ [.established, .closeWait] then some (pool.set b none)
  else
    match block.state with
    | .closed | .listen | .synSent => some (pool.set b none)
    | .synRcvd | .established =>
      some (if sendFin = errOk then pool.set b (some { block with state := .finWait1 }) else pool)
    | .closeWait =>
      some (if sendFin = errOk then pool.set b (some { block with state := .lastAck }) else pool)
    -- already closed
    | _ => some pool

def ConnectOutcome.succeeds (outcome : ConnectOutcome) : Bool :=
  outcome.route && outcome.localIp && outcome.localPort && outcome.enqueueFlags = errOk

/-- On a new block `tcp_connect` stores the address, and it registers the block exactly
when it returns `ERR_OK`. -/
theorem tcpConnect_tcpNew (pool : Pool) (alloc : TcpAlloc) (b : Block) (ipaddr : Ip4Addr)
    (outcome : ConnectOutcome) (allocated : alloc.block = some b) :
    ∃ result, (result = errOk ↔ outcome.succeeds = true) ∧
      tcpConnect (tcpNew pool alloc).1 (tcpNew pool alloc).2 ipaddr outcome =
        some (pool.set b (some ⟨if outcome.succeeds then .synSent else .closed, ipaddr⟩), result) := by
  obtain ⟨route, localIp, localPort, enqueueFlags⟩ := outcome
  simp only [tcpNew, allocated, tcpConnect, Pool.set_same, Pool.set_set, ConnectOutcome.succeeds,
    Option.bind_eq_bind, Option.bind_some]
  cases route
  · exact ⟨errRte, by simp, rfl⟩
  cases localIp
  · exact ⟨errRte, by simp, rfl⟩
  cases localPort
  · exact ⟨errBuf, by simp, rfl⟩
  by_cases enqueued : enqueueFlags = errOk
  · exact ⟨errOk, by simp [enqueued], by simp [enqueued]⟩
  · exact ⟨enqueueFlags, by simp [enqueued], by simp [enqueued]⟩

/-- Closing a listed block never makes it unlisted. -/
theorem tcpClose_state {pool pool' : Pool} {b : Block} {unread : Bool} {sendFin : ErrT}
    (listed : pool.Listed b) (closed : tcpClose pool b unread sendFin = some pool') :
    ∃ pcb, pool' = pool.set b pcb ∧ pcb.map TcpPcb.state ≠ some .closed := by
  obtain ⟨block, stored, open_⟩ := listed.allocated
  have unchanged : pool = pool.set b (some block) := by
    rw [Pool.set, ← stored, Function.update_eq_self]
  simp only [tcpClose, stored, Option.bind_eq_bind, Option.bind_some] at closed
  split at closed
  · cases closed
    exact ⟨none, rfl, by simp⟩
  -- a block in `SYN_SENT` is freed; elsewhere a FIN moves it on, or it stays as it is
  · cases phase : block.state <;> simp only [phase, Option.some.injEq] at closed
    case closed => exact absurd phase open_
    case listen | synSent => exact ⟨none, closed.symm, by simp⟩
    case synRcvd | established | closeWait =>
      rw [← closed]
      split
      · exact ⟨_, rfl, by simp⟩
      · exact ⟨some block, unchanged, by simp [phase]⟩
    all_goals exact ⟨some block, closed ▸ unchanged, by simp [phase]⟩

end EpaperClock
