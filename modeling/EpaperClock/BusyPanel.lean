import EpaperClock.Display

/-! Whether the panel is written while it refreshes. -/
namespace EpaperClock

open StepSystem

variable {icons : IconSet} {flash : Nat → UInt8}

/-- A byte is sent while the BUSY pin is asserted. -/
def WritesWhileBusy (t : DisplayTransition) : Prop :=
  t.event = .access ∧ t.source.busy = true ∧
    ∃ byte rest, t.source.sending = .spiWrite byte :: rest

/-- The first command of the refreshes at an hour or at midnight is the next access. -/
def AtBoundary (s : Display) : Prop :=
  s.sending = einkSetRefreshMode .fullRefresh ∨
    s.sending = einkClearFrame ∧ List.replicate 3 .einkDisplayFrameFromSRAMBlocking <+: s.todo

/-- Where a call begins with such a block, the panel is idle. -/
def IdleAtBoundaries (ts : List DisplayTransition) : Prop :=
  ∀ t ∈ ts, t.event = .access → AtBoundary t.source → t.source.busy = false

/-- The BUSY pin is asserted, and was not before. -/
def BusyFalls (t : DisplayTransition) : Prop :=
  t.event = .busyPin true ∧ t.source.busy = false

/-- The running call writes a byte before it reads the BUSY pin again. -/
def writesNext : List EinkOp → List Action → Prop
  | .spiWrite _ :: _, _ => True
  | .waitUntilIdle :: _, _ => False
  | [], [] => False
  | [], action :: rest =>
    -- the push looks at the pin before anything else
    action ≠ .einkDisplayFrameFromBufferNonBlocking ∧ writesNext action.ops rest

def WritesNext (s : Display) : Prop := writesNext s.sending s.todo

/-- The pin falls where the program is going to write, and that is the last the program does
with the panel. -/
def UnreadFall (ts : List DisplayTransition) : Prop :=
  ∃ pre t mid, ts = pre ++ t :: mid ∧ BusyFalls t ∧ WritesNext t.source ∧
    ∀ m ∈ mid, m.event ≠ .access

/-- Whenever the pin has fallen where the program is going to write, it has risen again by the
time of the write. -/
def RisesInTime (ts : List DisplayTransition) : Prop :=
  ∀ pre u post, ts = pre ++ u :: post → UnreadFall pre → u.event = .access → u.source.busy = false

/-- The refresh command is sent. -/
def StartsRefresh (t : DisplayTransition) : Prop :=
  t.event = .access ∧ ∃ byte rest, t.source.sending = .spiWrite byte :: rest ∧ isRefresh byte = true

/-- The pin falls only behind a refresh command, before the program turns to the panel again
and before its next call of `updateData`. -/
def AnswersPromptly (ts : List DisplayTransition) : Prop :=
  ∀ pre t post, ts = pre ++ t :: post → BusyFalls t →
    ∃ first r mid, pre = first ++ r :: mid ∧ StartsRefresh r ∧
      ∀ m ∈ mid, m.event ≠ .access ∧ ∀ call, m.event ≠ .updateData call

/-! ### What the accesses do next -/

theorem AtBoundary.sending {s : Display} (boundary : AtBoundary s) :
    ∃ byte rest, s.sending = .spiWrite byte :: rest := by
  rcases boundary with full | ⟨clear, _⟩
  · exact ⟨_, _, full⟩
  · exact ⟨_, _, clear⟩

theorem writesNext_of_sending {s : Display} {byte : SpiByte} {rest : List EinkOp}
    (writing : s.sending = .spiWrite byte :: rest) : WritesNext s := by
  rw [WritesNext, writing, writesNext]
  trivial

/-- An access in front of a write is the write. -/
theorem WritesNext.sending {s : Display} (next : WritesNext s) (busySending : s.sending ≠ []) :
    ∃ byte rest, s.sending = .spiWrite byte :: rest := by
  cases sending : s.sending with
  | nil => exact absurd sending busySending
  | cons op rest =>
    cases op with
    | spiWrite byte => exact ⟨byte, rest, rfl⟩
    | waitUntilIdle =>
      rw [WritesNext, sending, writesNext] at next
      exact next.elim

theorem beginAction_ops {s s' : Display} {action : Action} (free : s.sending = [])
    (begun : beginAction icons flash s action = some s') :
    s'.todo = s.todo ∧ s'.busy = s.busy ∧ s'.sending =
      if action = .einkDisplayFrameFromBufferNonBlocking then
        if s.busy then [] else frameOps s.frames.imgBuffer s.frames.colorBuffer
      else action.ops := by
  rcases beginAction_cases begun with ⟨panel, rfl⟩ | ⟨timeinfo, call, frames, rfl, _, _, rfl⟩ |
    ⟨rfl, pin, rfl⟩ | ⟨rfl, pin, rfl⟩ | ⟨buffer, rfl, rfl⟩ | ⟨url, rfl, rfl⟩
  · have noPush : action ≠ .einkDisplayFrameFromBufferNonBlocking := by
      rintro rfl
      exact panel rfl
    exact ⟨rfl, rfl, (if_neg noPush).symm⟩
  · exact ⟨rfl, rfl, free⟩
  · exact ⟨rfl, rfl, by simp [pin]⟩
  · exact ⟨rfl, rfl, by simp [pin]⟩
  · exact ⟨rfl, rfl, free⟩
  · exact ⟨rfl, rfl, free⟩

theorem WritesNext.nextAction {s s' : Display} {action : Action} {rest : List Action}
    (writes : WritesNext s) (free : s.sending = []) (next : s.todo = action :: rest)
    (begun : beginAction icons flash { s with todo := rest } action = some s') : WritesNext s' := by
  obtain ⟨todo, _, sending⟩ := beginAction_ops (s := { s with todo := rest }) free begun
  rw [WritesNext, free, next, writesNext] at writes
  rw [if_neg writes.1] at sending
  rw [WritesNext, sending, todo]
  exact writes.2

/-- An action that does not read the pin leaves open what comes next; the push reads it, and
goes on to write if it finds the panel idle. -/
theorem writesNext_of_nextAction {s s' : Display} {action : Action} {rest : List Action}
    (inCall : InCall s) (free : s.sending = []) (next : s.todo = action :: rest)
    (begun : beginAction icons flash { s with todo := rest } action = some s')
    (writes : WritesNext s') :
    WritesNext s ∨ action = .einkDisplayFrameFromBufferNonBlocking ∧ s.busy = false := by
  obtain ⟨todo, _, sending⟩ := beginAction_ops (s := { s with todo := rest }) free begun
  by_cases push : action = .einkDisplayFrameFromBufferNonBlocking
  · subst push
    cases pin : s.busy with
    | false => exact .inr ⟨rfl, rfl⟩
    | true =>
      -- a refused frame is only cleared
      obtain rfl := inCall.rest next rfl
      rw [if_pos rfl, if_pos pin] at sending
      simp [WritesNext, sending, todo, writesNext, Action.ops] at writes
  · rw [if_neg push] at sending
    rw [WritesNext, sending, todo] at writes
    left
    rw [WritesNext, free, next, writesNext]
    exact ⟨push, writes⟩

/-- Only the blocks of the hour and of midnight write before a call has read the pin. -/
theorem updateData_writesNext {rtc : Rtc} (next : writesNext [] (updateData rtc)) :
    ∃ action rest, updateData rtc = action :: rest ∧
      action ≠ .einkDisplayFrameFromBufferNonBlocking ∧
      (action.ops = einkSetRefreshMode .fullRefresh ∨ action.ops = einkClearFrame ∧
        List.replicate 3 .einkDisplayFrameFromSRAMBlocking <+: rest) := by
  have second := updateTimeinfo_tmSec rtc
  revert next
  simp only [updateData]
  split
  next boundary =>
    rw [if_neg (by omega : ¬(updateTimeinfo rtc).tmSec = 30), List.append_nil]
    split
    next => exact fun _ => ⟨_, _, rfl, by simp, .inl rfl⟩
    next =>
      split
      next => exact fun _ => ⟨_, _, rfl, by simp, .inr ⟨rfl, List.prefix_append _ _⟩⟩
      next => simp [writesNext, Action.ops]
  next => split <;> simp [writesNext, Action.ops]

/-! ### Runs -/

/-- The first access of a call is still to be made. -/
def AtCall (s : Display) : Prop :=
  AtBoundary s ∨ s.sending = [] ∧ ∃ rtc, s.todo = updateData rtc

/-- If the panel is busy and the program is going to write, a call has just begun, or the pin has
fallen since the program read it. -/
def Accounted (ts : List DisplayTransition) (s : Display) : Prop :=
  WritesNext s → s.busy = true → AtCall s ∨ UnreadFall ts

theorem UnreadFall.next {ts : List DisplayTransition} (fall : UnreadFall ts) {t : DisplayTransition}
    (noAccess : t.event ≠ .access) : UnreadFall (ts ++ [t]) := by
  obtain ⟨pre, fell, mid, rfl, falls, writes, quiet⟩ := fall
  refine ⟨pre, fell, mid ++ [t], by simp, falls, writes, ?_⟩
  intro m member
  rcases List.mem_append.mp member with earlier | last
  · exact quiet m earlier
  · rw [List.mem_singleton.mp last]
    exact noAccess

/-- A call begins with a reading of the pin, or at the boundary of an hour. -/
theorem AtCall.nextAction {s s' : Display} {action : Action} {rest : List Action}
    (start : AtCall s) (free : s.sending = []) (next : s.todo = action :: rest)
    (writes : WritesNext s)
    (begun : beginAction icons flash { s with todo := rest } action = some s') : AtCall s' := by
  rcases start with boundary | ⟨_, rtc, call⟩
  · obtain ⟨byte, ops, writing⟩ := boundary.sending
    rw [free] at writing
    cases writing
  · rw [WritesNext, free, call] at writes
    obtain ⟨first, others, split, noPush, block⟩ := updateData_writesNext writes
    rw [← call, next, List.cons.injEq] at split
    obtain ⟨rfl, rfl⟩ := split
    obtain ⟨todo, _, sending⟩ := beginAction_ops (s := { s with todo := rest }) free begun
    rw [if_neg noPush] at sending
    left
    rw [AtBoundary, sending, todo]
    exact block

/-- A busy panel is written at the boundary of an hour, or where the pin has fallen. -/
theorem Accounted.write {ts : List DisplayTransition} {s : Display} (accounted : Accounted ts s)
    {byte : SpiByte} {rest : List EinkOp} (writing : s.sending = .spiWrite byte :: rest)
    (pin : s.busy = true) : AtBoundary s ∨ UnreadFall ts := by
  rcases accounted (writesNext_of_sending writing) pin with (boundary | ⟨free, _⟩) | fall
  · exact .inl boundary
  · rw [writing] at free
    cases free
  · exact .inr fall

theorem accounted_step {ts : List DisplayTransition} {s s' : Display} {e : DisplayEvent}
    (taken : displayStep icons flash s e = some s') (inCall : InCall s)
    (idle : e = .access → AtBoundary s ∨ UnreadFall ts → s.busy = false) (accounted : Accounted ts s) :
    Accounted (ts ++ [⟨s, e, s'⟩]) s' := by
  intro writes pin
  rcases displayStep_cases taken with ⟨call, rfl, free, _, rfl⟩ | ⟨action, rest, rfl, free, next, begun⟩ |
    ⟨byte, rest, rfl, writing, rfl⟩ | ⟨rest, rfl, waiting, _, rfl⟩ | ⟨rest, rfl, _, idle, rfl⟩ |
    ⟨asserted, rfl, rfl⟩
  · exact .inl (.inr ⟨free, call.rtc, rfl⟩)
  · -- the next action changes neither the pin nor what is accounted for
    obtain ⟨_, same, _⟩ := beginAction_ops (s := { s with todo := rest }) free begun
    rw [same] at pin
    rcases writesNext_of_nextAction inCall free next begun writes with before | ⟨_, idle⟩
    · rcases accounted before pin with start | fall
      · exact .inl (start.nextAction free next before begun)
      · exact .inr (fall.next nofun)
    · rw [idle] at pin
      cases pin
  · -- a byte is sent, and the pin was free by the hypothesis
    rw [idle rfl (accounted.write writing pin)] at pin
    cases pin
  · rw [WritesNext, waiting, writesNext] at writes
    exact writes.elim
  · -- a wait is over only once the pin is found free
    rw [idle] at pin
    cases pin
  · obtain rfl : asserted = true := pin
    cases before : s.busy with
    | false =>
      -- the fall itself, with nothing behind it yet
      have nothing : ∀ m ∈ ([] : List DisplayTransition), m.event ≠ .access :=
        fun m member => absurd member List.not_mem_nil
      exact .inr ⟨ts, _, [], rfl, ⟨rfl, before⟩, writes, nothing⟩
    | true =>
      rcases accounted writes before with start | fall
      · exact .inl start
      · exact .inr (fall.next nofun)

theorem accounted_of_run {busy : Bool} {ts : List DisplayTransition} {s : Display}
    (run : Run (displayStep icons flash) (displayBoot busy) ts s) (idle : IdleAtBoundaries ts)
    (rises : RisesInTime ts) : InCall s ∧ Accounted ts s := by
  induction run with
  | start => exact ⟨.inl rfl, fun writes => writes.elim⟩
  | @next ts s e s' _ taken ih =>
    obtain ⟨inCall, accounted⟩ := ih
      (fun t member => idle t (List.mem_append_left _ member))
      (fun pre u post split => rises pre u (post ++ [⟨s, e, s'⟩]) (by rw [split]; simp))
    refine ⟨inCall_step taken inCall, accounted_step taken inCall ?_ accounted⟩
    rintro access (boundary | fall)
    · exact idle ⟨s, e, s'⟩ (List.mem_append_right _ List.mem_cons_self) access boundary
    · exact rises ts ⟨s, e, s'⟩ [] rfl fall access

/-- A pin that has fallen unread is read by nothing but the write. -/
theorem UnreadFall.writesNext {s₀ s : Display} {ts : List DisplayTransition}
    (run : Run (displayStep icons flash) s₀ ts s) (fall : UnreadFall ts) : WritesNext s := by
  obtain ⟨pre, t, mid, rfl, ⟨event, _⟩, writes, quiet⟩ := fall
  have fell := run.split.2
  rw [event, displayStep, Option.some.injEq] at fell
  have behind : WritesNext t.target := by
    rw [← fell]
    exact writes
  refine run.since behind ?_ quiet
  -- behind the fall come only actions that leave the panel alone, and the pin
  intro m taken noAccess before
  rcases displayStep_cases taken with ⟨_, _, free, returned, _⟩ | ⟨action, rest, _, free, next, begun⟩ |
    ⟨_, _, access, _, _⟩ | ⟨_, access, _, _, _⟩ | ⟨_, access, _, _, _⟩ | ⟨_, _, same⟩
  · rw [WritesNext, free, returned] at before
    exact before.elim
  · exact before.nextAction free next begun
  · exact absurd access noAccess
  · exact absurd access noAccess
  · exact absurd access noAccess
  · rw [same]
    exact before

/-! ### A panel that answers at once -/

/-- Behind a refresh command the program reads the pin, or has only to clear its buffers. -/
def AfterRefresh (sending : List EinkOp) (todo : List Action) : Prop :=
  (∃ rest, sending = .waitUntilIdle :: rest) ∨
    sending = [] ∧ ∀ action ∈ todo, ∃ buffer, action = .paintClear buffer

/-- Every refresh command that is to be sent is followed so. -/
def RefreshesFollowed (s : Display) : Prop :=
  ∀ before byte behind, s.sending = before ++ .spiWrite byte :: behind → isRefresh byte = true →
    AfterRefresh behind s.todo

theorem AfterRefresh.not_writesNext {s : Display} (follows : AfterRefresh s.sending s.todo) :
    ¬WritesNext s := by
  intro writes
  rcases follows with ⟨rest, waiting⟩ | ⟨free, clears⟩
  · rw [WritesNext, waiting, writesNext] at writes
    exact writes
  · rw [WritesNext, free] at writes
    generalize s.todo = todo at clears writes
    induction todo with
    | nil => exact writes
    | cons action rest ih =>
      obtain ⟨buffer, rfl⟩ := clears action List.mem_cons_self
      exact ih (fun action member => clears action (List.mem_cons_of_mem _ member)) writes.2

theorem RefreshesFollowed.of_quiet {s : Display} (quiet : Quiet s.sending) : RefreshesFollowed s := by
  intro before byte behind split refresh
  have other : isRefresh byte = false := quiet.isRefresh_eq_false (by rw [split]; simp)
  rw [refresh] at other
  cases other

/-- The refresh command of a frame is its last byte. -/
theorem nothing_behind_refresh {ops before behind : List EinkOp} {op : EinkOp} {byte : SpiByte}
    (quiet : Quiet ops) (split : ops ++ [op] = before ++ .spiWrite byte :: behind)
    (refresh : isRefresh byte = true) : behind = [] := by
  rcases List.eq_nil_or_concat behind with rfl | ⟨earlier, last, rfl⟩
  · rfl
  · rw [List.concat_eq_append, ← List.cons_append, ← List.append_assoc] at split
    obtain ⟨rfl, _⟩ := List.append_inj' split rfl
    have other : isRefresh byte = false := quiet.isRefresh_eq_false (by simp)
    rw [refresh] at other
    cases other

theorem Action.ops_quiet (action : Action) :
    Quiet action.ops ∨ action.ops = EpaperClock.einkDisplayFrameFromSRAMBlocking := by
  cases action with
  | einkSetRefreshMode refreshMode => exact .inl (quiet_einkSetRefreshMode refreshMode)
  | einkClearFrame => exact .inl quiet_einkClearFrame
  | einkDisplayFrameFromSRAMBlocking => exact .inr rfl
  | _ => exact .inl nofun

theorem refreshesFollowed_nextAction {s s' : Display} {action : Action} {rest : List Action}
    (inCall : InCall s) (free : s.sending = []) (next : s.todo = action :: rest)
    (begun : beginAction icons flash { s with todo := rest } action = some s') :
    RefreshesFollowed s' := by
  obtain ⟨todo, _, sending⟩ := beginAction_ops (s := { s with todo := rest }) free begun
  by_cases push : action = .einkDisplayFrameFromBufferNonBlocking
  · subst push
    rw [if_pos rfl] at sending
    intro before byte behind split refresh
    right
    cases pin : s.busy with
    | true =>
      rw [if_pos pin] at sending
      rw [sending] at split
      simp at split
    | false =>
      rw [if_neg (by simp [pin]), frameOps] at sending
      rw [sending] at split
      refine ⟨nothing_behind_refresh (quiet_planes _ _) split refresh, ?_⟩
      -- only the buffers are cleared behind a frame
      obtain rfl := inCall.rest next rfl
      intro action member
      rw [todo] at member
      simp only [List.mem_cons, List.not_mem_nil, or_false] at member
      rcases member with rfl | rfl
      · exact ⟨_, rfl⟩
      · exact ⟨_, rfl⟩
  · rw [if_neg push] at sending
    rcases action.ops_quiet with quiet | blocking
    · apply RefreshesFollowed.of_quiet
      rwa [sending]
    · -- the wait stands right behind the command
      intro before byte behind split _
      rw [sending, blocking] at split
      left
      cases before with
      | nil => exact ⟨[], (List.cons.inj split).2.symm⟩
      | cons op before =>
        obtain ⟨_, rest⟩ := List.cons.inj split
        cases before with
        | nil => cases (List.cons.inj rest).1
        | cons _ _ => simp at rest

theorem refreshesFollowed_step {s s' : Display} {e : DisplayEvent}
    (taken : displayStep icons flash s e = some s') (inCall : InCall s)
    (followed : RefreshesFollowed s) : RefreshesFollowed s' := by
  rcases displayStep_cases taken with ⟨call, _, free, _, rfl⟩ | ⟨action, rest, _, free, next, begun⟩ |
    ⟨byte, rest, _, writing, rfl⟩ | ⟨_, _, _, _, rfl⟩ | ⟨rest, _, waiting, _, rfl⟩ | ⟨_, _, rfl⟩
  · exact .of_quiet (by rw [free]; exact nofun)
  · exact refreshesFollowed_nextAction inCall free next begun
  · intro before sent behind split
    exact followed (.spiWrite byte :: before) sent behind (writing.trans (congrArg _ split))
  · exact followed
  · intro before sent behind split
    exact followed (.waitUntilIdle :: before) sent behind (waiting.trans (congrArg _ split))
  · exact followed

theorem afterRefresh_of_startsRefresh {busy : Bool} {pre post : List DisplayTransition}
    {r : DisplayTransition} {s : Display}
    (run : Run (displayStep icons flash) (displayBoot busy) (pre ++ r :: post) s)
    (starts : StartsRefresh r) : AfterRefresh r.target.sending r.target.todo := by
  obtain ⟨before, taken⟩ := run.split
  have boot : RefreshesFollowed (displayBoot busy) := by
    intro first byte behind split refresh
    have quiet := quiet_einkSetRefreshMode .fastRefresh
    cases first with
    | nil => cases (List.cons.inj split).1
    | cons op first =>
      have other : isRefresh byte = false := quiet.isRefresh_eq_false (by
        rw [(List.cons.inj split).2]
        simp)
      rw [refresh] at other
      cases other
  have inv := before.invariant (P := fun s => InCall s ∧ RefreshesFollowed s) ⟨.inl rfl, boot⟩
    (fun taken inv => ⟨inCall_step taken inv.1, refreshesFollowed_step taken inv.1 inv.2⟩)
  obtain ⟨access, byte, rest, writing, refresh⟩ := starts
  rw [access] at taken
  simp only [displayStep, writing, Option.some.injEq] at taken
  rw [← taken]
  exact inv.1.2 [] byte rest writing refresh

/-- Until the program accesses the panel or is called again, it stays so. -/
theorem AfterRefresh.silent {s s' : Display} {e : DisplayEvent}
    (follows : AfterRefresh s.sending s.todo) (taken : displayStep icons flash s e = some s')
    (noAccess : e ≠ .access) (noCall : ∀ call, e ≠ .updateData call) :
    AfterRefresh s'.sending s'.todo := by
  rcases displayStep_cases taken with ⟨call, called, _⟩ | ⟨action, rest, _, free, next, begun⟩ |
    ⟨_, _, access, _⟩ | ⟨_, access, _⟩ | ⟨_, access, _⟩ | ⟨_, _, rfl⟩
  · exact absurd called (noCall call)
  · rcases follows with ⟨_, waiting⟩ | ⟨_, clears⟩
    · rw [free] at waiting
      cases waiting
    · -- a buffer is cleared without the panel
      rw [next] at clears
      obtain ⟨buffer, rfl⟩ := clears action List.mem_cons_self
      rw [beginAction_paintClear, Option.some.injEq] at begun
      obtain rfl := begun
      exact .inr ⟨free, fun action member => clears action (List.mem_cons_of_mem _ member)⟩
  · exact absurd access noAccess
  · exact absurd access noAccess
  · exact absurd access noAccess
  · exact follows

/-- A pin that answers promptly never falls unread. -/
theorem AnswersPromptly.no_unreadFall {busy : Bool} {pre post : List DisplayTransition} {s : Display}
    (prompt : AnswersPromptly (pre ++ post))
    (run : Run (displayStep icons flash) (displayBoot busy) (pre ++ post) s) : ¬UnreadFall pre := by
  rintro ⟨earlier, t, mid, rfl, falls, writes, _⟩
  -- behind the refresh command that the pin answers nothing is written before it is read
  obtain ⟨first, r, between, rfl, starts, quiet⟩ := prompt earlier t (mid ++ post) (by simp) falls
  rw [List.append_assoc, List.cons_append] at run
  have before := run.split.1
  refine (before.since (P := fun s => AfterRefresh s.sending s.todo)
    (afterRefresh_of_startsRefresh before starts) ?_ quiet).not_writesNext writes
  exact fun m taken silent follows => follows.silent taken silent.1 silent.2

/-- The panel is never written while its BUSY pin is asserted, exactly in the runs in which it is
idle at the first command of every hour and every midnight, and in which a pin that falls
between a reading and a write rises again before the write. A panel that answers every refresh
command promptly has no such falls. -/
theorem neverWritesWhileBusy_iff {busy : Bool} {ts : List DisplayTransition} {s : Display}
    (run : Run (displayStep icons flash) (displayBoot busy) ts s) :
    ((∀ t ∈ ts, ¬WritesWhileBusy t) ↔ IdleAtBoundaries ts ∧ RisesInTime ts) ∧
      (AnswersPromptly ts → RisesInTime ts) := by
  refine ⟨⟨fun never => ⟨?_, ?_⟩, ?_⟩, ?_⟩
  -- at a boundary, and behind an unread fall, the access is a write
  · intro t member access boundary
    by_contra pin
    exact never t member ⟨access, by simpa using pin, boundary.sending⟩
  · rintro pre u post rfl fall access
    by_contra pin
    obtain ⟨before, taken⟩ := run.split
    refine never u (by simp) ⟨access, by simpa using pin, (fall.writesNext before).sending ?_⟩
    intro free
    rw [access] at taken
    simp [displayStep, free] at taken
  -- every other write is behind a reading that found the pin free
  · rintro ⟨idle, rises⟩ t member ⟨access, pin, byte, rest, writing⟩
    obtain ⟨pre, post, rfl⟩ := List.append_of_mem member
    have accounted := (accounted_of_run run.split.1
      (fun t earlier => idle t (List.mem_append_left _ earlier))
      (fun first u behind split => rises first u (behind ++ t :: post) (by rw [split]; simp))).2
    rcases accounted.write writing pin with boundary | fall
    · rw [idle t member access boundary] at pin
      cases pin
    · rw [rises pre t post rfl fall access] at pin
      cases pin
  · rintro prompt pre u post rfl fall
    exact absurd fall (prompt.no_unreadFall run)

def blankIcons : IconSet := ⟨fun _ => List.replicate 800 0, fun _ => List.length_replicate⟩

def clearSky : Weather := ⟨ascii "72.5", ascii "01d", ascii "clear sky"⟩

/-- Two minutes of July 1st 2024, and the hour behind them. -/
def tenFiftyEight : Rtc := ⟨1719845880, true⟩

def tenFiftyNine : Rtc := ⟨1719845940, true⟩

def elevenOClock : Rtc := ⟨1719846000, true⟩

theorem updateData_tenFiftyEight :
    updateData tenFiftyEight = frameActions (updateTimeinfo tenFiftyEight) :=
  updateData_minute (by decide +kernel) (by decide +kernel)

theorem updateData_tenFiftyNine :
    updateData tenFiftyNine = frameActions (updateTimeinfo tenFiftyNine) :=
  updateData_minute (by decide +kernel) (by decide +kernel)

theorem answersPromptly_of_calm {ts : List DisplayTransition}
    (calm : ∀ t ∈ ts, t.event ≠ .busyPin true) : AnswersPromptly ts := by
  intro pre t post split falls
  exact absurd falls.1 (calm t (by rw [split]; simp))

theorem AnswersPromptly.append {ts added : List DisplayTransition} (prompt : AnswersPromptly ts)
    (calm : ∀ t ∈ added, t.event ≠ .busyPin true) : AnswersPromptly (ts ++ added) := by
  intro pre t post split falls
  rcases List.append_eq_append_iff.mp split with ⟨front, _, late⟩ | ⟨back, early, late⟩
  · -- the fall is one of the transitions added
    exact absurd falls.1 (calm t (by rw [late]; simp))
  · cases back with
    | nil => exact absurd falls.1 (calm t (by rw [← List.nil_append added, ← late]; simp))
    | cons first back =>
      obtain ⟨rfl, _⟩ := List.cons.inj late
      exact prompt pre t back early falls

/-- The pin may fall while nothing stands behind the refresh command but clearing of buffers. -/
theorem AnswersPromptly.fall {pre clears : List DisplayTransition} {r t : DisplayTransition}
    (prompt : AnswersPromptly (pre ++ r :: clears)) (starts : StartsRefresh r)
    (cleared : ∀ m ∈ clears, m.event = .nextAction) :
    AnswersPromptly (pre ++ r :: clears ++ [t]) := by
  intro earlier u post split falls
  rcases List.eq_nil_or_concat post with rfl | ⟨others, last, rfl⟩
  · obtain ⟨rfl, _⟩ := List.append_inj' split rfl
    exact ⟨pre, r, clears, rfl, starts, fun m member => by simp [cleared m member]⟩
  · rw [List.concat_eq_append, ← List.cons_append, ← List.append_assoc] at split
    obtain ⟨inside, _⟩ := List.append_inj' split rfl
    exact prompt earlier u others inside falls

/-- The panel refreshes behind the frame of 10:59, and asserted its pin at once. -/
theorem exists_run_tenFiftyNine (icons : IconSet) (flash : Nat → UInt8) (busy : Bool) : ∃ ts s,
    Run (displayStep icons flash) (displayBoot busy) ts s ∧ AnswersPromptly ts ∧
      s.sending = [] ∧ s.todo = [] ∧ s.busy = true := by
  obtain ⟨before, _, still, started, free, returned, idle⟩ := @exists_run_started icons flash busy
  obtain ⟨front, r, clears, s, _, run, calm, ⟨access, sends⟩, cleared, free, returned, _⟩ :=
    exists_run_pushed started free returned idle (displayCall tenFiftyNine clearSky)
      updateData_tenFiftyNine
  have quiet : AnswersPromptly (before ++ front ++ r :: clears) := by
    apply answersPromptly_of_calm
    intro t member
    rcases List.mem_append.mp member with early | late
    · exact (List.mem_append.mp early).elim (still t) (calm t)
    · rcases List.mem_cons.mp late with rfl | clear
      · simp [access]
      · simp [cleared t clear]
  have falls : displayStep icons flash s (.busyPin true) = some { s with busy := true } := rfl
  exact ⟨_, _, run.next falls, quiet.fall ⟨access, _, [], sends, rfl⟩ cleared, free, returned, rfl⟩

/-- The refresh of 10:59 is still running at 11:00. -/
theorem exists_run_elevenOClock (icons : IconSet) (flash : Nat → UInt8) (busy : Bool) : ∃ ts s,
    Run (displayStep icons flash) (displayBoot busy) ts s ∧ AnswersPromptly ts ∧
      ∃ t ∈ ts, WritesWhileBusy t := by
  obtain ⟨_, s, run, prompt, free, returned, refreshing⟩ := exists_run_tenFiftyNine icons flash busy
  have hour : updateData elevenOClock = .einkClearFrame ::
      List.replicate 3 .einkDisplayFrameFromSRAMBlocking ++ frameActions (updateTimeinfo elevenOClock) :=
    updateData_hour (by decide +kernel) (by decide +kernel) (by decide +kernel)
  obtain ⟨s₁, called, todo₁, sending₁, busy₁⟩ : ∃ s₁,
      displayStep icons flash s (.updateData (displayCall elevenOClock clearSky)) = some s₁ ∧
        s₁.todo = updateData elevenOClock ∧ s₁.sending = [] ∧ s₁.busy = true := by
    refine ⟨{ s with todo := updateData elevenOClock, call := some (displayCall elevenOClock clearSky) },
      ?_, rfl, free, refreshing⟩
    simp only [displayStep, free, returned]
    rfl
  obtain ⟨s₂, begun, sending₂, busy₂⟩ : ∃ s₂, displayStep icons flash s₁ .nextAction = some s₂ ∧
      s₂.sending = einkClearFrame ∧ s₂.busy = true := by
    refine ⟨{ s₁ with sending := einkClearFrame, todo := (updateData elevenOClock).tail }, ?_, rfl, busy₁⟩
    simp only [displayStep, sending₁, todo₁, hour, List.cons_append, beginAction, List.tail_cons]
  obtain ⟨byte, ops, first⟩ : ∃ byte ops, einkClearFrame = .spiWrite byte :: ops := ⟨_, _, rfl⟩
  obtain ⟨s₃, written⟩ : ∃ s₃, displayStep icons flash s₂ .access = some s₃ := by
    simp only [displayStep, sending₂, first, Option.some.injEq, exists_eq']
  refine ⟨_, s₃, ((run.next called).next begun).next written, ?_, ⟨s₂, .access, s₃⟩, by simp, rfl,
    busy₂, byte, ops, sending₂.trans first⟩
  exact ((prompt.append (by simp)).append (by simp)).append (by simp)

/-- Not even a panel that answers promptly is left alone. -/
theorem elevenOClock_writesWhileBusy :
    ¬∀ (icons : IconSet) (flash : Nat → UInt8) (busy : Bool) (ts : List DisplayTransition) (s : Display),
      Run (displayStep icons flash) (displayBoot busy) ts s → AnswersPromptly ts →
        ∀ t ∈ ts, ¬WritesWhileBusy t := by
  intro claim
  obtain ⟨ts, s, run, prompt, t, member, writes⟩ :=
    exists_run_elevenOClock blankIcons (fun _ => 0) false
  exact claim _ _ _ ts s run prompt t member writes

theorem neverWritesWhileBusy_iff_elevenOClock : ∃ ts s,
    Run (displayStep blankIcons fun _ => 0) (displayBoot false) ts s ∧ AnswersPromptly ts ∧
      (∃ t ∈ ts, WritesWhileBusy t) ∧
      ((∀ t ∈ ts, ¬WritesWhileBusy t) ↔ IdleAtBoundaries ts ∧ RisesInTime ts) ∧
      (AnswersPromptly ts → RisesInTime ts) := by
  obtain ⟨ts, s, run, prompt, writes⟩ := exists_run_elevenOClock blankIcons (fun _ => 0) false
  exact ⟨ts, s, run, prompt, writes, neverWritesWhileBusy_iff run⟩

end EpaperClock
