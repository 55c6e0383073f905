import EpaperClock.BusyPanel

/-! Whether a composed frame reaches the panel or is kept. -/
namespace EpaperClock

open StepSystem

variable {icons : IconSet} {flash : Nat → UInt8}

/-- The bytes of a frame with both planes and the refresh. -/
def Frames.transcript (frames : Frames) : List SpiByte :=
  EpaperClock.transcript (frameOps frames.imgBuffer frames.colorBuffer)

/-- Once a call has returned, the frame composed last has been sent, or it is still in the
buffers. -/
def FrameKept (s : Display) : Prop :=
  s.sending = [] → s.todo = [] → ∀ frames, s.composed = some frames →
    frames.transcript <+: s.sent ∨ s.frames = frames

/-- A frame that is composed has been sent, is in front of its push, or is being sent. -/
def OnItsWay (s : Display) (frames : Frames) : Prop :=
  frames.transcript <+: s.sent ∨
  (s.frames = frames ∧ s.sent = [] ∧ s.sending = [] ∧
    ∃ rest, s.todo = .einkDisplayFrameFromBufferNonBlocking :: rest) ∨
  (s.sent ++ transcript s.sending = frames.transcript ∧ ∀ op ∈ s.sending, ∃ byte, op = .spiWrite byte)

theorem OnItsWay.sent {s : Display} {frames : Frames} (way : OnItsWay s frames) (free : s.sending = [])
    (noPush : ∀ rest, s.todo ≠ .einkDisplayFrameFromBufferNonBlocking :: rest) :
    frames.transcript <+: s.sent := by
  rcases way with sent | ⟨_, _, _, rest, push⟩ | ⟨whole, _⟩
  · exact sent
  · exact absurd push (noPush rest)
  · rw [← whole, free]
    exact List.prefix_rfl.trans (by simp [transcript])

theorem onItsWay_nextAction {s s' : Display} {action : Action} {rest : List Action}
    (inCall : InCall s) (free : s.sending = []) (next : s.todo = action :: rest)
    (idle : action = .einkDisplayFrameFromBufferNonBlocking → s.busy = false)
    (way : ∀ frames, s.composed = some frames → OnItsWay s frames)
    (begun : beginAction icons flash { s with todo := rest } action = some s') :
    ∀ frames, s'.composed = some frames → OnItsWay s' frames := by
  -- an action that is no push keeps what has been sent
  have earlier : action ≠ .einkDisplayFrameFromBufferNonBlocking → ∀ frames,
      s.composed = some frames → frames.transcript <+: s.sent := by
    intro noPush frames composed
    refine (way frames composed).sent free ?_
    intro rest push
    rw [next] at push
    exact noPush (List.cons.inj push).1
  rcases beginAction_cases begun with ⟨panel, rfl⟩ | ⟨timeinfo, call, frames, rfl, _, _, rfl⟩ |
    ⟨rfl, pin, _⟩ | ⟨rfl, _, rfl⟩ | ⟨buffer, rfl, rfl⟩ | ⟨url, rfl, rfl⟩
  · intro frames composed
    refine .inl (earlier ?_ frames composed)
    rintro rfl
    exact panel rfl
  · intro frames' composed
    obtain rfl : frames = frames' := Option.some.inj composed
    obtain rfl := inCall.rest next rfl
    exact .inr (.inl ⟨rfl, rfl, free, _, rfl⟩)
  · rw [idle rfl] at pin
    cases pin
  · intro frames composed
    rcases way frames composed with sent | ⟨same, nothing, _⟩ | ⟨whole, _⟩
    · exact .inl sent
    · refine .inr (.inr ⟨?_, frameOps_writes _ _⟩)
      simp only [nothing, same, List.nil_append]
      rfl
    · rw [free] at whole
      exact .inl ⟨[], by rw [← whole]; simp [transcript]⟩
  · intro frames composed
    exact .inl (earlier (by simp) frames composed)
  · intro frames composed
    exact .inl (earlier (by simp) frames composed)

theorem onItsWay_step {s s' : Display} {e : DisplayEvent}
    (taken : displayStep icons flash s e = some s') (inCall : InCall s)
    (idle : AtPush ⟨s, e, s'⟩ → s.busy = false)
    (way : ∀ frames, s.composed = some frames → OnItsWay s frames) :
    ∀ frames, s'.composed = some frames → OnItsWay s' frames := by
  rcases displayStep_cases taken with ⟨call, rfl, free, returned, rfl⟩ |
    ⟨action, rest, rfl, free, next, begun⟩ | ⟨byte, rest, rfl, writing, rfl⟩ | ⟨_, _, _, _, rfl⟩ |
    ⟨rest, rfl, waiting, _, rfl⟩ | ⟨_, rfl, rfl⟩
  · intro frames composed
    refine .inl ((way frames composed).sent free ?_)
    intro rest push
    rw [returned] at push
    cases push
  · refine onItsWay_nextAction inCall free next ?_ way begun
    rintro rfl
    exact idle ⟨rfl, rest, next⟩
  · intro frames composed
    rcases way frames composed with sent | ⟨_, _, free, _⟩ | ⟨whole, writes⟩
    · exact .inl (sent.trans (List.prefix_append _ _))
    · rw [writing] at free
      cases free
    · rw [writing] at whole writes
      refine .inr (.inr ⟨?_, fun op member => writes op (List.mem_cons_of_mem _ member)⟩)
      simpa [transcript] using whole
  · exact way
  · intro frames composed
    rcases way frames composed with sent | ⟨_, _, free, _⟩ | ⟨_, writes⟩
    · exact .inl sent
    · rw [waiting] at free
      cases free
    · obtain ⟨byte, write⟩ := writes .waitUntilIdle (by rw [waiting]; exact List.mem_cons_self)
      cases write
  · exact way

/-- While every push finds the panel idle, no frame is lost. -/
theorem frameKept_of_idle {busy : Bool} {ts : List DisplayTransition} {s : Display}
    (run : Run (displayStep icons flash) (displayBoot busy) ts s)
    (idle : ∀ t ∈ ts, AtPush t → t.source.busy = false) : ∀ t ∈ ts, FrameKept t.target := by
  have kept := run.guarded_invariant
    (P := fun s => InCall s ∧ ∀ frames, s.composed = some frames → OnItsWay s frames)
    ⟨.inl rfl, fun _ composed => by cases composed⟩
    (fun t taken idle inv =>
      ⟨inCall_step taken inv.1, onItsWay_step taken inv.1 idle inv.2⟩) idle
  intro t member free returned frames composed
  left
  refine ((kept.2 t member).2 frames composed).sent free ?_
  intro rest push
  rw [returned] at push
  cases push

/-! ### A push that is refused -/

/-- A frame with ink. -/
def Inked (frames : Frames) : Prop := ∃ p, OnPanel p ∧ frames.imgBuffer.pixel p = true

theorem Inked.ne_blank {frames : Frames} (ink : Inked frames) : blankFrames ≠ frames := by
  rintro rfl
  obtain ⟨p, _, on⟩ := ink
  rw [blankFrames, pixel_blankImage] at on
  cases on

/-- A frame with ink is lost if nothing is sent and the buffers are blank. -/
theorem not_frameKept {s : Display} {frames : Frames} (free : s.sending = []) (returned : s.todo = [])
    (composed : s.composed = some frames) (ink : Inked frames) (unsent : s.sent = [])
    (blank : s.frames = blankFrames) : ¬FrameKept s := by
  intro kept
  rcases kept free returned frames composed with pushed | held
  · rw [unsent, List.prefix_nil] at pushed
    cases pushed
  · exact ink.ne_blank (blank.symm.trans held)

/-- In front of a push nothing has been sent of the frame, which has ink. -/
def ReadyToPush (s : Display) : Prop :=
  (∃ rest, s.todo = .einkDisplayFrameFromBufferNonBlocking :: rest) →
    s.sending = [] ∧ s.sent = [] ∧ ∃ frames, s.composed = some frames ∧ Inked frames

theorem readyToPush_step {s s' : Display} {e : DisplayEvent}
    (taken : displayStep icons flash s e = some s') (inCall : InCall s) (ready : ReadyToPush s) :
    ReadyToPush s' := by
  rcases displayStep_cases taken with ⟨call, rfl, _, _, rfl⟩ | ⟨action, rest, rfl, free, next, begun⟩ |
    ⟨_, _, _, writing, rfl⟩ | ⟨_, _, _, _, rfl⟩ | ⟨_, _, waiting, _, rfl⟩ | ⟨_, _, rfl⟩
  · rintro ⟨rest, push⟩
    exact absurd push (updateData_no_push call.rtc rest)
  · rintro ⟨behind, push⟩
    rw [(beginAction_call begun).1] at push
    simp only at push
    rw [push] at next
    obtain ⟨call, last, rfl⟩ := inCall.before_push next
    obtain ⟨frames, composes, ink⟩ := exists_composeFrame icons flash call s.frames
    rw [beginAction_composeFrame (s := { s with todo := rest }) last composes] at begun
    cases begun
    exact ⟨free, rfl, frames, rfl, ink⟩
  · rintro ⟨rest, push⟩
    obtain ⟨free, _⟩ := ready ⟨rest, push⟩
    rw [writing] at free
    cases free
  · exact ready
  · rintro ⟨rest, push⟩
    obtain ⟨free, _⟩ := ready ⟨rest, push⟩
    rw [waiting] at free
    cases free
  · exact ready

/-- A refused frame is being cleared out of the buffers, and nothing of it has been sent. -/
def Losing (s : Display) : Prop :=
  s.sending = [] ∧ s.sent = [] ∧ (∃ frames, s.composed = some frames ∧ Inked frames) ∧
    (s.todo = [.paintClear .imgBuffer, .paintClear .colorBuffer] ∨
      s.todo = [.paintClear .colorBuffer] ∧ s.frames.imgBuffer = blankImage)

theorem losing_of_refused {s s' : Display} (taken : displayStep icons flash s .nextAction = some s')
    (inCall : InCall s) (ready : ReadyToPush s) {rest : List Action}
    (push : s.todo = .einkDisplayFrameFromBufferNonBlocking :: rest) (pin : s.busy = true) :
    Losing s' := by
  obtain ⟨free, sent, composed⟩ := ready ⟨rest, push⟩
  obtain rfl := inCall.rest push rfl
  rw [displayStep_refused free push pin, Option.some.injEq] at taken
  obtain rfl := taken
  exact ⟨free, sent, composed, .inl rfl⟩

/-- A frame that is being lost is gone when the call returns. -/
theorem losing_step {s s' : Display} {e : DisplayEvent} (losing : Losing s)
    (taken : displayStep icons flash s e = some s') : Losing s' ∨ ¬FrameKept s' := by
  obtain ⟨free, sent, ⟨frames, composed, ink⟩, phase⟩ := losing
  rcases displayStep_cases taken with ⟨_, _, _, returned, _⟩ | ⟨action, rest, rfl, _, next, begun⟩ |
    ⟨_, _, _, writing, _⟩ | ⟨_, _, waiting, _, _⟩ | ⟨_, _, waiting, _, _⟩ | ⟨_, _, rfl⟩
  · rw [returned] at phase
    simp at phase
  · rcases phase with both | ⟨second, black⟩
    · rw [both, List.cons.injEq] at next
      obtain ⟨rfl, rfl⟩ := next
      rw [beginAction_paintClear, Option.some.injEq] at begun
      obtain rfl := begun
      exact .inl ⟨free, sent, ⟨frames, composed, ink⟩, .inr ⟨rfl, rfl⟩⟩
    · rw [second, List.cons.injEq] at next
      obtain ⟨rfl, rfl⟩ := next
      rw [beginAction_paintClear, Option.some.injEq] at begun
      obtain rfl := begun
      refine .inr (not_frameKept free rfl composed ink sent ?_)
      simp only [blankFrames, Frames.set, black]
  · rw [free] at writing
    cases writing
  · rw [free] at waiting
    cases waiting
  · rw [free] at waiting
    cases waiting
  · exact .inl ⟨free, sent, ⟨frames, composed, ink⟩, phase⟩

/-- After a refused push the frame is being lost, or has been. -/
theorem losing_of_run {busy : Bool} {ts : List DisplayTransition} {s : Display}
    (run : Run (displayStep icons flash) (displayBoot busy) ts s) :
    (InCall s ∧ ReadyToPush s) ∧ ((∃ t ∈ ts, AtPush t ∧ t.source.busy = true) →
      Losing s ∨ ∃ t ∈ ts, ¬FrameKept t.target) := by
  induction run with
  | start => exact ⟨⟨.inl rfl, by rintro ⟨_, push⟩; cases push⟩, by simp⟩
  | @next ts s e s' _ taken ih =>
    obtain ⟨⟨inCall, ready⟩, lost⟩ := ih
    refine ⟨⟨inCall_step taken inCall, readyToPush_step taken inCall ready⟩, ?_⟩
    rintro ⟨t, member, ⟨event, rest, push⟩, pin⟩
    rcases List.mem_append.mp member with earlier | last
    · rcases lost ⟨t, earlier, ⟨event, rest, push⟩, pin⟩ with losing | ⟨bad, listed, gone⟩
      · rcases losing_step losing taken with losing | gone
        · exact .inl losing
        · exact .inr ⟨_, List.mem_append_right _ List.mem_cons_self, gone⟩
      · exact .inr ⟨bad, List.mem_append_left _ listed, gone⟩
    · obtain rfl := List.mem_singleton.mp last
      obtain rfl : e = .nextAction := event
      exact .inl (losing_of_refused taken inCall ready push pin)

/-- No frame is lost in a run in which every push finds the panel idle; and in a run whose
calls have all returned, a push that finds it busy has lost a frame. -/
theorem framesKept_iff_pushes_idle {busy : Bool} {ts : List DisplayTransition} {s : Display}
    (run : Run (displayStep icons flash) (displayBoot busy) ts s) :
    ((∀ t ∈ ts, AtPush t → t.source.busy = false) → ∀ t ∈ ts, FrameKept t.target) ∧
      (s.todo = [] → (∀ t ∈ ts, FrameKept t.target) → ∀ t ∈ ts, AtPush t → t.source.busy = false) := by
  refine ⟨frameKept_of_idle run, ?_⟩
  intro returned kept t member push
  by_contra pin
  rcases (losing_of_run run).2 ⟨t, member, push, by simpa using pin⟩ with losing | ⟨bad, listed, gone⟩
  · obtain ⟨_, _, _, both | ⟨second, _⟩⟩ := losing
    · rw [returned] at both
      cases both
    · rw [returned] at second
      cases second
  · exact gone (kept bad listed)

/-- The refresh of 10:58 is still running at 10:59. -/
theorem exists_run_frameLost (icons : IconSet) (flash : Nat → UInt8) (busy : Bool) : ∃ ts s,
    Run (displayStep icons flash) (displayBoot busy) ts s ∧ ∃ t ∈ ts, ¬FrameKept t.target := by
  obtain ⟨_, _, _, started, free, returned, _⟩ := @exists_run_started icons flash busy
  obtain ⟨_, _, _, run, free, returned, refreshing, _⟩ := exists_run_minute started free returned
    (displayCall tenFiftyEight clearSky) updateData_tenFiftyEight
  obtain ⟨_, s, frames, run, free, returned, _, blank, composed, ink, sent⟩ := exists_run_minute run
    free returned (displayCall tenFiftyNine clearSky) updateData_tenFiftyNine
  rw [if_pos refreshing] at sent
  have done : displayStep icons flash s (.busyPin false) = some { s with busy := false } := rfl
  refine ⟨_, _, run.next done, _, List.mem_append_right _ List.mem_cons_self, ?_⟩
  exact not_frameKept free returned composed ink sent blank

theorem tenFiftyNine_frameLost :
    ¬∀ (icons : IconSet) (flash : Nat → UInt8) (busy : Bool) (ts : List DisplayTransition) (s : Display),
      Run (displayStep icons flash) (displayBoot busy) ts s → ∀ t ∈ ts, FrameKept t.target := by
  intro claim
  obtain ⟨ts, s, run, t, member, lost⟩ := exists_run_frameLost blankIcons (fun _ => 0) false
  exact lost (claim _ _ _ ts s run t member)

theorem framesKept_iff_pushes_idle_tenFiftyNine : ∃ ts s,
    Run (displayStep blankIcons fun _ => 0) (displayBoot false) ts s ∧ ts ≠ [] ∧
      ((∀ t ∈ ts, AtPush t → t.source.busy = false) → ∀ t ∈ ts, FrameKept t.target) ∧
      (s.todo = [] → (∀ t ∈ ts, FrameKept t.target) → ∀ t ∈ ts, AtPush t → t.source.busy = false) := by
  obtain ⟨ts, s, run, t, member, _⟩ := exists_run_frameLost blankIcons (fun _ => 0) false
  exact ⟨ts, s, run, List.ne_nil_of_mem member, framesKept_iff_pushes_idle run⟩

end EpaperClock
