import EpaperClock.BusyPanel

/-! What a frame depends on. -/
namespace EpaperClock

open StepSystem

variable {icons : IconSet} {flash : Nat → UInt8}

/-- What a call composes in blank buffers. -/
def freshFrame (icons : IconSet) (flash : Nat → UInt8) (call : DisplayCall) : Option Frames :=
  composeFrame icons (font12 flash) (updateTimeinfo call.rtc) call.weather call.temperatureBuf
    blankFrames

/-- The buffers are blank, but between a composition and the clearing, and a frame that is to
be pushed has been composed in blank buffers. -/
structure Wiped (icons : IconSet) (flash : Nat → UInt8) (s : Display) : Prop where
  cleared : ∀ buffer, Action.paintClear buffer ∉ s.todo → s.frames.get buffer = blankImage
  composing : ∀ timeinfo, Action.composeFrame timeinfo ∈ s.todo → s.frames = blankFrames
  pushing : ∀ rest, s.todo = .einkDisplayFrameFromBufferNonBlocking :: rest →
    ∃ call, s.call = some call ∧ freshFrame icons flash call = some s.frames

theorem wiped_boot (busy : Bool) : Wiped icons flash (displayBoot busy) where
  cleared := by
    rintro (_ | _) _ <;> rfl
  composing := fun _ _ => rfl
  pushing := by
    intro rest push
    cases push

/-- Between the calls the buffers are blank. -/
theorem Wiped.blank {s : Display} (wiped : Wiped icons flash s) (returned : s.todo = []) :
    s.frames = blankFrames := by
  have cleared (buffer : FrameBuffer) : s.frames.get buffer = blankImage :=
    wiped.cleared buffer (by simp [returned])
  have black := cleared .imgBuffer
  have red := cleared .colorBuffer
  cases frames : s.frames
  rw [frames] at black red
  simp only [Frames.get] at black red
  rw [black, red, blankFrames]

/-- An action that neither composes nor clears keeps the buffers. -/
theorem wiped_of_kept {s s' : Display} {action : Action} {rest : List Action} (inCall : InCall s)
    (next : s.todo = action :: rest) (wiped : Wiped icons flash s)
    (noCompose : ∀ timeinfo, action ≠ .composeFrame timeinfo)
    (noClear : ∀ buffer, action ≠ .paintClear buffer) (todo : s'.todo = rest)
    (kept : s'.frames = s.frames) : Wiped icons flash s' where
  cleared := by
    intro buffer uncleared
    rw [kept]
    refine wiped.cleared buffer ?_
    rw [next, List.mem_cons, not_or]
    exact ⟨(noClear buffer).symm, todo ▸ uncleared⟩
  composing := by
    intro timeinfo member
    rw [kept]
    refine wiped.composing timeinfo ?_
    rw [next]
    exact List.mem_cons_of_mem _ (todo ▸ member)
  pushing := by
    intro behind push
    rw [todo] at push
    rw [push] at next
    obtain ⟨call, _, composed⟩ := inCall.before_push next
    exact absurd composed (noCompose _)

theorem wiped_composeFrame {s : Display} {timeinfo : Tm} {call : DisplayCall} {frames : Frames}
    {rest : List Action} (inCall : InCall s) (next : s.todo = .composeFrame timeinfo :: rest)
    (last : s.call = some call) (wiped : Wiped icons flash s)
    (composes : composeFrame icons (font12 flash) timeinfo call.weather call.temperatureBuf s.frames =
      some frames) :
    Wiped icons flash { s with todo := rest, frames, composed := some frames, sent := [] } := by
  obtain rfl := inCall.rest next rfl
  refine ⟨?_, ?_, ?_⟩
  · rintro (_ | _) uncleared <;> simp at uncleared
  · intro timeinfo member
    simp at member
  · intro behind push
    refine ⟨call, last, ?_⟩
    obtain ⟨called, known, composed⟩ := inCall.before_push next
    rw [last, Option.some.injEq] at known
    obtain rfl := known
    cases composed
    rw [wiped.composing (updateTimeinfo call.rtc) (by rw [next]; exact List.mem_cons_self)] at composes
    exact composes

theorem wiped_paintClear {s : Display} {buffer : FrameBuffer} {rest : List Action} (inCall : InCall s)
    (next : s.todo = .paintClear buffer :: rest) (wiped : Wiped icons flash s) :
    Wiped icons flash { s with todo := rest, frames := s.frames.set buffer blankImage } where
  cleared := by
    intro other uncleared
    rw [Frames.get_set]
    split
    next => rfl
    next different =>
      refine wiped.cleared other ?_
      rw [next, List.mem_cons, not_or]
      exact ⟨by simpa using different, uncleared⟩
  composing := by
    -- nothing is composed behind a clearing
    intro timeinfo member
    cases buffer
    all_goals
      obtain rfl := inCall.rest next rfl
      simp at member
  pushing := by
    intro behind push
    obtain rfl : rest = .einkDisplayFrameFromBufferNonBlocking :: behind := push
    obtain ⟨_, _, composed⟩ := inCall.before_push next
    cases composed

theorem wiped_nextAction {s s' : Display} {action : Action} {rest : List Action}
    (inCall : InCall s) (next : s.todo = action :: rest) (wiped : Wiped icons flash s)
    (begun : beginAction icons flash { s with todo := rest } action = some s') :
    Wiped icons flash s' := by
  rcases beginAction_cases begun with ⟨panel, rfl⟩ | ⟨timeinfo, call, frames, rfl, last, composes, rfl⟩ |
    ⟨rfl, _, rfl⟩ | ⟨rfl, _, rfl⟩ | ⟨buffer, rfl, rfl⟩ | ⟨url, rfl, rfl⟩
  · refine wiped_of_kept inCall next wiped ?_ ?_ rfl rfl
    · rintro timeinfo rfl
      exact panel rfl
    · rintro buffer rfl
      exact panel rfl
  · exact wiped_composeFrame (s := s) inCall next last wiped composes
  · exact wiped_of_kept inCall next wiped (by simp) (by simp) rfl rfl
  · exact wiped_of_kept inCall next wiped (by simp) (by simp) rfl rfl
  · exact wiped_paintClear (s := s) inCall next wiped
  · exact wiped_of_kept inCall next wiped (by simp) (by simp) rfl rfl

theorem wiped_step {s s' : Display} {e : DisplayEvent}
    (taken : displayStep icons flash s e = some s') (inCall : InCall s)
    (wiped : Wiped icons flash s) : Wiped icons flash s' := by
  rcases displayStep_cases taken with ⟨call, rfl, _, returned, rfl⟩ | ⟨action, rest, rfl, _, next, begun⟩ |
    ⟨_, _, _, _, rfl⟩ | ⟨_, _, _, _, rfl⟩ | ⟨_, _, _, _, rfl⟩ | ⟨_, _, rfl⟩
  · have blank := wiped.blank returned
    refine ⟨fun buffer _ => wiped.cleared buffer (by simp [returned]), fun _ _ => blank, ?_⟩
    intro rest push
    exact absurd push (updateData_no_push call.rtc rest)
  · exact wiped_nextAction inCall next wiped begun
  all_goals exact ⟨wiped.cleared, wiped.composing, wiped.pushing⟩

/-! ### Two runs -/

theorem wiped_of_run {busy : Bool} {ts : List DisplayTransition} {s : Display}
    (run : Run (displayStep icons flash) (displayBoot busy) ts s) {t : DisplayTransition}
    (member : t ∈ ts) : Wiped icons flash t.source := by
  obtain ⟨_, _, before⟩ := run.source_of_mem member
  have inv := before.invariant (P := fun s => InCall s ∧ Wiped icons flash s)
    ⟨.inl rfl, wiped_boot busy⟩
    (fun taken inv => ⟨inCall_step taken inv.1, wiped_step taken inv.1 inv.2⟩)
  exact inv.1.2

/-- The call pushes its frame, and the panel is idle. -/
structure PushesIdle (t : DisplayTransition) (call : DisplayCall) : Prop where
  push : AtPush t
  idle : t.source.busy = false
  call : t.source.call = some call

/-- An idle panel is sent the frame of the call in blank buffers. -/
theorem freshFrame_of_pushesIdle {busy : Bool} {ts : List DisplayTransition} {s : Display}
    (run : Run (displayStep icons flash) (displayBoot busy) ts s) {t : DisplayTransition}
    (member : t ∈ ts) {call : DisplayCall} (pushes : PushesIdle t call) :
    ∃ frames, freshFrame icons flash call = some frames ∧
      t.target.sending = frameOps frames.imgBuffer frames.colorBuffer := by
  obtain ⟨event, rest, push⟩ := pushes.push
  obtain ⟨known, last, fresh⟩ := (wiped_of_run run member).pushing rest push
  rw [pushes.call, Option.some.injEq] at last
  obtain rfl := last
  refine ⟨_, fresh, ?_⟩
  have taken := run.step_of_mem member
  rw [event] at taken
  rcases displayStep_cases taken with ⟨_, impossible, _⟩ | ⟨_, _, _, free, _⟩ | ⟨_, _, impossible, _⟩ |
    ⟨_, impossible, _⟩ | ⟨_, impossible, _⟩ | ⟨_, impossible, _⟩
  · cases impossible
  · rw [displayStep_push free push pushes.idle, Option.some.injEq] at taken
    rw [← taken]
  all_goals cases impossible

/-- The same counter, strings and text make the same frame. -/
theorem freshFrame_congr {call₁ call₂ : DisplayCall} (counter : call₁.rtc.tsr = call₂.rtc.tsr)
    (weather : call₁.weather = call₂.weather) {text : Bytes}
    (printed : temperatureText call₁.weather.temperatureStr = some text)
    (fits : Fits text temperatureBufSize) :
    freshFrame icons flash call₁ = freshFrame icons flash call₂ := by
  have time : updateTimeinfo call₁.rtc = updateTimeinfo call₂.rtc := by
    simp only [updateTimeinfo, updateTimestamp_eq, counter]
  have written : call₁.temperatureBuf = call₂.temperatureBuf := by
    rw [call₁.formatted text printed fits, call₂.formatted text (weather ▸ printed) fits]
  rw [freshFrame, freshFrame, time, weather, written]

/-- The buffers are blank whenever `updateData` is entered, and two calls that find the same
counter and the same weather strings push the same planes to an idle panel, whatever was
before them. -/
theorem pushedPlanes_history_independent {busy₁ busy₂ : Bool} {ts₁ ts₂ : List DisplayTransition}
    {s₁ s₂ : Display} (run₁ : Run (displayStep icons flash) (displayBoot busy₁) ts₁ s₁)
    (run₂ : Run (displayStep icons flash) (displayBoot busy₂) ts₂ s₂) :
    (∀ t ∈ ts₁, ∀ call, t.event = .updateData call → t.source.frames = blankFrames) ∧
      ∀ t₁ ∈ ts₁, ∀ t₂ ∈ ts₂, ∀ call₁ call₂ text, PushesIdle t₁ call₁ → PushesIdle t₂ call₂ →
        call₁.rtc.tsr = call₂.rtc.tsr → call₁.weather = call₂.weather →
        temperatureText call₁.weather.temperatureStr = some text → Fits text temperatureBufSize →
        ∃ frames, freshFrame icons flash call₁ = some frames ∧
          t₁.target.sending = frameOps frames.imgBuffer frames.colorBuffer ∧
          t₂.target.sending = frameOps frames.imgBuffer frames.colorBuffer := by
  refine ⟨?_, ?_⟩
  · intro t member call event
    have taken := run₁.step_of_mem member
    rw [event] at taken
    rcases displayStep_cases taken with ⟨_, _, _, returned, _⟩ | ⟨_, _, impossible, _⟩ |
      ⟨_, _, impossible, _⟩ | ⟨_, impossible, _⟩ | ⟨_, impossible, _⟩ | ⟨_, impossible, _⟩
    · exact (wiped_of_run run₁ member).blank returned
    all_goals cases impossible
  · intro t₁ member₁ t₂ member₂ call₁ call₂ text pushes₁ pushes₂ counter weather printed fits
    obtain ⟨frames₁, fresh₁, sending₁⟩ := freshFrame_of_pushesIdle run₁ member₁ pushes₁
    obtain ⟨frames₂, fresh₂, sending₂⟩ := freshFrame_of_pushesIdle run₂ member₂ pushes₂
    have same : freshFrame icons flash call₁ = freshFrame icons flash call₂ :=
      freshFrame_congr counter weather printed fits
    rw [fresh₁, fresh₂, Option.some.injEq] at same
    obtain rfl := same
    exact ⟨_, fresh₁, sending₁, sending₂⟩

/-- A call at an idle panel pushes. -/
theorem exists_run_pushesIdle {s₀ s : Display} {ts : List DisplayTransition}
    (run : Run (displayStep icons flash) s₀ ts s) (free : s.sending = []) (returned : s.todo = [])
    (idle : s.busy = false) (call : DisplayCall)
    (minute : updateData call.rtc = frameActions (updateTimeinfo call.rtc)) :
    ∃ ts' s', Run (displayStep icons flash) s₀ ts' s' ∧ ∃ t ∈ ts', PushesIdle t call := by
  obtain ⟨_, frames, _, _, before⟩ := exists_run_composed run free returned call minute
  refine ⟨_, _, before.next (displayStep_push free rfl idle), _,
    List.mem_append_right _ List.mem_cons_self, ⟨rfl, _, rfl⟩, idle, rfl⟩

/-- 10:59 on a clear day, after the start-up and after a minute with other weather. -/
theorem pushedPlanes_history_independent_tenFiftyNine : ∃ ts₁ s₁ ts₂ s₂ t₁ t₂,
    Run (displayStep blankIcons fun _ => 0) (displayBoot false) ts₁ s₁ ∧
      Run (displayStep blankIcons fun _ => 0) (displayBoot true) ts₂ s₂ ∧ t₁ ∈ ts₁ ∧ t₂ ∈ ts₂ ∧
      PushesIdle t₁ (displayCall tenFiftyNine clearSky) ∧
      PushesIdle t₂ (displayCall tenFiftyNine clearSky) ∧
      ∃ frames : Frames, t₁.target.sending = frameOps frames.imgBuffer frames.colorBuffer ∧
        t₂.target.sending = frameOps frames.imgBuffer frames.colorBuffer := by
  obtain ⟨_, _, _, started, free, returned, idle⟩ := @exists_run_started blankIcons (fun _ => 0) false
  obtain ⟨_, _, run₁, t₁, member₁, pushes₁⟩ := exists_run_pushesIdle started free returned idle
    (displayCall tenFiftyNine clearSky) updateData_tenFiftyNine
  obtain ⟨_, _, _, started, free, returned, _⟩ := @exists_run_started blankIcons (fun _ => 0) true
  obtain ⟨_, s, _, run, free, returned, _⟩ := exists_run_minute started free returned
    (displayCall tenFiftyEight ⟨ascii "-3", ascii "13n", ascii "snow"⟩) updateData_tenFiftyEight
  have done : displayStep blankIcons (fun _ => 0) s (.busyPin false) = some { s with busy := false } := rfl
  obtain ⟨_, _, run₂, t₂, member₂, pushes₂⟩ := exists_run_pushesIdle (run.next done) free returned rfl
    (displayCall tenFiftyNine clearSky) updateData_tenFiftyNine
  have printed : temperatureText clearSky.temperatureStr = some (ascii "73 F") := by decide +kernel
  obtain ⟨frames, _, sending₁, sending₂⟩ := (pushedPlanes_history_independent run₁ run₂).2 t₁ member₁
    t₂ member₂ _ _ _ pushes₁ pushes₂ rfl rfl printed (by decide)
  exact ⟨_, _, _, _, t₁, t₂, run₁, run₂, member₁, member₂, pushes₁, pushes₂, frames, sending₁, sending₂⟩

end EpaperClock
