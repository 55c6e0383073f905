import EpaperClock.ComposeFrame
import EpaperClock.Library.Run

/-! Calls of `updateData` on the panel, one access at a time, against the panel's own pace. -/
namespace EpaperClock

open StepSystem

def blankFrames : Frames := ⟨blankImage, blankImage⟩

/-- What one call of `updateData` finds: the counter, the weather strings, and what `sprintf`
leaves in `temperatureBuf`. A text that does not fit leaves anything there. -/
structure DisplayCall where
  rtc : Rtc
  weather : Weather
  temperatureBuf : Bytes
  formatted : ∀ text, temperatureText weather.temperatureStr = some text →
    Fits text temperatureBufSize → temperatureBuf = text

/-- A call with the text that `sprintf` writes, if there is one. -/
def displayCall (rtc : Rtc) (weather : Weather) : DisplayCall where
  rtc := rtc
  weather := weather
  temperatureBuf := (temperatureText weather.temperatureStr).getD []
  formatted := by
    intro text printed _
    rw [printed, Option.getD_some]

structure Display where
  -- what the panel function that is running has still to do
  sending : List EinkOp
  -- what `updateData` has still to do behind it
  todo : List Action
  frames : Frames
  -- the level of the BUSY pin: it is asserted
  busy : Bool
  call : Option DisplayCall
  -- the frame composed last, and what has been sent since
  composed : Option Frames
  sent : List SpiByte

inductive DisplayEvent where
  | updateData (call : DisplayCall)
  -- the call goes on to its next action
  | nextAction
  -- the running panel function makes its next access
  | access
  -- the panel sets its BUSY pin, which it may do at any time
  | busyPin (asserted : Bool)

section Step

variable (icons : IconSet) (flash : Nat → UInt8)

/-- Begin an action. The result of the push is ignored. -/
def beginAction (s : Display) : Action → Option Display
  | .einkSetRefreshMode refreshMode => some { s with sending := einkSetRefreshMode refreshMode }
  | .einkClearFrame => some { s with sending := einkClearFrame }
  | .einkDisplayFrameFromSRAMBlocking => some { s with sending := einkDisplayFrameFromSRAMBlocking }
  | .composeFrame timeinfo => do
    let call ← s.call
    let frames ← composeFrame icons (font12 flash) timeinfo call.weather call.temperatureBuf s.frames
    some { s with frames, composed := some frames, sent := [] }
  | .einkDisplayFrameFromBufferNonBlocking => do
    let (_, ops) ← einkDisplayFrameFromBufferNonBlocking s.busy (some s.frames.imgBuffer)
      (some s.frames.colorBuffer)
    some { s with sending := ops }
  | .paintClear buffer => do
    let image ← paintClear (s.frames.get buffer) uncoloured
    some { s with frames := s.frames.set buffer image }
  | .dnsSendHttpRequest _ => some s

def displayStep (s : Display) : DisplayEvent → Option Display
  | .updateData call =>
    match s.sending, s.todo with
    | [], [] => some { s with todo := updateData call.rtc, call := some call }
    | _, _ => none
  | .nextAction =>
    match s.sending, s.todo with
    | [], action :: rest => beginAction icons flash { s with todo := rest } action
    | _, _ => none
  | .access =>
    match s.sending with
    | [] => none
    | .spiWrite byte :: rest => some { s with sending := rest, sent := s.sent ++ [byte] }
    -- the loop reads the pin again, until it finds it deasserted
    | .waitUntilIdle :: rest => if s.busy then some s else some { s with sending := rest }
  | .busyPin asserted => some { s with busy := asserted }

end Step

/-- `main` behind the start-up, whose own refresh may still be running. -/
def displayBoot (busy : Bool) : Display where
  sending := einkWaitUntilIdle :: einkSetRefreshMode .fastRefresh
  todo := []
  frames := blankFrames
  busy := busy
  call := none
  composed := none
  sent := []

abbrev DisplayTransition := Transition Display DisplayEvent

/-- The frame is about to be pushed. -/
def AtPush (t : DisplayTransition) : Prop :=
  t.event = .nextAction ∧ ∃ rest, t.source.todo = .einkDisplayFrameFromBufferNonBlocking :: rest

variable {icons : IconSet} {flash : Nat → UInt8}

/-- The accesses of an action, but for the push. -/
def Action.ops : Action → List EinkOp
  | .einkSetRefreshMode refreshMode => EpaperClock.einkSetRefreshMode refreshMode
  | .einkClearFrame => EpaperClock.einkClearFrame
  | .einkDisplayFrameFromSRAMBlocking => EpaperClock.einkDisplayFrameFromSRAMBlocking
  | _ => []

theorem beginAction_paintClear (s : Display) (buffer : FrameBuffer) :
    beginAction icons flash s (.paintClear buffer) =
      some { s with frames := s.frames.set buffer blankImage } := by
  rw [beginAction, paintClear_uncoloured, Option.bind_eq_bind, Option.bind_some]

/-- Everything the beginning of an action can do. -/
theorem beginAction_cases {s s' : Display} {action : Action}
    (begun : beginAction icons flash s action = some s') :
    (action.ops ≠ [] ∧ s' = { s with sending := action.ops }) ∨
    (∃ timeinfo call frames, action = .composeFrame timeinfo ∧ s.call = some call ∧
      composeFrame icons (font12 flash) timeinfo call.weather call.temperatureBuf s.frames =
        some frames ∧ s' = { s with frames, composed := some frames, sent := [] }) ∨
    (action = .einkDisplayFrameFromBufferNonBlocking ∧ s.busy = true ∧
      s' = { s with sending := [] }) ∨
    (action = .einkDisplayFrameFromBufferNonBlocking ∧ s.busy = false ∧
      s' = { s with sending := frameOps s.frames.imgBuffer s.frames.colorBuffer }) ∨
    (∃ buffer, action = .paintClear buffer ∧
      s' = { s with frames := s.frames.set buffer blankImage }) ∨
    ∃ url, action = .dnsSendHttpRequest url ∧ s' = s := by
  cases action with
  | einkSetRefreshMode refreshMode =>
    cases begun
    refine .inl ⟨?_, rfl⟩
    cases refreshMode <;> simp [Action.ops, einkSetRefreshMode]
  | einkClearFrame =>
    cases begun
    exact .inl ⟨by simp [Action.ops, einkClearFrame], rfl⟩
  | einkDisplayFrameFromSRAMBlocking =>
    cases begun
    exact .inl ⟨by simp [Action.ops, einkDisplayFrameFromSRAMBlocking], rfl⟩
  | composeFrame timeinfo =>
    obtain ⟨call, found, begun⟩ := Option.bind_eq_some_iff.mp begun
    obtain ⟨frames, composes, begun⟩ := Option.bind_eq_some_iff.mp begun
    cases begun
    exact .inr (.inl ⟨timeinfo, call, frames, rfl, found, composes, rfl⟩)
  | einkDisplayFrameFromBufferNonBlocking =>
    simp only [beginAction] at begun
    cases busy : s.busy with
    | true =>
      rw [busy, einkDisplayFrameFromBufferNonBlocking_busy] at begun
      cases begun
      exact .inr (.inr (.inl ⟨rfl, rfl, rfl⟩))
    | false =>
      rw [busy, einkDisplayFrameFromBufferNonBlocking_idle] at begun
      cases begun
      exact .inr (.inr (.inr (.inl ⟨rfl, rfl, rfl⟩)))
  | paintClear buffer =>
    rw [beginAction_paintClear, Option.some.injEq] at begun
    exact .inr (.inr (.inr (.inr (.inl ⟨buffer, rfl, begun.symm⟩))))
  | dnsSendHttpRequest url =>
    cases begun
    exact .inr (.inr (.inr (.inr (.inr ⟨url, rfl, rfl⟩))))

/-- Every call composes a frame, whatever was in the buffers, and it has ink. -/
theorem exists_composeFrame (icons : IconSet) (flash : Nat → UInt8) (call : DisplayCall)
    (before : Frames) : ∃ frames,
      composeFrame icons (font12 flash) (updateTimeinfo call.rtc) call.weather call.temperatureBuf
        before = some frames ∧ ∃ p, OnPanel p ∧ frames.imgBuffer.pixel p = true := by
  obtain ⟨time, gmtime_⟩ := updateTimeinfo_eq call.rtc
  obtain ⟨frames, composes, _, ink⟩ := composeFrame_under icons flash time call.weather
    call.temperatureBuf before
  rw [← gmtime_] at composes
  exact ⟨frames, composes, ink⟩

theorem beginAction_composeFrame {s : Display} {call : DisplayCall} {timeinfo : Tm} {frames : Frames}
    (found : s.call = some call) (composes : composeFrame icons (font12 flash) timeinfo call.weather
      call.temperatureBuf s.frames = some frames) :
    beginAction icons flash s (.composeFrame timeinfo) =
      some { s with frames, composed := some frames, sent := [] } := by
  rw [beginAction, found, Option.bind_eq_bind, Option.bind_some, composes, Option.bind_eq_bind,
    Option.bind_some]

/-- Everything one step can do. -/
theorem displayStep_cases {s s' : Display} {e : DisplayEvent}
    (taken : displayStep icons flash s e = some s') :
    (∃ call, e = .updateData call ∧ s.sending = [] ∧ s.todo = [] ∧
      s' = { s with todo := updateData call.rtc, call := some call }) ∨
    (∃ action rest, e = .nextAction ∧ s.sending = [] ∧ s.todo = action :: rest ∧
      beginAction icons flash { s with todo := rest } action = some s') ∨
    (∃ byte rest, e = .access ∧ s.sending = .spiWrite byte :: rest ∧
      s' = { s with sending := rest, sent := s.sent ++ [byte] }) ∨
    (∃ rest, e = .access ∧ s.sending = .waitUntilIdle :: rest ∧ s.busy = true ∧ s' = s) ∨
    (∃ rest, e = .access ∧ s.sending = .waitUntilIdle :: rest ∧ s.busy = false ∧
      s' = { s with sending := rest }) ∨
    ∃ asserted, e = .busyPin asserted ∧ s' = { s with busy := asserted } := by
  cases e with
  | updateData call =>
    simp only [displayStep] at taken
    split at taken
    next sending todo =>
      cases taken
      exact .inl ⟨call, rfl, sending, todo, rfl⟩
    next => cases taken
  | nextAction =>
    simp only [displayStep] at taken
    split at taken
    next action rest sending todo => exact .inr (.inl ⟨action, rest, rfl, sending, todo, taken⟩)
    next => cases taken
  | access =>
    simp only [displayStep] at taken
    split at taken
    next => cases taken
    next byte rest sending =>
      cases taken
      exact .inr (.inr (.inl ⟨byte, rest, rfl, sending, rfl⟩))
    next rest sending =>
      split at taken
      next busy =>
        cases taken
        exact .inr (.inr (.inr (.inl ⟨rest, rfl, sending, busy, rfl⟩)))
      next idle =>
        cases taken
        exact .inr (.inr (.inr (.inr (.inl ⟨rest, rfl, sending, by simpa using idle, rfl⟩))))
  | busyPin asserted =>
    cases taken
    exact .inr (.inr (.inr (.inr (.inr ⟨asserted, rfl, rfl⟩))))

/-! ### The rest of a call -/

/-- What a call does at a full minute, behind the refreshes of the hour. -/
def frameActions (timeinfo : Tm) : List Action :=
  [.composeFrame timeinfo, .einkDisplayFrameFromBufferNonBlocking, .paintClear .imgBuffer,
    .paintClear .colorBuffer]

/-- What is still to be done behind an action of a frame. -/
def follows : Action → Option (List Action)
  | .composeFrame _ =>
    some [.einkDisplayFrameFromBufferNonBlocking, .paintClear .imgBuffer, .paintClear .colorBuffer]
  | .einkDisplayFrameFromBufferNonBlocking => some [.paintClear .imgBuffer, .paintClear .colorBuffer]
  | .paintClear .imgBuffer => some [.paintClear .colorBuffer]
  | .paintClear .colorBuffer => some []
  | .dnsSendHttpRequest _ => some []
  | _ => none

theorem updateData_split (rtc : Rtc) :
    (∃ block, (∀ action ∈ block, follows action = none) ∧
      updateData rtc = block ++ frameActions (updateTimeinfo rtc)) ∨
    updateData rtc = [] ∨ updateData rtc = [.dnsSendHttpRequest apiUrl] := by
  have second := updateTimeinfo_tmSec rtc
  simp only [updateData]
  split
  next boundary =>
    rw [if_neg (by omega : ¬(updateTimeinfo rtc).tmSec = 30), List.append_nil]
    left
    refine ⟨_, ?_, rfl⟩
    split
    · simp [follows]
    · split <;> simp [follows]
  next =>
    right
    split
    · exact .inr rfl
    · exact .inl rfl

/-- The rests of a call: all of its frame is still to be done, or a part behind the composition. -/
theorem updateData_rest {rtc : Rtc} {rest : List Action} (suffix : rest <:+ updateData rtc) :
    (∃ block, (∀ action ∈ block, follows action = none) ∧
      rest = block ++ frameActions (updateTimeinfo rtc)) ∨
    rest <:+ (frameActions (updateTimeinfo rtc)).tail ∨ rest <:+ [.dnsSendHttpRequest apiUrl] := by
  rcases updateData_split rtc with ⟨block, plain, split⟩ | nothing | request
  · rw [split] at suffix
    rcases List.suffix_or_suffix_of_suffix suffix (List.suffix_append _ _) with part | ⟨before, rfl⟩
    · rcases List.suffix_cons_iff.mp part with whole | tail
      · exact .inl ⟨[], by simp, whole⟩
      · exact .inr (.inl tail)
    · have inBlock := List.suffix_append_self_iff.mp suffix
      exact .inl ⟨before, fun action member => plain action (inBlock.subset member), rfl⟩
  · rw [nothing, List.suffix_nil] at suffix
    exact .inr (.inl (suffix ▸ List.nil_suffix))
  · exact .inr (.inr (request ▸ suffix))

theorem updateData_suffix {rtc : Rtc} {action : Action} {rest expected : List Action}
    (suffix : action :: rest <:+ updateData rtc) (known : follows action = some expected) :
    rest = expected := by
  rcases updateData_rest suffix with ⟨block, plain, split⟩ | tail | request
  · cases block with
    | nil =>
      obtain ⟨rfl, rfl⟩ := List.cons.inj split
      exact Option.some.inj known
    | cons first block =>
      obtain ⟨rfl, _⟩ := List.cons.inj split
      rw [plain action List.mem_cons_self] at known
      cases known
  · simp only [frameActions, List.tail_cons, List.suffix_cons_iff, List.cons.injEq, List.suffix_nil,
      reduceCtorEq, or_false] at tail
    rcases tail with ⟨rfl, rfl⟩ | ⟨rfl, rfl⟩ | ⟨rfl, rfl⟩
    all_goals exact Option.some.inj known
  · simp only [List.suffix_cons_iff, List.cons.injEq, List.suffix_nil, reduceCtorEq, or_false] at request
    obtain ⟨rfl, rfl⟩ := request
    exact Option.some.inj known

/-- A frame is pushed right after it is composed. -/
theorem updateData_before_push {rtc : Rtc} {action : Action} {rest : List Action}
    (suffix : action :: .einkDisplayFrameFromBufferNonBlocking :: rest <:+ updateData rtc) :
    action = .composeFrame (updateTimeinfo rtc) := by
  rcases updateData_rest suffix with ⟨block, plain, split⟩ | tail | request
  · match block with
    | [] => exact (List.cons.inj split).1
    | [first] => cases (List.cons.inj (List.cons.inj split).2).1
    | first :: second :: block =>
      obtain rfl := (List.cons.inj (List.cons.inj split).2).1
      cases plain _ (List.mem_cons_of_mem _ List.mem_cons_self)
  · simp [frameActions, List.suffix_cons_iff] at tail
  · simp [List.suffix_cons_iff] at request

/-- No call begins with a push. -/
theorem updateData_no_push (rtc : Rtc) (rest : List Action) :
    updateData rtc ≠ .einkDisplayFrameFromBufferNonBlocking :: rest := by
  intro push
  rcases updateData_split rtc with ⟨block, plain, split⟩ | nothing | request
  · rw [split] at push
    cases block with
    | nil => cases (List.cons.inj push).1
    | cons first block =>
      obtain rfl := (List.cons.inj push).1
      cases plain _ List.mem_cons_self
  · rw [nothing] at push
    cases push
  · rw [request] at push
    cases push

/-- What is still to be done belongs to the last call. -/
def InCall (s : Display) : Prop :=
  s.todo = [] ∨ ∃ call, s.call = some call ∧ s.todo <:+ updateData call.rtc

/-- An action that is still to be done belongs to a call. -/
theorem InCall.suffix {s : Display} (inCall : InCall s) {action : Action} {rest : List Action}
    (next : s.todo = action :: rest) :
    ∃ call, s.call = some call ∧ action :: rest <:+ updateData call.rtc := by
  rcases inCall with returned | belongs
  · rw [next] at returned
    cases returned
  · rwa [next] at belongs

theorem beginAction_call {s s' : Display} {action : Action}
    (begun : beginAction icons flash s action = some s') : s'.todo = s.todo ∧ s'.call = s.call := by
  rcases beginAction_cases begun with ⟨_, rfl⟩ | ⟨_, _, _, _, _, _, rfl⟩ | ⟨_, _, rfl⟩ | ⟨_, _, rfl⟩ |
    ⟨_, _, rfl⟩ | ⟨_, _, rfl⟩
  all_goals exact ⟨rfl, rfl⟩

theorem inCall_step {s s' : Display} {e : DisplayEvent}
    (taken : displayStep icons flash s e = some s') (inCall : InCall s) : InCall s' := by
  rcases displayStep_cases taken with ⟨call, _, _, _, rfl⟩ | ⟨action, rest, _, _, next, begun⟩ |
    ⟨_, _, _, _, rfl⟩ | ⟨_, _, _, _, rfl⟩ | ⟨_, _, _, _, rfl⟩ | ⟨_, _, rfl⟩
  · exact .inr ⟨call, rfl, List.suffix_rfl⟩
  · obtain ⟨todo, same⟩ := beginAction_call begun
    obtain ⟨call, last, suffix⟩ := inCall.suffix next
    exact .inr ⟨call, by rw [same, last], by rw [todo]; exact (List.suffix_cons _ _).trans suffix⟩
  all_goals exact inCall

/-- The actions of a frame are followed by the rest of the frame. -/
theorem InCall.rest {s : Display} (inCall : InCall s) {action : Action} {rest expected : List Action}
    (next : s.todo = action :: rest) (known : follows action = some expected) : rest = expected := by
  obtain ⟨call, _, suffix⟩ := inCall.suffix next
  exact updateData_suffix suffix known

/-- A frame is composed in front of a push, so no other action comes to one. -/
theorem InCall.before_push {s : Display} (inCall : InCall s) {action : Action} {rest : List Action}
    (next : s.todo = action :: .einkDisplayFrameFromBufferNonBlocking :: rest) :
    ∃ call, s.call = some call ∧ action = .composeFrame (updateTimeinfo call.rtc) := by
  obtain ⟨call, last, suffix⟩ := inCall.suffix next
  exact ⟨call, last, updateData_before_push suffix⟩

/-! ### Runs that exist -/

/-- The writes in front of `behind` can be made. -/
theorem exists_run_sends {s₀ s : Display} {ts : List DisplayTransition}
    (run : Run (displayStep icons flash) s₀ ts s) {ops behind : List EinkOp}
    (sending : s.sending = ops ++ behind) (writes : ∀ op ∈ ops, ∃ byte, op = .spiWrite byte) :
    ∃ sends, (∀ t ∈ sends, t.event = .access) ∧ Run (displayStep icons flash) s₀ (ts ++ sends)
      { s with sending := behind, sent := s.sent ++ transcript ops } := by
  induction ops generalizing s ts with
  | nil =>
    obtain rfl : behind = s.sending := sending.symm
    exact ⟨[], by simp, by simpa [transcript] using run⟩
  | cons op rest ih =>
    obtain ⟨byte, rfl⟩ := writes op List.mem_cons_self
    have taken : displayStep icons flash s .access =
        some { s with sending := rest ++ behind, sent := s.sent ++ [byte] } := by
      simp only [displayStep, sending, List.cons_append]
    obtain ⟨sends, accesses, later⟩ := ih (run.next taken) rfl
      (fun op member => writes op (List.mem_cons_of_mem _ member))
    refine ⟨⟨s, .access, { s with sending := rest ++ behind, sent := s.sent ++ [byte] }⟩ :: sends,
      List.forall_mem_cons.mpr ⟨rfl, accesses⟩, ?_⟩
    simpa only [transcript, List.filterMap_cons, List.append_assoc, List.singleton_append] using later

/-- The start-up ends with an idle panel. -/
theorem exists_run_started (busy : Bool) : ∃ ts s, (∀ t ∈ ts, t.event ≠ .busyPin true) ∧
    Run (displayStep icons flash) (displayBoot busy) ts s ∧ s.sending = [] ∧ s.todo = [] ∧
      s.busy = false := by
  have done : displayStep icons flash (displayBoot busy) (.busyPin false) =
      some { displayBoot busy with busy := false } := rfl
  have waited : displayStep icons flash { displayBoot busy with busy := false } .access =
      some { displayBoot false with sending := einkSetRefreshMode .fastRefresh } := rfl
  have quiet := quiet_einkSetRefreshMode .fastRefresh
  obtain ⟨sends, accesses, run⟩ := exists_run_sends ((Run.start.next done).next waited)
    (List.append_nil _).symm quiet.writes
  refine ⟨_, _, ?_, run, rfl, rfl, rfl⟩
  intro t member
  rcases List.mem_append.mp member with early | late
  · simp only [List.nil_append, List.cons_append, List.mem_cons, List.not_mem_nil, or_false] at early
    rcases early with rfl | rfl
    · simp
    · simp
  · rw [accesses t late]
    simp

theorem updateData_minute {rtc : Rtc} (second : (updateTimeinfo rtc).tmSec = 0)
    (minute : (updateTimeinfo rtc).tmMin % 60 ≠ 0) :
    updateData rtc = frameActions (updateTimeinfo rtc) := by
  have notMidnight : ¬((updateTimeinfo rtc).tmHour = 0 ∧ (updateTimeinfo rtc).tmMin = 0) := by omega
  simp only [updateData, second, if_true, if_neg notMidnight, if_neg minute]
  rfl

theorem updateData_hour {rtc : Rtc} (second : (updateTimeinfo rtc).tmSec = 0)
    (minute : (updateTimeinfo rtc).tmMin = 0) (hour : (updateTimeinfo rtc).tmHour ≠ 0) :
    updateData rtc = .einkClearFrame :: List.replicate 3 .einkDisplayFrameFromSRAMBlocking ++
      frameActions (updateTimeinfo rtc) := by
  simp [updateData, second, minute, hour, frameActions, List.replicate]

theorem exists_run_clears {s₀ s : Display} {ts : List DisplayTransition}
    (run : Run (displayStep icons flash) s₀ ts s) (free : s.sending = [])
    (todo : s.todo = [.paintClear .imgBuffer, .paintClear .colorBuffer]) :
    ∃ clears, (∀ t ∈ clears, t.event = .nextAction) ∧ Run (displayStep icons flash) s₀ (ts ++ clears)
      { s with todo := [], frames := blankFrames } := by
  have black : displayStep icons flash s .nextAction =
      some { s with todo := [.paintClear .colorBuffer], frames := s.frames.set .imgBuffer blankImage } := by
    simp only [displayStep, free, todo, beginAction_paintClear]
  have red : displayStep icons flash
      { s with todo := [.paintClear .colorBuffer], frames := s.frames.set .imgBuffer blankImage }
      .nextAction = some { s with todo := [], frames := blankFrames } := by
    simp only [displayStep, free, beginAction_paintClear]
    rfl
  have cleared := (run.next black).next red
  rw [List.append_assoc, List.singleton_append] at cleared
  exact ⟨_, by simp, cleared⟩

/-- A call at a full minute that is no hour comes to its push with a frame that has ink. -/
theorem exists_run_composed {s₀ s : Display} {ts : List DisplayTransition}
    (run : Run (displayStep icons flash) s₀ ts s) (free : s.sending = []) (returned : s.todo = [])
    (call : DisplayCall) (minute : updateData call.rtc = frameActions (updateTimeinfo call.rtc)) :
    ∃ composes frames, (∀ t ∈ composes, t.event ≠ .busyPin true) ∧
      (∃ p, OnPanel p ∧ frames.imgBuffer.pixel p = true) ∧
      Run (displayStep icons flash) s₀ (ts ++ composes)
        { s with todo := (frameActions (updateTimeinfo call.rtc)).tail, call := some call, frames,
                 composed := some frames, sent := [] } := by
  obtain ⟨frames, composes, ink⟩ := exists_composeFrame icons flash call s.frames
  have called : displayStep icons flash s (.updateData call) =
      some { s with todo := frameActions (updateTimeinfo call.rtc), call := some call } := by
    simp only [displayStep, free, returned, minute]
  have composed : displayStep icons flash
      { s with todo := frameActions (updateTimeinfo call.rtc), call := some call } .nextAction =
        some { s with todo := (frameActions (updateTimeinfo call.rtc)).tail, call := some call, frames,
                      composed := some frames, sent := [] } := by
    simp only [displayStep, free, frameActions, List.tail_cons]
    exact beginAction_composeFrame rfl composes
  have ran := (run.next called).next composed
  rw [List.append_assoc, List.singleton_append] at ran
  exact ⟨_, frames, by simp, ink, ran⟩

/-- A push to an idle panel begins to send the frame. -/
theorem displayStep_push {s : Display} {rest : List Action} (free : s.sending = [])
    (next : s.todo = .einkDisplayFrameFromBufferNonBlocking :: rest) (idle : s.busy = false) :
    displayStep icons flash s .nextAction = some { s with
      sending := frameOps s.frames.imgBuffer s.frames.colorBuffer, todo := rest } := by
  simp only [displayStep, free, next, beginAction, idle, einkDisplayFrameFromBufferNonBlocking_idle,
    Option.bind_eq_bind, Option.bind_some]

/-- A push to a busy panel sends nothing. -/
theorem displayStep_refused {s : Display} {rest : List Action} (free : s.sending = [])
    (next : s.todo = .einkDisplayFrameFromBufferNonBlocking :: rest) (busy : s.busy = true) :
    displayStep icons flash s .nextAction = some { s with todo := rest } := by
  simp only [displayStep, free, next, beginAction, busy, einkDisplayFrameFromBufferNonBlocking_busy,
    Option.bind_eq_bind, Option.bind_some]

/-- At an idle panel such a call sends its frame, and has only to clear its buffers behind the
refresh command. -/
theorem exists_run_pushed {s₀ s : Display} {ts : List DisplayTransition}
    (run : Run (displayStep icons flash) s₀ ts s) (free : s.sending = []) (returned : s.todo = [])
    (idle : s.busy = false) (call : DisplayCall)
    (minute : updateData call.rtc = frameActions (updateTimeinfo call.rtc)) :
    ∃ front r clears s' frames, Run (displayStep icons flash) s₀ (ts ++ front ++ r :: clears) s' ∧
      (∀ t ∈ front, t.event ≠ .busyPin true) ∧
      (r.event = .access ∧ r.source.sending = [einkSendCommand displayRefresh]) ∧
      (∀ t ∈ clears, t.event = .nextAction) ∧ s'.sending = [] ∧ s'.todo = [] ∧ s'.busy = false ∧
      s'.frames = blankFrames ∧ s'.composed = some frames ∧
      (∃ p, OnPanel p ∧ frames.imgBuffer.pixel p = true) ∧
      s'.sent = transcript (frameOps frames.imgBuffer frames.colorBuffer) := by
  obtain ⟨composes, frames, calm, ink, before⟩ := exists_run_composed run free returned call minute
  obtain ⟨sends, accesses, sent⟩ := exists_run_sends (before.next (displayStep_push free rfl idle)) rfl
    (quiet_planes _ _).writes
  obtain ⟨clears, cleared, ran⟩ := exists_run_clears (sent.next (e := .access) rfl) rfl rfl
  have shape (push refresh : DisplayTransition) :
      ts ++ composes ++ [push] ++ sends ++ [refresh] ++ clears =
        ts ++ (composes ++ push :: sends) ++ refresh :: clears := by simp
  rw [shape] at ran
  refine ⟨_, _, clears, _, frames, ran, ?_, ⟨rfl, rfl⟩, cleared, rfl, rfl, idle, rfl, rfl, ink, ?_⟩
  · intro t member
    rcases List.mem_append.mp member with early | late
    · exact calm t early
    · rcases List.mem_cons.mp late with rfl | send
      · simp
      · rw [accesses t send]
        simp
  · exact (transcript_append _ [einkSendCommand displayRefresh]).symm

/-- A call at a full minute that is no hour returns; its frame has ink, and is sent if the
panel is idle. In both cases a refresh is then running: the panel has asserted its pin. -/
theorem exists_run_minute {s₀ s : Display} {ts : List DisplayTransition}
    (run : Run (displayStep icons flash) s₀ ts s) (free : s.sending = []) (returned : s.todo = [])
    (call : DisplayCall) (minute : updateData call.rtc = frameActions (updateTimeinfo call.rtc)) :
    ∃ ts' s' frames, Run (displayStep icons flash) s₀ ts' s' ∧ s'.sending = [] ∧ s'.todo = [] ∧
      s'.busy = true ∧ s'.frames = blankFrames ∧ s'.composed = some frames ∧
      (∃ p, OnPanel p ∧ frames.imgBuffer.pixel p = true) ∧
      s'.sent = if s.busy then [] else transcript (frameOps frames.imgBuffer frames.colorBuffer) := by
  cases busy : s.busy with
  | true =>
    obtain ⟨_, frames, _, ink, before⟩ := exists_run_composed run free returned call minute
    obtain ⟨_, _, ran⟩ := exists_run_clears (before.next (displayStep_refused free rfl busy)) free rfl
    exact ⟨_, _, frames, ran, free, rfl, busy, rfl, rfl, ink, rfl⟩
  | false =>
    obtain ⟨_, _, _, s', frames, ran, _, _, _, free', returned', _, blank, composed, ink, sent⟩ :=
      exists_run_pushed run free returned busy call minute
    have falls : displayStep icons flash s' (.busyPin true) = some { s' with busy := true } := rfl
    exact ⟨_, _, frames, ran.next falls, free', returned', rfl, blank, composed, ink, sent⟩

end EpaperClock
