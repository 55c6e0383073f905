import EpaperClock.Library.Run
import EpaperClock.Sntp
import EpaperClock.UpdateData

/-! The main loop, the seconds interrupt and the SNTP client, interleaved.

`updateData` reads the counter once, at its start; a second that passes while it
refreshes the panel is a `second` event after it. -/
namespace EpaperClock

open StepSystem

inductive Phase where
  -- in the loop, before the test of `g_SecsFlag`
  | polling
  -- the flag is cleared and `updateData` is about to be called
  | updating
  deriving DecidableEq, Repr

/-- `drawn` is the minute last drawn into the frame. -/
structure Clock where
  rtc : Rtc
  gSecsFlag : Bool
  phase : Phase
  drawn : Option Minute
  deriving DecidableEq, Repr

inductive ClockEvent where
  -- the counter advances and `RTC_Seconds_IRQHandler` runs
  | second
  -- `ethernetif_input` delivers an SNTP reply
  | sntpReply (xmitSec : UInt32)
  -- `if (g_SecsFlag)`
  | testFlag
  | updateData
  deriving DecidableEq, Repr

def clockStep (s : Clock) : ClockEvent → Option Clock
  | .second =>
    if s.rtc.tce then some { s with rtc.tsr := s.rtc.tsr + 1, gSecsFlag := true } else none
  | .sntpReply xmitSec =>
    -- replies are only taken from the interface between two calls of `updateData`
    if s.phase = .polling then some { s with rtc := sntpProcess xmitSec s.rtc } else none
  | .testFlag =>
    -- however many seconds have passed, the flag holds one of them
    if s.phase = .polling then
      some (if s.gSecsFlag then { s with gSecsFlag := false, phase := .updating } else s)
    else none
  | .updateData =>
    if s.phase = .updating then
      some { s with phase := .polling, drawn := lastDrawn s.drawn (updateData s.rtc) }
    else none

/-- Everything one step can do. -/
theorem clockStep_cases {s s' : Clock} {e : ClockEvent} (taken : clockStep s e = some s') :
    (e = .second ∧ s.rtc.tce = true ∧
      s' = { s with rtc.tsr := s.rtc.tsr + 1, gSecsFlag := true }) ∨
    (∃ xmitSec, e = .sntpReply xmitSec ∧ s.phase = .polling ∧
      s' = { s with rtc := sntpProcess xmitSec s.rtc }) ∨
    (e = .testFlag ∧ s.phase = .polling ∧ s.gSecsFlag = false ∧ s' = s) ∨
    (e = .testFlag ∧ s.phase = .polling ∧ s.gSecsFlag = true ∧
      s' = { s with gSecsFlag := false, phase := .updating }) ∨
    (e = .updateData ∧ s.phase = .updating ∧
      s' = { s with phase := .polling, drawn := lastDrawn s.drawn (updateData s.rtc) }) := by
  cases e <;>
    simp only [clockStep, Option.ite_none_right_eq_some, Option.some.injEq] at taken <;>
    obtain ⟨enabled, rfl⟩ := taken
  case second => exact .inl ⟨rfl, enabled, rfl⟩
  case sntpReply xmitSec => exact .inr (.inl ⟨xmitSec, rfl, enabled, rfl⟩)
  case testFlag =>
    cases flag : s.gSecsFlag with
    | false => exact .inr (.inr (.inl ⟨rfl, enabled, rfl, by simp⟩))
    | true => exact .inr (.inr (.inr (.inl ⟨rfl, enabled, rfl, by simp⟩)))
  case updateData => exact .inr (.inr (.inr (.inr ⟨rfl, enabled, rfl⟩)))

/-- Only `updateData` draws, and it draws only at a second 0. -/
theorem clockStep_drawn {s s' : Clock} {e : ClockEvent} (taken : clockStep s e = some s') :
    s'.drawn = if e = .updateData ∧ s.rtc.tsr.toNat % 60 = 0 then some (updateTimeinfo s.rtc).minute
      else s.drawn := by
  rcases clockStep_cases taken with ⟨rfl, _, rfl⟩ | ⟨_, rfl, _, rfl⟩ | ⟨rfl, _, _, rfl⟩ |
    ⟨rfl, _, _, rfl⟩ | ⟨rfl, _, rfl⟩
  · rfl
  · rfl
  · rfl
  · rfl
  · simp only [true_and]
    exact lastDrawn_updateData _ _

/-- What `main` leaves after the RTC setup: the counter is stopped, its value is arbitrary. -/
def boot (tsr : UInt32) : Clock := ⟨⟨tsr, false⟩, false, .polling, none⟩

abbrev ClockTransition := Transition Clock ClockEvent

end EpaperClock
