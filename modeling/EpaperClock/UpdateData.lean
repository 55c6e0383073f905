import EpaperClock.LocalTime
import EpaperClock.RtcRoundTrip

/-! `updateData` of `main_epaper_clock.c` as the sequence of actions it performs. -/
namespace EpaperClock

inductive RefreshMode where
  | fullRefresh
  | fastRefresh
  deriving DecidableEq, Repr

/-- The two 5808-byte frame buffers. -/
inductive FrameBuffer where
  | imgBuffer
  | colorBuffer
  deriving DecidableEq, Repr

/-- The calls of `updateData`. Formatting and painting a frame is one action; it
depends on the time only through `timeinfo`. -/
inductive Action where
  | einkSetRefreshMode (refreshMode : RefreshMode)
  | einkClearFrame
  | einkDisplayFrameFromSRAMBlocking
  | composeFrame (timeinfo : Tm)
  | einkDisplayFrameFromBufferNonBlocking
  | paintClear (image : FrameBuffer)
  | dnsSendHttpRequest (url : String)
  deriving DecidableEq, Repr

def apiUrl : String := "api.openweathermap.org"

/-- The timestamp that `updateData` recomputes from the RTC. -/
def updateTimestamp (rtc : Rtc) : UInt32 := secondsOfDatetime (rtcGetDatetime rtc)

/-- The local time that `updateData` shows. -/
def updateTimeinfo (rtc : Rtc) : Tm := getLocalizedTime (updateTimestamp rtc).toNat est

def updateData (rtc : Rtc) : List Action :=
  let timeinfo := updateTimeinfo rtc
  (if timeinfo.tmSec = 0 then
    -- at midnight, do a full refresh; clear screen every hour
    (if timeinfo.tmHour = 0 ∧ timeinfo.tmMin = 0 then
      [.einkSetRefreshMode .fullRefresh, .einkClearFrame, .einkDisplayFrameFromSRAMBlocking,
        .einkSetRefreshMode .fastRefresh]
    else if timeinfo.tmMin % 60 = 0 then
      [.einkClearFrame, .einkDisplayFrameFromSRAMBlocking, .einkDisplayFrameFromSRAMBlocking,
        .einkDisplayFrameFromSRAMBlocking]
    else []) ++
    [.composeFrame timeinfo, .einkDisplayFrameFromBufferNonBlocking, .paintClear .imgBuffer,
      .paintClear .colorBuffer]
  else []) ++
  if timeinfo.tmSec = 30 then [.dnsSendHttpRequest apiUrl] else []

/-- The RTC's calendar does not disturb the counter value. -/
@[simp] theorem updateTimestamp_eq (rtc : Rtc) : updateTimestamp rtc = rtc.tsr := by
  simp [updateTimestamp, rtcGetDatetime]

/-- Time-zone shifts are whole hours, so the local second is the counter's. -/
theorem updateTimeinfo_tmSec (rtc : Rtc) : (updateTimeinfo rtc).tmSec = rtc.tsr.toNat % 60 := by
  simp only [updateTimeinfo, updateTimestamp_eq, getLocalizedTime, gmtime, est]
  omega

/-- A frame is composed exactly at second 0, and it shows the local time just read. -/
theorem composeFrame_mem_updateData (rtc : Rtc) (timeinfo : Tm) :
    Action.composeFrame timeinfo ∈ updateData rtc ↔
      rtc.tsr.toNat % 60 = 0 ∧ timeinfo = updateTimeinfo rtc := by
  have second := updateTimeinfo_tmSec rtc
  simp only [updateData]
  split
  next boundary =>
    have zero : rtc.tsr.toNat % 60 = 0 := by omega
    split
    · simp [zero]
    · split <;> simp [zero]
  next inside =>
    have nonzero : ¬rtc.tsr.toNat % 60 = 0 := by omega
    split <;> simp [nonzero]

/-- Date, hour and minute of a local time. -/
structure Minute where
  tmYear : Int
  tmMon : Int
  tmMday : Int
  tmHour : Int
  tmMin : Int
  deriving DecidableEq, Repr

def Tm.minute (timeinfo : Tm) : Minute :=
  ⟨timeinfo.tmYear, timeinfo.tmMon, timeinfo.tmMday, timeinfo.tmHour, timeinfo.tmMin⟩

/-- The minute last drawn into the frame, after the given actions. -/
def lastDrawn (drawn : Option Minute) : List Action → Option Minute
  | [] => drawn
  | .composeFrame timeinfo :: rest => lastDrawn (some timeinfo.minute) rest
  | _ :: rest => lastDrawn drawn rest

theorem lastDrawn_updateData (drawn : Option Minute) (rtc : Rtc) :
    lastDrawn drawn (updateData rtc) =
      if rtc.tsr.toNat % 60 = 0 then some (updateTimeinfo rtc).minute else drawn := by
  have second := updateTimeinfo_tmSec rtc
  simp only [updateData]
  split
  next boundary =>
    have zero : rtc.tsr.toNat % 60 = 0 := by omega
    have notThirty : ¬(updateTimeinfo rtc).tmSec = 30 := by omega
    rw [if_pos zero, if_neg notThirty]
    split
    · rfl
    · split <;> rfl
  next inside =>
    have nonzero : ¬rtc.tsr.toNat % 60 = 0 := by omega
    rw [if_neg nonzero]
    split <;> rfl

end EpaperClock
