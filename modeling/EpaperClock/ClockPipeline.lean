import EpaperClock.Sntp
import EpaperClock.UpdateData

/-! From an SNTP reply through the RTC to the timestamp that `updateData` works with. -/
namespace EpaperClock

open Register

/-- Neither conversion wraps on the way out of the RTC, whatever the output held before. -/
theorem updateTimestamp_checked (rtc : Rtc) (output : RtcDatetime) :
    rtcConvertSecondsToDatetime checked rtc.tsr.toNat output = some (rtcGetDatetime rtc) ∧
      rtcConvertDatetimeToSeconds checked (rtcGetDatetime rtc) = some rtc.tsr.toNat :=
  ⟨(datetimeOfSeconds_checked rtc.tsr).1 output, secondsOfDatetime_checked rtc.tsr⟩

theorem sntpProcess_tsr (xmitSec : UInt32) (rtc : Rtc) :
    (sntpProcess xmitSec rtc).tsr =
      if xmitSec + 2085978496 < 4102444800 then xmitSec + 2085978496 else rtc.tsr := by
  rw [sntpProcess_eq]
  simp only [sntpAccepts_iff, internetTime_eq]

/-- An accepted reply is the counter value, and `updateData` gets every counter value
back through the calendar, without a wrap in either conversion. -/
theorem clockPipeline_roundTrip :
    (∀ (xmitSec : UInt32) (rtc : Rtc), (sntpProcess xmitSec rtc).tsr =
      if xmitSec + 2085978496 < 4102444800 then xmitSec + 2085978496 else rtc.tsr) ∧
    ∀ (rtc : Rtc) (output : RtcDatetime), updateTimestamp rtc = rtc.tsr ∧
      rtcConvertSecondsToDatetime checked rtc.tsr.toNat output = some (rtcGetDatetime rtc) ∧
      rtcConvertDatetimeToSeconds checked (rtcGetDatetime rtc) = some rtc.tsr.toNat := by
  constructor
  · exact sntpProcess_tsr
  · intro rtc output
    exact ⟨updateTimestamp_eq rtc, updateTimestamp_checked rtc output⟩

/-- The time shown right after an accepted reply is the reply's, in local time. -/
theorem updateTimeinfo_sntpProcess (xmitSec : UInt32) (rtc : Rtc)
    (accepted : sntpAccepts xmitSec = true) :
    updateTimeinfo (sntpProcess xmitSec rtc) =
      getLocalizedTime (internetTime xmitSec).toNat est := by
  rw [updateTimeinfo, updateTimestamp_eq, sntpProcess_eq, if_pos accepted]

end EpaperClock
