import EpaperClock.Library.Register
import Mathlib.Data.UInt

/-! The Kinetis RTC driver, `drivers/fsl_rtc.c` and `drivers/fsl_rtc.h`.

Both calendar conversions are written over `Register.Store`, so the same text is
the machine's computation under `wrap` and a check for wrap-around under `checked`. -/
namespace EpaperClock

/-- `rtc_datetime_t`. -/
structure RtcDatetime where
  year : Nat
  month : Nat
  day : Nat
  hour : Nat
  minute : Nat
  second : Nat
  deriving DecidableEq, Repr, Inhabited

abbrev secondsInADay : Nat := 86400
abbrev secondsInAHour : Nat := 3600
abbrev secondsInAMinute : Nat := 60
abbrev daysInAYear : Nat := 365
abbrev yearRangeStart : Nat := 1970
abbrev yearRangeEnd : Nat := 2099

/-- Days in a month of a non-leap year; the first entry is not used. -/
def daysPerMonth : List Nat := [0, 31, 28, 31, 30, 31, 30, 31, 31, 30, 31, 30, 31]

/-- Days before a month of a non-leap year; the first entry is not used. -/
def monthDays : List Nat := [0, 0, 31, 59, 90, 120, 151, 181, 212, 243, 273, 304, 334]

/-- `RTC_CheckDatetimeFormat`, the only place with the century leap rule. -/
def rtcCheckDatetimeFormat (datetime : RtcDatetime) : Bool :=
  if datetime.year < yearRangeStart ∨ datetime.year > yearRangeEnd ∨ datetime.month > 12 ∨
      datetime.month < 1 ∨ datetime.hour ≥ 24 ∨ datetime.minute ≥ 60 ∨ datetime.second ≥ 60 then
    false
  else
    let lengths := if (datetime.year &&& 3 = 0 ∧ datetime.year % 100 ≠ 0) ∨ datetime.year % 400 = 0
      then daysPerMonth.set 2 29 else daysPerMonth
    if datetime.day > lengths.getD datetime.month 0 ∨ datetime.day < 1 then false else true

section Conversions

variable {M : Type → Type} [Monad M] (store : Register.Store M)

/-- `RTC_ConvertDatetimeToSeconds`. -/
def rtcConvertDatetimeToSeconds (datetime : RtcDatetime) : M Nat := do
  let years ← store 32 ((datetime.year : Int) - 1970)
  let seconds ← store 32 (years * daysInAYear : Nat)
  let leapDays ← store 32 ((datetime.year / 4 : Nat) - (1970 / 4 : Nat) : Int)
  let seconds ← store 32 (seconds + leapDays : Nat)
  let seconds ← store 32 (seconds + monthDays.getD datetime.month 0 : Nat)
  let dayIndex ← store 32 ((datetime.day : Int) - 1)
  let seconds ← store 32 (seconds + dayIndex : Nat)
  -- the leap day of the current year was counted above, before it was reached
  let seconds ← (if datetime.year &&& 3 = 0 ∧ datetime.month ≤ 2
    then store 32 ((seconds : Int) - 1) else pure seconds)
  let days ← store 32 (seconds * secondsInADay : Nat)
  let hours ← store 32 (datetime.hour * secondsInAHour : Nat)
  let minutes ← store 32 (datetime.minute * secondsInAMinute : Nat)
  let seconds ← store 32 (days + hours : Nat)
  let seconds ← store 32 (seconds + minutes : Nat)
  store 32 (seconds + datetime.second : Nat)

/-- `while (days > daysInYear)`; `fuel` bounds the number of iterations. -/
def yearLoop : Nat → Nat → Nat → Nat → M (Nat × Nat)
  | 0, days, _, year => pure (days, year)
  | fuel + 1, days, daysInYear, year =>
    if days > daysInYear then do
      let days ← store 32 ((days : Int) - daysInYear)
      let year ← store 16 (year + 1 : Nat)
      let daysInYear := if year &&& 3 ≠ 0 then daysInAYear else daysInAYear + 1
      yearLoop fuel days daysInYear year
    else pure (days, year)

/-- `for (x = 1U; x <= 12U; x++)` over the months that are left. The month is only
assigned where the loop breaks. -/
def monthLoop (lengths : List Nat) : List Nat → Nat → Nat → M (Nat × Nat)
  | [], days, month => pure (days, month)
  | x :: rest, days, month =>
    if days ≤ lengths.getD x 0 then do
      let month ← store 8 x
      pure (days, month)
    else do
      let days ← store 32 ((days : Int) - lengths.getD x 0)
      monthLoop lengths rest days month

/-- `RTC_ConvertSecondsToDatetime`; `datetime` is what the output pointer held before. -/
def rtcConvertSecondsToDatetime (seconds : Nat) (datetime : RtcDatetime) : M RtcDatetime := do
  let days ← store 32 (seconds / secondsInADay + 1 : Nat)
  let secondsRemaining := seconds % secondsInADay
  let hour ← store 8 (secondsRemaining / secondsInAHour : Nat)
  let secondsRemaining := secondsRemaining % secondsInAHour
  let minute ← store 8 (secondsRemaining / 60 : Nat)
  let second ← store 8 (secondsRemaining % secondsInAMinute : Nat)
  let (days, year) ← yearLoop store days days daysInAYear yearRangeStart
  let lengths := if year &&& 3 = 0 then daysPerMonth.set 2 29 else daysPerMonth
  let (days, month) ← monthLoop store lengths (List.range' 1 12) days datetime.month
  let day ← store 8 days
  pure ⟨year, month, day, hour, minute, second⟩

end Conversions

/-- The machine's conversion of a counter value; the output struct is on the caller's
stack and every field is overwritten. -/
def datetimeOfSeconds (seconds : UInt32) : RtcDatetime :=
  Id.run (rtcConvertSecondsToDatetime Register.wrap seconds.toNat default)

/-- The machine's conversion back to seconds. -/
def secondsOfDatetime (datetime : RtcDatetime) : UInt32 :=
  UInt32.ofNat (Id.run (rtcConvertDatetimeToSeconds Register.wrap datetime))

/-- The peripheral: the seconds register `TSR` and the counter enable bit `SR[TCE]`. -/
structure Rtc where
  tsr : UInt32
  tce : Bool
  deriving DecidableEq, Repr

inductive Status where
  | kStatusSuccess
  | kStatusInvalidArgument
  deriving DecidableEq, Repr

/-- `RTC_StartTimer`. -/
def rtcStartTimer (rtc : Rtc) : Rtc := { rtc with tce := true }

/-- `RTC_StopTimer`. -/
def rtcStopTimer (rtc : Rtc) : Rtc := { rtc with tce := false }

/-- A store to `TSR` takes effect only while the counter is stopped. -/
def Rtc.writeTsr (rtc : Rtc) (seconds : UInt32) : Rtc :=
  if rtc.tce then rtc else { rtc with tsr := seconds }

/-- `RTC_SetDatetime`. -/
def rtcSetDatetime (rtc : Rtc) (datetime : RtcDatetime) : Status × Rtc :=
  if ¬rtcCheckDatetimeFormat datetime then (.kStatusInvalidArgument, rtc)
  else (.kStatusSuccess, rtc.writeTsr (secondsOfDatetime datetime))

/-- `RTC_GetDatetime`. -/
def rtcGetDatetime (rtc : Rtc) : RtcDatetime := datetimeOfSeconds rtc.tsr

end EpaperClock
