import EpaperClock.Rtc
import Mathlib.Tactic.IntervalCases

/-! The two RTC conversions are inverse on every 32-bit counter value.

Both follow the leap rule of one leap year in four. `IsCalendarTime` is the calendar
they share; the counter range ends in 2106, so the missing century rule only shows
for counter values that `rtcCheckDatetimeFormat` refuses. -/
namespace EpaperClock

open Register

theorem and_three (n : Nat) : n &&& 3 = n % 4 := Nat.and_two_pow_sub_one_eq_mod n 2

/-- Days from the start of 1970 to the start of `year`, with every fourth year leap. -/
def daysBeforeYear (year : Nat) : Nat := 365 * (year - 1970) + (year - 1969) / 4

def yearLength (year : Nat) : Nat := if year &&& 3 = 0 then 366 else 365

/-- Month lengths of `year`, with every fourth year leap; the first entry is not used. -/
def monthLengths (year : Nat) : List Nat :=
  if year &&& 3 = 0 then daysPerMonth.set 2 29 else daysPerMonth

def daysBeforeMonth (lengths : List Nat) (month : Nat) : Nat := (lengths.take month).sum

/-- `datetime` is the calendar reading of `seconds` since 1970. -/
structure IsCalendarTime (datetime : RtcDatetime) (seconds : Nat) : Prop where
  year_low : 1970 ≤ datetime.year
  year_high : datetime.year ≤ 2106
  month_low : 1 ≤ datetime.month
  month_high : datetime.month ≤ 12
  day_low : 1 ≤ datetime.day
  day_high : datetime.day ≤ (monthLengths datetime.year).getD datetime.month 0
  days : daysBeforeYear datetime.year + daysBeforeMonth (monthLengths datetime.year) datetime.month +
    datetime.day = seconds / 86400 + 1
  hour : datetime.hour = seconds % 86400 / 3600
  minute : datetime.minute = seconds % 86400 % 3600 / 60
  second : datetime.second = seconds % 86400 % 3600 % 60

theorem daysBeforeYear_succ (year : Nat) (h : 1970 ≤ year) :
    daysBeforeYear (year + 1) = daysBeforeYear year + yearLength year := by
  simp only [daysBeforeYear, yearLength, and_three]
  split <;> omega

theorem daysBeforeMonth_succ (lengths : List Nat) (month : Nat) :
    daysBeforeMonth lengths (month + 1) = daysBeforeMonth lengths month + lengths.getD month 0 := by
  simp only [daysBeforeMonth, List.take_add_one, List.sum_append, List.getD_eq_getElem?_getD]
  cases lengths[month]? <;> simp

theorem daysBeforeMonth_monthLengths (year month : Nat) (low : 1 ≤ month) (high : month ≤ 12) :
    daysBeforeMonth (monthLengths year) month =
      monthDays.getD month 0 + if year &&& 3 = 0 ∧ 2 < month then 1 else 0 := by
  have common : ∀ m < 13, 1 ≤ m → daysBeforeMonth daysPerMonth m = monthDays.getD m 0 := by decide
  have leap : ∀ m < 13, 1 ≤ m → daysBeforeMonth (daysPerMonth.set 2 29) m =
    monthDays.getD m 0 + if 2 < m then 1 else 0 := by decide
  simp only [monthLengths]
  split
  next four => simp only [four, true_and]; exact leap month (by omega) low
  next four => simp only [four, false_and, if_false, Nat.add_zero]; exact common month (by omega) low

theorem daysBeforeMonth_end (year : Nat) :
    daysBeforeMonth (monthLengths year) 13 = yearLength year := by
  simp only [monthLengths, yearLength]
  split <;> rfl

/-! ### Seconds to calendar -/

/-- The year loop stops inside the last year it reached, before its fuel is used up. -/
theorem yearLoop_checked (fuel days year : Nat) (h : 1970 ≤ year) (pos : 1 ≤ days)
    (enough : days ≤ fuel) (range : daysBeforeYear year + days ≤ 49711) :
    ∃ days' year', yearLoop checked fuel days (yearLength year) year = some (days', year') ∧
      daysBeforeYear year' + days' = daysBeforeYear year + days ∧
      1 ≤ days' ∧ days' ≤ yearLength year' ∧ 1970 ≤ year' ∧ year' ≤ 2106 := by
  induction fuel generalizing days year with
  | zero => omega
  | succ fuel ih =>
    have upper : year ≤ 2106 := by
      simp only [daysBeforeYear] at range
      omega
    simp only [yearLoop]
    split
    next more =>
      -- one more year is taken off; `range` keeps the count below 2107
      have rest : ((days : Int) - yearLength year) = (days - yearLength year : Nat) := by omega
      have len : 365 ≤ yearLength year := by simp only [yearLength]; split <;> omega
      rw [checked_eq_some rest (by omega),
        checked_eq_some (n := year + 1) (by push_cast; rfl) (by omega)]
      simp only [Option.bind_eq_bind, Option.bind_some]
      have next : (if year + 1 &&& 3 ≠ 0 then daysInAYear else daysInAYear + 1) =
          yearLength (year + 1) := by
        simp only [yearLength]
        split <;> simp_all
      rw [next]
      have succ := daysBeforeYear_succ year h
      obtain ⟨days', year', result, total, facts⟩ := ih (days - yearLength year) (year + 1)
        (by omega) (by omega) (by omega) (by omega)
      exact ⟨days', year', result, by omega, facts⟩
    next done =>
      exact ⟨days, year, rfl, rfl, pos, by omega, h, upper⟩

/-- The month loop breaks whenever the days do not reach past its last month, so the month
it was given does not matter. -/
theorem monthLoop_checked (lengths : List Nat) (count x days : Nat)
    (small : x + count ≤ 256) (pos : 1 ≤ days) (fits : days < 2 ^ 32)
    (range : daysBeforeMonth lengths x + days ≤ daysBeforeMonth lengths (x + count)) :
    ∃ days' month', (∀ month, monthLoop checked lengths (List.range' x count) days month =
        some (days', month')) ∧
      daysBeforeMonth lengths month' + days' = daysBeforeMonth lengths x + days ∧
      1 ≤ days' ∧ days' ≤ lengths.getD month' 0 ∧ x ≤ month' ∧ month' < x + count := by
  induction count generalizing x days with
  | zero => simp only [Nat.add_zero] at range; omega
  | succ count ih =>
    simp only [List.range'_succ, monthLoop]
    have next := daysBeforeMonth_succ lengths x
    split
    next found =>
      rw [checked_eq_some (n := x) rfl (by omega)]
      exact ⟨days, x, fun _ => rfl, rfl, pos, found, by omega, by omega⟩
    next later =>
      -- the days of month `x` move from the remainder to the days before the month
      have rest : (days : Int) - lengths.getD x 0 = (days - lengths.getD x 0 : Nat) := by omega
      rw [checked_eq_some rest (by omega)]
      have shift : x + 1 + count = x + (count + 1) := by omega
      obtain ⟨days', month', result, total, first, last, low, high⟩ :=
        ih (x + 1) (days - lengths.getD x 0) (by omega) (by omega) (by omega) (by rw [shift]; omega)
      exact ⟨days', month', result, by omega, first, last, by omega, by omega⟩

theorem monthLengths_le (year month : Nat) : (monthLengths year).getD month 0 ≤ 31 := by
  by_cases inside : month < 13
  · have common : ∀ m < 13, daysPerMonth.getD m 0 ≤ 31 := by decide
    have leap : ∀ m < 13, (daysPerMonth.set 2 29).getD m 0 ≤ 31 := by decide
    simp only [monthLengths]
    split
    · exact leap month inside
    · exact common month inside
  · have outside : (monthLengths year).length ≤ month := by
      simp only [monthLengths]
      split <;> simp [daysPerMonth] <;> omega
    rw [List.getD_eq_default _ _ outside]
    omega

/-- No counter value wraps on its way to a calendar time, and every field is set. -/
theorem rtcConvertSecondsToDatetime_checked (seconds : Nat) (h : seconds < 2 ^ 32) :
    ∃ result, (∀ datetime, rtcConvertSecondsToDatetime checked seconds datetime = some result) ∧
      IsCalendarTime result seconds := by
  have first : daysBeforeYear 1970 = 0 := rfl
  obtain ⟨rest, year, years, total, pos, last, low, high⟩ :=
    yearLoop_checked (seconds / 86400 + 1) (seconds / 86400 + 1) 1970 (by omega) (by omega)
      (by omega) (by omega)
  have january : daysBeforeMonth (monthLengths year) 1 = 0 := by
    simp only [monthLengths]
    split <;> rfl
  have small : yearLength year ≤ 366 := by
    simp only [yearLength]
    split <;> omega
  obtain ⟨day, month, months, within, dayPos, dayLast, monthLow, monthHigh⟩ :=
    monthLoop_checked (monthLengths year) 12 1 rest (by omega) pos (by omega)
      (by rw [daysBeforeMonth_end]; omega)
  have dayBound := monthLengths_le year month
  refine ⟨⟨year, month, day, seconds % 86400 / 3600, seconds % 86400 % 3600 / 60,
    seconds % 86400 % 3600 % 60⟩, ?_,
    ⟨low, high, monthLow, Nat.le_of_lt_succ monthHigh, dayPos, dayLast, ?_, rfl, rfl, rfl⟩⟩
  · intro datetime
    have start : yearLength 1970 = daysInAYear := rfl
    rw [start] at years
    simp only [rtcConvertSecondsToDatetime, secondsInADay, secondsInAHour, secondsInAMinute]
    rw [checked_bind rfl (by omega), checked_bind rfl (by omega), checked_bind rfl (by omega),
      checked_bind rfl (by omega), years]
    simp only [Option.bind_eq_bind, Option.bind_some]
    change (monthLoop checked (monthLengths year) _ _ _).bind _ = _
    rw [months]
    simp only [Option.bind_some]
    rw [checked_nat (by omega)]
    rfl
  · simp only
    omega

/-! ### Calendar to seconds -/

/-- Converting a calendar time back gives its seconds, again without a wrap. -/
theorem rtcConvertDatetimeToSeconds_checked (datetime : RtcDatetime) (seconds : Nat)
    (h : seconds < 2 ^ 32) (time : IsCalendarTime datetime seconds) :
    rtcConvertDatetimeToSeconds checked datetime = some seconds := by
  obtain ⟨yearLow, yearHigh, monthLow, monthHigh, dayLow, dayHigh, days, hour, minute, second⟩ := time
  have dayBound := monthLengths_le datetime.year datetime.month
  rw [daysBeforeMonth_monthLengths _ _ monthLow monthHigh] at days
  simp only [daysBeforeYear, and_three] at days
  have table : monthDays.getD datetime.month 0 ≤ 334 := by
    have all : ∀ m < 13, monthDays.getD m 0 ≤ 334 := by decide
    exact all _ (by omega)
  -- the closed formula counts leap years from 1968, two years before the range
  have leapDays : ((datetime.year / 4 : Nat) - (1970 / 4 : Nat) : Int) =
      ((datetime.year - 1968) / 4 : Nat) := by omega
  -- the day count before the correction for the current year's leap day
  have early : (if datetime.year % 4 = 0 ∧ datetime.month ≤ 2 then
      seconds / 86400 + 1 else seconds / 86400) = (datetime.year - 1970) * 365 +
      (datetime.year - 1968) / 4 + monthDays.getD datetime.month 0 + (datetime.day - 1) := by
    split
    next h => split at days <;> omega
    next h => split at days <;> omega
  have corrected (f : Nat → Option Nat) : ((if datetime.year % 4 = 0 ∧ datetime.month ≤ 2
      then checked 32 (((if datetime.year % 4 = 0 ∧ datetime.month ≤ 2 then
        seconds / 86400 + 1 else seconds / 86400 : Nat) : Int) - 1)
      else pure (if datetime.year % 4 = 0 ∧ datetime.month ≤ 2 then
        seconds / 86400 + 1 else seconds / 86400)) >>= f) = f (seconds / 86400) := by
    split
    next h => exact checked_bind (by omega) (by omega)
    next h => rfl
  simp only [rtcConvertDatetimeToSeconds, and_three, daysInAYear, secondsInADay, secondsInAHour,
    secondsInAMinute]
  rw [checked_bind (n := datetime.year - 1970) (by omega) (by omega),
    checked_bind rfl (by omega), checked_bind leapDays (by omega), checked_bind rfl (by omega),
    checked_bind rfl (by omega), checked_bind (n := datetime.day - 1) (by omega) (by omega),
    checked_bind rfl (by omega), ← early, corrected, checked_bind rfl (by omega),
    checked_bind rfl (by omega), checked_bind rfl (by omega), checked_bind rfl (by omega),
    checked_bind rfl (by omega)]
  exact checked_eq_some (by omega) (by omega)

/-! ### The machine computes what was checked -/

theorem yearLoop_agrees (fuel days daysInYear year : Nat) :
    Agrees (yearLoop checked fuel days daysInYear year) (yearLoop wrap fuel days daysInYear year) := by
  induction fuel generalizing days daysInYear year with
  | zero => exact .pure _
  | succ fuel ih =>
    exact .ite (.bind (.store _ _) fun _ => .bind (.store _ _) fun _ => ih _ _ _) (.pure _)

theorem monthLoop_agrees (lengths months : List Nat) (days month : Nat) :
    Agrees (monthLoop checked lengths months days month) (monthLoop wrap lengths months days month) := by
  induction months generalizing days with
  | nil => exact .pure _
  | cons x rest ih =>
    exact .ite (.bind (.store _ _) fun _ => .pure _) (.bind (.store _ _) fun _ => ih _)

theorem rtcConvertSecondsToDatetime_agrees (seconds : Nat) (datetime : RtcDatetime) :
    Agrees (rtcConvertSecondsToDatetime checked seconds datetime)
      (rtcConvertSecondsToDatetime wrap seconds datetime) :=
  .bind (.store _ _) fun _ => .bind (.store _ _) fun _ => .bind (.store _ _) fun _ =>
    .bind (.store _ _) fun _ => .bind (yearLoop_agrees _ _ _ _) fun _ =>
      .bind (monthLoop_agrees _ _ _ _) fun _ => .bind (.store _ _) fun _ => .pure _

theorem rtcConvertDatetimeToSeconds_agrees (datetime : RtcDatetime) :
    Agrees (rtcConvertDatetimeToSeconds checked datetime)
      (rtcConvertDatetimeToSeconds wrap datetime) :=
  .bind (.store _ _) fun _ => .bind (.store _ _) fun _ => .bind (.store _ _) fun _ =>
    .bind (.store _ _) fun _ => .bind (.store _ _) fun _ => .bind (.store _ _) fun _ =>
      .bind (.store _ _) fun _ => .bind (.ite (.store _ _) (.pure _)) fun _ =>
        .bind (.store _ _) fun _ => .bind (.store _ _) fun _ => .bind (.store _ _) fun _ =>
          .bind (.store _ _) fun _ => .bind (.store _ _) fun _ => .store _ _

theorem datetimeOfSeconds_checked (seconds : UInt32) :
    (∀ datetime, rtcConvertSecondsToDatetime checked seconds.toNat datetime =
      some (datetimeOfSeconds seconds)) ∧
      IsCalendarTime (datetimeOfSeconds seconds) seconds.toNat := by
  obtain ⟨result, returned, time⟩ :=
    rtcConvertSecondsToDatetime_checked seconds.toNat seconds.toNat_lt
  have machine : datetimeOfSeconds seconds = result :=
    rtcConvertSecondsToDatetime_agrees _ _ result (returned default)
  rw [machine]
  exact ⟨returned, time⟩

theorem datetimeOfSeconds_isCalendarTime (seconds : UInt32) :
    IsCalendarTime (datetimeOfSeconds seconds) seconds.toNat :=
  (datetimeOfSeconds_checked seconds).2

theorem secondsOfDatetime_checked (seconds : UInt32) :
    rtcConvertDatetimeToSeconds checked (datetimeOfSeconds seconds) = some seconds.toNat :=
  rtcConvertDatetimeToSeconds_checked _ _ seconds.toNat_lt (datetimeOfSeconds_isCalendarTime seconds)

/-- The driver reads back every value of the counter. -/
@[simp] theorem secondsOfDatetime_datetimeOfSeconds (seconds : UInt32) :
    secondsOfDatetime (datetimeOfSeconds seconds) = seconds := by
  have machine : rtcConvertDatetimeToSeconds wrap (datetimeOfSeconds seconds) = seconds.toNat :=
    rtcConvertDatetimeToSeconds_agrees _ _ (secondsOfDatetime_checked seconds)
  rw [secondsOfDatetime, machine]
  exact UInt32.ofNat_toNat

/-! ### The validity check -/

/-- Up to 2099 the century rule and the rule of four agree. -/
theorem leapRules_agree (year : Nat) (low : 1970 ≤ year) (high : year ≤ 2099) :
    ((year &&& 3 = 0 ∧ year % 100 ≠ 0) ∨ year % 400 = 0) ↔ year &&& 3 = 0 := by
  rw [and_three]
  omega

/-- The calendar time of a counter value is refused exactly from 2100 on. -/
theorem rtcCheckDatetimeFormat_iff (datetime : RtcDatetime) (seconds : Nat)
    (time : IsCalendarTime datetime seconds) :
    rtcCheckDatetimeFormat datetime = true ↔ seconds < 4102444800 := by
  obtain ⟨yearLow, yearHigh, monthLow, monthHigh, dayLow, dayHigh, days, hour, minute, second⟩ := time
  have upper : daysBeforeMonth (monthLengths datetime.year) datetime.month + datetime.day ≤
      yearLength datetime.year := by
    rw [← daysBeforeMonth_end]
    have table : ∀ m < 13, 1 ≤ m → ∀ y, daysBeforeMonth (monthLengths y) (m + 1) ≤
        daysBeforeMonth (monthLengths y) 13 := by
      intro m high low y
      simp only [monthLengths]
      split <;> interval_cases m <;> decide
    have step := daysBeforeMonth_succ (monthLengths datetime.year) datetime.month
    have last := table datetime.month (by omega) monthLow datetime.year
    omega
  have length : yearLength datetime.year ≤ 366 := by
    simp only [yearLength]
    split <;> omega
  -- 4102444800 is the first second of 2100
  have century : datetime.year ≤ 2099 ↔ seconds < 4102444800 := by
    simp only [daysBeforeYear] at days
    constructor
    · intro early
      rcases Nat.lt_or_ge datetime.year 2099 with before | at_end
      · omega
      · have last : datetime.year = 2099 := by omega
        rw [last] at days upper
        have common : yearLength 2099 = 365 := rfl
        omega
    · intro early
      omega
  simp only [rtcCheckDatetimeFormat, yearRangeStart, yearRangeEnd]
  split
  next bad => simp only [Bool.false_eq_true, false_iff]; omega
  next good =>
    have range : datetime.year ≤ 2099 := by omega
    simp only [leapRules_agree datetime.year yearLow range]
    change (if datetime.day > (monthLengths datetime.year).getD datetime.month 0 ∨
      datetime.day < 1 then false else true) = true ↔ _
    rw [if_neg (by omega)]
    simpa using century.mp range

theorem rtcCheckDatetimeFormat_datetimeOfSeconds (seconds : UInt32) :
    rtcCheckDatetimeFormat (datetimeOfSeconds seconds) = true ↔ seconds < 4102444800 := by
  rw [rtcCheckDatetimeFormat_iff _ _ (datetimeOfSeconds_isCalendarTime seconds), UInt32.lt_iff_toNat_lt]
  rfl

end EpaperClock
