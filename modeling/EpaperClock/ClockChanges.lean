import EpaperClock.MidnightRefresh

/-! When the local clock jumps. -/
namespace EpaperClock

open Gregorian

/-- The seconds that a broken-down time shows. -/
def Tm.clockSeconds (timeinfo : Tm) : Int :=
  (yearStart (timeinfo.tmYear + 1900) +
    monthStart (isLeap (timeinfo.tmYear + 1900)) (timeinfo.tmMon + 1).toNat +
    (timeinfo.tmMday - 1)) * 86400 + timeinfo.tmHour * 3600 + timeinfo.tmMin * 60 + timeinfo.tmSec

def localClock (time : Int) : Int := (getLocalizedTime time est).clockSeconds

/-- The date in standard time. -/
def standardDate (time : Int) : Date := ofDayNumber ((time - 5 * 3600) / 86400)

theorem clockSeconds_gmtime (time : Int) : (gmtime time).clockSeconds = time := by
  have date := dayNumber_ofDayNumber (time / 86400)
  have day := (ofDayNumber (time / 86400)).day_pos
  simp only [Date.dayNumber, Date.dayOfYear] at date
  simp only [Tm.clockSeconds, gmtime, Int.sub_add_cancel, Int.toNat_natCast]
  omega

theorem dayNumber_standardDate (time : Int) :
    (standardDate time).dayNumber = (time - 5 * 3600) / 86400 := dayNumber_ofDayNumber _

theorem year_standardDate (time : Int) :
    (standardDate time).year = yearOf ((time - 5 * 3600) / 86400) := by
  rw [standardDate, ofDayNumber]

/-- The date in standard time decides about the hour. -/
theorem getLocalizedTime_eq (time : Int) : getLocalizedTime time est =
    if secondSundayOfMarch (standardDate time).year ≤ (standardDate time).dayNumber ∧
        (standardDate time).dayNumber < firstSundayOfNovember (standardDate time).year then
      gmtime (time - 4 * 3600)
    else gmtime (time - 5 * 3600) := by
  have rule := isDst_gmtime_iff (time - 5 * 3600)
  rw [getLocalizedTime_est, dayNumber_standardDate, year_standardDate]
  exact if_congr rule rfl rfl

theorem localClock_eq (time : Int) : localClock time =
    if DstDay ((time - 5 * 3600) / 86400) then time - 4 * 3600 else time - 5 * 3600 := by
  rw [localClock, getLocalizedTime_eq, dayNumber_standardDate, year_standardDate,
    apply_ite Tm.clockSeconds, clockSeconds_gmtime, clockSeconds_gmtime]
  exact if_congr Iff.rfl rfl rfl

/-- How far the local clock goes in a second. -/
def advance (time : Int) : Int := localClock (time + 1) - localClock time

/-- Within a day of standard time the clock goes evenly. -/
theorem advance_within_day {time : Int}
    (within : (time + 1 - 5 * 3600) / 86400 = (time - 5 * 3600) / 86400) : advance time = 1 := by
  rw [advance, localClock_eq, localClock_eq, within]
  split <;> omega

/-- At the end of a day it jumps if the next day is one of the two Sundays. -/
theorem advance_at_midnight {time day : Int} (midnight : time + 1 = day * 86400 + 5 * 3600) :
    advance time = if day = secondSundayOfMarch (yearOf day) then 3601
      else if day = firstSundayOfNovember (yearOf day) then -3599 else 1 := by
  have today : (time - 5 * 3600) / 86400 = day - 1 := by omega
  have tomorrow : (time + 1 - 5 * 3600) / 86400 = day := by omega
  have changes := dstDay_pred_iff day
  rw [advance, localClock_eq, localClock_eq, today, tomorrow]
  simp only [← changes.1, ← changes.2]
  by_cases before : DstDay (day - 1)
  · by_cases after : DstDay day
    · simp only [before, after, if_true, not_true, false_and, and_false, if_false]
      omega
    · simp only [before, after, if_true, not_true, not_false_eq_true, and_self, if_false]
      omega
  · by_cases after : DstDay day
    · simp only [before, after, if_true, not_false_eq_true, and_self, if_false]
      omega
    · simp only [before, after, false_and, and_false, if_false]
      omega

/-! ### The changes of a year -/

/-- The day before is in the same year, except on New Year's Day. -/
theorem yearOf_pred {day : Int} (later : yearStart (yearOf day) < day) :
    yearOf (day - 1) = yearOf day := by
  have spec := yearOf_spec day
  exact yearOf_eq (by omega) (by omega)

theorem yearOf_secondSundayOfMarch (year : Int) : yearOf (secondSundayOfMarch year) = year := by
  have range := secondSundayOfMarch_range year
  exact yearOf_eq_of_lt (by omega) (by omega)

theorem yearOf_firstSundayOfNovember (year : Int) : yearOf (firstSundayOfNovember year) = year := by
  have range := firstSundayOfNovember_range year
  exact yearOf_eq_of_lt (by omega) (by omega)

/-- The clock jumps only at the beginning of the two Sundays. -/
theorem sunday_of_change {time : Int} (change : advance time ≠ 1) :
    time + 1 = secondSundayOfMarch (standardDate time).year * 86400 + 5 * 3600 ∨
      time + 1 = firstSundayOfNovember (standardDate time).year * 86400 + 5 * 3600 := by
  by_cases within : (time + 1 - 5 * 3600) / 86400 = (time - 5 * 3600) / 86400
  · exact absurd (advance_within_day within) change
  · obtain ⟨day, midnight⟩ : ∃ day, time + 1 = day * 86400 + 5 * 3600 :=
      ⟨(time + 1 - 5 * 3600) / 86400, by omega⟩
    have yesterday : (time - 5 * 3600) / 86400 = day - 1 := by omega
    have march := secondSundayOfMarch_range (yearOf day)
    have november := firstSundayOfNovember_range (yearOf day)
    rw [advance_at_midnight midnight] at change
    rw [year_standardDate, yesterday]
    -- neither Sunday is New Year's Day
    split at change
    next sunday =>
      left
      rw [yearOf_pred (by omega), ← sunday]
      exact midnight
    next =>
      split at change
      next sunday =>
        right
        rw [yearOf_pred (by omega), ← sunday]
        exact midnight
      next => exact absurd rfl change

/-- In a year the clock jumps twice, an hour forward and an hour back. -/
def TwoClockChanges (year : Int) : Prop :=
  ∃ skip step, (standardDate skip).year = year ∧ (standardDate step).year = year ∧
    advance skip = 3601 ∧ advance step = -3599 ∧
    ∀ time, (standardDate time).year = year → time ≠ skip → time ≠ step → advance time = 1

/-- Every second of the year is one of the 32-bit times on which the clock shows a time after
its epoch. -/
def WhollyInside (year : Int) : Prop :=
  ∀ time, (standardDate time).year = year → 18000 ≤ time ∧ time < 2 ^ 32

theorem year_before (year : Int) {day : Int} (start : yearStart year + 66 ≤ day)
    (last : day < yearStart year + 312) :
    (standardDate (day * 86400 + 5 * 3600 - 1)).year = year := by
  rw [year_standardDate]
  exact yearOf_eq_of_lt (by omega) (by omega)

theorem twoClockChanges (year : Int) : TwoClockChanges year := by
  have march := secondSundayOfMarch_range year
  have november := firstSundayOfNovember_range year
  refine ⟨secondSundayOfMarch year * 86400 + 5 * 3600 - 1,
    firstSundayOfNovember year * 86400 + 5 * 3600 - 1, year_before year (by omega) (by omega),
    year_before year (by omega) (by omega), ?_, ?_, ?_⟩
  · rw [advance_at_midnight (Int.sub_add_cancel _ 1), yearOf_secondSundayOfMarch, if_pos rfl]
  · rw [advance_at_midnight (Int.sub_add_cancel _ 1), yearOf_firstSundayOfNovember,
      if_neg (by omega), if_pos rfl]
  · rintro time rfl notSkip notStep
    by_contra change
    rcases sunday_of_change change with skip | step
    · omega
    · omega

/-- No clock change of a 32-bit time lies in a year that the times cover in part. -/
theorem wholly_inside_of_change {time : Int} (first : 18000 ≤ time) (last : time + 1 < 2 ^ 32)
    (change : advance time ≠ 1) : WhollyInside (standardDate time).year := by
  have spec := yearOf_spec ((time - 5 * 3600) / 86400)
  have march := secondSundayOfMarch_range (standardDate time).year
  have november := firstSundayOfNovember_range (standardDate time).year
  have sunday := sunday_of_change change
  rw [year_standardDate] at march november sunday ⊢
  generalize yearOf ((time - 5 * 3600) / 86400) = year at spec march november sunday ⊢
  have epoch : yearStart 1970 = 0 := rfl
  have lastStart : yearStart 2106 = 49673 := rfl
  -- the times end in the first weeks of 2106
  have begun : 1970 ≤ year := by
    by_contra before
    have ended := yearStart_le (by omega : year + 1 ≤ 1970)
    omega
  have ended : year + 1 ≤ 2106 := by
    by_contra after
    have late := yearStart_le (by omega : 2106 ≤ year)
    omega
  have first := yearStart_le begun
  have last := yearStart_le ended
  intro other inYear
  have within := yearOf_spec ((other - 5 * 3600) / 86400)
  rw [year_standardDate] at inYear
  rw [inYear] at within
  omega

/-- The rule of the dates, and the jumps of the clock that follow: two in every year that the
32-bit times cover, and no others. -/
theorem getLocalizedTime_dateRule :
    (∀ time, getLocalizedTime time est =
      if secondSundayOfMarch (standardDate time).year ≤ (standardDate time).dayNumber ∧
          (standardDate time).dayNumber < firstSundayOfNovember (standardDate time).year then
        gmtime (time - 4 * 3600)
      else gmtime (time - 5 * 3600)) ∧
    (∀ year, WhollyInside year → TwoClockChanges year) ∧
    ∀ time, 18000 ≤ time → time + 1 < 2 ^ 32 → advance time ≠ 1 →
      WhollyInside (standardDate time).year :=
  ⟨getLocalizedTime_eq, fun year _ => twoClockChanges year, fun _ => wholly_inside_of_change⟩

/-- The last second of March 9th 2024, in standard time. -/
theorem getLocalizedTime_dateRule_march : advance 1710046799 = 3601 ∧
    WhollyInside (standardDate 1710046799).year ∧ TwoClockChanges (standardDate 1710046799).year := by
  have skip : advance 1710046799 = 3601 := by decide +kernel
  have inside := getLocalizedTime_dateRule.2.2 1710046799 (by omega) (by omega) (by omega)
  exact ⟨skip, inside, getLocalizedTime_dateRule.2.1 _ inside⟩

end EpaperClock
