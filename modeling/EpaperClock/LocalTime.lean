import EpaperClock.Library.Gregorian

/-! Local time, `isDst` and `getLocalizedTime` of `main_epaper_clock.c`. -/
namespace EpaperClock

open Gregorian

/-- `struct tm`. -/
structure Tm where
  tmSec : Int
  tmMin : Int
  tmHour : Int
  tmMday : Int
  tmMon : Int
  tmYear : Int
  tmWday : Int
  tmYday : Int
  tmIsdst : Int
  deriving DecidableEq, Repr

/-- The library's `gmtime`, over a `time_t` that holds every argument. -/
def gmtime (time : Int) : Tm :=
  let date := ofDayNumber (time / 86400)
  { tmSec := time % 60
    tmMin := time % 3600 / 60
    tmHour := time % 86400 / 3600
    tmMday := date.day
    tmMon := date.month - 1
    tmYear := date.year - 1900
    tmWday := weekday (time / 86400)
    tmYday := date.dayOfYear
    tmIsdst := 0 }

/-- Eastern standard time is -5 GMT. -/
abbrev est : Int := -5

/-- `isDst`. -/
def isDst (timeInfo : Tm) : Bool :=
  let month := timeInfo.tmMon + 1
  let day := timeInfo.tmMday
  let dow := timeInfo.tmWday
  if month < 3 ∨ month > 11 then false
  else if month > 3 ∧ month < 11 then true
  else
    let previousSunday := day - dow
    if month = 3 then previousSunday ≥ 8 else previousSunday ≤ 0

/-- `getLocalizedTime`: the standard-time date decides, the answer shifts the instant. -/
def getLocalizedTime (utc timezone : Int) : Tm :=
  let gmtInfo := gmtime (utc + 3600 * timezone)
  gmtime (utc + 3600 * (timezone + (isDst gmtInfo).toInt))

/-! ### The date-level rule -/

/-- Day number of the second Sunday of March. -/
def secondSundayOfMarch (year : Int) : Int :=
  nthSunday (yearStart year + monthStart (isLeap year) 3) 2

/-- Day number of the first Sunday of November. -/
def firstSundayOfNovember (year : Int) : Int :=
  nthSunday (yearStart year + monthStart (isLeap year) 11) 1

/-- It is a Sunday in the second week of March. -/
theorem secondSundayOfMarch_spec (year : Int) : weekday (secondSundayOfMarch year) = 0 ∧
    yearStart year + monthStart (isLeap year) 3 + 7 ≤ secondSundayOfMarch year ∧
      secondSundayOfMarch year < yearStart year + monthStart (isLeap year) 3 + 14 :=
  ⟨weekday_nthSunday _ _, nthSunday_range _ 2⟩

/-- It is a Sunday in the first week of November. -/
theorem firstSundayOfNovember_spec (year : Int) : weekday (firstSundayOfNovember year) = 0 ∧
    yearStart year + monthStart (isLeap year) 11 ≤ firstSundayOfNovember year ∧
      firstSundayOfNovember year < yearStart year + monthStart (isLeap year) 11 + 7 := by
  have range := nthSunday_range (yearStart year + monthStart (isLeap year) 11) 1
  refine ⟨weekday_nthSunday _ _, ?_⟩
  simp only [firstSundayOfNovember]
  omega

theorem secondSundayOfMarch_range (year : Int) :
    yearStart year + 66 ≤ secondSundayOfMarch year ∧
      secondSundayOfMarch year < yearStart year + 74 := by
  have range := secondSundayOfMarch_spec year
  have march : 59 ≤ monthStart (isLeap year) 3 ∧ monthStart (isLeap year) 3 ≤ 60 := by
    cases isLeap year <;> decide
  omega

theorem firstSundayOfNovember_range (year : Int) :
    yearStart year + 304 ≤ firstSundayOfNovember year ∧
      firstSundayOfNovember year < yearStart year + 312 := by
  have range := firstSundayOfNovember_spec year
  have november : 304 ≤ monthStart (isLeap year) 11 ∧ monthStart (isLeap year) 11 ≤ 305 := by
    cases isLeap year <;> decide
  omega

/-- The year of an instant, in UTC. -/
def yearOfTime (time : Int) : Int := yearOf (time / 86400)

/-- `isDst` compares a date with the two Sundays of its year. -/
theorem isDst_iff (date : Date) (timeInfo : Tm) (mon : timeInfo.tmMon = date.month - 1)
    (mday : timeInfo.tmMday = date.day) (wday : timeInfo.tmWday = weekday date.dayNumber) :
    isDst timeInfo = true ↔ secondSundayOfMarch date.year ≤ date.dayNumber ∧
      date.dayNumber < firstSundayOfNovember date.year := by
  have march := date.month_lt_iff 3
  have april := date.month_lt_iff 4
  have november := date.month_lt_iff 11
  have december := date.month_lt_iff 12
  have pos := date.day_pos
  have week := weekday_range date.dayNumber
  have lengths : monthStart (isLeap date.year) 4 = monthStart (isLeap date.year) 3 + 31 ∧
      monthStart (isLeap date.year) 12 = monthStart (isLeap date.year) 11 + 30 := by
    cases isLeap date.year <;> decide
  have day : date.dayNumber = yearStart date.year + monthStart (isLeap date.year) date.month +
      date.day - 1 := by
    simp only [Date.dayNumber, Date.dayOfYear]
    omega
  rw [secondSundayOfMarch, firstSundayOfNovember, ← not_le (b := date.dayNumber),
    nthSunday_le_iff, nthSunday_le_iff]
  simp only [isDst, mon, mday, wday]
  -- outside March and November the month decides, inside them the Sunday before the date
  split
  next out => simp only [Bool.false_eq_true, false_iff]; omega
  next =>
    split
    next inside => simp only [true_iff]; omega
    next =>
      split
      next inMarch =>
        have month : date.month = 3 := by omega
        rw [month] at day
        simp only [decide_eq_true_eq]
        omega
      next =>
        have month : date.month = 11 := by omega
        rw [month] at day
        simp only [decide_eq_true_eq]
        omega

theorem isDst_gmtime_iff (time : Int) :
    isDst (gmtime time) = true ↔ secondSundayOfMarch (yearOfTime time) ≤ time / 86400 ∧
      time / 86400 < firstSundayOfNovember (yearOfTime time) := by
  have wday : (gmtime time).tmWday = weekday (ofDayNumber (time / 86400)).dayNumber := by
    rw [dayNumber_ofDayNumber]
    rfl
  have rule := isDst_iff (ofDayNumber (time / 86400)) (gmtime time) rfl rfl wday
  rwa [dayNumber_ofDayNumber] at rule

/-! ### US Eastern civil time -/

/-- Daylight-saving time is in force from 02:00 EST on the second Sunday of March
until 02:00 EDT on the first Sunday of November. -/
def usEasternDst (time : Int) : Prop :=
  secondSundayOfMarch (yearOfTime time) * 86400 + 7 * 3600 ≤ time ∧
    time < firstSundayOfNovember (yearOfTime time) * 86400 + 6 * 3600

instance (time : Int) : Decidable (usEasternDst time) := inferInstanceAs (Decidable (_ ∧ _))

/-- US Eastern civil time, under the present rule in every year. -/
def usEasternTime (time : Int) : Tm :=
  if usEasternDst time then gmtime (time - 4 * 3600) else gmtime (time - 5 * 3600)

/-- From midnight EST, where the date changes, until the clocks change on that date. -/
def inTransition (time : Int) : Prop :=
  (secondSundayOfMarch (yearOfTime time) * 86400 + 5 * 3600 ≤ time ∧
    time < secondSundayOfMarch (yearOfTime time) * 86400 + 7 * 3600) ∨
  (firstSundayOfNovember (yearOfTime time) * 86400 + 5 * 3600 ≤ time ∧
    time < firstSundayOfNovember (yearOfTime time) * 86400 + 6 * 3600)

theorem getLocalizedTime_est (time : Int) :
    getLocalizedTime time est = if isDst (gmtime (time - 5 * 3600)) then gmtime (time - 4 * 3600)
      else gmtime (time - 5 * 3600) := by
  simp only [getLocalizedTime, est]
  have standard : time + 3600 * -5 = time - 5 * 3600 := by omega
  rw [standard]
  cases isDst (gmtime (time - 5 * 3600)) with
  | true => simp only [Bool.toInt, if_true]; congr 1
  | false => rfl

/-- The first hours of a UTC year belong to the Eastern year before; neither year has
daylight-saving time then. -/
theorem isDst_standard_iff (time : Int) :
    isDst (gmtime (time - 5 * 3600)) = true ↔
      secondSundayOfMarch (yearOfTime time) * 86400 + 5 * 3600 ≤ time ∧
      time < firstSundayOfNovember (yearOfTime time) * 86400 + 5 * 3600 := by
  rw [isDst_gmtime_iff]
  have utc := yearOf_spec (time / 86400)
  have eastern := yearOf_spec ((time - 5 * 3600) / 86400)
  simp only [yearOfTime]
  by_cases same : yearOf ((time - 5 * 3600) / 86400) = yearOf (time / 86400)
  · rw [same]
    omega
  -- the first five hours of a UTC year: January in one year, December in the other
  · have before : yearOf ((time - 5 * 3600) / 86400) + 1 ≤ yearOf (time / 86400) := by
      by_contra after
      have later : yearOf (time / 86400) + 1 ≤ yearOf ((time - 5 * 3600) / 86400) := by omega
      have ended := yearStart_le later
      omega
    have start := yearStart_le before
    have length := yearStart_succ (yearOf ((time - 5 * 3600) / 86400))
    have long := yearLength_pos (yearOf ((time - 5 * 3600) / 86400))
    have march := secondSundayOfMarch_range (yearOf (time / 86400))
    have november := firstSundayOfNovember_range (yearOf ((time - 5 * 3600) / 86400))
    omega

theorem gmtime_hour_ne (time : Int) : gmtime (time - 4 * 3600) ≠ gmtime (time - 5 * 3600) := by
  intro same
  have hour := congrArg Tm.tmHour same
  simp only [gmtime] at hour
  omega

private theorem ite_eq_ite_iff {α : Type} {a b : α} (differ : a ≠ b) (p q : Prop) [Decidable p]
    [Decidable q] : (if p then a else b) = (if q then a else b) ↔ (p ↔ q) := by
  by_cases p <;> by_cases q <;> simp [*, differ.symm]

/-- The clock shows US Eastern civil time except between midnight and the change of the
clocks on the two Sundays. -/
theorem getLocalizedTime_eq_usEasternTime_iff (time : Int) :
    getLocalizedTime time est = usEasternTime time ↔ ¬inTransition time := by
  have march := secondSundayOfMarch_range (yearOfTime time)
  have november := firstSundayOfNovember_range (yearOfTime time)
  rw [getLocalizedTime_est, usEasternTime, ite_eq_ite_iff (gmtime_hour_ne time),
    isDst_standard_iff]
  simp only [usEasternDst, inTransition]
  omega

/-- Half past midnight on March 10th 2024, still standard time. -/
theorem getLocalizedTime_wrong_before_change :
    ¬∀ time : Int, 18000 ≤ time → time < 2 ^ 32 → getLocalizedTime time est = usEasternTime time := by
  intro claim
  have wrong : getLocalizedTime 1710048600 est ≠ usEasternTime 1710048600 := by decide +kernel
  exact wrong (claim 1710048600 (by omega) (by omega))

end EpaperClock
