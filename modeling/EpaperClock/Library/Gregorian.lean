import Mathlib.Data.Nat.Find
import Mathlib.Data.Nat.Basic
import Mathlib.Logic.Equiv.Defs
import Mathlib.Tactic.IntervalCases

/-! The proleptic Gregorian calendar over integer day numbers; day 0 is 1970-01-01.

`dateEquiv` says that the dates of the calendar and the day numbers correspond one
to one. Weekdays count from Sunday, and day 0 is a Thursday. -/
namespace Gregorian

def isLeap (year : Int) : Bool := year % 4 = 0 ∧ (year % 100 ≠ 0 ∨ year % 400 = 0)

def yearLength (year : Int) : Int := if isLeap year then 366 else 365

/-- Day number of January 1st. -/
def yearStart (year : Int) : Int :=
  365 * (year - 1970) + (year - 1) / 4 - (year - 1) / 100 + (year - 1) / 400 - 477

theorem yearStart_succ (year : Int) : yearStart (year + 1) = yearStart year + yearLength year := by
  simp only [yearStart, yearLength, isLeap, decide_eq_true_eq]
  split <;> omega

theorem yearLength_pos (year : Int) : 365 ≤ yearLength year ∧ yearLength year ≤ 366 := by
  simp only [yearLength]
  split <;> omega

theorem yearStart_le {a b : Int} (h : a ≤ b) : yearStart a ≤ yearStart b := by
  simp only [yearStart]
  omega

/-- Four centuries have 146097 days; a year starts close to where the mean year puts it. -/
theorem yearStart_near_mean (year : Int) :
    146097 * (year - 1970) - 410 ≤ 400 * yearStart year ∧
      400 * yearStart year ≤ 146097 * (year - 1970) + 490 := by
  have century := Int.mul_ediv_add_emod (year - 1) 100
  have cycle := Int.mul_ediv_add_emod (year - 1) 400
  simp only [yearStart]
  omega

/-- The mean year length gives the year up to one. -/
def yearOf (n : Int) : Int :=
  -- 146097 days in 400 years
  let estimate := 1970 + 400 * n / 146097
  if n < yearStart estimate then estimate - 1
  else if yearStart (estimate + 1) ≤ n then estimate + 1
  else estimate

theorem yearOf_spec (n : Int) : yearStart (yearOf n) ≤ n ∧ n < yearStart (yearOf n + 1) := by
  -- a year starts within two days of its mean start, so the estimate is off by at most one
  have mean := yearStart_near_mean (1970 + 400 * n / 146097)
  have meanNext := yearStart_near_mean (1970 + 400 * n / 146097 + 1)
  simp only [yearOf]
  split
  next early =>
    have before := yearStart_near_mean (1970 + 400 * n / 146097 - 1)
    rw [Int.sub_add_cancel]
    omega
  next =>
    split
    next late =>
      have after := yearStart_near_mean (1970 + 400 * n / 146097 + 1 + 1)
      omega
    next => omega

theorem yearOf_eq {n year : Int} (first : yearStart year ≤ n) (last : n < yearStart (year + 1)) :
    yearOf n = year := by
  obtain ⟨low, high⟩ := yearOf_spec n
  -- a different year would start after `n` or end before it
  rcases lt_trichotomy (yearOf n) year with before | same | after
  · have ended := yearStart_le (Int.add_one_le_of_lt before)
    omega
  · exact same
  · have later := yearStart_le (Int.add_one_le_of_lt after)
    omega

/-- No year is shorter than 365 days. -/
theorem yearOf_eq_of_lt {n year : Int} (first : yearStart year ≤ n) (last : n < yearStart year + 365) :
    yearOf n = year := by
  have next := yearStart_succ year
  have length := yearLength_pos year
  exact yearOf_eq first (by omega)

def monthLength (leap : Bool) : Nat → Nat
  | 2 => if leap then 29 else 28
  | 4 | 6 | 9 | 11 => 30
  | _ => 31

/-- Days of the year before a month, which counts from 1. -/
def monthStart (leap : Bool) : Nat → Nat
  | 0 | 1 => 0
  | month + 2 => monthStart leap (month + 1) + monthLength leap (month + 1)

theorem monthLength_le (leap : Bool) (month : Nat) : monthLength leap month ≤ 31 := by
  rw [monthLength.eq_def]
  split
  · cases leap <;> decide
  all_goals decide

theorem monthStart_succ (leap : Bool) {month : Nat} (h : 1 ≤ month) :
    monthStart leap (month + 1) = monthStart leap month + monthLength leap month := by
  obtain ⟨m, rfl⟩ : ∃ m, month = m + 1 := ⟨month - 1, by omega⟩
  rfl

theorem monthStart_mono (leap : Bool) : Monotone (monthStart leap) := by
  apply monotone_nat_of_le_succ
  intro month
  cases month with
  | zero => exact Nat.le_refl _
  | succ m =>
    rw [monthStart_succ leap (Nat.succ_pos m)]
    exact Nat.le_add_right _ _

theorem monthStart_end (year : Int) : (monthStart (isLeap year) 13 : Int) = yearLength year := by
  simp only [yearLength]
  cases isLeap year <;> rfl

/-- The last month that has started by the given day of the year. -/
def monthOf (leap : Bool) (dayOfYear : Nat) : Nat :=
  Nat.findGreatest (fun month => monthStart leap month ≤ dayOfYear) 12

theorem monthOf_spec (leap : Bool) (dayOfYear : Nat) (h : dayOfYear < monthStart leap 13) :
    1 ≤ monthOf leap dayOfYear ∧ monthOf leap dayOfYear ≤ 12 ∧
      monthStart leap (monthOf leap dayOfYear) ≤ dayOfYear ∧
      dayOfYear < monthStart leap (monthOf leap dayOfYear + 1) := by
  have january : monthStart leap 1 ≤ dayOfYear := Nat.zero_le _
  have low : 1 ≤ monthOf leap dayOfYear := Nat.le_findGreatest (by omega) january
  have high : monthOf leap dayOfYear ≤ 12 := Nat.findGreatest_le 12
  refine ⟨low, high,
    Nat.findGreatest_spec (P := fun month => monthStart leap month ≤ dayOfYear) (m := 1)
      (by omega) january, ?_⟩
  rcases high.eq_or_lt with last | inside
  · rw [last]
    exact h
  · exact Nat.lt_of_not_le (Nat.findGreatest_is_greatest
      (P := fun month => monthStart leap month ≤ dayOfYear) (Nat.lt_succ_self _) inside)

theorem monthOf_eq {leap : Bool} {dayOfYear month : Nat} (pos : 1 ≤ month) (le : month ≤ 12)
    (first : monthStart leap month ≤ dayOfYear) (last : dayOfYear < monthStart leap (month + 1)) :
    monthOf leap dayOfYear = month := by
  have inside : dayOfYear < monthStart leap 13 :=
    last.trans_le (monthStart_mono leap (by omega))
  obtain ⟨_, _, low, high⟩ := monthOf_spec leap dayOfYear inside
  rcases lt_trichotomy (monthOf leap dayOfYear) month with before | same | after
  · have := monthStart_mono leap (show monthOf leap dayOfYear + 1 ≤ month by omega)
    omega
  · exact same
  · have := monthStart_mono leap (show month + 1 ≤ monthOf leap dayOfYear by omega)
    omega

/-- A date that exists in the calendar. -/
@[ext] structure Date where
  year : Int
  month : Nat
  day : Nat
  month_pos : 1 ≤ month
  month_le : month ≤ 12
  day_pos : 1 ≤ day
  day_le : day ≤ monthLength (isLeap year) month
  deriving DecidableEq

namespace Date

def dayOfYear (date : Date) : Nat := monthStart (isLeap date.year) date.month + (date.day - 1)

def dayNumber (date : Date) : Int := yearStart date.year + date.dayOfYear

theorem dayOfYear_lt (date : Date) :
    date.dayOfYear < monthStart (isLeap date.year) (date.month + 1) := by
  have pos := date.day_pos
  have le := date.day_le
  rw [monthStart_succ _ date.month_pos, dayOfYear]
  omega

theorem dayNumber_lt (date : Date) : date.dayNumber < yearStart (date.year + 1) := by
  have inYear := date.dayOfYear_lt
  have toEnd : monthStart (isLeap date.year) (date.month + 1) ≤ monthStart (isLeap date.year) 13 :=
    monthStart_mono _ (Nat.succ_le_succ date.month_le)
  rw [yearStart_succ, ← monthStart_end, dayNumber]
  omega

/-- A date lies before a month of its year exactly when its day number does. -/
theorem month_lt_iff (date : Date) (month : Nat) :
    date.month < month ↔ date.dayNumber < yearStart date.year + monthStart (isLeap date.year) month := by
  simp only [dayNumber]
  constructor
  · intro before
    have := date.dayOfYear_lt
    have := monthStart_mono (isLeap date.year) (show date.month + 1 ≤ month by omega)
    omega
  · intro before
    by_contra later
    have := monthStart_mono (isLeap date.year) (show month ≤ date.month by omega)
    simp only [dayOfYear] at before
    omega

end Date

/-- The date of a day number. -/
def ofDayNumber (n : Int) : Date :=
  let year := yearOf n
  let dayOfYear := (n - yearStart year).toNat
  have inYear : dayOfYear < monthStart (isLeap year) 13 := by
    have spec := yearOf_spec n
    have next := yearStart_succ (yearOf n)
    have length := monthStart_end (yearOf n)
    simp only [dayOfYear, year]
    omega
  have spec := monthOf_spec (isLeap year) dayOfYear inYear
  { year
    month := monthOf (isLeap year) dayOfYear
    day := dayOfYear - monthStart (isLeap year) (monthOf (isLeap year) dayOfYear) + 1
    month_pos := spec.1
    month_le := spec.2.1
    day_pos := by omega
    day_le := by
      have next := monthStart_succ (isLeap year) spec.1
      omega }

@[simp] theorem dayNumber_ofDayNumber (n : Int) : (ofDayNumber n).dayNumber = n := by
  have inYear : (n - yearStart (yearOf n)).toNat < monthStart (isLeap (yearOf n)) 13 := by
    have spec := yearOf_spec n
    have next := yearStart_succ (yearOf n)
    have length := monthStart_end (yearOf n)
    omega
  have first := (monthOf_spec (isLeap (yearOf n)) _ inYear).2.2.1
  have start := (yearOf_spec n).1
  simp only [Date.dayNumber, Date.dayOfYear, ofDayNumber, Nat.add_sub_cancel]
  omega

@[simp] theorem ofDayNumber_dayNumber (date : Date) : ofDayNumber date.dayNumber = date := by
  have year : yearOf date.dayNumber = date.year :=
    yearOf_eq (by simp [Date.dayNumber]) date.dayNumber_lt
  have rest : (date.dayNumber - yearStart date.year).toNat = date.dayOfYear := by
    simp [Date.dayNumber]
  have month : monthOf (isLeap date.year) date.dayOfYear = date.month :=
    monthOf_eq date.month_pos date.month_le (Nat.le_add_right _ _) date.dayOfYear_lt
  have pos := date.day_pos
  apply Date.ext
  · exact year
  · simp only [ofDayNumber, year, rest, month]
  · simp only [ofDayNumber, year, rest, month]
    simp only [Date.dayOfYear]
    omega

/-- Dates and day numbers correspond one to one. -/
def dateEquiv : Date ≃ Int where
  toFun := Date.dayNumber
  invFun := ofDayNumber
  left_inv := ofDayNumber_dayNumber
  right_inv := dayNumber_ofDayNumber

/-- Day of the week; 0 is Sunday. -/
def weekday (n : Int) : Int := (n + 4) % 7

theorem weekday_range (n : Int) : 0 ≤ weekday n ∧ weekday n < 7 := by
  simp only [weekday]
  omega

/-- The `k`-th Sunday on or after day `n`, counting from 1. -/
def nthSunday (n k : Int) : Int := n + (-(n + 4)) % 7 + 7 * (k - 1)

theorem weekday_nthSunday (n k : Int) : weekday (nthSunday n k) = 0 := by
  simp only [weekday, nthSunday]
  omega

theorem nthSunday_range (n k : Int) :
    n + 7 * (k - 1) ≤ nthSunday n k ∧ nthSunday n k < n + 7 * k := by
  simp only [nthSunday]
  omega

/-- A day has reached the `k`-th Sunday when the Sunday before or on it is late enough. -/
theorem nthSunday_le_iff (n k d : Int) : nthSunday n k ≤ d ↔ n + 7 * (k - 1) ≤ d - weekday d := by
  simp only [weekday, nthSunday]
  omega

end Gregorian
