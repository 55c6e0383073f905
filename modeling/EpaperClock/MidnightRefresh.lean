import EpaperClock.Freshness
import Mathlib.Data.List.Nodup

/-! How often a local date is begun with a full refresh of the panel. -/
namespace EpaperClock

open Gregorian StepSystem

/-- The midnight branch of `updateData`, up to its refresh. -/
def midnightRefresh : List Action :=
  [.einkSetRefreshMode .fullRefresh, .einkClearFrame, .einkDisplayFrameFromSRAMBlocking]

def Tm.ShowsDate (timeinfo : Tm) (date : Date) : Prop :=
  timeinfo.tmYear = date.year - 1900 ∧ timeinfo.tmMon = date.month - 1 ∧ timeinfo.tmMday = date.day

instance (timeinfo : Tm) (date : Date) : Decidable (timeinfo.ShowsDate date) :=
  inferInstanceAs (Decidable (_ ∧ _ ∧ _))

/-- The calls of a run that begin the given date with a full refresh. -/
def fullRefreshes (ts : List ClockTransition) (date : Date) : Nat :=
  ts.countP fun t => t.event = .updateData ∧ midnightRefresh <+: updateData t.source.rtc ∧
    (updateTimeinfo t.source.rtc).ShowsDate date

def ConsecutiveSeconds (values : List UInt32) : Prop :=
  ∃ start, values.map UInt32.toNat = List.range' start values.length

/-- Every second of the local date is read. -/
def Covers (values : List UInt32) (date : Date) : Prop :=
  ∀ time : Int, (getLocalizedTime time est).ShowsDate date → ∃ r ∈ values, (r.toNat : Int) = time

/-- Every date that the run covers is begun once. -/
def OncePerDate (ts : List ClockTransition) : Prop :=
  ∀ date, Covers (readings ts) date → fullRefreshes ts date = 1

/-! ### Local midnight -/

/-- Midnight of the date on the local clock. -/
def BeginsDate (time : Int) (date : Date) : Prop :=
  ((getLocalizedTime time est).tmSec = 0 ∧ (getLocalizedTime time est).tmHour = 0 ∧
    (getLocalizedTime time est).tmMin = 0) ∧ (getLocalizedTime time est).ShowsDate date

instance (time : Int) (date : Date) : Decidable (BeginsDate time date) :=
  inferInstanceAs (Decidable (_ ∧ _))

theorem midnightRefresh_isPrefix_iff (rtc : Rtc) : midnightRefresh <+: updateData rtc ↔
    (updateTimeinfo rtc).tmSec = 0 ∧ (updateTimeinfo rtc).tmHour = 0 ∧
      (updateTimeinfo rtc).tmMin = 0 := by
  simp only [updateData, midnightRefresh]
  split
  next boundary =>
    split
    next midnight => exact iff_of_true (by simp) ⟨boundary, midnight⟩
    next other =>
      refine iff_of_false ?_ (fun midnight => other midnight.2)
      split <;> simp
  next inside =>
    refine iff_of_false ?_ (fun midnight => inside midnight.1)
    split <;> simp

theorem showsDate_gmtime_iff (time : Int) (date : Date) :
    (gmtime time).ShowsDate date ↔ time / 86400 = date.dayNumber := by
  constructor
  · rintro ⟨year, month, day⟩
    have same : ofDayNumber (time / 86400) = date := by
      simp only [gmtime] at year month day
      apply Date.ext <;> omega
    rw [← same, dayNumber_ofDayNumber]
  · intro same
    simp only [Tm.ShowsDate, gmtime, same, ofDayNumber_dayNumber, and_self]

/-- The days on which the code applies daylight-saving time. -/
def DstDay (day : Int) : Prop :=
  secondSundayOfMarch (yearOf day) ≤ day ∧ day < firstSundayOfNovember (yearOf day)

instance (day : Int) : Decidable (DstDay day) := inferInstanceAs (Decidable (_ ∧ _))

/-- Local midnight is 04:00 UTC after a day of daylight-saving time, and 05:00 UTC before
a day without. -/
theorem beginsDate_iff (time : Int) (date : Date) : BeginsDate time date ↔
    (time = date.dayNumber * 86400 + 4 * 3600 ∧ DstDay (date.dayNumber - 1)) ∨
    (time = date.dayNumber * 86400 + 5 * 3600 ∧ ¬DstDay date.dayNumber) := by
  have rule : isDst (gmtime (time - 5 * 3600)) = true ↔ DstDay ((time - 5 * 3600) / 86400) :=
    isDst_gmtime_iff _
  have clock (local_ : Int) : ((gmtime local_).tmSec = 0 ∧ (gmtime local_).tmHour = 0 ∧
      (gmtime local_).tmMin = 0) ∧ (gmtime local_).ShowsDate date ↔
        local_ = date.dayNumber * 86400 := by
    rw [showsDate_gmtime_iff]
    simp only [gmtime]
    omega
  rw [BeginsDate, getLocalizedTime_est]
  by_cases dst : DstDay ((time - 5 * 3600) / 86400)
  · rw [if_pos (rule.mpr dst), clock]
    constructor
    · intro midnight
      have day : (time - 5 * 3600) / 86400 = date.dayNumber - 1 := by omega
      exact .inl ⟨by omega, day ▸ dst⟩
    · rintro (⟨midnight, _⟩ | ⟨midnight, notDst⟩)
      · omega
      · have day : (time - 5 * 3600) / 86400 = date.dayNumber := by omega
        exact absurd (day ▸ dst) notDst
  · rw [if_neg (dst ∘ rule.mp), clock]
    constructor
    · intro midnight
      have day : (time - 5 * 3600) / 86400 = date.dayNumber := by omega
      exact .inr ⟨by omega, day ▸ dst⟩
    · rintro (⟨midnight, onDst⟩ | ⟨midnight, _⟩)
      · have day : (time - 5 * 3600) / 86400 = date.dayNumber - 1 := by omega
        exact absurd (day ▸ onDst) dst
      · omega

/-- Daylight-saving time begins on the second Sunday of March and ends on the first Sunday of
November; on every other date the day before was alike. -/
theorem dstDay_pred_iff (day : Int) :
    (¬DstDay (day - 1) ∧ DstDay day ↔ day = secondSundayOfMarch (yearOf day)) ∧
      (DstDay (day - 1) ∧ ¬DstDay day ↔ day = firstSundayOfNovember (yearOf day)) := by
  have today := yearOf_spec day
  have yesterday := yearOf_spec (day - 1)
  have march := secondSundayOfMarch_range (yearOf day)
  have november := firstSundayOfNovember_range (yearOf day)
  simp only [DstDay]
  by_cases same : yearOf (day - 1) = yearOf day
  · rw [same]
    omega
  -- New Year's Day, with winter on both sides
  · have first : day = yearStart (yearOf day) := by
      by_contra later
      exact same (yearOf_eq (by omega) (by omega))
    have length := yearStart_succ (yearOf day - 1)
    have long := yearLength_pos (yearOf day - 1)
    have novemberBefore := firstSundayOfNovember_range (yearOf day - 1)
    rw [Int.sub_add_cancel] at length
    have before : yearOf (day - 1) = yearOf day - 1 := by
      apply yearOf_eq
      · omega
      · rw [Int.sub_add_cancel]
        omega
    rw [before]
    omega

/-! ### Counting -/

theorem countP_or {α : Type} (l : List α) {p q : α → Prop} [DecidablePred p] [DecidablePred q]
    (apart : ∀ k, p k → ¬q k) :
    (l.countP fun k => p k ∨ q k) = l.countP (p ·) + l.countP (q ·) := by
  induction l with
  | nil => rfl
  | cons k rest ih =>
    simp only [List.countP_cons, ih, decide_eq_true_eq]
    by_cases first : p k
    · have second := apart k first
      simp only [first, second, or_false, if_true, if_false]
      omega
    · simp only [first, false_or, if_false]
      omega

theorem countP_point {l : List Int} (nodup : l.Nodup) {a : Int} {p : Prop} [Decidable p]
    (member : p → a ∈ l) : (l.countP fun k => k = a ∧ p) = if p then 1 else 0 := by
  split
  next holds =>
    have once := List.count_eq_one_of_mem nodup (member holds)
    simpa [holds, List.count, beq_eq_decide] using once
  next fails => simp [fails]

/-- Refreshes are counted by what the calls read. -/
theorem fullRefreshes_eq_countP (ts : List ClockTransition) (date : Date) :
    fullRefreshes ts date =
      (((readings ts).map UInt32.toNat).map Int.ofNat).countP fun k => BeginsDate k date := by
  have begins (rtc : Rtc) : midnightRefresh <+: updateData rtc ∧
      (updateTimeinfo rtc).ShowsDate date ↔ BeginsDate rtc.tsr.toNat date := by
    rw [midnightRefresh_isPrefix_iff, BeginsDate, updateTimeinfo, updateTimestamp_eq]
  rw [fullRefreshes, readings, List.countP_map, List.countP_map, List.countP_filterMap]
  apply List.countP_congr
  intro t _
  by_cases update : t.event = .updateData
  · simp [update, begins]
  · simp [update]

/-- A covered date is begun at its midnight after summer time and at that before winter time. -/
theorem fullRefreshes_of_covers {ts : List ClockTransition} {date : Date}
    (consecutive : ConsecutiveSeconds (readings ts)) (covered : Covers (readings ts) date) :
    fullRefreshes ts date =
      (if DstDay (date.dayNumber - 1) then 1 else 0) + if ¬DstDay date.dayNumber then 1 else 0 := by
  obtain ⟨start, values⟩ := consecutive
  have nodup : (((readings ts).map UInt32.toNat).map Int.ofNat).Nodup := by
    rw [values]
    exact List.Nodup.map (fun _ _ => Int.ofNat.inj) List.nodup_range'
  -- a midnight of the date is a second of the date, so it is read
  have reached (time : Int) (midnight : BeginsDate time date) :
      time ∈ ((readings ts).map UInt32.toNat).map Int.ofNat := by
    obtain ⟨r, member, rfl⟩ := covered time midnight.2
    exact List.mem_map_of_mem (List.mem_map_of_mem member)
  rw [fullRefreshes_eq_countP]
  simp only [beginsDate_iff]
  rw [countP_or _ (fun k early late => by omega)]
  congr 1
  · exact countP_point nodup
      (fun summer => reached _ ((beginsDate_iff _ date).mpr (.inl ⟨rfl, summer⟩)))
  · exact countP_point nodup
      (fun winter => reached _ ((beginsDate_iff _ date).mpr (.inr ⟨rfl, winter⟩)))

/-- That is never on the second Sunday of March, twice on the first Sunday of November and
once on every other date. -/
theorem fullRefreshes_eq {ts : List ClockTransition} {date : Date}
    (consecutive : ConsecutiveSeconds (readings ts)) (covered : Covers (readings ts) date) :
    fullRefreshes ts date =
      if date.dayNumber = secondSundayOfMarch date.year then 0
      else if date.dayNumber = firstSundayOfNovember date.year then 2 else 1 := by
  have year : yearOf date.dayNumber = date.year :=
    yearOf_eq (by simp [Date.dayNumber]) date.dayNumber_lt
  have changes := dstDay_pred_iff date.dayNumber
  rw [year] at changes
  rw [fullRefreshes_of_covers consecutive covered]
  simp only [← changes.1, ← changes.2]
  by_cases yesterday : DstDay (date.dayNumber - 1)
  · by_cases today : DstDay date.dayNumber
    · simp [yesterday, today]
    · simp [yesterday, today]
  · by_cases today : DstDay date.dayNumber
    · simp [yesterday, today]
    · simp [yesterday, today]

/-- In a run over consecutive seconds every covered date is begun once exactly when the
run covers no Sunday on which the clocks change. -/
theorem oncePerDate_iff_no_clock_change {ts : List ClockTransition}
    (consecutive : ConsecutiveSeconds (readings ts)) :
    OncePerDate ts ↔ ∀ date, Covers (readings ts) date →
      date.dayNumber ≠ secondSundayOfMarch date.year ∧
        date.dayNumber ≠ firstSundayOfNovember date.year := by
  apply forall_congr'
  intro date
  apply forall_congr'
  intro covered
  rw [fullRefreshes_eq consecutive covered]
  split
  next march => simp [march]
  next notMarch =>
    split
    next november => simp [november]
    next notNovember => simp [notMarch, notNovember]

/-- A local date lies within 25 hours of UTC. -/
theorem covers_of_range' {values : List UInt32} {date : Date} {start n : Nat}
    (read : values.map UInt32.toNat = List.range' start n)
    (first : (start : Int) ≤ date.dayNumber * 86400 + 4 * 3600)
    (last : date.dayNumber * 86400 + 29 * 3600 ≤ start + n) : Covers values date := by
  intro time shown
  have within : date.dayNumber * 86400 + 4 * 3600 ≤ time ∧
      time < date.dayNumber * 86400 + 29 * 3600 := by
    rw [getLocalizedTime_est] at shown
    split at shown
    next => rw [showsDate_gmtime_iff] at shown; omega
    next => rw [showsDate_gmtime_iff] at shown; omega
  have member : time.toNat ∈ values.map UInt32.toNat := by
    rw [read, List.mem_range'_1]
    omega
  obtain ⟨r, inValues, same⟩ := List.mem_map.mp member
  exact ⟨r, inValues, by omega⟩

/-- Once set, the clock can be read every second. -/
theorem exists_run_of_range' {start : UInt32} (accepted : start < 4102444800) (n : Nat)
    (fits : start.toNat + n < 2 ^ 32) : ∃ ts s, Run clockStep (boot 0) ts s ∧
      (readings ts).map UInt32.toNat = List.range' (start.toNat + 1) n ∧ s.phase = .polling ∧
        s.rtc.tce = true ∧ s.rtc.tsr.toNat = start.toNat + n := by
  induction n with
  | zero =>
    have set : sntpProcess (start - diffSec1970To2036) (boot 0).rtc = ⟨start, true⟩ := by
      have accepts : sntpAccepts (start - diffSec1970To2036) = true := by
        rw [sntpAccepts_iff, internetTime_eq, UInt32.sub_add_cancel]
        exact accepted
      rw [sntpProcess_eq, accepts, internetTime_eq, UInt32.sub_add_cancel]
      rfl
    exact ⟨_, _, .next .start (show clockStep (boot 0) (.sntpReply (start - diffSec1970To2036)) =
      some _ from rfl), rfl, rfl, by rw [set], by rw [set]; rfl⟩
  | succ n ih =>
    obtain ⟨ts, s, run, read, polling, runs, tsr⟩ := ih (by omega)
    -- a second passes, the flag is tested and `updateData` is called
    let ticked : Clock := { s with rtc.tsr := s.rtc.tsr + 1, gSecsFlag := true }
    let called : Clock := { ticked with gSecsFlag := false, phase := .updating }
    have tick : clockStep s .second = some ticked := if_pos runs
    have test : clockStep ticked .testFlag = some called := if_pos polling
    have update : clockStep called .updateData = some
        { called with phase := .polling, drawn := lastDrawn called.drawn (updateData called.rtc) } :=
      rfl
    have next : (s.rtc.tsr + 1).toNat = start.toNat + (n + 1) := by
      rw [UInt32.toNat_add, tsr]
      exact Nat.mod_eq_of_lt fits
    refine ⟨_, _, ((run.next tick).next test).next update, ?_, rfl, runs, next⟩
    rw [readings_append_update, readings_append_other _ _ _ _ (by simp),
      readings_append_other _ _ _ _ (by simp), List.map_append, read, List.range'_concat]
    simp only [List.map_cons, List.map_nil, called, ticked, next]
    congr 2
    omega

/-- March 10th 2024. -/
def clockChangeDate : Date := ofDayNumber 19792

theorem exists_run_over_clock_change : ∃ ts s, Run clockStep (boot 0) ts s ∧
    ConsecutiveSeconds (readings ts) ∧ Covers (readings ts) clockChangeDate := by
  obtain ⟨ts, s, run, read, _⟩ :=
    @exists_run_of_range' 1710043199 (by decide) 90000 (by decide)
  refine ⟨ts, s, run, ⟨1710043200, ?_⟩, covers_of_range' read ?_ ?_⟩
  · rw [← List.length_map UInt32.toNat, read, List.length_range']
    rfl
  · rw [clockChangeDate, dayNumber_ofDayNumber]
    decide
  · rw [clockChangeDate, dayNumber_ofDayNumber]
    decide

theorem clockChangeDate_skipped : ¬∀ ts s, Run clockStep (boot 0) ts s →
    ConsecutiveSeconds (readings ts) → OncePerDate ts := by
  intro claim
  obtain ⟨ts, s, run, consecutive, covered⟩ := exists_run_over_clock_change
  have march : clockChangeDate.dayNumber = secondSundayOfMarch clockChangeDate.year := by
    decide +kernel
  have once := claim ts s run consecutive clockChangeDate covered
  rw [fullRefreshes_eq consecutive covered, if_pos march] at once
  cases once

theorem oncePerDate_iff_no_clock_change_clockChangeDate : ∃ ts s, Run clockStep (boot 0) ts s ∧
    Covers (readings ts) clockChangeDate ∧ (OncePerDate ts ↔
      ∀ date, Covers (readings ts) date → date.dayNumber ≠ secondSundayOfMarch date.year ∧
        date.dayNumber ≠ firstSundayOfNovember date.year) := by
  obtain ⟨ts, s, run, consecutive, covered⟩ := exists_run_over_clock_change
  exact ⟨ts, s, run, covered, oncePerDate_iff_no_clock_change consecutive⟩

end EpaperClock
