import EpaperClock.FieldExtraction
import EpaperClock.Library.Decimal
import EpaperClock.UpdateData

/-! The three texts that `updateData` formats, and the buffers it formats them into. -/
namespace EpaperClock

open CString Decimal StepSystem

def getTwelveHourTime (intlTime : Int) : Int :=
  if intlTime > 12 then intlTime - 12
  else if intlTime = 0 then 12
  else intlTime

def getDayOfWeek (day : Int) : Bytes :=
  match day with
  | 0 => ascii "Sunday"
  | 1 => ascii "Monday"
  | 2 => ascii "Tuesday"
  | 3 => ascii "Wednesday"
  | 4 => ascii "Thursday"
  | 5 => ascii "Friday"
  | 6 => ascii "Saturday"
  | _ => ascii "NULLday"

def getMonth (month : Int) : Bytes :=
  match month with
  | 0 => ascii "Jan"
  | 1 => ascii "Feb"
  | 2 => ascii "Mar"
  | 3 => ascii "Apr"
  | 4 => ascii "May"
  | 5 => ascii "Jun"
  | 6 => ascii "Jul"
  | 7 => ascii "Aug"
  | 8 => ascii "Sep"
  | 9 => ascii "Oct"
  | 10 => ascii "Nov"
  | 11 => ascii "Dec"
  | _ => ascii "Smr"

/-- The values of an `int`. -/
def inInt (n : Int) : Option Int := if -2 ^ 31 ≤ n ∧ n < 2 ^ 31 then some n else none

/-- `(int)x`, undefined for a number out of range. -/
def toInt (x : ℚ) : Option Int := inInt (truncate x)

def round (x : ℚ) : Option Int := if x < 0 then toInt (x - 1 / 2) else toInt (x + 1 / 2)

abbrev timeBufSize : Nat := 6
abbrev dateBufSize : Nat := 20
abbrev temperatureBufSize : Nat := 10

/-- `"%d:%02d"`. -/
def timeText (timeinfo : Tm) : Bytes :=
  format 0 (getTwelveHourTime timeinfo.tmHour) ++ ascii ":" ++ format 2 timeinfo.tmMin

/-- `"%s, %s %02d"`. -/
def dateText (timeinfo : Tm) : Bytes :=
  getDayOfWeek timeinfo.tmWday ++ ascii ", " ++ getMonth timeinfo.tmMon ++ ascii " " ++
    format 2 timeinfo.tmMday

/-- `"%d F"` of the rounded temperature. -/
def temperatureText (temperatureStr : Bytes) : Option Bytes :=
  (round (atof temperatureStr)).map fun temperatureNum => format 0 temperatureNum ++ ascii " F"

/-- A text and its NUL go into a buffer. -/
def Fits (text : Bytes) (size : Nat) : Prop := text.length + 1 ≤ size

instance (text : Bytes) (size : Nat) : Decidable (Fits text size) :=
  inferInstanceAs (Decidable (_ ≤ _))

/-! ### Time and date -/

theorem gmtime_range (time : Int) :
    (0 ≤ (gmtime time).tmHour ∧ (gmtime time).tmHour < 24) ∧
      (0 ≤ (gmtime time).tmMin ∧ (gmtime time).tmMin < 60) ∧
      0 ≤ (gmtime time).tmMday ∧ (gmtime time).tmMday < 32 := by
  have last := (Gregorian.ofDayNumber (time / 86400)).day_le
  have length := Gregorian.monthLength_le (Gregorian.isLeap (Gregorian.ofDayNumber (time / 86400)).year)
    (Gregorian.ofDayNumber (time / 86400)).month
  simp only [gmtime]
  omega

theorem getTwelveHourTime_range {intlTime : Int} (nonneg : 0 ≤ intlTime) (day : intlTime < 24) :
    1 ≤ getTwelveHourTime intlTime ∧ getTwelveHourTime intlTime ≤ 12 := by
  rw [getTwelveHourTime]
  split
  · omega
  · split <;> omega

theorem length_getDayOfWeek_le (day : Int) : (getDayOfWeek day).length ≤ 9 := by
  unfold getDayOfWeek
  split <;> decide

theorem length_getMonth (month : Int) : (getMonth month).length = 3 := by
  unfold getMonth
  split <;> rfl

theorem timeText_fits (time : Int) : Fits (timeText (gmtime time)) timeBufSize := by
  obtain ⟨hour, minute, _⟩ := gmtime_range time
  have twelve := getTwelveHourTime_range hour.1 hour.2
  have hours : (format 0 (getTwelveHourTime (gmtime time).tmHour)).length ≤ 2 :=
    (length_format_le_iff (by decide) (by omega) (by decide)).mpr (by omega)
  have minutes : (format 2 (gmtime time).tmMin).length ≤ 2 :=
    (length_format_le_iff (by decide) minute.1 (by decide)).mpr (by omega)
  have colon : (ascii ":").length = 1 := rfl
  simp only [Fits, timeText, timeBufSize, List.length_append, colon]
  omega

theorem dateText_fits (time : Int) : Fits (dateText (gmtime time)) dateBufSize := by
  obtain ⟨_, _, day⟩ := gmtime_range time
  have weekday := length_getDayOfWeek_le (gmtime time).tmWday
  have days : (format 2 (gmtime time).tmMday).length ≤ 2 :=
    (length_format_le_iff (by decide) day.1 (by decide)).mpr (by omega)
  have comma : (ascii ", ").length = 2 := rfl
  have blank : (ascii " ").length = 1 := rfl
  simp only [Fits, dateText, dateBufSize, List.length_append, length_getMonth, comma, blank]
  omega

theorem updateTimeinfo_eq (rtc : Rtc) : ∃ time, updateTimeinfo rtc = gmtime time := ⟨_, rfl⟩

/-! ### Temperature -/

theorem round_applySign (negative : Bool) {x : ℚ} (nonneg : 0 ≤ x) :
    round (applySign negative x) = inInt (applySign negative ⌊x + 1 / 2⌋) := by
  rw [← truncate_half negative nonneg, round]
  split <;> rfl

theorem applySign_abs (x : ℚ) : applySign (decide (x < 0)) |x| = x := by
  by_cases negative : x < 0
  · simp [applySign, negative, abs_of_neg]
  · simp [applySign, negative, abs_of_nonneg (not_lt.mp negative)]

theorem round_eq (x : ℚ) : round x = inInt (applySign (decide (x < 0)) ⌊|x| + 1 / 2⌋) := by
  rw [← round_applySign _ (abs_nonneg x), applySign_abs]

/-- Numbers of up to seven characters. -/
theorem temperature_fits_iff (n : Int) :
    Fits (format 0 n ++ ascii " F") temperatureBufSize ↔ -10 ^ 6 < n ∧ n < 10 ^ 7 := by
  have suffix : (ascii " F").length = 2 := rfl
  rw [← length_format_zero_le_iff (by decide), Fits, temperatureBufSize, List.length_append, suffix]
  omega

theorem temperatureText_fits_iff (temperatureStr : Bytes) :
    (∃ text, temperatureText temperatureStr = some text ∧ Fits text temperatureBufSize) ↔
      -1999999 / 2 < atof temperatureStr ∧ atof temperatureStr < 19999999 / 2 := by
  generalize value : atof temperatureStr = x
  have rounded : (∃ text, temperatureText temperatureStr = some text ∧ Fits text temperatureBufSize) ↔
      -10 ^ 6 < applySign (decide (x < 0)) ⌊|x| + 1 / 2⌋ ∧
        applySign (decide (x < 0)) ⌊|x| + 1 / 2⌋ < 10 ^ 7 := by
    rw [temperatureText, value, round_eq, inInt]
    split
    next => simp [temperature_fits_iff]
    next outside =>
      simp only [Option.map_none, reduceCtorEq, false_and, exists_false, false_iff]
      omega
  rw [rounded]
  have floor := Int.floor_nonneg.mpr (show 0 ≤ |x| + 1 / 2 by positivity)
  by_cases negative : x < 0
  · have below : ⌊-x + 1 / 2⌋ < 1000000 ↔ -1999999 / 2 < x := by
      rw [Int.floor_lt]
      push_cast
      constructor <;> (intro; linarith)
    rw [abs_of_neg negative] at floor ⊢
    simp only [negative, decide_true, applySign, if_true]
    rw [← below]
    have small : x < 19999999 / 2 := by linarith
    simp only [small, and_true]
    omega
  · have above : ⌊x + 1 / 2⌋ < 10000000 ↔ x < 19999999 / 2 := by
      rw [Int.floor_lt]
      push_cast
      constructor <;> (intro; linarith)
    rw [abs_of_nonneg (not_lt.mp negative)] at floor ⊢
    simp only [negative, decide_false, applySign, Bool.false_eq_true, if_false]
    rw [← above]
    have large : -1999999 / 2 < x := by linarith
    simp only [large, true_and]
    omega

/-- In every state that the callback reaches, the texts of the time and the date fit, and
the temperature's exactly when the number is small enough. -/
theorem formatted_fit_iff (layout : StaticLayout) {ts : List RecvTransition} {mem : StaticMem}
    (run : Run (recvStep layout) staticBoot ts mem) (rtc : Rtc) :
    ∃ temperatureStr, readString mem (layout.base .temperatureStr) 7 = some temperatureStr ∧
      ((Fits (timeText (updateTimeinfo rtc)) timeBufSize ∧
        Fits (dateText (updateTimeinfo rtc)) dateBufSize ∧
        ∃ text, temperatureText temperatureStr = some text ∧ Fits text temperatureBufSize) ↔
      -1999999 / 2 < atof temperatureStr ∧ atof temperatureStr < 19999999 / 2) := by
  have terminated : Terminated mem (layout.base .temperatureStr) 7 :=
    ⟨6, by decide, (temperatureStr_terminated run).1⟩
  obtain ⟨temperatureStr, read⟩ := Option.isSome_iff_exists.mp (readString_isSome_iff.mpr terminated)
  refine ⟨temperatureStr, read, ?_⟩
  obtain ⟨time, local_⟩ := updateTimeinfo_eq rtc
  rw [local_, ← temperatureText_fits_iff]
  simp only [timeText_fits, dateText_fits, true_and]

/-- A response with a billion degrees, in three characters. -/
def billionDegrees : StringPbuf := Pbuf.terminate ⟨ascii "HTTP/1.1 200 \"temp\":1e9,", []⟩

theorem billionDegrees_overflows :
    ¬∀ (layout : StaticLayout) (ts : List RecvTransition) (mem : StaticMem),
      Run (recvStep layout) staticBoot ts mem → ∀ rtc temperatureStr text,
        readString mem (layout.base .temperatureStr) 7 = some temperatureStr →
        temperatureText temperatureStr = some text →
        Fits (timeText (updateTimeinfo rtc)) timeBufSize ∧
          Fits (dateText (updateTimeinfo rtc)) dateBufSize ∧ Fits text temperatureBufSize := by
  intro claim
  have read : (exec (recvStep declaredLayout) staticBoot [some billionDegrees]).map
      (fun r => readString r.2 5 7 == some (ascii "1e9")) = some true := by decide +kernel
  obtain ⟨ts, mem, run, found⟩ := exists_run read
  have printed : temperatureText (ascii "1e9") = some (ascii "1000000000 F") := by decide +kernel
  have stored : readString mem 5 7 = some (ascii "1e9") := by simpa using found
  have fits := claim declaredLayout ts mem run ⟨0, true⟩ _ _ stored printed
  exact absurd fits.2.2 (by decide)

theorem formatted_fit_iff_billionDegrees : ∃ ts mem,
    Run (recvStep declaredLayout) staticBoot ts mem ∧ ts.length = 1 ∧
      ∃ temperatureStr, readString mem 5 7 = some temperatureStr ∧
        ((Fits (timeText (updateTimeinfo ⟨0, true⟩)) timeBufSize ∧
          Fits (dateText (updateTimeinfo ⟨0, true⟩)) dateBufSize ∧
          ∃ text, temperatureText temperatureStr = some text ∧ Fits text temperatureBufSize) ↔
        -1999999 / 2 < atof temperatureStr ∧ atof temperatureStr < 19999999 / 2) := by
  have ran : (exec (recvStep declaredLayout) staticBoot [some billionDegrees]).map
      (fun r => r.1.length == 1) = some true := by decide +kernel
  obtain ⟨ts, mem, run, found⟩ := exists_run ran
  exact ⟨ts, mem, run, by simpa using found, formatted_fit_iff declaredLayout run ⟨0, true⟩⟩

end EpaperClock
