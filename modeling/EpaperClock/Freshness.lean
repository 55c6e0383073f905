import EpaperClock.MainLoop

/-! Whether the minute on the display is the minute of the clock.

`updateData` redraws when the second it reads is 0; whether that keeps the display fresh
is a matter of the sequence of counter values it reads. -/
namespace EpaperClock

open StepSystem

/-- The counter values that the calls of `updateData` read, in order. -/
def readings (ts : List ClockTransition) : List UInt32 :=
  ts.filterMap fun t => if t.event = .updateData then some t.source.rtc.tsr else none

def localMinute (tsr : UInt32) : Minute := (getLocalizedTime tsr.toNat est).minute

/-- After every call of `updateData`, once a time has been drawn, the minute last drawn
is the minute of the counter value that the call read. -/
def Fresh (ts : List ClockTransition) : Prop :=
  ∀ t ∈ ts, t.event = .updateData → ∀ minute, t.target.drawn = some minute →
    minute = localMinute t.source.rtc.tsr

/-- Once a second 0 has been read, a reading either stays in the minute of the reading
before it or is itself a second 0. -/
def EntersMinutesAtZero (values : List UInt32) : Prop :=
  ∀ pre previous value post, values = pre ++ previous :: value :: post →
    (∃ r ∈ pre ++ [previous], r.toNat % 60 = 0) →
    value.toNat % 60 = 0 ∨ localMinute value = localMinute previous

theorem entersMinutesAtZero_append (values : List UInt32) (previous value : UInt32) :
    EntersMinutesAtZero (values ++ [previous] ++ [value]) ↔
      EntersMinutesAtZero (values ++ [previous]) ∧
      ((∃ r ∈ values ++ [previous], r.toNat % 60 = 0) →
        value.toNat % 60 = 0 ∨ localMinute value = localMinute previous) := by
  constructor
  · intro enters
    constructor
    · intro pre a b post split seen
      exact enters pre a b (post ++ [value]) (by rw [split]; simp) seen
    · exact enters values previous value [] (by simp)
  · rintro ⟨before, last⟩ pre a b post split seen
    -- the pair in question is the last one, or it lies in the readings before `value`
    rcases List.eq_nil_or_concat post with rfl | ⟨rest, final, rfl⟩
    · have pair : (values ++ [previous]) ++ [value] = (pre ++ [a]) ++ [b] := by simpa using split
      obtain ⟨front, tail⟩ := List.append_inj' pair rfl
      obtain ⟨rfl, same⟩ := List.append_inj' front rfl
      obtain rfl : previous = a := by simpa using same
      obtain rfl : value = b := by simpa using tail
      exact last seen
    · have shorter : (values ++ [previous]) ++ [value] = (pre ++ a :: b :: rest) ++ [final] := by
        simpa using split
      exact before pre a b rest (List.append_inj' shorter rfl).1 seen

theorem readings_append_update (ts : List ClockTransition) (s s' : Clock) :
    readings (ts ++ [⟨s, .updateData, s'⟩]) = readings ts ++ [s.rtc.tsr] := by
  simp [readings]

theorem readings_append_other (ts : List ClockTransition) (s s' : Clock) (e : ClockEvent)
    (other : e ≠ .updateData) : readings (ts ++ [⟨s, e, s'⟩]) = readings ts := by
  simp [readings, other]

theorem fresh_append (ts : List ClockTransition) (t : ClockTransition) :
    Fresh (ts ++ [t]) ↔ Fresh ts ∧ (t.event = .updateData →
      ∀ minute, t.target.drawn = some minute → minute = localMinute t.source.rtc.tsr) := by
  simp [Fresh, or_imp, forall_and]

/-- The frame is blank until a second 0 is read. -/
theorem drawn_eq_none_iff {s₀ s : Clock} {ts : List ClockTransition} (blank : s₀.drawn = none)
    (run : Run clockStep s₀ ts s) : s.drawn = none ↔ ∀ r ∈ readings ts, r.toNat % 60 ≠ 0 := by
  induction run with
  | start => simpa [readings] using blank
  | @next ts s e s' _ taken ih =>
    rw [clockStep_drawn taken]
    by_cases update : e = .updateData
    · subst update
      rw [readings_append_update]
      by_cases zero : s.rtc.tsr.toNat % 60 = 0
      · simp [zero]
      · simpa [zero, or_imp, forall_and] using ih
    · rw [readings_append_other _ _ _ _ update]
      simpa [update] using ih

/-- As long as the display is fresh it shows the minute of the last reading. -/
theorem drawn_of_fresh {s₀ s : Clock} {ts : List ClockTransition} (blank : s₀.drawn = none)
    (run : Run clockStep s₀ ts s) (fresh : Fresh ts) (values : List UInt32) (previous : UInt32)
    (last : readings ts = values ++ [previous]) (minute : Minute) (shown : s.drawn = some minute) :
    minute = localMinute previous := by
  induction run generalizing values with
  | start => rw [blank] at shown; cases shown
  | @next ts s e s' _ taken ih =>
    obtain ⟨before, now⟩ := (fresh_append _ _).mp fresh
    by_cases update : e = .updateData
    · subst update
      rw [readings_append_update] at last
      obtain ⟨_, same⟩ := List.append_inj' last rfl
      obtain rfl : s.rtc.tsr = previous := by simpa using same
      exact now rfl minute shown
    · rw [readings_append_other _ _ _ _ update] at last
      rw [clockStep_drawn taken, if_neg (fun h => update h.1)] at shown
      exact ih before values last shown

/-- A call that draws, or that finds a blank frame, leaves no other minute on the display. -/
theorem updateData_fresh {s s' : Clock} (taken : clockStep s .updateData = some s')
    (redrawn : s.rtc.tsr.toNat % 60 = 0 ∨ s.drawn = none) (minute : Minute)
    (shown : s'.drawn = some minute) : minute = localMinute s.rtc.tsr := by
  rw [clockStep_drawn taken] at shown
  split at shown
  next =>
    cases shown
    simp [updateTimeinfo, localMinute]
  next skipped =>
    rcases redrawn with zero | undrawn
    · exact absurd ⟨rfl, zero⟩ skipped
    · rw [undrawn] at shown
      cases shown

/-- A call after a fresh run keeps the display fresh exactly when its reading enters a
minute at second 0, stays in the minute of the last reading, or is made on a blank frame. -/
theorem updateData_fresh_iff {s₀ s s' : Clock} {ts : List ClockTransition} (blank : s₀.drawn = none)
    (run : Run clockStep s₀ ts s) (taken : clockStep s .updateData = some s') (fresh : Fresh ts)
    {values : List UInt32} {previous : UInt32} (last : readings ts = values ++ [previous]) :
    (∀ minute, s'.drawn = some minute → minute = localMinute s.rtc.tsr) ↔
      ((∃ r ∈ values ++ [previous], r.toNat % 60 = 0) →
        s.rtc.tsr.toNat % 60 = 0 ∨ localMinute s.rtc.tsr = localMinute previous) := by
  have blankIff := drawn_eq_none_iff blank run
  rw [last] at blankIff
  have shown := drawn_of_fresh blank run fresh values previous last
  by_cases zero : s.rtc.tsr.toNat % 60 = 0
  · exact iff_of_true (updateData_fresh taken (.inl zero)) (fun _ => .inl zero)
  -- nothing is drawn, so the display still shows the minute of `previous`, or is blank
  · have kept : s'.drawn = s.drawn := by
      rw [clockStep_drawn taken, if_neg (fun h => zero h.2)]
    simp only [zero, false_or, kept]
    constructor
    · rintro stays ⟨r, member, atZero⟩
      cases drawn : s.drawn with
      | none => exact absurd atZero (blankIff.mp drawn r member)
      | some minute => rw [← stays minute drawn, ← shown minute drawn]
    · intro stays minute drawn
      have seen : ∃ r ∈ values ++ [previous], r.toNat % 60 = 0 := by
        by_contra unseen
        have undrawn := blankIff.mpr (fun r member atZero => unseen ⟨r, member, atZero⟩)
        rw [undrawn] at drawn
        cases drawn
      rw [stays seen, shown minute drawn]

theorem entersMinutesAtZero_of_length {values : List UInt32} (short : values.length ≤ 1) :
    EntersMinutesAtZero values := by
  intro pre previous value post split
  rw [split, List.length_append, List.length_cons, List.length_cons] at short
  omega

/-- The display is fresh in a run exactly when its readings enter minutes at second 0. -/
theorem fresh_iff_entersMinutesAtZero {s₀ s : Clock} {ts : List ClockTransition}
    (blank : s₀.drawn = none) (run : Run clockStep s₀ ts s) :
    Fresh ts ↔ EntersMinutesAtZero (readings ts) := by
  induction run with
  | start => exact iff_of_true (by simp [Fresh]) (entersMinutesAtZero_of_length (by simp [readings]))
  | @next ts s e s' run taken ih =>
    rw [fresh_append]
    by_cases update : e = .updateData
    -- a call adds one reading; every other event leaves both sides alone
    · subst update
      rw [readings_append_update]
      simp only [true_implies]
      rcases List.eq_nil_or_concat (readings ts) with none | ⟨values, previous, some⟩
      -- before the first reading the frame is blank
      · have undrawn := (drawn_eq_none_iff blank run).mpr (by simp [none])
        rw [none] at ih ⊢
        exact iff_of_true ⟨ih.mpr (entersMinutesAtZero_of_length (by simp)),
          updateData_fresh taken (.inr undrawn)⟩ (entersMinutesAtZero_of_length (by simp))
      · rw [List.concat_eq_append] at some
        rw [some] at ih ⊢
        rw [entersMinutesAtZero_append, ← ih]
        apply and_congr_right
        intro fresh
        exact updateData_fresh_iff blank run taken fresh some
    · rw [readings_append_other _ _ _ _ update, ← ih]
      simp [update]

/-- A second 0 is drawn, second 59 of the same minute is read, and two seconds pass
during that call: the next reading is second 1 of a minute that was never drawn. -/
def missedMinute : List ClockEvent :=
  [.sntpReply 3918988799, .second, .testFlag, .updateData, .sntpReply 3918988858, .second,
    .testFlag, .updateData, .second, .second, .testFlag, .updateData]

theorem missedMinute_not_fresh :
    ¬∀ tsr ts s, Run clockStep (boot tsr) ts s → Fresh ts := by
  intro claim
  have stale : (exec clockStep (boot 0) missedMinute).map (fun r => r.1.any fun t =>
      t.event = .updateData && t.target.drawn.any fun minute =>
        minute ≠ localMinute t.source.rtc.tsr) = some true := by decide +kernel
  obtain ⟨ts, s, run, found⟩ := exists_run stale
  simp only [List.any_eq_true, Bool.and_eq_true, decide_eq_true_eq, Option.any_eq_true] at found
  obtain ⟨t, member, update, minute, shown, differs⟩ := found
  exact differs (claim 0 ts s run t member update minute shown)

theorem fresh_iff_entersMinutesAtZero_missedMinute : ∃ ts s,
    Run clockStep (boot 0) ts s ∧ ts.length = 12 ∧ (Fresh ts ↔ EntersMinutesAtZero (readings ts)) := by
  have ran : (exec clockStep (boot 0) missedMinute).map (fun r => r.1.length == 12) = some true := by
    decide +kernel
  obtain ⟨ts, s, run, found⟩ := exists_run ran
  exact ⟨ts, s, run, by simpa using found, fresh_iff_entersMinutesAtZero rfl run⟩

/-- The local minute is a function of the UTC minute, whatever the time zone. -/
theorem getLocalizedTime_minute (a b timezone : Int) (same : a / 60 = b / 60) :
    (getLocalizedTime a timezone).minute = (getLocalizedTime b timezone).minute := by
  -- both shifts of `getLocalizedTime` are whole hours
  have shifted (k : Int) : (a + 3600 * k) / 60 = (b + 3600 * k) / 60 := by omega
  have days (x y : Int) (h : x / 60 = y / 60) : x / 86400 = y / 86400 := by omega
  have dst : isDst (gmtime (a + 3600 * timezone)) = isDst (gmtime (b + 3600 * timezone)) := by
    simp only [isDst, gmtime, days _ _ (shifted timezone)]
    rfl
  have whole (x y : Int) (h : x / 60 = y / 60) : (gmtime x).minute = (gmtime y).minute := by
    simp only [Tm.minute, gmtime, days x y h, Minute.mk.injEq, true_and]
    omega
  simp only [getLocalizedTime, dst]
  exact whole _ _ (shifted _)

/-- Readings that repeat or advance by one second never skip a second 0. -/
theorem entersMinutesAtZero_of_consecutive (values : List UInt32)
    (consecutive : ∀ pre a b post, values = pre ++ a :: b :: post →
      b.toNat = a.toNat ∨ b.toNat = a.toNat + 1) : EntersMinutesAtZero values := by
  intro pre previous value post split _
  rcases consecutive pre previous value post split with same | next
  · right
    simp only [localMinute, same]
  · by_cases zero : value.toNat % 60 = 0
    · exact .inl zero
    · right
      apply getLocalizedTime_minute
      omega

end EpaperClock
