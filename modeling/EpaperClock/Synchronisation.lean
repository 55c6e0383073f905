import EpaperClock.MainLoop

/-! What is shown before the clock has been set. -/
namespace EpaperClock

open StepSystem

/-- A call of `updateData` that draws a time. -/
def draws (t : ClockTransition) : Prop :=
  t.event = .updateData ∧ ∃ timeinfo, Action.composeFrame timeinfo ∈ updateData t.source.rtc

def acceptedReply (t : ClockTransition) : Prop :=
  ∃ xmitSec, t.event = .sntpReply xmitSec ∧ sntpAccepts xmitSec = true

/-- Every time shown follows an accepted reply, and a refused reply changes nothing. -/
structure Synchronised (ts : List ClockTransition) : Prop where
  drawn_after_reply : ∀ pre t post, ts = pre ++ t :: post → draws t → ∃ u ∈ pre, acceptedReply u
  refused_unchanged : ∀ t ∈ ts, ∀ xmitSec, t.event = .sntpReply xmitSec →
    sntpAccepts xmitSec = false → t.target.rtc = t.source.rtc

/-- The SNTP replies handled in a run, in order. -/
def replies (ts : List ClockTransition) : List UInt32 :=
  ts.filterMap fun t => match t.event with
    | .sntpReply xmitSec => some xmitSec
    | _ => none

theorem replies_append (ts us : List ClockTransition) :
    replies (ts ++ us) = replies ts ++ replies us :=
  List.filterMap_append

theorem replies_append_reply {pre post : List ClockTransition} {t : ClockTransition}
    {xmitSec : UInt32} (event : t.event = .sntpReply xmitSec) :
    replies (pre ++ t :: post) = replies pre ++ xmitSec :: replies post := by
  simp [replies, event]

theorem replies_append_other {pre post : List ClockTransition} {t : ClockTransition}
    (other : ∀ xmitSec, t.event ≠ .sntpReply xmitSec) :
    replies (pre ++ t :: post) = replies (pre ++ post) := by
  rw [replies_append, replies_append]
  congr 1
  unfold replies
  apply List.filterMap_cons_none
  cases event : t.event <;> simp_all

theorem mem_replies {ts : List ClockTransition} {xmitSec : UInt32} :
    xmitSec ∈ replies ts ↔ ∃ t ∈ ts, t.event = .sntpReply xmitSec := by
  simp only [replies, List.mem_filterMap]
  apply exists_congr
  intro t
  cases t.event <;> simp

/-- Until the first reply the counter stands still and nothing is drawn; from then on it runs. -/
theorem counter_runs_iff {tsr : UInt32} {s : Clock} {ts : List ClockTransition}
    (run : Run clockStep (boot tsr) ts s) :
    (replies ts = [] → s.rtc.tce = false ∧ s.gSecsFlag = false ∧ s.phase = .polling) ∧
    (replies ts ≠ [] → s.rtc.tce = true) := by
  induction run with
  | start => simp [replies, boot]
  | @next ts s e s' _ taken ih =>
    obtain ⟨before, after⟩ := ih
    have silent (other : ∀ xmitSec, e ≠ .sntpReply xmitSec) :
        replies (ts ++ [⟨s, e, s'⟩]) = replies ts := by
      rw [replies_append_other other, List.append_nil]
    rcases clockStep_cases taken with ⟨rfl, runs, rfl⟩ | ⟨xmitSec, rfl, _, rfl⟩ | ⟨rfl, _, _, rfl⟩ |
      ⟨rfl, _, flag, rfl⟩ | ⟨rfl, phase, rfl⟩
    -- a second needs a running counter, a set flag a second, and a call a set flag
    · rw [silent (by simp)]
      refine ⟨fun none => ?_, fun _ => runs⟩
      have stopped := (before none).1
      rw [runs] at stopped
      cases stopped
    -- accepted or not, a reply starts the counter
    · rw [replies_append_reply rfl]
      simp [sntpProcess_eq]
    · rw [silent (by simp)]
      exact ⟨before, after⟩
    · rw [silent (by simp)]
      refine ⟨fun none => ?_, after⟩
      have clear := (before none).2.1
      rw [flag] at clear
      cases clear
    · rw [silent (by simp)]
      refine ⟨fun none => ?_, after⟩
      have polling := (before none).2.2
      rw [phase] at polling
      cases polling

theorem exists_first_reply {ts : List ClockTransition} {xmitSec : UInt32}
    (first : (replies ts).head? = some xmitSec) :
    ∃ pre t post, ts = pre ++ t :: post ∧ replies pre = [] ∧ t.event = .sntpReply xmitSec := by
  induction ts with
  | nil => simp [replies] at first
  | cons t rest ih =>
    by_cases reply : ∃ x, t.event = .sntpReply x
    · obtain ⟨x, event⟩ := reply
      obtain rfl : x = xmitSec := by simpa [replies, event] using first
      exact ⟨[], t, rest, rfl, rfl, event⟩
    · have skipped (us : List ClockTransition) : replies (t :: us) = replies us :=
        @replies_append_other [] us t (fun x event => reply ⟨x, event⟩)
      rw [skipped] at first
      obtain ⟨pre, u, post, rfl, none, event⟩ := ih first
      exact ⟨t :: pre, u, post, rfl, by rw [skipped, none], event⟩

theorem clockStep_sntpReply_rtc {t : ClockTransition} {xmitSec : UInt32}
    (taken : clockStep t.source t.event = some t.target) (event : t.event = .sntpReply xmitSec) :
    t.target.rtc = sntpProcess xmitSec t.source.rtc := by
  rw [event] at taken
  simp only [clockStep, Option.ite_none_right_eq_some, Option.some.injEq] at taken
  rw [← taken.2]

/-- A run is synchronised exactly when its first reply, if there is one, is accepted: the
error path of `sntp_process` starts the counter even if it was never set. -/
theorem synchronised_iff_first_reply_accepted {tsr : UInt32} {s : Clock} {ts : List ClockTransition}
    (run : Run clockStep (boot tsr) ts s) :
    Synchronised ts ↔ ∀ xmitSec, (replies ts).head? = some xmitSec →
      internetTime xmitSec < 4102444800 := by
  simp only [← sntpAccepts_iff]
  constructor
  · intro synchronised xmitSec first
    by_contra refused
    -- until this reply the counter stands still, so its start shows in `SR[TCE]`
    obtain ⟨pre, t, post, rfl, unanswered, event⟩ := exists_first_reply first
    obtain ⟨before, taken⟩ := run.split
    have stopped := ((counter_runs_iff before).1 unanswered).1
    have unchanged := synchronised.refused_unchanged t (by simp) xmitSec event (by simpa using refused)
    rw [clockStep_sntpReply_rtc taken event, sntpProcess_eq] at unchanged
    rw [← unchanged] at stopped
    cases stopped
  · intro accepted
    constructor
    · rintro pre t post rfl ⟨update, _⟩
      obtain ⟨before, taken⟩ := run.split
      -- `updateData` runs only after a second has passed, so after a reply
      have answered : replies pre ≠ [] := by
        intro unanswered
        have polling := ((counter_runs_iff before).1 unanswered).2.2
        simp [clockStep, update, polling] at taken
      obtain ⟨xmitSec, later, heads⟩ := List.exists_cons_of_ne_nil answered
      have first : (replies (pre ++ t :: post)).head? = some xmitSec := by
        rw [replies_append, heads]
        rfl
      have handled : xmitSec ∈ replies pre := heads ▸ List.mem_cons_self
      obtain ⟨u, member, event⟩ := mem_replies.mp handled
      exact ⟨u, member, xmitSec, event, accepted xmitSec first⟩
    · intro t member xmitSec event refused
      obtain ⟨pre, post, rfl⟩ := List.append_of_mem member
      obtain ⟨before, taken⟩ := run.split
      -- a refused reply is not the first one, and then the counter was running already
      have answered : replies pre ≠ [] := by
        intro unanswered
        have first := accepted xmitSec (by rw [replies_append_reply event, unanswered]; rfl)
        rw [refused] at first
        cases first
      have running := (counter_runs_iff before).2 answered
      rw [clockStep_sntpReply_rtc taken event, sntpProcess_eq, refused]
      exact congrArg (Rtc.mk t.source.rtc.tsr) running.symm

/-- The first reply carries 2100-01-01: it is refused, and the counter runs from the
value that `RTC_Reset` gave it to a second 0, which is drawn. -/
def refusedFirst : List ClockEvent :=
  .sntpReply 2016466304 :: (List.replicate 59 [.second, .testFlag, .updateData]).flatten

theorem refusedFirst_not_synchronised :
    ¬∀ tsr ts s, Run clockStep (boot tsr) ts s → Synchronised ts := by
  intro claim
  have drew : (exec clockStep (boot 1) refusedFirst).map (fun r =>
      r.1.getLast?.any (fun t => t.event = .updateData &&
        .composeFrame (updateTimeinfo t.source.rtc) ∈ updateData t.source.rtc) &&
      (replies r.1).all (!sntpAccepts ·)) = some true := by decide +kernel
  obtain ⟨ts, s, run, found⟩ := exists_run drew
  simp only [Bool.and_eq_true, Option.any_eq_true, List.all_eq_true, decide_eq_true_eq,
    Bool.not_eq_true'] at found
  obtain ⟨⟨t, last, update, member⟩, refused⟩ := found
  have shown : draws t := ⟨update, _, member⟩
  have split := (List.dropLast_append_getLast? t last).symm
  obtain ⟨u, earlier, xmitSec, event, accepted⟩ :=
    (claim 1 ts s run).drawn_after_reply ts.dropLast t [] split shown
  have refusal := refused xmitSec (mem_replies.mpr ⟨u, List.dropLast_subset _ earlier, event⟩)
  rw [accepted] at refusal
  cases refusal

theorem synchronised_iff_first_reply_accepted_refusedFirst : ∃ ts s,
    Run clockStep (boot 1) ts s ∧ ts.length = 178 ∧
      (Synchronised ts ↔ ∀ xmitSec, (replies ts).head? = some xmitSec →
        internetTime xmitSec < 4102444800) := by
  have ran : (exec clockStep (boot 1) refusedFirst).map (fun r => r.1.length == 178) = some true := by
    decide +kernel
  obtain ⟨ts, s, run, found⟩ := exists_run ran
  exact ⟨ts, s, run, by simpa using found, synchronised_iff_first_reply_accepted run⟩

end EpaperClock
