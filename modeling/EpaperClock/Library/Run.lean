import Mathlib.Data.List.Basic

/-! Runs of a deterministic step function over labelled events, with their history. -/
namespace StepSystem

/-- One step taken: where it started, its event and where it ended. -/
structure Transition (σ ε : Type) where
  source : σ
  event : ε
  target : σ
  deriving DecidableEq

variable {σ ε : Type} {step : σ → ε → Option σ}

/-- The transitions taken from `s₀`, in order, and the state they lead to. -/
inductive Run (step : σ → ε → Option σ) (s₀ : σ) : List (Transition σ ε) → σ → Prop
  | start : Run step s₀ [] s₀
  | next {ts s e s'} : Run step s₀ ts s → step s e = some s' → Run step s₀ (ts ++ [⟨s, e, s'⟩]) s'

namespace Run

variable {s₀ s : σ} {ts : List (Transition σ ε)}

/-- A transition of a run is a step, taken from a state that the run before it reaches. -/
theorem split {pre post : List (Transition σ ε)} {t : Transition σ ε}
    (run : Run step s₀ (pre ++ t :: post) s) :
    Run step s₀ pre t.source ∧ step t.source t.event = some t.target := by
  generalize whole : pre ++ t :: post = ts at run
  induction run generalizing post with
  | start => simp at whole
  | @next us s e s' before taken ih =>
    -- `t` is the step just taken, or it lies in the run before it
    rcases List.eq_nil_or_concat post with rfl | ⟨rest, last, rfl⟩
    · obtain ⟨rfl, tail⟩ := List.append_inj' whole rfl
      obtain rfl : t = ⟨s, e, s'⟩ := by simpa using tail
      exact ⟨before, taken⟩
    · rw [List.concat_eq_append, ← List.cons_append, ← List.append_assoc] at whole
      exact ih (List.append_inj' whole rfl).1

theorem step_of_mem (run : Run step s₀ ts s) {t : Transition σ ε} (member : t ∈ ts) :
    step t.source t.event = some t.target := by
  obtain ⟨pre, post, rfl⟩ := List.append_of_mem member
  exact run.split.2

/-- A part of the run reaches the state from which a transition is taken. -/
theorem source_of_mem (run : Run step s₀ ts s) {t : Transition σ ε} (member : t ∈ ts) :
    ∃ pre, (∀ earlier ∈ pre, earlier ∈ ts) ∧ Run step s₀ pre t.source := by
  obtain ⟨pre, post, rfl⟩ := List.append_of_mem member
  exact ⟨pre, fun _ earlier => List.mem_append_left _ earlier, run.split.1⟩

/-- The two parts of a run, with the state between them. -/
theorem split_append {pre post : List (Transition σ ε)} (run : Run step s₀ (pre ++ post) s) :
    ∃ middle, Run step s₀ pre middle ∧ Run step middle post s := by
  generalize whole : pre ++ post = ts at run
  induction run generalizing post with
  | start =>
    obtain ⟨rfl, rfl⟩ := List.append_eq_nil_iff.mp whole
    exact ⟨_, .start, .start⟩
  | @next us s e s' before taken ih =>
    rcases List.eq_nil_or_concat post with rfl | ⟨rest, last, rfl⟩
    · rw [List.append_nil] at whole
      exact ⟨s', whole ▸ .next before taken, .start⟩
    · rw [List.concat_eq_append, ← List.append_assoc] at whole
      obtain ⟨earlier, same⟩ := List.append_inj' whole rfl
      obtain rfl : last = ⟨s, e, s'⟩ := by simpa using same
      obtain ⟨middle, first, second⟩ := ih earlier
      rw [List.concat_eq_append]
      exact ⟨middle, first, .next second taken⟩

/-- A property of the states that the allowed steps keep, in a run of allowed steps: it
holds in every state reached. -/
theorem guarded_invariant {P : σ → Prop} {allowed : Transition σ ε → Prop} (init : P s₀)
    (keeps : ∀ t : Transition σ ε, step t.source t.event = some t.target → allowed t →
      P t.source → P t.target)
    (run : Run step s₀ ts s) (guard : ∀ t ∈ ts, allowed t) : P s ∧ ∀ t ∈ ts, P t.target := by
  induction run with
  | start => exact ⟨init, by simp⟩
  | @next ts s e s' _ taken ih =>
    obtain ⟨now, before⟩ := ih (fun t member => guard t (List.mem_append_left _ member))
    have later : P s' := keeps ⟨s, e, s'⟩ taken (guard _ (by simp)) now
    refine ⟨later, ?_⟩
    intro t member
    rcases List.mem_append.mp member with earlier | last
    · exact before t earlier
    · rw [List.mem_singleton.mp last]
      exact later

/-- What holds behind a transition, and is kept by the allowed steps, still holds after steps
that are all allowed. -/
theorem since {P : σ → Prop} {allowed : Transition σ ε → Prop} {pre mid : List (Transition σ ε)}
    {t : Transition σ ε} (run : Run step s₀ (pre ++ t :: mid) s) (init : P t.target)
    (keeps : ∀ t : Transition σ ε, step t.source t.event = some t.target → allowed t →
      P t.source → P t.target)
    (guard : ∀ m ∈ mid, allowed m) : P s := by
  rw [← List.singleton_append, ← List.append_assoc] at run
  obtain ⟨reached, before, behind⟩ := run.split_append
  obtain rfl : reached = t.target := by
    generalize whole : pre ++ [t] = ts at before
    cases before with
    | start => simp at whole
    | next _ _ =>
      obtain ⟨_, same⟩ := List.append_inj' whole rfl
      rw [(List.cons.inj same).1]
  exact (behind.guarded_invariant init keeps guard).1

/-- A property that every step keeps holds in every state reached. -/
theorem invariant {P : σ → Prop} (init : P s₀)
    (keeps : ∀ {s e s'}, step s e = some s' → P s → P s') (run : Run step s₀ ts s) :
    P s ∧ ∀ t ∈ ts, P t.target :=
  run.guarded_invariant init (fun _ taken _ => keeps taken) (fun _ _ => trivial)

end Run

/-- Take the steps of the given events, in order. -/
def exec (step : σ → ε → Option σ) : σ → List ε → Option (List (Transition σ ε) × σ)
  | s, [] => some ([], s)
  | s, e :: rest => do
    let s' ← step s e
    let (ts, last) ← exec step s' rest
    some (⟨s, e, s'⟩ :: ts, last)

theorem Run.append_exec {s₀ s : σ} {pre : List (Transition σ ε)} {es : List ε}
    {result : List (Transition σ ε) × σ} (run : Run step s₀ pre s)
    (done : exec step s es = some result) : Run step s₀ (pre ++ result.1) result.2 := by
  induction es generalizing pre s result with
  | nil =>
    cases done
    simpa using run
  | cons e rest ih =>
    obtain ⟨s', taken, after⟩ := Option.bind_eq_some_iff.mp done
    obtain ⟨⟨ts, last⟩, ran, final⟩ := Option.bind_eq_some_iff.mp after
    cases final
    simpa using ih (run.next taken) ran

/-- A computed execution is a run. -/
theorem Run.of_exec {s₀ : σ} {es : List ε} {result : List (Transition σ ε) × σ}
    (done : exec step s₀ es = some result) : Run step s₀ result.1 result.2 := by
  simpa using Run.append_exec .start done

/-- A computed execution with a property gives a run with it. -/
theorem exists_run {s₀ : σ} {es : List ε} {p : List (Transition σ ε) × σ → Bool}
    (done : (exec step s₀ es).map p = some true) :
    ∃ ts s, Run step s₀ ts s ∧ p (ts, s) = true := by
  obtain ⟨result, ran, holds⟩ := Option.map_eq_some_iff.mp done
  exact ⟨result.1, result.2, .of_exec ran, holds⟩

end StepSystem
