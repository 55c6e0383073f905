import EpaperClock.Library.Run

/-! Parts of runs, and runs of a system that is the image of another. -/
namespace StepSystem

variable {σ τ ε : Type} {step : σ → ε → Option σ} {step' : τ → ε → Option τ}

theorem Run.eq_of_nil {s₀ s : σ} (run : Run step s₀ [] s) : s = s₀ := by
  generalize none : ([] : List (Transition σ ε)) = ts at run
  cases run with
  | start => rfl
  | next => exact absurd none.symm (List.append_ne_nil_of_right_ne_nil _ (List.cons_ne_nil _ _))

/-- A run goes on from each of its transitions. -/
theorem Run.after {s₀ s : σ} {pre post : List (Transition σ ε)} {t : Transition σ ε}
    (run : Run step s₀ (pre ++ t :: post) s) : Run step t.target post s := by
  generalize whole : pre ++ t :: post = ts at run
  induction run generalizing post with
  | start => simp at whole
  | @next us s e s' before taken ih =>
    -- `t` is the step just taken, or it lies in the run before it
    rcases List.eq_nil_or_concat post with rfl | ⟨rest, last, rfl⟩
    · obtain ⟨rfl, tail⟩ := List.append_inj' whole rfl
      obtain rfl : t = ⟨s, e, s'⟩ := by simpa using tail
      exact .start
    · rw [List.concat_eq_append, ← List.cons_append, ← List.append_assoc] at whole
      obtain ⟨first, tail⟩ := List.append_inj' whole rfl
      obtain rfl : last = ⟨s, e, s'⟩ := by simpa using tail
      rw [List.concat_eq_append]
      exact (ih first).next taken

def Transition.map (image : σ → τ) (t : Transition σ ε) : Transition τ ε :=
  ⟨image t.source, t.event, image t.target⟩

/-- A step function that acts on images as another acts on what they are images of, wherever
`P` holds: each of its allowed runs is the image of a run. -/
theorem Run.of_image (image : σ → τ) {P : σ → Prop} {allowed : τ → Prop} {s₀ : σ} {ts : List (Transition τ ε)}
    {t : τ} (init : P s₀)
    (matched : ∀ {s} (e), P s → step' (image s) e = (step s e).map image)
    (keeps : ∀ {s e s'}, P s → step s e = some s' → allowed (image s') → P s')
    (run : Run step' (image s₀) ts t) (guard : ∀ t ∈ ts, allowed t.target) :
    ∃ us s, Run step s₀ us s ∧ P s ∧ (∀ u ∈ us, P u.source) ∧ ts = us.map (.map image) ∧
      t = image s := by
  induction run with
  | start => exact ⟨[], s₀, .start, init, by simp, rfl, rfl⟩
  | @next ts t e t' _ taken ih =>
    obtain ⟨us, s, before, holds, earlier, rfl, rfl⟩ :=
      ih (fun t member => guard t (List.mem_append_left _ member))
    rw [matched e holds] at taken
    obtain ⟨s', step, rfl⟩ := Option.map_eq_some_iff.mp taken
    have last : allowed (image s') :=
      guard _ (List.mem_append_right _ (List.mem_singleton_self _))
    refine ⟨us ++ [⟨s, e, s'⟩], s', before.next step, keeps holds step last, ?_,
      by simp [Transition.map], rfl⟩
    intro u member
    rcases List.mem_append.mp member with before | last
    · exact earlier u before
    · rw [List.mem_singleton.mp last]
      exact holds

end StepSystem
