import Mathlib.Data.List.Induction

/-! Painting over points: of several strokes over a point, the last one shows. -/
namespace Canvas

variable {P V : Type}

/-- One colour over some of the points. -/
structure Stroke (P V : Type) where
  covers : P → Bool
  colour : V

def Stroke.paint (canvas : P → V) (stroke : Stroke P V) : P → V :=
  fun p => if stroke.covers p then stroke.colour else canvas p

/-- The colour of the last stroke over a point. -/
def lastColour (strokes : List (Stroke P V)) (p : P) : Option V :=
  ((strokes.filter (·.covers p)).getLast?).map (·.colour)

theorem lastColour_append (strokes : List (Stroke P V)) (stroke : Stroke P V) (p : P) :
    lastColour (strokes ++ [stroke]) p =
      if stroke.covers p then some stroke.colour else lastColour strokes p := by
  by_cases covered : stroke.covers p = true
  · simp [lastColour, covered]
  · simp [lastColour, covered]

/-- Steps on any state that act as strokes on what it shows: in the end every point shows the
last stroke over it, or what it showed before. -/
theorem foldlM_paint {σ α : Type} {step : σ → α → Option σ} (view : σ → P → V) (shown : P → Prop)
    (stroke : α → Stroke P V)
    (simulates : ∀ s a, ∃ s', step s a = some s' ∧
      ∀ p, shown p → view s' p = (stroke a).paint (view s) p) (s : σ) (as : List α) :
    ∃ s', as.foldlM step s = some s' ∧
      ∀ p, shown p → view s' p = (lastColour (as.map stroke) p).getD (view s p) := by
  induction as using List.reverseRecOn with
  | nil => exact ⟨s, rfl, fun _ _ => rfl⟩
  | append_singleton as a ih =>
    obtain ⟨before, ran, shows⟩ := ih
    obtain ⟨after, stepped, painted⟩ := simulates before a
    refine ⟨after, by simp [List.foldlM_append, ran, stepped], ?_⟩
    intro p inside
    rw [painted p inside, List.map_append, List.map_singleton, lastColour_append, Stroke.paint,
      shows p inside]
    split <;> rfl

end Canvas
