import EpaperClock.Library.Run
import Mathlib.Data.List.FinRange
import Mathlib.Data.List.Perm.Basic
import Mathlib.Logic.Function.Basic

/-! Requests that wait in slots: over a run, each is answered once, and in time. -/
namespace Ledger

open StepSystem

variable {F : Type} {n : Nat}

/-- What the slots hold. -/
def held (slots : Fin n → Option F) : List F := (List.finRange n).filterMap slots

theorem mem_held {slots : Fin n → Option F} {f : F} : f ∈ held slots ↔ ∃ r, slots r = some f := by
  simp [held, List.mem_filterMap]

theorem held_update {slots : Fin n → Option F} {r : Fin n} (free : slots r = none)
    (content : Option F) :
    (held (Function.update slots r content)).Perm (content.toList ++ held slots) := by
  obtain ⟨front, back, split⟩ := List.append_of_mem (List.mem_finRange r)
  have nodup := List.nodup_finRange n
  rw [split] at nodup
  have apart {l : List (Fin n)} (absent : r ∉ l) :
      l.filterMap (Function.update slots r content) = l.filterMap slots := by
    refine List.filterMap_congr fun q member => Function.update_of_ne ?_ ..
    rintro rfl
    exact absent member
  have outside := List.nodup_middle.mp nodup
  have absent := (List.nodup_cons.mp outside).1
  simp only [List.mem_append, not_or] at absent
  simp only [held, split, List.filterMap_append, List.filterMap_cons, Function.update_self, free,
    apart absent.1, apart absent.2]
  cases content with
  | none => exact .refl _
  | some f => exact List.perm_middle

/-- Those that meet a condition, and the others. -/
theorem held_split (slots : Fin n → Option F) (p : Fin n → Prop) [DecidablePred p] :
    (held (fun r => if p r then slots r else none) ++
      held (fun r => if p r then none else slots r)).Perm (held slots) := by
  have parts := (List.filter_append_perm (fun r => decide (p r)) (List.finRange n)).filterMap slots
  simp only [List.filterMap_append, List.filterMap_filter] at parts
  simpa [held] using parts

end Ledger

namespace StepSystem

variable {σ ε F : Type} {step : σ → ε → Option σ} {s₀ s : σ} {ts : List (Transition σ ε)}

/-- Where each step accounts for what it opens and closes, so does the run. -/
theorem Run.balanced (run : Run step s₀ ts s) (opened closed : Transition σ ε → List F)
    (pending : σ → List F)
    (each : ∀ t ∈ ts, (opened t ++ pending t.source).Perm (closed t ++ pending t.target)) :
    (ts.flatMap opened ++ pending s₀).Perm (ts.flatMap closed ++ pending s) := by
  induction run with
  | start => exact .refl _
  | @next ts s e s' _ _ ih =>
    have before := ih fun t member => each t (List.mem_append_left _ member)
    have last := each ⟨s, e, s'⟩ (List.mem_append_right _ (List.mem_singleton_self _))
    simp only [List.flatMap_append, List.flatMap_singleton, List.append_assoc]
    have moved := List.perm_append_comm_assoc (ts.flatMap opened) (opened ⟨s, e, s'⟩) (pending s₀)
    have earlier := before.append_left (opened ⟨s, e, s'⟩)
    have back := List.perm_append_comm_assoc (opened ⟨s, e, s'⟩) (ts.flatMap closed) (pending s)
    exact ((moved.trans earlier).trans back).trans (last.append_left _)

/-- What waits, with a rank that each tick lowers, is discharged before more ticks than its rank
have passed. -/
theorem Run.discharged (run : Run step s₀ ts s) {P : σ → Prop} (rank : σ → Nat)
    (tick : Transition σ ε → Bool) {goal : Transition σ ε → Prop}
    (each : ∀ t ∈ ts, P t.source →
      goal t ∨ P t.target ∧ rank t.target + (if tick t then 1 else 0) ≤ rank t.source)
    (waits : P s₀) (enough : rank s₀ < ts.countP tick) : ∃ t ∈ ts, goal t := by
  have reached : (∃ t ∈ ts, goal t) ∨ P s ∧ rank s + ts.countP tick ≤ rank s₀ := by
    clear enough
    induction run with
    | start => exact .inr ⟨waits, by simp⟩
    | @next ts s e s' _ _ ih =>
      have last := each ⟨s, e, s'⟩ (List.mem_append_right _ (List.mem_singleton_self _))
      rcases ih (fun t member => each t (List.mem_append_left _ member)) with
        ⟨t, member, found⟩ | ⟨waiting, left⟩
      · exact .inl ⟨t, List.mem_append_left _ member, found⟩
      · rcases last waiting with found | ⟨still, lower⟩
        · exact .inl ⟨_, List.mem_append_right _ (List.mem_singleton_self _), found⟩
        · refine .inr ⟨still, ?_⟩
          dsimp only at lower
          rw [List.countP_append, List.countP_singleton]
          omega
  rcases reached with found | ⟨_, late⟩
  · exact found
  · omega

end StepSystem
