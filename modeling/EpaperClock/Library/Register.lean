import Mathlib.Data.Nat.Bitwise
import Mathlib.Tactic.Common

/-! Unsigned fixed-width arithmetic, written once and read twice.

A computation is parameterized by how an integer result is stored in a register.
Under `wrap` it is what the machine does; under `checked` it fails at the first
result that does not fit. `Agrees` transports a successful check to the machine. -/
namespace Register

/-- Storing an integer in a `w`-bit unsigned register. -/
abbrev Store (M : Type → Type) := Nat → Int → M Nat

/-- The machine keeps the residue modulo `2 ^ w`. -/
def wrap : Store Id := fun w z => (z % 2 ^ w).toNat

/-- The checker refuses a result outside the register. -/
def checked : Store Option := fun w z => if 0 ≤ z ∧ z < 2 ^ w then some z.toNat else none

theorem checked_eq_some {w : Nat} {z : Int} {n : Nat} (value : z = n) (fits : n < 2 ^ w) :
    checked w z = some n := by
  subst value
  have bound : (n : Int) < 2 ^ w := by exact_mod_cast fits
  simp [checked, bound]

/-- A result that fits is stored as it is. -/
theorem checked_nat {w n : Nat} (fits : n < 2 ^ w) : checked w n = some n :=
  checked_eq_some rfl fits

theorem checked_bind {β : Type} {w : Nat} {z : Int} {n : Nat} {f : Nat → Option β}
    (value : z = n) (fits : n < 2 ^ w) : (checked w z >>= f) = f n := by
  rw [checked_eq_some value fits]
  rfl

/-- Every result of the checked computation is the machine's result. -/
def Agrees {α : Type} (check : Option α) (machine : Id α) : Prop :=
  ∀ a, check = some a → machine = a

namespace Agrees

variable {α β : Type}

theorem pure (a : α) : Agrees (some a) (Pure.pure a) := by
  intro b h
  exact Option.some.inj h

theorem store (w : Nat) (z : Int) : Agrees (checked w z) (wrap w z) := by
  intro n h
  simp only [checked] at h
  split at h
  next fits =>
    have residue : z % 2 ^ w = z := Int.emod_eq_of_lt fits.1 fits.2
    simpa only [wrap, residue] using Option.some.inj h
  next => cases h

theorem bind {x : Option α} {y : Id α} {f : α → Option β} {g : α → Id β}
    (first : Agrees x y) (rest : ∀ a, Agrees (f a) (g a)) : Agrees (x >>= f) (y >>= g) := by
  intro b h
  obtain ⟨a, ha, hb⟩ := Option.bind_eq_some_iff.mp h
  have machine : y = a := first a ha
  subst machine
  exact rest _ b hb

theorem ite {c : Prop} [Decidable c] {x x' : Option α} {y y' : Id α}
    (yes : Agrees x y) (no : Agrees x' y') :
    Agrees (if c then x else x') (if c then y else y') := by
  split
  · exact yes
  · exact no

end Agrees

end Register
