import Mathlib.Data.Int.ModEq
import Mathlib.Data.Nat.Digits.Defs
import Mathlib.RingTheory.Congruence.Basic

/-! Ones' complement arithmetic, in which `0` and `m` are two zeros. -/
namespace OnesComplement

variable {m b : ℕ}

/-- Equal modulo `m`, and zero together. -/
def con (m : ℕ) : RingCon ℕ where
  r x y := x ≡ y [MOD m] ∧ (x = 0 ↔ y = 0)
  iseqv := {
    refl _ := ⟨.refl _, .rfl⟩
    symm h := ⟨h.1.symm, h.2.symm⟩
    trans h k := ⟨h.1.trans k.1, h.2.trans k.2⟩ }
  add' h k := ⟨h.1.add k.1, by simp only [Nat.add_eq_zero_iff, h.2, k.2]⟩
  mul' h k := ⟨h.1.mul k.1, by simp only [Nat.mul_eq_zero, h.2, k.2]⟩

/-- The sums modulo `m`, with both zeros. -/
abbrev Sum (m : ℕ) := (con m).Quotient

theorem cast_eq_iff {x y : ℕ} : (x : Sum m) = y ↔ x ≡ y [MOD m] ∧ (x = 0 ↔ y = 0) := by
  rw [← Nat.cast_id x, ← Nat.cast_id y, ← RingCon.coe_natCast, ← RingCon.coe_natCast]
  exact (con m).eq

theorem modEq_of_cast_eq {x y : ℕ} (same : (x : Sum m) = y) : x ≡ y [MOD m] :=
  (cast_eq_iff.mp same).1

/-- Each sum has one representative up to `m`. -/
theorem eq_of_cast_eq {x y : ℕ} (hx : x ≤ m) (hy : y ≤ m) (same : (x : Sum m) = y) : x = y := by
  obtain ⟨mod, zero⟩ := cast_eq_iff.mp same
  rcases Nat.eq_zero_or_pos x with none | some
  · omega
  · -- both lie in `1..m`
    have step : x - 1 ≡ y - 1 [MOD m] := by
      apply Nat.ModEq.add_right_cancel' 1
      rwa [Nat.sub_add_cancel some, Nat.sub_add_cancel (by omega)]
    have := Nat.ModEq.eq_of_lt_of_lt step (by omega) (by omega)
    omega

theorem base_mul (x : Sum m) : ((m + 1 : ℕ) : Sum m) * x = x := by
  have one : ((m + 1 : ℕ) : Sum m) = (1 : ℕ) := cast_eq_iff.mpr ⟨by simp [Nat.ModEq], by simp⟩
  rw [one, Nat.cast_one, one_mul]

/-- Adding the carry back. -/
theorem fold (x : ℕ) : ((x / (m + 1) + x % (m + 1) : ℕ) : Sum m) = x := by
  conv_rhs => rw [← Nat.div_add_mod x (m + 1), Nat.cast_add, Nat.cast_mul, base_mul]
  rw [Nat.cast_add]

/-- The complement of a number up to `m`. -/
theorem add_complement {x : ℕ} (h : x ≤ m) : (x : Sum m) + (m - x : ℕ) = m := by
  rw [← Nat.cast_add, Nat.add_sub_of_le h]

/-! ### Digits of which two make a word -/

/-- The number of a list of digits, the lowest first. -/
def value (m b : ℕ) (digits : List ℕ) : Sum m := (Nat.ofDigits b digits : ℕ)

theorem value_nil : value m b [] = 0 := by
  rw [value, Nat.ofDigits_nil, Nat.cast_zero]

theorem value_cons (d : ℕ) (digits : List ℕ) :
    value m b (d :: digits) = (d : Sum m) + (b : Sum m) * value m b digits := by
  simp only [value, Nat.ofDigits_cons, Nat.cast_add, Nat.cast_mul]

theorem value_append (front back : List ℕ) :
    value m b (front ++ back) = value m b front + (b : Sum m) ^ front.length * value m b back := by
  rw [value, Nat.ofDigits_append, Nat.cast_add, Nat.cast_mul, Nat.cast_pow, value, value]

section Word

variable (word : b * b = m + 1)

include word

theorem pow_mul_pow (k : ℕ) : (b : Sum m) ^ k * (b : Sum m) ^ k = 1 := by
  have square : (b : Sum m) * b = 1 := by rw [← Nat.cast_mul, word, ← mul_one (Nat.cast _), base_mul]
  rw [← mul_pow, square, one_pow]

theorem mul_mul_cancel (x : Sum m) : (b : Sum m) * ((b : Sum m) * x) = x := by
  have pair := pow_mul_pow word 1
  rw [pow_one] at pair
  rw [← mul_assoc, pair, one_mul]

/-- Only the parity of a place counts. -/
theorem pow_parity (k : ℕ) (x : Sum m) : (b : Sum m) ^ k * x = (b : Sum m) ^ (k % 2) * x := by
  conv_lhs => rw [← Nat.div_add_mod k 2, pow_add, two_mul, pow_add, pow_mul_pow word, one_mul]

/-- The first word. -/
theorem value_cons_cons (low high : ℕ) (digits : List ℕ) :
    value m b (low :: high :: digits) = ((low + b * high : ℕ) : Sum m) + value m b digits := by
  rw [value_cons, value_cons, mul_add, mul_mul_cancel word, ← add_assoc, ← Nat.cast_mul, ← Nat.cast_add]

/-- A sum tells apart digits that stand in the same place. -/
theorem digit_unique {front back : List ℕ} {x y : ℕ} (hx : x < b) (hy : y < b)
    (same : value m b (front ++ x :: back) = value m b (front ++ y :: back)) : x = y := by
  by_cases unary : b = 1
  · omega
  have small : b ≤ m := by
    have := Nat.mul_le_mul_left b (show 2 ≤ b by omega)
    omega
  -- without the digits in front, and back in the lowest place
  simp only [value] at same
  have mod := modEq_of_cast_eq same
  rw [Nat.ofDigits_append, Nat.ofDigits_append] at mod
  have shifted := (Nat.ModEq.add_left_cancel' _ mod).mul_left (b ^ front.length)
  have lowest (n : ℕ) : b ^ front.length * (b ^ front.length * n) ≡ n [MOD m] := by
    apply modEq_of_cast_eq
    rw [← mul_assoc, Nat.cast_mul, Nat.cast_mul, Nat.cast_pow, pow_mul_pow word, one_mul]
  have digits := (lowest _).symm.trans (shifted.trans (lowest _))
  rw [Nat.ofDigits_cons, Nat.ofDigits_cons] at digits
  exact Nat.ModEq.eq_of_lt_of_lt (Nat.ModEq.add_right_cancel' _ digits) (by omega) (by omega)

end Word

end OnesComplement
