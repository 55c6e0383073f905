import Mathlib.Data.Nat.Bitwise
import Mathlib.Data.UInt

/-! Bits packed into bytes, eight to a byte, the most significant first. -/
namespace Bitmap

/-! ### One byte -/

/-- `0x80 >> k`. -/
def mask (k : Nat) : UInt8 := 0x80 >>> UInt8.ofNat k

/-- Bit `k` from the most significant on. -/
def readBit (b : UInt8) (k : Nat) : Bool := b.toNat.testBit (7 - k)

def writeBit (b : UInt8) (k : Nat) (on : Bool) : UInt8 :=
  if on then b ||| mask k else b &&& ~~~mask k

@[simp] theorem readBit_zero (j : Nat) : readBit 0 j = false := by simp [readBit]

theorem readBit_mask {j k : Nat} (hj : j < 8) (hk : k < 8) :
    readBit (mask k) j = decide (j = k) := by
  have table : ∀ k < 8, ∀ j < 8, readBit (mask k) j = decide (j = k) := by decide
  exact table k hk j hj

theorem readBit_or (a b : UInt8) (j : Nat) : readBit (a ||| b) j = (readBit a j || readBit b j) := by
  simp [readBit, Nat.testBit_or]

theorem readBit_and (a b : UInt8) (j : Nat) : readBit (a &&& b) j = (readBit a j && readBit b j) := by
  simp [readBit, Nat.testBit_and]

theorem readBit_not (a : UInt8) (j : Nat) : readBit (~~~a) j = !readBit a j := by
  have inside : 7 - j < 8 := by omega
  have value : (~~~a).toNat = 2 ^ 8 - (a.toNat + 1) := by
    rw [UInt8.toNat_not]
    simp [UInt8.size]
  rw [readBit, value, Nat.testBit_two_pow_sub_succ a.toNat_lt]
  simp [readBit, inside]

theorem readBit_writeBit (b : UInt8) {j k : Nat} (hj : j < 8) (hk : k < 8) (on : Bool) :
    readBit (writeBit b k on) j = if j = k then on else readBit b j := by
  cases on with
  | true =>
    rw [writeBit, if_pos rfl, readBit_or, readBit_mask hj hk]
    split <;> simp [*]
  | false =>
    rw [writeBit, if_neg (by decide), readBit_and, readBit_not, readBit_mask hj hk]
    split <;> simp [*]

/-- A byte is determined by its bits. -/
theorem eq_of_readBit {a b : UInt8} (same : ∀ k < 8, readBit a k = readBit b k) : a = b := by
  apply UInt8.toNat_inj.mp
  apply Nat.eq_of_testBit_eq
  intro i
  by_cases inside : i < 8
  · have bit := same (7 - i) (by omega)
    rw [readBit, readBit, show 7 - (7 - i) = i by omega] at bit
    exact bit
  · have large : 2 ^ 8 ≤ 2 ^ i := Nat.pow_le_pow_right (by decide) (Nat.le_of_not_lt inside)
    rw [Nat.testBit_lt_two_pow (Nat.lt_of_lt_of_le a.toNat_lt large),
      Nat.testBit_lt_two_pow (Nat.lt_of_lt_of_le b.toNat_lt large)]

/-- The test `b & (0x80 >> k)`. -/
theorem and_mask_eq_zero_iff (b : UInt8) {k : Nat} (hk : k < 8) :
    b &&& mask k = 0 ↔ readBit b k = false := by
  constructor
  · intro zero
    have bit : readBit (b &&& mask k) k = false := by rw [zero, readBit_zero]
    simpa [readBit_and, readBit_mask hk hk] using bit
  · intro off
    apply eq_of_readBit
    intro j hj
    rw [readBit_and, readBit_mask hj hk]
    by_cases same : j = k
    · simp [same, off]
    · simp [same]

/-! ### Rows of bytes -/

/-- Bit `i` of a row of bytes, off behind its end. -/
def getBit (bytes : List UInt8) (i : Nat) : Bool := readBit (bytes.getD (i / 8) 0) (i % 8)

def setBit (bytes : List UInt8) (i : Nat) (on : Bool) : List UInt8 :=
  bytes.modify (i / 8) fun b => writeBit b (i % 8) on

@[simp] theorem length_setBit (bytes : List UInt8) (i : Nat) (on : Bool) :
    (setBit bytes i on).length = bytes.length := by
  simp [setBit]

/-- Byte and mask together address one bit. -/
theorem getBit_setBit {bytes : List UInt8} {i : Nat} (inside : i < 8 * bytes.length) (j : Nat)
    (on : Bool) : getBit (setBit bytes i on) j = if j = i then on else getBit bytes j := by
  have present : i / 8 < bytes.length := by omega
  have address : j = i ↔ i / 8 = j / 8 ∧ j % 8 = i % 8 := by omega
  simp only [getBit, setBit, List.getD_eq_getElem?_getD, List.getElem?_modify]
  by_cases byte : i / 8 = j / 8
  · have written := readBit_writeBit bytes[i / 8] (Nat.mod_lt j (by decide : 0 < 8))
      (Nat.mod_lt i (by decide : 0 < 8)) on
    simpa [← byte, present, address] using written
  · have other : j ≠ i := fun same => byte (address.mp same).1
    simp [byte, other]

theorem eq_of_getBit {a b : List UInt8} (length : a.length = b.length)
    (same : ∀ i < 8 * a.length, getBit a i = getBit b i) : a = b := by
  apply List.ext_getElem length
  intro n inA inB
  apply eq_of_readBit
  intro k hk
  have bit := same (8 * n + k) (by omega)
  rw [getBit, getBit, show (8 * n + k) / 8 = n by omega, show (8 * n + k) % 8 = k by omega,
    List.getD_eq_getElem _ _ inA, List.getD_eq_getElem _ _ inB] at bit
  exact bit

end Bitmap
