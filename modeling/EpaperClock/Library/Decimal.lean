import Mathlib.Algebra.Order.Floor.Ring
import Mathlib.Data.Nat.Digits.Lemmas
import Mathlib.Data.Rat.Floor
import Mathlib.Tactic.FieldSimp
import Mathlib.Tactic.Linarith
import Mathlib.Tactic.Ring

/-! Decimal numerals in ASCII: reading them exactly, rounding, and writing integers. -/
namespace Decimal

/-! ### Reading -/

def isDigit (c : UInt8) : Bool := 48 ≤ c && c ≤ 57

/-- The number that a row of digits denotes. -/
def ofDigits (s : List UInt8) : Nat := s.foldl (fun n c => 10 * n + (c.toNat - 48)) 0

/-- The value of a row of digits behind the decimal point. -/
def fraction (s : List UInt8) : ℚ := ofDigits s / 10 ^ s.length

/-- The characters of `isspace`. -/
def isSpace (c : UInt8) : Bool := c = 32 || 9 ≤ c && c ≤ 13

def applySign {α : Type} [Neg α] (negative : Bool) (x : α) : α := if negative then -x else x

/-- An optional sign; `true` for a minus. -/
def readSign : List UInt8 → Bool × List UInt8
  | 45 :: s => (true, s)
  | 43 :: s => (false, s)
  | s => (false, s)

/-- The digits behind an optional decimal point. -/
def readFraction : List UInt8 → List UInt8 × List UInt8
  | 46 :: s => (s.takeWhile isDigit, s.dropWhile isDigit)
  | s => ([], s)

/-- An optional exponent; a letter without digits behind it counts as 0. -/
def readExponent : List UInt8 → Int
  | [] => 0
  | c :: s =>
    if c = 101 ∨ c = 69 then
      let (negative, s) := readSign s
      applySign negative (ofDigits (s.takeWhile isDigit))
    else 0

def scale (x : ℚ) (exponent : Int) : ℚ :=
  if 0 ≤ exponent then x * 10 ^ exponent.toNat else x / 10 ^ (-exponent).toNat

/-- `atof`: the value of the longest prefix that is a decimal numeral, 0 without one. -/
def atof (s : List UInt8) : ℚ :=
  let (negative, s) := readSign (s.dropWhile isSpace)
  let whole := s.takeWhile isDigit
  let (digits, rest) := readFraction (s.dropWhile isDigit)
  applySign negative (scale (ofDigits whole + fraction digits) (readExponent rest))

theorem ofDigits_cons (c : UInt8) (s : List UInt8) :
    ofDigits (c :: s) = (c.toNat - 48) * 10 ^ s.length + ofDigits s := by
  have shift : ∀ (s : List UInt8) (n : Nat),
      s.foldl (fun n c => 10 * n + (c.toNat - 48)) n = n * 10 ^ s.length + ofDigits s := by
    intro s
    induction s with
    | nil => simp [ofDigits]
    | cons d s ih =>
      intro n
      simp only [ofDigits, List.foldl_cons, List.length_cons] at ih ⊢
      rw [ih, ih (10 * 0 + _)]
      ring
  rw [ofDigits, List.foldl_cons, shift, Nat.mul_zero, Nat.zero_add]

theorem isDigit_spec {c : UInt8} (digit : isDigit c = true) : 48 ≤ c.toNat ∧ c.toNat ≤ 57 := by
  simpa [isDigit, UInt8.le_iff_toNat_le] using digit

theorem ofDigits_lt {s : List UInt8} (digits : ∀ c ∈ s, isDigit c = true) :
    ofDigits s < 10 ^ s.length := by
  induction s with
  | nil => simp [ofDigits]
  | cons c s ih =>
    have small := isDigit_spec (digits c List.mem_cons_self)
    have rest := ih (fun d member => digits d (List.mem_cons_of_mem _ member))
    have first : (c.toNat - 48) * 10 ^ s.length ≤ 9 * 10 ^ s.length :=
      Nat.mul_le_mul_right _ (by omega)
    rw [ofDigits_cons, List.length_cons, pow_succ]
    omega

@[simp] theorem fraction_nil : fraction [] = 0 := by simp [fraction, ofDigits]

theorem fraction_nonneg (s : List UInt8) : 0 ≤ fraction s := by
  rw [fraction]
  positivity

theorem fraction_lt_one {s : List UInt8} (digits : ∀ c ∈ s, isDigit c = true) : fraction s < 1 := by
  have positive : (0 : ℚ) < 10 ^ s.length := by positivity
  rw [fraction, div_lt_one positive]
  exact_mod_cast ofDigits_lt digits

theorem fraction_cons (c : UInt8) (s : List UInt8) :
    fraction (c :: s) = ((c.toNat - 48 : Nat) + fraction s) / 10 := by
  rw [fraction, fraction, ofDigits_cons, List.length_cons, pow_succ]
  push_cast
  field_simp

/-- The first digit decides whether a fraction rounds up. -/
theorem floor_add_fraction_cons (whole : Nat) {c : UInt8} {s : List UInt8}
    (digits : ∀ d ∈ c :: s, isDigit d = true) :
    ⌊(whole : ℚ) + fraction (c :: s) + 1 / 2⌋ = whole + if 53 ≤ c.toNat then 1 else 0 := by
  have bounds := isDigit_spec (digits c List.mem_cons_self)
  have tail := fraction_lt_one (fun d member => digits d (List.mem_cons_of_mem _ member))
  have nonneg := fraction_nonneg s
  rw [fraction_cons, Int.floor_eq_iff]
  split
  next up =>
    have large : (5 : ℚ) ≤ (c.toNat - 48 : Nat) := by exact_mod_cast (by omega : 5 ≤ c.toNat - 48)
    have small : ((c.toNat - 48 : Nat) : ℚ) ≤ 9 := by exact_mod_cast (by omega : c.toNat - 48 ≤ 9)
    push_cast
    constructor <;> linarith
  next down =>
    have small : ((c.toNat - 48 : Nat) : ℚ) ≤ 4 := by exact_mod_cast (by omega : c.toNat - 48 ≤ 4)
    have large : (0 : ℚ) ≤ (c.toNat - 48 : Nat) := Nat.cast_nonneg _
    push_cast
    constructor <;> linarith

/-! ### Numerals without an exponent -/

/-- A sign, digits and a point with more digits. -/
def plainText (negative : Bool) (whole : List UInt8) (digits : Option (List UInt8)) : List UInt8 :=
  (if negative then [45] else []) ++ whole ++ digits.elim [] (46 :: ·)

theorem takeWhile_digits_append {s rest : List UInt8} (digits : ∀ c ∈ s, isDigit c = true)
    (stop : rest.head?.all (!isDigit ·)) :
    (s ++ rest).takeWhile isDigit = s ∧ (s ++ rest).dropWhile isDigit = rest := by
  rw [List.takeWhile_append_of_pos digits, List.dropWhile_append_of_pos digits]
  cases rest with
  | nil => simp
  | cons c rest =>
    have other : isDigit c = false := by simpa using stop
    simp [other]

theorem atof_plainText (negative : Bool) {whole : List UInt8} {digits : Option (List UInt8)}
    (nonempty : whole ≠ []) (wholeDigits : ∀ c ∈ whole, isDigit c = true)
    (fractionDigits : ∀ c ∈ digits.getD [], isDigit c = true) :
    atof (plainText negative whole digits) =
      applySign negative (ofDigits whole + fraction (digits.getD [])) := by
  obtain ⟨first, more, rfl⟩ := List.exists_cons_of_ne_nil nonempty
  have bounds := isDigit_spec (wholeDigits first List.mem_cons_self)
  have visible : isSpace first = false := by
    simp [isSpace, UInt8.le_iff_toNat_le, ← UInt8.toNat_inj]
    omega
  have unsigned : first ≠ 45 ∧ first ≠ 43 := by
    simp only [ne_eq, ← UInt8.toNat_inj]
    constructor <;> (simp; omega)
  have signed : readSign ((plainText negative (first :: more) digits).dropWhile isSpace) =
      (negative, (first :: more) ++ digits.elim [] (46 :: ·)) := by
    cases negative with
    | true => rfl
    | false => simp [plainText, visible, readSign, unsigned]
  have stop : (digits.elim [] (46 :: ·)).head?.all (!isDigit ·) := by
    cases digits with
    | none => rfl
    | some digits => rfl
  obtain ⟨taken, left⟩ := takeWhile_digits_append wholeDigits stop
  have behind : readFraction (digits.elim [] (46 :: ·)) = (digits.getD [], []) := by
    cases digits with
    | none => rfl
    | some digits =>
      obtain ⟨all, nothing⟩ := @takeWhile_digits_append digits [] fractionDigits rfl
      simp only [List.append_nil] at all nothing
      simp [readFraction, all, nothing]
  simp only [atof, signed, taken, left, behind, readExponent, scale]
  simp

/-! ### Rounding -/

/-- The conversion to an integer, which drops the fraction. -/
def truncate (x : ℚ) : Int := if x < 0 then ⌈x⌉ else ⌊x⌋

/-- `n` is a nearest integer, and of two the one further from 0. -/
def NearestAway (x : ℚ) (n : Int) : Prop :=
  |x - n| ≤ 1 / 2 ∧ (|x - n| = 1 / 2 → |x| < |(n : ℚ)|)

theorem nearestAway_floor {x : ℚ} (nonneg : 0 ≤ x) : NearestAway x ⌊x + 1 / 2⌋ := by
  have below := Int.floor_le (x + 1 / 2)
  have above := Int.lt_floor_add_one (x + 1 / 2)
  constructor
  · rw [abs_le]
    constructor <;> linarith
  · intro tie
    rw [abs_of_nonneg nonneg]
    apply lt_of_lt_of_le _ (le_abs_self _)
    -- a tie is halfway to the integer above
    rcases abs_choice (x - ⌊x + 1 / 2⌋) with positive | negative <;> linarith

theorem NearestAway.neg {x : ℚ} {n : Int} (nearest : NearestAway x n) : NearestAway (-x) (-n) := by
  have opposite : -x - ((-n : Int) : ℚ) = -(x - n) := by
    push_cast
    ring
  have negated : |((-n : Int) : ℚ)| = |(n : ℚ)| := by rw [Int.cast_neg, abs_neg]
  rw [NearestAway, opposite, abs_neg, abs_neg, negated]
  exact nearest

theorem nearestAway_applySign (negative : Bool) {x : ℚ} (nonneg : 0 ≤ x) :
    NearestAway (applySign negative x) (applySign negative ⌊x + 1 / 2⌋) := by
  cases negative with
  | true => exact (nearestAway_floor nonneg).neg
  | false => exact nearestAway_floor nonneg

/-- Adding a half away from 0 and dropping the fraction. -/
theorem truncate_half (negative : Bool) {x : ℚ} (nonneg : 0 ≤ x) :
    (if applySign negative x < 0 then truncate (applySign negative x - 1 / 2)
      else truncate (applySign negative x + 1 / 2)) = applySign negative ⌊x + 1 / 2⌋ := by
  have up : ¬x + 1 / 2 < 0 := by linarith
  cases negative with
  | false =>
    simp only [applySign, Bool.false_eq_true, if_false, if_neg (not_lt.mpr nonneg), truncate,
      if_neg up]
  | true =>
    simp only [applySign, if_true, neg_lt_zero]
    split
    next positive =>
      have down : -x - 1 / 2 < 0 := by linarith
      have opposite : -x - 1 / 2 = -(x + 1 / 2) := by ring
      rw [truncate, if_pos down, opposite, Int.ceil_neg]
    next zero =>
      obtain rfl : x = 0 := le_antisymm (not_lt.mp zero) nonneg
      simp only [neg_zero, truncate, if_neg up]
      norm_num

/-! ### Writing -/

/-- The digits of a number, without leading zeros. -/
def digitsOf (n : Nat) : List UInt8 :=
  if n = 0 then [48] else (Nat.digits 10 n).reverse.map fun d => UInt8.ofNat (48 + d)

/-- `%d` for the width 0, and `%02d` for the width 2: the sign counts, and zeros fill up. -/
def format (width : Nat) (n : Int) : List UInt8 :=
  let sign := if n < 0 then [45] else []
  let digits := digitsOf n.natAbs
  sign ++ List.replicate (width - sign.length - digits.length) 48 ++ digits

theorem isDigit_of_mem_digitsOf {n : Nat} {c : UInt8} (member : c ∈ digitsOf n) :
    isDigit c = true := by
  have digit : ∀ d < 10, isDigit (UInt8.ofNat (48 + d)) = true := by decide
  rw [digitsOf] at member
  split at member
  next => exact List.mem_singleton.mp member ▸ digit 0 (by decide)
  next =>
    obtain ⟨d, written, rfl⟩ := List.mem_map.mp member
    exact digit d (Nat.digits_lt_base (by decide) (List.mem_reverse.mp written))

theorem mem_format {width : Nat} {n : Int} {c : UInt8} (member : c ∈ format width n) :
    c = 45 ∨ isDigit c = true := by
  rcases List.mem_append.mp member with front | digit
  · rcases List.mem_append.mp front with sign | fill
    · left
      split at sign
      next => exact List.mem_singleton.mp sign
      next => cases sign
    · right
      rw [List.eq_of_mem_replicate fill]
      rfl
  · exact .inr (isDigit_of_mem_digitsOf digit)

theorem length_digitsOf_le_iff {k : Nat} (positive : 0 < k) (n : Nat) :
    (digitsOf n).length ≤ k ↔ n < 10 ^ k := by
  rw [digitsOf]
  split
  next zero => simp [zero, Nat.succ_le_iff.mpr positive]
  next => rw [List.length_map, List.length_reverse, Nat.digits_length_le_iff (by decide)]

theorem length_format (width : Nat) (n : Int) :
    (format width n).length = max width ((if n < 0 then 1 else 0) + (digitsOf n.natAbs).length) := by
  simp only [format, List.length_append, List.length_replicate]
  split <;> simp <;> omega

theorem length_format_le_iff {width k : Nat} (fits : width ≤ k) {n : Int} (nonneg : 0 ≤ n)
    (positive : 0 < k) : (format width n).length ≤ k ↔ n < 10 ^ k := by
  rw [length_format, max_le_iff, if_neg (not_lt.mpr nonneg), Nat.zero_add,
    length_digitsOf_le_iff positive]
  have cast : n < 10 ^ k ↔ n.natAbs < 10 ^ k := by
    rw [← Int.ofNat_lt, Int.natAbs_of_nonneg nonneg]
    push_cast
    rfl
  rw [cast]
  exact and_iff_right fits

theorem length_format_neg_le_iff {k : Nat} {n : Int} (negative : n < 0) (positive : 0 < k) :
    (format 0 n).length ≤ k + 1 ↔ -10 ^ k < n := by
  rw [length_format, Nat.zero_max, if_pos negative, Nat.add_comm, Nat.add_le_add_iff_right,
    length_digitsOf_le_iff positive]
  have cast : -10 ^ k < n ↔ n.natAbs < 10 ^ k := by
    rw [← Int.ofNat_lt, Int.ofNat_natAbs_of_nonpos negative.le]
    push_cast
    omega
  rw [cast]

/-- The numbers that `%d` writes with `k + 1` characters. -/
theorem length_format_zero_le_iff {k : Nat} (positive : 0 < k) (n : Int) :
    (format 0 n).length ≤ k + 1 ↔ -10 ^ k < n ∧ n < 10 ^ (k + 1) := by
  have low : (0 : Int) < 10 ^ k := by positivity
  have high : (0 : Int) < 10 ^ (k + 1) := by positivity
  by_cases negative : n < 0
  · rw [length_format_neg_le_iff negative positive]
    omega
  · rw [length_format_le_iff (Nat.zero_le _) (not_lt.mp negative) (Nat.succ_pos k)]
    omega

end Decimal
