import EpaperClock.Formatting

/-! A temperature that is cut at six characters is still rounded correctly. -/
namespace EpaperClock

open CString Decimal StepSystem

/-- A JSON number of one to three digits, with any fraction and without an exponent. -/
structure PlainDecimal where
  negative : Bool
  whole : Bytes
  fractionDigits : Option Bytes
  whole_ne : whole ≠ []
  whole_length : whole.length ≤ 3
  whole_digits : ∀ c ∈ whole, isDigit c = true
  fraction_digits : ∀ c ∈ fractionDigits.getD [], isDigit c = true

namespace PlainDecimal

variable (t : PlainDecimal)

def text : Bytes := plainText t.negative t.whole t.fractionDigits

def magnitude : ℚ := ofDigits t.whole + fraction (t.fractionDigits.getD [])

def value : ℚ := applySign t.negative t.magnitude

/-- The integer that the temperature is to be rounded to. -/
def rounded : Int := applySign t.negative ⌊t.magnitude + 1 / 2⌋

theorem magnitude_nonneg : 0 ≤ t.magnitude := by
  have nonneg := fraction_nonneg (t.fractionDigits.getD [])
  rw [magnitude]
  positivity

theorem magnitude_lt : t.magnitude < 1000 := by
  have whole : ofDigits t.whole < 1000 :=
    Nat.lt_of_lt_of_le (ofDigits_lt t.whole_digits) (Nat.pow_le_pow_right (by decide) t.whole_length)
  have bound : (ofDigits t.whole : ℚ) ≤ 999 := by exact_mod_cast Nat.le_of_lt_succ whole
  have rest := fraction_lt_one t.fraction_digits
  rw [magnitude]
  linarith

theorem rounded_spec : NearestAway t.value t.rounded :=
  nearestAway_applySign t.negative t.magnitude_nonneg

theorem rounded_range : -1000 ≤ t.rounded ∧ t.rounded ≤ 1000 := by
  have nonneg : 0 ≤ ⌊t.magnitude + 1 / 2⌋ :=
    Int.floor_nonneg.mpr (add_nonneg t.magnitude_nonneg (by norm_num))
  have small : ⌊t.magnitude + 1 / 2⌋ < 1001 := by
    rw [Int.floor_lt]
    have below := t.magnitude_lt
    push_cast
    linarith
  rw [rounded]
  cases t.negative with
  | true =>
    simp only [applySign, if_true]
    omega
  | false =>
    simp only [applySign, Bool.false_eq_true, if_false]
    omega

/-- Sign, digits and point take at most five of the six characters. -/
theorem take_text : ∃ k, t.text.take 6 =
    plainText t.negative t.whole (t.fractionDigits.map (List.take (k + 1))) := by
  obtain ⟨before, pre⟩ : ∃ before, (if t.negative then [45] else []) ++ t.whole = before := ⟨_, rfl⟩
  have short : before.length ≤ 4 := by
    have three := t.whole_length
    rw [← pre, List.length_append]
    split <;> simp <;> omega
  obtain ⟨k, room⟩ : ∃ k, 6 - before.length = k + 2 := ⟨4 - before.length, by omega⟩
  refine ⟨k, ?_⟩
  simp only [text, plainText, pre]
  rw [List.take_append, List.take_of_length_le (by omega), room]
  cases t.fractionDigits with
  | none => rfl
  | some digits => rfl

/-- Fractions with the same first digit round alike. -/
theorem floor_take (k : Nat) :
    ⌊(ofDigits t.whole : ℚ) +
      fraction ((t.fractionDigits.map (List.take (k + 1))).getD []) + 1 / 2⌋ =
      ⌊t.magnitude + 1 / 2⌋ := by
  have digits := t.fraction_digits
  rw [magnitude]
  cases given : t.fractionDigits with
  | none => rfl
  | some ds =>
    rw [given] at digits
    cases ds with
    | nil => rfl
    | cons d ds =>
      have kept : ∀ c ∈ d :: ds.take k, isDigit c = true :=
        fun c member => digits c ((List.take_sublist (k + 1) (d :: ds)).subset member)
      simp only [Option.map_some, Option.getD_some, List.take_succ_cons]
      rw [floor_add_fraction_cons _ kept, floor_add_fraction_cons _ digits]

/-- What is left after the cut gives the integer for the whole number. -/
theorem round_atof_take : round (atof (t.text.take 6)) = some t.rounded := by
  obtain ⟨k, cut⟩ := t.take_text
  have kept : ∀ c ∈ (t.fractionDigits.map (List.take (k + 1))).getD [], isDigit c = true := by
    intro c member
    apply t.fraction_digits
    cases given : t.fractionDigits with
    | none => rw [given] at member; cases member
    | some ds =>
      rw [given] at member
      exact List.mem_of_mem_take member
  have nonneg : 0 ≤ (ofDigits t.whole : ℚ) +
      fraction ((t.fractionDigits.map (List.take (k + 1))).getD []) :=
    add_nonneg (Nat.cast_nonneg _) (fraction_nonneg _)
  rw [cut, atof_plainText _ t.whole_ne t.whole_digits kept, round_applySign _ nonneg, t.floor_take]
  have range := t.rounded_range
  exact if_pos (by rw [← rounded]; omega)

end PlainDecimal

/-- In every state that the callback reaches, a plain temperature that a response carries is
printed as the nearest integer. -/
theorem temperature_rounded (layout : StaticLayout) (spillFree : layout.SpillFree)
    {ts : List RecvTransition} {mem : StaticMem} (run : Run (recvStep layout) staticBoot ts mem)
    (p : StringPbuf) (r : WeatherReply) (payload : p.string = r.text) (t : PlainDecimal)
    (literal : r.temperature = t.text) :
    ∃ mem' temperatureStr temperatureNum text, recvStep layout mem (some p) = some mem' ∧
      readString mem' (layout.base .temperatureStr) 7 = some temperatureStr ∧
      round (atof temperatureStr) = some temperatureNum ∧ NearestAway t.value temperatureNum ∧
      temperatureText temperatureStr = some text ∧ text = format 0 temperatureNum ++ ascii " F" ∧
      Fits text temperatureBufSize := by
  have taken : received .temperatureStr (some p) = some t.text := by
    rw [received, payload, if_pos r.ok, r.values.1, literal]
  have rounds := t.round_atof_take
  have range := t.rounded_range
  refine ⟨_, _, t.rounded, _, recvStep_eq mem (some p), ?_, rounds, t.rounded_spec, ?_, rfl, ?_⟩
  · exact readString_of_received_temperature spillFree taken (.inl (temperatureStr_terminated run).1)
  · rw [temperatureText, rounds]
    rfl
  · rw [temperature_fits_iff]
    omega

/-- It carries into a fourth digit. -/
def carrying : PlainDecimal where
  negative := true
  whole := ascii "999"
  fractionDigits := some (ascii "54321")
  whole_ne := by decide
  whole_length := by decide
  whole_digits := List.all_eq_true.mp rfl
  fraction_digits := List.all_eq_true.mp rfl

def carryingReply : WeatherReply where
  toReplyParts := { sixDigits.toReplyParts with temperature := carrying.text }
  string := by decide +kernel
  ok := by decide +kernel
  firstDescription := by decide +kernel
  firstIcon := by decide +kernel
  firstTemperature := by decide +kernel
  description_ne := by decide
  description_clean := by decide
  icon_ne := by decide
  icon_clean := by decide
  temperature_ne := by decide
  temperature_clean := by decide

theorem temperature_rounded_carrying : ∃ mem' temperatureStr temperatureNum text,
    recvStep spacedLayout staticBoot (some (Pbuf.terminate ⟨carryingReply.text, []⟩)) = some mem' ∧
      readString mem' 8 7 = some temperatureStr ∧
      round (atof temperatureStr) = some temperatureNum ∧
      NearestAway carrying.value temperatureNum ∧
      temperatureText temperatureStr = some text ∧ text = format 0 temperatureNum ++ ascii " F" ∧
      Fits text temperatureBufSize :=
  temperature_rounded spacedLayout spacedLayout_spillFree .start _ carryingReply
    (by decide +kernel) carrying rfl

end EpaperClock
