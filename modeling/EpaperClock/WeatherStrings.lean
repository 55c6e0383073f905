import EpaperClock.Library.Run
import EpaperClock.WeatherParser

/-! The three global strings over runs of `tcpRecvCallback`. -/
namespace EpaperClock

open CString StepSystem

abbrev StaticMem := Nat → UInt8

/-- Where the linker puts the three arrays. -/
structure StaticLayout where
  base : WeatherStr → Nat
  disjoint : ∀ d e, d ≠ e → base d + d.size ≤ base e ∨ base e + e.size ≤ base d

/-- A pbuf whose payload has a NUL. -/
structure StringPbuf extends Pbuf where
  terminated : 0 ∈ payload

def StringPbuf.string (p : StringPbuf) : Bytes := p.payload.takeWhile (· ≠ 0)

section Run

variable (layout : StaticLayout)

def applyAction (mem : StaticMem) : RecvAction → StaticMem
  | .strncpy dst bytes => storeBytes mem (layout.base dst) bytes
  | _ => mem

def applyActions (mem : StaticMem) (actions : List RecvAction) : StaticMem :=
  actions.foldl (applyAction layout) mem

/-- One call of `tcpRecvCallback`, on a string or with a NULL pbuf. -/
def recvStep (mem : StaticMem) (p : Option StringPbuf) : Option StaticMem :=
  (tcpRecvCallback (p.map StringPbuf.toPbuf)).map fun result => applyActions layout mem result.1

end Run

/-- Zero-initialised globals. -/
def staticBoot : StaticMem := fun _ => 0

abbrev RecvTransition := Transition StaticMem (Option StringPbuf)

/-! ### What a call copies -/

theorem StringPbuf.payload_eq (p : StringPbuf) :
    ∃ tail, p.payload = p.string ++ 0 :: tail ∧ 0 ∉ p.string := by
  obtain ⟨s, tail, split, string⟩ := List.eq_append_cons_of_mem p.terminated
  have same : p.string = s := by
    have visible : ∀ c ∈ s, decide (c ≠ 0) = true := by
      intro c member
      simpa using fun zero : c = 0 => string (zero ▸ member)
    rw [StringPbuf.string, split, List.takeWhile_append_of_pos visible]
    simp
  exact ⟨tail, by rw [same, split], same ▸ string⟩

def StringPbuf.copies (p : StringPbuf) : List RecvAction :=
  if statusOk <+: p.string then responseCopies p.string else []

def copiesOf : Option StringPbuf → List RecvAction
  | none => []
  | some p => p.copies

variable {layout : StaticLayout}

theorem tcpRecvCallback_string (p : StringPbuf) :
    tcpRecvCallback (some p.toPbuf) = some (p.copies ++ [.pbufFree], errOk) := by
  obtain ⟨tail, split, string⟩ := p.payload_eq
  have done := tcpRecvCallback_terminated string tail p.next
  rw [← split] at done
  exact done

theorem applyActions_append (mem : StaticMem) (first second : List RecvAction) :
    applyActions layout mem (first ++ second) =
      applyActions layout (applyActions layout mem first) second :=
  List.foldl_append

/-- Every call returns, and the globals change by its copies only. -/
theorem recvStep_eq (mem : StaticMem) (p : Option StringPbuf) :
    recvStep layout mem p = some (applyActions layout mem (copiesOf p)) := by
  cases p with
  | none => rfl
  | some p =>
    simp only [recvStep, Option.map_some, tcpRecvCallback_string, applyActions_append]
    rfl

/-- An address that no copy covers keeps its byte. -/
theorem applyActions_outside (mem : StaticMem) {actions : List RecvAction} {a : Nat}
    (outside : ∀ dst bytes, .strncpy dst bytes ∈ actions →
      a < layout.base dst ∨ layout.base dst + bytes.length ≤ a) :
    applyActions layout mem actions a = mem a := by
  induction actions generalizing mem with
  | nil => rfl
  | cons action rest ih =>
    have later := ih (applyAction layout mem action)
      (fun dst bytes member => outside dst bytes (List.mem_cons_of_mem _ member))
    calc applyActions layout mem (action :: rest) a = applyAction layout mem action a := later
      _ = mem a := by
        cases action with
        | strncpy dst bytes => exact storeBytes_outside mem (outside dst bytes List.mem_cons_self)
        | tcpClose => rfl
        | pbufFree => rfl

/-- Whether two memories agree on an address after the same actions: they did before, or
a copy covers it. -/
theorem applyActions_congr {mem mem' : StaticMem} {actions : List RecvAction} {a : Nat}
    (agree : mem a = mem' a ∨ ∃ dst bytes, .strncpy dst bytes ∈ actions ∧
      layout.base dst ≤ a ∧ a < layout.base dst + bytes.length) :
    applyActions layout mem actions a = applyActions layout mem' actions a := by
  induction actions generalizing mem mem' with
  | nil =>
    rcases agree with same | ⟨_, _, member, _⟩
    · exact same
    · cases member
  | cons action rest ih =>
    apply ih
    rcases agree with same | ⟨dst, bytes, member, covers⟩
    · left
      cases action with
      | strncpy dst bytes => exact storeBytes_congr (.inl same)
      | tcpClose => exact same
      | pbufFree => exact same
    · rcases List.mem_cons.mp member with rfl | later
      · exact .inl (storeBytes_congr (.inr covers))
      · exact .inr ⟨dst, bytes, later, covers⟩

/-- The block that copies into a string. -/
def WeatherStr.field : WeatherStr → WeatherField
  | temperatureStr => temperatureField
  | iconStr => iconField
  | weatherStr => descriptionField

/-- The value of a string that a payload carries, once the values before it are cut. -/
def WeatherStr.value (s : Bytes) : WeatherStr → Option Bytes
  | temperatureStr => temperatureField.value s
  | iconStr => iconField.value (temperatureField.rest s)
  | weatherStr => descriptionField.value (iconField.rest (temperatureField.rest s))

theorem mem_responseCopies {s : Bytes} {dst : WeatherStr} {bytes : Bytes} :
    .strncpy dst bytes ∈ responseCopies s ↔
      ∃ v, dst.value s = some v ∧ bytes = padded dst.field.count v := by
  simp only [responseCopies, List.mem_append, WeatherField.mem_copies, RecvAction.strncpy.injEq]
  cases dst <;> simp [temperatureField, iconField, descriptionField, WeatherStr.value,
    WeatherStr.field]

/-- What a call takes from its payload for a string, if it is a response that has it. -/
def received (dst : WeatherStr) : Option StringPbuf → Option Bytes
  | none => none
  | some p => if statusOk <+: p.string then dst.value p.string else none

theorem mem_copiesOf {p : Option StringPbuf} {dst : WeatherStr} {bytes : Bytes} :
    .strncpy dst bytes ∈ copiesOf p ↔
      ∃ v, received dst p = some v ∧ bytes = padded dst.field.count v := by
  cases p with
  | none => simp [copiesOf, received]
  | some p =>
    simp only [copiesOf, StringPbuf.copies, received]
    split
    · exact mem_responseCopies
    · simp

theorem zero_notMem_received {p : Option StringPbuf} {dst : WeatherStr} {v : Bytes}
    (taken : received dst p = some v) : 0 ∉ v := by
  cases p with
  | none => cases taken
  | some p =>
    obtain ⟨_, _, string⟩ := p.payload_eq
    have afterTemperature : 0 ∉ temperatureField.rest p.string :=
      fun zero => string ((temperatureField.rest_isPrefix _).subset zero)
    have afterIcon : 0 ∉ iconField.rest (temperatureField.rest p.string) :=
      fun zero => afterTemperature ((iconField.rest_isPrefix _).subset zero)
    simp only [received, Option.ite_none_right_eq_some] at taken
    cases dst with
    | temperatureStr => exact temperatureField.zero_notMem_value string taken.2
    | iconStr => exact iconField.zero_notMem_value afterTemperature taken.2
    | weatherStr => exact descriptionField.zero_notMem_value afterIcon taken.2

/-! ### Termination -/

/-- The copy into one array reaches at most the first two bytes of another: `icon_str`
is copied into with two bytes more than it has. -/
theorem StaticLayout.copy_outside (layout : StaticLayout) {d e : WeatherStr} {i : Nat}
    (other : d ≠ e) (second : 2 ≤ i) (inside : i < d.size) :
    layout.base d + i < layout.base e ∨ layout.base e + e.field.count ≤ layout.base d + i := by
  have overrun : e.field.count ≤ e.size + 2 := by cases e <;> decide
  rcases layout.disjoint d e other with below | above
  · left
    omega
  · right
    omega

/-- The last byte of `temperature_str` is never written. -/
theorem temperatureStr_last (mem : StaticMem) (p : Option StringPbuf) :
    applyActions layout mem (copiesOf p) (layout.base .temperatureStr + 6) =
      mem (layout.base .temperatureStr + 6) := by
  -- its own copy has 6 bytes, and the icon spills over two bytes at most
  apply applyActions_outside
  intro dst bytes member
  obtain ⟨v, _, rfl⟩ := mem_copiesOf.mp member
  rw [length_padded]
  by_cases own : dst = .temperatureStr
  · subst own
    exact .inr (Nat.le_refl _)
  · exact layout.copy_outside (Ne.symm own) (by decide) (by decide)

/-- The description is copied last, over whatever the icon spilled. -/
theorem weatherStr_of_received (mem : StaticMem) {p : Option StringPbuf} {v : Bytes}
    (taken : received .weatherStr p = some v) {i : Nat} (inside : i < 45) :
    applyActions layout mem (copiesOf p) (layout.base .weatherStr + i) = v.getD i 0 := by
  cases p with
  | none => cases taken
  | some p =>
    simp only [received, Option.ite_none_right_eq_some, WeatherStr.value] at taken
    obtain ⟨ok, taken⟩ := taken
    have last : descriptionField.copies (iconField.rest (temperatureField.rest p.string)) =
        [.strncpy .weatherStr (padded 45 v)] := by
      rw [WeatherField.copies, taken]
      rfl
    have covered : i < (padded 45 v).length := by rwa [length_padded]
    simp only [copiesOf, StringPbuf.copies, if_pos ok, responseCopies, last, applyActions_append]
    rw [← getD_padded inside v]
    exact storeBytes_inside _ _ _ covered

theorem weatherStr_of_not_received (mem : StaticMem) {p : Option StringPbuf}
    (absent : received .weatherStr p = none) :
    applyActions layout mem (copiesOf p) (layout.base .weatherStr + 44) =
      mem (layout.base .weatherStr + 44) := by
  apply applyActions_outside
  intro dst bytes member
  obtain ⟨v, taken, rfl⟩ := mem_copiesOf.mp member
  have other : .weatherStr ≠ dst := by
    rintro rfl
    rw [absent] at taken
    cases taken
  rw [length_padded]
  exact layout.copy_outside other (by decide) (by decide)

/-- The byte of `weather_str` that only a description of 45 bytes or more reaches. -/
theorem weatherStr_last {mem : StaticMem} {p : Option StringPbuf}
    (fits : ∀ v, received .weatherStr p = some v → v.length < 45)
    (zero : mem (layout.base .weatherStr + 44) = 0) :
    applyActions layout mem (copiesOf p) (layout.base .weatherStr + 44) = 0 := by
  cases copied : received .weatherStr p with
  | none => rw [weatherStr_of_not_received mem copied, zero]
  | some v =>
    have short := fits v copied
    rw [weatherStr_of_received mem copied (by decide), List.getD_eq_default _ _ (by omega)]

theorem temperatureStr_terminated {mem : StaticMem} {ts : List RecvTransition}
    (run : Run (recvStep layout) staticBoot ts mem) :
    mem (layout.base .temperatureStr + 6) = 0 ∧
      ∀ t ∈ ts, t.target (layout.base .temperatureStr + 6) = 0 := by
  refine run.invariant (P := fun m => m (layout.base .temperatureStr + 6) = 0) rfl ?_
  intro _ _ _ taken zero
  rw [recvStep_eq, Option.some.injEq] at taken
  rw [← taken, temperatureStr_last, zero]

/-- `temperature_str` and `weather_str` stay terminated exactly in the runs in which
every description is shorter than its array. -/
theorem terminated_iff_descriptions_fit (layout : StaticLayout) {mem : StaticMem}
    {ts : List RecvTransition} (run : Run (recvStep layout) staticBoot ts mem) :
    (∀ t ∈ ts, ∀ dst ∈ [WeatherStr.temperatureStr, .weatherStr],
      Terminated t.target (layout.base dst) dst.size) ↔
    ∀ t ∈ ts, ∀ v, received .weatherStr t.event = some v → v.length < 45 := by
  constructor
  · intro terminated t member v copied
    have taken := run.step_of_mem member
    rw [recvStep_eq, Option.some.injEq] at taken
    obtain ⟨i, inside, zero⟩ := terminated t member .weatherStr (by simp)
    by_contra long
    -- all 45 bytes come from the value, which has no NUL
    rw [← taken, weatherStr_of_received _ copied inside] at zero
    have within : i < v.length := Nat.lt_of_lt_of_le inside (Nat.le_of_not_lt long)
    rw [List.getD_eq_getElem _ _ within] at zero
    exact zero_notMem_received copied (zero ▸ List.getElem_mem within)
  · intro fits t member dst array
    have weather := run.guarded_invariant (P := fun m => m (layout.base .weatherStr + 44) = 0) rfl
      (fun t taken short zero => by
        rw [recvStep_eq, Option.some.injEq] at taken
        rw [← taken]
        exact weatherStr_last short zero) fits
    simp only [List.mem_cons, List.not_mem_nil, or_false] at array
    rcases array with rfl | rfl
    · exact ⟨6, by decide, (temperatureStr_terminated run).2 t member⟩
    · exact ⟨44, by decide, weather.2 t member⟩

/-- The arrays in the order of their declarations. -/
def declaredLayout : StaticLayout where
  base
    | .iconStr => 0
    | .temperatureStr => 5
    | .weatherStr => 12
  disjoint d e other := by cases d <;> cases e <;> first | exact absurd rfl other | decide

def Pbuf.terminate (p : Pbuf) : StringPbuf := ⟨⟨p.payload ++ [0], p.next⟩, by simp⟩

/-- A response whose description has 45 letters. -/
def longDescription : StringPbuf :=
  Pbuf.terminate ⟨ascii "HTTP/1.1 200 OK\r\n\r\n\x7b\"description\":\"" ++ List.replicate 45 97 ++
    ascii "\"", []⟩

theorem longDescription_not_terminated :
    ¬∀ (layout : StaticLayout) (ts : List RecvTransition) (mem : StaticMem),
      Run (recvStep layout) staticBoot ts mem → ∀ dst ∈ [WeatherStr.temperatureStr, .weatherStr],
        Terminated mem (layout.base dst) dst.size := by
  intro claim
  have full : (exec (recvStep declaredLayout) staticBoot [some longDescription]).map
      (fun r => (List.range 45).all fun i => r.2 (12 + i) != 0) = some true := by decide +kernel
  obtain ⟨ts, mem, run, found⟩ := exists_run full
  obtain ⟨i, inside, zero⟩ := claim declaredLayout ts mem run .weatherStr (by simp)
  have nonzero := List.all_eq_true.mp found i (List.mem_range.mpr inside)
  exact absurd zero (by simpa [declaredLayout] using nonzero)

theorem terminated_iff_descriptions_fit_longDescription : ∃ ts mem,
    Run (recvStep declaredLayout) staticBoot ts mem ∧ ts.length = 1 ∧
      ((∀ t ∈ ts, ∀ dst ∈ [WeatherStr.temperatureStr, .weatherStr],
        Terminated t.target (declaredLayout.base dst) dst.size) ↔
      ∀ t ∈ ts, ∀ v, received .weatherStr t.event = some v → v.length < 45) := by
  have ran : (exec (recvStep declaredLayout) staticBoot [some longDescription]).map
      (fun r => r.1.length == 1) = some true := by decide +kernel
  obtain ⟨ts, mem, run, found⟩ := exists_run ran
  exact ⟨ts, mem, run, by simpa using found, terminated_iff_descriptions_fit declaredLayout run⟩

end EpaperClock
