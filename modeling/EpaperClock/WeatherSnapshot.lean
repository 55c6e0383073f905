import EpaperClock.WeatherStrings

/-! Whether the three strings come from one response.

Each block of `tcpRecvCallback` has its own NULL test, and each search sees only what the
block before it left of the string. -/
namespace EpaperClock

open CString StepSystem

variable {layout : StaticLayout}

/-- The call takes a value for the string. -/
def Updates (actions : List RecvAction) (dst : WeatherStr) : Prop :=
  ∃ bytes, .strncpy dst bytes ∈ actions

/-- Not a response, or one without any of the keys, or one in which each key stands
before the end of the value that is cut off before it is searched. -/
def WholeOrNothing (s : Bytes) : Prop :=
  ¬statusOk <+: s ∨
  (¬temperatureField.key <:+: s ∧ ¬iconField.key <:+: s ∧ ¬descriptionField.key <:+: s) ∨
  (temperatureField.key <:+: s ∧ iconField.key <:+: temperatureField.rest s ∧
    descriptionField.key <:+: iconField.rest (temperatureField.rest s))

instance (s : Bytes) : Decidable (WholeOrNothing s) := inferInstanceAs (Decidable (_ ∨ _ ∨ _))

theorem updates_copies_iff (p : StringPbuf) (dst : WeatherStr) :
    Updates p.copies dst ↔ received dst (some p) ≠ none := by
  have copied := @mem_copiesOf (some p) dst
  simp only [Updates]
  constructor
  · rintro ⟨bytes, member⟩
    obtain ⟨v, taken, _⟩ := copied.mp member
    rw [taken]
    exact Option.some_ne_none v
  · intro present
    obtain ⟨v, taken⟩ := Option.ne_none_iff_exists'.mp present
    exact ⟨_, copied.mpr ⟨v, taken, rfl⟩⟩

theorem WeatherField.value_ne_none_iff (field : WeatherField) (s : Bytes) :
    field.value s ≠ none ↔ field.key <:+: s := by
  rw [ne_eq, value_eq_none_iff, not_not]

/-- Each key is searched in what the blocks before it have left of the string. -/
theorem forall_value_ne_none_iff (s : Bytes) : (∀ dst : WeatherStr, dst.value s ≠ none) ↔
    temperatureField.key <:+: s ∧ iconField.key <:+: temperatureField.rest s ∧
      descriptionField.key <:+: iconField.rest (temperatureField.rest s) := by
  simp only [← WeatherField.value_ne_none_iff]
  constructor
  · intro every
    exact ⟨every .temperatureStr, every .iconStr, every .weatherStr⟩
  · rintro ⟨temperature, icon, description⟩ dst
    cases dst
    · exact temperature
    · exact icon
    · exact description

/-- Without a key the string is not cut, so the next key is searched in all of it. -/
theorem forall_value_eq_none_iff (s : Bytes) : (∀ dst : WeatherStr, dst.value s = none) ↔
    ¬temperatureField.key <:+: s ∧ ¬iconField.key <:+: s ∧ ¬descriptionField.key <:+: s := by
  constructor
  · intro every
    have temperature := (temperatureField.value_eq_none_iff _).mp (every .temperatureStr)
    have icon := (iconField.value_eq_none_iff _).mp (every .iconStr)
    rw [WeatherField.rest_of_absent temperature] at icon
    have description := (descriptionField.value_eq_none_iff _).mp (every .weatherStr)
    rw [WeatherField.rest_of_absent temperature, WeatherField.rest_of_absent icon] at description
    exact ⟨temperature, icon, description⟩
  · rintro ⟨temperature, icon, description⟩ dst
    cases dst with
    | temperatureStr => exact (temperatureField.value_eq_none_iff _).mpr temperature
    | iconStr =>
      rw [WeatherStr.value, WeatherField.rest_of_absent temperature]
      exact (iconField.value_eq_none_iff _).mpr icon
    | weatherStr =>
      rw [WeatherStr.value, WeatherField.rest_of_absent temperature,
        WeatherField.rest_of_absent icon]
      exact (descriptionField.value_eq_none_iff _).mpr description

/-- A call updates all three strings or none exactly for such payloads. -/
theorem updates_all_or_none_iff (p : StringPbuf) :
    ((∀ dst, Updates p.copies dst) ∨ ∀ dst, ¬Updates p.copies dst) ↔ WholeOrNothing p.string := by
  simp only [updates_copies_iff, received, WholeOrNothing]
  by_cases ok : statusOk <+: p.string
  · simp only [ok, if_true, not_not, not_true_eq_false, false_or]
    rw [forall_value_ne_none_iff, forall_value_eq_none_iff, or_comm]
  · simp [ok]

/-- The strings are what this payload alone leaves in them, and it sets all three. -/
def TakenFrom (layout : StaticLayout) (mem : StaticMem) (p : StringPbuf) : Prop :=
  (∀ dst, received dst (some p) ≠ none) ∧
  ∃ alone, recvStep layout staticBoot (some p) = some alone ∧
    ∀ dst : WeatherStr, ∀ i < dst.size, mem (layout.base dst + i) = alone (layout.base dst + i)

/-- All three strings hold their initial value or come from one payload of the run. -/
def Snapshot (layout : StaticLayout) (ts : List RecvTransition) (mem : StaticMem) : Prop :=
  (∀ dst : WeatherStr, ∀ i < dst.size, mem (layout.base dst + i) = 0) ∨
  ∃ t ∈ ts, ∃ p, t.event = some p ∧ TakenFrom layout mem p

theorem Snapshot.later {ts us : List RecvTransition} {mem : StaticMem}
    (snapshot : Snapshot layout ts mem) : Snapshot layout (ts ++ us) mem := by
  rcases snapshot with initial | ⟨t, member, p, event, taken⟩
  · exact .inl initial
  · exact .inr ⟨t, List.mem_append_left _ member, p, event, taken⟩

/-- A payload that sets all three strings hides what they held before. -/
theorem takenFrom_of_updates {mem : StaticMem} {p : StringPbuf}
    (all : ∀ dst, Updates p.copies dst) (zero : mem (layout.base .temperatureStr + 6) = 0) :
    TakenFrom layout (applyActions layout mem p.copies) p := by
  refine ⟨fun dst => (updates_copies_iff p dst).mp (all dst), _, recvStep_eq _ _, ?_⟩
  intro dst i inside
  apply applyActions_congr
  by_cases copied : i < dst.field.count
  · right
    obtain ⟨bytes, member⟩ := all dst
    obtain ⟨v, _, rfl⟩ := (@mem_copiesOf (some p) dst bytes).mp member
    exact ⟨dst, _, member, Nat.le_add_right _ _, by rw [length_padded]; omega⟩
  · left
    -- only the last byte of `temperature_str` is in its array but not in its copy
    cases dst with
    | temperatureStr =>
      have last : i = 6 := by
        change i < 7 at inside
        change ¬i < 6 at copied
        omega
      rw [last, zero]
      rfl
    | iconStr => exact absurd (Nat.lt_of_lt_of_le inside (by decide)) copied
    | weatherStr => exact absurd inside copied

theorem snapshot_of_run {mem : StaticMem} {ts : List RecvTransition}
    (run : Run (recvStep layout) staticBoot ts mem)
    (whole : ∀ t ∈ ts, ∀ p, t.event = some p → WholeOrNothing p.string) :
    Snapshot layout ts mem := by
  induction run with
  | start => exact .inl fun _ _ _ => rfl
  | @next ts mem p mem' run taken ih =>
    have before := ih (fun t member => whole t (List.mem_append_left _ member))
    rw [recvStep_eq, Option.some.injEq] at taken
    cases p with
    | none =>
      rw [← taken]
      exact before.later
    | some p =>
      have now := whole ⟨mem, some p, mem'⟩ (by simp) p rfl
      rcases (updates_all_or_none_iff p).mpr now with all | nothing
      -- all three are set: the payload just received is the source
      · have zero := (temperatureStr_terminated run).1
        rw [← taken]
        refine .inr ⟨⟨mem, some p, applyActions layout mem p.copies⟩, ?_, p, rfl,
          takenFrom_of_updates all zero⟩
        exact List.mem_append_right _ List.mem_cons_self
      -- none is set: the source is the one of the state before
      · have unchanged : mem' = mem := by
          rw [← taken]
          funext a
          exact applyActions_outside mem fun dst bytes member => absurd ⟨bytes, member⟩ (nothing dst)
        rw [unchanged]
        exact before.later

/-- A call sets all three strings or none exactly for payloads that carry all or none of
them where they are looked for, and runs of such payloads never mix two payloads. -/
theorem snapshot_of_wholeOrNothing (layout : StaticLayout) :
    (∀ p : StringPbuf, ∃ actions, tcpRecvCallback (some p.toPbuf) = some (actions, errOk) ∧
      (((∀ dst, Updates actions dst) ∨ ∀ dst, ¬Updates actions dst) ↔ WholeOrNothing p.string)) ∧
    ∀ ts mem, Run (recvStep layout) staticBoot ts mem →
      (∀ t ∈ ts, ∀ p, t.event = some p → WholeOrNothing p.string) → Snapshot layout ts mem := by
  constructor
  · intro p
    have freed : ∀ dst, Updates (p.copies ++ [.pbufFree]) dst ↔ Updates p.copies dst := by
      simp [Updates]
    refine ⟨_, tcpRecvCallback_string p, ?_⟩
    simp only [freed]
    exact updates_all_or_none_iff p
  · intro ts mem
    exact snapshot_of_run

/-- A complete response, then one that only has a temperature. -/
def partialResponse : List (Option StringPbuf) :=
  [some (Pbuf.terminate ⟨ascii "HTTP/1.1 200 \"description\":\"a\",\"icon\":\"b\",\"temp\":1,", []⟩),
    some (Pbuf.terminate ⟨ascii "HTTP/1.1 200 \"temp\":2,", []⟩)]

theorem partialResponse_not_snapshot :
    ¬∀ (layout : StaticLayout) (ts : List RecvTransition) (mem : StaticMem),
      Run (recvStep layout) staticBoot ts mem → Snapshot layout ts mem := by
  intro claim
  -- the temperature is '2', and no payload with an icon leaves a '2' there
  have mixed : (exec (recvStep declaredLayout) staticBoot partialResponse).map (fun r =>
      r.2 5 == 50 && r.1.all fun t => received .iconStr t.event == none ||
        (recvStep declaredLayout staticBoot t.event).all fun alone => alone 5 != 50) =
      some true := by decide +kernel
  obtain ⟨ts, mem, run, found⟩ := exists_run mixed
  simp only [Bool.and_eq_true, beq_iff_eq, List.all_eq_true, Bool.or_eq_true, Option.all_eq_true,
    bne_iff_ne] at found
  obtain ⟨shown, others⟩ := found
  rcases claim declaredLayout ts mem run with initial | ⟨t, member, p, event, complete, alone, ran, same⟩
  · have zero := initial .temperatureStr 0 (by decide)
    rw [show declaredLayout.base .temperatureStr + 0 = 5 from rfl, shown] at zero
    exact absurd zero (by decide)
  · rcases others t member with absent | different
    · exact complete .iconStr (event ▸ absent)
    · have first := same .temperatureStr 0 (by decide)
      rw [show declaredLayout.base .temperatureStr + 0 = 5 from rfl, shown] at first
      exact different alone (event ▸ ran) first.symm

theorem snapshot_of_wholeOrNothing_complete : ∃ ts mem,
    Run (recvStep declaredLayout) staticBoot ts mem ∧ ts.length = 1 ∧
      Snapshot declaredLayout ts mem := by
  have ran : (exec (recvStep declaredLayout) staticBoot (partialResponse.take 1)).map (fun r =>
      r.1.length == 1 && r.1.all fun t => t.event.all fun p => decide (WholeOrNothing p.string)) =
      some true := by decide +kernel
  obtain ⟨ts, mem, run, found⟩ := exists_run ran
  simp only [Bool.and_eq_true, beq_iff_eq, List.all_eq_true, Option.all_eq_true,
    decide_eq_true_eq] at found
  exact ⟨ts, mem, run, found.1, (snapshot_of_wholeOrNothing declaredLayout).2 ts mem run found.2⟩

end EpaperClock
