import EpaperClock.WeatherStrings

/-! What one response leaves in the three strings, and where it writes. -/
namespace EpaperClock

open CString StepSystem

variable {layout : StaticLayout}

/-! ### The bytes that are written -/

def WritesInside (actions : List RecvAction) : Prop :=
  ∀ dst bytes, .strncpy dst bytes ∈ actions → bytes.length ≤ dst.size

/-- The address is in one of the three arrays. -/
def StaticLayout.InArray (layout : StaticLayout) (a : Nat) : Prop :=
  ∃ dst, layout.base dst ≤ a ∧ a < layout.base dst + dst.size

theorem applyActions_of_writesInside (mem : StaticMem) {actions : List RecvAction}
    (inside : WritesInside actions) {a : Nat} (outside : ¬layout.InArray a) :
    applyActions layout mem actions a = mem a := by
  apply applyActions_outside
  intro dst bytes member
  have fits := inside dst bytes member
  by_contra covered
  exact outside ⟨dst, by omega⟩

/-- Only the icon's copy is longer than its array. -/
theorem writesInside_copies_iff (p : StringPbuf) :
    WritesInside p.copies ↔ received .iconStr (some p) = none := by
  constructor
  · intro inside
    by_contra taken
    obtain ⟨v, found⟩ := Option.ne_none_iff_exists'.mp taken
    have copied := inside .iconStr _ ((@mem_copiesOf (some p) _ _).mpr ⟨v, found, rfl⟩)
    rw [length_padded] at copied
    exact absurd copied (by decide)
  · intro absent dst bytes member
    obtain ⟨v, taken, rfl⟩ := (@mem_copiesOf (some p) _ _).mp member
    rw [length_padded]
    cases dst with
    | temperatureStr => decide
    | iconStr =>
      rw [absent] at taken
      cases taken
    | weatherStr => decide

theorem received_icon_eq_none_iff (p : StringPbuf) :
    received .iconStr (some p) = none ↔
      ¬(statusOk <+: p.string ∧ iconField.key <:+: temperatureField.rest p.string) := by
  simp only [received, WeatherStr.value, ite_eq_right_iff, WeatherField.value_eq_none_iff, not_and]

/-- A call writes inside the arrays only exactly when its payload is not a response that
still has an icon once the temperature is cut. -/
theorem writesInside_iff_no_icon (layout : StaticLayout) (mem : StaticMem) (p : StringPbuf) :
    ∃ actions, tcpRecvCallback (some p.toPbuf) = some (actions, errOk) ∧
      ((WritesInside actions ∧
        ∀ a, ¬layout.InArray a → applyActions layout mem actions a = mem a) ↔
      ¬(statusOk <+: p.string ∧ iconField.key <:+: temperatureField.rest p.string)) := by
  have freed : WritesInside (p.copies ++ [.pbufFree]) ↔ WritesInside p.copies := by
    simp [WritesInside]
  refine ⟨_, tcpRecvCallback_string p, ?_⟩
  rw [← received_icon_eq_none_iff, ← writesInside_copies_iff, ← freed]
  constructor
  · exact And.left
  · intro inside
    exact ⟨inside, fun a outside => applyActions_of_writesInside mem inside outside⟩

/-- The icon is the last of the three arrays. -/
def iconLastLayout : StaticLayout where
  base
    | .temperatureStr => 0
    | .weatherStr => 7
    | .iconStr => 52
  disjoint d e other := by cases d <;> cases e <;> first | exact absurd rfl other | decide

theorem icon_overruns : ¬∀ (layout : StaticLayout) (mem : StaticMem) (p : StringPbuf) actions result,
    tcpRecvCallback (some p.toPbuf) = some (actions, result) → WritesInside actions ∧
      ∀ a, ¬layout.InArray a → applyActions layout mem actions a = mem a := by
  intro claim
  let p := Pbuf.terminate ⟨ascii "HTTP/1.1 200 \"icon\":\"10d\"", []⟩
  have behind : ¬iconLastLayout.InArray 57 := by
    rintro ⟨dst, above, below⟩
    cases dst <;> simp [iconLastLayout, WeatherStr.size] at above below
  have overwritten : applyActions iconLastLayout (fun _ => 1) (p.copies ++ [.pbufFree]) 57 = 0 := by
    decide +kernel
  have kept := (claim iconLastLayout (fun _ => 1) p _ _ (tcpRecvCallback_string p)).2 57 behind
  rw [overwritten] at kept
  exact absurd kept (by decide)

/-! ### The values that are stored -/

/-- The bytes that the icon's copy has too many miss the other arrays. -/
def StaticLayout.SpillFree (layout : StaticLayout) : Prop :=
  ∀ dst, dst ≠ .iconStr → ∀ k, 5 ≤ k → k < 7 →
    layout.base .iconStr + k < layout.base dst ∨
      layout.base dst + dst.size ≤ layout.base .iconStr + k

/-- The other two copies fit their arrays. -/
theorem WeatherStr.count_le_size {dst : WeatherStr} (other : dst ≠ .iconStr) :
    dst.field.count ≤ dst.size := by
  cases dst with
  | temperatureStr => decide
  | iconStr => exact absurd rfl other
  | weatherStr => decide

/-- A copy into one array leaves the others alone. -/
theorem StaticLayout.SpillFree.copy_outside (spillFree : layout.SpillFree) {d e : WeatherStr}
    {i : Nat} (other : d ≠ e) (inside : i < d.size) :
    layout.base d + i < layout.base e ∨ layout.base e + e.field.count ≤ layout.base d + i := by
  by_cases icon : e = .iconStr
  · subst icon
    have first := spillFree d other 5 (by decide) (by decide)
    have second := spillFree d other 6 (by decide) (by decide)
    have apart := layout.disjoint d .iconStr other
    change layout.base d + i < layout.base .iconStr ∨ layout.base .iconStr + 7 ≤ layout.base d + i
    change _ ∨ layout.base .iconStr + 5 ≤ _ at apart
    omega
  · have fits := WeatherStr.count_le_size icon
    rcases layout.disjoint d e other with below | above
    · left
      omega
    · right
      omega

/-- A byte that some action writes, and that every action writing it sets to `x`. -/
theorem applyActions_eq_of_forall {mem : StaticMem} {actions : List RecvAction} {a : Nat} {x : UInt8}
    (written : mem a = x ∨ ∃ dst bytes, .strncpy dst bytes ∈ actions ∧
      layout.base dst ≤ a ∧ a < layout.base dst + bytes.length)
    (agree : ∀ dst bytes, .strncpy dst bytes ∈ actions →
      (a < layout.base dst ∨ layout.base dst + bytes.length ≤ a) ∨
        bytes.getD (a - layout.base dst) 0 = x) :
    applyActions layout mem actions a = x := by
  induction actions generalizing mem with
  | nil =>
    rcases written with same | ⟨_, _, member, _⟩
    · exact same
    · cases member
  | cons action rest ih =>
    refine ih ?_ (fun dst bytes member => agree dst bytes (List.mem_cons_of_mem _ member))
    cases action with
    | tcpClose => simpa [applyAction] using written
    | pbufFree => simpa [applyAction] using written
    | strncpy dst bytes =>
      by_cases covered : layout.base dst ≤ a ∧ a < layout.base dst + bytes.length
      · have stored := (agree dst bytes List.mem_cons_self).resolve_left (by omega)
        have offset : a = layout.base dst + (a - layout.base dst) := by omega
        left
        change storeBytes mem (layout.base dst) bytes a = x
        rw [offset, storeBytes_inside _ _ _ (by omega), stored]
      · rcases written with same | ⟨e, later, member, covers⟩
        · exact .inl ((storeBytes_outside mem (by omega)).trans same)
        · rcases List.mem_cons.mp member with equal | member
          · cases equal
            exact absurd covers covered
          · exact .inr ⟨e, later, member, covers⟩

/-- A string that a response carries is stored over its array, filled up with NULs. -/
theorem stored_of_received (spillFree : layout.SpillFree) (mem : StaticMem) {p : StringPbuf}
    {dst : WeatherStr} {v : Bytes} (taken : received dst (some p) = some v) {k : Nat}
    (copied : k < dst.field.count) (inside : k < dst.size) :
    applyActions layout mem p.copies (layout.base dst + k) = v.getD k 0 := by
  apply applyActions_eq_of_forall
  · right
    refine ⟨dst, _, (@mem_copiesOf (some p) dst _).mpr ⟨v, taken, rfl⟩, Nat.le_add_right _ _, ?_⟩
    rw [length_padded]
    omega
  · intro e bytes member
    obtain ⟨w, found, rfl⟩ := (@mem_copiesOf (some p) e bytes).mp member
    rw [length_padded]
    by_cases same : dst = e
    · subst same
      obtain rfl : v = w := Option.some.inj (taken.symm.trans found)
      right
      rw [Nat.add_sub_cancel_left, getD_padded copied]
    · exact .inl (spillFree.copy_outside same inside)

/-- A short value is read back as it was received, whatever was there before. -/
theorem readString_of_received (spillFree : layout.SpillFree) (mem : StaticMem) {p : StringPbuf}
    {dst : WeatherStr} {v : Bytes} (taken : received dst (some p) = some v)
    (copied : v.length < dst.field.count) (fits : v.length < dst.size) :
    readString (applyActions layout mem p.copies) (layout.base dst) dst.size = some v := by
  apply readString_eq_some fits (zero_notMem_received taken)
  intro k within
  exact stored_of_received spillFree mem taken (by omega) (by omega)

/-- A long temperature is cut, and read back if the last byte of its array is a NUL. -/
theorem readString_of_received_temperature (spillFree : layout.SpillFree) {mem : StaticMem}
    {p : StringPbuf} {v : Bytes} (taken : received .temperatureStr (some p) = some v)
    (last : mem (layout.base .temperatureStr + 6) = 0 ∨ v.length < 6) :
    readString (applyActions layout mem p.copies) (layout.base .temperatureStr) 7 =
      some (v.take 6) := by
  by_cases short : v.length < 6
  · have whole : v.take 6 = v := List.take_of_length_le (Nat.le_of_lt short)
    rw [whole]
    exact readString_of_received spillFree mem taken short (Nat.lt_succ_of_lt short)
  · have zero := last.resolve_right short
    have cut : (v.take 6).length = 6 := List.length_take_of_le (Nat.le_of_not_lt short)
    have clean : 0 ∉ v.take 6 :=
      fun member => zero_notMem_received taken (List.mem_of_mem_take member)
    apply readString_eq_some (by rw [cut]; decide) clean
    intro k within
    rw [cut] at within
    -- the six bytes of the copy, and the one behind them that no copy reaches
    rcases Nat.lt_or_eq_of_le within with inside | rfl
    · rw [stored_of_received spillFree mem taken inside (Nat.lt_succ_of_lt inside)]
      simp [List.getElem?_take_of_lt inside]
    · rw [List.getD_eq_default _ _ (Nat.le_of_eq cut), ← zero]
      exact temperatureStr_last mem (some p)

/-! ### Responses with all three fields in order -/

/-- A payload cut at its three values. -/
structure ReplyParts where
  head : Bytes
  description : Bytes
  between : Bytes
  icon : Bytes
  gap : Bytes
  temperature : Bytes
  tail : Bytes

namespace ReplyParts

variable (r : ReplyParts)

def beforeIcon : Bytes := r.head ++ descriptionField.key ++ r.description ++ quote :: r.between

def beforeTemperature : Bytes := r.beforeIcon ++ iconField.key ++ r.icon ++ quote :: r.gap

def text : Bytes := r.beforeTemperature ++ temperatureField.key ++ r.temperature ++ comma :: r.tail

end ReplyParts

/-- A response in which the first description, icon and temperature keys stand in this
order, each in front of a value that is not empty and that its delimiter ends. -/
structure WeatherReply extends ReplyParts where
  string : 0 ∉ toReplyParts.text
  ok : statusOk <+: toReplyParts.text
  firstDescription : locate descriptionField.key toReplyParts.text = some head.length
  firstIcon : locate iconField.key toReplyParts.text = some toReplyParts.beforeIcon.length
  firstTemperature :
    locate temperatureField.key toReplyParts.text = some toReplyParts.beforeTemperature.length
  description_ne : description ≠ []
  description_clean : quote ∉ description
  icon_ne : icon ≠ []
  icon_clean : quote ∉ icon
  temperature_ne : temperature ≠ []
  temperature_clean : comma ∉ temperature

/-- A value behind the first key, with the string that is left once it is cut off. -/
theorem WeatherField.value_append {field : WeatherField} {pre v post s : Bytes}
    (split : s = pre ++ field.key ++ v ++ field.delim :: post)
    (first : locate field.key s = some pre.length) (nonempty : v ≠ []) (clean : field.delim ∉ v) :
    field.value s = some v ∧ field.rest s = pre ++ field.key ++ v := by
  have behind : s.drop (pre.length + field.key.length) = v ++ field.delim :: post := by
    rw [split, List.append_assoc, ← List.length_append, List.drop_left]
  have upto : s.take (pre.length + field.key.length) = pre ++ field.key := by
    rw [split, List.append_assoc, ← List.length_append, List.take_left]
  rw [value, rest, first]
  simp only [Option.map_some, behind, upto, token_append_delim nonempty clean, and_self]

/-- Each cut falls behind everything that is still to be found. -/
theorem WeatherReply.values (r : WeatherReply) :
    WeatherStr.temperatureStr.value r.text = some r.temperature ∧
      WeatherStr.iconStr.value r.text = some r.icon ∧
      WeatherStr.weatherStr.value r.text = some r.description := by
  obtain ⟨temperature, restT⟩ := temperatureField.value_append (s := r.text) rfl
    r.firstTemperature r.temperature_ne r.temperature_clean
  -- the string is now cut behind the temperature
  have cutT : temperatureField.rest r.text = r.beforeIcon ++ iconField.key ++ r.icon ++
      iconField.delim :: (r.gap ++ temperatureField.key ++ r.temperature) := by
    rw [restT]
    simp [ReplyParts.beforeTemperature, iconField]
  have firstIcon : locate iconField.key (temperatureField.rest r.text) =
      some r.beforeIcon.length := by
    apply locate_of_isPrefix r.firstIcon (temperatureField.rest_isPrefix _)
    rw [cutT]
    simp only [List.length_append]
    omega
  obtain ⟨icon, restI⟩ := iconField.value_append cutT firstIcon r.icon_ne r.icon_clean
  -- and now behind the icon
  have cutI : iconField.rest (temperatureField.rest r.text) = r.head ++ descriptionField.key ++
      r.description ++ descriptionField.delim :: (r.between ++ iconField.key ++ r.icon) := by
    rw [restI]
    simp [ReplyParts.beforeIcon, descriptionField]
  have firstDescription : locate descriptionField.key
      (iconField.rest (temperatureField.rest r.text)) = some r.head.length := by
    apply locate_of_isPrefix r.firstDescription
      ((iconField.rest_isPrefix _).trans (temperatureField.rest_isPrefix _))
    rw [cutI]
    simp only [List.length_append]
    omega
  obtain ⟨description, _⟩ := descriptionField.value_append cutI firstDescription
    r.description_ne r.description_clean
  exact ⟨temperature, icon, description⟩

/-- A response with its fields in order is stored as it was received, the temperature up
to six characters. The last byte of `temperature_str` matters only if all six are used, and
it is a NUL in every state that the callback reaches. -/
theorem readString_reply (layout : StaticLayout) (spillFree : layout.SpillFree) :
    (∀ (mem : StaticMem) (p : StringPbuf) (r : WeatherReply), p.string = r.text →
      r.description.length ≤ 44 → r.icon.length ≤ 4 →
      mem (layout.base .temperatureStr + 6) = 0 ∨ r.temperature.length < 6 →
      ∃ mem', recvStep layout mem (some p) = some mem' ∧
        readString mem' (layout.base .temperatureStr) 7 = some (r.temperature.take 6) ∧
        readString mem' (layout.base .iconStr) 5 = some r.icon ∧
        readString mem' (layout.base .weatherStr) 45 = some r.description) ∧
    ∀ ts mem, Run (recvStep layout) staticBoot ts mem →
      mem (layout.base .temperatureStr + 6) = 0 := by
  constructor
  · intro mem p r text description icon last
    obtain ⟨temperatureValue, iconValue, descriptionValue⟩ := r.values
    have taken : ∀ dst : WeatherStr, received dst (some p) = dst.value r.text := by
      intro dst
      simp only [received, text, if_pos r.ok]
    refine ⟨_, recvStep_eq mem (some p), ?_, ?_, ?_⟩
    · exact readString_of_received_temperature spillFree ((taken _).trans temperatureValue) last
    · exact readString_of_received spillFree mem ((taken _).trans iconValue)
        (Nat.lt_of_le_of_lt icon (by decide)) (Nat.lt_of_le_of_lt icon (by decide))
    · exact readString_of_received spillFree mem ((taken _).trans descriptionValue)
        (Nat.lt_of_le_of_lt description (by decide)) (Nat.lt_of_le_of_lt description (by decide))
  · intro ts mem run
    exact (temperatureStr_terminated run).1

/-- Room for the icon's surplus bytes behind it. -/
def spacedLayout : StaticLayout where
  base
    | .iconStr => 0
    | .temperatureStr => 8
    | .weatherStr => 16
  disjoint d e other := by cases d <;> cases e <;> first | exact absurd rfl other | decide

theorem spacedLayout_spillFree : spacedLayout.SpillFree := by
  intro dst other k above below
  cases dst with
  | temperatureStr => exact .inl (by simp only [spacedLayout]; omega)
  | iconStr => exact absurd rfl other
  | weatherStr => exact .inl (by simp only [spacedLayout]; omega)

/-- A reply with a temperature of six characters. -/
def sixDigits : WeatherReply where
  head := ascii "HTTP/1.1 200 OK\r\n\r\n\x7b"
  description := ascii "clear sky"
  between := ascii ","
  icon := ascii "01d"
  gap := ascii ","
  temperature := ascii "100.25"
  tail := ascii "\x7d"
  string := by decide +kernel
  ok := by decide +kernel
  firstDescription := by decide +kernel
  firstIcon := by decide +kernel
  firstTemperature := by decide +kernel
  description_ne := by decide
  description_clean := by decide
  icon_ne := by decide
  icon_clean := by decide
  temperature_ne := by decide
  temperature_clean := by decide

theorem string_terminate_sixDigits : (Pbuf.terminate ⟨sixDigits.text, []⟩).string = sixDigits.text := by
  decide +kernel

/-- With any previous contents, the byte behind a copy of six may belong to the string. -/
theorem sixDigits_not_read_back :
    ¬∀ (layout : StaticLayout) (mem : StaticMem) (p : StringPbuf) (r : WeatherReply),
      layout.SpillFree → p.string = r.text → r.description.length ≤ 44 → r.icon.length ≤ 4 →
      ∃ mem', recvStep layout mem (some p) = some mem' ∧
        readString mem' (layout.base .temperatureStr) 7 = some (r.temperature.take 6) ∧
        readString mem' (layout.base .iconStr) 5 = some r.icon ∧
        readString mem' (layout.base .weatherStr) 45 = some r.description := by
  intro claim
  have unread : (recvStep spacedLayout (fun _ => 120) (some (Pbuf.terminate ⟨sixDigits.text, []⟩))).map
      (fun mem => (readString mem 8 7).isNone) = some true := by decide +kernel
  obtain ⟨mem', done, read, _⟩ := claim spacedLayout (fun _ => 120) _ sixDigits
    spacedLayout_spillFree string_terminate_sixDigits (by decide) (by decide)
  rw [done] at unread
  change readString mem' 8 7 = _ at read
  rw [Option.map_some, read] at unread
  cases unread

theorem readString_reply_sixDigits : ∃ mem',
    recvStep spacedLayout staticBoot (some (Pbuf.terminate ⟨sixDigits.text, []⟩)) = some mem' ∧
      readString mem' (spacedLayout.base .temperatureStr) 7 = some (ascii "100.25") := by
  obtain ⟨mem', done, read, _⟩ := (readString_reply spacedLayout spacedLayout_spillFree).1
    staticBoot _ sixDigits string_terminate_sixDigits (by decide) (by decide) (.inl rfl)
  exact ⟨mem', done, read⟩

end EpaperClock
