import EpaperClock.Library.CString
import EpaperClock.Lwip
import Mathlib.Data.UInt

/-! `tcpRecvCallback` of `main_epaper_clock.c` and what it does to a payload.

A payload is the bytes of one pbuf and nothing behind them; a read or a write outside
of it fails. -/
namespace EpaperClock

open CString

abbrev Bytes := List UInt8

def ascii (text : String) : Bytes := text.toList.map fun c => c.toNat.toUInt8

abbrev comma : UInt8 := 44
abbrev quote : UInt8 := 34

/-- `struct pbuf`: the payload of the first buffer and those of the rest of the chain. -/
structure Pbuf where
  payload : Bytes
  next : List Bytes

/-- The three global strings. -/
inductive WeatherStr where
  | temperatureStr
  | iconStr
  | weatherStr
  deriving DecidableEq, Repr

def WeatherStr.size : WeatherStr → Nat
  | temperatureStr => 7
  | iconStr => 5
  | weatherStr => 45

/-- One of the three blocks of the callback. -/
structure WeatherField where
  key : Bytes
  delim : UInt8
  dst : WeatherStr
  count : Nat
  clean : 0 ∉ key
  nonempty : key ≠ []
  visible : delim ≠ 0

def temperatureField : WeatherField :=
  ⟨ascii "\"temp\":", comma, .temperatureStr, 6, by decide, by decide, by decide⟩

def iconField : WeatherField :=
  ⟨ascii "\"icon\":\"", quote, .iconStr, 7, by decide, by decide, by decide⟩

def descriptionField : WeatherField :=
  ⟨ascii "\"description\":\"", quote, .weatherStr, 45, by decide, by decide, by decide⟩

inductive RecvAction where
  | tcpClose
  | strncpy (dst : WeatherStr) (bytes : Bytes)
  | pbufFree
  deriving DecidableEq, Repr

/-- `strstr`, `strtok` and `strncpy` for one field: the payload after them, and the copy. -/
def copyField (field : WeatherField) (payload : Bytes) : Option (Bytes × List RecvAction) := do
  match ← strstr field.key payload with
  | none => some (payload, [])
  | some offset =>
    let value := offset + field.key.length
    let token ← strtok field.delim (payload.drop value)
    -- copied from the pointer that was passed to `strtok`, not from the one it returns
    let bytes ← strncpy field.count token
    some (payload.take value ++ token, [.strncpy field.dst bytes])

def statusOk : Bytes := ascii "HTTP/1.1 200"

/-- What `tcpRecvCallback` does and returns. The texts it prints are left out: they end at
the NUL that `strtok` found or wrote. -/
def tcpRecvCallback (p : Option Pbuf) : Option (List RecvAction × ErrT) :=
  match p with
  | none => some ([.tcpClose], errOk)
  | some p => do
    -- a response that is not a 200 is discarded
    if ¬(← strncmpEq statusOk p.payload) then some ([.pbufFree], errOk)
    else
      let (payload, temperature) ← copyField temperatureField p.payload
      let (payload, icon) ← copyField iconField payload
      let (_, description) ← copyField descriptionField payload
      some (temperature ++ icon ++ description ++ [.pbufFree], errOk)

/-! ### On strings -/

namespace WeatherField

variable (field : WeatherField)

/-- What stands behind the first key, up to the delimiter. -/
def value (s : Bytes) : Option Bytes :=
  (locate field.key s).map fun offset => token field.delim (s.drop (offset + field.key.length))

/-- What is left of the string once `strtok` has ended it behind the value. -/
def rest (s : Bytes) : Bytes :=
  match locate field.key s with
  | none => s
  | some offset =>
    s.take (offset + field.key.length) ++ token field.delim (s.drop (offset + field.key.length))

def copies (s : Bytes) : List RecvAction :=
  (field.value s).toList.map fun v => .strncpy field.dst (padded field.count v)

theorem rest_isPrefix (s : Bytes) : field.rest s <+: s := by
  simp only [rest]
  split
  · exact List.prefix_refl s
  next offset _ =>
    have tail := token_isPrefix field.delim (s.drop (offset + field.key.length))
    calc _ <+: s.take (offset + field.key.length) ++ s.drop (offset + field.key.length) :=
          (List.prefix_append_right_inj _).mpr tail
      _ = s := List.take_append_drop _ s

theorem value_eq_none_iff (s : Bytes) : field.value s = none ↔ ¬field.key <:+: s := by
  rw [value, Option.map_eq_none_iff, locate_eq_none_iff]

variable {field} in
theorem rest_of_absent {s : Bytes} (absent : ¬field.key <:+: s) : field.rest s = s := by
  rw [rest, locate_eq_none_iff.mpr absent]

theorem zero_notMem_value {s v : Bytes} (string : 0 ∉ s) (found : field.value s = some v) :
    0 ∉ v := by
  obtain ⟨offset, _, rfl⟩ := Option.map_eq_some_iff.mp found
  intro zero
  exact string (List.mem_of_mem_drop ((token_isPrefix _ _).subset zero))

theorem mem_copies {s : Bytes} {action : RecvAction} :
    action ∈ field.copies s ↔
      ∃ v, field.value s = some v ∧ action = .strncpy field.dst (padded field.count v) := by
  simp [copies, eq_comm]

end WeatherField

/-- On a string a block finds, ends and copies its value. -/
theorem copyField_terminated (field : WeatherField) {s : Bytes} (string : 0 ∉ s) (tail : Bytes) :
    ∃ tail', copyField field (s ++ 0 :: tail) =
      some (field.rest s ++ 0 :: tail', field.copies s) := by
  have found := strstr_terminated field.clean field.nonempty string tail
  simp only [copyField, found, Option.bind_eq_bind, Option.bind_some, WeatherField.rest,
    WeatherField.copies, WeatherField.value]
  cases located : locate field.key s with
  | none => exact ⟨tail, rfl⟩
  | some offset =>
    have bound := locate_bound field.nonempty located
    have suffix : 0 ∉ s.drop (offset + field.key.length) :=
      fun zero => string (List.mem_of_mem_drop zero)
    obtain ⟨tail', ended⟩ := strtok_terminated field.visible suffix tail
    have clean : 0 ∉ token field.delim (s.drop (offset + field.key.length)) :=
      fun zero => suffix ((token_isPrefix _ _).subset zero)
    refine ⟨tail', ?_⟩
    simp only [List.drop_append_of_le_length bound, List.take_append_of_le_length bound, ended,
      strncpy_terminated field.count clean tail', Option.bind_some, Option.map_some,
      Option.toList_some, List.map_cons, List.map_nil, List.append_assoc]

/-- What the callback copies from a response, as a string. -/
def responseCopies (s : Bytes) : List RecvAction :=
  let afterTemperature := temperatureField.rest s
  let afterIcon := iconField.rest afterTemperature
  temperatureField.copies s ++ iconField.copies afterTemperature ++ descriptionField.copies afterIcon

/-- The callback on a NUL-terminated payload. -/
theorem tcpRecvCallback_terminated {s : Bytes} (string : 0 ∉ s) (tail : Bytes) (next : List Bytes) :
    tcpRecvCallback (some ⟨s ++ 0 :: tail, next⟩) =
      some ((if statusOk <+: s then responseCopies s else []) ++ [.pbufFree], errOk) := by
  have clean : 0 ∉ statusOk := by decide
  have compared := strncmpEq_terminated (s := s) clean tail
  simp only [tcpRecvCallback, compared, Option.bind_eq_bind, Option.bind_some, decide_eq_true_eq]
  by_cases ok : statusOk <+: s
  · have afterTemperature : 0 ∉ temperatureField.rest s :=
      fun zero => string ((temperatureField.rest_isPrefix s).subset zero)
    have afterIcon : 0 ∉ iconField.rest (temperatureField.rest s) :=
      fun zero => afterTemperature ((iconField.rest_isPrefix _).subset zero)
    obtain ⟨tail₁, temperature⟩ := copyField_terminated temperatureField string tail
    obtain ⟨tail₂, icon⟩ := copyField_terminated iconField afterTemperature tail₁
    obtain ⟨tail₃, description⟩ := copyField_terminated descriptionField afterIcon tail₂
    simp only [ok, not_true_eq_false, if_false, if_true, temperature, icon, description,
      Option.bind_some, responseCopies]
  · simp only [ok, not_false_eq_true, if_true, if_false, List.nil_append]

/-! ### Bounds -/

/-- A callback that stays in its payload does the same on a longer payload. -/
theorem copyField_append {field : WeatherField} {payload after : Bytes} {copied : List RecvAction}
    (done : copyField field payload = some (after, copied)) (more : Bytes) :
    copyField field (payload ++ more) = some (after ++ more, copied) := by
  obtain ⟨result, searched, remaining⟩ := Option.bind_eq_some_iff.mp done
  simp only [copyField, strstr_append searched more, Option.bind_eq_bind, Option.bind_some]
  cases result with
  | none => cases remaining; rfl
  | some offset =>
    obtain ⟨token, ended, remaining⟩ := Option.bind_eq_some_iff.mp remaining
    obtain ⟨bytes, copy, remaining⟩ := Option.bind_eq_some_iff.mp remaining
    cases remaining
    have bound := strstr_bound field.nonempty searched
    simp only [List.drop_append_of_le_length bound, List.take_append_of_le_length bound,
      strtok_append ended more, strncpy_append copy more, Option.bind_some, List.append_assoc]

theorem tcpRecvCallback_append {payload : Bytes} {next next' : List Bytes}
    {result : List RecvAction × ErrT}
    (done : tcpRecvCallback (some ⟨payload, next⟩) = some result) (more : Bytes) :
    tcpRecvCallback (some ⟨payload ++ more, next'⟩) = some result := by
  simp only [tcpRecvCallback] at done ⊢
  obtain ⟨equal, compared, done⟩ := Option.bind_eq_some_iff.mp done
  rw [strncmpEq_append compared more]
  cases equal with
  | false => exact done
  | true =>
    obtain ⟨⟨afterTemperature, _⟩, temperature, done⟩ := Option.bind_eq_some_iff.mp done
    obtain ⟨⟨afterIcon, _⟩, icon, done⟩ := Option.bind_eq_some_iff.mp done
    obtain ⟨⟨_, _⟩, description, done⟩ := Option.bind_eq_some_iff.mp done
    simp only [Option.bind_eq_bind, Option.bind_some, not_true_eq_false, if_false,
      copyField_append temperature more, copyField_append icon more,
      copyField_append description more]
    exact done

theorem copyField_isSome_of_zero_mem (field : WeatherField) {payload : Bytes}
    (ended : 0 ∈ payload) :
    ∃ after copied, copyField field payload = some (after, copied) ∧ 0 ∈ after := by
  obtain ⟨s, tail, rfl, string⟩ := List.eq_append_cons_of_mem ended
  obtain ⟨tail', done⟩ := copyField_terminated field string tail
  exact ⟨_, _, done, List.mem_append_right _ List.mem_cons_self⟩

/-- The payload ends a value of the field: a key, something other than delimiters, and
a delimiter. -/
def WeatherField.Ends (field : WeatherField) (payload : Bytes) : Prop :=
  ∃ pre value post, payload = pre ++ field.key ++ value ++ field.delim :: post ∧
    ∃ c ∈ value, c ≠ field.delim

/-- If any key has its value ended, so has the first one. -/
theorem WeatherField.ends_iff {field : WeatherField} {payload : Bytes} {offset : Nat}
    (located : locate field.key payload = some offset) :
    field.Ends payload ↔ ∃ value post,
      payload.drop (offset + field.key.length) = value ++ field.delim :: post ∧
        ∃ c ∈ value, c ≠ field.delim := by
  constructor
  · rintro ⟨pre, value, post, split, c, member, other⟩
    have occurs : payload = pre ++ field.key ++ (value ++ field.delim :: post) := by
      rw [split, List.append_assoc]
    obtain ⟨first, found, before⟩ := locate_le occurs
    obtain rfl : first = offset := Option.some.inj (found.symm.trans located)
    have skipped : first + field.key.length + (pre.length - first) =
        (pre ++ field.key).length := by
      rw [List.length_append]
      omega
    have last : (payload.drop (first + field.key.length)).drop (pre.length - first) =
        value ++ field.delim :: post := by
      rw [List.drop_drop, skipped, split, List.append_assoc (pre ++ field.key), List.drop_left]
    -- the value behind the first key reaches over the one that is known to end
    refine ⟨(payload.drop (first + field.key.length)).take (pre.length - first) ++ value, post, ?_,
      c, List.mem_append_right _ member, other⟩
    rw [List.append_assoc, ← last, List.take_append_drop]
  · rintro ⟨value, post, split, c, member, other⟩
    obtain ⟨behind, occurs⟩ := locate_spec located
    have bound := locate_bound field.nonempty located
    have same : behind = value ++ field.delim :: post := by
      rw [← split, ← List.drop_drop, ← occurs, List.drop_left]
    refine ⟨payload.take offset, value, post, ?_, c, member, other⟩
    rw [List.append_assoc, ← same, List.append_assoc, occurs, List.take_append_drop]

/-- Without a NUL, a block stays in the payload exactly when a delimiter ends its value;
then it leaves a NUL behind. -/
theorem copyField_unterminated (field : WeatherField) {payload : Bytes} (endless : 0 ∉ payload) :
    (field.Ends payload → ∃ after copied,
      copyField field payload = some (after, copied) ∧ 0 ∈ after) ∧
    (¬field.Ends payload → copyField field payload = none) := by
  have searched := strstr_unterminated field.nonempty endless
  cases located : locate field.key payload with
  | none =>
    rw [located] at searched
    constructor
    · rintro ⟨pre, value, post, split, _⟩
      have occurs : payload = pre ++ field.key ++ (value ++ field.delim :: post) := by
        rw [split, List.append_assoc]
      obtain ⟨offset, found, _⟩ := locate_le occurs
      rw [located] at found
      cases found
    · intro _
      rw [copyField, searched]
      rfl
  | some offset =>
    rw [located] at searched
    -- the search stayed inside, so `strtok` decides
    have suffix : 0 ∉ payload.drop (offset + field.key.length) :=
      fun zero => endless (List.mem_of_mem_drop zero)
    rw [WeatherField.ends_iff located, ← strtok_unterminated suffix]
    simp only [copyField, searched, Option.map_some, Option.bind_eq_bind, Option.bind_some]
    constructor
    · intro ended
      obtain ⟨token, done⟩ := Option.isSome_iff_exists.mp ended
      have zero := zero_mem_strtok done
      obtain ⟨s, tail, rfl, string⟩ := List.eq_append_cons_of_mem zero
      simp only [done, strncpy_terminated field.count string tail, Option.bind_some]
      exact ⟨_, _, rfl, List.mem_append_right _ zero⟩
    · intro open_
      rw [Option.not_isSome_iff_eq_none.mp open_]
      rfl

/-- A response in which a comma ends the temperature is never read behind that comma. -/
theorem tcpRecvCallback_isSome_of_ends {payload : Bytes} (ok : statusOk <+: payload)
    (endless : 0 ∉ payload) (ends : temperatureField.Ends payload) (next : List Bytes) :
    (tcpRecvCallback (some ⟨payload, next⟩)).isSome = true := by
  obtain ⟨after, _, temperature, zero⟩ := (copyField_unterminated temperatureField endless).1 ends
  -- `strtok` has put a NUL into the payload, which bounds the two searches that follow
  obtain ⟨after', _, icon, zero'⟩ := copyField_isSome_of_zero_mem iconField zero
  obtain ⟨_, _, description, _⟩ := copyField_isSome_of_zero_mem descriptionField zero'
  simp [tcpRecvCallback, strncmpEq_eq_true_iff.mpr ok, temperature, icon, description]

/-- The callback reads and writes inside the payload exactly when the payload has a NUL,
or differs from the status line where both have a byte, or is a response in which a
comma ends the temperature. -/
theorem tcpRecvCallback_inBounds_iff (p : Pbuf) :
    (tcpRecvCallback (some p)).isSome = true ↔
      0 ∈ p.payload ∨ ¬(p.payload <+: statusOk ∨ statusOk <+: p.payload) ∨
        statusOk <+: p.payload ∧ temperatureField.Ends p.payload := by
  obtain ⟨payload, next⟩ := p
  -- with a NUL every scan stops; without one, the result of `strncmp` splits the cases
  by_cases ended : 0 ∈ payload
  · obtain ⟨s, tail, rfl, string⟩ := List.eq_append_cons_of_mem ended
    exact iff_of_true (by rw [tcpRecvCallback_terminated string]; rfl) (.inl ended)
  simp only [ended, false_or]
  cases compared : strncmpEq statusOk payload with
  | none =>
    obtain ⟨short, differs⟩ := strncmpEq_eq_none_iff.mp compared
    refine iff_of_false (by simp [tcpRecvCallback, compared]) ?_
    rintro (apart | ⟨long, _⟩)
    · exact apart (.inl short)
    · exact differs (short.eq_of_length_le long.length_le)
  | some equal =>
    cases equal with
    | false =>
      have unlike : ¬statusOk <+: payload := by
        intro whole
        rw [strncmpEq_eq_true_iff.mpr whole] at compared
        cases compared
      refine iff_of_true (by simp [tcpRecvCallback, compared]) (.inl ?_)
      rintro (short | long)
      · by_cases same : payload = statusOk
        · exact unlike (same ▸ List.prefix_refl _)
        · rw [strncmpEq_eq_none_iff.mpr ⟨short, same⟩] at compared
          cases compared
      · exact unlike long
    | true =>
      have ok := strncmpEq_eq_true_iff.mp compared
      by_cases ends : temperatureField.Ends payload
      · exact iff_of_true (tcpRecvCallback_isSome_of_ends ok ended ends next) (.inr ⟨ok, ends⟩)
      · have fails := (copyField_unterminated temperatureField ended).2 ends
        simp [tcpRecvCallback, compared, fails, ends, ok]

/-- A response that is cut inside its temperature: `strtok` runs off its end. -/
theorem tcpRecvCallback_not_inBounds : ¬∀ p, (tcpRecvCallback (some p)).isSome = true := by
  intro claim
  have fails : (tcpRecvCallback (some ⟨ascii "HTTP/1.1 200 OK\r\n\r\n\x7b\"temp\":72", []⟩)).isSome =
      false := by decide +kernel
  rw [claim] at fails
  cases fails

end EpaperClock
