import EpaperClock.FieldExtraction

/-! What the cutting of a response into segments changes.

`tcpRecvCallback` keeps nothing between two calls and looks at the first pbuf of a chain
only, so a segment has an effect only if it begins with the status line itself. -/
namespace EpaperClock

open CString

variable {layout : StaticLayout}

/-- The bytes of a segment, over its whole chain. -/
def Pbuf.bytes (p : Pbuf) : Bytes := p.payload ++ p.next.flatten

/-- The segments handed to `tcpRecvCallback` in order, each payload followed by a NUL. -/
def deliver (layout : StaticLayout) (mem : StaticMem) (segments : List Pbuf) : Option StaticMem :=
  segments.foldlM (fun mem p => recvStep layout mem (some p.terminate)) mem

/-- A text for one of the strings. -/
abbrev Arrival : Type := WeatherStr × Bytes

/-- The texts that a segment carries, in the order in which they are copied. -/
def Pbuf.arrivals (p : Pbuf) : List Arrival :=
  [.temperatureStr, .iconStr, .weatherStr].filterMap fun dst =>
    (received dst (some p.terminate)).map fun text => (dst, text)

def arrivals (segments : List Pbuf) : List Arrival := segments.flatMap Pbuf.arrivals

/-- How many bytes of a text the array takes. -/
def WeatherStr.kept (dst : WeatherStr) : Nat := min dst.field.count dst.size

def Arrival.copy : Arrival → RecvAction
  | (dst, text) => .strncpy dst (padded dst.field.count text)

theorem copies_eq_arrivals (p : Pbuf) : p.terminate.copies = p.arrivals.map Arrival.copy := by
  rw [StringPbuf.copies, Pbuf.arrivals]
  split
  next ok =>
    simp only [received, ok, if_true, WeatherStr.value, responseCopies, WeatherField.copies,
      List.filterMap_cons, List.filterMap_nil]
    cases temperatureField.value p.terminate.string
    all_goals cases iconField.value (temperatureField.rest p.terminate.string)
    all_goals cases descriptionField.value (iconField.rest (temperatureField.rest p.terminate.string))
    all_goals rfl
  next other => simp [received, other]

theorem deliver_eq (mem : StaticMem) (segments : List Pbuf) :
    deliver layout mem segments =
      some (applyActions layout mem ((arrivals segments).map Arrival.copy)) := by
  induction segments generalizing mem with
  | nil => rfl
  | cons p rest ih =>
    have split : arrivals (p :: rest) = p.arrivals ++ arrivals rest := rfl
    rw [deliver, List.foldlM_cons, recvStep_eq]
    change deliver layout _ rest = _
    rw [ih, split, List.map_append, applyActions_append, ← copies_eq_arrivals]
    rfl

/-- Nothing behind the payload is looked at: it has a NUL, or a comma ends its temperature. -/
def SelfContained (payload : Bytes) : Prop := 0 ∈ payload ∨ temperatureField.Ends payload

theorem tcpRecvCallback_isSome_of_selfContained {payload : Bytes} (ok : statusOk <+: payload)
    (contained : SelfContained payload) (next : List Bytes) :
    ∃ result, tcpRecvCallback (some ⟨payload, next⟩) = some result := by
  apply Option.isSome_iff_exists.mp
  by_cases ended : 0 ∈ payload
  · obtain ⟨s, tail, rfl, string⟩ := List.eq_append_cons_of_mem ended
    rw [tcpRecvCallback_terminated string]
    rfl
  · exact tcpRecvCallback_isSome_of_ends ok ended (contained.resolve_left ended) next

theorem copies_append {payload : Bytes} (ok : statusOk <+: payload)
    (contained : SelfContained payload) (more : Bytes) (next next' : List Bytes) :
    (Pbuf.mk (payload ++ more) next').terminate.copies = (Pbuf.mk payload next).terminate.copies := by
  obtain ⟨result, done⟩ := tcpRecvCallback_isSome_of_selfContained ok contained next
  -- the callback returns without the NUL that delivery appends, so what follows is not read
  have short : tcpRecvCallback (some ⟨payload ++ [0], next⟩) = some result :=
    tcpRecvCallback_append done [0]
  have long : tcpRecvCallback (some ⟨payload ++ more ++ [0], next'⟩) = some result := by
    rw [List.append_assoc]
    exact tcpRecvCallback_append done (more ++ [0])
  have equal := (tcpRecvCallback_string (Pbuf.mk payload next).terminate).symm.trans (short.trans
    (long.symm.trans (tcpRecvCallback_string (Pbuf.mk (payload ++ more) next').terminate)))
  simp only [Option.some.injEq, Prod.mk.injEq, List.append_left_inj, and_true] at equal
  exact equal.symm

/-- The string of a delivered payload ends at its first NUL, or with it. -/
theorem string_terminate_isPrefix (p : Pbuf) : p.terminate.string <+: p.payload := by
  obtain ⟨tail, split, string⟩ := p.terminate.payload_eq
  have within : p.terminate.string <+: p.payload ++ [0] := ⟨0 :: tail, split.symm⟩
  apply (List.prefix_concat_iff.mp within).resolve_left
  intro whole
  exact string (whole ▸ List.mem_append_right _ List.mem_cons_self)

theorem arrivals_of_no_status {p : Pbuf} (other : ¬statusOk <+: p.payload) : p.arrivals = [] := by
  have noStatus : ¬statusOk <+: p.terminate.string :=
    fun ok => other (ok.trans (string_terminate_isPrefix p))
  simp only [Pbuf.arrivals, received, noStatus, if_false, Option.map_none, List.filterMap_cons,
    List.filterMap_nil]

/-- A response may be cut anywhere behind the comma that ends its temperature, into segments and
into chains: the rest changes nothing, unless it looks like a response itself. -/
theorem deliver_cut_behind (layout : StaticLayout) (mem : StaticMem) {payload : Bytes}
    (ok : statusOk <+: payload) (contained : SelfContained payload) (more : Bytes)
    (next next' : List Bytes) {rest : List Pbuf} (noResponse : ∀ p ∈ rest, ¬statusOk <+: p.payload) :
    deliver layout mem (⟨payload, next⟩ :: rest) = deliver layout mem [⟨payload ++ more, next'⟩] := by
  have silent : arrivals rest = [] :=
    List.flatMap_eq_nil_iff.mpr fun p member => arrivals_of_no_status (noResponse p member)
  have first : arrivals (⟨payload, next⟩ :: rest) = (Pbuf.mk payload next).arrivals ++ arrivals rest :=
    rfl
  have second : arrivals [⟨payload ++ more, next'⟩] = (Pbuf.mk (payload ++ more) next').arrivals :=
    List.append_nil _
  rw [deliver_eq, deliver_eq, first, second, silent, List.append_nil, ← copies_eq_arrivals,
    ← copies_eq_arrivals, copies_append ok contained more next next']

end EpaperClock
