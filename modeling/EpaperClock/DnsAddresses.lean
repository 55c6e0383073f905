import EpaperClock.WeatherRequest

/-! Which addresses the program connects and sends to. -/
namespace EpaperClock

open StepSystem

variable {weatherKey : String} {addressZero : Ip4Addr}

/-- The name that an event answers and the address that DNS returned for it. -/
def NetEvent.answer : NetEvent → Option (String × Ip4Addr)
  | dnsSendHttpRequest url errMessage resolved _ =>
    if errMessage = errOk then some (url, resolved) else none
  | dnsCallFound name ipaddr _ => ipaddr.map (name, ·)
  | _ => none

/-- A lookup that failed, at once or later. -/
def NetEvent.LookupFailed : NetEvent → Prop
  | dnsSendHttpRequest _ errMessage _ _ => errMessage ≠ errOk ∧ errMessage ≠ errInprogress
  | dnsCallFound _ ipaddr _ => ipaddr = none
  | _ => False

/-- The names that the events of a run request. -/
def requestedNames (ts : List NetTransition) : List String :=
  ts.filterMap fun t => match t.event with
    | .dnsSendHttpRequest url _ _ _ => some url
    | _ => none

/-- The program connects and sends only to addresses that DNS returned for a name it
requested, and a lookup that failed has no effect. -/
structure AddressDiscipline (weatherKey : String) (addressZero : Ip4Addr)
    (ts : List NetTransition) : Prop where
  addressed : ∀ pre t post, ts = pre ++ t :: post →
    ∀ call ∈ netCalls weatherKey addressZero t.source t.event, ∀ ip, call.address = some ip →
      ∃ name, t.event.answer = some (name, ip) ∧ name ∈ requestedNames (pre ++ [t])
  failed : ∀ t ∈ ts, t.event.LookupFailed →
    netCalls weatherKey addressZero t.source t.event = [] ∧
      t.target.pool = t.source.pool ∧ t.target.weatherPcb = t.source.weatherPcb

theorem requestedNames_append (ts us : List NetTransition) :
    requestedNames (ts ++ us) = requestedNames ts ++ requestedNames us :=
  List.filterMap_append

theorem netStep_dnsRequests {s s' : WeatherNet} {e : NetEvent}
    (taken : netStep weatherKey addressZero s e = some s') (name : String)
    (pending : name ∈ s'.dnsRequests) :
    name ∈ s.dnsRequests ∨
      ∃ errMessage resolved outcome, e = .dnsSendHttpRequest name errMessage resolved outcome := by
  obtain ⟨_, _, handled⟩ := netHandled_of_netStep taken
  cases handled with
  | cached => exact .inl pending
  | queued =>
    rcases List.mem_append.mp pending with old | new
    · exact .inl old
    · obtain rfl := List.mem_singleton.mp new
      exact .inr ⟨_, _, _, rfl⟩
  | refused => exact .inl pending
  | found => exact .inl (List.mem_of_mem_erase pending)
  | callback => exact .inl pending

/-- Every lookup under way was requested. -/
theorem dnsRequests_requested {s : WeatherNet} {ts : List NetTransition}
    (run : Run (netStep weatherKey addressZero) netBoot ts s) :
    ∀ name ∈ s.dnsRequests, name ∈ requestedNames ts := by
  induction run with
  | start => simp [netBoot]
  | @next ts s e s' _ taken ih =>
    intro name pending
    rw [requestedNames_append]
    rcases netStep_dnsRequests taken name pending with earlier | ⟨_, _, _, rfl⟩
    · exact List.mem_append_left _ (ih name earlier)
    · exact List.mem_append_right _ (by simp [requestedNames])

/-- The calls of a step are addressed to the answer it handles, or to what NULL points to. -/
theorem netCalls_address {s s' : WeatherNet} {e : NetEvent}
    (taken : netStep weatherKey addressZero s e = some s') (call : NetCall)
    (member : call ∈ netCalls weatherKey addressZero s e) (ip : Ip4Addr)
    (addressed : call.address = some ip) :
    (∃ name outcome, e = .dnsCallFound name none outcome) ∨
    ∃ name, e.answer = some (name, ip) ∧ (name ∈ s.dnsRequests ∨
      ∃ errMessage resolved outcome, e = .dnsSendHttpRequest name errMessage resolved outcome) := by
  obtain ⟨calls, called, handled⟩ := netHandled_of_netStep taken
  rw [called] at member
  cases handled with
  | @cached url resolved outcome calls own =>
    obtain rfl : ip = resolved := by simpa [addressed] using own call member
    exact .inr ⟨url, rfl, .inr ⟨_, _, _, rfl⟩⟩
  | queued => cases member
  | refused => cases member
  | @found name ipaddr outcome calls pending own =>
    cases ipaddr with
    | none => exact .inl ⟨name, outcome, rfl⟩
    | some resolved =>
      rcases List.mem_cons.mp member with rfl | later
      · cases addressed
      · obtain rfl : ip = resolved := by simpa [addressed] using own call later
        exact .inr ⟨name, rfl, .inl pending⟩
  | callback _ _ _ silent =>
    rw [silent call member] at addressed
    cases addressed

/-- A lookup that fails at once is only logged. -/
theorem netStep_failed {s s' : WeatherNet} {e : NetEvent}
    (taken : netStep weatherKey addressZero s e = some s') (failure : e.LookupFailed)
    (atOnce : ∀ name outcome, e ≠ .dnsCallFound name none outcome) :
    netCalls weatherKey addressZero s e = [] ∧ s' = s := by
  obtain ⟨calls, called, handled⟩ := netHandled_of_netStep taken
  cases handled with
  | cached => exact absurd rfl failure.1
  | queued => exact absurd rfl failure.2
  | refused => exact ⟨called, rfl⟩
  | found =>
    obtain rfl := failure
    exact absurd rfl (atOnce _ _)
  | callback event =>
    cases e with
    | dnsSendHttpRequest => cases event
    | dnsCallFound => cases event
    | tcpInput => exact failure.elim
    | tcpFree => exact failure.elim
    | remoteClosed => exact failure.elim

/-- One that fails later is acted upon. -/
theorem netCalls_null {s s' : WeatherNet} {name : String} {outcome : RequestOutcome}
    (taken : netStep weatherKey addressZero s (.dnsCallFound name none outcome) = some s') :
    netCalls weatherKey addressZero s (.dnsCallFound name none outcome) ≠ [] := by
  obtain ⟨calls, called, handled⟩ := netHandled_of_netStep taken
  rw [called]
  cases handled with
  | found => exact List.cons_ne_nil _ _
  | callback event => cases event

/-- Connecting and sending follow DNS in exactly the runs in which `dns_callback` is
never given NULL. -/
theorem addressDiscipline_iff_no_null_callback {s : WeatherNet} {ts : List NetTransition}
    (run : Run (netStep weatherKey addressZero) netBoot ts s) :
    AddressDiscipline weatherKey addressZero ts ↔
      ∀ t ∈ ts, ∀ name outcome, t.event ≠ .dnsCallFound name none outcome := by
  constructor
  · intro discipline t member name outcome event
    have taken := run.step_of_mem member
    have silent := (discipline.failed t member (by rw [event]; rfl)).1
    rw [event] at taken silent
    exact netCalls_null taken silent
  · intro answered
    constructor
    · rintro pre t post rfl call member ip addressed
      obtain ⟨before, taken⟩ := run.split
      rw [requestedNames_append]
      rcases netCalls_address taken call member ip addressed with
        ⟨name, outcome, null⟩ | ⟨name, answer, pending | ⟨_, _, _, requested⟩⟩
      · exact absurd null (answered t (by simp) name outcome)
      · exact ⟨name, answer, List.mem_append_left _ (dnsRequests_requested before name pending)⟩
      · exact ⟨name, answer, List.mem_append_right _ (by simp [requestedNames, requested])⟩
    · intro t member failure
      have taken := run.step_of_mem member
      obtain ⟨silent, same⟩ := netStep_failed taken failure (answered t member)
      rw [same]
      exact ⟨silent, rfl, rfl⟩

/-- The lookup of a request that went out times out. -/
def lookupTimeout : List NetEvent :=
  let outcome : RequestOutcome := ⟨.free 0, ⟨true, true, true, errOk⟩, errOk, errOk⟩
  [.dnsSendHttpRequest "api.openweathermap.org" errInprogress 0 outcome,
    .dnsCallFound "api.openweathermap.org" none outcome]

theorem lookupTimeout_not_disciplined :
    ¬∀ weatherKey addressZero ts s, Run (netStep weatherKey addressZero) netBoot ts s →
      AddressDiscipline weatherKey addressZero ts := by
  intro claim
  -- the GET with the key goes to the initial stack pointer, read as an address
  have sent : (exec (netStep "key" 0x20030000) netBoot lookupTimeout).map (fun r => r.1.any fun t =>
      decide (t.event.answer = none) &&
        (netCalls "key" 0x20030000 t.source t.event).any fun call =>
          decide (call = .tcpWrite (some 0) (some 0x20030000) (apiStringBuf "key"))) =
      some true := by decide +kernel
  obtain ⟨ts, s, run, found⟩ := exists_run sent
  simp only [List.any_eq_true, Bool.and_eq_true, decide_eq_true_eq] at found
  obtain ⟨t, member, unanswered, call, called, write⟩ := found
  obtain ⟨pre, post, split⟩ := List.append_of_mem member
  obtain ⟨name, answer, _⟩ := (claim "key" 0x20030000 ts s run).addressed pre t post split call
    called 0x20030000 (by rw [write]; rfl)
  rw [unanswered] at answer
  cases answer

theorem addressDiscipline_iff_no_null_callback_lookupTimeout : ∃ ts s,
    Run (netStep "key" 0) netBoot ts s ∧ ts.length = 2 ∧
      (AddressDiscipline "key" 0 ts ↔
        ∀ t ∈ ts, ∀ name outcome, t.event ≠ .dnsCallFound name none outcome) := by
  have ran : (exec (netStep "key" 0) netBoot lookupTimeout).map (fun r => r.1.length == 2) =
      some true := by decide +kernel
  obtain ⟨ts, s, run, found⟩ := exists_run ran
  exact ⟨ts, s, run, by simpa using found, addressDiscipline_iff_no_null_callback run⟩

end EpaperClock
