import EpaperClock.Library.Run
import EpaperClock.Lwip

/-! The weather request of `main_epaper_clock.c`: DNS lookup, TCP connection and GET,
interleaved with the callbacks of lwIP.

`weather_key` comes from a header outside the repository, and `addressZero` is what the
flash holds at the address that a NULL pointer dereferences to. -/
namespace EpaperClock

open StepSystem

/-- The calls into lwIP, and the reads through the pointer that DNS hands out. -/
inductive NetCall where
  | readIpaddr (ipaddr : Option Ip4Addr)
  | tcpNew
  | tcpConnect (pcb : Option Block) (ipaddr : Ip4Addr)
  -- `remoteIp` is the peer of the block that the data is queued on
  | tcpWrite (pcb : Option Block) (remoteIp : Option Ip4Addr) (data : String)
  | tcpOutput (pcb : Option Block)
  | tcpClose (tpcb : Block)
  deriving DecidableEq, Repr

structure WeatherNet where
  pool : Pool
  weatherPcb : Option Block
  -- the names whose lookup will end in a call of `dns_callback`
  dnsRequests : List String

/-- What lwIP answers in the course of one request. -/
structure RequestOutcome where
  alloc : TcpAlloc
  connect : ConnectOutcome
  write : ErrT
  output : ErrT
  deriving DecidableEq, Repr

section Program

variable (weatherKey : String) (addressZero : Ip4Addr)

def apiStringBuf : String :=
  "GET /data/2.5/weather?q=Boston&units=imperial&appid=" ++ weatherKey ++
    " HTTP/1.0\r\nHost: openweathermap.org\r\n\r\n "

/-- `tcp_send_packet`, which returns 1 when `tcp_write` fails. -/
def tcpSendPacket (s : WeatherNet) (outcome : RequestOutcome) : Option (ErrT × List NetCall) := do
  let remoteIp := (s.weatherPcb.bind s.pool).map TcpPcb.remoteIp
  let write := NetCall.tcpWrite s.weatherPcb remoteIp (apiStringBuf weatherKey)
  let error ← tcpWrite s.pool s.weatherPcb outcome.write
  if error ≠ errOk then some (1, [write])
  else some (outcome.output, [write, .tcpOutput s.weatherPcb])

/-- `tcp_setup`; the block stored before is not looked at. -/
def tcpSetup (s : WeatherNet) (alloc : TcpAlloc) : WeatherNet :=
  { s with pool := (tcpNew s.pool alloc).1, weatherPcb := (tcpNew s.pool alloc).2 }

/-- `tcp_get_weather_update`. -/
def tcpGetWeatherUpdate (ip : Ip4Addr) (s : WeatherNet) (outcome : RequestOutcome) :
    Option (WeatherNet × List NetCall) :=
  if outcome.alloc.Possible s.pool then do
    let s := tcpSetup s outcome.alloc
    -- the results of `tcp_connect` and `tcp_send_packet` are dropped
    let (pool, _) ← tcpConnect s.pool s.weatherPcb ip outcome.connect
    let s := { s with pool := pool }
    let (_, sent) ← tcpSendPacket weatherKey s outcome
    some (s, .tcpNew :: .tcpConnect s.weatherPcb ip :: sent)
  else none

/-- `dns_callback`. -/
def dnsCallback (ipaddr : Option Ip4Addr) (s : WeatherNet) (outcome : RequestOutcome) :
    Option (WeatherNet × List NetCall) := do
  let (s, calls) ← tcpGetWeatherUpdate weatherKey (ipaddr.getD addressZero) s outcome
  some (s, .readIpaddr ipaddr :: calls)

/-- `dns_send_http_request`; `errMessage` and `resolved` are what `dns_gethostbyname`
returns and stores. -/
def dnsSendHttpRequest (url : String) (errMessage : ErrT) (resolved : Ip4Addr) (s : WeatherNet)
    (outcome : RequestOutcome) : Option (WeatherNet × List NetCall) :=
  if errMessage = errOk then tcpGetWeatherUpdate weatherKey resolved s outcome
  else if errMessage = errInprogress then
    some ({ s with dnsRequests := s.dnsRequests ++ [url] }, [])
  else some (s, [])

inductive NetEvent where
  | dnsSendHttpRequest (url : String) (errMessage : ErrT) (resolved : Ip4Addr)
      (outcome : RequestOutcome)
  -- `dns_call_found`, with NULL on an error or a timeout
  | dnsCallFound (name : String) (ipaddr : Option Ip4Addr) (outcome : RequestOutcome)
  -- a segment moves a connection; `connectCallback` and `tcpSendCallback` only log
  | tcpInput (b : Block) (state : TcpState)
  -- lwIP frees a block; `tcpErrorHandler` only logs
  | tcpFree (b : Block)
  -- `tcpRecvCallback` with a NULL pbuf
  | remoteClosed (b : Block) (unread : Bool) (sendFin : ErrT)
  deriving DecidableEq, Repr

/-- The handling of one event: the state after it and the calls made. -/
def netHandle (s : WeatherNet) : NetEvent → Option (WeatherNet × List NetCall)
  | .dnsSendHttpRequest url errMessage resolved outcome =>
    dnsSendHttpRequest weatherKey url errMessage resolved s outcome
  | .dnsCallFound name ipaddr outcome =>
    if name ∈ s.dnsRequests then
      dnsCallback weatherKey addressZero ipaddr
        { s with dnsRequests := s.dnsRequests.erase name } outcome
    else none
  | .tcpInput b state =>
    if s.pool.Listed b ∧ state ∉ [.closed, .listen] then
      some ({ s with pool := s.pool.set b ((s.pool b).map ({ · with state := state })) }, [])
    else none
  | .tcpFree b =>
    if s.pool.Listed b then some ({ s with pool := s.pool.set b none }, [])
    else none
  | .remoteClosed b unread sendFin =>
    if s.pool.Listed b then do
      let pool ← tcpClose s.pool b unread sendFin
      some ({ s with pool := pool }, [.tcpClose b])
    else none

def netStep (s : WeatherNet) (e : NetEvent) : Option WeatherNet :=
  (netHandle weatherKey addressZero s e).map Prod.fst

def netCalls (s : WeatherNet) (e : NetEvent) : List NetCall :=
  ((netHandle weatherKey addressZero s e).map Prod.snd).getD []

end Program

abbrev NetTransition := Transition WeatherNet NetEvent

/-- Before the first request. -/
def netBoot : WeatherNet := ⟨fun _ => none, none, []⟩

/-! ### One request -/

/-- The state a request leaves behind. -/
def WeatherNet.requested (s : WeatherNet) (ip : Ip4Addr) (outcome : RequestOutcome) : WeatherNet :=
  { s with
    pool := match outcome.alloc.block with
      | some b => s.pool.set b (some ⟨if outcome.connect.succeeds then .synSent else .closed, ip⟩)
      | none => s.pool
    weatherPcb := outcome.alloc.block }

/-- The peer that a call connects or sends to. -/
def NetCall.address : NetCall → Option Ip4Addr
  | tcpConnect _ ipaddr => some ipaddr
  | tcpWrite _ remoteIp _ => remoteIp
  | _ => none

/-- With a live block, or none, `tcp_send_packet` returns; all it sends goes to the
peer of that block. -/
theorem tcpSendPacket_spec (weatherKey : String) (s : WeatherNet) (outcome : RequestOutcome)
    (live : ∀ b, s.weatherPcb = some b → s.pool b ≠ none) :
    ∃ error sent, tcpSendPacket weatherKey s outcome = some (error, sent) ∧
      ∀ call ∈ sent, call.address ∈ [none, (s.weatherPcb.bind s.pool).map TcpPcb.remoteIp] := by
  have written : ∃ error, tcpWrite s.pool s.weatherPcb outcome.write = some error := by
    cases pcb : s.weatherPcb with
    | none => exact ⟨errArg, rfl⟩
    | some b =>
      obtain ⟨block, stored⟩ := Option.ne_none_iff_exists'.mp (live b pcb)
      simp only [tcpWrite, stored, Option.bind_eq_bind, Option.bind_some]
      split
      · exact ⟨_, rfl⟩
      · exact ⟨_, rfl⟩
  obtain ⟨error, wrote⟩ := written
  simp only [tcpSendPacket, wrote, Option.bind_eq_bind, Option.bind_some]
  split
  · exact ⟨_, _, rfl, by simp [NetCall.address]⟩
  · exact ⟨_, _, rfl, by simp [NetCall.address]⟩

/-- A possible request runs to its end without touching a free block, and it connects
and sends to its own address only. -/
theorem tcpGetWeatherUpdate_spec (weatherKey : String) (ip : Ip4Addr) (s : WeatherNet)
    (outcome : RequestOutcome) (possible : outcome.alloc.Possible s.pool) :
    ∃ sent, tcpGetWeatherUpdate weatherKey ip s outcome = some (s.requested ip outcome,
        .tcpNew :: .tcpConnect outcome.alloc.block ip :: sent) ∧
      ∀ call ∈ sent, call.address ∈ [none, some ip] := by
  have connected : ∃ result, tcpConnect (tcpNew s.pool outcome.alloc).1
      (tcpNew s.pool outcome.alloc).2 ip outcome.connect =
        some ((s.requested ip outcome).pool, result) := by
    cases block : outcome.alloc.block with
    | none => exact ⟨errArg, by simp [tcpNew, block, tcpConnect, WeatherNet.requested]⟩
    | some b =>
      obtain ⟨result, _, done⟩ := tcpConnect_tcpNew s.pool _ b ip outcome.connect block
      exact ⟨result, by rw [done, WeatherNet.requested, block]⟩
  have stored : (tcpNew s.pool outcome.alloc).2 = outcome.alloc.block := by
    simp only [tcpNew]
    split <;> simp_all
  -- `tcp_send_packet` sees the block that `tcp_connect` has just been given
  let s' := s.requested ip outcome
  have peer : s'.weatherPcb.bind s'.pool = outcome.alloc.block.map fun _ =>
      ⟨if outcome.connect.succeeds then .synSent else .closed, ip⟩ := by
    simp only [s', WeatherNet.requested]
    cases outcome.alloc.block with
    | none => rfl
    | some b => exact Pool.set_same ..
  have live : ∀ b, s'.weatherPcb = some b → s'.pool b ≠ none := by
    intro b block
    have allocated : outcome.alloc.block = some b := block
    rw [block, Option.bind_some, allocated] at peer
    simp [peer]
  obtain ⟨result, done⟩ := connected
  obtain ⟨error, sent, returned, addresses⟩ := tcpSendPacket_spec weatherKey s' outcome live
  refine ⟨sent, ?_, ?_⟩
  · simp only [tcpGetWeatherUpdate, if_pos possible, tcpSetup, Option.bind_eq_bind]
    rw [done, Option.bind_some, stored]
    change (tcpSendPacket weatherKey s' outcome).bind _ = _
    rw [returned]
    rfl
  · intro call member
    have bound := addresses call member
    rw [peer] at bound
    cases block : outcome.alloc.block with
    | none => exact List.mem_cons.mpr (.inl (by simpa [block] using bound))
    | some b => simpa [block] using bound

/-- Every request that returns ran as above. -/
theorem tcpGetWeatherUpdate_inv {weatherKey : String} {ip : Ip4Addr} {s s' : WeatherNet}
    {outcome : RequestOutcome} {calls : List NetCall}
    (done : tcpGetWeatherUpdate weatherKey ip s outcome = some (s', calls)) :
    s' = s.requested ip outcome ∧ ∀ call ∈ calls, call.address ∈ [none, some ip] := by
  by_cases possible : outcome.alloc.Possible s.pool
  · obtain ⟨sent, returned, addresses⟩ := tcpGetWeatherUpdate_spec weatherKey ip s outcome possible
    rw [returned] at done
    cases done
    refine ⟨rfl, ?_⟩
    intro call member
    rcases List.mem_cons.mp member with rfl | rest
    · exact List.mem_cons_self
    · rcases List.mem_cons.mp rest with rfl | last
      · exact List.mem_cons_of_mem _ List.mem_cons_self
      · exact addresses call last
  · rw [tcpGetWeatherUpdate, if_neg possible] at done
    cases done

/-! ### One event -/

/-- The outcome of the request that an event runs, if it runs `tcp_get_weather_update`. -/
def NetEvent.request : NetEvent → Option RequestOutcome
  | dnsSendHttpRequest _ errMessage _ outcome => if errMessage = errOk then some outcome else none
  | dnsCallFound _ _ outcome => some outcome
  | _ => none

/-- The block that a callback is about. -/
def NetEvent.block : NetEvent → Option Block
  | tcpInput b _ => some b
  | tcpFree b => some b
  | remoteClosed b _ _ => some b
  | _ => none

/-- Everything one event can do. -/
inductive NetHandled (addressZero : Ip4Addr) (s : WeatherNet) :
    NetEvent → WeatherNet → List NetCall → Prop where
  | cached {url resolved outcome calls}
      (own : ∀ call ∈ calls, call.address ∈ [none, some resolved]) :
      NetHandled addressZero s (.dnsSendHttpRequest url errOk resolved outcome)
        (s.requested resolved outcome) calls
  | queued {url resolved outcome} :
      NetHandled addressZero s (.dnsSendHttpRequest url errInprogress resolved outcome)
        { s with dnsRequests := s.dnsRequests ++ [url] } []
  | refused {url errMessage resolved outcome}
      (notOk : errMessage ≠ errOk) (notQueued : errMessage ≠ errInprogress) :
      NetHandled addressZero s (.dnsSendHttpRequest url errMessage resolved outcome) s []
  | found {name ipaddr outcome calls} (pending : name ∈ s.dnsRequests)
      (own : ∀ call ∈ calls, call.address ∈ [none, some (ipaddr.getD addressZero)]) :
      NetHandled addressZero s (.dnsCallFound name ipaddr outcome)
        { s.requested (ipaddr.getD addressZero) outcome with
          dnsRequests := s.dnsRequests.erase name }
        (.readIpaddr ipaddr :: calls)
  | callback {e b pcb calls} (event : e.block = some b) (listed : s.pool.Listed b)
      (other : pcb.map TcpPcb.state ≠ some .closed)
      (silent : ∀ call ∈ calls, call.address = none) :
      NetHandled addressZero s e { s with pool := s.pool.set b pcb } calls

variable {weatherKey : String} {addressZero : Ip4Addr}

theorem netHandled_of_netHandle {s s' : WeatherNet} {e : NetEvent} {calls : List NetCall}
    (handled : netHandle weatherKey addressZero s e = some (s', calls)) :
    NetHandled addressZero s e s' calls := by
  cases e with
  | dnsSendHttpRequest url errMessage resolved outcome =>
    simp only [netHandle, dnsSendHttpRequest] at handled
    split at handled
    next ok =>
      obtain ⟨rfl, own⟩ := tcpGetWeatherUpdate_inv handled
      rw [ok]
      exact .cached own
    next notOk =>
      split at handled
      next queued =>
        cases handled
        rw [queued]
        exact .queued
      next notQueued =>
        cases handled
        exact .refused notOk notQueued
  | dnsCallFound name ipaddr outcome =>
    simp only [netHandle, Option.ite_none_right_eq_some] at handled
    obtain ⟨pending, handled⟩ := handled
    obtain ⟨⟨inner, sent⟩, requested, rest⟩ := Option.bind_eq_some_iff.mp handled
    cases rest
    obtain ⟨rfl, own⟩ := tcpGetWeatherUpdate_inv requested
    exact .found pending own
  | tcpInput b state =>
    simp only [netHandle, Option.ite_none_right_eq_some] at handled
    obtain ⟨⟨listed, open_⟩, rest⟩ := handled
    cases rest
    refine .callback rfl listed ?_ (by simp)
    cases s.pool b with
    | none => simp
    | some pcb => simpa using fun closed : state = .closed => open_ (by simp [closed])
  | tcpFree b =>
    simp only [netHandle, Option.ite_none_right_eq_some] at handled
    obtain ⟨listed, rest⟩ := handled
    cases rest
    exact .callback rfl listed (by simp) (by simp)
  | remoteClosed b unread sendFin =>
    simp only [netHandle, Option.ite_none_right_eq_some] at handled
    obtain ⟨listed, rest⟩ := handled
    obtain ⟨pool, closed, rest⟩ := Option.bind_eq_some_iff.mp rest
    cases rest
    obtain ⟨pcb, rfl, other⟩ := tcpClose_state listed closed
    exact .callback rfl listed other (by simp [NetCall.address])

/-- A step handles its event, and its calls are those of the handling. -/
theorem netHandled_of_netStep {s s' : WeatherNet} {e : NetEvent}
    (taken : netStep weatherKey addressZero s e = some s') :
    ∃ calls, netCalls weatherKey addressZero s e = calls ∧ NetHandled addressZero s e s' calls := by
  obtain ⟨⟨after, calls⟩, handled, rfl⟩ := Option.map_eq_some_iff.mp taken
  exact ⟨calls, by rw [netCalls, handled]; rfl, netHandled_of_netHandle handled⟩

theorem NetEvent.request_of_block {e : NetEvent} {b : Block} (event : e.block = some b) :
    e.request = none := by
  cases e with
  | dnsSendHttpRequest => cases event
  | dnsCallFound => cases event
  | tcpInput => rfl
  | tcpFree => rfl
  | remoteClosed => rfl

/-- An event runs a request, or it changes neither `weather_pcb` nor which blocks are
allocated without being listed. -/
theorem netStep_cases {s s' : WeatherNet} {e : NetEvent}
    (taken : netStep weatherKey addressZero s e = some s') :
    (∃ ip outcome, e.request = some outcome ∧ s'.weatherPcb = outcome.alloc.block ∧
      s'.pool = (s.requested ip outcome).pool) ∨
    (e.request = none ∧ s'.weatherPcb = s.weatherPcb ∧
      ∀ b, s'.pool.Unlisted b ↔ s.pool.Unlisted b) := by
  obtain ⟨_, _, handled⟩ := netHandled_of_netStep taken
  cases handled with
  | cached => exact .inl ⟨_, _, rfl, rfl, rfl⟩
  | queued => exact .inr ⟨rfl, rfl, fun _ => Iff.rfl⟩
  | refused notOk _ => exact .inr ⟨if_neg notOk, rfl, fun _ => Iff.rfl⟩
  | found => exact .inl ⟨_, _, rfl, rfl, rfl⟩
  | callback event listed other _ =>
    exact .inr ⟨NetEvent.request_of_block event, rfl, Pool.unlisted_set other listed.not_unlisted⟩

end EpaperClock
