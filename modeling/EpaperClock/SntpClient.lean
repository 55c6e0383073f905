import EpaperClock.Library.Run
import EpaperClock.Lwip
import EpaperClock.Sntp
import EpaperClock.Timeouts

/-! The SNTP client of `lwip/src/apps/sntp/sntp.c` and lwIP's timeouts, interleaved with the
main loop of `main_epaper_clock.c`, the tick interrupt and the network.

`sntp_opts.h` leaves one server (`SNTP_MAX_SERVERS`), known by its name, and the program
only polls it (`SNTP_OPMODE_POLL`). What DNS and the memory pools answer is an argument. -/
namespace EpaperClock

open TimerQueue

abbrev errTimeout : ErrT := -3
abbrev sntpErrKod : ErrT := 1

abbrev sntpMsgLen : Nat := 48
abbrev sntpOffsetTransmitTime : Nat := 40
abbrev sntpPort : UInt16 := 123

abbrev sntpRecvTimeout : UInt32 := 15000
abbrev sntpRetryTimeoutMin : UInt32 := 15000
abbrev sntpRetryTimeoutMax : UInt32 := 150000
abbrev sntpUpdateDelay : UInt32 := 360000

/-- `struct sntp_server`. -/
structure SntpServer where
  name : Option String
  addr : Ip4Addr
  reachability : UInt8
  deriving DecidableEq, Repr

/-- Where the main loop stands; `now` is what `sys_check_timeouts` read at its start. -/
inductive LoopPhase (T : Type) where
  | polling
  -- before the test of the next timer
  | checking (now : T)
  -- a handler has been taken from the queue and runs
  | calling (now : T) (handler : TimeoutHandler)
  deriving DecidableEq, Repr

/-- `checkStart` and `lastCheck`, the ticks at which the present and the last complete
`sys_check_timeouts` began, are history that nothing reads. -/
structure SntpClient (T : Type) where
  timeouts : Timeouts T
  phase : LoopPhase T
  checkStart : Nat
  lastCheck : Nat
  -- `sntp_pcb != NULL`
  sntpPcb : Bool
  sntpRetryTimeout : UInt32
  sntpServer : SntpServer
  -- the lookups that will end in a call of `sntp_dns_found`
  dnsRequests : Nat
  rtc : Rtc
  deriving DecidableEq, Repr

/-- A call of `udp_sendto`. -/
structure UdpDatagram where
  payload : List UInt8
  dstIp : Ip4Addr
  dstPort : UInt16
  deriving DecidableEq, Repr

/-- What a handler meets: the answer of `dns_gethostbyname`, whether `pbuf_alloc` succeeds and
whether TCP connections remain. -/
structure HandlerOutcome where
  err : ErrT
  resolved : Ip4Addr
  allocated : Bool
  pcbs : Bool
  deriving DecidableEq, Repr

/-- `sntp_initialize_request`: version 4, client mode. -/
def sntpInitializeRequest : List UInt8 := ((0 : UInt8) <<< 6 ||| (4 : UInt8) <<< 3 ||| 3) :: List.replicate 47 0

/-- `lwip_ntohl` of the transmit seconds that `pbuf_copy_partial` copies. -/
def transmitSeconds (p : List UInt8) : UInt32 :=
  let byte (i : Nat) : UInt32 := (p.getD (sntpOffsetTransmitTime + i) 0).toUInt32
  (byte 0 <<< 24) ||| (byte 1 <<< 16) ||| (byte 2 <<< 8) ||| byte 3

/-- The `err` of `sntp_recv`. -/
def sntpRecvErr (p : List UInt8) : ErrT :=
  if p.length = sntpMsgLen then
    let mode := p.getD 0 0 &&& 0x07
    if mode = 4 then
      if p.getD 1 0 = 0 then sntpErrKod else errOk
    else errTimeout
  else errArg

section Program

variable {T : Type} (base : TimeBase T)

/-- `sntp_retry`, which is also `sntp_try_next_server`. -/
def sntpRetry (s : SntpClient T) : Option (SntpClient T) :=
  (sysTimeout base s.sntpRetryTimeout .sntpRequest s.timeouts).map fun timeouts =>
    let newRetryTimeout := s.sntpRetryTimeout <<< 1
    { s with
      timeouts
      sntpRetryTimeout :=
        if newRetryTimeout ≤ sntpRetryTimeoutMax ∧ newRetryTimeout > s.sntpRetryTimeout then
          newRetryTimeout
        else s.sntpRetryTimeout }

/-- `sntp_recv`. -/
def sntpRecv (p : List UInt8) (s : SntpClient T) : Option (SntpClient T) :=
  let err := sntpRecvErr p
  if err = errOk then
    let timeouts := sysUntimeout .sntpTryNextServer s.timeouts
    let timeouts := sysUntimeout .sntpRequest timeouts
    (sysTimeout base sntpUpdateDelay .sntpRequest timeouts).map fun timeouts =>
      { s with
        timeouts
        rtc := sntpProcess (transmitSeconds p) s.rtc
        sntpServer.reachability := s.sntpServer.reachability ||| 1
        sntpRetryTimeout := sntpRetryTimeoutMin }
  else if err = sntpErrKod then sntpRetry base s
  else some s

/-- `sntp_send_request`; the result of `udp_sendto` is dropped. -/
def sntpSendRequest (serverAddr : Ip4Addr) (allocated : Bool) (s : SntpClient T) :
    Option (SntpClient T × List UdpDatagram) :=
  if allocated then
    (sysTimeout base sntpRecvTimeout .sntpTryNextServer s.timeouts).map fun timeouts =>
      ({ s with
          timeouts
          sntpServer.reachability := s.sntpServer.reachability <<< 1 },
        [⟨sntpInitializeRequest, serverAddr, sntpPort⟩])
  else
    (sysTimeout base sntpRetryTimeoutMin .sntpRequest s.timeouts).map fun timeouts =>
      ({ s with timeouts }, [])

/-- `sntp_dns_found`. -/
def sntpDnsFound (ipaddr : Option Ip4Addr) (allocated : Bool) (s : SntpClient T) :
    Option (SntpClient T × List UdpDatagram) :=
  match ipaddr with
  | some ipaddr =>
    sntpSendRequest base ipaddr allocated { s with sntpServer.addr := ipaddr }
  | none => (sntpRetry base s).map (·, [])

/-- `sntp_request`. -/
def sntpRequest (outcome : HandlerOutcome) (s : SntpClient T) :
    Option (SntpClient T × List UdpDatagram) :=
  -- address conversion failed
  let invalid (s : SntpClient T) :=
    (sysTimeout base sntpRetryTimeoutMin .sntpTryNextServer s.timeouts).map fun timeouts =>
      (({ s with timeouts }, []) : SntpClient T × List UdpDatagram)
  if s.sntpServer.name.isSome then
    let s := { s with sntpServer.addr := 0 }
    if outcome.err = errInprogress then some ({ s with dnsRequests := s.dnsRequests + 1 }, [])
    else if outcome.err = errOk then
      sntpSendRequest base outcome.resolved outcome.allocated
        { s with sntpServer.addr := outcome.resolved }
    else invalid s
  else if s.sntpServer.addr = 0 then invalid s
  else sntpSendRequest base s.sntpServer.addr outcome.allocated s

/-- The SNTP setup of `main`; `rand` is the value of `LWIP_RAND`. The name that it sets for
server 1 is ignored. -/
def sntpInit (rand : UInt32) (s : SntpClient T) : Option (SntpClient T) :=
  let s := { s with sntpServer.name := some "pool.ntp.org" }
  if s.sntpPcb then some s
  else
    (sysTimeout base (rand % 5000) .sntpRequest s.timeouts).map fun timeouts =>
      { s with timeouts, sntpPcb := true, sntpRetryTimeout := sntpRetryTimeoutMin }

/-- The call `handler(arg)`, with the work of the other modules done. -/
def callHandler (outcome : HandlerOutcome) (s : SntpClient T) :
    TimeoutHandler → Option (SntpClient T × List UdpDatagram)
  | .lwipCyclicTimer cyclic =>
    (lwipCyclicTimer base cyclic s.timeouts).map fun timeouts => ({ s with timeouts }, [])
  | .tcpipTcpTimer =>
    (tcpipTcpTimer base outcome.pcbs s.timeouts).map fun timeouts => ({ s with timeouts }, [])
  | .sntpRequest => sntpRequest base outcome s
  | .sntpTryNextServer => (sntpRetry base s).map (·, [])

end Program

inductive SntpEvent where
  -- the SysTick interrupt
  | timeIsr
  | sntpInit (rand : UInt32)
  | sysCheckTimeouts
  | nextExpired
  | callHandler (outcome : HandlerOutcome)
  -- `ethernetif_input` delivers a datagram to the client's port
  | sntpRecv (p : List UInt8)
  | sntpDnsFound (ipaddr : Option Ip4Addr) (allocated : Bool)
  -- a connection is opened
  | tcpTimerNeeded (pcbs : Bool)
  deriving DecidableEq, Repr

/-- DNS calls its callbacks for a received answer or from `dns_tmr`. -/
def LoopPhase.inDns {T : Type} : LoopPhase T → Bool
  | polling => true
  | checking _ => false
  | calling _ handler => handler = .lwipCyclicTimer .dnsTmr

section Steps

variable {T : Type} (base : TimeBase T)

/-- The handling of one event: the state after it and what it sends. -/
def sntpHandle (s : SntpClient T) : SntpEvent → Option (SntpClient T × List UdpDatagram)
  | .timeIsr => some ({ s with timeouts.timeNow := s.timeouts.timeNow + 1 }, [])
  | .sntpInit rand =>
    match s.phase with
    | .polling => (sntpInit base rand s).map (·, [])
    | _ => none
  | .sysCheckTimeouts =>
    match s.phase with
    | .polling =>
      some ({ s with
        phase := .checking (sysNow base s.timeouts), checkStart := s.timeouts.timeNow }, [])
    | _ => none
  | .nextExpired =>
    match s.phase with
    | .checking now =>
      match nextExpired base now s.timeouts with
      | some (handler, timeouts) => some ({ s with timeouts, phase := .calling now handler }, [])
      | none => some ({ s with phase := .polling, lastCheck := s.checkStart }, [])
    | _ => none
  | .callHandler outcome =>
    match s.phase with
    | .calling now handler => callHandler base outcome { s with phase := .checking now } handler
    | _ => none
  | .sntpRecv p =>
    match s.phase with
    | .polling => if s.sntpPcb then (sntpRecv base p s).map (·, []) else none
    | _ => none
  | .sntpDnsFound ipaddr allocated =>
    if s.phase.inDns ∧ 0 < s.dnsRequests then
      sntpDnsFound base ipaddr allocated { s with dnsRequests := s.dnsRequests - 1 }
    else none
  | .tcpTimerNeeded pcbs =>
    if s.phase.inDns then
      (tcpTimerNeeded base pcbs s.timeouts).map fun timeouts => ({ s with timeouts }, [])
    else none

def sntpStep (s : SntpClient T) (e : SntpEvent) : Option (SntpClient T) :=
  (sntpHandle base s e).map Prod.fst

def sntpSent (s : SntpClient T) (e : SntpEvent) : List UdpDatagram :=
  ((sntpHandle base s e).map Prod.snd).getD []

/-- After `lwip_init`, `ticks` after the tick counter was started. -/
def sntpBoot (ticks : Nat) (rtc : Rtc) : Option (SntpClient T) :=
  (sysTimeoutsInit base ⟨ticks, [], base.stamp 0, false⟩).map fun timeouts =>
    { timeouts, phase := .polling, checkStart := ticks, lastCheck := ticks, sntpPcb := false,
      sntpRetryTimeout := 0, sntpServer := ⟨none, 0, 0⟩, dnsRequests := 0, rtc }

end Steps

/-! ### What the functions do

Every function of the client arms one timer, or waits for DNS. -/

section Functions

variable {T : Type} {base : TimeBase T} {s s' : SntpClient T}

/-- `s'` has one timer more than `s`; the server, the retry timeout and the clock may differ. -/
structure Arms (base : TimeBase T) (s : SntpClient T) (msecs : UInt32) (handler : TimeoutHandler)
    (s' : SntpClient T) : Prop where
  short : msecs ≤ longestTimeout
  room : s.timeouts.nextTimeout.length < mempNumSysTimeout
  timeouts : s'.timeouts = { s.timeouts with
    nextTimeout := insert base ⟨base.stamp (s.timeouts.timeNow + msecs.toNat), handler⟩
      s.timeouts.nextTimeout }
  phase : s'.phase = s.phase
  checkStart : s'.checkStart = s.checkStart
  lastCheck : s'.lastCheck = s.lastCheck
  sntpPcb : s'.sntpPcb = s.sntpPcb
  dnsRequests : s'.dnsRequests = s.dnsRequests

theorem Arms.of_sysTimeout {msecs : UInt32} {handler : TimeoutHandler} {timeouts : Timeouts T}
    (set : sysTimeout base msecs handler s.timeouts = some timeouts)
    (armed : s'.timeouts = timeouts) (phase : s'.phase = s.phase)
    (checkStart : s'.checkStart = s.checkStart) (lastCheck : s'.lastCheck = s.lastCheck)
    (sntpPcb : s'.sntpPcb = s.sntpPcb) (dnsRequests : s'.dnsRequests = s.dnsRequests) :
    Arms base s msecs handler s' := by
  obtain ⟨short, room, equal⟩ := sysTimeout_eq set
  exact ⟨short, room, armed.trans equal, phase, checkStart, lastCheck, sntpPcb, dnsRequests⟩

/-- The doubling of `sntp_retry`. -/
def nextRetryTimeout (timeout : UInt32) : UInt32 :=
  if timeout <<< 1 ≤ sntpRetryTimeoutMax ∧ timeout <<< 1 > timeout then timeout <<< 1 else timeout

/-- What comes of an attempt to send a request. -/
inductive Attempt (base : TimeBase T) (s : SntpClient T) :
    SntpClient T → List UdpDatagram → Prop
  | sent {s' : SntpClient T} (serverAddr : Ip4Addr) (armed : Arms base s sntpRecvTimeout .sntpTryNextServer s')
      (retry : s'.sntpRetryTimeout = s.sntpRetryTimeout) (rtc : s'.rtc = s.rtc)
      (reachability : s'.sntpServer.reachability = s.sntpServer.reachability <<< 1) :
      Attempt base s s' [⟨sntpInitializeRequest, serverAddr, sntpPort⟩]
  -- no memory for it, or no address to send it to
  | failed {s' : SntpClient T} {handler : TimeoutHandler}
      (sntp : handler = .sntpRequest ∨ handler = .sntpTryNextServer)
      (armed : Arms base s sntpRetryTimeoutMin handler s')
      (retry : s'.sntpRetryTimeout = s.sntpRetryTimeout) (rtc : s'.rtc = s.rtc)
      (reachability : s'.sntpServer.reachability = s.sntpServer.reachability) :
      Attempt base s s' []
  | retried {s' : SntpClient T} (armed : Arms base s s.sntpRetryTimeout .sntpRequest s')
      (retry : s'.sntpRetryTimeout = nextRetryTimeout s.sntpRetryTimeout) (rtc : s'.rtc = s.rtc)
      (reachability : s'.sntpServer.reachability = s.sntpServer.reachability) :
      Attempt base s s' []
  | lookup : Attempt base s
      { s with sntpServer.addr := 0, dnsRequests := s.dnsRequests + 1 } []

theorem sntpRetry_arms (done : sntpRetry base s = some s') :
    Arms base s s.sntpRetryTimeout .sntpRequest s' := by
  obtain ⟨timeouts, set, rfl⟩ := Option.map_eq_some_iff.mp done
  exact .of_sysTimeout set rfl rfl rfl rfl rfl rfl

theorem sntpRetry_attempt (done : sntpRetry base s = some s') : Attempt base s s' [] := by
  have armed := sntpRetry_arms done
  obtain ⟨timeouts, _, rfl⟩ := Option.map_eq_some_iff.mp done
  exact .retried armed rfl rfl rfl

theorem sntpSendRequest_attempt {serverAddr addr : Ip4Addr} {allocated : Bool}
    {sent : List UdpDatagram} (done : sntpSendRequest base serverAddr allocated
      { s with sntpServer.addr := addr } = some (s', sent)) : Attempt base s s' sent := by
  cases allocated with
  | true =>
    obtain ⟨timeouts, set, equal⟩ := Option.map_eq_some_iff.mp done
    cases equal
    exact .sent serverAddr (.of_sysTimeout set rfl rfl rfl rfl rfl rfl) rfl rfl rfl
  | false =>
    obtain ⟨timeouts, set, equal⟩ := Option.map_eq_some_iff.mp done
    cases equal
    exact .failed (.inl rfl) (.of_sysTimeout set rfl rfl rfl rfl rfl rfl) rfl rfl rfl

theorem sntpDnsFound_attempt {ipaddr : Option Ip4Addr} {allocated : Bool}
    {sent : List UdpDatagram} (done : sntpDnsFound base ipaddr allocated s = some (s', sent)) :
    Attempt base s s' sent := by
  cases ipaddr with
  | some ipaddr => exact sntpSendRequest_attempt done
  | none =>
    obtain ⟨retried, retry, equal⟩ := Option.map_eq_some_iff.mp done
    cases equal
    exact sntpRetry_attempt retry

theorem sntpRequest_attempt {outcome : HandlerOutcome} {sent : List UdpDatagram}
    (done : sntpRequest base outcome s = some (s', sent)) : Attempt base s s' sent := by
  have invalid {addr : Ip4Addr}
      (done : (sysTimeout base sntpRetryTimeoutMin .sntpTryNextServer s.timeouts).map
        (fun timeouts => ({ s with sntpServer.addr := addr, timeouts }, ([] : List UdpDatagram))) =
          some (s', sent)) : Attempt base s s' sent := by
    obtain ⟨timeouts, set, equal⟩ := Option.map_eq_some_iff.mp done
    cases equal
    exact .failed (.inr rfl) (.of_sysTimeout set rfl rfl rfl rfl rfl rfl) rfl rfl rfl
  rw [sntpRequest] at done
  split at done
  · split at done
    · cases done
      exact .lookup
    · split at done
      · exact sntpSendRequest_attempt done
      · exact invalid done
  · split at done
    · exact invalid done
    · exact sntpSendRequest_attempt done

/-- An accepted reply: the pending timers of the client give way to one. -/
theorem sntpRecv_eq {p : List UInt8} (done : sntpRecv base p s = some s') :
    (sntpRecvErr p = errOk ∧ s'.sntpRetryTimeout = sntpRetryTimeoutMin ∧
      s'.rtc = sntpProcess (transmitSeconds p) s.rtc ∧
      s'.sntpServer.reachability = s.sntpServer.reachability ||| 1 ∧
      Arms base
        { s with
          timeouts := sysUntimeout .sntpRequest (sysUntimeout .sntpTryNextServer s.timeouts) }
        sntpUpdateDelay .sntpRequest s') ∨
    (sntpRecvErr p = sntpErrKod ∧ Attempt base s s' []) ∨
    (sntpRecvErr p ≠ errOk ∧ sntpRecvErr p ≠ sntpErrKod ∧ s' = s) := by
  rw [sntpRecv] at done
  split at done
  next accepted =>
    obtain ⟨timeouts, set, rfl⟩ := Option.map_eq_some_iff.mp done
    exact .inl ⟨accepted, rfl, rfl, rfl, .of_sysTimeout set rfl rfl rfl rfl rfl rfl⟩
  next rejected =>
    split at done
    next kod => exact .inr (.inl ⟨kod, sntpRetry_attempt done⟩)
    next ignored =>
      cases done
      exact .inr (.inr ⟨rejected, ignored, rfl⟩)

/-- Everything one step can do. -/
inductive SntpMove (base : TimeBase T) (s : SntpClient T) :
    SntpEvent → SntpClient T → List UdpDatagram → Prop
  | tick : SntpMove base s .timeIsr { s with timeouts.timeNow := s.timeouts.timeNow + 1 } []
  | initAgain {rand : UInt32} (polling : s.phase = .polling) (started : s.sntpPcb = true) :
      SntpMove base s (.sntpInit rand) { s with sntpServer.name := some "pool.ntp.org" } []
  | init {rand : UInt32} {timeouts : Timeouts T} (polling : s.phase = .polling)
      (stopped : s.sntpPcb = false)
      (set : sysTimeout base (rand % 5000) .sntpRequest s.timeouts = some timeouts) :
      SntpMove base s (.sntpInit rand)
        { s with
          timeouts
          sntpServer.name := some "pool.ntp.org"
          sntpPcb := true
          sntpRetryTimeout := sntpRetryTimeoutMin } []
  | check (polling : s.phase = .polling) :
      SntpMove base s .sysCheckTimeouts
        { s with phase := .checking (sysNow base s.timeouts), checkStart := s.timeouts.timeNow } []
  | expired {now : T} {handler : TimeoutHandler} {timeouts : Timeouts T}
      (checking : s.phase = .checking now)
      (taken : nextExpired base now s.timeouts = some (handler, timeouts)) :
      SntpMove base s .nextExpired { s with timeouts, phase := .calling now handler } []
  | checked {now : T} (checking : s.phase = .checking now)
      (none : nextExpired base now s.timeouts = none) :
      SntpMove base s .nextExpired { s with phase := .polling, lastCheck := s.checkStart } []
  | cyclic {now : T} {cyclic : CyclicTimer} {outcome : HandlerOutcome} {timeouts : Timeouts T}
      (calling : s.phase = .calling now (.lwipCyclicTimer cyclic))
      (set : lwipCyclicTimer base cyclic s.timeouts = some timeouts) :
      SntpMove base s (.callHandler outcome) { s with phase := .checking now, timeouts } []
  | tcp {now : T} {outcome : HandlerOutcome} {timeouts : Timeouts T}
      (calling : s.phase = .calling now .tcpipTcpTimer)
      (set : tcpipTcpTimer base outcome.pcbs s.timeouts = some timeouts) :
      SntpMove base s (.callHandler outcome) { s with phase := .checking now, timeouts } []
  | request {now : T} {outcome : HandlerOutcome} {s' : SntpClient T} {sent : List UdpDatagram}
      (calling : s.phase = .calling now .sntpRequest)
      (requested : sntpRequest base outcome { s with phase := .checking now } = some (s', sent)) :
      SntpMove base s (.callHandler outcome) s' sent
  | retry {now : T} {outcome : HandlerOutcome} {s' : SntpClient T}
      (calling : s.phase = .calling now .sntpTryNextServer)
      (retried : sntpRetry base { s with phase := .checking now } = some s') :
      SntpMove base s (.callHandler outcome) s' []
  | recv {p : List UInt8} {s' : SntpClient T} (polling : s.phase = .polling)
      (started : s.sntpPcb = true) (received : sntpRecv base p s = some s') :
      SntpMove base s (.sntpRecv p) s' []
  | found {ipaddr : Option Ip4Addr} {allocated : Bool} {s' : SntpClient T}
      {sent : List UdpDatagram} (inDns : s.phase.inDns = true) (waiting : 0 < s.dnsRequests)
      (answered : sntpDnsFound base ipaddr allocated
        { s with dnsRequests := s.dnsRequests - 1 } = some (s', sent)) :
      SntpMove base s (.sntpDnsFound ipaddr allocated) s' sent
  | tcpNeeded {pcbs : Bool} {timeouts : Timeouts T} (inDns : s.phase.inDns = true)
      (set : tcpTimerNeeded base pcbs s.timeouts = some timeouts) :
      SntpMove base s (.tcpTimerNeeded pcbs) { s with timeouts } []

theorem callHandler_move {now : T} {handler : TimeoutHandler} {outcome : HandlerOutcome}
    {sent : List UdpDatagram} (calling : s.phase = .calling now handler)
    (done : callHandler base outcome { s with phase := .checking now } handler = some (s', sent)) :
    SntpMove base s (.callHandler outcome) s' sent := by
  cases handler with
  | lwipCyclicTimer cyclic =>
    obtain ⟨timeouts, set, equal⟩ := Option.map_eq_some_iff.mp done
    cases equal
    exact .cyclic calling set
  | tcpipTcpTimer =>
    obtain ⟨timeouts, set, equal⟩ := Option.map_eq_some_iff.mp done
    cases equal
    exact .tcp calling set
  | sntpRequest => exact .request calling done
  | sntpTryNextServer =>
    obtain ⟨retried, retry, equal⟩ := Option.map_eq_some_iff.mp done
    cases equal
    exact .retry calling retry

theorem sntpInit_move {rand : UInt32} (polling : s.phase = .polling)
    (done : sntpInit base rand s = some s') : SntpMove base s (.sntpInit rand) s' [] := by
  rw [sntpInit] at done
  split at done
  next started =>
    cases done
    exact .initAgain polling started
  next stopped =>
    obtain ⟨timeouts, set, rfl⟩ := Option.map_eq_some_iff.mp done
    exact .init polling (eq_false_of_ne_true stopped) set

theorem sntpHandle_move {e : SntpEvent} {sent : List UdpDatagram}
    (done : sntpHandle base s e = some (s', sent)) : SntpMove base s e s' sent := by
  cases e with
  | timeIsr =>
    cases done
    exact .tick
  | sntpInit rand =>
    simp only [sntpHandle] at done
    split at done
    next polling =>
      obtain ⟨started, init, equal⟩ := Option.map_eq_some_iff.mp done
      cases equal
      exact sntpInit_move polling init
    next => cases done
  | sysCheckTimeouts =>
    simp only [sntpHandle] at done
    split at done
    next polling =>
      cases done
      exact .check polling
    next => cases done
  | nextExpired =>
    simp only [sntpHandle] at done
    split at done
    next now checking =>
      split at done
      next handler timeouts taken =>
        cases done
        exact .expired checking taken
      next none =>
        cases done
        exact .checked checking none
    next => cases done
  | callHandler outcome =>
    simp only [sntpHandle] at done
    split at done
    next now handler calling => exact callHandler_move calling done
    next => cases done
  | sntpRecv p =>
    simp only [sntpHandle] at done
    split at done
    next polling =>
      obtain ⟨started, delivered⟩ := Option.ite_none_right_eq_some.mp done
      obtain ⟨after, received, equal⟩ := Option.map_eq_some_iff.mp delivered
      cases equal
      exact .recv polling started received
    next => cases done
  | sntpDnsFound ipaddr allocated =>
    obtain ⟨⟨inDns, waiting⟩, found⟩ := Option.ite_none_right_eq_some.mp done
    exact .found inDns waiting found
  | tcpTimerNeeded pcbs =>
    obtain ⟨inDns, needed⟩ := Option.ite_none_right_eq_some.mp done
    obtain ⟨timeouts, set, equal⟩ := Option.map_eq_some_iff.mp needed
    cases equal
    exact .tcpNeeded inDns set

theorem sntpStep_move {e : SntpEvent} (taken : sntpStep base s e = some s') :
    SntpMove base s e s' (sntpSent base s e) := by
  obtain ⟨⟨after, sent⟩, done, rfl⟩ := Option.map_eq_some_iff.mp taken
  rw [sntpSent, done]
  exact sntpHandle_move done

end Functions

/-- The events carried out from the start. -/
def sntpExec {T : Type} (base : TimeBase T) (ticks : Nat) (rtc : Rtc) (es : List SntpEvent) :
    Option (List (StepSystem.Transition (SntpClient T) SntpEvent) × SntpClient T) := do
  let s₀ ← sntpBoot base ticks rtc
  StepSystem.exec (sntpStep base) s₀ es

theorem exists_run_sntpExec {T : Type} {base : TimeBase T} {ticks : Nat} {rtc : Rtc}
    {es : List SntpEvent}
    {p : List (StepSystem.Transition (SntpClient T) SntpEvent) × SntpClient T → Bool}
    (done : (sntpExec base ticks rtc es).map p = some true) :
    ∃ s₀ ts s, sntpBoot base ticks rtc = some s₀ ∧
      StepSystem.Run (sntpStep base) s₀ ts s ∧ p (ts, s) = true := by
  obtain ⟨result, ran, holds⟩ := Option.map_eq_some_iff.mp done
  obtain ⟨s₀, booted, ran⟩ := Option.bind_eq_some_iff.mp ran
  exact ⟨s₀, result.1, result.2, booted, .of_exec ran, holds⟩

end EpaperClock
