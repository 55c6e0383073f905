import EpaperClock.DnsNames
import EpaperClock.IpAddresses
import EpaperClock.Lwip
import Mathlib.Data.Fintype.Pi

/-! The resolver of `lwip/src/core/dns.c`, as `opt.h` configures it: IPv4 only, no local host
list, no multicast, and all of `LWIP_DNS_SECURE`.

`F` stands for a callback and its argument. The callbacks of this program do not call the
resolver again. What `LWIP_RAND` draws and what the memory pools answer are arguments; a
failing (`none`) result is a loop that still draws, or a control block that is not there. -/
namespace EpaperClock

abbrev errUse : ErrT := -8

/-- `DNS_TABLE_SIZE`, which is also `DNS_MAX_REQUESTS` and `DNS_MAX_SOURCE_PORTS`. -/
abbrev dnsTableSize : Nat := 4
abbrev dnsMaxServers : Nat := 2
abbrev dnsMaxRetries : UInt8 := 4
abbrev dnsMaxNameLength : Nat := 256
abbrev dnsMaxTtl : UInt32 := 604800

abbrev sizeofDnsHdr : Nat := 12
abbrev sizeofDnsQuery : Nat := 4
abbrev sizeofDnsAnswer : Nat := 10

/-- `lwip_strnicmp`, 0 for equal strings; both end with their first NUL. -/
def lwipStrnicmp : Bytes → Bytes → Nat → Nat
  | _, _, 0 => 0
  | str1, str2, len + 1 =>
    let c1 := str1.headD 0
    let c2 := str2.headD 0
    let c1Upc := c1 ||| 0x20
    if c1 ≠ c2 ∧ ¬(0x61 ≤ c1Upc ∧ c1Upc ≤ 0x7a ∧ c1Upc = c2 ||| 0x20) then 1
    else if c1 = 0 then 0
    else lwipStrnicmp str1.tail str2.tail len

inductive DnsState where
  | unused
  | new
  | asking
  | done
  deriving DecidableEq, Repr

/-- `struct dns_table_entry`; the name comes without its NUL, and `pcbIdx` is `none` for
`DNS_MAX_SOURCE_PORTS`. -/
structure DnsTableEntry where
  ttl : UInt32
  ipaddr : Ip4Addr
  txid : UInt16
  state : DnsState
  serverIdx : Fin dnsMaxServers
  tmr : UInt8
  retries : UInt8
  seqno : UInt8
  pcbIdx : Option (Fin dnsTableSize)
  name : Bytes
  deriving DecidableEq, Repr

/-- `struct dns_req_entry`. -/
structure DnsReqEntry (F : Type) where
  found : Option F
  dnsTableIdx : Fin dnsTableSize
  deriving DecidableEq, Repr

structure DnsClient (F : Type) where
  -- the local ports of the control blocks
  dnsPcbs : Fin dnsTableSize → Option UInt16
  dnsLastPcbIdx : Fin dnsTableSize
  dnsSeqno : UInt8
  dnsTable : Fin dnsTableSize → DnsTableEntry
  dnsRequests : Fin dnsTableSize → DnsReqEntry F
  dnsServers : Fin dnsMaxServers → Ip4Addr
  deriving DecidableEq

inductive DnsCall (F : Type) where
  | found (callback : F) (name : Bytes) (ipaddr : Option Ip4Addr)
  | udpSendto (localPort : UInt16) (payload : Bytes) (dst : Ip4Addr)
  deriving DecidableEq, Repr

/-- What `dns_check_entry` meets: the numbers drawn for a transaction, and whether
`pbuf_alloc` succeeds. -/
structure CheckOutcome where
  txids : List UInt16
  allocated : Bool
  deriving DecidableEq, Repr

/-- What `dns_alloc_random_port` meets: whether `udp_new` succeeds, the ports drawn and what
`udp_bind` answers for each. -/
structure PortOutcome where
  created : Bool
  draws : List (UInt16 × ErrT)
  deriving DecidableEq, Repr

/-- In memory that is zero, as at the start. -/
def dnsBoot (F : Type) : DnsClient F where
  dnsPcbs := fun _ => none
  dnsLastPcbIdx := 0
  dnsSeqno := 0
  dnsTable := fun _ => ⟨0, 0, 0, .unused, 0, 0, 0, 0, some 0, []⟩
  dnsRequests := fun _ => ⟨none, 0⟩
  dnsServers := fun _ => 0

section Program

variable {F : Type}

def DnsClient.setEntry (i : Fin dnsTableSize) (entry : DnsTableEntry) (s : DnsClient F) :
    DnsClient F :=
  { s with dnsTable := Function.update s.dnsTable i entry }

def DnsClient.setRequest (r : Fin dnsTableSize) (req : DnsReqEntry F) (s : DnsClient F) :
    DnsClient F :=
  { s with dnsRequests := Function.update s.dnsRequests r req }

/-- `dns_setserver`; NULL stands for `IP_ADDR_ANY`. -/
def dnsSetserver (numdns : UInt8) (dnsserver : Option Ip4Addr) (s : DnsClient F) : DnsClient F :=
  if numdns.toNat < dnsMaxServers then
    { s with dnsServers := Function.update s.dnsServers (Fin.ofNat _ numdns.toNat) (dnsserver.getD 0) }
  else s

/-- `dns_lookup`. -/
def dnsLookup (name : Bytes) (s : DnsClient F) : Option Ip4Addr :=
  ((List.finRange dnsTableSize).find? fun i =>
    (s.dnsTable i).state = .done ∧
      lwipStrnicmp name (s.dnsTable i).name dnsMaxNameLength = 0).map fun i =>
    (s.dnsTable i).ipaddr

/-- The packet that `dns_send` builds: one question, for an address of class IN. -/
def dnsQuery (txid : UInt16) (name : Bytes) : Bytes :=
  [(txid >>> 8).toUInt8, txid.toUInt8, 0x01, 0x00, 0, 1, 0, 0, 0, 0, 0, 0] ++ queryName name ++
    [0, 1, 0, 1]

/-- `dns_call_found`. -/
def dnsCallFound (idx : Fin dnsTableSize) (addr : Option Ip4Addr) (s : DnsClient F) :
    DnsClient F × List (DnsCall F) :=
  let entry := s.dnsTable idx
  let calls := (List.finRange dnsTableSize).filterMap fun i =>
    if (s.dnsRequests i).dnsTableIdx = idx then
      (s.dnsRequests i).found.map fun found => .found found entry.name addr
    else none
  let dnsRequests := fun i =>
    if (s.dnsRequests i).dnsTableIdx = idx then { s.dnsRequests i with found := none }
    else s.dnsRequests i
  -- the control block stays where another request uses it
  let dnsPcbs := match entry.pcbIdx with
    | some pcb =>
      if ∃ i, i ≠ idx ∧ (s.dnsTable i).state = .asking ∧ (s.dnsTable i).pcbIdx = some pcb then
        s.dnsPcbs
      else Function.update s.dnsPcbs pcb none
    | none => s.dnsPcbs
  ({ s with dnsRequests, dnsPcbs }.setEntry idx { entry with pcbIdx := none }, calls)

/-- `dns_call_found` with NULL, and the entry is flushed. -/
def dnsFail (i : Fin dnsTableSize) (s : DnsClient F) : DnsClient F × List (DnsCall F) :=
  let (s, calls) := dnsCallFound i none s
  (s.setEntry i { s.dnsTable i with state := .unused }, calls)

/-- `dns_send`; what it returns is only logged. -/
def dnsSend (allocated : Bool) (idx : Fin dnsTableSize) (s : DnsClient F) :
    Option (DnsClient F × List (DnsCall F)) :=
  let entry := s.dnsTable idx
  -- no server any more
  if s.dnsServers entry.serverIdx = 0 then some (dnsFail idx s)
  else if allocated then do
    let pcb ← entry.pcbIdx
    let localPort ← s.dnsPcbs pcb
    some (s, [.udpSendto localPort (dnsQuery entry.txid entry.name) (s.dnsServers entry.serverIdx)])
  else some (s, [])

/-- `dns_create_txid`. -/
def dnsCreateTxid (txids : List UInt16) (s : DnsClient F) : Option UInt16 :=
  txids.find? fun txid =>
    ¬∃ i, (s.dnsTable i).state = .asking ∧ (s.dnsTable i).txid = txid

/-- `dns_backupserver_available`, with the index of the server. -/
def dnsBackupserverAvailable (entry : DnsTableEntry) (s : DnsClient F) :
    Option (Fin dnsMaxServers) :=
  if h : entry.serverIdx.val + 1 < dnsMaxServers then
    if s.dnsServers ⟨entry.serverIdx.val + 1, h⟩ ≠ 0 then some ⟨entry.serverIdx.val + 1, h⟩ else none
  else none

/-- `dns_check_entry`. -/
def dnsCheckEntry (outcome : CheckOutcome) (i : Fin dnsTableSize) (s : DnsClient F) :
    Option (DnsClient F × List (DnsCall F)) :=
  let entry := s.dnsTable i
  match entry.state with
  | .new => do
    let txid ← dnsCreateTxid outcome.txids s
    dnsSend outcome.allocated i
      (s.setEntry i { entry with txid, state := .asking, serverIdx := 0, tmr := 1, retries := 0 })
  | .asking =>
    let entry : DnsTableEntry := { entry with tmr := entry.tmr - 1 }
    if entry.tmr = 0 then
      let entry : DnsTableEntry := { entry with retries := entry.retries + 1 }
      if entry.retries = dnsMaxRetries then
        match dnsBackupserverAvailable entry s with
        | some serverIdx =>
          dnsSend outcome.allocated i (s.setEntry i { entry with serverIdx, tmr := 1, retries := 0 })
        | none => some (dnsFail i (s.setEntry i entry))
      else
        -- wait longer for the next retry
        dnsSend outcome.allocated i (s.setEntry i { entry with tmr := entry.retries })
    else some (s.setEntry i entry, [])
  | .done =>
    let ttl := if entry.ttl = 0 then 0 else entry.ttl - 1
    if ttl = 0 then some (s.setEntry i { entry with ttl, state := .unused }, [])
    else some (s.setEntry i { entry with ttl }, [])
  | .unused => some (s, [])

/-- The loop of `dns_check_entries` over the given entries. -/
def dnsCheckEach (outcome : Fin dnsTableSize → CheckOutcome) :
    List (Fin dnsTableSize) → DnsClient F → Option (DnsClient F × List (DnsCall F))
  | [], s => some (s, [])
  | i :: rest, s => do
    let (s, calls) ← dnsCheckEntry (outcome i) i s
    let (s, more) ← dnsCheckEach outcome rest s
    some (s, calls ++ more)

/-- `dns_check_entries`, and `dns_tmr`. -/
def dnsCheckEntries (outcome : Fin dnsTableSize → CheckOutcome) (s : DnsClient F) :
    Option (DnsClient F × List (DnsCall F)) :=
  dnsCheckEach outcome (List.finRange dnsTableSize) s

/-- The time to live, at most `DNS_MAX_TTL`. -/
def cappedTtl (ttl : UInt32) : UInt32 := if ttl > dnsMaxTtl then dnsMaxTtl else ttl

/-- `dns_correct_response`. -/
def dnsCorrectResponse (idx : Fin dnsTableSize) (ttl : UInt32) (s : DnsClient F) :
    DnsClient F × List (DnsCall F) :=
  let ttl := cappedTtl ttl
  let (s, calls) := dnsCallFound idx (some (s.dnsTable idx).ipaddr)
    (s.setEntry idx { s.dnsTable idx with state := .done, ttl })
  -- an answer for the transaction in progress only
  if ttl = 0 then (s.setEntry idx { s.dnsTable idx with state := .unused }, calls) else (s, calls)

end Program

/-! ### Messages -/

/-- `pbuf_copy_partial` of an `u16_t`, and `lwip_htons`. -/
def getU16 (p : Bytes) (offset : Nat) : UInt16 :=
  (p.getD offset 0).toUInt16 <<< 8 ||| (p.getD (offset + 1) 0).toUInt16

/-- `pbuf_copy_partial` of an `u32_t`, and `lwip_ntohl`. -/
def getU32 (p : Bytes) (offset : Nat) : UInt32 :=
  (getU16 p offset).toUInt32 <<< 16 ||| (getU16 p (offset + 2)).toUInt32

/-- What the answers of a response come to. -/
inductive DnsAnswers where
  | ignorePacket
  | none
  | address (ip4addr : Ip4Addr) (ttl : UInt32)
  deriving DecidableEq, Repr

/-- The loop of `dns_recv` over the answers. -/
def dnsAnswers (p : Bytes) : Nat → Nat → DnsAnswers
  | 0, _ => .none
  | nanswers + 1, resIdx =>
    if resIdx < p.length then
      let resIdx := dnsSkipName p resIdx
      if resIdx = nameError then .ignorePacket
      else if p.length < resIdx + sizeofDnsAnswer then .ignorePacket
      else if resIdx + sizeofDnsAnswer > 0xFFFF then .ignorePacket
      else
        let type := getU16 p resIdx
        let cls := getU16 p (resIdx + 2)
        let ttl := getU32 p (resIdx + 4)
        let len := getU16 p (resIdx + 8)
        let resIdx := resIdx + sizeofDnsAnswer
        if cls = 1 ∧ type = 1 ∧ len = 4 then
          if p.length < resIdx + 4 then .ignorePacket
          else .address (lwipHtonl (getU32 p resIdx)) ttl
        else if resIdx + len.toNat > 0xFFFF then .ignorePacket
        else dnsAnswers p nanswers (resIdx + len.toNat)
    else .none

/-- The checks of `dns_recv` on a response for an entry: the offset behind the question, or
`none` where the packet is ignored. `behind` is the memory behind the NUL of the name. -/
def dnsQuestion (entry : DnsTableEntry) (server : Ip4Addr) (behind : Nat → UInt8) (p : Bytes)
    (addr : Ip4Addr) : Option Nat :=
  let flags1 := p.getD 2 0
  let nquestions := getU16 p 4
  if flags1 &&& 0x80 = 0 then none
  else if nquestions ≠ 1 then none
  else if addr ≠ server then none
  else
    let resIdx := dnsCompareName (fun i => (entry.name ++ [0]).getD i (behind i)) p sizeofDnsHdr
    if resIdx = nameError then none
    else if p.length < resIdx + sizeofDnsQuery then none
    else if getU16 p (resIdx + 2) ≠ 1 ∨ getU16 p resIdx ≠ 1 then none
    else if resIdx + sizeofDnsQuery > 0xFFFF then none
    else some (resIdx + sizeofDnsQuery)

section Program

variable {F : Type}

/-- `dns_recv`, which looks at neither the control block nor the port. -/
def dnsRecv (outcome : CheckOutcome) (behind : Nat → UInt8) (p : Bytes) (addr : Ip4Addr)
    (s : DnsClient F) : Option (DnsClient F × List (DnsCall F)) :=
  if p.length < sizeofDnsHdr + sizeofDnsQuery then some (s, [])
  else
    let txid := getU16 p 0
    match (List.finRange dnsTableSize).find? fun i =>
        (s.dnsTable i).state = .asking ∧ (s.dnsTable i).txid = txid with
    | none => some (s, [])
    | some i =>
      let entry := s.dnsTable i
      match dnsQuestion entry (s.dnsServers entry.serverIdx) behind p addr with
      | none => some (s, [])
      | some resIdx =>
        let flags2 := p.getD 3 0
        if flags2 &&& 0x0f ≠ 0 then
          if (dnsBackupserverAvailable entry s).isSome then
            -- do not retry the same server
            dnsCheckEntry outcome i
              (s.setEntry i { entry with retries := dnsMaxRetries - 1, tmr := 1 })
          else some (dnsFail i s)
        else
          match dnsAnswers p (getU16 p 6).toNat resIdx with
          | .ignorePacket => some (s, [])
          | .address ip4addr ttl =>
            some (dnsCorrectResponse i ttl (s.setEntry i { entry with ipaddr := ip4addr }))
          | .none => some (dnsFail i s)

/-! ### Requests -/

/-- `dns_alloc_random_port`, with `none` inside for NULL. -/
def dnsAllocRandomPort (outcome : PortOutcome) : Option (Option UInt16) :=
  if outcome.created then
    let tries := outcome.draws.map fun (port, bound) =>
      (port, if 1024 ≤ port then bound else errUse)
    (tries.find? fun (_, err) => err ≠ errUse).map fun (port, err) =>
      if err = errOk then some port else none
  else some none

/-- A port for the first free control block, if there is one. -/
def dnsFreshPcb (outcome : PortOutcome) (s : DnsClient F) :
    Option (Option (Fin dnsTableSize × UInt16)) :=
  match (List.finRange dnsTableSize).find? fun i => s.dnsPcbs i = none with
  | some i => (dnsAllocRandomPort outcome).map fun port => port.map fun port => (i, port)
  | none => some none

/-- `dns_alloc_pcb`, with `none` inside for `DNS_MAX_SOURCE_PORTS`. -/
def dnsAllocPcb (outcome : PortOutcome) (s : DnsClient F) :
    Option (DnsClient F × Option (Fin dnsTableSize)) :=
  (dnsFreshPcb outcome s).map fun fresh =>
    match fresh with
    | some (i, port) =>
      ({ s with dnsPcbs := Function.update s.dnsPcbs i (some port), dnsLastPcbIdx := i }, some i)
    | none =>
      -- one that is there already, other than the last if possible
      match ((List.finRange dnsTableSize).map fun i => s.dnsLastPcbIdx + 1 + i).find? fun idx =>
          s.dnsPcbs idx ≠ none with
      | some idx => ({ s with dnsLastPcbIdx := idx }, some idx)
      | none => (s, none)

/-- Whether the entry is the oldest completed one so far, by the distance of its number modulo
256; `best` holds `lseq` and `lseqi`. -/
def dnsOlder (s : DnsClient F) (best : UInt8 × Option (Fin dnsTableSize)) (i : Fin dnsTableSize) :
    UInt8 × Option (Fin dnsTableSize) :=
  let age := s.dnsSeqno - (s.dnsTable i).seqno
  if (s.dnsTable i).state = .done ∧ age > best.1 then (age, some i) else best

/-- An unused entry, or the oldest one. -/
def dnsUsableEntry (s : DnsClient F) : Option (Fin dnsTableSize) :=
  match (List.finRange dnsTableSize).find? fun i => (s.dnsTable i).state = .unused with
  | some i => some i
  | none => ((List.finRange dnsTableSize).foldl (dnsOlder s) (0, none)).2

def dnsFreeRequest (s : DnsClient F) : Option (Fin dnsTableSize) :=
  (List.finRange dnsTableSize).find? fun r => (s.dnsRequests r).found.isNone

def dnsDuplicate (name : Bytes) (s : DnsClient F) : Option (Fin dnsTableSize) :=
  (List.finRange dnsTableSize).find? fun i =>
    (s.dnsTable i).state = .asking ∧ lwipStrnicmp name (s.dnsTable i).name dnsMaxNameLength = 0

/-- The end of `dns_enqueue`, which fills the entry and the request. -/
def dnsFillEntry (ports : PortOutcome) (outcome : CheckOutcome) (name : Bytes) (found : F)
    (i r : Fin dnsTableSize) (s : DnsClient F) : Option (ErrT × DnsClient F × List (DnsCall F)) :=
  let entry := { s.dnsTable i with
    state := .new, seqno := s.dnsSeqno, name := name.take (dnsMaxNameLength - 1) }
  (dnsAllocPcb ports s).bind fun (s, pcbIdx) =>
    match pcbIdx with
    | none =>
      let s := s.setEntry i { entry with pcbIdx := none, state := .unused }
      some (errMem, s.setRequest r ⟨none, i⟩, [])
    | some pcb =>
      let s := s.setRequest r ⟨some found, i⟩
      let s := { s with dnsSeqno := s.dnsSeqno + 1 }
      (dnsCheckEntry outcome i (s.setEntry i { entry with pcbIdx := some pcb })).map
        fun (s, calls) => (errInprogress, s, calls)

/-- `dns_enqueue`. Without a free request, each of its ways ends with `ERR_MEM`. -/
def dnsEnqueue (ports : PortOutcome) (outcome : CheckOutcome) (name : Bytes) (found : F)
    (s : DnsClient F) : Option (ErrT × DnsClient F × List (DnsCall F)) :=
  match dnsFreeRequest s with
  | none => some (errMem, s, [])
  | some r =>
    match dnsDuplicate name s with
    | some i => some (errInprogress, s.setRequest r ⟨some found, i⟩, [])
    | none =>
      match dnsUsableEntry s with
      | some i => dnsFillEntry ports outcome name found i r s
      | none => some (errMem, s, [])

/-- `dns_gethostbyname`: what it returns, and the address it stores. -/
def dnsGethostbyname (ports : PortOutcome) (outcome : CheckOutcome) (hostname : Bytes) (found : F)
    (s : DnsClient F) : Option ((ErrT × Option Ip4Addr) × DnsClient F × List (DnsCall F)) :=
  if hostname = [] ∨ hostname.length ≥ dnsMaxNameLength then some ((errArg, none), s, [])
  else
    match ip4addrAton hostname with
    | some addr => some ((errOk, some addr), s, [])
    | none =>
      match dnsLookup hostname s with
      | some addr => some ((errOk, some addr), s, [])
      | none =>
        if s.dnsServers 0 = 0 then some ((errVal, none), s, [])
        else (dnsEnqueue ports outcome hostname found s).map fun (err, s, calls) =>
          ((err, none), s, calls)

end Program

/-- What happens to the resolver. -/
inductive DnsEvent (F : Type) where
  | gethostbyname (hostname : Bytes) (found : F) (ports : PortOutcome) (outcome : CheckOutcome)
  | recv (p : Bytes) (addr : Ip4Addr) (behind : Nat → UInt8) (outcome : CheckOutcome)
  | tmr (outcome : Fin dnsTableSize → CheckOutcome)
  | setserver (numdns : UInt8) (dnsserver : Option Ip4Addr)

def DnsEvent.isTmr {F : Type} : DnsEvent F → Bool
  | tmr _ => true
  | _ => false

section Program

variable {F : Type}

/-- The handling of one event: the state after it and the calls made. A host name is a string,
without NUL. -/
def dnsHandle (s : DnsClient F) : DnsEvent F → Option (DnsClient F × List (DnsCall F))
  | .gethostbyname hostname found ports outcome =>
    if 0 ∈ hostname then none
    else (dnsGethostbyname ports outcome hostname found s).map Prod.snd
  | .recv p addr behind outcome => dnsRecv outcome behind p addr s
  | .tmr outcome => dnsCheckEntries outcome s
  | .setserver numdns dnsserver => some (dnsSetserver numdns dnsserver s, [])

def dnsStep (s : DnsClient F) (e : DnsEvent F) : Option (DnsClient F) := (dnsHandle s e).map Prod.fst

def dnsCalls (s : DnsClient F) (e : DnsEvent F) : List (DnsCall F) :=
  ((dnsHandle s e).map Prod.snd).getD []

/-- What `dns_gethostbyname` returns. -/
def dnsReturned (s : DnsClient F) : DnsEvent F → Option (ErrT × Option Ip4Addr)
  | .gethostbyname hostname found ports outcome =>
    (dnsGethostbyname ports outcome hostname found s).map Prod.fst
  | _ => none

end Program

end EpaperClock
