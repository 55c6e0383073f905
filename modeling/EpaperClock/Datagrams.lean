import EpaperClock.Checksums

/-! UDP datagrams on their way down and up, `lwip/src/core/udp.c` and `ipv4/ip4.c`, with the
headers of `pbuf.c`. The bytes of a header are those that lie in memory. -/
namespace EpaperClock

abbrev udpHlen : Nat := 8
abbrev ipHlen : Nat := 20
abbrev ipProtoUdp : UInt8 := 17
abbrev ipaddrAny : Ip4Addr := 0
abbrev ipaddrBroadcast : Ip4Addr := 0xffffffff

/-! ### Headers of a chain -/

namespace PbufChain

/-- `pbuf_add_header`, when the first `pbuf` has room for it. -/
def addHeader (p : PbufChain) (header : Bytes) (fits : header.length + p.bytes.length < 0x10000) :
    PbufChain where
  first := ⟨p.first.address - header.length.toUInt32, header ++ p.first.data⟩
  next := p.next
  fits := by simpa [bytes, pbufs, Nat.add_assoc] using fits

theorem totLen_toNat (p : PbufChain) : p.totLen.toNat = p.bytes.length := by
  have fits : p.bytes.length < 0x10000 := p.fits
  rw [totLen, Nat.toUInt16_eq, UInt16.toNat_ofNat']
  exact Nat.mod_eq_of_lt fits

theorem fits_of_not_lt_size (p : PbufChain) (size : UInt16) (wraps : ¬size + p.totLen < size) :
    size.toNat + p.bytes.length < 0x10000 := by
  have small := size.toNat_lt
  have fits : p.bytes.length < 0x10000 := p.fits
  rw [UInt16.lt_iff_toNat_lt, UInt16.toNat_add, totLen_toNat] at wraps
  omega

theorem fits_of_not_lt (p : PbufChain) (size : UInt16) (wraps : ¬p.totLen + size < p.totLen) :
    size.toNat + p.bytes.length < 0x10000 := by
  have small := size.toNat_lt
  have fits : p.bytes.length < 0x10000 := p.fits
  rw [UInt16.lt_iff_toNat_lt, UInt16.toNat_add, totLen_toNat] at wraps
  omega

/-- A `pbuf` of its own in front, to which a chain with data is chained. -/
def chainHeader (p : PbufChain) (address : UInt32) (header : Bytes)
    (fits : header.length + p.bytes.length < 0x10000) : PbufChain where
  first := ⟨address, header⟩
  next := if p.totLen ≠ 0 then p.pbufs else []
  fits := by
    split
    · simpa [bytes] using fits
    · simp only [List.flatMap_cons, List.flatMap_nil, List.append_nil]
      omega

/-- `pbuf_remove_header`, with `none` for its result 1. -/
def removeHeader (p : PbufChain) (size : Nat) : Option PbufChain :=
  if size ≤ p.first.data.length then
    some {
      first := ⟨p.first.address + size.toUInt32, p.first.data.drop size⟩
      next := p.next
      fits := by
        have fits := p.fits
        simp only [List.flatMap_cons, List.length_append, List.length_drop] at *
        omega }
  else none

/-- The loop of `pbuf_realloc`, behind which the rest of the chain is freed. -/
def shrink (remLen : Nat) : List Payload → List Payload
  | q :: next =>
    if remLen > q.data.length then q :: shrink (remLen - q.data.length) next
    else [⟨q.address, q.data.take remLen⟩]
  | [] => []

theorem flatMap_shrink (pbufs : List Payload) : ∀ remLen,
    (shrink remLen pbufs).flatMap Payload.data = (pbufs.flatMap Payload.data).take remLen := by
  induction pbufs with
  | nil => simp [shrink]
  | cons q next ih =>
    intro remLen
    rw [shrink]
    split
    next more =>
      rw [List.flatMap_cons, ih, List.flatMap_cons, List.take_append, List.take_of_length_le more.le]
    next =>
      rw [List.flatMap_cons, List.flatMap_nil, List.append_nil, List.flatMap_cons,
        List.take_append_of_le_length (by omega)]

/-- `pbuf_realloc`. -/
def realloc (p : PbufChain) (newLen : UInt16) : PbufChain :=
  if newLen ≥ p.totLen then p
  else {
    first := if newLen.toNat > p.first.data.length then p.first
      else ⟨p.first.address, p.first.data.take newLen.toNat⟩
    next := if newLen.toNat > p.first.data.length then
        shrink (newLen.toNat - p.first.data.length) p.next
      else []
    fits := by
      have fits := p.fits
      simp only [List.flatMap_cons, List.length_append] at fits
      split
      · simp only [List.flatMap_cons, List.length_append, flatMap_shrink, List.length_take]
        omega
      · simp only [List.flatMap_cons, List.length_append, List.flatMap_nil, List.length_nil,
          List.length_take]
        omega }

end PbufChain

/-! ### Down -/

/-- `struct udp_hdr`, with the values its fields hold. -/
def udpHdr (src dest len chksum : UInt16) : Bytes :=
  halfWordBytes src ++ (halfWordBytes dest ++ (halfWordBytes len ++ halfWordBytes chksum))

/-- Where the header goes: what comes of `pbuf_add_header`, and else of `pbuf_alloc`. -/
inductive HeaderRoom where
  | inside
  | allocated (payload : UInt32)
  | exhausted
  deriving DecidableEq, Repr

/-- `udp_sendto_if_src` from a control block that is bound to `localPort` already and whose
datagrams have checksums (no `UDP_FLAGS_NOCHKSUM`): what it passes to `ip_output_if_src`. -/
def udpSendtoIfSrc (room : HeaderRoom) (localPort : UInt16) (p : PbufChain) (dstIp : Ip4Addr)
    (dstPort : UInt16) (srcIp : Ip4Addr) : Except ErrT PbufChain :=
  if wraps : p.totLen + 8 < p.totLen then .error errMem
  else
    let place (header : Bytes) (fits : header.length + p.bytes.length < 0x10000) :
        Except ErrT PbufChain :=
      match room with
      | .inside => .ok (p.addHeader header fits)
      | .allocated payload => .ok (p.chainHeader payload header fits)
      | .exhausted => .error errMem
    let len := lwipHtons (p.totLen + 8)
    let udphdr (chksum : UInt16) := udpHdr (lwipHtons localPort) (lwipHtons dstPort) len chksum
    have fits (chksum : UInt16) : (udphdr chksum).length + p.bytes.length < 0x10000 := by
      have := p.fits_of_not_lt 8 wraps
      simp only [udphdr, udpHdr, halfWordBytes, List.length_append, List.length_cons, List.length_nil]
      exact this
    do
      let q ← place (udphdr 0) (fits 0)
      let udpchksum := inetChksumPseudo q ipProtoUdp q.totLen srcIp dstIp
      let udpchksum := if udpchksum = 0 then 0xffff else udpchksum
      place (udphdr udpchksum) (fits udpchksum)

/-- `struct ip_hdr` without options, with the values its fields hold. -/
def ipHdr (vHl tos : UInt8) (len id offset : UInt16) (ttl proto : UInt8) (chksum : UInt16)
    (src dest : Ip4Addr) : Bytes :=
  [vHl, tos] ++ (halfWordBytes len ++ (halfWordBytes id ++ (halfWordBytes offset ++
    ([ttl, proto] ++ (halfWordBytes chksum ++ (addrBytes src ++ addrBytes dest))))))

/-- The checksum that `ip4_output_if_src` computes as it writes the header. -/
def ipChksumInline (vHl tos : UInt8) (len id : UInt16) (ttl proto : UInt8) (src dest : Ip4Addr) :
    UInt16 :=
  let chkSum : UInt32 := (lwipHtons (proto.toUInt16 ||| ttl.toUInt16 <<< 8)).toUInt32
  let chkSum := chkSum + (dest &&& 0xffff)
  let chkSum := chkSum + dest >>> 16
  let chkSum := chkSum + (lwipHtons (tos.toUInt16 ||| vHl.toUInt16 <<< 8)).toUInt32
  let chkSum := chkSum + len.toUInt32
  let chkSum := chkSum + id.toUInt32
  let chkSum := chkSum + (src &&& 0xffff)
  let chkSum := chkSum + src >>> 16
  let chkSum := (chkSum >>> 16) + (chkSum &&& 0xffff)
  let chkSum := (chkSum >>> 16) + chkSum
  (~~~chkSum).toUInt16

/-- `ip4_output_if_src` for a packet that fits the mtu of the interface, which `ethernetif_init`
sets to 1500: the packet that it passes to the interface. A longer one goes to `ip4_frag`, which
is left out. `room` is what comes of `pbuf_add_header`. -/
def ip4OutputIfSrc (room : Bool) (ipId : UInt16) (p : PbufChain) (src dest : Ip4Addr)
    (ttl tos proto : UInt8) : Except ErrT PbufChain :=
  if wraps : 20 + p.totLen < 20 then .error errBuf
  else if room then
    let len := lwipHtons (p.totLen + 20)
    let id := lwipHtons ipId
    let chksum := ipChksumInline 0x45 tos len id ttl proto src dest
    .ok (p.addHeader (ipHdr 0x45 tos len id 0 ttl proto chksum src dest)
      (p.fits_of_not_lt_size 20 wraps))
  else .error errBuf

/-! ### Up -/

/-- The half-word at an offset of the first `pbuf`. -/
def Payload.halfWordAt (q : Payload) (offset : Nat) : UInt16 :=
  halfWord (q.data.getD offset 0) (q.data.getD (offset + 1) 0)

/-- The address at an offset of the first `pbuf`. -/
def Payload.addrAt (q : Payload) (offset : Nat) : Ip4Addr :=
  (q.halfWordAt offset).toUInt32 ||| (q.halfWordAt (offset + 2)).toUInt32 <<< 16

/-- `struct netif`, as far as it decides about a packet. -/
structure Netif where
  ipAddr : Ip4Addr
  netmask : Ip4Addr
  -- `NETIF_FLAG_UP` and `NETIF_FLAG_BROADCAST`
  up : Bool
  broadcast : Bool
  num : UInt8
  deriving DecidableEq, Repr

/-- `ip4_addr_isbroadcast_u32`. -/
def ip4AddrIsbroadcast (addr : Ip4Addr) (netif : Netif) : Bool :=
  if ~~~addr = ipaddrAny ∨ addr = ipaddrAny then true
  else if netif.broadcast = false then false
  else if addr = netif.ipAddr then false
  else addr &&& netif.netmask = netif.ipAddr &&& netif.netmask ∧
    addr &&& ~~~netif.netmask = ipaddrBroadcast &&& ~~~netif.netmask

/-- `ip4_addr_ismulticast`. -/
def ip4AddrIsmulticast (addr : Ip4Addr) : Bool :=
  addr &&& lwipHtonl 0xf0000000 = lwipHtonl 0xe0000000

/-- `ip4_input_accept`. -/
def ip4InputAccept (dest : Ip4Addr) (netif : Netif) : Bool :=
  netif.up ∧ netif.ipAddr ≠ ipaddrAny ∧ (dest = netif.ipAddr ∨ ip4AddrIsbroadcast dest netif)

/-- What `ip4_input` does with a packet. -/
inductive Ip4Received where
  | dropped
  | ip4Reass (p : PbufChain)
  | upper (proto : UInt8) (src dest : Ip4Addr) (p : PbufChain)

/-- The checks of `ip4_input` on the header: the trimmed packet, and the length of its header. -/
def ip4CheckHeader (p : PbufChain) : Option (PbufChain × Nat) :=
  let vHl := p.first.data.getD 0 0
  if vHl >>> 4 ≠ 4 then none
  else
    let iphdrHlen := (vHl &&& 0x0f) * 4
    let iphdrLen := lwipHtons (p.first.halfWordAt 2)
    let p := if iphdrLen < p.totLen then p.realloc iphdrLen else p
    if iphdrHlen.toNat > p.first.data.length ∨ iphdrLen > p.totLen ∨ iphdrHlen.toNat < ipHlen then
      none
    else if inetChksum p.first.address (p.first.data.take iphdrHlen.toNat) ≠ 0 then none
    else some (p, iphdrHlen.toNat)

/-- The checks of `ip4_input` on the addresses. DHCP messages pass whatever their destination. -/
def ip4CheckAddresses (inp : Netif) (src dest : Ip4Addr) (dhcp : Bool) : Bool :=
  let accepted :=
    if ip4AddrIsmulticast dest then inp.up ∧ inp.ipAddr ≠ ipaddrAny else ip4InputAccept dest inp
  if accepted then src = ipaddrAny ∨ !(ip4AddrIsbroadcast src inp || ip4AddrIsmulticast src)
  else dhcp

/-- Whether a packet is for the port of the DHCP client. -/
def PbufChain.isDhcp (p : PbufChain) (iphdrHlen : Nat) : Bool :=
  p.first.data.getD 9 0 = ipProtoUdp ∧ p.first.halfWordAt (iphdrHlen + 2) = lwipHtons 68

/-- `ip4_input` on the only interface. -/
def ip4Input (inp : Netif) (p : PbufChain) : Ip4Received :=
  match ip4CheckHeader p with
  | none => .dropped
  | some (p, iphdrHlen) =>
    let proto := p.first.data.getD 9 0
    let src := p.first.addrAt 12
    let dest := p.first.addrAt 16
    if !ip4CheckAddresses inp src dest (p.isDhcp iphdrHlen) then .dropped
    else if p.first.halfWordAt 6 &&& lwipHtons 0x3fff ≠ 0 then .ip4Reass p
    else .upper proto src dest ((p.removeHeader iphdrHlen).getD p)

section Program

variable {F : Type}

/-- `struct udp_pcb`. `F` stands for a callback and its argument. -/
structure UdpPcb (F : Type) where
  localIp : Ip4Addr
  remoteIp : Ip4Addr
  netifIdx : UInt8
  -- `UDP_FLAGS_CONNECTED`
  connected : Bool
  localPort : UInt16
  remotePort : UInt16
  recv : Option F
  deriving DecidableEq, Repr

/-- `udp_input_local_match`. -/
def udpInputLocalMatch (pcb : UdpPcb F) (inp : Netif) (broadcast : Bool) (dest : Ip4Addr) : Bool :=
  if pcb.netifIdx ≠ 0 ∧ pcb.netifIdx ≠ inp.num + 1 then false
  else if broadcast then
    pcb.localIp = ipaddrAny ∨ dest = ipaddrBroadcast ∨
      pcb.localIp &&& inp.netmask = dest &&& inp.netmask
  else pcb.localIp = ipaddrAny ∨ pcb.localIp = dest

/-- The addresses and ports of a datagram. -/
structure UdpFlow where
  src : Ip4Addr
  dest : Ip4Addr
  srcPort : UInt16
  destPort : UInt16
  deriving DecidableEq, Repr

/-- The first unconnected control block that matches, unless a later one is bound to the
interface's address. -/
def udpUnconnected (inp : Netif) (broadcast : Bool) (dest : Ip4Addr) (unconPcb : Option (UdpPcb F))
    (pcb : UdpPcb F) : Option (UdpPcb F) :=
  match unconPcb with
  | none => some pcb
  | some uncon =>
    if broadcast ∧ dest = ipaddrBroadcast ∧ uncon.localIp ≠ inp.ipAddr ∧ pcb.localIp = inp.ipAddr then
      some pcb
    else some uncon

/-- The loop of `udp_input` over `udp_pcbs`, where `front` is behind it: the control block, and the
list with a full match at its front. -/
def udpPcbLoop (inp : Netif) (broadcast : Bool) (flow : UdpFlow) (unconPcb : Option (UdpPcb F))
    (front : List (UdpPcb F)) : List (UdpPcb F) → Option (UdpPcb F) × List (UdpPcb F)
  | pcb :: next =>
    if pcb.localPort = flow.destPort ∧ udpInputLocalMatch pcb inp broadcast flow.dest then
      let unconPcb :=
        if pcb.connected then unconPcb else udpUnconnected inp broadcast flow.dest unconPcb pcb
      if pcb.remotePort = flow.srcPort ∧ (pcb.remoteIp = ipaddrAny ∨ pcb.remoteIp = flow.src) then
        (some pcb, pcb :: (front ++ next))
      else udpPcbLoop inp broadcast flow unconPcb (front ++ [pcb]) next
    else udpPcbLoop inp broadcast flow unconPcb (front ++ [pcb]) next
  | [] => (unconPcb, front)

/-- What `udp_input` does with a datagram. -/
inductive UdpReceived (F : Type) where
  | freed
  | icmpPortUnreach
  | recv (callback : F) (p : PbufChain) (addr : Ip4Addr) (port : UInt16)

/-- `udp_input`. -/
def udpInput (inp : Netif) (pcbs : List (UdpPcb F)) (src dest : Ip4Addr) (p : PbufChain) :
    List (UdpPcb F) × UdpReceived F :=
  if p.first.data.length < udpHlen then (pcbs, .freed)
  else
    let broadcast := ip4AddrIsbroadcast dest inp
    let srcPort := lwipHtons (p.first.halfWordAt 0)
    let destPort := lwipHtons (p.first.halfWordAt 2)
    let (pcb, pcbs) := udpPcbLoop inp broadcast ⟨src, dest, srcPort, destPort⟩ none [] pcbs
    let forUs := pcb.isSome || inp.ipAddr = dest
    if !forUs then (pcbs, .freed)
    else if p.first.halfWordAt 6 ≠ 0 ∧ inetChksumPseudo p ipProtoUdp p.totLen src dest ≠ 0 then
      (pcbs, .freed)
    else
      match p.removeHeader udpHlen with
      | none => (pcbs, .freed)
      | some p =>
        match pcb with
        | some pcb =>
          match pcb.recv with
          | some callback => (pcbs, .recv callback p src srcPort)
          | none => (pcbs, .freed)
        | none =>
          if !broadcast && !ip4AddrIsmulticast dest then (pcbs, .icmpPortUnreach) else (pcbs, .freed)

/-- A packet on its way up to the callback of a UDP control block: what the callback gets. -/
def ip4UdpInput (inp : Netif) (pcbs : List (UdpPcb F)) (p : PbufChain) :
    Option (F × Bytes × Ip4Addr × UInt16) :=
  match ip4Input inp p with
  | .upper proto src dest p =>
    if proto = ipProtoUdp then
      match (udpInput inp pcbs src dest p).2 with
      | .recv callback p addr port => some (callback, p.bytes, addr, port)
      | _ => none
    else none
  | _ => none

end Program

end EpaperClock
