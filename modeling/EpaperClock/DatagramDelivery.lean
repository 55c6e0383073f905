import EpaperClock.Datagrams

/-! A datagram that is sent arrives, and one that changes on its way does not. -/
namespace EpaperClock

open OnesComplement

/-! ### The bytes of a chain -/

namespace PbufChain

variable (p : PbufChain)

theorem bytes_eq : p.bytes = p.first.data ++ p.next.flatMap Payload.data := List.flatMap_cons

theorem first_prefix : p.first.data <+: p.bytes := by
  rw [bytes_eq]
  exact List.prefix_append ..

theorem bytes_addHeader (header : Bytes) (fits : header.length + p.bytes.length < 0x10000) :
    (p.addHeader header fits).bytes = header ++ p.bytes := by
  rw [bytes_eq, bytes_eq, addHeader, List.append_assoc]

theorem bytes_chainHeader (address : UInt32) (header : Bytes)
    (fits : header.length + p.bytes.length < 0x10000) :
    (p.chainHeader address header fits).bytes = header ++ p.bytes := by
  rw [bytes_eq, chainHeader]
  dsimp only
  split
  next => rfl
  next empty =>
    -- a chain without data is not chained
    have none : p.bytes.length = 0 := by
      rw [← totLen_toNat, not_not.mp empty]
      rfl
    rw [List.eq_nil_of_length_eq_zero none, List.flatMap_nil]

theorem removeHeader_eq {size : Nat} (inside : size ≤ p.first.data.length) :
    ∃ q, p.removeHeader size = some q ∧ q.bytes = p.bytes.drop size ∧
      q.first.data = p.first.data.drop size := by
  refine ⟨_, if_pos inside, ?_, rfl⟩
  rw [bytes_eq, bytes_eq, List.drop_append_of_le_length inside]

theorem realloc_spec (newLen : UInt16) :
    (p.realloc newLen).bytes = p.bytes.take newLen.toNat ∧
      (p.realloc newLen).first.data = p.first.data.take newLen.toNat := by
  have whole := p.totLen_toNat
  have part := p.first_prefix.length_le
  rw [realloc]
  split
  next more =>
    rw [ge_iff_le, UInt16.le_iff_toNat_le, whole] at more
    rw [List.take_of_length_le more, List.take_of_length_le (by omega)]
    exact ⟨rfl, rfl⟩
  next =>
    rw [bytes_eq, bytes_eq p]
    dsimp only
    split
    next more =>
      rw [flatMap_shrink, List.take_append, List.take_of_length_le more.le]
      exact ⟨rfl, rfl⟩
    next =>
      rw [List.flatMap_nil, List.append_nil, List.take_append_of_le_length (by omega)]
      exact ⟨rfl, rfl⟩

end PbufChain

/-! ### Correct sums -/

theorem lwipHtons_lwipHtons (n : UInt16) : lwipHtons (lwipHtons n) = n := by
  have small := n.toNat_lt
  apply UInt16.toNat_inj.mp
  rw [lwipHtons_toNat, lwipHtons_toNat]
  omega

/-- What a field adds at an even place. -/
theorem ones_field (front back : Bytes) (even : front.length % 2 = 0) (n : UInt16) :
    ones (front ++ (halfWordBytes n ++ back)) =
      ones (front ++ (halfWordBytes 0 ++ back)) + (n.toNat : Ones) := by
  have place (x : Ones) : ((256 : ℕ) : Ones) ^ front.length * x = x := by
    rw [pow_parity byte_mul_byte, even, pow_zero, one_mul]
  rw [ones_append front, ones_append front, place, place, ones_halfWordBytes, ones_halfWordBytes,
    UInt16.toNat_zero, Nat.cast_zero, zero_add]
  ring

/-- A sum is correct when it is the other zero. -/
def Verifies (data : Bytes) : Prop := ones data = (65535 : ℕ)

theorem verifies_iff {data : Bytes} {chksum : UInt16}
    (sum : (((~~~chksum).toNat : ℕ) : Ones) = ones data) : Verifies data ↔ chksum = 0 := by
  rw [Verifies, ← sum]
  constructor
  · intro zero
    have all := eq_of_ones (x := ~~~chksum) (y := 0xffff) zero
    rw [← UInt16.not_inj, all]
    rfl
  · intro zero
    rw [zero]
    rfl

theorem verifies_inetChksum (dataptr : UInt32) {data : Bytes} (short : data.length ≤ 0x20000) :
    Verifies data ↔ inetChksum dataptr data = 0 := by
  apply verifies_iff
  rw [inetChksum, UInt16.not_not, lwipStandardChksum_spec dataptr short]

theorem not_toNat (n : UInt16) : (~~~n).toNat = 65535 - n.toNat := by
  rw [UInt16.toNat_not]
  rfl

/-- A field that holds the checksum of the rest, where 0 may be replaced. -/
theorem verifies_field {front back : Bytes} (even : front.length % 2 = 0) {chksum : UInt16}
    (sum : (((~~~chksum).toNat : ℕ) : Ones) = ones (front ++ (halfWordBytes 0 ++ back)))
    {stored : UInt16} (stores : stored = chksum ∨ chksum = 0 ∧ stored = 0xffff) :
    Verifies (front ++ (halfWordBytes stored ++ back)) := by
  have small := chksum.toNat_lt
  rw [Verifies, ones_field front back even, ← sum, not_toNat]
  rcases stores with same | ⟨zero, all⟩
  · rw [same, add_comm, add_complement (by omega)]
  · rw [zero, all, ← Nat.cast_add]
    exact cast_eq_iff.mpr ⟨by decide, by decide⟩

theorem verifies_set {data : Bytes} {i : Nat} {b : UInt8} (inside : i < data.length)
    (before : Verifies data) (after : Verifies (data.set i b)) : data[i] = b := by
  have place : data = data.take i ++ data[i] :: data.drop (i + 1) := by simp
  have changed : data.set i b = data.take i ++ b :: data.drop (i + 1) :=
    List.set_eq_take_append_cons_drop.trans (if_pos inside)
  rw [Verifies] at before after
  rw [← after, changed] at before
  conv at before => lhs; rw [place]
  simp only [ones, List.map_append, List.map_cons] at before
  exact UInt8.toNat_inj.mp (digit_unique byte_mul_byte (UInt8.toNat_lt _) (UInt8.toNat_lt _) before)

/-! ### What is sent -/

section Sent

variable {room : HeaderRoom} {localPort dstPort : UInt16} {srcIp dstIp : Ip4Addr}
  {p q packet : PbufChain}

theorem udpHdr_append (src dest len chksum : UInt16) (back : Bytes) :
    udpHdr src dest len chksum ++ back =
      (halfWordBytes src ++ (halfWordBytes dest ++ halfWordBytes len)) ++
        (halfWordBytes chksum ++ back) := by
  simp only [udpHdr, List.append_assoc]

/-- The checksum is computed over a header that holds 0, and stored with 0 replaced. -/
theorem verifies_udp {zeroed stored : PbufChain} {src dest len chksum : UInt16}
    (computed : zeroed.bytes = udpHdr src dest len 0 ++ p.bytes)
    (chksumEq : chksum = inetChksumPseudo zeroed ipProtoUdp zeroed.totLen srcIp dstIp)
    (filled : stored.bytes = udpHdr src dest len (if chksum = 0 then 0xffff else chksum) ++ p.bytes) :
    Verifies (pseudoHeader srcIp dstIp ipProtoUdp stored.totLen ++ stored.bytes) := by
  have sum := inetChksumPseudo_spec zeroed ipProtoUdp zeroed.totLen srcIp dstIp
  have same : stored.totLen = zeroed.totLen := by
    rw [PbufChain.totLen, PbufChain.totLen, filled, computed]
    rfl
  rw [← chksumEq, computed, udpHdr_append, ← List.append_assoc] at sum
  rw [same, filled, udpHdr_append, ← List.append_assoc]
  refine verifies_field (by simp [pseudoHeader, addrBytes, halfWordBytes]) sum ?_
  split
  next zero => exact .inr ⟨zero, rfl⟩
  next => exact .inl rfl

/-- What `udp_sendto_if_src` passes on: the payload behind a header whose checksum is correct and
not 0. -/
theorem udpSendtoIfSrc_ok (sent : udpSendtoIfSrc room localPort p dstIp dstPort srcIp = .ok q) :
    ∃ chksum, chksum ≠ 0 ∧
      q.bytes = udpHdr (lwipHtons localPort) (lwipHtons dstPort) (lwipHtons (p.totLen + 8)) chksum ++
        p.bytes ∧
      Verifies (pseudoHeader srcIp dstIp ipProtoUdp q.totLen ++ q.bytes) := by
  have nonzero (chksum : UInt16) : (if chksum = 0 then 0xffff else chksum) ≠ 0 := by
    split
    next => decide
    next other => exact other
  unfold udpSendtoIfSrc at sent
  split at sent
  next => cases sent
  next wraps =>
    cases room with
    | inside =>
      cases sent
      exact ⟨_, nonzero _, p.bytes_addHeader .., verifies_udp (p.bytes_addHeader ..) rfl
        (p.bytes_addHeader ..)⟩
    | allocated payload =>
      cases sent
      exact ⟨_, nonzero _, p.bytes_chainHeader .., verifies_udp (p.bytes_chainHeader ..) rfl
        (p.bytes_chainHeader ..)⟩
    | exhausted => cases sent

theorem octets_toNat (low high : UInt8) :
    (lwipHtons (low.toUInt16 ||| high.toUInt16 <<< 8)).toNat = (halfWord high low).toNat := by
  have := low.toNat_lt
  have := high.toNat_lt
  rw [← halfWord, lwipHtons_toNat, halfWord_toNat, halfWord_toNat]
  omega

theorem ones_ipHdr (vHl tos : UInt8) (len id : UInt16) (ttl proto : UInt8) (src dest : Ip4Addr) :
    ones (ipHdr vHl tos len id 0 ttl proto 0 src dest) =
      (((halfWord ttl proto).toNat + (dest &&& 0xffff).toNat + (dest >>> 16).toNat +
        (halfWord vHl tos).toNat + len.toNat + id.toNat + (src &&& 0xffff).toNat +
        (src >>> 16).toNat : ℕ) : Ones) := by
  have high (addr : Ip4Addr) : (addr >>> 16 &&& 0xffff).toNat = (addr >>> 16).toNat := by
    have small := addr.toNat_lt
    rw [toNat_and_ffff, UInt32.toNat_shiftRight, show UInt32.toNat 16 % 32 = 16 from rfl,
      Nat.shiftRight_eq_div_pow]
    omega
  have last := ones_addrBytes dest []
  rw [List.append_nil, ones_nil, add_zero] at last
  rw [ipHdr, List.cons_append, List.cons_append, List.nil_append, ones_cons_cons, ones_halfWordBytes,
    ones_halfWordBytes, ones_halfWordBytes, List.cons_append, List.cons_append, List.nil_append,
    ones_cons_cons, ones_halfWordBytes, ones_addrBytes, last, high, high, UInt16.toNat_zero]
  push_cast
  ring

/-- The second fold keeps the high half, and the narrowing drops it. -/
theorem cast_foldU32t_narrow {chkSum : UInt32} {total : ℕ} (sum : chkSum.toNat = total)
    (small : total < 0x100000) :
    (((~~~(~~~((foldU32t chkSum >>> 16) + foldU32t chkSum)).toUInt16).toNat : ℕ) : Ones) = total := by
  have folded := foldU32t_toNat chkSum
  have narrow : ((foldU32t chkSum >>> 16) + foldU32t chkSum).toUInt16.toNat =
      (foldU32t chkSum).toNat / 65536 + (foldU32t chkSum).toNat % 65536 := by
    rw [UInt32.toNat_toUInt16, UInt32.toNat_add, UInt32.toNat_shiftRight,
      show UInt32.toNat 16 % 32 = 16 from rfl, Nat.shiftRight_eq_div_pow]
    omega
  rw [UInt32.toUInt16_not, UInt16.not_not, narrow, ← sum, ← cast_foldU32t chkSum]
  exact fold _

theorem ipChksumInline_spec (vHl tos : UInt8) (len id : UInt16) (ttl proto : UInt8)
    (src dest : Ip4Addr) :
    (((~~~ipChksumInline vHl tos len id ttl proto src dest).toNat : ℕ) : Ones) =
      ones (ipHdr vHl tos len id 0 ttl proto 0 src dest) := by
  have high (addr : Ip4Addr) : (addr >>> 16).toNat < 65536 := by
    have small := addr.toNat_lt
    rw [UInt32.toNat_shiftRight, show UInt32.toNat 16 % 32 = 16 from rfl, Nat.shiftRight_eq_div_pow]
    omega
  have srcLow := toNat_and_ffff src
  have destLow := toNat_and_ffff dest
  have srcHigh := high src
  have destHigh := high dest
  have first := (halfWord ttl proto).toNat_lt
  have second := (halfWord vHl tos).toNat_lt
  have third := len.toNat_lt
  have fourth := id.toNat_lt
  rw [ones_ipHdr, ipChksumInline]
  refine cast_foldU32t_narrow ?_ (by omega)
  simp only [UInt32.toNat_add, UInt16.toNat_toUInt32, octets_toNat]
  omega

/-- The checksum that is computed along the way is the one of the finished header. -/
theorem ipChksumInline_eq (vHl tos : UInt8) (len id : UInt16) (ttl proto : UInt8)
    (src dest : Ip4Addr) (dataptr : UInt32) :
    ipChksumInline vHl tos len id ttl proto src dest =
      inetChksum dataptr (ipHdr vHl tos len id 0 ttl proto 0 src dest) := by
  have short : (ipHdr vHl tos len id 0 ttl proto 0 src dest).length ≤ 0x20000 := by
    simp [ipHdr, halfWordBytes, addrBytes]
  rw [← UInt16.not_inj, inetChksum, UInt16.not_not]
  apply eq_of_ones
  rw [ipChksumInline_spec, lwipStandardChksum_spec dataptr short]

theorem ipHdr_eq (vHl tos : UInt8) (len id offset : UInt16) (ttl proto : UInt8) (chksum : UInt16)
    (src dest : Ip4Addr) :
    ipHdr vHl tos len id offset ttl proto chksum src dest =
      ([vHl, tos] ++ (halfWordBytes len ++ (halfWordBytes id ++ (halfWordBytes offset ++
        [ttl, proto])))) ++ (halfWordBytes chksum ++ (addrBytes src ++ addrBytes dest)) := by
  simp only [ipHdr, List.append_assoc]

/-- What `ip4_output_if_src` passes on: the datagram behind a header with a correct checksum. -/
theorem ip4OutputIfSrc_ok {inFront : Bool} {ipId : UInt16} {ttl tos proto : UInt8}
    (sent : ip4OutputIfSrc inFront ipId q srcIp dstIp ttl tos proto = .ok packet) :
    ∃ chksum, packet.bytes = ipHdr 0x45 tos (lwipHtons packet.totLen) (lwipHtons ipId) 0 ttl proto
        chksum srcIp dstIp ++ q.bytes ∧
      Verifies (ipHdr 0x45 tos (lwipHtons packet.totLen) (lwipHtons ipId) 0 ttl proto chksum srcIp
        dstIp) := by
  unfold ip4OutputIfSrc at sent
  split at sent
  next => cases sent
  next wraps =>
    cases inFront with
    | false => cases sent
    | true =>
      have bytes : packet.bytes = ipHdr 0x45 tos (lwipHtons (q.totLen + 20)) (lwipHtons ipId) 0 ttl
          proto (ipChksumInline 0x45 tos (lwipHtons (q.totLen + 20)) (lwipHtons ipId) ttl proto srcIp
            dstIp) srcIp dstIp ++ q.bytes := by
        rw [← Except.ok.inj sent]
        exact q.bytes_addHeader ..
      have total : packet.totLen = q.totLen + 20 := by
        have fits : 20 + q.bytes.length < 0x10000 := q.fits_of_not_lt_size 20 wraps
        apply UInt16.toNat_inj.mp
        rw [PbufChain.totLen_toNat, bytes, UInt16.toNat_add, PbufChain.totLen_toNat,
          List.length_append]
        simp only [ipHdr, halfWordBytes, addrBytes, List.length_append, List.length_cons,
          List.length_nil, UInt16.reduceToNat]
        omega
      rw [total]
      refine ⟨_, bytes, ?_⟩
      have sum := ipChksumInline_spec 0x45 tos (lwipHtons (q.totLen + 20)) (lwipHtons ipId) ttl
        proto srcIp dstIp
      rw [ipHdr_eq] at sum ⊢
      exact verifies_field (by simp [halfWordBytes]) sum (.inl rfl)

end Sent

/-! ### What is received -/

theorem ite_realloc (p : PbufChain) (len : UInt16) :
    (if len < p.totLen then p.realloc len else p) = p.realloc len := by
  split
  next => rfl
  next more => rw [PbufChain.realloc, if_pos (UInt16.not_lt.mp more)]

theorem ip4CheckHeader_eq_some_iff {f g : PbufChain} {hlen : Nat} :
    ip4CheckHeader f = some (g, hlen) ↔
      f.first.data.getD 0 0 >>> 4 = 4 ∧ hlen = ((f.first.data.getD 0 0 &&& 0x0f) * 4).toNat ∧
        g = f.realloc (lwipHtons (f.first.halfWordAt 2)) ∧ hlen ≤ g.first.data.length ∧
        lwipHtons (f.first.halfWordAt 2) ≤ g.totLen ∧ ipHlen ≤ hlen ∧
        Verifies (g.first.data.take hlen) := by
  rw [ip4CheckHeader]
  simp only [ite_realloc]
  split
  next other => exact iff_of_false nofun fun facts => other facts.1
  next version =>
    split
    next bad =>
      refine iff_of_false nofun ?_
      rintro ⟨-, hlenEq, chain, inside, whole, long, -⟩
      rw [← chain, ← hlenEq] at bad
      rcases bad with beyond | beyond | short
      · exact absurd inside (Nat.not_le.mpr beyond)
      · exact absurd whole (UInt16.not_le.mpr beyond)
      · exact absurd long (Nat.not_le.mpr short)
    next good =>
      simp only [not_or, Nat.not_lt, gt_iff_lt, UInt16.not_lt] at good
      have short : ((f.realloc (lwipHtons (f.first.halfWordAt 2))).first.data.take
          ((f.first.data.getD 0 0 &&& 15) * 4).toNat).length ≤ 0x20000 := by
        rw [List.length_take]
        have := ((f.first.data.getD 0 0 &&& 15) * 4).toNat_lt
        omega
      have sum := verifies_inetChksum (f.realloc (lwipHtons (f.first.halfWordAt 2))).first.address short
      split
      next wrong =>
        refine iff_of_false nofun ?_
        rintro ⟨-, hlenEq, chain, -, -, -, right⟩
        rw [chain, hlenEq] at right
        exact wrong (sum.mp right)
      next right =>
        rw [Option.some_inj, Prod.mk.injEq]
        constructor
        · intro found
          cases found.1
          cases found.2
          exact ⟨not_not.mp version, rfl, rfl, good.1, good.2.1, good.2.2, sum.mpr (not_not.mp right)⟩
        · rintro ⟨-, hlenEq, chain, -⟩
          exact ⟨chain.symm, hlenEq.symm⟩

section Program

variable {F : Type}

/-- When `udp_input` calls a callback, and with what. -/
theorem udpInput_eq_recv_iff {inp : Netif} {pcbs : List (UdpPcb F)} {src dest : Ip4Addr}
    {p r : PbufChain} {callback : F} {addr : Ip4Addr} {port : UInt16} :
    (udpInput inp pcbs src dest p).2 = .recv callback r addr port ↔
      udpHlen ≤ p.first.data.length ∧
        ((udpPcbLoop inp (ip4AddrIsbroadcast dest inp)
          ⟨src, dest, lwipHtons (p.first.halfWordAt 0), lwipHtons (p.first.halfWordAt 2)⟩
          none [] pcbs).1.bind UdpPcb.recv) = some callback ∧
        (p.first.halfWordAt 6 = 0 ∨ Verifies (pseudoHeader src dest ipProtoUdp p.totLen ++ p.bytes)) ∧
        p.removeHeader udpHlen = some r ∧ addr = src ∧ port = lwipHtons (p.first.halfWordAt 0) := by
  have sum := verifies_iff (inetChksumPseudo_spec p ipProtoUdp p.totLen src dest)
  rw [sum, udpInput]
  split
  next short =>
    refine iff_of_false nofun fun facts => ?_
    exact absurd facts.1 (Nat.not_le.mpr short)
  next long =>
    dsimp only
    generalize udpPcbLoop inp (ip4AddrIsbroadcast dest inp)
      ⟨src, dest, lwipHtons (p.first.halfWordAt 0), lwipHtons (p.first.halfWordAt 2)⟩ none [] pcbs =
        found
    obtain ⟨pcb, pcbs'⟩ := found
    have inside : udpHlen ≤ p.first.data.length := Nat.not_lt.mp long
    obtain ⟨rest, removed, -⟩ := p.removeHeader_eq inside
    rw [removed]
    cases pcb with
    | none =>
      refine iff_of_false ?_ fun facts => by cases facts.2.1
      split
      next => nofun
      next =>
        split
        next => nofun
        next =>
          dsimp only
          split <;> nofun
    | some pcb =>
      rw [if_neg (by simp)]
      split
      next wrong =>
        refine iff_of_false nofun fun facts => ?_
        rcases facts.2.2.1 with none | right
        · exact wrong.1 none
        · exact wrong.2 right
      next checked =>
        have fine : p.first.halfWordAt 6 = 0 ∨
            inetChksumPseudo p ipProtoUdp p.totLen src dest = 0 := by
          rw [not_and_or, not_not, not_not] at checked
          exact checked
        cases called : pcb.recv with
        | none =>
          simp only [called, Option.bind_some]
          exact iff_of_false nofun fun facts => by cases facts.2.1
        | some found =>
          simp only [called, Option.bind_some, Option.some_inj]
          constructor
          · intro same
            cases same
            exact ⟨inside, rfl, fine, rfl, rfl, rfl⟩
          · rintro ⟨-, callbackEq, -, restEq, addrEq, portEq⟩
            rw [callbackEq, restEq, addrEq, portEq]

/-- When a datagram reaches a callback. -/
theorem ip4UdpInput_eq_some_iff {inp : Netif} {pcbs : List (UdpPcb F)} {f : PbufChain}
    {callback : F} {bytes : Bytes} {addr : Ip4Addr} {port : UInt16} :
    ip4UdpInput inp pcbs f = some (callback, bytes, addr, port) ↔
      ∃ src dest p r, ip4Input inp f = .upper ipProtoUdp src dest p ∧
        (udpInput inp pcbs src dest p).2 = .recv callback r addr port ∧ bytes = r.bytes := by
  rw [ip4UdpInput]
  split
  next proto src dest p up =>
    rw [up]
    split
    next isUdp =>
      rw [isUdp]
      split
      next callback' r addr' port' recv =>
        rw [Option.some_inj]
        constructor
        · intro same
          cases same
          exact ⟨src, dest, p, r, rfl, recv, rfl⟩
        · rintro ⟨_, _, _, r', same, called, bytesEq⟩
          cases same
          rw [recv] at called
          cases called
          rw [bytesEq]
      next freed =>
        refine iff_of_false nofun ?_
        rintro ⟨_, _, _, r, same, called, -⟩
        cases same
        exact freed _ _ _ _ called
    next other =>
      refine iff_of_false nofun ?_
      rintro ⟨_, _, _, _, same, -⟩
      cases same
      exact other rfl
  next dropped =>
    refine iff_of_false nofun ?_
    rintro ⟨src, dest, p, _, up, -⟩
    exact dropped _ _ _ _ up

end Program

theorem ip4Input_eq_upper_iff {inp : Netif} {f p : PbufChain} {proto : UInt8} {src dest : Ip4Addr} :
    ip4Input inp f = .upper proto src dest p ↔
      ∃ g hlen, ip4CheckHeader f = some (g, hlen) ∧
        ip4CheckAddresses inp (g.first.addrAt 12) (g.first.addrAt 16) (g.isDhcp hlen) = true ∧
        g.first.halfWordAt 6 &&& lwipHtons 0x3fff = 0 ∧ proto = g.first.data.getD 9 0 ∧
        src = g.first.addrAt 12 ∧ dest = g.first.addrAt 16 ∧ p = (g.removeHeader hlen).getD g := by
  rw [ip4Input]
  cases header : ip4CheckHeader f with
  | none =>
    refine iff_of_false nofun ?_
    rintro ⟨_, _, found, -⟩
    cases found
  | some found =>
    obtain ⟨g, hlen⟩ := found
    dsimp only
    split
    next refused =>
      refine iff_of_false nofun ?_
      rintro ⟨_, _, found, accepted, -⟩
      cases found
      rw [accepted] at refused
      cases refused
    next accepted =>
      split
      next fragment =>
        refine iff_of_false nofun ?_
        rintro ⟨_, _, found, -, whole, -⟩
        cases found
        exact fragment whole
      next whole =>
        constructor
        · intro same
          cases same
          exact ⟨g, hlen, rfl, by simpa using accepted, not_not.mp whole, rfl, rfl, rfl, rfl⟩
        · rintro ⟨_, _, found, -, -, protoEq, srcEq, destEq, chain⟩
          cases found
          rw [protoEq, srcEq, destEq, chain]

/-! ### The fields of a header -/

section Fields

variable {q : Payload}

theorem addr_halves (addr : Ip4Addr) :
    addr.toUInt16.toUInt32 ||| (addr >>> 16).toUInt16.toUInt32 <<< 16 = addr := by
  have small := addr.toNat_lt
  have low : addr.toNat % 2 ^ 16 < 2 ^ 16 := Nat.mod_lt _ (by decide)
  have parts := Nat.shiftLeft_add_eq_or_of_lt low (addr.toNat / 2 ^ 16)
  rw [Nat.shiftLeft_eq] at parts
  apply UInt32.toNat_inj.mp
  simp only [UInt32.toNat_or, UInt16.toNat_toUInt32, UInt32.toNat_toUInt16, UInt32.toNat_shiftLeft,
    UInt32.toNat_shiftRight, UInt32.reduceToNat, Nat.reduceMod, Nat.shiftRight_eq_div_pow,
    Nat.shiftLeft_eq]
  have high : addr.toNat / 2 ^ 16 % 2 ^ 16 * 2 ^ 16 % 2 ^ 32 = addr.toNat / 2 ^ 16 * 2 ^ 16 := by
    omega
  rw [high, Nat.or_comm, ← parts]
  omega

theorem ipHdr_fields {vHl tos : UInt8} {len id offset : UInt16} {ttl proto : UInt8} {chksum : UInt16}
    {src dest : Ip4Addr} {back : Bytes}
    (data : q.data = ipHdr vHl tos len id offset ttl proto chksum src dest ++ back) :
    q.data.getD 0 0 = vHl ∧ q.halfWordAt 2 = len ∧ q.halfWordAt 6 = offset ∧
      q.data.getD 9 0 = proto ∧ q.addrAt 12 = src ∧ q.addrAt 16 = dest := by
  simp only [ipHdr, addrBytes_eq, halfWordBytes, List.cons_append, List.nil_append] at data
  simp only [Payload.addrAt, Payload.halfWordAt, data, List.getD_cons_succ, List.getD_cons_zero,
    halfWord_halfWordBytes, addr_halves, Nat.reduceAdd, and_self]

theorem udpHdr_fields {src dest len chksum : UInt16} {back : Bytes}
    (data : q.data = udpHdr src dest len chksum ++ back) :
    q.halfWordAt 0 = src ∧ q.halfWordAt 2 = dest ∧ q.halfWordAt 6 = chksum := by
  simp only [udpHdr, halfWordBytes, List.cons_append, List.nil_append] at data
  simp only [Payload.halfWordAt, data, List.getD_cons_succ, List.getD_cons_zero,
    halfWord_halfWordBytes, Nat.reduceAdd, and_self]

theorem length_ipHdr (vHl tos : UInt8) (len id offset : UInt16) (ttl proto : UInt8)
    (chksum : UInt16) (src dest : Ip4Addr) :
    (ipHdr vHl tos len id offset ttl proto chksum src dest).length = ipHlen := rfl

theorem length_udpHdr (src dest len chksum : UInt16) :
    (udpHdr src dest len chksum).length = udpHlen := rfl

/-- A prefix that goes beyond the front. -/
theorem prefix_append_split {l front back : Bytes} (whole : l <+: front ++ back)
    (long : front.length ≤ l.length) : ∃ l', l = front ++ l' ∧ l' <+: back := by
  obtain ⟨l', rfl⟩ := List.prefix_of_prefix_length_le (List.prefix_append front back) whole long
  exact ⟨l', rfl, (List.prefix_append_right_inj front).mp whole⟩

end Fields

/-! ### Delivery -/

section Program

variable {F : Type}

/-- A control block that alone is bound to the port of a datagram, and takes it from its sender. -/
structure UdpPcb.Takes (pcbs : List (UdpPcb F)) (pcb : UdpPcb F) (flow : UdpFlow) : Prop where
  listed : pcb ∈ pcbs
  alone : ∀ other ∈ pcbs, other.localPort = flow.destPort → other = pcb
  port : pcb.localPort = flow.destPort
  netif : pcb.netifIdx = 0
  address : pcb.localIp = ipaddrAny ∨ pcb.localIp = flow.dest
  sender : pcb.connected = false ∨
    pcb.remotePort = flow.srcPort ∧ (pcb.remoteIp = ipaddrAny ∨ pcb.remoteIp = flow.src)

theorem udpPcbLoop_alone {inp : Netif} {broadcast : Bool} {flow : UdpFlow} {pcb : UdpPcb F}
    (port : pcb.localPort = flow.destPort)
    (here : udpInputLocalMatch pcb inp broadcast flow.dest = true)
    (sender : pcb.connected = false ∨
      pcb.remotePort = flow.srcPort ∧ (pcb.remoteIp = ipaddrAny ∨ pcb.remoteIp = flow.src))
    (next : List (UdpPcb F)) :
    (∀ other ∈ next, other.localPort = flow.destPort → other = pcb) →
      ∀ uncon front, uncon = some pcb ∨ uncon = none ∧ pcb ∈ next →
        (udpPcbLoop inp broadcast flow uncon front next).1 = some pcb := by
  induction next with
  | nil =>
    intro _ uncon front seen
    rcases seen with seen | ⟨-, impossible⟩
    · exact seen
    · cases impossible
  | cons other next ih =>
    intro alone uncon front seen
    have later := ih fun pcb member => alone pcb (List.mem_cons_of_mem other member)
    rw [udpPcbLoop]
    split
    next alike =>
      -- only the one control block matches
      have same := alone other List.mem_cons_self alike.1
      rw [same]
      by_cases full : pcb.remotePort = flow.srcPort ∧
          (pcb.remoteIp = ipaddrAny ∨ pcb.remoteIp = flow.src)
      · rw [if_pos full]
      · rw [if_neg full]
        have unconnected := sender.resolve_right full
        rw [if_neg (by simp [unconnected])]
        apply later
        left
        rcases seen with seen | ⟨seen, -⟩
        · rw [seen, udpUnconnected]
          split <;> rfl
        · rw [seen, udpUnconnected]
    next differs =>
      apply later
      rcases seen with seen | ⟨none, member⟩
      · exact .inl seen
      · refine .inr ⟨none, (List.mem_cons.mp member).resolve_left ?_⟩
        intro same
        rw [← same] at differs
        exact differs ⟨port, here⟩

theorem UdpPcb.Takes.found {pcbs : List (UdpPcb F)} {pcb : UdpPcb F} {flow : UdpFlow}
    (takes : pcb.Takes pcbs flow) (inp : Netif) (broadcast : Bool) :
    (udpPcbLoop inp broadcast flow none [] pcbs).1 = some pcb := by
  have here : udpInputLocalMatch pcb inp broadcast flow.dest = true := by
    rw [udpInputLocalMatch, if_neg (by simp [takes.netif])]
    rcases takes.address with any | same
    · simp [any]
    · simp [same]
  exact udpPcbLoop_alone takes.port here takes.sender pcbs takes.alone none []
    (.inr ⟨rfl, takes.listed⟩)

/-- A packet behind an intact header passes the checks and loses what the interface padded. -/
theorem ip4CheckHeader_ipHdr {f : PbufChain} {tos : UInt8} {len id : UInt16} {ttl proto : UInt8}
    {chksum : UInt16} {src dest : Ip4Addr} {body padding : Bytes}
    (whole : f.bytes = ipHdr 0x45 tos (lwipHtons len) id 0 ttl proto chksum src dest ++
      (body ++ padding))
    (total : len.toNat = ipHlen + body.length) (inFirst : ipHlen ≤ f.first.data.length)
    (right : Verifies (ipHdr 0x45 tos (lwipHtons len) id 0 ttl proto chksum src dest)) :
    ∃ g l, ip4CheckHeader f = some (g, ipHlen) ∧
      g.bytes = ipHdr 0x45 tos (lwipHtons len) id 0 ttl proto chksum src dest ++ body ∧
      g.first.data = ipHdr 0x45 tos (lwipHtons len) id 0 ttl proto chksum src dest ++ l ∧
      l <+: body ∧ min f.first.data.length len.toNat = ipHlen + l.length := by
  generalize hdrEq : ipHdr 0x45 tos (lwipHtons len) id 0 ttl proto chksum src dest = hdr at *
  have hdrLength : hdr.length = ipHlen := by rw [← hdrEq, length_ipHdr]
  obtain ⟨l, first, front⟩ := prefix_append_split (whole ▸ f.first_prefix) (hdrLength ▸ inFirst)
  obtain ⟨version, lenField, -⟩ := ipHdr_fields (hdrEq.symm ▸ first)
  obtain ⟨bytes, data⟩ := f.realloc_spec len
  rw [whole, total, ← hdrLength, List.take_length_add_append, List.take_append_of_le_length le_rfl,
    List.take_length] at bytes
  rw [first, total, ← hdrLength, List.take_length_add_append] at data
  have shorter : l.take body.length <+: body := by
    have := front.take body.length
    rwa [List.take_append_of_le_length le_rfl, List.take_length] at this
  refine ⟨f.realloc len, l.take body.length, ?_, bytes, data, shorter, ?_⟩
  · rw [ip4CheckHeader_eq_some_iff, version, lenField, lwipHtons_lwipHtons]
    have kept : ipHlen ≤ (f.realloc len).first.data.length := by
      rw [data, List.length_append, hdrLength]
      exact Nat.le_add_right ..
    refine ⟨by decide, by decide, rfl, kept, ?_, le_rfl, ?_⟩
    · rw [UInt16.le_iff_toNat_le, PbufChain.totLen_toNat, bytes, total, List.length_append, hdrLength]
    · rw [data, ← hdrLength, List.take_append_of_le_length le_rfl, List.take_length]
      exact right
  · rw [first, total, List.length_append, hdrLength, List.length_take]
    omega

variable {room : HeaderRoom} {inFront : Bool} {localPort dstPort ipId : UInt16}
  {srcIp dstIp : Ip4Addr} {ttl tos : UInt8} {p q packet f : PbufChain} {padding : Bytes}
  {inp : Netif} {pcbs : List (UdpPcb F)} {pcb : UdpPcb F} {callback : F}

/-- A datagram that is sent reaches the callback of its port as it was sent, whatever the chain it
is received in and whatever the interface pads it with. -/
theorem datagram_delivered
    (sent : udpSendtoIfSrc room localPort p dstIp dstPort srcIp = .ok q)
    (output : ip4OutputIfSrc inFront ipId q srcIp dstIp ttl tos ipProtoUdp = .ok packet)
    (received : f.bytes = packet.bytes ++ padding)
    (headers : ipHlen + udpHlen ≤ f.first.data.length)
    (accepted : ∀ dhcp, ip4CheckAddresses inp srcIp dstIp dhcp = true)
    (takes : pcb.Takes pcbs ⟨srcIp, dstIp, localPort, dstPort⟩) (called : pcb.recv = some callback) :
    ip4UdpInput inp pcbs f = some (callback, p.bytes, srcIp, localPort) := by
  obtain ⟨udpChksum, nonzero, udp, udpRight⟩ := udpSendtoIfSrc_ok sent
  obtain ⟨ipChksum, ip, ipRight⟩ := ip4OutputIfSrc_ok output
  have total : packet.totLen.toNat = ipHlen + q.bytes.length := by
    rw [PbufChain.totLen_toNat, ip, List.length_append, length_ipHdr]
  have whole := received
  rw [ip, List.append_assoc] at whole
  obtain ⟨g, l, header, bytes, first, front, length⟩ :=
    ip4CheckHeader_ipHdr whole total (by omega) ipRight
  obtain ⟨-, -, offset, proto, src, dest⟩ := ipHdr_fields first
  -- the datagram behind the header
  have inside : ipHlen ≤ g.first.data.length := by
    rw [first, List.length_append, length_ipHdr]
    exact Nat.le_add_right ..
  obtain ⟨r, removed, rBytes, rFirst⟩ := g.removeHeader_eq inside
  rw [bytes, ← length_ipHdr, List.drop_left] at rBytes
  rw [first, ← length_ipHdr, List.drop_left] at rFirst
  have body : udpHlen ≤ l.length := by
    have : q.bytes.length = udpHlen + p.bytes.length := by
      rw [udp, List.length_append, length_udpHdr]
    omega
  obtain ⟨back, parted, -⟩ := prefix_append_split (udp ▸ front) (length_udpHdr .. ▸ body)
  obtain ⟨srcPort, destPort, -⟩ := udpHdr_fields (rFirst.trans parted)
  obtain ⟨payload, payloadRemoved, payloadBytes, -⟩ := r.removeHeader_eq (rFirst ▸ body)
  rw [ip4UdpInput_eq_some_iff]
  refine ⟨srcIp, dstIp, r, payload, ?_, ?_, ?_⟩
  · rw [ip4Input_eq_upper_iff]
    refine ⟨g, ipHlen, header, ?_, ?_, proto.symm, src.symm, dest.symm, ?_⟩
    · rw [src, dest]
      exact accepted _
    · rw [offset]
      rfl
    · rw [removed]
      rfl
  · rw [udpInput_eq_recv_iff]
    refine ⟨rFirst ▸ body, ?_, .inr ?_, payloadRemoved, rfl, ?_⟩
    · rw [srcPort, destPort, lwipHtons_lwipHtons, lwipHtons_lwipHtons, takes.found inp,
        Option.bind_some, called]
    · rw [PbufChain.totLen, rBytes]
      exact udpRight
    · rw [srcPort, lwipHtons_lwipHtons]
  · rw [payloadBytes, rBytes, udp, ← length_udpHdr, List.drop_left]

/-- Three bytes to port 4000, in a frame of the least length. -/
def sampleFrame (last : UInt8) : PbufChain where
  first := ⟨0x20000402, [0x45, 0, 0, 31, 0, 7, 0, 0, 64, 17, 0xf7, 0x6b, 192, 168, 1, 1, 192, 168, 1,
    10, 0, 53, 15, 160, 0, 11, 0x68, 0xa5]⟩
  next := [⟨0x20000601, 1 :: 2 :: last :: List.replicate 15 0⟩]
  fits := by simp

def sampleText : PbufChain := ⟨⟨0x20000031, [1]⟩, [⟨0x20000100, [2, 3]⟩], by decide⟩

def sampleNetif : Netif := ⟨0x0a01a8c0, 0x00ffffff, true, true, 0⟩

def samplePcb : UdpPcb Unit := ⟨0, 0, 0, false, 4000, 0, some ()⟩

theorem datagram_delivered_sample :
    ip4UdpInput sampleNetif [samplePcb] (sampleFrame 3) = some ((), [1, 2, 3], 0x0101a8c0, 53) :=
  datagram_delivered
    (show udpSendtoIfSrc .inside 53 sampleText 0x0a01a8c0 4000 0x0101a8c0 = .ok _ from rfl)
    (show ip4OutputIfSrc true 7 _ 0x0101a8c0 0x0a01a8c0 64 0 ipProtoUdp = .ok _ from rfl)
    (show _ = _ ++ List.replicate 15 0 by decide) (by decide)
    (fun dhcp => by cases dhcp <;> decide)
    ⟨by decide, fun _ member _ => List.mem_singleton.mp member, rfl, rfl, .inl rfl, .inl rfl⟩ rfl

/-- A packet in which one byte behind the first has changed reaches no callback, unless the change
takes the checksum of the datagram away. -/
theorem changed_datagram_dropped
    (sent : udpSendtoIfSrc room localPort p dstIp dstPort srcIp = .ok q)
    (output : ip4OutputIfSrc inFront ipId q srcIp dstIp ttl tos ipProtoUdp = .ok packet)
    {i : Nat} {b : UInt8} (inside : i < packet.bytes.length) (behind : i ≠ 0)
    (changed : packet.bytes[i] ≠ b) (received : f.bytes = packet.bytes.set i b ++ padding)
    (checked : (packet.bytes.set i b).getD 26 0 ≠ 0 ∨ (packet.bytes.set i b).getD 27 0 ≠ 0) :
    ip4UdpInput inp pcbs f = none := by
  rw [Option.eq_none_iff_forall_ne_some]
  rintro ⟨callback, payload, addr, port⟩ arrived
  obtain ⟨udpChksum, nonzero, udp, udpRight⟩ := udpSendtoIfSrc_ok sent
  obtain ⟨ipChksum, ip, ipRight⟩ := ip4OutputIfSrc_ok output
  rw [ip4UdpInput_eq_some_iff] at arrived
  obtain ⟨src, dest, r, rest, up, called, -⟩ := arrived
  rw [ip4Input_eq_upper_iff] at up
  obtain ⟨g, hlen, header, -, -, -, srcEq, destEq, rEq⟩ := up
  have checks := ip4CheckHeader_eq_some_iff.mp header
  obtain ⟨version, hlenEq, chain, kept, lenLe, long, verified⟩ := checks
  have trimmed := (f.realloc_spec (lwipHtons (f.first.halfWordAt 2))).2
  rw [← chain] at trimmed
  have inFirst : ipHlen ≤ f.first.data.length := by
    rw [trimmed, List.length_take] at kept
    omega
  have total : packet.totLen.toNat = ipHlen + q.bytes.length := by
    rw [PbufChain.totLen_toNat, ip, List.length_append, length_ipHdr]
  generalize hdrEq : ipHdr 0x45 tos (lwipHtons packet.totLen) (lwipHtons ipId) 0 ttl ipProtoUdp ipChksum
    srcIp dstIp = hdr at ip ipRight
  have hdrLength : hdr.length = ipHlen := by rw [← hdrEq, length_ipHdr]
  by_cases inHeader : i < hdr.length
  · -- the header does not verify
    rw [ip, List.set_append_left _ _ inHeader, List.append_assoc] at received
    have setLength : (hdr.set i b).length = ipHlen := by rw [List.length_set, hdrLength]
    obtain ⟨l, first, -⟩ :=
      prefix_append_split (received ▸ f.first_prefix) (setLength ▸ inFirst)
    have versionByte : f.first.data.getD 0 0 = 0x45 := by
      obtain ⟨j, rfl⟩ := Nat.exists_eq_succ_of_ne_zero behind
      rw [first, ← hdrEq]
      rfl
    have twenty : hlen = (hdr.set i b).length := by
      rw [hlenEq, versionByte, setLength]
      rfl
    have start : g.first.data.take hlen = hdr.set i b := by
      rw [trimmed, List.length_take] at kept
      rw [trimmed, List.take_take, Nat.min_eq_left (by omega), first, twenty, List.take_left]
    rw [start] at verified
    have same := verifies_set inHeader ipRight verified
    apply changed
    simp only [ip, List.getElem_append_left inHeader, same]
  · -- the datagram does not verify
    obtain ⟨j, iEq⟩ := Nat.exists_eq_add_of_le (not_lt.mp inHeader)
    have place : j < q.bytes.length := by
      rw [ip, List.length_append] at inside
      omega
    rw [ip, List.set_append_right _ _ (not_lt.mp inHeader), iEq, Nat.add_sub_cancel_left]
      at received checked
    rw [List.append_assoc, ← hdrEq] at received
    obtain ⟨g', l, intact, bytes, first, front, -⟩ := ip4CheckHeader_ipHdr received
      (by rw [total, List.length_set]) inFirst (hdrEq.symm ▸ ipRight)
    rw [header, Option.some_inj, Prod.mk.injEq] at intact
    rw [← intact.1] at bytes first
    obtain ⟨-, -, -, -, srcField, destField⟩ := ipHdr_fields first
    obtain ⟨r', removed, rBytes, rFirst⟩ := g.removeHeader_eq kept
    rw [removed, Option.getD_some] at rEq
    rw [intact.2, ← length_ipHdr, bytes, List.drop_left, ← rEq] at rBytes
    rw [intact.2, ← length_ipHdr, first, List.drop_left, ← rEq] at rFirst
    rw [udpInput_eq_recv_iff, rFirst] at called
    obtain ⟨body, -, right, -⟩ := called
    rcases right with none | right
    · -- a field that is 0 skips the check
      obtain ⟨back, split⟩ := front
      have byte (k : Nat) (short : k < udpHlen) :
          (hdr ++ q.bytes.set j b).getD (ipHlen + k) 0 = r.first.data.getD k 0 := by
        rw [← hdrLength, List.getD_append_right _ _ _ _ (Nat.le_add_right ..), Nat.add_sub_cancel_left,
          ← split, rFirst, List.getD_append _ _ _ _ (by omega)]
      have zero : (r.first.data.getD 6 0).toNat + 256 * (r.first.data.getD 7 0).toNat = 0 := by
        rw [← halfWord_toNat]
        exact congrArg UInt16.toNat none
      rcases checked with low | high
      · apply low
        rw [byte 6 (by decide), ← UInt8.toNat_inj, UInt8.toNat_zero]
        omega
      · apply high
        rw [byte 7 (by decide), ← UInt8.toNat_inj, UInt8.toNat_zero]
        omega
    · rw [srcEq, destEq, srcField, destField, PbufChain.totLen, rBytes, List.length_set] at right
      have pseudo : (pseudoHeader srcIp dstIp ipProtoUdp q.totLen).length = 12 := rfl
      have later := List.set_append_right (12 + j) b
        (s := pseudoHeader srcIp dstIp ipProtoUdp q.totLen) (t := q.bytes) (Nat.le_add_right ..)
      rw [pseudo, Nat.add_sub_cancel_left] at later
      have there : 12 + j <
          (pseudoHeader srcIp dstIp ipProtoUdp q.totLen ++ q.bytes).length := by
        rw [List.length_append, pseudo]
        omega
      have same := verifies_set there udpRight (later ▸ right)
      apply changed
      simp only [ip, iEq, List.getElem_append_right (Nat.le_add_right ..), Nat.add_sub_cancel_left]
      rw [List.getElem_append_right (by rw [pseudo]; exact Nat.le_add_right ..)] at same
      simpa only [pseudo, Nat.add_sub_cancel_left] using same

theorem changed_datagram_dropped_sample :
    ip4UdpInput sampleNetif [samplePcb] (sampleFrame 4) = none :=
  changed_datagram_dropped
    (show udpSendtoIfSrc .inside 53 sampleText 0x0a01a8c0 4000 0x0101a8c0 = .ok _ from rfl)
    (show ip4OutputIfSrc true 7 _ 0x0101a8c0 0x0a01a8c0 64 0 ipProtoUdp = .ok _ from rfl)
    (show 30 < _ by decide) (by decide) (show _ ≠ 4 by decide)
    (show _ = _ ++ List.replicate 15 0 by decide) (.inl (by decide))

end Program

end EpaperClock
