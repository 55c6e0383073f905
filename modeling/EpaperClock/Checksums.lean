import EpaperClock.IpAddresses
import EpaperClock.Library.OnesComplement

/-! The Internet checksum, `lwip/src/core/inet_chksum.c`. -/
namespace EpaperClock

open OnesComplement

/-- `lwip_htons` on the little-endian core. -/
def lwipHtons (n : UInt16) : UInt16 := (n &&& 0x00ff) <<< 8 ||| (n &&& 0xff00) >>> 8

/-- `FOLD_U32T`. -/
def foldU32t (u : UInt32) : UInt32 := (u >>> 16) + (u &&& 0x0000ffff)

/-- `SWAP_BYTES_IN_WORD`. -/
def swapBytesInWord (w : UInt32) : UInt32 := (w &&& 0xff) <<< 8 ||| (w &&& 0xff00) >>> 8

/-! ### One buffer -/

/-- The half-word that lies in memory as two bytes. -/
def halfWord (first second : UInt8) : UInt16 := first.toUInt16 ||| second.toUInt16 <<< 8

/-- The half-word `n` as it lies in memory. -/
def halfWordBytes (n : UInt16) : Bytes := [n.toUInt8, (n >>> 8).toUInt8]

/-- The bulk of the data, half-word by half-word: its sum, and a left-over byte. -/
def sumHalfWords (sum : UInt32) : Bytes → UInt32 × Option UInt8
  | first :: second :: ps => sumHalfWords (sum + (halfWord first second).toUInt32) ps
  | [b] => (sum, some b)
  | [] => (sum, none)

/-- `lwip_standard_chksum` from an even address, where `t` holds a byte in front. -/
def sumFrom (t : UInt16) (data : Bytes) : UInt32 :=
  let (sum, leftOver) := sumHalfWords 0 data
  let t := match leftOver with
    | some b => t &&& 0xff00 ||| b.toUInt16
    | none => t
  foldU32t (foldU32t (sum + t.toUInt32))

/-- `lwip_standard_chksum`, version 2, which is the one in use. -/
def lwipStandardChksum (dataptr : UInt32) (data : Bytes) : UInt16 :=
  if dataptr &&& 1 ≠ 0 then
    match data with
    | b :: pb => (swapBytesInWord (sumFrom (b.toUInt16 <<< 8) pb)).toUInt16
    | [] => (swapBytesInWord (sumFrom 0 [])).toUInt16
  else (sumFrom 0 data).toUInt16

/-- The loop of version 1, in network order. -/
def sumOctets (acc : UInt32) : Bytes → UInt32
  | first :: second :: octets =>
    sumOctets (acc + (first.toUInt16 <<< 8 ||| second.toUInt16).toUInt32) octets
  | [last] => acc + (last.toUInt16 <<< 8).toUInt32
  | [] => acc

/-- `lwip_standard_chksum`, version 1. -/
def lwipStandardChksum1 (data : Bytes) : UInt16 :=
  let acc := foldU32t (sumOctets 0 data)
  let acc := if acc &&& 0xffff0000 ≠ 0 then foldU32t acc else acc
  lwipHtons acc.toUInt16

/-- `inet_chksum`. -/
def inetChksum (dataptr : UInt32) (data : Bytes) : UInt16 := ~~~lwipStandardChksum dataptr data

/-! ### A chain -/

/-- A `pbuf`'s payload: where it lies, and its bytes. -/
structure Payload where
  address : UInt32
  data : Bytes

/-- A chain of `pbuf`s. Its `tot_len` is an `u16_t`. -/
structure PbufChain where
  first : Payload
  next : List Payload
  fits : ((first :: next).flatMap Payload.data).length < 0x10000

namespace PbufChain

def pbufs (p : PbufChain) : List Payload := p.first :: p.next

def bytes (p : PbufChain) : Bytes := p.pbufs.flatMap Payload.data

/-- `p->tot_len`. -/
def totLen (p : PbufChain) : UInt16 := p.bytes.length.toUInt16

end PbufChain

/-- The loop over a chain, and the swap behind it. -/
def chksumPbufs (acc : UInt32) (swapped : Bool) : List Payload → UInt32
  | q :: next =>
    let acc := foldU32t (acc + (lwipStandardChksum q.address q.data).toUInt32)
    if q.data.length % 2 ≠ 0 then chksumPbufs (swapBytesInWord acc) (!swapped) next
    else chksumPbufs acc swapped next
  | [] => if swapped then swapBytesInWord acc else acc

/-- `inet_chksum_pbuf`. -/
def inetChksumPbuf (p : PbufChain) : UInt16 :=
  ~~~(chksumPbufs 0 false p.pbufs &&& 0xffff).toUInt16

/-- `inet_cksum_pseudo_base`. -/
def inetCksumPseudoBase (p : PbufChain) (proto : UInt8) (protoLen : UInt16) (acc : UInt32) :
    UInt16 :=
  let acc := chksumPbufs acc false p.pbufs
  let acc := acc + (lwipHtons proto.toUInt16).toUInt32
  let acc := acc + (lwipHtons protoLen).toUInt32
  ~~~(foldU32t (foldU32t acc) &&& 0xffff).toUInt16

/-- `inet_chksum_pseudo`. -/
def inetChksumPseudo (p : PbufChain) (proto : UInt8) (protoLen : UInt16) (src dest : Ip4Addr) :
    UInt16 :=
  let acc := src &&& 0xffff
  let acc := acc + (src >>> 16 &&& 0xffff)
  let acc := acc + (dest &&& 0xffff)
  let acc := acc + (dest >>> 16 &&& 0xffff)
  inetCksumPseudoBase p proto protoLen (foldU32t (foldU32t acc))

/-- The pseudo header, as a datagram would carry it in front. -/
def pseudoHeader (src dest : Ip4Addr) (proto : UInt8) (protoLen : UInt16) : Bytes :=
  addrBytes src ++ (addrBytes dest ++ ([0, proto] ++ halfWordBytes (lwipHtons protoLen)))

/-! ### What they compute -/

theorem halfWord_toNat (first second : UInt8) :
    (halfWord first second).toNat = first.toNat + 256 * second.toNat := by
  have high : second.toNat * 2 ^ 8 < 2 ^ 16 := by have := second.toNat_lt; omega
  simp only [halfWord, UInt16.toNat_or, UInt16.toNat_shiftLeft, UInt8.toNat_toUInt16]
  rw [show UInt16.toNat 8 % 16 = 8 from rfl, Nat.shiftLeft_eq, Nat.mod_eq_of_lt high, Nat.or_comm,
    ← Nat.shiftLeft_eq, ← Nat.shiftLeft_add_eq_or_of_lt first.toNat_lt, Nat.shiftLeft_eq]
  omega

theorem foldU32t_toNat (u : UInt32) : (foldU32t u).toNat = u.toNat / 65536 + u.toNat % 65536 := by
  have small := u.toNat_lt
  simp only [foldU32t, UInt32.toNat_add, UInt32.toNat_shiftRight, UInt32.toNat_and]
  rw [show UInt32.toNat 16 % 32 = 16 from rfl, show UInt32.toNat 0xffff = 2 ^ 16 - 1 from rfl,
    Nat.and_two_pow_sub_one_eq_mod, Nat.shiftRight_eq_div_pow]
  omega

theorem swap_eq {w : Nat} (word : w ≤ 65535) :
    (w &&& 0xff) <<< 8 ||| (w &&& 0xff00) >>> 8 = w % 256 * 256 + w / 256 := by
  rw [Nat.shiftRight_and_distrib, show 0xff00 >>> 8 = 2 ^ 8 - 1 from rfl,
    show 0xff = 2 ^ 8 - 1 from rfl, Nat.and_two_pow_sub_one_eq_mod, Nat.and_two_pow_sub_one_eq_mod,
    Nat.shiftRight_eq_div_pow, Nat.mod_eq_of_lt (a := w / 2 ^ 8) (by omega),
    ← Nat.shiftLeft_add_eq_or_of_lt (by omega), Nat.shiftLeft_eq]

theorem swapBytesInWord_toNat {w : UInt32} (word : w.toNat ≤ 65535) :
    (swapBytesInWord w).toNat = w.toNat % 256 * 256 + w.toNat / 256 := by
  have low : (w.toNat &&& 0xff) <<< 8 < 2 ^ 32 := by
    have := Nat.and_le_right (n := w.toNat) (m := 0xff)
    rw [Nat.shiftLeft_eq]
    omega
  rw [← swap_eq word]
  simp only [swapBytesInWord, UInt32.toNat_or, UInt32.toNat_shiftLeft, UInt32.toNat_shiftRight,
    UInt32.toNat_and]
  exact congrArg (· ||| _) (Nat.mod_eq_of_lt low)

theorem lwipHtons_toNat (n : UInt16) :
    (lwipHtons n).toNat = n.toNat % 256 * 256 + n.toNat / 256 := by
  have small := n.toNat_lt
  have low : (n.toNat &&& 0xff) <<< 8 < 2 ^ 16 := by
    have := Nat.and_le_right (n := n.toNat) (m := 0xff)
    rw [Nat.shiftLeft_eq]
    omega
  rw [← swap_eq (by omega)]
  simp only [lwipHtons, UInt16.toNat_or, UInt16.toNat_shiftLeft, UInt16.toNat_shiftRight,
    UInt16.toNat_and]
  exact congrArg (· ||| _) (Nat.mod_eq_of_lt low)

abbrev Ones := OnesComplement.Sum 65535

/-- The bytes, added up. -/
def ones (data : Bytes) : Ones := value 65535 256 (data.map UInt8.toNat)

theorem ones_append (front back : Bytes) :
    ones (front ++ back) = ones front + (256 : ℕ) ^ front.length * ones back := by
  rw [ones, List.map_append, value_append, List.length_map, ones, ones]

theorem ones_nil : ones [] = 0 := value_nil

theorem ones_cons (b : UInt8) (data : Bytes) :
    ones (b :: data) = (b.toNat : Ones) + (256 : ℕ) * ones data := value_cons ..

theorem cast_foldU32t (u : UInt32) : ((foldU32t u).toNat : Ones) = u.toNat := by
  rw [foldU32t_toNat]
  exact fold u.toNat

theorem foldU32t_le {u : UInt32} (le : u.toNat ≤ 131070) : (foldU32t u).toNat ≤ 65535 := by
  rw [foldU32t_toNat]
  omega

theorem foldU32t_twice_le (u : UInt32) : (foldU32t (foldU32t u)).toNat ≤ 65535 := by
  have small := u.toNat_lt
  apply foldU32t_le
  rw [foldU32t_toNat]
  omega

theorem eq_of_ones {x y : UInt16} (h : (x.toNat : Ones) = y.toNat) : x = y := by
  have hx := x.toNat_lt
  have hy := y.toNat_lt
  exact UInt16.toNat_inj.mp (eq_of_cast_eq (by omega) (by omega) h)

theorem byte_mul_byte : 256 * 256 = 65535 + 1 := rfl

theorem ones_cons_cons (first second : UInt8) (data : Bytes) :
    ones (first :: second :: data) = ((halfWord first second).toNat : Ones) + ones data := by
  rw [halfWord_toNat]
  exact value_cons_cons byte_mul_byte ..

theorem swap_swap (x : Ones) : (256 : ℕ) * ((256 : ℕ) * x) = x := mul_mul_cancel byte_mul_byte x

theorem cast_swapBytesInWord {w : UInt32} (le : w.toNat ≤ 65535) :
    ((swapBytesInWord w).toNat : Ones) = (256 : ℕ) * (w.toNat : Ones) := by
  rw [swapBytesInWord_toNat le]
  conv_rhs => rw [← Nat.div_add_mod w.toNat 256, Nat.cast_add, Nat.cast_mul, mul_add, swap_swap]
  rw [Nat.cast_add, Nat.cast_mul, mul_comm, add_comm]

theorem sumHalfWords_spec (data : Bytes) : ∀ sum : UInt32,
    sum.toNat + 65535 * (data.length / 2) < 2 ^ 32 →
    (sumHalfWords sum data).1.toNat ≤ sum.toNat + 65535 * (data.length / 2) ∧
    ((sumHalfWords sum data).1.toNat : Ones) + ones (sumHalfWords sum data).2.toList =
      sum.toNat + ones data := by
  induction data using List.twoStepInduction with
  | nil => exact fun _ _ => ⟨Nat.le_add_right .., rfl⟩
  | singleton b => exact fun _ _ => ⟨Nat.le_add_right .., rfl⟩
  | cons_cons first second ps ih =>
    intro sum room
    have half := (halfWord first second).toNat_lt
    have words : (first :: second :: ps).length / 2 = ps.length / 2 + 1 := by simp; omega
    rw [words] at room ⊢
    -- no carry is lost
    have added : (sum + (halfWord first second).toUInt32).toNat =
        sum.toNat + (halfWord first second).toNat := by
      rw [UInt32.toNat_add, UInt16.toNat_toUInt32]
      exact Nat.mod_eq_of_lt (by omega)
    obtain ⟨bound, total⟩ := ih (sum + (halfWord first second).toUInt32) (by omega)
    rw [sumHalfWords]
    refine ⟨by omega, total.trans ?_⟩
    rw [added, Nat.cast_add, ones_cons_cons, add_assoc]

theorem endBytes_eq (t b : UInt8) :
    t.toUInt16 <<< 8 &&& 0xff00 ||| b.toUInt16 = halfWord b t := by
  rw [halfWord, UInt16.or_comm]
  refine congrArg (b.toUInt16 ||| ·) ?_
  apply UInt16.eq_of_toBitVec_eq
  apply BitVec.eq_of_getLsbD_eq
  intro i inside
  interval_cases i <;> simp

theorem shifted_eq (t : UInt8) : t.toUInt16 <<< 8 = halfWord 0 t := by
  simp [halfWord]

theorem sumFrom_spec (t : UInt8) (data : Bytes)
    (room : 65535 * (data.length / 2) + 256 * t.toNat + 255 < 2 ^ 32) :
    (sumFrom (t.toUInt16 <<< 8) data).toNat ≤ 65535 ∧
      ((sumFrom (t.toUInt16 <<< 8) data).toNat : Ones) =
        (256 : ℕ) * (t.toNat : Ones) + ones data := by
  obtain ⟨bound, total⟩ := sumHalfWords_spec data 0 (by simp; omega)
  rw [UInt32.toNat_zero, Nat.zero_add] at bound
  rw [UInt32.toNat_zero, Nat.cast_zero, zero_add] at total
  refine ⟨foldU32t_twice_le _, ?_⟩
  -- the end bytes are one more half-word
  have ending (b : UInt8) : ((sumHalfWords 0 data).1 + (halfWord b t).toUInt32).toNat =
      (sumHalfWords 0 data).1.toNat + (b.toNat + 256 * t.toNat) := by
    have := b.toNat_lt
    rw [UInt32.toNat_add, UInt16.toNat_toUInt32, halfWord_toNat]
    exact Nat.mod_eq_of_lt (by omega)
  rw [sumFrom, ← total]
  cases leftOver : (sumHalfWords 0 data).2 with
  | none =>
    simp only [leftOver, cast_foldU32t, shifted_eq, ending, Option.toList_none, ones_nil]
    rw [UInt8.toNat_zero, Nat.zero_add, Nat.cast_add, Nat.cast_mul, add_zero, add_comm]
  | some b =>
    simp only [leftOver, cast_foldU32t, endBytes_eq, ending, Option.toList_some, ones_cons, ones_nil]
    push_cast
    ring

theorem toUInt16_toNat {w : UInt32} (le : w.toNat ≤ 65535) : w.toUInt16.toNat = w.toNat := by
  rw [UInt32.toNat_toUInt16]
  exact Nat.mod_eq_of_lt (by omega)

/-- The sum of a buffer at any address, up to the length that the source gives. -/
theorem lwipStandardChksum_spec (dataptr : UInt32) {data : Bytes} (short : data.length ≤ 0x20000) :
    ((lwipStandardChksum dataptr data).toNat : Ones) = ones data := by
  have even (data : Bytes) : sumFrom 0 data = sumFrom ((0 : UInt8).toUInt16 <<< 8) data := rfl
  have swap {sum : UInt32} (le : sum.toNat ≤ 65535) :
      ((swapBytesInWord sum).toUInt16.toNat : Ones) = (256 : ℕ) * (sum.toNat : Ones) := by
    rw [toUInt16_toNat, cast_swapBytesInWord le]
    rw [swapBytesInWord_toNat le]
    omega
  unfold lwipStandardChksum
  split
  next odd =>
    cases data with
    | nil =>
      obtain ⟨bound, total⟩ := sumFrom_spec 0 [] (by simp)
      rw [even, swap bound, total]
      simp [ones_nil]
    | cons b pb =>
      have := b.toNat_lt
      simp only [List.length_cons] at short
      obtain ⟨bound, total⟩ := sumFrom_spec b pb (by omega)
      rw [swap bound, total, mul_add, swap_swap, ones_cons]
  next =>
    obtain ⟨bound, total⟩ := sumFrom_spec 0 data (by simp; omega)
    rw [even, toUInt16_toNat bound, total]
    simp

theorem sumOctets_spec (data : Bytes) : ∀ acc : UInt32,
    acc.toNat + 65535 * ((data.length + 1) / 2) < 2 ^ 32 →
    ((sumOctets acc data).toNat : Ones) = acc.toNat + (256 : ℕ) * ones data := by
  induction data using List.twoStepInduction with
  | nil =>
    intro acc _
    rw [sumOctets, ones_nil, mul_zero, add_zero]
  | singleton last =>
    intro acc room
    have added : (acc + (last.toUInt16 <<< 8).toUInt32).toNat = acc.toNat + 256 * last.toNat := by
      have := last.toNat_lt
      simp only [List.length_singleton] at room
      rw [UInt32.toNat_add, UInt16.toNat_toUInt32, shifted_eq, halfWord_toNat, UInt8.toNat_zero,
        Nat.zero_add]
      exact Nat.mod_eq_of_lt (by omega)
    rw [sumOctets, added, ones_cons, ones_nil, mul_zero, add_zero, Nat.cast_add, Nat.cast_mul]
  | cons_cons first second octets ih =>
    intro acc room
    have half := (halfWord second first).toNat_lt
    have words : ((first :: second :: octets).length + 1) / 2 = (octets.length + 1) / 2 + 1 := by
      simp
      omega
    rw [words] at room
    have added : (acc + (first.toUInt16 <<< 8 ||| second.toUInt16).toUInt32).toNat =
        acc.toNat + (second.toNat + 256 * first.toNat) := by
      rw [UInt16.or_comm, ← halfWord_toNat, UInt32.toNat_add, UInt16.toNat_toUInt32]
      exact Nat.mod_eq_of_lt (by rw [← halfWord]; omega)
    have swapped : ((second.toNat + 256 * first.toNat : ℕ) : Ones) =
        (256 : ℕ) * ((halfWord first second).toNat : Ones) := by
      rw [halfWord_toNat, Nat.cast_add, Nat.cast_add, mul_add, Nat.cast_mul, Nat.cast_mul,
        swap_swap, add_comm]
    rw [sumOctets, ih _ (by rw [added, ← halfWord_toNat]; omega), added, ones_cons_cons, mul_add,
      ← swapped, Nat.cast_add, add_assoc]

/-- The plain sum in network order is the one in use. -/
theorem lwipStandardChksum1_spec {data : Bytes} (short : data.length ≤ 0x20000) :
    ((lwipStandardChksum1 data).toNat : Ones) = ones data := by
  have total := sumOctets_spec data 0 (by simp; omega)
  rw [UInt32.toNat_zero, Nat.cast_zero, zero_add] at total
  have swap {acc : UInt32} (le : acc.toNat ≤ 65535) :
      ((lwipHtons acc.toUInt16).toNat : Ones) = (256 : ℕ) * (acc.toNat : Ones) := by
    rw [lwipHtons_toNat, toUInt16_toNat le, ← swapBytesInWord_toNat le, cast_swapBytesInWord le]
  rw [lwipStandardChksum1]
  split
  next => rw [swap (foldU32t_twice_le _), cast_foldU32t, cast_foldU32t, total, swap_swap]
  next small =>
    -- without high bits, no carry
    have high : (foldU32t (sumOctets 0 data)).toNat >>> 16 = 0 := by
      have zero := congrArg (fun u => u.toNat >>> 16) (not_not.mp small)
      simp only [UInt32.toNat_and, Nat.shiftRight_and_distrib] at zero
      rw [show UInt32.toNat 0xffff0000 >>> 16 = 2 ^ 16 - 1 from rfl, Nat.and_two_pow_sub_one_eq_mod,
        Nat.mod_eq_of_lt] at zero
      · exact zero
      · have := (foldU32t (sumOctets 0 data)).toNat_lt
        rw [Nat.shiftRight_eq_div_pow]
        omega
    rw [Nat.shiftRight_eq_div_pow] at high
    rw [swap (by omega), cast_foldU32t, total, swap_swap]

theorem lwipStandardChksum_eq (dataptr : UInt32) {data : Bytes} (short : data.length ≤ 0x20000) :
    lwipStandardChksum dataptr data = lwipStandardChksum1 data := by
  apply eq_of_ones
  rw [lwipStandardChksum_spec dataptr short, lwipStandardChksum1_spec short]

theorem chksumPbufs_spec (pbufs : List Payload) :
    (∀ q ∈ pbufs, q.data.length ≤ 0x20000) → ∀ (acc : UInt32) (odd : Bool), acc.toNat ≤ 65535 →
    (chksumPbufs acc odd pbufs).toNat ≤ 65535 ∧
      ((chksumPbufs acc odd pbufs).toNat : Ones) =
        (256 : ℕ) ^ odd.toNat * (acc.toNat + ones (pbufs.flatMap Payload.data)) := by
  induction pbufs with
  | nil =>
    intro _ acc odd le
    cases odd with
    | false => exact ⟨le, by simp [chksumPbufs, ones_nil]⟩
    | true =>
      refine ⟨?_, by simp [chksumPbufs, ones_nil, cast_swapBytesInWord le]⟩
      rw [chksumPbufs, if_pos rfl, swapBytesInWord_toNat le]
      omega
  | cons q next ih =>
    intro short acc odd le
    have shortNext := fun r member => short r (List.mem_cons_of_mem q member)
    have sum := (lwipStandardChksum q.address q.data).toNat_lt
    have added : (acc + (lwipStandardChksum q.address q.data).toUInt32).toNat =
        acc.toNat + (lwipStandardChksum q.address q.data).toNat := by
      rw [UInt32.toNat_add, UInt16.toNat_toUInt32]
      exact Nat.mod_eq_of_lt (by omega)
    have folded := foldU32t_le (show (acc + _).toNat ≤ 131070 by rw [added]; omega)
    have total : ((foldU32t (acc + (lwipStandardChksum q.address q.data).toUInt32)).toNat : Ones) =
        acc.toNat + ones q.data := by
      rw [cast_foldU32t, added, Nat.cast_add, lwipStandardChksum_spec _ (short q List.mem_cons_self)]
    rw [chksumPbufs]
    simp only [List.flatMap_cons, ones_append]
    rw [pow_parity byte_mul_byte q.data.length]
    split
    next other =>
      have swappedLe : (swapBytesInWord (foldU32t
          (acc + (lwipStandardChksum q.address q.data).toUInt32))).toNat ≤ 65535 := by
        rw [swapBytesInWord_toNat folded]
        omega
      obtain ⟨bound, rest⟩ := ih shortNext _ (!odd) swappedLe
      refine ⟨bound, ?_⟩
      have one : q.data.length % 2 = 1 := by omega
      rw [rest, cast_swapBytesInWord folded, total, one, pow_one]
      cases odd with
      | false =>
        rw [Bool.not_false, Bool.toNat_true, Bool.toNat_false, pow_one, pow_zero, one_mul, mul_add,
          swap_swap, add_assoc]
      | true =>
        rw [Bool.not_true, Bool.toNat_true, Bool.toNat_false, pow_one, pow_zero, one_mul, mul_add,
          mul_add, mul_add, swap_swap, add_assoc]
    next same =>
      obtain ⟨bound, rest⟩ := ih shortNext _ odd folded
      refine ⟨bound, ?_⟩
      rw [rest, total, not_not.mp same, pow_zero, one_mul, add_assoc]

theorem PbufChain.short (p : PbufChain) : ∀ q ∈ p.pbufs, q.data.length < 0x10000 := by
  intro q member
  exact (List.sublist_flatten_of_mem (List.mem_map_of_mem member)).length_le.trans_lt p.fits

theorem PbufChain.sum_spec (p : PbufChain) {acc : UInt32} (le : acc.toNat ≤ 65535) :
    (chksumPbufs acc false p.pbufs).toNat ≤ 65535 ∧
      ((chksumPbufs acc false p.pbufs).toNat : Ones) = acc.toNat + ones p.bytes := by
  have short : ∀ q ∈ p.pbufs, q.data.length ≤ 0x20000 := fun q member => by
    have := p.short q member
    omega
  obtain ⟨bound, total⟩ := chksumPbufs_spec p.pbufs short acc false le
  rw [Bool.toNat_false, pow_zero, one_mul] at total
  exact ⟨bound, total⟩

theorem toNat_and_ffff (u : UInt32) : (u &&& 0xffff).toNat = u.toNat % 65536 :=
  Nat.and_two_pow_sub_one_eq_mod u.toNat 16

theorem toUInt16_and_ffff (u : UInt32) : (u &&& 0xffff).toUInt16 = u.toUInt16 := by
  apply UInt16.toNat_inj.mp
  rw [UInt32.toNat_toUInt16, UInt32.toNat_toUInt16, toNat_and_ffff, Nat.mod_mod]

theorem halfWord_halfWordBytes (n : UInt16) : halfWord n.toUInt8 (n >>> 8).toUInt8 = n := by
  apply UInt16.toNat_inj.mp
  have small := n.toNat_lt
  rw [halfWord_toNat, UInt16.toNat_toUInt8, UInt16.toNat_toUInt8, UInt16.toNat_shiftRight,
    show UInt16.toNat 8 % 16 = 8 from rfl, Nat.shiftRight_eq_div_pow]
  omega

theorem ones_halfWordBytes (n : UInt16) (data : Bytes) :
    ones (halfWordBytes n ++ data) = (n.toNat : Ones) + ones data := by
  rw [halfWordBytes, List.cons_append, List.cons_append, List.nil_append, ones_cons_cons,
    halfWord_halfWordBytes]

theorem addrBytes_eq (addr : Ip4Addr) :
    addrBytes addr = halfWordBytes addr.toUInt16 ++ halfWordBytes (addr >>> 16).toUInt16 := by
  simp only [addrBytes, halfWordBytes, List.cons_append, List.nil_append, List.cons.injEq, and_true,
    ← UInt8.toNat_inj, UInt32.toNat_toUInt8, UInt16.toNat_toUInt8, UInt32.toNat_toUInt16,
    UInt32.toNat_shiftRight, UInt16.toNat_shiftRight, Nat.shiftRight_eq_div_pow, UInt32.reduceToNat,
    UInt16.reduceToNat, Nat.reduceMod, Nat.reducePow]
  omega

theorem ones_addrBytes (addr : Ip4Addr) (data : Bytes) :
    ones (addrBytes addr ++ data) =
      ((addr &&& 0xffff).toNat : Ones) + (addr >>> 16 &&& 0xffff).toNat + ones data := by
  have small := addr.toNat_lt
  rw [addrBytes_eq, List.append_assoc, ones_halfWordBytes, ones_halfWordBytes,
    UInt32.toNat_toUInt16, UInt32.toNat_toUInt16, toNat_and_ffff, toNat_and_ffff, ← add_assoc]

/-- The sum of an address's half-words. -/
theorem addr_toNat (addr acc : Ip4Addr) (room : acc.toNat < 2 ^ 31) :
    UInt32.toNat (acc + (addr &&& 0xffff) + (addr >>> (16 : UInt32) &&& 0xffff)) =
      acc.toNat + (addr &&& 0xffff).toNat + (addr >>> 16 &&& 0xffff).toNat := by
  have low := toNat_and_ffff addr
  have high := toNat_and_ffff (addr >>> 16)
  rw [UInt32.toNat_add, UInt32.toNat_add]
  omega

theorem inetCksumPseudoBase_spec (p : PbufChain) (proto : UInt8) (protoLen : UInt16) {acc : UInt32}
    (le : acc.toNat ≤ 65535) :
    (((~~~inetCksumPseudoBase p proto protoLen acc).toNat : ℕ) : Ones) =
      acc.toNat + ones ([0, proto] ++ (halfWordBytes (lwipHtons protoLen) ++ p.bytes)) := by
  obtain ⟨bound, total⟩ := p.sum_spec le
  have first := (lwipHtons proto.toUInt16).toNat_lt
  have second := (lwipHtons protoLen).toNat_lt
  have added : (chksumPbufs acc false p.pbufs + (lwipHtons proto.toUInt16).toUInt32 +
      (lwipHtons protoLen).toUInt32).toNat = (chksumPbufs acc false p.pbufs).toNat +
        (lwipHtons proto.toUInt16).toNat + (lwipHtons protoLen).toNat := by
    rw [UInt32.toNat_add, UInt32.toNat_add, UInt16.toNat_toUInt32, UInt16.toNat_toUInt32]
    omega
  have protoWord : (lwipHtons proto.toUInt16).toNat = (halfWord 0 proto).toNat := by
    have := proto.toNat_lt
    rw [lwipHtons_toNat, halfWord_toNat, UInt8.toNat_toUInt16, UInt8.toNat_zero]
    omega
  rw [inetCksumPseudoBase, UInt16.not_not, toUInt16_and_ffff, toUInt16_toNat (foldU32t_twice_le _),
    cast_foldU32t, cast_foldU32t, added, Nat.cast_add, Nat.cast_add, total, protoWord, List.cons_append,
    List.cons_append, List.nil_append, ones_cons_cons, ones_halfWordBytes]
  ring

theorem inetChksumPseudo_spec (p : PbufChain) (proto : UInt8) (protoLen : UInt16)
    (src dest : Ip4Addr) :
    (((~~~inetChksumPseudo p proto protoLen src dest).toNat : ℕ) : Ones) =
      ones (pseudoHeader src dest proto protoLen ++ p.bytes) := by
  have low := toNat_and_ffff src
  have high := toNat_and_ffff (src >>> 16)
  have srcSum := addr_toNat src 0 (by decide)
  rw [UInt32.zero_add, UInt32.toNat_zero, Nat.zero_add] at srcSum
  have sum := addr_toNat dest ((src &&& 0xffff) + (src >>> (16 : UInt32) &&& 0xffff)) (by omega)
  rw [inetChksumPseudo, inetCksumPseudoBase_spec p proto protoLen (foldU32t_twice_le _), cast_foldU32t,
    cast_foldU32t, sum, srcSum, pseudoHeader, List.append_assoc, List.append_assoc, List.append_assoc,
    ones_addrBytes, ones_addrBytes]
  push_cast
  ring

/-- However a datagram lies in memory, its checksum is the one that version 1 computes over the
pseudo header and the datagram in a row. -/
theorem inetChksumPseudo_eq (p : PbufChain) (proto : UInt8) (protoLen : UInt16)
    (src dest : Ip4Addr) :
    inetChksumPseudo p proto protoLen src dest =
      ~~~lwipStandardChksum1 (pseudoHeader src dest proto protoLen ++ p.bytes) := by
  have short : (pseudoHeader src dest proto protoLen ++ p.bytes).length ≤ 0x20000 := by
    have fits : p.bytes.length < 0x10000 := p.fits
    have header : (pseudoHeader src dest proto protoLen).length = 12 := rfl
    rw [List.length_append, header]
    omega
  rw [← UInt16.not_inj, UInt16.not_not]
  apply eq_of_ones
  rw [inetChksumPseudo_spec, lwipStandardChksum1_spec short]

theorem inetChksumPbuf_eq (p : PbufChain) : inetChksumPbuf p = ~~~lwipStandardChksum1 p.bytes := by
  obtain ⟨bound, total⟩ := p.sum_spec (show (0 : UInt32).toNat ≤ 65535 by decide)
  have fits : p.bytes.length < 0x10000 := p.fits
  rw [inetChksumPbuf, ← UInt16.not_inj, UInt16.not_not, UInt16.not_not]
  apply eq_of_ones
  rw [toUInt16_and_ffff, toUInt16_toNat bound, total, lwipStandardChksum1_spec (by omega),
    UInt32.toNat_zero, Nat.cast_zero, zero_add]

end EpaperClock
