import EpaperClock.Lwip
import EpaperClock.Library.Decimal
import EpaperClock.WeatherParser

/-! IPv4 addresses as text, `lwip/src/core/ipv4/ip4_addr.c`. An address is the word that holds
its bytes in network order; a string is the list of its characters, without the NUL. -/
namespace EpaperClock

open Decimal

/-- `lwip_htonl` on the little-endian core. -/
def lwipHtonl (n : UInt32) : UInt32 :=
  (n &&& 0x000000ff) <<< 24 ||| (n &&& 0x0000ff00) <<< 8 ||| (n &&& 0x00ff0000) >>> 8 |||
    (n &&& 0xff000000) >>> 24

def lwipIslower (c : UInt8) : Bool := 0x61 ≤ c && c ≤ 0x7a

def lwipIsxdigit (c : UInt8) : Bool :=
  isDigit c || 0x61 ≤ c && c ≤ 0x66 || 0x41 ≤ c && c ≤ 0x46

/-! ### Reading -/

/-- The digits of one part: its value, and what stands behind it. -/
def atonDigits (base val : UInt32) : Bytes → UInt32 × Bytes
  | [] => (val, [])
  | c :: cp =>
    if isDigit c then atonDigits base (val * base + (c - 0x30).toUInt32) cp
    else if base = 16 && lwipIsxdigit c then
      atonDigits base (val <<< 4 ||| (c + 10 - if lwipIslower c then 0x61 else 0x41).toUInt32) cp
    else (val, c :: cp)

/-- One part, in decimal, octal or hexadecimal. -/
def atonPart : Bytes → Option (UInt32 × Bytes)
  | [] => none
  | c :: cp =>
    if isDigit c then
      if c = 0x30 then
        match cp with
        | [] => some (atonDigits 8 0 [])
        | c :: cp =>
          if c = 0x78 ∨ c = 0x58 then some (atonDigits 16 0 cp) else some (atonDigits 8 0 (c :: cp))
      else some (atonDigits 10 0 (c :: cp))
    else none

/-- The parts in front of the last one, of which there may be `room`, the last one and what
stands behind it. -/
def atonParts : Nat → Bytes → Option (List UInt32 × UInt32 × Bytes)
  | 0, cp => do
    let (val, cp) ← atonPart cp
    if cp.head? = some 0x2e then none else some ([], val, cp)
  | room + 1, cp => do
    let (val, cp) ← atonPart cp
    if cp.head? = some 0x2e then do
      let (parts, last, cp) ← atonParts room cp.tail
      some (val :: parts, last, cp)
    else some ([], val, cp)

/-- `ip4addr_aton`, with `none` for its result 0. -/
def ip4addrAton (cp : Bytes) : Option Ip4Addr := do
  let (parts, val, cp) ← atonParts 3 cp
  if (cp.head?.map isSpace).getD true then
    match parts with
    | [] => some (lwipHtonl val)
    | [a] =>
      if val > 0xffffff ∨ a > 0xff then none else some (lwipHtonl (val ||| a <<< 24))
    | [a, b] =>
      if val > 0xffff ∨ a > 0xff ∨ b > 0xff then none
      else some (lwipHtonl (val ||| (a <<< 24 ||| b <<< 16)))
    | [a, b, c] =>
      if val > 0xff ∨ a > 0xff ∨ b > 0xff ∨ c > 0xff then none
      else some (lwipHtonl (val ||| (a <<< 24 ||| b <<< 16 ||| c <<< 8)))
    | _ => none
  else none

/-! ### Writing -/

/-- `IP4ADDR_STRLEN_MAX`. -/
abbrev ip4addrStrlenMax : Nat := 16

/-- The bytes of an address, as they lie in memory. -/
def addrBytes (addr : Ip4Addr) : Bytes :=
  [addr.toUInt8, (addr >>> 8).toUInt8, (addr >>> 16).toUInt8, (addr >>> 24).toUInt8]

/-- The digits of `*ap`, for which `inv` has `room`. -/
def ntoaDigits : Nat → UInt8 → Bytes
  | 0, _ => []
  | room + 1, ap => (if ap / 10 = 0 then [] else ntoaDigits room (ap / 10)) ++ [0x30 + ap % 10]

/-- `ip4addr_ntoa_r`; the NUL takes the place of the last dot. -/
def ip4addrNtoaR (addr : Ip4Addr) (buflen : Nat) : Option Bytes :=
  let written := (addrBytes addr).flatMap fun ap => ntoaDigits 3 ap ++ [0x2e]
  if written.length ≤ buflen then some written.dropLast else none

/-! ### Round trip -/

/-- What a part may stand in front of. -/
def Ends (cp : Bytes) : Prop := ∀ c, cp.head? = some c → isDigit c = false

theorem atonDigits_decimal (digits : Bytes) (all : ∀ c ∈ digits, isDigit c = true) {cp : Bytes}
    (ends : Ends cp) : ∀ val, atonDigits 10 val (digits ++ cp) =
      (digits.foldl (fun val c => val * 10 + (c - 0x30).toUInt32) val, cp) := by
  induction digits with
  | nil =>
    intro val
    cases cp with
    | nil => rfl
    | cons c cp => simp [atonDigits, ends c rfl]
  | cons c digits ih =>
    intro val
    have digit := all c List.mem_cons_self
    simp only [List.cons_append, atonDigits, digit, if_true, List.foldl_cons]
    exact ih (fun d member => all d (List.mem_cons_of_mem _ member)) _

/-- The digits written for a byte denote it. -/
theorem ntoaDigits_spec (ap : UInt8) :
    (∀ c ∈ ntoaDigits 3 ap, isDigit c = true) ∧
      (ntoaDigits 3 ap).foldl (fun val c => val * 10 + (c - 0x30).toUInt32) (0 : UInt32) =
        ap.toUInt32 ∧
      ((ntoaDigits 3 ap).head? = some 0x30 → ntoaDigits 3 ap = [0x30]) ∧
      ntoaDigits 3 ap ≠ [] ∧ (ntoaDigits 3 ap).length ≤ 3 := by
  have each : ∀ n < 256, let ap := UInt8.ofNat n
      (ntoaDigits 3 ap).all isDigit = true ∧
      (ntoaDigits 3 ap).foldl (fun val c => val * 10 + (c - 0x30).toUInt32) (0 : UInt32) =
        ap.toUInt32 ∧
      ((ntoaDigits 3 ap).head? = some 0x30 → ntoaDigits 3 ap = [0x30]) ∧
      ntoaDigits 3 ap ≠ [] ∧ (ntoaDigits 3 ap).length ≤ 3 := by
    decide +kernel
  have this := each ap.toNat ap.toNat_lt
  rw [UInt8.ofNat_toNat] at this
  dsimp only at this
  rwa [List.all_eq_true] at this

theorem atonPart_ntoaDigits (ap : UInt8) {cp : Bytes} (ends : Ends cp)
    (plain : cp.head? ≠ some 0x78 ∧ cp.head? ≠ some 0x58) :
    atonPart (ntoaDigits 3 ap ++ cp) = some (ap.toUInt32, cp) := by
  obtain ⟨all, value, zero, written, _⟩ := ntoaDigits_spec ap
  obtain ⟨c, digits, split⟩ := List.exists_cons_of_ne_nil written
  have digit : isDigit c = true := all c (by rw [split]; exact List.mem_cons_self)
  by_cases null : c = 0x30
  · -- a single zero, which is read as octal
    have alone : ntoaDigits 3 ap = [0x30] := zero (by rw [split, null]; rfl)
    rw [alone] at value ⊢
    have none : (0 : UInt32) = ap.toUInt32 := by simpa using value
    rw [← none]
    have octal : atonDigits 8 0 cp = (0, cp) := by
      cases cp with
      | nil => rfl
      | cons c cp => simp [atonDigits, ends c rfl]
    cases cp with
    | nil => simp [atonPart, atonDigits, isDigit]
    | cons c cp =>
      have plain : ¬(c = 0x78 ∨ c = 0x58) := by simpa using plain
      simp [atonPart, isDigit, plain, octal]
  · have decimal := atonDigits_decimal (ntoaDigits 3 ap) all ends 0
    rw [value] at decimal
    rw [split] at decimal ⊢
    rw [← decimal]
    simp [atonPart, digit, null]

theorem toUInt32_toUInt8 (n : UInt32) : n.toUInt8.toUInt32 = n &&& 0xff := by
  apply UInt32.toNat_inj.mp
  have low := Nat.and_two_pow_sub_one_eq_mod n.toNat 8
  simpa using low.symm

theorem lwipHtonl_bytes (addr : Ip4Addr) :
    lwipHtonl ((addr >>> 24).toUInt8.toUInt32 ||| (addr.toUInt8.toUInt32 <<< 24 |||
      (addr >>> 8).toUInt8.toUInt32 <<< 16 ||| (addr >>> 16).toUInt8.toUInt32 <<< 8)) = addr := by
  simp only [toUInt32_toUInt8]
  apply UInt32.eq_of_toBitVec_eq
  apply BitVec.eq_of_getLsbD_eq
  intro i inside
  interval_cases i <;> simp [lwipHtonl]

theorem atonParts_dot (room : Nat) (ap : UInt8) (cp : Bytes) :
    atonParts (room + 1) (ntoaDigits 3 ap ++ 0x2e :: cp) =
      (atonParts room cp).map fun (parts, last, cp) => (ap.toUInt32 :: parts, last, cp) := by
  have ends : Ends (0x2e :: cp) := by
    rintro c ⟨⟩
    rfl
  rw [atonParts, atonPart_ntoaDigits ap ends (by simp)]
  cases rest : atonParts room cp with
  | none => simp [rest]
  | some => simp [rest]

theorem atonParts_end (room : Nat) (ap : UInt8) :
    atonParts room (ntoaDigits 3 ap) = some ([], ap.toUInt32, []) := by
  have ends : Ends [] := by rintro c ⟨⟩
  have part := atonPart_ntoaDigits ap ends (by simp)
  rw [List.append_nil] at part
  cases room with
  | zero => simp [atonParts, part]
  | succ room => simp [atonParts, part]

/-- The four numbers and the dots between them. -/
def dotted (addr : Ip4Addr) : Bytes :=
  let dot : UInt8 := 0x2e
  ntoaDigits 3 addr.toUInt8 ++ dot :: (ntoaDigits 3 (addr >>> 8).toUInt8 ++
    dot :: (ntoaDigits 3 (addr >>> 16).toUInt8 ++ dot :: ntoaDigits 3 (addr >>> 24).toUInt8))

theorem ip4addrNtoaR_eq (addr : Ip4Addr) :
    ip4addrNtoaR addr ip4addrStrlenMax = some (dotted addr) := by
  have digits (ap : UInt8) : (ntoaDigits 3 ap).length ≤ 3 := (ntoaDigits_spec ap).2.2.2.2
  have fits : ((addrBytes addr).flatMap fun ap => ntoaDigits 3 ap ++ [0x2e]).length ≤
      ip4addrStrlenMax := by
    have d0 := digits addr.toUInt8
    have d1 := digits (addr >>> 8).toUInt8
    have d2 := digits (addr >>> 16).toUInt8
    have d3 := digits (addr >>> 24).toUInt8
    simp only [addrBytes, List.flatMap_cons, List.flatMap_nil, List.length_append,
      List.length_singleton, List.length_nil, ip4addrStrlenMax]
    omega
  simp only [ip4addrNtoaR, if_pos fits]
  simp only [addrBytes, List.flatMap_cons, List.flatMap_nil, List.append_nil, ← List.append_assoc,
    List.dropLast_concat]
  simp [dotted]

/-- Every address is written into a buffer of 16 characters, and read back from there. -/
theorem ip4addrAton_ntoaR (addr : Ip4Addr) :
    (ip4addrNtoaR addr ip4addrStrlenMax).bind ip4addrAton = some addr := by
  have byte (ap : UInt8) : ¬ap.toUInt32 > 0xff := by
    have bound := ap.toNat_lt
    rw [gt_iff_lt, UInt32.lt_iff_toNat_lt, UInt8.toNat_toUInt32]
    simp only [UInt32.reduceToNat]
    omega
  rw [ip4addrNtoaR_eq, Option.bind_some, ip4addrAton, dotted, atonParts_dot, atonParts_dot,
    atonParts_dot, atonParts_end]
  simp only [Option.map_some, Option.bind_eq_bind, Option.bind_some, List.head?_nil,
    Option.map_none, Option.getD_none, if_true, byte, or_self, if_false]
  rw [lwipHtonl_bytes]

end EpaperClock
