import EpaperClock.WeatherParser

/-! Host names in DNS messages, `lwip/src/core/dns.c`: the encoding in `dns_send`, and
`dns_compare_name` and `dns_skip_name` on what comes back.

A message is the list of its bytes. `query` is the memory from `entry->name` on, with what
lies behind the name in it: nothing bounds how far `dns_compare_name` reads there. -/
namespace EpaperClock

/-- What the name functions return for a name that differs or does not end. -/
abbrev nameError : Nat := 0xFFFF

def lwipTolower (c : UInt8) : UInt8 := if 0x41 ≤ c ∧ c ≤ 0x5a then c + 0x20 else c

/-- The loop in `dns_send` that writes the labels; `hostnamePart` is the present one, as far
as it has been read. -/
def queryLabels (hostnamePart : Bytes) : Bytes → Bytes
  | [] => hostnamePart.length.toUInt8 :: hostnamePart ++ [0]
  | c :: hostname =>
    if c = 0x2e then hostnamePart.length.toUInt8 :: hostnamePart ++ queryLabels [] hostname
    else queryLabels (hostnamePart ++ [c]) hostname

def queryName (hostname : Bytes) : Bytes := queryLabels [] hostname

/-- The loops of `dns_compare_name` from within a label of which `n` characters are left;
`p` is the message from `responseOffset` on. -/
def compareLabels (query : Nat → UInt8) (q : Nat) (n : Nat) (responseOffset : Nat) : Bytes → Nat
  | [] => nameError
  | c :: p =>
    match n with
    | n + 1 =>
      if lwipTolower (query q) ≠ lwipTolower c then nameError
      else if responseOffset = 0xFFFF then nameError
      else compareLabels query (q + 1) n (responseOffset + 1) p
    | 0 =>
      -- the character behind the label is not looked at
      if c = 0 then if responseOffset = 0xFFFF then nameError else responseOffset + 1
      else if responseOffset = 0xFFFF then nameError
      else if c &&& 0xc0 = 0xc0 then nameError
      else compareLabels query (q + 1) c.toNat (responseOffset + 1) p

/-- `dns_compare_name`. -/
def dnsCompareName (query : Nat → UInt8) (p : Bytes) (startOffset : Nat) : Nat :=
  match p.drop startOffset with
  | [] => nameError
  | n :: p =>
    if startOffset = 0xFFFF then nameError
    else if n &&& 0xc0 = 0xc0 then nameError
    else compareLabels query 0 n.toNat (startOffset + 1) p

/-- The loop of `dns_skip_name` with `n` bytes of a label left to skip; `totLen` is
`p->tot_len`. -/
def skipLabels (totLen : Nat) (n : Nat) (offset : Nat) : Bytes → Nat
  | [] => nameError
  | c :: p =>
    match n with
    | n + 1 => skipLabels totLen n (offset + 1) p
    | 0 =>
      if c = 0 then if offset = 0xFFFF then nameError else offset + 1
      else if offset = 0xFFFF then nameError
      else if c &&& 0xc0 = 0xc0 then if offset + 1 = 0xFFFF then nameError else offset + 2
      else if offset + 1 + c.toNat ≥ totLen then nameError
      else skipLabels totLen c.toNat (offset + 1) p

/-- `dns_skip_name`. -/
def dnsSkipName (p : Bytes) (queryIdx : Nat) : Nat :=
  match p.drop queryIdx with
  | [] => nameError
  | n :: rest =>
    if queryIdx = 0xFFFF then nameError
    else if n &&& 0xc0 = 0xc0 then if queryIdx + 1 = 0xFFFF then nameError else queryIdx + 2
    else if queryIdx + 1 + n.toNat ≥ p.length then nameError
    else skipLabels p.length n.toNat (queryIdx + 1) rest

/-! ### Names as lists of labels -/

/-- Labels, each behind its length. -/
def wire (labels : List Bytes) : Bytes := labels.flatMap fun label => label.length.toUInt8 :: label

/-- The labels stand side by side in memory, upper case or lower, one character apart. -/
def Shown (query : Nat → UInt8) : Nat → List Bytes → Prop
  | _, [] => True
  | q, label :: labels =>
    label.map lwipTolower = (List.range label.length).map (fun i => lwipTolower (query (q + i))) ∧
      Shown query (q + label.length + 1) labels

/-- The top bits are free for compressed names, and only the first label may be empty. -/
structure WellFormed (labels : List Bytes) : Prop where
  short : ∀ label ∈ labels, label.length < 0xc0
  full : ∀ label ∈ labels.tail, label ≠ []

theorem compressed_iff (c : UInt8) : c &&& 0xc0 = 0xc0 ↔ 0xc0 ≤ c.toNat := by
  have all : ∀ n : Fin 256, UInt8.ofNat n &&& 0xc0 = 0xc0 ↔ 0xc0 ≤ n.val := by decide +kernel
  have this := all ⟨c.toNat, c.toNat_lt⟩
  simpa using this

@[simp] theorem wire_nil : wire [] = [] := rfl

@[simp] theorem wire_cons (label : Bytes) (labels : List Bytes) :
    wire (label :: labels) = label.length.toUInt8 :: (label ++ wire labels) := rfl

theorem shown_cons (query : Nat → UInt8) (q : Nat) (c : UInt8) (label : Bytes)
    (labels : List Bytes) : Shown query q ((c :: label) :: labels) ↔
      lwipTolower c = lwipTolower (query q) ∧ Shown query (q + 1) (label :: labels) := by
  have shift : q + (label.length + 1) + 1 = q + 1 + label.length + 1 := by omega
  simp only [Shown, List.map_cons, List.length_cons, List.range_succ_eq_map, List.map_map,
    List.cons.injEq, Nat.add_zero, shift, and_assoc]
  have same : (List.range label.length).map ((fun i => lwipTolower (query (q + i))) ∘ Nat.succ) =
      (List.range label.length).map (fun i => lwipTolower (query (q + 1 + i))) := by
    refine List.map_congr_left fun i _ => ?_
    rw [Function.comp_apply, Nat.succ_eq_add_one, Nat.add_comm i 1, Nat.add_assoc]
  rw [same]

theorem length_eq_of_toUInt8 {label : Bytes} {c : UInt8} (short : label.length < 256)
    (coded : label.length.toUInt8 = c) : label.length = c.toNat := by
  rw [← coded, Nat.toUInt8, UInt8.toNat_ofNat', Nat.mod_eq_of_lt short]

/-! ### What `dns_compare_name` accepts -/

/-- From within a label: the rest of it, more labels and the final zero. -/
def Rest (query : Nat → UInt8) (q n responseOffset : Nat) (p : Bytes) (stop : Nat) : Prop :=
  ∃ label labels tail, p = label ++ wire labels ++ 0 :: tail ∧ label.length = n ∧
    stop = responseOffset + n + (wire labels).length + 1 ∧
    (∀ l ∈ labels, l ≠ [] ∧ l.length < 0xc0) ∧ Shown query q (label :: labels)

theorem rest_succ (query : Nat → UInt8) (q n responseOffset : Nat) (c : UInt8) (p : Bytes)
    (stop : Nat) : Rest query q (n + 1) responseOffset (c :: p) stop ↔
      lwipTolower c = lwipTolower (query q) ∧ Rest query (q + 1) n (responseOffset + 1) p stop := by
  constructor
  · rintro ⟨_ | ⟨d, label⟩, labels, tail, bytes, length, rfl, each, shown⟩
    · cases length
    · obtain ⟨rfl, rest⟩ := List.cons.inj bytes
      have shorter : label.length = n := Nat.succ.inj length
      obtain ⟨same, shown⟩ := (shown_cons ..).mp shown
      exact ⟨same, label, labels, tail, rest, shorter, by omega, each, shown⟩
  · rintro ⟨same, label, labels, tail, rfl, rfl, rfl, each, shown⟩
    exact ⟨c :: label, labels, tail, rfl, rfl, by omega, each, (shown_cons ..).mpr ⟨same, shown⟩⟩

theorem rest_zero (query : Nat → UInt8) (q responseOffset : Nat) (c : UInt8) (p : Bytes)
    (stop : Nat) : Rest query q 0 responseOffset (c :: p) stop ↔
      if c = 0 then responseOffset + 1 = stop
      else c.toNat < 0xc0 ∧ Rest query (q + 1) c.toNat (responseOffset + 1) p stop := by
  constructor
  · rintro ⟨label, labels, tail, bytes, length, rfl, each, shown⟩
    obtain rfl : label = [] := List.eq_nil_of_length_eq_zero length
    cases labels with
    | nil =>
      obtain ⟨rfl, rfl⟩ := List.cons.inj bytes
      simp
    | cons label labels =>
      obtain ⟨full, short⟩ := each label List.mem_cons_self
      obtain ⟨coded, rfl⟩ := List.cons.inj bytes
      have length := length_eq_of_toUInt8 (by omega) coded.symm
      have nonzero : c ≠ 0 := by
        rintro rfl
        exact full (List.eq_nil_of_length_eq_zero length)
      rw [if_neg nonzero]
      refine ⟨length ▸ short, label, labels, tail, rfl, length, ?_, ?_, ?_⟩
      · simp only [wire_cons, List.length_cons, List.length_append]
        omega
      · exact fun l member => each l (List.mem_cons_of_mem _ member)
      · simpa [Shown] using shown
  · split
    next zero =>
      rintro rfl
      exact ⟨[], [], p, by rw [zero]; rfl, rfl, rfl, by simp, by simp [Shown]⟩
    next nonzero =>
      rintro ⟨short, label, labels, tail, rfl, length, rfl, each, shown⟩
      have full : label ≠ [] := by
        rintro rfl
        exact nonzero (UInt8.toNat_inj.mp length.symm)
      have coded : label.length.toUInt8 = c := by simp [length]
      refine ⟨[], label :: labels, tail, ?_, rfl, ?_, ?_, ?_⟩
      · simp [coded]
      · simp only [wire_cons, List.length_cons, List.length_append]
        omega
      · simp only [List.mem_cons, forall_eq_or_imp]
        exact ⟨⟨full, length ▸ short⟩, each⟩
      · simpa [Shown] using shown

theorem compareLabels_eq_iff (query : Nat → UInt8) {stop : Nat} (found : stop < nameError)
    (p : Bytes) : ∀ q n responseOffset, responseOffset ≤ 0xFFFF →
      (compareLabels query q n responseOffset p = stop ↔ Rest query q n responseOffset p stop) := by
  induction p with
  | nil =>
    intro q n responseOffset _
    simp [compareLabels, Rest, found.ne']
  | cons c p ih =>
    intro q n responseOffset bound
    -- nothing that ends in time is found from the last offset
    have last : ∀ q n, responseOffset = 0xFFFF → ¬Rest query q n (responseOffset + 1) p stop := by
      rintro q n full ⟨label, labels, tail, _, _, rfl, _⟩
      simp only [nameError] at found
      omega
    cases n with
    | succ n =>
      rw [compareLabels, rest_succ]
      split
      next differs => simp [found.ne', Ne.symm differs]
      next same =>
        have same : lwipTolower c = lwipTolower (query q) := (not_not.mp same).symm
        split
        next full => simp [found.ne', last _ _ full]
        next => simp [same, ih (q + 1) n (responseOffset + 1) (by omega)]
    | zero =>
      rw [compareLabels, rest_zero]
      split
      next =>
        split
        next full => simp only [nameError] at *; omega
        next => rfl
      next =>
        split
        next full => simp [found.ne', last _ _ full]
        next =>
          split
          next compressed =>
            have long := (compressed_iff c).mp compressed
            simp [found.ne', Nat.not_lt.mpr long]
          next plain =>
            have short : c.toNat < 0xc0 := by
              rw [compressed_iff] at plain
              omega
            simp [short, ih (q + 1) c.toNat (responseOffset + 1) (by omega)]

/-- The name at an offset of a message, read from its first length on. -/
theorem named_cons (query : Nat → UInt8) (c : UInt8) (p : Bytes) (startOffset stop : Nat) :
    (∃ labels tail, labels ≠ [] ∧ c :: p = wire labels ++ 0 :: tail ∧
      stop = startOffset + (wire labels).length + 1 ∧ WellFormed labels ∧ Shown query 0 labels) ↔
      c.toNat < 0xc0 ∧ Rest query 0 c.toNat (startOffset + 1) p stop := by
  constructor
  · rintro ⟨_ | ⟨label, labels⟩, tail, some, bytes, rfl, formed, shown⟩
    · exact absurd rfl some
    · obtain ⟨coded, rfl⟩ := List.cons.inj bytes
      have short := formed.short label List.mem_cons_self
      have length := length_eq_of_toUInt8 (by omega) coded.symm
      refine ⟨length ▸ short, label, labels, tail, rfl, length, ?_, ?_, shown⟩
      · simp only [wire_cons, List.length_cons, List.length_append]
        omega
      · exact fun l member => ⟨formed.full l member, formed.short l (List.mem_cons_of_mem _ member)⟩
  · rintro ⟨short, label, labels, tail, rfl, length, rfl, each, shown⟩
    have coded : label.length.toUInt8 = c := by simp [length]
    refine ⟨label :: labels, tail, List.cons_ne_nil _ _, ?_, ?_, ⟨?_, ?_⟩, shown⟩
    · simp [coded]
    · simp only [wire_cons, List.length_cons, List.length_append]
      omega
    · simp only [List.mem_cons, forall_eq_or_imp]
      exact ⟨length ▸ short, fun l member => (each l member).2⟩
    · exact fun l member => (each l member).1

theorem dnsCompareName_eq_iff (query : Nat → UInt8) (p : Bytes) {startOffset stop : Nat}
    (start : startOffset ≤ 0xFFFF) (found : stop < nameError) :
    dnsCompareName query p startOffset = stop ↔
      ∃ labels tail, labels ≠ [] ∧ p.drop startOffset = wire labels ++ 0 :: tail ∧
        stop = startOffset + (wire labels).length + 1 ∧ WellFormed labels ∧
        Shown query 0 labels := by
  unfold dnsCompareName
  split
  next none => simp [none, found.ne']
  next c p bytes =>
    rw [bytes, named_cons]
    split
    next full =>
      have late : ¬Rest query 0 c.toNat (startOffset + 1) p stop := by
        rintro ⟨label, labels, tail, _, _, rfl, _⟩
        simp only [nameError] at found
        omega
      simp [found.ne', late]
    next =>
      split
      next compressed =>
        have long := (compressed_iff c).mp compressed
        simp [found.ne', Nat.not_lt.mpr long]
      next plain =>
        have short : c.toNat < 0xc0 := by
          rw [compressed_iff] at plain
          omega
        simp [short, compareLabels_eq_iff query found p 0 c.toNat (startOffset + 1) (by omega)]

/-! ### The name of a query, echoed -/

theorem queryLabels_eq (hostname : Bytes) : ∀ hostnamePart : Bytes,
    queryLabels hostnamePart hostname =
      wire (hostname.splitOnPPrepend (· == 0x2e) hostnamePart.reverse) ++ [0] := by
  induction hostname with
  | nil =>
    intro hostnamePart
    simp [queryLabels]
  | cons c hostname ih =>
    intro hostnamePart
    by_cases dot : c = 0x2e
    · simp [queryLabels, dot, ih, List.splitOnPPrepend]
    · simp [queryLabels, dot, ih, List.splitOnPPrepend]

/-- `dns_send` writes the dotted name label by label. -/
theorem queryName_eq (hostname : Bytes) : queryName hostname = wire (hostname.splitOn 0x2e) ++ [0] :=
  queryLabels_eq hostname []

/-- The memory from `q` on begins with `hostname`. -/
def Holds (query : Nat → UInt8) (q : Nat) (hostname : Bytes) : Prop :=
  ∀ i (h : i < hostname.length), query (q + i) = hostname[i]

theorem Holds.shown {query : Nat → UInt8} {q : Nat} {label rest : Bytes}
    (holds : Holds query q (label ++ rest)) :
    label.map lwipTolower = (List.range label.length).map (fun i => lwipTolower (query (q + i))) := by
  apply List.ext_getElem (by simp)
  intro i inside _
  have inside : i < label.length := by simpa using inside
  simp [holds i (by simp; omega), List.getElem_append_left inside]

theorem Holds.tail {query : Nat → UInt8} {q : Nat} {label rest : Bytes}
    (holds : Holds query q (label ++ rest)) : Holds query (q + label.length) rest := by
  intro i inside
  rw [Nat.add_assoc, holds (label.length + i) (by simp; omega)]
  simp

theorem shown_splitOn (query : Nat → UInt8) (hostname : Bytes) : ∀ (part : Bytes) (q : Nat),
    Holds query q (part.reverse ++ hostname) →
      Shown query q (hostname.splitOnPPrepend (· == 0x2e) part) := by
  induction hostname with
  | nil =>
    intro part q holds
    simpa [Shown] using holds.shown
  | cons c hostname ih =>
    intro part q holds
    by_cases dot : c = 0x2e
    · have rest : Holds query (q + part.reverse.length) ([c] ++ hostname) := holds.tail
      have behind : Holds query (q + part.reverse.length + 1) hostname := rest.tail
      simp only [List.splitOnPPrepend, dot, beq_self_eq_true, if_true]
      exact ⟨holds.shown, ih [] _ behind⟩
    · have moved : (c :: part).reverse ++ hostname = part.reverse ++ c :: hostname := by simp
      have other : (c == 0x2e) = false := by simpa using dot
      simp only [List.splitOnPPrepend, other]
      exact ih (c :: part) q (moved ▸ holds)

theorem wire_injective : ∀ labels labels' : List Bytes,
    (∀ label ∈ labels, label.length < 256) → (∀ label ∈ labels', label.length < 256) →
      wire labels = wire labels' → labels = labels' := by
  intro labels
  induction labels with
  | nil =>
    rintro (_ | ⟨label', labels'⟩) _ _ same
    · rfl
    · cases same
  | cons label labels ih =>
    rintro (_ | ⟨label', labels'⟩) short short' same
    · cases same
    · rw [wire_cons, wire_cons] at same
      obtain ⟨coded, same⟩ := List.cons.inj same
      have length := length_eq_of_toUInt8 (short label List.mem_cons_self) coded
      have length' := length_eq_of_toUInt8 (short' label' List.mem_cons_self) rfl
      obtain ⟨rfl, rest⟩ := List.append_inj same (length.trans length'.symm)
      rw [ih labels' (fun l member => short l (List.mem_cons_of_mem _ member))
        (fun l member => short' l (List.mem_cons_of_mem _ member)) rest]

theorem length_wire_splitOn (hostname : Bytes) :
    (wire (hostname.splitOn 0x2e)).length = hostname.length + 1 := by
  have total : ∀ (hostname part : Bytes),
      (wire (hostname.splitOnPPrepend (· == 0x2e) part)).length =
        part.length + hostname.length + 1 := by
    intro hostname
    induction hostname with
    | nil => simp
    | cons c hostname ih =>
      intro part
      have rest := ih []
      have longer := ih (c :: part)
      simp only [List.splitOnPPrepend]
      split
      · simp only [wire_cons, List.length_cons, List.length_append, List.length_reverse]
        simp only [List.length_nil] at rest
        omega
      · simp only [List.length_cons] at *
        omega
  rw [← Nat.zero_add hostname.length]
  exact total hostname []

theorem length_lt_wire {labels : List Bytes} {label : Bytes} (member : label ∈ labels) :
    label.length < (wire labels).length := by
  induction labels with
  | nil => simp at member
  | cons first labels ih =>
    simp only [wire_cons, List.length_cons, List.length_append]
    rcases List.mem_cons.mp member with rfl | behind
    · omega
    · have := ih behind
      omega

/-- The name of a query comes back accepted exactly where no label is as long as a compressed
name's mark and none but the first is empty. -/
theorem dnsCompareName_queryName (query : Nat → UInt8) (before hostname behind : Bytes)
    (name : Holds query 0 hostname) (short : hostname.length < 256)
    (early : before.length + hostname.length + 2 < nameError) :
    dnsCompareName query (before ++ queryName hostname ++ behind) before.length =
        before.length + hostname.length + 2 ↔
      WellFormed (hostname.splitOn 0x2e) := by
  have start : before.length ≤ 0xFFFF := by
    simp only [nameError] at early
    omega
  have length := length_wire_splitOn hostname
  have bytes : (before ++ queryName hostname ++ behind).drop before.length =
      wire (hostname.splitOn 0x2e) ++ 0 :: behind := by
    simp [queryName_eq]
  rw [dnsCompareName_eq_iff query _ start early, bytes]
  constructor
  · rintro ⟨labels, tail, _, same, stop, formed, _⟩
    have same := (List.append_inj same (by omega)).1
    have sent : hostname.splitOn 0x2e = labels := by
      refine wire_injective _ _ (fun label member => ?_) (fun label member => ?_) same
      · have := length_lt_wire member
        omega
      · have := formed.short label member
        omega
    rwa [sent]
  · intro formed
    exact ⟨hostname.splitOn 0x2e, behind, List.splitOnPPrepend_ne_nil _ _ _, rfl, by omega, formed,
      shown_splitOn query hostname [] 0 name⟩

/-! ### Names to skip -/

theorem skipLabels_eq (query : Nat → UInt8) {stop : Nat} (found : stop < nameError) (totLen : Nat)
    (p : Bytes) : ∀ q n offset, offset ≤ 0xFFFF → offset + p.length ≤ totLen →
      compareLabels query q n offset p = stop → skipLabels totLen n offset p = stop := by
  induction p with
  | nil =>
    rintro q n offset _ _ rfl
    simp [compareLabels] at found
  | cons c p ih =>
    intro q n offset bound inside compared
    have inside : offset + 1 + p.length ≤ totLen := by
      rw [List.length_cons] at inside
      omega
    cases n with
    | succ n =>
      rw [compareLabels] at compared
      split_ifs at compared
      · exact absurd compared found.ne'
      · exact absurd compared found.ne'
      · exact ih (q + 1) n (offset + 1) (by omega) inside compared
    | zero =>
      rw [compareLabels] at compared
      rw [skipLabels]
      split_ifs at compared ⊢
      · exact compared
      · exact compared
      · exact compared
      · exact absurd compared found.ne'
      · exact absurd compared found.ne'
      next long =>
        -- the label compared lies within the message
        obtain ⟨label, labels, tail, rfl, length, _⟩ :=
          (compareLabels_eq_iff query found p _ _ _ (by omega)).mp compared
        simp only [List.length_append, List.length_cons] at inside
        omega
      · exact ih (q + 1) c.toNat (offset + 1) (by omega) inside compared

theorem dnsSkipName_eq (query : Nat → UInt8) (p : Bytes) {startOffset stop : Nat}
    (start : startOffset ≤ 0xFFFF) (found : stop < nameError)
    (compared : dnsCompareName query p startOffset = stop) : dnsSkipName p startOffset = stop := by
  unfold dnsCompareName at compared
  unfold dnsSkipName
  split at compared
  next => exact absurd compared found.ne'
  next c rest bytes =>
    have inside : startOffset + 1 + rest.length ≤ p.length := by
      have length := congrArg List.length bytes
      rw [List.length_drop, List.length_cons] at length
      omega
    split_ifs at compared ⊢
    · exact absurd compared found.ne'
    · exact absurd compared found.ne'
    · exact absurd compared found.ne'
    · obtain ⟨label, labels, tail, rfl, length, _⟩ :=
        (compareLabels_eq_iff query found rest _ _ _ (by omega)).mp compared
      simp only [List.length_append, List.length_cons] at inside
      omega
    · exact skipLabels_eq query found _ rest 0 c.toNat (startOffset + 1) (by omega) inside compared

/-- Both functions find the end of a name, `dns_compare_name` of an uncompressed one that the
query begins with, upper case or lower. -/
theorem dnsCompareName_exact (query : Nat → UInt8) (p : Bytes) {startOffset stop : Nat}
    (start : startOffset ≤ 0xFFFF) (found : stop < nameError) :
    (dnsCompareName query p startOffset = stop ↔
      ∃ labels tail, labels ≠ [] ∧ p.drop startOffset = wire labels ++ 0 :: tail ∧
        stop = startOffset + (wire labels).length + 1 ∧ WellFormed labels ∧
        Shown query 0 labels) ∧
      (dnsCompareName query p startOffset = stop → dnsSkipName p startOffset = stop) :=
  ⟨dnsCompareName_eq_iff query p start found, dnsSkipName_eq query p start found⟩

/-- The query goes on where the name ends. -/
theorem dnsCompareName_exact_prefix :
    let query := fun i => (ascii "pool.ntp.org").getD i 0
    let p := ascii "\x04POOL" ++ [0, 0, 1, 0, 1]
    (∃ labels tail, labels ≠ [] ∧ p.drop 0 = wire labels ++ 0 :: tail ∧
      6 = 0 + (wire labels).length + 1 ∧ WellFormed labels ∧ Shown query 0 labels) ∧
      dnsSkipName p 0 = 6 := by
  have compared : dnsCompareName (fun i => (ascii "pool.ntp.org").getD i 0)
      (ascii "\x04POOL" ++ [0, 0, 1, 0, 1]) 0 = 6 := by
    decide +kernel
  have exactly := dnsCompareName_exact (fun i => (ascii "pool.ntp.org").getD i 0)
    (ascii "\x04POOL" ++ [0, 0, 1, 0, 1]) (Nat.zero_le 0xFFFF) (by decide : 6 < nameError)
  exact ⟨exactly.1.mp compared, exactly.2 compared⟩

end EpaperClock
