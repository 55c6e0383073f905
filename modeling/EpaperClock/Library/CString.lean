import Mathlib.Data.List.GetD
import Mathlib.Data.List.Infix

/-! C string functions on a piece of memory.

The argument of a function is the memory from its pointer to the end of the object; a
read past the end fails with `none`. A string in such a memory is `s ++ 0 :: tail` with
no 0 in `s`. -/
namespace CString

variable {α : Type} [DecidableEq α] [Zero α]

/-- `strncmp(memory, literal, strlen(literal)) == 0`. -/
def strncmpEq : List α → List α → Option Bool
  | [], _ => some true
  | _ :: _, [] => none
  | l :: literal, c :: memory => if c = l then strncmpEq literal memory else some false

/-- `strstr(memory, needle)` as an offset; the needle is not empty. -/
def strstr (needle : List α) : List α → Option (Option Nat)
  | [] => none
  | c :: memory => do
    if ← strncmpEq needle (c :: memory) then some (some 0)
    else if c = 0 then some none
    else (strstr needle memory).map (Option.map (· + 1))

/-- The rest of `strtok` inside a token: the memory after the call. -/
def strtokToken (delim : α) : List α → Option (List α)
  | [] => none
  | c :: memory =>
    if c = 0 then some (c :: memory)
    else if c = delim then some (0 :: memory)
    else (strtokToken delim memory).map (c :: ·)

/-- `strtok(memory, "d")` for a one-character `d`: the memory after the call. -/
def strtok (delim : α) : List α → Option (List α)
  | [] => none
  | c :: memory =>
    if c = delim then (strtok delim memory).map (c :: ·)
    else strtokToken delim (c :: memory)

/-- The bytes that `strncpy(_, memory, n)` stores. -/
def strncpy : Nat → List α → Option (List α)
  | 0, _ => some []
  | _ + 1, [] => none
  | n + 1, c :: memory =>
    if c = 0 then some (List.replicate (n + 1) 0) else (strncpy n memory).map (c :: ·)

/-! ### On strings -/

/-- Where `needle` first occurs. -/
def locate (needle : List α) : List α → Option Nat
  | [] => if needle = [] then some 0 else none
  | c :: s => if needle <+: c :: s then some 0 else (locate needle s).map (· + 1)

/-- Leading delimiters and the token behind them. -/
def token (delim : α) (s : List α) : List α :=
  s.takeWhile (· = delim) ++ (s.dropWhile (· = delim)).takeWhile (· ≠ delim)

/-- `n` bytes of `s`, filled up with 0. -/
def padded (n : Nat) (s : List α) : List α := s.take n ++ List.replicate (n - s.length) 0

omit [Zero α] in
theorem locate_spec {needle s : List α} {i : Nat} (found : locate needle s = some i) :
    needle <+: s.drop i := by
  induction s generalizing i with
  | nil =>
    simp only [locate, Option.ite_none_right_eq_some] at found
    simp [found.1]
  | cons c s ih =>
    simp only [locate] at found
    split at found
    next here =>
      cases found
      exact here
    next =>
      obtain ⟨j, later, rfl⟩ := Option.map_eq_some_iff.mp found
      exact ih later

omit [Zero α] in
theorem locate_bound {needle s : List α} (nonempty : needle ≠ []) {i : Nat}
    (found : locate needle s = some i) : i + needle.length ≤ s.length := by
  have fits := (locate_spec found).length_le
  have present := List.length_pos_iff.mpr nonempty
  rw [List.length_drop] at fits
  omega

omit [Zero α] in
theorem locate_le {needle s pre post : List α} (occurs : s = pre ++ needle ++ post) :
    ∃ i, locate needle s = some i ∧ i ≤ pre.length := by
  induction s generalizing pre with
  | nil =>
    have empty := List.append_eq_nil_iff.mp (List.append_eq_nil_iff.mp occurs.symm).1
    exact ⟨0, by simp [locate, empty.2], Nat.zero_le _⟩
  | cons c s ih =>
    simp only [locate]
    split
    · exact ⟨0, rfl, Nat.zero_le _⟩
    next elsewhere =>
      cases pre with
      | nil => exact absurd ⟨post, by simpa using occurs.symm⟩ elsewhere
      | cons d pre =>
        simp only [List.cons_append, List.cons.injEq] at occurs
        obtain ⟨i, found, bound⟩ := ih occurs.2
        exact ⟨i + 1, by rw [found]; rfl, Nat.succ_le_succ bound⟩

omit [Zero α] in
theorem locate_eq_none_iff {needle s : List α} : locate needle s = none ↔ ¬needle <:+: s := by
  constructor
  · rintro missing ⟨pre, post, occurs⟩
    obtain ⟨i, found, _⟩ := locate_le occurs.symm
    rw [missing] at found
    cases found
  · intro absent
    cases found : locate needle s with
    | none => rfl
    | some i =>
      exact absurd ((locate_spec found).isInfix.trans (List.drop_suffix i s).isInfix) absent

omit [Zero α] in
theorem token_isPrefix (delim : α) (s : List α) : token delim s <+: s := by
  have whole : s.takeWhile (· = delim) ++ s.dropWhile (· = delim) = s := List.takeWhile_append_dropWhile
  have inner : (s.dropWhile (· = delim)).takeWhile (· ≠ delim) <+: s.dropWhile (· = delim) :=
    List.takeWhile_prefix _
  calc token delim s <+: s.takeWhile (· = delim) ++ s.dropWhile (· = delim) :=
        (List.prefix_append_right_inj _).mpr inner
    _ = s := whole

omit [Zero α] in
/-- Cutting a string behind the first occurrence keeps it the first. -/
theorem locate_of_isPrefix {needle s t : List α} {i : Nat} (found : locate needle s = some i)
    (cut : t <+: s) (kept : i + needle.length ≤ t.length) : locate needle t = some i := by
  obtain ⟨tail, rfl⟩ := cut
  have bound : i ≤ t.length := Nat.le_of_add_right_le kept
  have here : needle <+: t.drop i := by
    have there := locate_spec found
    rw [List.drop_append_of_le_length bound] at there
    have room : needle.length ≤ (t.drop i).length := by
      rw [List.length_drop]
      omega
    exact List.prefix_of_prefix_length_le there (List.prefix_append _ _) room
  obtain ⟨post, split⟩ := here
  have occurs : t = t.take i ++ needle ++ post := by
    rw [List.append_assoc, split, List.take_append_drop]
  obtain ⟨j, first, before⟩ := locate_le occurs
  rw [List.length_take_of_le bound] at before
  -- an earlier occurrence in the cut string is one in the whole string
  obtain ⟨post', split'⟩ := locate_spec first
  have occurs' : t ++ tail = t.take j ++ needle ++ (post' ++ tail) := by
    rw [← List.append_assoc, List.append_assoc (t.take j), split', List.take_append_drop]
  obtain ⟨k, whole, after⟩ := locate_le occurs'
  obtain rfl : k = i := Option.some.inj (whole.symm.trans found)
  rw [List.length_take_of_le (Nat.le_trans before bound)] at after
  rw [first, Nat.le_antisymm before after]

omit [Zero α] in
/-- A token that does not start at a delimiter ends at the first one. -/
theorem token_append_delim {delim : α} {v : List α} (nonempty : v ≠ []) (clean : delim ∉ v)
    (post : List α) : token delim (v ++ delim :: post) = v := by
  have other : ∀ c ∈ v, decide (c ≠ delim) = true := by
    intro c member
    simpa using fun same : c = delim => clean (same ▸ member)
  cases v with
  | nil => exact absurd rfl nonempty
  | cons c v =>
    have start : ¬c = delim := by simpa using other c List.mem_cons_self
    have skipped : List.dropWhile (· = delim) (c :: v ++ delim :: post) = c :: v ++ delim :: post := by
      simp [start]
    have none : List.takeWhile (· = delim) (c :: v ++ delim :: post) = [] := by simp [start]
    rw [token, skipped, none, List.nil_append, List.takeWhile_append_of_pos other]
    simp

/-! ### `strncmp` -/

omit [Zero α] in
theorem strncmpEq_append {literal memory : List α} {equal : Bool}
    (done : strncmpEq literal memory = some equal) (more : List α) :
    strncmpEq literal (memory ++ more) = some equal := by
  induction literal generalizing memory with
  | nil => exact done
  | cons l literal ih =>
    cases memory with
    | nil => cases done
    | cons c memory =>
      simp only [strncmpEq, List.cons_append] at done ⊢
      split at done
      next same => rw [if_pos same]; exact ih done
      next differs => rw [if_neg differs]; exact done

omit [Zero α] in
theorem strncmpEq_eq_true_iff {literal memory : List α} :
    strncmpEq literal memory = some true ↔ literal <+: memory := by
  induction literal generalizing memory with
  | nil => simp [strncmpEq]
  | cons l literal ih =>
    cases memory with
    | nil => simp [strncmpEq]
    | cons c memory =>
      simp only [strncmpEq, List.cons_prefix_cons]
      split
      next same => simp [ih, same]
      next differs => simp [eq_comm (a := l), differs]

omit [Zero α] in
/-- The comparison leaves the memory exactly when the memory ends inside the literal. -/
theorem strncmpEq_eq_none_iff {literal memory : List α} :
    strncmpEq literal memory = none ↔ memory <+: literal ∧ memory ≠ literal := by
  induction literal generalizing memory with
  | nil => simp [strncmpEq]
  | cons l literal ih =>
    cases memory with
    | nil => simp [strncmpEq]
    | cons c memory =>
      simp only [strncmpEq, List.cons_prefix_cons, List.cons.injEq, ne_eq]
      split
      next same => simp [ih, same]
      next differs => simp [differs]

theorem strncmpEq_terminated {literal s : List α} (clean : 0 ∉ literal) (tail : List α) :
    strncmpEq literal (s ++ 0 :: tail) = some (decide (literal <+: s)) := by
  induction literal generalizing s with
  | nil => simp [strncmpEq]
  | cons l literal ih =>
    obtain ⟨head, rest⟩ := not_or.mp (List.mem_cons.not.mp clean)
    cases s with
    | nil => simp [strncmpEq, head]
    | cons c s =>
      simp only [List.cons_append, strncmpEq, ih rest, List.cons_prefix_cons]
      split
      next same => simp [same]
      next differs => simp [eq_comm (a := l), differs]

/-! ### `strstr` -/

theorem strstr_append {needle memory : List α} {result : Option Nat}
    (done : strstr needle memory = some result) (more : List α) :
    strstr needle (memory ++ more) = some result := by
  induction memory generalizing result with
  | nil => cases done
  | cons c memory ih =>
    simp only [strstr, List.cons_append] at done ⊢
    obtain ⟨here, compared, rest⟩ := Option.bind_eq_some_iff.mp done
    have still := strncmpEq_append compared more
    rw [List.cons_append] at still
    rw [still]
    cases here with
    | true => exact rest
    | false =>
      simp only [Option.bind_eq_bind, Option.bind_some, Bool.false_eq_true, if_false] at rest ⊢
      split at rest
      next ended => rw [if_pos ended]; exact rest
      next going =>
        obtain ⟨found, later, same⟩ := Option.map_eq_some_iff.mp rest
        rw [if_neg going, ih later]
        exact congrArg some same

theorem strstr_spec {needle memory : List α} {i : Nat}
    (found : strstr needle memory = some (some i)) : needle <+: memory.drop i := by
  induction memory generalizing i with
  | nil => cases found
  | cons c memory ih =>
    simp only [strstr] at found
    obtain ⟨here, compared, rest⟩ := Option.bind_eq_some_iff.mp found
    split at rest
    next equal =>
      cases rest
      exact strncmpEq_eq_true_iff.mp (equal ▸ compared)
    next =>
      split at rest
      · cases rest
      · obtain ⟨result, later, shifted⟩ := Option.map_eq_some_iff.mp rest
        obtain ⟨j, rfl, rfl⟩ := Option.map_eq_some_iff.mp shifted
        exact ih later

theorem strstr_bound {needle memory : List α} (nonempty : needle ≠ []) {i : Nat}
    (found : strstr needle memory = some (some i)) : i + needle.length ≤ memory.length := by
  have fits := (strstr_spec found).length_le
  have present := List.length_pos_iff.mpr nonempty
  rw [List.length_drop] at fits
  omega

/-- On a string, `strstr` finds the first occurrence. -/
theorem strstr_terminated {needle s : List α} (clean : 0 ∉ needle) (nonempty : needle ≠ [])
    (string : 0 ∉ s) (tail : List α) : strstr needle (s ++ 0 :: tail) = some (locate needle s) := by
  induction s with
  | nil =>
    have compared := strncmpEq_terminated (s := []) clean tail
    simp only [List.nil_append, List.prefix_nil, nonempty, decide_false] at compared
    simp [strstr, compared, locate, nonempty]
  | cons c s ih =>
    obtain ⟨head, rest⟩ := not_or.mp (List.mem_cons.not.mp string)
    have compared := strncmpEq_terminated (s := c :: s) clean tail
    rw [List.cons_append] at compared
    simp only [List.cons_append, strstr, compared, locate, ih rest, Option.bind_eq_bind,
      Option.bind_some, decide_eq_true_eq, Option.map_some]
    split
    · rfl
    · rw [if_neg (fun zero => head zero.symm)]

omit [Zero α] in
theorem locate_eq_none_of_length {needle s : List α} (short : s.length < needle.length) :
    locate needle s = none := by
  rw [locate_eq_none_iff]
  intro occurs
  exact absurd occurs.length_le (Nat.not_le_of_lt short)

/-- Without a terminator, `strstr` stays in the memory exactly when it finds the needle. -/
theorem strstr_unterminated {needle memory : List α} (nonempty : needle ≠ [])
    (endless : 0 ∉ memory) : strstr needle memory = (locate needle memory).map some := by
  induction memory with
  | nil => simp [strstr, locate, nonempty]
  | cons c memory ih =>
    obtain ⟨head, rest⟩ := not_or.mp (List.mem_cons.not.mp endless)
    have going : ¬c = 0 := fun zero => head zero.symm
    simp only [strstr, locate]
    cases compared : strncmpEq needle (c :: memory) with
    | none =>
      obtain ⟨before, differs⟩ := strncmpEq_eq_none_iff.mp compared
      have shorter : (c :: memory).length < needle.length :=
        lt_of_le_of_ne before.length_le (fun same => differs (before.eq_of_length same))
      have elsewhere : ¬needle <+: c :: memory := by
        intro here
        exact absurd here.length_le (Nat.not_le_of_lt shorter)
      rw [if_neg elsewhere, locate_eq_none_of_length (Nat.lt_of_succ_lt shorter)]
      rfl
    | some equal =>
      cases equal with
      | true => rw [if_pos (strncmpEq_eq_true_iff.mp compared)]; rfl
      | false =>
        have elsewhere : ¬needle <+: c :: memory := by
          intro here
          rw [strncmpEq_eq_true_iff.mpr here] at compared
          cases compared
        rw [if_neg elsewhere]
        simp only [Option.bind_eq_bind, Option.bind_some, Bool.false_eq_true, if_false, going,
          ih rest, Option.map_map]
        rfl

/-! ### `strtok` -/

theorem strtokToken_append {delim : α} {memory after : List α}
    (done : strtokToken delim memory = some after) (more : List α) :
    strtokToken delim (memory ++ more) = some (after ++ more) := by
  induction memory generalizing after with
  | nil => cases done
  | cons c memory ih =>
    simp only [strtokToken, List.cons_append] at done ⊢
    split at done
    next ended => rw [if_pos ended]; cases done; rfl
    next going =>
      rw [if_neg going]
      split at done
      next hit => rw [if_pos hit]; cases done; rfl
      next miss =>
        obtain ⟨rest, later, rfl⟩ := Option.map_eq_some_iff.mp done
        rw [if_neg miss, ih later]
        rfl

theorem strtok_append {delim : α} {memory after : List α}
    (done : strtok delim memory = some after) (more : List α) :
    strtok delim (memory ++ more) = some (after ++ more) := by
  induction memory generalizing after with
  | nil => cases done
  | cons c memory ih =>
    simp only [strtok, List.cons_append] at done ⊢
    split at done
    next skipped =>
      obtain ⟨rest, later, rfl⟩ := Option.map_eq_some_iff.mp done
      rw [if_pos skipped, ih later]
      rfl
    next start =>
      rw [if_neg start]
      exact strtokToken_append done more

theorem strtokToken_terminated (delim : α) {s : List α} (string : 0 ∉ s) (tail : List α) :
    ∃ tail', strtokToken delim (s ++ 0 :: tail) =
      some (s.takeWhile (· ≠ delim) ++ 0 :: tail') := by
  induction s with
  | nil => exact ⟨tail, by simp [strtokToken]⟩
  | cons c s ih =>
    obtain ⟨head, rest⟩ := not_or.mp (List.mem_cons.not.mp string)
    have going : ¬c = 0 := fun zero => head zero.symm
    simp only [List.cons_append, strtokToken, if_neg going]
    by_cases hit : c = delim
    · exact ⟨s ++ 0 :: tail, by simp [hit]⟩
    · obtain ⟨tail', done⟩ := ih rest
      exact ⟨tail', by simp [hit, done]⟩

/-- On a string, `strtok` ends the string behind its token. -/
theorem strtok_terminated {delim : α} (visible : delim ≠ 0) {s : List α} (string : 0 ∉ s)
    (tail : List α) :
    ∃ tail', strtok delim (s ++ 0 :: tail) = some (token delim s ++ 0 :: tail') := by
  induction s with
  | nil => exact ⟨tail, by simp [strtok, strtokToken, token, visible.symm]⟩
  | cons c s ih =>
    obtain ⟨head, rest⟩ := not_or.mp (List.mem_cons.not.mp string)
    by_cases skipped : c = delim
    · obtain ⟨tail', done⟩ := ih rest
      refine ⟨tail', ?_⟩
      simp only [List.cons_append, strtok, if_pos skipped, done, Option.map_some, token]
      simp [skipped]
    · obtain ⟨tail', done⟩ := strtokToken_terminated delim string tail
      refine ⟨tail', ?_⟩
      rw [List.cons_append] at done
      simp only [List.cons_append, strtok, if_neg skipped, done, token]
      simp [skipped]

theorem strtokToken_unterminated {delim : α} {memory : List α} (endless : 0 ∉ memory) :
    (strtokToken delim memory).isSome = true ↔ delim ∈ memory := by
  induction memory with
  | nil => simp [strtokToken]
  | cons c memory ih =>
    obtain ⟨head, rest⟩ := not_or.mp (List.mem_cons.not.mp endless)
    have going : ¬c = 0 := fun zero => head zero.symm
    simp only [strtokToken, if_neg going]
    by_cases hit : c = delim
    · simp [hit]
    · simp [hit, ih rest, eq_comm (a := delim)]

/-- Without a terminator, `strtok` stays in the memory exactly when a delimiter follows
its token. -/
theorem strtok_unterminated {delim : α} {memory : List α} (endless : 0 ∉ memory) :
    (strtok delim memory).isSome = true ↔
      ∃ value post, memory = value ++ delim :: post ∧ ∃ c ∈ value, c ≠ delim := by
  induction memory with
  | nil => simp [strtok]
  | cons c memory ih =>
    obtain ⟨head, rest⟩ := not_or.mp (List.mem_cons.not.mp endless)
    by_cases skipped : c = delim
    · simp only [strtok, if_pos skipped, Option.isSome_map, ih rest]
      constructor
      · rintro ⟨value, post, rfl, d, member, other⟩
        exact ⟨c :: value, post, rfl, d, List.mem_cons_of_mem _ member, other⟩
      · rintro ⟨value, post, split, d, member, other⟩
        cases value with
        | nil => cases member
        | cons first value =>
          obtain ⟨rfl, remaining⟩ := List.cons.inj split
          rcases List.mem_cons.mp member with rfl | later
          · exact absurd skipped other
          · exact ⟨value, post, remaining, d, later, other⟩
    · rw [strtok, if_neg skipped, strtokToken_unterminated endless]
      constructor
      · intro delimited
        obtain ⟨value, post, split⟩ := List.append_of_mem delimited
        refine ⟨value, post, split, c, ?_, skipped⟩
        cases value with
        | nil => exact absurd (List.cons.inj split).1 skipped
        | cons first value =>
          obtain ⟨rfl, _⟩ := List.cons.inj split
          exact List.mem_cons_self
      · rintro ⟨value, post, split, _⟩
        rw [split]
        exact List.mem_append_right _ List.mem_cons_self

theorem zero_mem_strtokToken {delim : α} {memory after : List α}
    (done : strtokToken delim memory = some after) : 0 ∈ after := by
  induction memory generalizing after with
  | nil => cases done
  | cons c memory ih =>
    simp only [strtokToken] at done
    split at done
    next ended => cases done; exact ended ▸ List.mem_cons_self
    next =>
      split at done
      next => cases done; exact List.mem_cons_self
      next =>
        obtain ⟨rest, later, rfl⟩ := Option.map_eq_some_iff.mp done
        exact List.mem_cons_of_mem _ (ih later)

/-- After `strtok` there is a terminator behind its argument. -/
theorem zero_mem_strtok {delim : α} {memory after : List α}
    (done : strtok delim memory = some after) : 0 ∈ after := by
  induction memory generalizing after with
  | nil => cases done
  | cons c memory ih =>
    simp only [strtok] at done
    split at done
    · obtain ⟨rest, later, rfl⟩ := Option.map_eq_some_iff.mp done
      exact List.mem_cons_of_mem _ (ih later)
    · exact zero_mem_strtokToken done

/-! ### `strncpy` -/

theorem strncpy_append {n : Nat} {memory copied : List α}
    (done : strncpy n memory = some copied) (more : List α) :
    strncpy n (memory ++ more) = some copied := by
  induction n generalizing memory copied with
  | zero => simpa [strncpy] using done
  | succ n ih =>
    cases memory with
    | nil => cases done
    | cons c memory =>
      simp only [strncpy, List.cons_append] at done ⊢
      split at done
      next ended => rw [if_pos ended]; exact done
      next going =>
        obtain ⟨rest, later, rfl⟩ := Option.map_eq_some_iff.mp done
        rw [if_neg going, ih later]
        rfl

theorem strncpy_terminated (n : Nat) {s : List α} (string : 0 ∉ s) (tail : List α) :
    strncpy n (s ++ 0 :: tail) = some (padded n s) := by
  induction n generalizing s with
  | zero => simp [strncpy, padded]
  | succ n ih =>
    cases s with
    | nil => simp [strncpy, padded]
    | cons c s =>
      obtain ⟨head, rest⟩ := not_or.mp (List.mem_cons.not.mp string)
      have going : ¬c = 0 := fun zero => head zero.symm
      simp only [List.cons_append, strncpy, if_neg going, ih rest, padded, Option.map_some]
      simp

omit [DecidableEq α] in
@[simp] theorem length_padded (n : Nat) (s : List α) : (padded n s).length = n := by
  simp only [padded, List.length_append, List.length_take, List.length_replicate]
  omega

omit [DecidableEq α] in
theorem getD_padded {n i : Nat} (inside : i < n) (s : List α) :
    (padded n s).getD i 0 = s.getD i 0 := by
  simp only [padded, List.getD_eq_getElem?_getD]
  by_cases own : i < s.length
  · have kept : i < (s.take n).length := by
      rw [List.length_take]
      exact Nat.lt_min.mpr ⟨inside, own⟩
    rw [List.getElem?_append_left kept, List.getElem?_take_of_lt inside]
  · have short : (s.take n).length ≤ i := by
      rw [List.length_take]
      omega
    have filled : i - (s.take n).length < n - s.length := by
      rw [List.length_take]
      omega
    rw [List.getElem?_append_right short, List.getElem?_replicate, if_pos filled]
    simp [Nat.le_of_not_lt own]

/-- The memory after `bytes` have been stored from `base` on. -/
def storeBytes (memory : Nat → α) (base : Nat) (bytes : List α) (a : Nat) : α :=
  if base ≤ a then (bytes[a - base]?).getD (memory a) else memory a

/-- A 0 among the `n` bytes at `base`. -/
def Terminated (memory : Nat → α) (base n : Nat) : Prop := ∃ i < n, memory (base + i) = 0

/-- The string in the `n` bytes at `base`, if it ends there. -/
def readString (memory : Nat → α) : Nat → Nat → Option (List α)
  | _, 0 => none
  | base, n + 1 =>
    if memory base = 0 then some []
    else (readString memory (base + 1) n).map (memory base :: ·)

theorem readString_eq_some {memory : Nat → α} {base n : Nat} {s : List α} (fits : s.length < n)
    (clean : 0 ∉ s) (stored : ∀ i ≤ s.length, memory (base + i) = s.getD i 0) :
    readString memory base n = some s := by
  induction s generalizing base n with
  | nil =>
    obtain ⟨n, rfl⟩ := Nat.exists_eq_succ_of_ne_zero (Nat.ne_of_gt fits)
    have zero : memory base = 0 := by simpa using stored 0 (Nat.le_refl _)
    simp [readString, zero]
  | cons c s ih =>
    obtain ⟨n, rfl⟩ := Nat.exists_eq_succ_of_ne_zero (Nat.ne_of_gt (Nat.zero_lt_of_lt fits))
    obtain ⟨head, rest⟩ := not_or.mp (List.mem_cons.not.mp clean)
    have first : memory base = c := by simpa using stored 0 (Nat.zero_le _)
    have later : readString memory (base + 1) n = some s := by
      apply ih (Nat.lt_of_succ_lt_succ fits) rest
      intro i inside
      have next := stored (i + 1) (Nat.succ_le_succ inside)
      rw [List.getD_cons_succ] at next
      rw [← next, Nat.add_assoc, Nat.add_comm 1]
    simp [readString, first, later, Ne.symm head]

theorem readString_isSome_iff {memory : Nat → α} {base n : Nat} :
    (readString memory base n).isSome = true ↔ Terminated memory base n := by
  induction n generalizing base with
  | zero => simp [readString, Terminated]
  | succ n ih =>
    rw [readString]
    split
    next zero => exact iff_of_true rfl ⟨0, Nat.succ_pos n, zero⟩
    next nonzero =>
      rw [Option.isSome_map, ih]
      constructor
      · rintro ⟨i, inside, zero⟩
        exact ⟨i + 1, Nat.succ_lt_succ inside, by rw [← zero, Nat.add_assoc, Nat.add_comm 1]⟩
      · rintro ⟨i, inside, zero⟩
        cases i with
        | zero => exact absurd zero nonzero
        | succ i =>
          exact ⟨i, Nat.lt_of_succ_lt_succ inside, by rw [← zero, Nat.add_assoc, Nat.add_comm 1]⟩

omit [DecidableEq α] in
theorem storeBytes_inside (memory : Nat → α) (base : Nat) (bytes : List α) {i : Nat}
    (inside : i < bytes.length) : storeBytes memory base bytes (base + i) = bytes.getD i 0 := by
  simp [storeBytes, inside]

omit [DecidableEq α] [Zero α] in
theorem storeBytes_outside (memory : Nat → α) {base a : Nat} {bytes : List α}
    (outside : a < base ∨ base + bytes.length ≤ a) : storeBytes memory base bytes a = memory a := by
  simp only [storeBytes]
  split
  next above =>
    have past : bytes.length ≤ a - base := by omega
    rw [List.getElem?_eq_none past]
    rfl
  next => rfl

omit [DecidableEq α] [Zero α] in
/-- Storing hides what was there, and keeps agreement elsewhere. -/
theorem storeBytes_congr {memory memory' : Nat → α} {base a : Nat} {bytes : List α}
    (agree : memory a = memory' a ∨ base ≤ a ∧ a < base + bytes.length) :
    storeBytes memory base bytes a = storeBytes memory' base bytes a := by
  rcases agree with same | ⟨above, below⟩
  · simp only [storeBytes, same]
  · have inside : a - base < bytes.length := by omega
    simp [storeBytes, above, inside]

end CString
