import EpaperClock.SntpActivity

/-! What the client remembers of its requests: the retry timeout and the reachability
register, as functions of the run. -/
namespace EpaperClock

open StepSystem TimerQueue

variable {T : Type} {base : TimeBase T} {s s' : SntpClient T}

/-- The retries since the last answer, after one more transition. -/
def countRetries (retries : Nat) (t : Transition (SntpClient T) SntpEvent) : Nat :=
  match t.event with
  | .sntpRecv p =>
    if sntpRecvErr p = errOk then 0 else if sntpRecvErr p = sntpErrKod then retries + 1 else retries
  | .sntpDnsFound none _ => retries + 1
  | .callHandler _ => retries + t.source.phase.calls .sntpTryNextServer
  | _ => retries

/-- Whether each request was answered, the latest first, after one more transition. -/
def recordAnswers (base : TimeBase T) (answers : List Bool)
    (t : Transition (SntpClient T) SntpEvent) : List Bool :=
  match t.event with
  | .sntpRecv p => if sntpRecvErr p = errOk then true :: answers.tail else answers
  | _ => if sntpSent base t.source t.event = [] then answers else false :: answers

/-! ### The retry timeout -/

theorem nextRetryTimeout_eq {timeout : UInt32} {retries : Nat}
    (before : timeout.toNat = 15000 * 2 ^ min retries 3) :
    (nextRetryTimeout timeout).toNat = 15000 * 2 ^ min (retries + 1) 3 := by
  match retries with
  | 0 =>
    obtain rfl : timeout = 15000 := UInt32.toNat_inj.mp before
    rfl
  | 1 =>
    obtain rfl : timeout = 30000 := UInt32.toNat_inj.mp before
    rfl
  | 2 =>
    obtain rfl : timeout = 60000 := UInt32.toNat_inj.mp before
    rfl
  | n + 3 =>
    -- 240000 ms are more than `SNTP_RETRY_TIMEOUT_MAX`
    rw [Nat.min_eq_right (Nat.le_add_left 3 n)] at before
    obtain rfl : timeout = 120000 := UInt32.toNat_inj.mp before
    rw [Nat.min_eq_right (Nat.le_succ_of_le (Nat.le_add_left 3 n))]
    rfl

theorem sntpSendRequest_retry {serverAddr : Ip4Addr} {allocated : Bool} {sent : List UdpDatagram}
    (done : sntpSendRequest base serverAddr allocated s = some (s', sent)) :
    s'.sntpRetryTimeout = s.sntpRetryTimeout := by
  rw [sntpSendRequest] at done
  split at done
  · obtain ⟨timeouts, _, equal⟩ := Option.map_eq_some_iff.mp done
    cases equal
    rfl
  · obtain ⟨timeouts, _, equal⟩ := Option.map_eq_some_iff.mp done
    cases equal
    rfl

theorem sntpRequest_retry {outcome : HandlerOutcome} {sent : List UdpDatagram}
    (done : sntpRequest base outcome s = some (s', sent)) :
    s'.sntpRetryTimeout = s.sntpRetryTimeout := by
  rw [sntpRequest] at done
  split at done
  · split at done
    · cases done
      rfl
    · split at done
      · have kept := sntpSendRequest_retry done
        exact kept
      · obtain ⟨timeouts, _, equal⟩ := Option.map_eq_some_iff.mp done
        cases equal
        rfl
  · split at done
    · obtain ⟨timeouts, _, equal⟩ := Option.map_eq_some_iff.mp done
      cases equal
      rfl
    · exact sntpSendRequest_retry done

theorem sntpRetry_retry (done : sntpRetry base s = some s') :
    s'.sntpRetryTimeout = nextRetryTimeout s.sntpRetryTimeout := by
  obtain ⟨timeouts, _, rfl⟩ := Option.map_eq_some_iff.mp done
  rfl

/-- The timeout doubles with every retry, three times at most. -/
structure Retried (retries : Nat) (s : SntpClient T) : Prop where
  started : s.sntpPcb = true → s.sntpRetryTimeout.toNat = 15000 * 2 ^ min retries 3
  stopped : s.sntpPcb = false → retries = 0

namespace Retried

variable {n retries : Nat}

theorem same (retried : Retried retries s) (retry : s'.sntpRetryTimeout = s.sntpRetryTimeout)
    (pcb : s'.sntpPcb = s.sntpPcb) : Retried retries s' where
  started := by
    rw [retry, pcb]
    exact retried.started
  stopped := by
    rw [pcb]
    exact retried.stopped

theorem retry (retried : Retried retries s) (started : s.sntpPcb = true)
    (done : sntpRetry base s = some s') : Retried (retries + 1) s' where
  started := fun _ => by
    rw [sntpRetry_retry done]
    exact nextRetryTimeout_eq (retried.started started)
  stopped := by
    rw [(sntpRetry_attempt done).sntpPcb, started]
    exact nofun

theorem recv (retried : Retried retries s) (started : s.sntpPcb = true) {p : List UInt8}
    (received : sntpRecv base p s = some s') :
    Retried (countRetries retries ⟨s, .sntpRecv p, s'⟩) s' := by
  simp only [countRetries]
  rw [sntpRecv] at received
  split at received
  next accepted =>
    obtain ⟨timeouts, _, rfl⟩ := Option.map_eq_some_iff.mp received
    rw [if_pos accepted]
    exact ⟨fun _ => rfl, fun _ => rfl⟩
  next rejected =>
    rw [if_neg rejected]
    split at received
    next kod =>
      rw [if_pos kod]
      exact retried.retry started received
    next ignored =>
      cases received
      rw [if_neg ignored]
      exact retried

theorem found (retried : Retried retries s) (started : s.sntpPcb = true)
    {ipaddr : Option Ip4Addr} {allocated : Bool} {sent : List UdpDatagram}
    (answered : sntpDnsFound base ipaddr allocated { s with dnsRequests := s.dnsRequests - 1 } =
      some (s', sent)) :
    Retried (countRetries retries ⟨s, .sntpDnsFound ipaddr allocated, s'⟩) s' := by
  have before : Retried retries { s with dnsRequests := s.dnsRequests - 1 } :=
    ⟨retried.started, retried.stopped⟩
  cases ipaddr with
  | some ipaddr =>
    have kept := sntpSendRequest_retry answered
    exact before.same kept (sntpDnsFound_attempt answered).sntpPcb
  | none =>
    obtain ⟨after, retry, equal⟩ := Option.map_eq_some_iff.mp answered
    cases equal
    exact before.retry started retry

theorem move (retried : Retried retries s) (busy : Busy n s) {e : SntpEvent}
    {sent : List UdpDatagram} (move : SntpMove base s e s' sent) :
    Retried (countRetries retries ⟨s, e, s'⟩) s' := by
  have idle : s.sntpPcb = false → s.activity = 0 := by
    intro stopped
    have bounded := busy.bounded
    rw [stopped] at bounded
    exact Nat.le_zero.mp bounded
  cases move with
  | tick => exact retried.same rfl rfl
  | initAgain => exact retried.same rfl rfl
  | init _ stopped =>
    have none : retries = 0 := retried.stopped stopped
    exact ⟨fun _ => by simp only [countRetries, none]; rfl, nofun⟩
  | check => exact retried.same rfl rfl
  | expired => exact retried.same rfl rfl
  | checked => exact retried.same rfl rfl
  | cyclic calling =>
    simp only [countRetries, calling]
    exact retried.same rfl rfl
  | tcp calling =>
    simp only [countRetries, calling]
    exact retried.same rfl rfl
  | request calling requested =>
    simp only [countRetries, calling]
    have kept := sntpRequest_retry requested
    exact retried.same kept (sntpRequest_attempt requested).sntpPcb
  | @retry now outcome s' calling done =>
    have called : s.phase.calls .sntpTryNextServer = 1 := by rw [calling]; rfl
    have started : s.sntpPcb = true := by
      refine eq_true_of_ne_false fun stopped => ?_
      have none := idle stopped
      simp only [SntpClient.activity, SntpClient.live, called] at none
      omega
    have before : Retried retries { s with phase := .checking now } :=
      ⟨retried.started, retried.stopped⟩
    simp only [countRetries, called]
    exact before.retry started done
  | recv _ started received => exact retried.recv started received
  | found _ waiting answered =>
    refine retried.found (eq_true_of_ne_false fun stopped => ?_) answered
    have none := idle stopped
    simp only [SntpClient.activity] at none
    omega
  | tcpNeeded => exact retried.same rfl rfl

end Retried

/-! ### The reachability register -/

theorem testBit_shiftLeft (register : UInt8) {i : Nat} (bit : i < 8) :
    (register <<< 1).toNat.testBit i = (decide (1 ≤ i) && register.toNat.testBit (i - 1)) := by
  have shifted : (register <<< 1).toNat = register.toNat <<< 1 % 2 ^ 8 :=
    UInt8.toNat_shiftLeft register 1
  rw [shifted, Nat.testBit_mod_two_pow, Nat.testBit_shiftLeft]
  simp [bit]

theorem testBit_or_one (register : UInt8) (i : Nat) :
    (register ||| 1).toNat.testBit i = (register.toNat.testBit i || decide (i = 0)) := by
  have one : Nat.testBit 1 i = decide (i = 0) := by
    rw [Bool.eq_iff_iff]
    simp [Nat.testBit_one_eq_true_iff_self_eq_zero]
  rw [UInt8.toNat_or, Nat.testBit_or]
  exact congrArg _ one

/-- The register holds the answers of the last eight requests. -/
def Reachability (answers : List Bool) (s : SntpClient T) : Prop :=
  ∀ i < 8, s.sntpServer.reachability.toNat.testBit i = answers.getD i false

namespace Reachability

variable {answers : List Bool}

theorem same (reachability : Reachability answers s)
    (same : s'.sntpServer.reachability = s.sntpServer.reachability) : Reachability answers s' := by
  intro i bit
  rw [same]
  exact reachability i bit

theorem sent (reachability : Reachability answers s)
    (shifted : s'.sntpServer.reachability = s.sntpServer.reachability <<< 1) :
    Reachability (false :: answers) s' := by
  intro i bit
  rw [shifted, testBit_shiftLeft _ bit]
  cases i with
  | zero => rfl
  | succ i =>
    rw [List.getD_cons_succ, ← reachability i (Nat.lt_of_succ_lt bit)]
    simp

theorem answered (reachability : Reachability answers s)
    (marked : s'.sntpServer.reachability = s.sntpServer.reachability ||| 1) :
    Reachability (true :: answers.tail) s' := by
  intro i bit
  rw [marked, testBit_or_one]
  cases i with
  | zero => simp
  | succ i =>
    rw [reachability _ bit]
    cases answers <;> simp

theorem attempt (reachability : Reachability answers s) {sent : List UdpDatagram}
    (attempt : Attempt base s s' sent) :
    Reachability (if sent = [] then answers else false :: answers) s' := by
  cases attempt with
  | sent _ _ _ _ shifted => exact reachability.sent shifted
  | failed _ _ _ _ same => exact reachability.same same
  | retried _ _ _ same => exact reachability.same same
  | lookup => exact reachability

theorem step (reachability : Reachability answers s) {e : SntpEvent}
    (taken : sntpStep base s e = some s') :
    Reachability (recordAnswers base answers ⟨s, e, s'⟩) s' := by
  have move := sntpStep_move taken
  generalize sends : sntpSent base s e = sent at move
  cases move with
  | recv _ _ received =>
    simp only [recordAnswers]
    rcases sntpRecv_eq received with ⟨accepted, _, _, marked, _⟩ | ⟨kod, retried⟩ | ⟨rejected, _, rfl⟩
    · rw [if_pos accepted]
      exact reachability.answered marked
    · rw [if_neg (by rw [kod]; decide)]
      exact reachability.attempt retried
    · rw [if_neg rejected]
      exact reachability
  | @request now outcome _ _ calling requested =>
    simp only [recordAnswers, sends]
    have before : Reachability answers { s with phase := .checking now } := reachability
    exact before.attempt (sntpRequest_attempt requested)
  | @retry now outcome _ calling retried =>
    simp only [recordAnswers, sends]
    have before : Reachability answers { s with phase := .checking now } := reachability
    exact before.attempt (sntpRetry_attempt retried)
  | found _ _ answered =>
    simp only [recordAnswers, sends]
    have before : Reachability answers { s with dnsRequests := s.dnsRequests - 1 } := reachability
    exact before.attempt (sntpDnsFound_attempt answered)
  | _ =>
    simp only [recordAnswers, sends]
    exact reachability

end Reachability

/-! ### Whole runs -/

section Runs

variable {s₀ : SntpClient T} {ts : List (Transition (SntpClient T) SntpEvent)} {ticks : Nat}
  {rtc : Rtc}

theorem Retried.run (booted : sntpBoot base ticks rtc = some s₀)
    (run : Run (sntpStep base) s₀ ts s) : Retried (ts.foldl countRetries 0) s := by
  induction run with
  | start =>
    obtain ⟨timeouts, _, rfl⟩ := Option.map_eq_some_iff.mp booted
    exact ⟨nofun, fun _ => rfl⟩
  | next before taken ih =>
    rw [List.foldl_append]
    exact ih.move (Busy.run booted before) (sntpStep_move taken)

theorem Reachability.run (booted : sntpBoot base ticks rtc = some s₀)
    (run : Run (sntpStep base) s₀ ts s) :
    Reachability (ts.foldl (recordAnswers base) [false]) s := by
  induction run with
  | start =>
    obtain ⟨timeouts, _, rfl⟩ := Option.map_eq_some_iff.mp booted
    intro i _
    cases i <;> simp
  | next _ taken ih =>
    rw [List.foldl_append]
    exact ih.step taken

/-- The retry timeout is 15 s, doubled for each retry since the last answer up to three times;
bit `i` of the register says whether the request before the last `i` was answered. -/
theorem sntpServer_remembers (booted : sntpBoot base ticks rtc = some s₀)
    (run : Run (sntpStep base) s₀ ts s) :
    (s.sntpPcb = true →
      s.sntpRetryTimeout.toNat = 15000 * 2 ^ min (ts.foldl countRetries 0) 3) ∧
    ∀ i < 8, s.sntpServer.reachability.toNat.testBit i =
      (ts.foldl (recordAnswers base) [false]).getD i false :=
  ⟨(Retried.run booted run).started, Reachability.run booted run⟩

end Runs

/-- A request, its answer and a kiss of death. -/
def answeredOnce : List SntpEvent :=
  [.sntpInit 0, .sysCheckTimeouts, .nextExpired, .callHandler ⟨errOk, 1, true, false⟩, .nextExpired,
    .sntpRecv (0x24 :: 1 :: List.replicate 46 0), .sntpRecv (0x24 :: 0 :: List.replicate 46 0)]

theorem sntpServer_remembers_answeredOnce : ∃ s : SntpClient UInt32,
    s.sntpRetryTimeout.toNat = 15000 * 2 ^ 1 ∧ s.sntpServer.reachability.toNat.testBit 0 = true := by
  have done : (sntpExec wrapping 4294967000 ⟨0, false⟩ answeredOnce).map (fun result =>
      decide (result.2.sntpPcb = true ∧ result.1.foldl countRetries 0 = 1 ∧
        (result.1.foldl (recordAnswers wrapping) [false]).getD 0 false = true)) = some true := by
    decide +kernel
  obtain ⟨s₀, ts, s, booted, run, facts⟩ := exists_run_sntpExec done
  obtain ⟨started, retries, answered⟩ := of_decide_eq_true facts
  obtain ⟨timeout, bits⟩ := sntpServer_remembers booted run
  refine ⟨s, ?_, (bits 0 (by decide)).trans answered⟩
  rw [timeout started, show ts.foldl countRetries 0 = 1 from retries]
  rfl

end EpaperClock
