import EpaperClock.WeatherRequest

/-! Who can still free a control block.

lwIP frees the blocks on its lists; the application frees none, so a block that
`tcp_connect` refused lives as long as `weather_pcb` points to it. -/
namespace EpaperClock

open StepSystem

variable {weatherKey : String} {addressZero : Ip4Addr}

/-- Whenever `tcp_setup` overwrites `weather_pcb`, lwIP knows the block stored there or it
is free; and no block is allocated that neither lwIP nor `weather_pcb` knows. -/
structure NoBlockLost (ts : List NetTransition) : Prop where
  overwritten : ∀ t ∈ ts, t.event.request ≠ none →
    ∀ b, t.source.weatherPcb = some b → ¬t.source.pool.Unlisted b
  freeable : ∀ t ∈ ts, ∀ b, t.target.pool.Unlisted b → t.target.weatherPcb = some b

/-- The requests of a run, in order. -/
def requests (ts : List NetTransition) : List RequestOutcome := ts.filterMap (·.event.request)

/-- The request gets a block that `tcp_connect` then refuses. -/
def RequestOutcome.Strands (outcome : RequestOutcome) : Prop :=
  outcome.alloc.block ≠ none ∧ outcome.connect.succeeds = false

theorem requests_append (ts : List NetTransition) (t : NetTransition) :
    requests (ts ++ [t]) = requests ts ++ t.event.request.toList := by
  cases request : t.event.request <;> simp [requests, request]

theorem noBlockLost_append (ts : List NetTransition) (t : NetTransition) :
    NoBlockLost (ts ++ [t]) ↔ NoBlockLost ts ∧
      (t.event.request ≠ none → ∀ b, t.source.weatherPcb = some b → ¬t.source.pool.Unlisted b) ∧
      ∀ b, t.target.pool.Unlisted b → t.target.weatherPcb = some b := by
  constructor
  · rintro ⟨overwritten, freeable⟩
    exact ⟨⟨fun u h => overwritten u (by simp [h]), fun u h => freeable u (by simp [h])⟩,
      overwritten t (by simp), freeable t (by simp)⟩
  · rintro ⟨⟨overwritten, freeable⟩, now, later⟩
    constructor
    · intro u member
      rcases List.mem_append.mp member with old | new
      · exact overwritten u old
      · rwa [List.mem_singleton.mp new]
    · intro u member
      rcases List.mem_append.mp member with old | new
      · exact freeable u old
      · rwa [List.mem_singleton.mp new]

theorem requested_unlisted (s : WeatherNet) (ip : Ip4Addr) (outcome : RequestOutcome) (b : Block) :
    (s.requested ip outcome).pool.Unlisted b ↔
      if outcome.alloc.block = some b then outcome.connect.succeeds = false
      else s.pool.Unlisted b := by
  simp only [WeatherNet.requested]
  cases outcome.alloc.block with
  | none => simp
  | some c =>
    simp only [Pool.Unlisted, Pool.state_set, Option.some.injEq, eq_comm (a := c)]
    split
    · cases outcome.connect.succeeds <;> simp
    · rfl

/-- `weather_pcb` holds an unlisted block exactly after a request that stranded it. -/
theorem weatherPcb_unlisted_iff {s : WeatherNet} {ts : List NetTransition}
    (run : Run (netStep weatherKey addressZero) netBoot ts s) :
    (∃ b, s.weatherPcb = some b ∧ s.pool.Unlisted b) ↔
      ∃ outcome, (requests ts).getLast? = some outcome ∧ outcome.Strands := by
  induction run with
  | start => simp [netBoot, requests]
  | @next ts s e s' _ taken ih =>
    rw [requests_append]
    rcases netStep_cases taken with ⟨ip, outcome, request, pcb, pool⟩ | ⟨quiet, pcb, unlisted⟩
    · simp only [request, pcb, pool, requested_unlisted, Option.toList_some,
        List.getLast?_append, List.getLast?_singleton, Option.some_or, Option.some.injEq,
        exists_eq_left', RequestOutcome.Strands]
      cases outcome.alloc.block <;> simp
    · simpa only [quiet, pcb, unlisted, Option.toList_none, List.append_nil] using ih

theorem unlisted_weatherPcb {s : WeatherNet} {ts : List NetTransition}
    (run : Run (netStep weatherKey addressZero) netBoot ts s) (kept : NoBlockLost ts) (b : Block)
    (unlisted : s.pool.Unlisted b) : s.weatherPcb = some b := by
  cases run with
  | start => simp [netBoot, Pool.Unlisted, Pool.state] at unlisted
  | @next ts s e s' _ taken => exact kept.freeable ⟨s, e, _⟩ (by simp) b unlisted

theorem forall_mem_iff_dropLast {α : Type} (l : List α) (p : α → Prop) :
    (∀ a ∈ l, p a) ↔ (∀ a ∈ l.dropLast, p a) ∧ ∀ a, l.getLast? = some a → p a := by
  rcases List.eq_nil_or_concat l with rfl | ⟨init, last, rfl⟩
  · simp
  · simp [or_imp, forall_and]

/-- No control block is lost exactly when every request but the last one either gets no
block or connects. -/
theorem noBlockLost_iff_earlier_requests_connect {s : WeatherNet} {ts : List NetTransition}
    (run : Run (netStep weatherKey addressZero) netBoot ts s) :
    NoBlockLost ts ↔ ∀ outcome ∈ (requests ts).dropLast, ¬outcome.Strands := by
  induction run with
  | start => exact iff_of_true ⟨by simp, by simp⟩ (by simp [requests])
  | @next ts s e s' run taken ih =>
    rw [noBlockLost_append, requests_append]
    have stored := weatherPcb_unlisted_iff run
    rcases netStep_cases taken with ⟨ip, outcome, request, pcb, pool⟩ | ⟨quiet, pcb, unlisted⟩
    -- a request: those before it must have connected, also the one that was the last so far
    · simp only [request, pcb, pool, requested_unlisted, Option.toList_some,
        List.dropLast_concat]
      rw [forall_mem_iff_dropLast, ← ih]
      apply and_congr_right
      intro kept
      constructor
      · rintro ⟨overwritten, _⟩ last lastRequest strands
        obtain ⟨b, holds, unlisted⟩ := stored.mpr ⟨last, lastRequest, strands⟩
        exact overwritten (by simp) b holds unlisted
      · intro connects
        have overwritten : ∀ b, s.weatherPcb = some b → ¬s.pool.Unlisted b := by
          intro b holds unlisted
          obtain ⟨last, lastRequest, strands⟩ := stored.mp ⟨b, holds, unlisted⟩
          exact connects last lastRequest strands
        refine ⟨fun _ => overwritten, ?_⟩
        intro b unlisted
        by_contra other
        rw [if_neg other] at unlisted
        exact overwritten b (unlisted_weatherPcb run kept b unlisted) unlisted
    -- a callback neither strands a block nor looks at `weather_pcb`
    · simp only [quiet, pcb, unlisted, Option.toList_none, List.append_nil]
      rw [← ih]
      constructor
      · exact And.left
      · intro kept
        exact ⟨kept, fun absurdity => absurd rfl absurdity, unlisted_weatherPcb run kept⟩

/-- A cached address and no route to it, twice. -/
def outage : List NetEvent :=
  let noRoute : ConnectOutcome := ⟨false, true, true, errOk⟩
  [.dnsSendHttpRequest "api.openweathermap.org" errOk 0x0a000001 ⟨.free 0, noRoute, errOk, errOk⟩,
    .dnsSendHttpRequest "api.openweathermap.org" errOk 0x0a000001 ⟨.free 1, noRoute, errOk, errOk⟩]

theorem outage_block_lost :
    ¬∀ weatherKey addressZero ts s, Run (netStep weatherKey addressZero) netBoot ts s →
      NoBlockLost ts := by
  intro claim
  have stranded : (exec (netStep "key" 0) netBoot outage).map (fun r => r.1.any fun t =>
      decide (t.target.pool.Unlisted 0) && decide (t.target.weatherPcb ≠ some 0)) = some true := by
    decide +kernel
  obtain ⟨ts, s, run, found⟩ := exists_run stranded
  simp only [List.any_eq_true, Bool.and_eq_true, decide_eq_true_eq] at found
  obtain ⟨t, member, unlisted, forgotten⟩ := found
  exact forgotten ((claim "key" 0 ts s run).freeable t member 0 unlisted)

theorem noBlockLost_iff_earlier_requests_connect_outage : ∃ ts s,
    Run (netStep "key" 0) netBoot ts s ∧ (requests ts).length = 2 ∧
      (NoBlockLost ts ↔ ∀ outcome ∈ (requests ts).dropLast, ¬outcome.Strands) := by
  have ran : (exec (netStep "key" 0) netBoot outage).map (fun r => (requests r.1).length == 2) =
      some true := by decide +kernel
  obtain ⟨ts, s, run, found⟩ := exists_run ran
  exact ⟨ts, s, run, by simpa using found, noBlockLost_iff_earlier_requests_connect run⟩

end EpaperClock
