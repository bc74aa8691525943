import CodexGate.Health.Entries
import CodexGate.Provider.Entries
import CodexGate.Reservation.Model

namespace CodexGate.Provider

open Foundation Health

def ProviderRuntimeState.SameButProbes (before after : ProviderRuntimeState) : Prop :=
  after = { before with nextProbeId := after.nextProbeId }

structure ProviderRuntimeBook.Kept (before after : ProviderRuntimeBook) : Prop where
  errors : after.errors = before.errors
  ewmaAlpha : after.ewmaAlpha = before.ewmaAlpha
  entries : ∀ id, (before.entry id).SameButProbes (after.entry id)

namespace ProviderRuntimeState

variable {provider : UpstreamProvider} {state : ProviderRuntimeState} {nowMs : Int}

theorem SameButProbes.trans {a b c : ProviderRuntimeState} (first : a.SameButProbes b)
    (second : b.SameButProbes c) : a.SameButProbes c := by
  unfold SameButProbes at *
  rw [second, first]

theorem tryBeginAttempt_refused (refused : (state.tryBeginAttempt provider nowMs).1 = none) :
    (state.tryBeginAttempt provider nowMs).2 = state := by
  rcases @tryBeginAttempt_shape provider state nowMs with ⟨_, result⟩ | result | ⟨_, _, result⟩
  · simp [result] at refused
  · rw [result]
  · simp [result] at refused

theorem tryBeginAttempt_undone {token : AttemptToken}
    (begun : (state.tryBeginAttempt provider nowMs).1 = some token) :
    state.SameButProbes ((state.tryBeginAttempt provider nowMs).2.finishNeutral token) := by
  rcases @tryBeginAttempt_shape provider state nowMs with
    ⟨_, result⟩ | result | ⟨_, free, result⟩
  · rw [result] at begun ⊢
    cases begun
    simp [SameButProbes, finishNeutral, ProbeGate.releaseProbeOwner]
  · simp [result] at begun
  · rw [result] at begun ⊢
    cases begun
    simp only [SameButProbes, finishNeutral, ProbeGate.claimProbe_accepts, if_true,
      ProbeGate.claimProbe_released _ free]

theorem tryBeginAttempt_accepts {token : AttemptToken}
    (begun : (state.tryBeginAttempt provider nowMs).1 = some token) :
    (state.tryBeginAttempt provider nowMs).2.attemptTokenMatches token = true := by
  rcases @tryBeginAttempt_shape provider state nowMs with ⟨_, result⟩ | result | ⟨_, _, result⟩
  · rw [result] at begun ⊢
    cases begun
    simp [ProbeGate.attemptTokenMatches]
  · simp [result] at begun
  · rw [result] at begun ⊢
    cases begun
    exact ProbeGate.claimProbe_accepts _

end ProviderRuntimeState

namespace ProviderRuntimeBook

variable {book next : ProviderRuntimeBook} {provider : UpstreamProvider} {nowMs : Int}

theorem Kept.of_entry (id : Int) (errors : next.errors = book.errors)
    (ewmaAlpha : next.ewmaAlpha = book.ewmaAlpha)
    (others : ∀ other, other ≠ id → (book.entry other).SameButProbes (next.entry other))
    (same : (book.entry id).SameButProbes (next.entry id)) : book.Kept next where
  errors := errors
  ewmaAlpha := ewmaAlpha
  entries other := by
    by_cases here : other = id
    · rw [here]
      exact same
    · exact others other here

theorem finishNeutral_settings (book : ProviderRuntimeBook) (id : Int) (token : AttemptToken) :
    (book.finishNeutral id token).errors = book.errors ∧
      (book.finishNeutral id token).ewmaAlpha = book.ewmaAlpha := by
  unfold finishNeutral
  split <;> exact ⟨rfl, rfl⟩

theorem releaseCapacity_settings (book : ProviderRuntimeBook) (id : Int) :
    (book.releaseCapacity id).errors = book.errors ∧
      (book.releaseCapacity id).ewmaAlpha = book.ewmaAlpha := by
  unfold releaseCapacity
  split <;> exact ⟨rfl, rfl⟩

theorem tryBeginAttempt_entry_ne {other : Int} (apart : other ≠ provider.id) :
    (book.tryBeginAttempt provider nowMs).2.entry other = book.entry other :=
  entry_put_ne book _ apart

theorem tryBeginAttempt_refused_kept (refused : (book.tryBeginAttempt provider nowMs).1 = none) :
    book.Kept (book.tryBeginAttempt provider nowMs).2 := by
  rw [tryBeginAttempt_guard, Option.map_eq_none_iff] at refused
  refine Kept.of_entry provider.id rfl rfl (fun other apart => ?_) ?_
  · rw [tryBeginAttempt_entry_ne apart]
    rfl
  · rw [tryBeginAttempt_entry, ProviderRuntimeState.tryBeginAttempt_refused refused]
    rfl

theorem tryBeginAttempt_provider {guard : ProviderAttemptGuard}
    (begun : (book.tryBeginAttempt provider nowMs).1 = some guard) :
    guard.provider = provider ∧
      ((book.entry provider.id).tryBeginAttempt provider nowMs).1 = some guard.token := by
  rw [tryBeginAttempt_guard] at begun
  obtain ⟨token, granted, rfl⟩ := Option.map_eq_some_iff.mp begun
  exact ⟨rfl, granted⟩

theorem tryBeginAttempt_dropped_kept {guard : ProviderAttemptGuard}
    (begun : (book.tryBeginAttempt provider nowMs).1 = some guard) :
    book.Kept (guard.drop (book.tryBeginAttempt provider nowMs).2) := by
  obtain ⟨owner, granted⟩ := tryBeginAttempt_provider begun
  unfold ProviderAttemptGuard.drop
  rw [owner]
  have settings := finishNeutral_settings (book.tryBeginAttempt provider nowMs).2 provider.id
    guard.token
  refine Kept.of_entry provider.id settings.1 settings.2 (fun other apart => ?_) ?_
  · rw [finishNeutral_entry_ne _ _ apart, tryBeginAttempt_entry_ne apart]
    rfl
  · rw [finishNeutral_entry, tryBeginAttempt_entry]
    exact ProviderRuntimeState.tryBeginAttempt_undone granted

theorem tryBeginAttempt_current {guard : ProviderAttemptGuard}
    (begun : (book.tryBeginAttempt provider nowMs).1 = some guard) :
    guard.isCurrent (book.tryBeginAttempt provider nowMs).2 = true := by
  obtain ⟨owner, granted⟩ := tryBeginAttempt_provider begun
  have accepted := ProviderRuntimeState.tryBeginAttempt_accepts granted
  rw [ProviderAttemptGuard.isCurrent, owner]
  simpa [tryBeginAttempt, put] using accepted

theorem tryBeginAttempt_inFlight (book : ProviderRuntimeBook) (provider : UpstreamProvider)
    (nowMs : Int) : ((book.tryBeginAttempt provider nowMs).2.entry provider.id).inFlight =
      (book.entry provider.id).inFlight := by
  rw [tryBeginAttempt_entry]
  rcases @ProviderRuntimeState.tryBeginAttempt_shape provider (book.entry provider.id) nowMs with
    ⟨_, result⟩ | result | ⟨_, _, result⟩ <;> rw [result]

@[simp] theorem releaseCapacity_entry (book : ProviderRuntimeBook) (id : Int) :
    (book.releaseCapacity id).entry id = (book.entry id).releaseCapacity := by
  unfold releaseCapacity
  split
  · rename_i absent
    rw [entry_of_lookup_none absent]
    rfl
  · rename_i state found
    rw [entry_put_same, entry_of_lookup_some found]

theorem releaseCapacity_entry_ne (book : ProviderRuntimeBook) {id other : Int}
    (apart : other ≠ id) : (book.releaseCapacity id).entry other = book.entry other := by
  unfold releaseCapacity
  split
  · rfl
  · exact entry_put_ne book _ apart

theorem tryAcquireCapacity_entry_ne {other : Int} (apart : other ≠ provider.id) :
    (book.tryAcquireCapacity provider).2.entry other = book.entry other :=
  entry_put_ne book _ apart

theorem tryAcquireCapacity_refused_kept (refused : (book.tryAcquireCapacity provider).1 = none) :
    book.Kept (book.tryAcquireCapacity provider).2 := by
  refine Kept.of_entry provider.id rfl rfl (fun other apart => ?_) ?_
  · rw [tryAcquireCapacity_entry_ne apart]
    rfl
  · by_cases full : provider.maxConcurrency.any fun limit =>
        (book.entry provider.id).inFlight ≥ concurrencyLimit limit
    · simp [tryAcquireCapacity, ProviderRuntimeState.tryAcquireCapacity, full,
        ProviderRuntimeState.SameButProbes]
    · simp [tryAcquireCapacity, ProviderRuntimeState.tryAcquireCapacity, full] at refused

/-- The room that keeps the count of running attempts exact. A configured limit gives it. -/
def Fits (provider : UpstreamProvider) (book : ProviderRuntimeBook) : Prop :=
  provider.maxConcurrency = none → (book.entry provider.id).inFlight < u32Max

theorem tryAcquireCapacity_granted {permit : ProviderCapacityPermit}
    (granted : (book.tryAcquireCapacity provider).1 = some permit) :
    permit.providerId = provider.id ∧
      (book.tryAcquireCapacity provider).2.entry provider.id =
        { book.entry provider.id with
          inFlight := saturatingAddU32 (book.entry provider.id).inFlight 1 } ∧
      (Fits provider book → saturatingAddU32 (book.entry provider.id).inFlight 1 =
        (book.entry provider.id).inFlight + 1) := by
  by_cases full : provider.maxConcurrency.any fun limit =>
      (book.entry provider.id).inFlight ≥ concurrencyLimit limit
  · simp [tryAcquireCapacity, ProviderRuntimeState.tryAcquireCapacity, full] at granted
  · simp only [tryAcquireCapacity, ProviderRuntimeState.tryAcquireCapacity, full,
      Bool.false_eq_true, if_false, if_true, Option.some.injEq, entry_put_same] at granted ⊢
    refine ⟨by rw [← granted], trivial, fun fits => saturatingAddU32_eq ?_⟩
    cases configured : provider.maxConcurrency with
    | none => exact fits configured
    | some limit =>
      have room := limit.property.2
      simp only [configured, Option.any_some, decide_eq_true_eq, ge_iff_le, Nat.not_le] at full
      unfold concurrencyLimit at full
      unfold u32Max
      omega

theorem permit_dropped_kept {permit : ProviderCapacityPermit}
    (granted : (book.tryAcquireCapacity provider).1 = some permit) (fits : Fits provider book)
    (kept : (book.tryAcquireCapacity provider).2.Kept next) : book.Kept (permit.drop next) := by
  obtain ⟨owner, acquired, exactly⟩ := tryAcquireCapacity_granted granted
  unfold ProviderCapacityPermit.drop
  rw [owner]
  have settings := next.releaseCapacity_settings provider.id
  refine Kept.of_entry provider.id (settings.1.trans kept.errors)
    (settings.2.trans kept.ewmaAlpha) (fun other apart => ?_) ?_
  · rw [releaseCapacity_entry_ne _ apart, ← @tryAcquireCapacity_entry_ne book provider other apart]
    exact kept.entries other
  · have same := kept.entries provider.id
    rw [acquired, exactly fits] at same
    rw [releaseCapacity_entry, same]
    simp [ProviderRuntimeState.SameButProbes, ProviderRuntimeState.releaseCapacity]

structure Spent (guard : ProviderAttemptGuard) (before after : ProviderRuntimeBook) : Prop where
  inFlight : ∀ id, (after.entry id).inFlight = (before.entry id).inFlight
  released : ∀ probe, guard.token.probeId = some probe →
    (after.entry guard.provider.id).attemptTokenMatches guard.token = false

theorem Spent.of_entry {guard : ProviderAttemptGuard} {state : ProviderRuntimeState}
    (inFlight : state.inFlight = (book.entry guard.provider.id).inFlight)
    (released : ∀ probe, guard.token.probeId = some probe →
      state.attemptTokenMatches guard.token = false) :
    Spent guard book (book.put guard.provider.id state) := by
  constructor
  · intro id
    by_cases here : id = guard.provider.id
    · rw [here, entry_put_same, inFlight]
    · rw [entry_put_ne book _ here]
  · intro probe held
    rw [entry_put_same]
    exact released probe held

end ProviderRuntimeBook

namespace ProviderRuntimeState

variable {provider : UpstreamProvider} (alpha : Float) (state : ProviderRuntimeState)
  (token : AttemptToken) (status latencyMs : Option Int) (errorType errorMessage : String)
  (nowMs : Int)

theorem finishNeutral_spent :
    (state.finishNeutral token).inFlight = state.inFlight ∧
      ∀ probe, token.probeId = some probe →
        (state.finishNeutral token).attemptTokenMatches token = false := by
  cases current : state.attemptTokenMatches token with
  | false =>
    rw [finishNeutral_stale _ _ current]
    exact ⟨rfl, fun _ _ => current⟩
  | true =>
    simp only [finishNeutral, current, if_true, true_and]
    exact fun probe held => ProbeGate.release_not_matches _ _ probe held

theorem finishSuccess_spent :
    (state.finishSuccess alpha provider token status latencyMs nowMs).inFlight = state.inFlight ∧
      ∀ probe, token.probeId = some probe →
        (state.finishSuccess alpha provider token status latencyMs nowMs).attemptTokenMatches
          token = false := by
  cases current : state.attemptTokenMatches token with
  | false =>
    rw [finishSuccess_stale _ _ _ _ _ _ current]
    exact ⟨rfl, fun _ _ => current⟩
  | true =>
    have released := ProbeGate.release_not_matches state.toProbeGate token
    have advanced := ProbeGate.advance_not_matches (state.releaseProbeOwner token).1 token
    simp only [finishSuccess, current, if_true]
    split
    · split
      · split
        · exact ⟨rfl, advanced⟩
        · exact ⟨rfl, released⟩
      · exact ⟨rfl, released⟩
    · exact ⟨rfl, fun probe held => by simp [clearBreakerState, ProbeGate.attemptTokenMatches, held]⟩

theorem finishFailure_spent :
    (state.finishFailure provider token status errorType errorMessage nowMs).2.inFlight =
        state.inFlight ∧
      ∀ probe, token.probeId = some probe →
        (state.finishFailure provider token status errorType errorMessage
          nowMs).2.attemptTokenMatches token = false := by
  cases current : state.attemptTokenMatches token with
  | false =>
    rw [finishFailure_stale _ _ _ _ _ _ current]
    exact ⟨rfl, fun _ _ => current⟩
  | true =>
    have released := ProbeGate.release_not_matches state.toProbeGate token
    have advanced := ProbeGate.advance_not_matches (state.releaseProbeOwner token).1 token
    simp only [finishFailure, current, if_true]
    generalize (if _ = CircuitState.halfOpen then _ else _ : Nat) = failures
    split
    · split
      · exact ⟨rfl, advanced⟩
      · exact ⟨rfl, released⟩
    · exact ⟨rfl, released⟩

end ProviderRuntimeState

end CodexGate.Provider

namespace CodexGate.Health

open Foundation

/-- Two entries that differ at most in the counter that numbers the probes and in the time of the
    last update. -/
def RuntimeHealthState.SameButProbes (before after : RuntimeHealthState) : Prop :=
  after = { before with nextProbeId := after.nextProbeId, updatedAtMs := after.updatedAtMs }

structure RuntimeHealthBook.Kept (before after : RuntimeHealthBook) : Prop where
  failureThreshold : after.failureThreshold = before.failureThreshold
  openDurationMs : after.openDurationMs = before.openDurationMs
  ewmaAlpha : after.ewmaAlpha = before.ewmaAlpha
  entries : ∀ id, (before.entry id).SameButProbes (after.entry id)

namespace RuntimeHealthState

variable {state : RuntimeHealthState} {nowMs : Int}

theorem tryBeginAttempt_refused (refused : (state.tryBeginAttempt nowMs).1 = none) :
    (state.tryBeginAttempt nowMs).2 = state := by
  rcases state.tryBeginAttempt_cases nowMs with ⟨_, result⟩ | result | ⟨_, _, result⟩
  · simp [result] at refused
  · rw [result]
  · simp [result] at refused

theorem tryBeginAttempt_undone {token : AttemptToken} (endMs : Int)
    (begun : (state.tryBeginAttempt nowMs).1 = some token) :
    state.SameButProbes ((state.tryBeginAttempt nowMs).2.finishNeutral token endMs) := by
  rcases state.tryBeginAttempt_cases nowMs with ⟨_, result⟩ | result | ⟨_, free, result⟩
  · rw [result] at begun ⊢
    cases begun
    simp [SameButProbes, finishNeutral, ProbeGate.releaseProbeOwner]
  · simp [result] at begun
  · rw [result] at begun ⊢
    cases begun
    simp only [SameButProbes, finishNeutral, ProbeGate.claimProbe_accepts, if_true,
      ProbeGate.claimProbe_released _ free]

theorem tryBeginAttempt_accepts {token : AttemptToken}
    (begun : (state.tryBeginAttempt nowMs).1 = some token) :
    (state.tryBeginAttempt nowMs).2.attemptTokenMatches token = true := by
  rcases state.tryBeginAttempt_cases nowMs with ⟨_, result⟩ | result | ⟨_, _, result⟩
  · rw [result] at begun ⊢
    cases begun
    simp [ProbeGate.attemptTokenMatches]
  · simp [result] at begun
  · rw [result] at begun ⊢
    cases begun
    exact ProbeGate.claimProbe_accepts _

variable (alpha : Float) (threshold : Nat) (openMs : Int) (state : RuntimeHealthState)
  (token : AttemptToken) (status latencyMs : Option Int) (errorType errorMessage : Option String)
  (nowMs : Int) (probe : Nat)

theorem finishNeutral_spent (held : token.probeId = some probe) :
    (state.finishNeutral token nowMs).attemptTokenMatches token = false := by
  cases current : state.attemptTokenMatches token with
  | false =>
    rw [finishNeutral_stale _ _ _ current]
    exact current
  | true =>
    have owned := ((state.matches_iff token).mp current).2 probe held
    simp only [finishNeutral, current, if_true, state.releaseProbeOwner_held token probe held owned]
    simp [ProbeGate.attemptTokenMatches, held]

theorem finishSuccess_spent (held : token.probeId = some probe) :
    (state.finishSuccess alpha token status latencyMs nowMs).attemptTokenMatches token = false := by
  cases current : state.attemptTokenMatches token with
  | false =>
    rw [finishSuccess_stale _ _ _ _ _ _ current]
    exact current
  | true =>
    simp only [finishSuccess, current, if_true]
    split
    · exact ProbeGate.advance_not_matches _ _ probe held
    · exact ProbeGate.release_not_matches _ _ probe held

theorem finishFailure_spent (held : token.probeId = some probe) :
    (state.finishFailure threshold openMs token status errorType errorMessage
      nowMs).attemptTokenMatches token = false := by
  cases current : state.attemptTokenMatches token with
  | false =>
    rw [finishFailure_stale _ _ _ _ _ _ _ _ current]
    exact current
  | true =>
    simp only [finishFailure, current, if_true]
    exact ProbeGate.advance_not_matches _ _ probe held

end RuntimeHealthState

namespace RuntimeHealthBook

variable {book : RuntimeHealthBook} {id nowMs : Int}

theorem tryBeginAttempt_entry_ne {other : Int} (apart : other ≠ id) :
    (book.tryBeginAttempt id nowMs).2.entry other = book.entry other :=
  entry_put_ne book _ apart

theorem tryBeginAttempt_id {guard : RuntimeHealthAttemptGuard}
    (begun : (book.tryBeginAttempt id nowMs).1 = some guard) :
    guard.id = id ∧ ((book.entry id).tryBeginAttempt nowMs).1 = some guard.token := by
  rw [tryBeginAttempt_guard] at begun
  obtain ⟨token, granted, rfl⟩ := Option.map_eq_some_iff.mp begun
  exact ⟨rfl, granted⟩

theorem tryBeginAttempt_current {guard : RuntimeHealthAttemptGuard}
    (begun : (book.tryBeginAttempt id nowMs).1 = some guard) :
    guard.isCurrent (book.tryBeginAttempt id nowMs).2 = true := by
  obtain ⟨owner, granted⟩ := tryBeginAttempt_id begun
  have accepted := RuntimeHealthState.tryBeginAttempt_accepts granted
  rw [RuntimeHealthAttemptGuard.isCurrent, owner]
  simpa [tryBeginAttempt, put] using accepted

theorem tryBeginAttempt_refused_kept (refused : (book.tryBeginAttempt id nowMs).1 = none) :
    book.Kept (book.tryBeginAttempt id nowMs).2 := by
  rw [tryBeginAttempt_guard, Option.map_eq_none_iff] at refused
  refine ⟨rfl, rfl, rfl, fun other => ?_⟩
  by_cases here : other = id
  · rw [here, tryBeginAttempt_entry, RuntimeHealthState.tryBeginAttempt_refused refused]
    rfl
  · rw [tryBeginAttempt_entry_ne here]
    rfl

theorem finishNeutral_settings (book : RuntimeHealthBook) (id : Int) (token : AttemptToken)
    (nowMs : Int) :
    (book.finishNeutral id token nowMs).failureThreshold = book.failureThreshold ∧
      (book.finishNeutral id token nowMs).openDurationMs = book.openDurationMs ∧
      (book.finishNeutral id token nowMs).ewmaAlpha = book.ewmaAlpha := by
  unfold finishNeutral
  split <;> exact ⟨rfl, rfl, rfl⟩

theorem tryBeginAttempt_dropped_kept {guard : RuntimeHealthAttemptGuard} (endMs : Int)
    (begun : (book.tryBeginAttempt id nowMs).1 = some guard) :
    book.Kept (guard.drop (book.tryBeginAttempt id nowMs).2 endMs) := by
  obtain ⟨owner, granted⟩ := tryBeginAttempt_id begun
  unfold RuntimeHealthAttemptGuard.drop
  rw [owner]
  obtain ⟨threshold, duration, alpha⟩ :=
    finishNeutral_settings (book.tryBeginAttempt id nowMs).2 id guard.token endMs
  refine ⟨threshold, duration, alpha, fun other => ?_⟩
  by_cases here : other = id
  · rw [here, finishNeutral_entry, tryBeginAttempt_entry]
    exact RuntimeHealthState.tryBeginAttempt_undone endMs granted
  · rw [finishNeutral_entry_ne _ _ _ here, tryBeginAttempt_entry_ne here]
    rfl

end RuntimeHealthBook

end CodexGate.Health
