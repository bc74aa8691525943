import CodexGate.Provider.Model

namespace CodexGate.Provider

open Foundation Health

namespace ProviderRuntimeState

variable {provider : UpstreamProvider}

theorem circuitState_enabled (enabled : provider.circuitBreakerEnabled = true)
    (state : ProviderRuntimeState) (nowMs : Int) :
    state.circuitState provider nowMs = circuitKind state.openUntilMs nowMs := by
  simp [circuitState, enabled]

theorem tryBeginAttempt_blocked (enabled : provider.circuitBreakerEnabled = true)
    (state : ProviderRuntimeState) (nowMs untilMs : Int)
    (opened : state.openUntilMs = some untilMs) (later : untilMs > nowMs) :
    state.tryBeginAttempt provider nowMs = (none, state) := by
  have kind : state.circuitState provider nowMs = .opened :=
    (circuitState_enabled enabled state nowMs).trans
      ((circuitKind_opened_iff _ _).mpr ⟨_, opened, later⟩)
  simp only [tryBeginAttempt, kind]

/-- Whatever the provider's settings are, a begun attempt is plain and leaves the entry alone, or
    it claims the free probe. -/
theorem tryBeginAttempt_shape (state : ProviderRuntimeState) (nowMs : Int) :
    (state.circuitState provider nowMs = .closed ∧
      state.tryBeginAttempt provider nowMs = (some ⟨state.generation, none⟩, state)) ∨
    state.tryBeginAttempt provider nowMs = (none, state) ∨
    (state.circuitState provider nowMs = .halfOpen ∧ state.probeOwner = none ∧
      state.tryBeginAttempt provider nowMs =
        (some ⟨state.generation, some (nextCounter state.nextProbeId)⟩,
          { state with toProbeGate := state.claimProbe })) := by
  cases kind : state.circuitState provider nowMs with
  | closed =>
    refine .inl ⟨rfl, ?_⟩
    simp only [tryBeginAttempt, kind]
  | opened =>
    refine .inr (.inl ?_)
    simp only [tryBeginAttempt, kind]
  | halfOpen =>
    cases owner : state.probeOwner with
    | some probe =>
      refine .inr (.inl ?_)
      simp only [tryBeginAttempt, kind, owner, Option.isSome_some, if_true]
    | none =>
      refine .inr (.inr ⟨rfl, rfl, ?_⟩)
      simp [tryBeginAttempt, kind, owner, ProbeGate.claimProbe]

theorem tryBeginAttempt_cases (enabled : provider.circuitBreakerEnabled = true)
    (state : ProviderRuntimeState) (nowMs : Int) :
    (state.openUntilMs = none ∧
      state.tryBeginAttempt provider nowMs = (some ⟨state.generation, none⟩, state)) ∨
    state.tryBeginAttempt provider nowMs = (none, state) ∨
    ((∃ untilMs, state.openUntilMs = some untilMs ∧ untilMs ≤ nowMs) ∧ state.probeOwner = none ∧
      state.tryBeginAttempt provider nowMs =
        (some ⟨state.generation, some (nextCounter state.nextProbeId)⟩,
          { state with toProbeGate := state.claimProbe })) := by
  have kind := circuitState_enabled enabled state nowMs
  rcases @tryBeginAttempt_shape provider state nowMs with
    ⟨closed, result⟩ | result | ⟨halfOpen, owner, result⟩
  · exact .inl ⟨(circuitKind_closed_iff _ _).mp (kind ▸ closed), result⟩
  · exact .inr (.inl result)
  · exact .inr (.inr ⟨(circuitKind_halfOpen_iff _ _).mp (kind ▸ halfOpen), owner, result⟩)

theorem finishNeutral_cases (state : ProviderRuntimeState) (token : AttemptToken) :
    state.finishNeutral token = state ∨
      state.finishNeutral token = { state with toProbeGate := (state.releaseProbeOwner token).1 } := by
  unfold finishNeutral
  split
  · exact .inr rfl
  · exact .inl rfl

theorem finishNeutral_stale (state : ProviderRuntimeState) (token : AttemptToken)
    (stale : state.attemptTokenMatches token = false) : state.finishNeutral token = state := by
  simp [finishNeutral, stale]

theorem finishNeutral_initial (token : AttemptToken) : initial.finishNeutral token = initial := by
  have kept : (initial.releaseProbeOwner token).1 = initial.toProbeGate := by
    cases probe : token.probeId <;> simp [ProbeGate.releaseProbeOwner, initial, probe]
  unfold finishNeutral
  split
  · rw [kept]
  · rfl

variable (alpha : Float) (state : ProviderRuntimeState) (token : AttemptToken)
  (status latencyMs : Option Int) (errorType errorMessage : String) (nowMs : Int)

theorem finishSuccess_stale (stale : state.attemptTokenMatches token = false) :
    state.finishSuccess alpha provider token status latencyMs nowMs =
      { state with
        successCount := saturatingAddU64 state.successCount 1
        latencyEwmaMs := observeLatency alpha state.latencyEwmaMs latencyMs } := by
  simp [finishSuccess, stale]

theorem finishSuccess_plain (enabled : provider.circuitBreakerEnabled = true)
    (current : state.attemptTokenMatches token = true) (plain : token.probeId = none)
    (closed : state.openUntilMs = none) :
    (state.finishSuccess alpha provider token status latencyMs nowMs).toProbeGate = state.toProbeGate ∧
      (state.finishSuccess alpha provider token status latencyMs nowMs).openUntilMs = none ∧
      (state.finishSuccess alpha provider token status latencyMs nowMs).consecutiveFailures = 0 := by
  simp [finishSuccess, current, enabled, circuitState, circuitKind, closed,
    ProbeGate.releaseProbeOwner_plain _ _ plain]

theorem finishSuccess_probe_counts (enabled : provider.circuitBreakerEnabled = true)
    (current : state.attemptTokenMatches token = true) (untilMs : Int)
    (cooling : state.openUntilMs = some untilMs) (elapsed : untilMs ≤ nowMs)
    (short : saturatingAddU32 state.halfOpenSuccesses 1 <
      atLeastOne provider.circuitBreakerHalfOpenSuccessThreshold) :
    let after := state.finishSuccess alpha provider token status latencyMs nowMs
    after.toProbeGate = (state.releaseProbeOwner token).1 ∧
      after.openUntilMs = state.openUntilMs ∧
      after.halfOpenSuccesses = saturatingAddU32 state.halfOpenSuccesses 1 := by
  have kind : circuitKind state.openUntilMs nowMs = .halfOpen :=
    (circuitKind_halfOpen_iff _ _).mpr ⟨_, cooling, elapsed⟩
  simp [finishSuccess, current, enabled, circuitState, kind, Nat.not_le_of_lt short]

theorem finishSuccess_probe_recovers (enabled : provider.circuitBreakerEnabled = true)
    (current : state.attemptTokenMatches token = true) (untilMs : Int)
    (cooling : state.openUntilMs = some untilMs) (elapsed : untilMs ≤ nowMs)
    (enough : atLeastOne provider.circuitBreakerHalfOpenSuccessThreshold ≤
      saturatingAddU32 state.halfOpenSuccesses 1) :
    let after := state.finishSuccess alpha provider token status latencyMs nowMs
    after.toProbeGate = (state.releaseProbeOwner token).1.advanceGeneration ∧
      after.openUntilMs = none ∧ after.consecutiveFailures = 0 := by
  have kind : circuitKind state.openUntilMs nowMs = .halfOpen :=
    (circuitKind_halfOpen_iff _ _).mpr ⟨_, cooling, elapsed⟩
  simp [finishSuccess, current, enabled, circuitState, kind, enough, clearBreakerState,
    ProbeGate.advanceGeneration]

theorem finishFailure_stale (stale : state.attemptTokenMatches token = false) :
    state.finishFailure provider token status errorType errorMessage nowMs =
      (.unchanged, { state with failureCount := saturatingAddU64 state.failureCount 1 }) := by
  simp [finishFailure, stale]

theorem finishFailure_counts (enabled : provider.circuitBreakerEnabled = true)
    (current : state.attemptTokenMatches token = true) (plain : token.probeId = none)
    (closed : state.openUntilMs = none)
    (short : saturatingAddU32 state.consecutiveFailures 1 <
      atLeastOne provider.circuitBreakerFailureThreshold) :
    let after := (state.finishFailure provider token status errorType errorMessage nowMs).2
    after.toProbeGate = state.toProbeGate ∧ after.openUntilMs = none ∧
      after.consecutiveFailures = saturatingAddU32 state.consecutiveFailures 1 := by
  simp [finishFailure, current, enabled, circuitState, circuitKind, closed, Nat.not_le_of_lt short,
    ProbeGate.releaseProbeOwner_plain _ _ plain]

theorem finishFailure_opens (enabled : provider.circuitBreakerEnabled = true)
    (current : state.attemptTokenMatches token = true)
    (reached : circuitKind state.openUntilMs nowMs = .halfOpen ∨
      atLeastOne provider.circuitBreakerFailureThreshold ≤
        saturatingAddU32 state.consecutiveFailures 1) :
    let result := state.finishFailure provider token status errorType errorMessage nowMs
    result.1 = .opened ∧
      result.2.toProbeGate = (state.releaseProbeOwner token).1.advanceGeneration ∧
      result.2.openUntilMs.isSome ∧ result.2.halfOpenSuccesses = 0 := by
  by_cases kind : circuitKind state.openUntilMs nowMs = .halfOpen
  · simp [finishFailure, current, enabled, circuitState, kind, le_max_right]
  · have enough := reached.resolve_left kind
    simp [finishFailure, current, enabled, circuitState, kind, enough]

end ProviderRuntimeState

namespace ProviderRuntimeBook

@[simp] theorem entry_put_same (book : ProviderRuntimeBook) (id : Int)
    (state : ProviderRuntimeState) : (book.put id state).entry id = state := by
  simp [entry, put]

theorem entry_put_ne (book : ProviderRuntimeBook) {id other : Int} (state : ProviderRuntimeState)
    (apart : other ≠ id) : (book.put id state).entry other = book.entry other := by
  simp [entry, put, AList.lookup_insert_ne apart]

theorem entry_of_lookup_none {book : ProviderRuntimeBook} {id : Int}
    (absent : book.byProvider.lookup id = none) : book.entry id = .initial := by
  simp [entry, absent]

theorem entry_of_lookup_some {book : ProviderRuntimeBook} {id : Int} {state : ProviderRuntimeState}
    (found : book.byProvider.lookup id = some state) : book.entry id = state := by
  simp [entry, found]

@[simp] theorem finishNeutral_entry (book : ProviderRuntimeBook) (id : Int) (token : AttemptToken) :
    (book.finishNeutral id token).entry id = (book.entry id).finishNeutral token := by
  unfold finishNeutral
  split
  · rename_i absent
    rw [entry_of_lookup_none absent, ProviderRuntimeState.finishNeutral_initial]
  · rename_i state found
    rw [entry_put_same, entry_of_lookup_some found]

theorem finishNeutral_entry_ne (book : ProviderRuntimeBook) {id other : Int} (token : AttemptToken)
    (apart : other ≠ id) : (book.finishNeutral id token).entry other = book.entry other := by
  unfold finishNeutral
  split
  · rfl
  · exact entry_put_ne book _ apart

@[simp] theorem tryBeginAttempt_entry (book : ProviderRuntimeBook) (provider : UpstreamProvider)
    (nowMs : Int) :
    (book.tryBeginAttempt provider nowMs).2.entry provider.id =
      ((book.entry provider.id).tryBeginAttempt provider nowMs).2 := by
  simp [tryBeginAttempt]

theorem tryBeginAttempt_guard (book : ProviderRuntimeBook) (provider : UpstreamProvider)
    (nowMs : Int) :
    (book.tryBeginAttempt provider nowMs).1 =
      ((book.entry provider.id).tryBeginAttempt provider nowMs).1.map (⟨provider, ·⟩) := rfl

theorem isCurrent_entry {book : ProviderRuntimeBook} {guard : ProviderAttemptGuard}
    (current : guard.isCurrent book = true) :
    (book.entry guard.provider.id).attemptTokenMatches guard.token = true := by
  unfold ProviderAttemptGuard.isCurrent at current
  obtain ⟨state, found, accepted⟩ := Option.any_eq_true _ _ |>.mp current
  rw [entry_of_lookup_some found]
  exact accepted

end ProviderRuntimeBook

end CodexGate.Provider
