import CodexGate.Health.Model

namespace CodexGate.Health

open Foundation

namespace RuntimeHealthState

theorem tryBeginAttempt_blocked (state : RuntimeHealthState) (nowMs untilMs : Int)
    (opened : state.openUntilMs = some untilMs) (later : untilMs > nowMs) :
    state.tryBeginAttempt nowMs = (none, state) := by
  have kind : state.stateKind nowMs = .opened := (circuitKind_opened_iff _ _).mpr ⟨_, opened, later⟩
  simp only [tryBeginAttempt, kind]

/-- Everything an attempt can do to an entry: pass a closed circuit, be refused, or become the
    probe of a circuit whose cooldown has passed. -/
theorem tryBeginAttempt_cases (state : RuntimeHealthState) (nowMs : Int) :
    (state.openUntilMs = none ∧
      state.tryBeginAttempt nowMs = (some ⟨state.generation, none⟩, state)) ∨
    state.tryBeginAttempt nowMs = (none, state) ∨
    ((∃ untilMs, state.openUntilMs = some untilMs ∧ untilMs ≤ nowMs) ∧ state.probeOwner = none ∧
      state.tryBeginAttempt nowMs =
        (some ⟨state.generation, some (nextCounter state.nextProbeId)⟩,
          { state with toProbeGate := state.claimProbe, updatedAtMs := some nowMs })) := by
  cases kind : state.stateKind nowMs with
  | closed =>
    refine .inl ⟨(circuitKind_closed_iff _ _).mp kind, ?_⟩
    simp only [tryBeginAttempt, kind]
  | opened =>
    refine .inr (.inl ?_)
    simp only [tryBeginAttempt, kind]
  | halfOpen =>
    cases owner : state.probeOwner with
    | some probe =>
      refine .inr (.inl ?_)
      simp only [tryBeginAttempt, kind, owner, Option.isSome_some, if_true]
    | none =>
      refine .inr (.inr ⟨(circuitKind_halfOpen_iff _ _).mp kind, rfl, ?_⟩)
      simp [tryBeginAttempt, kind, owner, ProbeGate.claimProbe]

theorem finishNeutral_stale (state : RuntimeHealthState) (token : AttemptToken) (nowMs : Int)
    (stale : state.attemptTokenMatches token = false) : state.finishNeutral token nowMs = state := by
  simp [finishNeutral, stale]

@[simp] theorem finishNeutral_openUntilMs (state : RuntimeHealthState) (token : AttemptToken)
    (nowMs : Int) : (state.finishNeutral token nowMs).openUntilMs = state.openUntilMs := by
  unfold finishNeutral
  split
  · dsimp only
    split <;> rfl
  · rfl

theorem finishNeutral_gate (state : RuntimeHealthState) (token : AttemptToken) (nowMs : Int) :
    (state.finishNeutral token nowMs).toProbeGate = state.toProbeGate ∨
      (state.finishNeutral token nowMs).toProbeGate = (state.releaseProbeOwner token).1 := by
  unfold finishNeutral
  split
  · dsimp only
    split
    · exact .inr rfl
    · exact .inl rfl
  · exact .inl rfl

theorem finishNeutral_initial (token : AttemptToken) (nowMs : Int) :
    initial.finishNeutral token nowMs = initial := by
  have kept : (initial.releaseProbeOwner token).2 = false := by
    cases probe : token.probeId <;> simp [ProbeGate.releaseProbeOwner, initial, probe]
  simp [finishNeutral, kept]

theorem finishSuccess_stale (alpha : Float) (state : RuntimeHealthState) (token : AttemptToken)
    (status latencyMs : Option Int) (nowMs : Int)
    (stale : state.attemptTokenMatches token = false) :
    state.finishSuccess alpha token status latencyMs nowMs =
      { state with
        successCount := saturatingAddU64 state.successCount 1
        latencyEwmaMs := observeLatency alpha state.latencyEwmaMs latencyMs } := by
  simp [finishSuccess, stale]

theorem finishSuccess_closes (alpha : Float) (state : RuntimeHealthState) (token : AttemptToken)
    (status latencyMs : Option Int) (nowMs : Int)
    (current : state.attemptTokenMatches token = true) :
    (state.finishSuccess alpha token status latencyMs nowMs).openUntilMs = none := by
  simp only [finishSuccess, current, if_true]
  split <;> rfl

theorem finishSuccess_plain_gate (alpha : Float) (state : RuntimeHealthState)
    (token : AttemptToken) (status latencyMs : Option Int) (nowMs : Int)
    (current : state.attemptTokenMatches token = true) (plain : token.probeId = none)
    (closed : state.openUntilMs = none) :
    (state.finishSuccess alpha token status latencyMs nowMs).toProbeGate = state.toProbeGate := by
  have kind : state.stateKind nowMs ≠ .halfOpen := by
    simp [stateKind, circuitKind, closed]
  simp only [finishSuccess, current, if_true]
  rw [if_neg (by simpa [stateKind] using kind)]
  simp [ProbeGate.releaseProbeOwner_plain _ _ plain]

theorem finishSuccess_probe_gate (alpha : Float) (state : RuntimeHealthState)
    (token : AttemptToken) (status latencyMs : Option Int) (nowMs untilMs : Int)
    (current : state.attemptTokenMatches token = true)
    (cooling : state.openUntilMs = some untilMs) (elapsed : untilMs ≤ nowMs) :
    (state.finishSuccess alpha token status latencyMs nowMs).toProbeGate =
      (state.releaseProbeOwner token).1.advanceGeneration := by
  have kind : state.stateKind nowMs = .halfOpen :=
    (circuitKind_halfOpen_iff _ _).mpr ⟨_, cooling, elapsed⟩
  simp only [finishSuccess, current, if_true]
  rw [if_pos (by simpa [stateKind] using kind)]

theorem finishFailure_stale (threshold : Nat) (openMs : Int) (state : RuntimeHealthState)
    (token : AttemptToken) (status : Option Int) (errorType errorMessage : Option String)
    (nowMs : Int) (stale : state.attemptTokenMatches token = false) :
    state.finishFailure threshold openMs token status errorType errorMessage nowMs =
      { state with failureCount := saturatingAddU64 state.failureCount 1 } := by
  simp [finishFailure, stale]

theorem finishFailure_opens (threshold : Nat) (openMs : Int) (state : RuntimeHealthState)
    (token : AttemptToken) (status : Option Int) (errorType errorMessage : Option String)
    (nowMs : Int) (current : state.attemptTokenMatches token = true) :
    (state.finishFailure threshold openMs token status errorType errorMessage nowMs).openUntilMs.isSome ∧
    (state.finishFailure threshold openMs token status errorType errorMessage nowMs).toProbeGate =
      (state.releaseProbeOwner token).1.advanceGeneration := by
  simp [finishFailure, current]

end RuntimeHealthState

namespace RuntimeHealthBook

@[simp] theorem entry_put_same (book : RuntimeHealthBook) (id : Int) (state : RuntimeHealthState) :
    (book.put id state).entry id = state := by
  simp [entry, put]

theorem entry_put_ne (book : RuntimeHealthBook) {id other : Int} (state : RuntimeHealthState)
    (apart : other ≠ id) : (book.put id state).entry other = book.entry other := by
  simp [entry, put, AList.lookup_insert_ne apart]

theorem entry_of_lookup_none {book : RuntimeHealthBook} {id : Int}
    (absent : book.byId.lookup id = none) : book.entry id = .initial := by
  simp [entry, absent]

theorem entry_of_lookup_some {book : RuntimeHealthBook} {id : Int} {state : RuntimeHealthState}
    (found : book.byId.lookup id = some state) : book.entry id = state := by
  simp [entry, found]

@[simp] theorem finishNeutral_entry (book : RuntimeHealthBook) (id : Int) (token : AttemptToken)
    (nowMs : Int) :
    (book.finishNeutral id token nowMs).entry id = (book.entry id).finishNeutral token nowMs := by
  unfold finishNeutral
  split
  · rename_i absent
    rw [entry_of_lookup_none absent, RuntimeHealthState.finishNeutral_initial]
  · rename_i state found
    rw [entry_put_same, entry_of_lookup_some found]

theorem finishNeutral_entry_ne (book : RuntimeHealthBook) {id other : Int} (token : AttemptToken)
    (nowMs : Int) (apart : other ≠ id) :
    (book.finishNeutral id token nowMs).entry other = book.entry other := by
  unfold finishNeutral
  split
  · rfl
  · exact entry_put_ne book _ apart

@[simp] theorem tryBeginAttempt_entry (book : RuntimeHealthBook) (id nowMs : Int) :
    (book.tryBeginAttempt id nowMs).2.entry id = ((book.entry id).tryBeginAttempt nowMs).2 := by
  simp [tryBeginAttempt]

theorem tryBeginAttempt_guard (book : RuntimeHealthBook) (id nowMs : Int) :
    (book.tryBeginAttempt id nowMs).1 =
      ((book.entry id).tryBeginAttempt nowMs).1.map (⟨id, ·⟩) := rfl

theorem isCurrent_entry {book : RuntimeHealthBook} {guard : RuntimeHealthAttemptGuard}
    (current : guard.isCurrent book = true) :
    (book.entry guard.id).attemptTokenMatches guard.token = true := by
  unfold RuntimeHealthAttemptGuard.isCurrent at current
  obtain ⟨state, found, accepted⟩ := Option.any_eq_true _ _ |>.mp current
  rw [entry_of_lookup_some found]
  exact accepted

end RuntimeHealthBook

end CodexGate.Health
