import CodexGate.Reservation.Books

namespace CodexGate.Provider

open Foundation Health

namespace ProviderAttemptGuard

variable (guard : ProviderAttemptGuard) (book : ProviderRuntimeBook)

theorem success_spent (status latencyMs : Option Int) (nowMs : Int) :
    ProviderRuntimeBook.Spent guard book (guard.success book status latencyMs nowMs) := by
  have spent := @ProviderRuntimeState.finishSuccess_spent guard.provider book.ewmaAlpha
    (book.entry guard.provider.id) guard.token status latencyMs nowMs
  exact .of_entry spent.1 spent.2

theorem failure_spent (status : Option Int) (errorType errorMessage : String) (nowMs : Int) :
    ProviderRuntimeBook.Spent guard book
      (guard.failure book status errorType errorMessage nowMs).2 := by
  have spent := @ProviderRuntimeState.finishFailure_spent guard.provider
    (book.entry guard.provider.id) guard.token status errorType errorMessage nowMs
  exact .of_entry spent.1 spent.2

theorem neutral_spent : ProviderRuntimeBook.Spent guard book (guard.neutral book) := by
  have spent := (book.entry guard.provider.id).finishNeutral_spent guard.token
  constructor
  · intro id
    by_cases here : id = guard.provider.id
    · rw [here, neutral, ProviderRuntimeBook.finishNeutral_entry, spent.1]
    · rw [neutral, ProviderRuntimeBook.finishNeutral_entry_ne _ _ here]
  · intro probe held
    rw [neutral, ProviderRuntimeBook.finishNeutral_entry]
    exact spent.2 probe held

end ProviderAttemptGuard

end CodexGate.Provider

namespace CodexGate.Health

def RuntimeHealthAttemptGuard.Spent (guard : RuntimeHealthAttemptGuard)
    (after : RuntimeHealthBook) : Prop :=
  ∀ probe, guard.token.probeId = some probe →
    (after.entry guard.id).attemptTokenMatches guard.token = false

namespace RuntimeHealthAttemptGuard

variable (guard : RuntimeHealthAttemptGuard) (book : RuntimeHealthBook)

theorem success_spent (status latencyMs : Option Int) (nowMs : Int) :
    guard.Spent (guard.success book status latencyMs nowMs) := by
  intro probe held
  rw [success, RuntimeHealthBook.finishSuccess, RuntimeHealthBook.entry_put_same]
  exact RuntimeHealthState.finishSuccess_spent _ _ _ _ _ _ probe held

theorem failure_spent (status : Option Int) (errorType errorMessage : Option String) (nowMs : Int) :
    guard.Spent (guard.failure book status errorType errorMessage nowMs) := by
  intro probe held
  rw [failure, RuntimeHealthBook.finishFailure, RuntimeHealthBook.entry_put_same]
  exact RuntimeHealthState.finishFailure_spent _ _ _ _ _ _ _ _ probe held

theorem neutral_spent (nowMs : Int) : guard.Spent (guard.neutral book nowMs) := by
  intro probe held
  rw [neutral, RuntimeHealthBook.finishNeutral_entry]
  exact RuntimeHealthState.finishNeutral_spent _ _ _ probe held

end RuntimeHealthAttemptGuard

end CodexGate.Health

namespace CodexGate.Reservation

open Foundation Health Provider

/-- The books that a failed reservation leaves behind: as they were, but for the numbering of
    probes, times of update and what a read at `nowMs` lets expire. -/
structure Undone (nowMs : Int) (before after : SharedState) : Prop where
  providers : before.providerRuntime.Kept after.providerRuntime
  keys : before.upstreamKeyHealth.Kept after.upstreamKeyHealth
  endpoints : before.endpointHealth.Kept after.endpointHealth
  quota : ∀ keyId, after.quota.entry keyId = before.quota.entry keyId ∨
    after.quota.entry keyId = (before.quota.entry keyId).expire nowMs

/-- The ways a reservation ends. A permit that is taken out of it is dropped afterwards. -/
inductive ReservationEnd
  | finish (scope : FailureScope) (outcome : AttemptOutcome) (recordedMs nowMs : Int)
  | neutral (nowMs : Int)
  | intoCapacity (nowMs : Int)
  | drop (endpointMs keyMs : Int)

def ReservationEnd.run (ending : ReservationEnd) (reservation : UpstreamAttemptReservation)
    (state : SharedState) : SharedState :=
  match ending with
  | .finish scope outcome recordedMs nowMs =>
    reservation.dropCapacity (reservation.finishWithScope outcome scope recordedMs nowMs state)
  | .neutral nowMs => reservation.neutral nowMs state
  | .intoCapacity nowMs =>
    let (permit, state) := reservation.intoCapacity nowMs state
    { state with providerRuntime := spend permit (·.drop ·) state.providerRuntime }
  | .drop endpointMs keyMs => reservation.drop endpointMs keyMs state

structure Holds (provider : ProviderAttemptGuard) (key endpoint : RuntimeHealthAttemptGuard)
    (reservation : UpstreamAttemptReservation) : Prop where
  provider : reservation.provider = some provider
  key : reservation.key = some key
  endpoint : reservation.endpoint = some endpoint

section Ends

variable {provider : ProviderAttemptGuard} {key endpoint : RuntimeHealthAttemptGuard}
  {reservation : UpstreamAttemptReservation}

/-- What is left of the three guards: no probe of theirs is accepted, and no count has moved. -/
structure GuardsSpent (provider : ProviderAttemptGuard) (key endpoint : RuntimeHealthAttemptGuard)
    (before after : SharedState) : Prop where
  provider : ProviderRuntimeBook.Spent provider before.providerRuntime after.providerRuntime
  key : key.Spent after.upstreamKeyHealth
  endpoint : endpoint.Spent after.endpointHealth

theorem recordFailure_entry (reservation : UpstreamAttemptReservation) (outcome : AttemptOutcome)
    (scope : FailureScope) (recordedMs : Int) (book : ProviderRuntimeBook) (id : Int) :
    (reservation.recordFailure outcome scope recordedMs book).entry id = book.entry id := by
  unfold UpstreamAttemptReservation.recordFailure
  split
  · split <;> rfl
  · rfl

theorem finishWithScope_spent (holds : Holds provider key endpoint reservation)
    (outcome : AttemptOutcome) (scope : FailureScope) (recordedMs nowMs : Int)
    (state : SharedState) :
    GuardsSpent provider key endpoint state
      (reservation.finishWithScope outcome scope recordedMs nowMs state) := by
  obtain ⟨hasProvider, hasKey, hasEndpoint⟩ := holds
  have recorded : ∀ after, ProviderRuntimeBook.Spent provider
      (reservation.recordFailure outcome scope recordedMs state.providerRuntime) after →
      ProviderRuntimeBook.Spent provider state.providerRuntime after := by
    intro after spent
    refine ⟨fun id => ?_, spent.released⟩
    rw [spent.inFlight id, recordFailure_entry]
  cases scope with
  | success =>
    simp only [UpstreamAttemptReservation.finishWithScope, hasProvider, hasKey, hasEndpoint, spend]
    exact ⟨recorded _ (provider.success_spent _ _ _ _), key.success_spent _ _ _ _,
      endpoint.success_spent _ _ _ _⟩
  | key =>
    simp only [UpstreamAttemptReservation.finishWithScope, hasProvider, hasKey, hasEndpoint, spend,
      neutralProvider]
    exact ⟨recorded _ (provider.neutral_spent _), key.failure_spent _ _ _ _ _,
      endpoint.success_spent _ _ _ _⟩
  | model | client =>
    simp only [UpstreamAttemptReservation.finishWithScope, hasProvider, hasKey, hasEndpoint, spend,
      neutralProvider]
    exact ⟨recorded _ (provider.neutral_spent _), key.success_spent _ _ _ _,
      endpoint.success_spent _ _ _ _⟩
  | quota =>
    simp only [UpstreamAttemptReservation.finishWithScope, hasProvider, hasKey, hasEndpoint, spend,
      neutralProvider, neutralHealth]
    exact ⟨recorded _ (provider.neutral_spent _), key.neutral_spent _ _, endpoint.neutral_spent _ _⟩
  | provider =>
    simp only [UpstreamAttemptReservation.finishWithScope, hasProvider, hasKey, hasEndpoint, spend,
      neutralHealth]
    exact ⟨recorded _ (provider.failure_spent _ _ _ _ _), key.neutral_spent _ _,
      endpoint.failure_spent _ _ _ _ _⟩

theorem takeNeutral_spent (holds : Holds provider key endpoint reservation) (nowMs : Int)
    (state : SharedState) :
    GuardsSpent provider key endpoint state (reservation.takeNeutral nowMs state) := by
  obtain ⟨hasProvider, hasKey, hasEndpoint⟩ := holds
  simp only [UpstreamAttemptReservation.takeNeutral, hasProvider, hasKey, hasEndpoint, spend,
    neutralProvider, neutralHealth]
  exact ⟨provider.neutral_spent _, key.neutral_spent _ _, endpoint.neutral_spent _ _⟩

theorem spend_permit_entry (capacity : Option ProviderCapacityPermit) (book : ProviderRuntimeBook)
    (id : Int) :
    (spend capacity (·.drop ·) book).entry id =
      if capacity.any (·.providerId == id) then (book.entry id).releaseCapacity
      else book.entry id := by
  cases capacity with
  | none => rfl
  | some permit =>
    by_cases here : permit.providerId = id
    · subst here
      simp [spend, ProviderCapacityPermit.drop]
    · simp [spend, ProviderCapacityPermit.drop, here,
        ProviderRuntimeBook.releaseCapacity_entry_ne book (Ne.symm here)]

/-- The end of a reservation: its guards are spent and its permit, if it has one, is given back. -/
structure Ended (capacity : Option ProviderCapacityPermit) (provider : ProviderAttemptGuard)
    (key endpoint : RuntimeHealthAttemptGuard) (before after : SharedState) : Prop where
  inFlight : ∀ id, (after.providerRuntime.entry id).inFlight =
    if capacity.any (·.providerId == id) then (before.providerRuntime.entry id).inFlight - 1
    else (before.providerRuntime.entry id).inFlight
  provider : provider.token.probeId.isSome → provider.isCurrent after.providerRuntime = false
  key : key.token.probeId.isSome → key.isCurrent after.upstreamKeyHealth = false
  endpoint : endpoint.token.probeId.isSome → endpoint.isCurrent after.endpointHealth = false

theorem ended_of_spent {capacity : Option ProviderCapacityPermit} {before after : SharedState}
    (inFlight : ∀ id, (after.providerRuntime.entry id).inFlight =
      if capacity.any (·.providerId == id) then (before.providerRuntime.entry id).inFlight - 1
      else (before.providerRuntime.entry id).inFlight)
    (providerReleased : ∀ probe, provider.token.probeId = some probe →
      (after.providerRuntime.entry provider.provider.id).attemptTokenMatches provider.token = false)
    (keySpent : key.Spent after.upstreamKeyHealth)
    (endpointSpent : endpoint.Spent after.endpointHealth) :
    Ended capacity provider key endpoint before after := by
  refine ⟨inFlight, fun probing => ?_, fun probing => ?_, fun probing => ?_⟩ <;>
    obtain ⟨probe, held⟩ := Option.isSome_iff_exists.mp probing <;>
    refine Bool.eq_false_iff.mpr fun current => ?_
  · have accepted := ProviderRuntimeBook.isCurrent_entry current
    rw [providerReleased probe held] at accepted
    cases accepted
  · have accepted := RuntimeHealthBook.isCurrent_entry current
    rw [keySpent probe held] at accepted
    cases accepted
  · have accepted := RuntimeHealthBook.isCurrent_entry current
    rw [endpointSpent probe held] at accepted
    cases accepted

theorem ended_guards_first {before middle : SharedState}
    (spent : GuardsSpent provider key endpoint before middle)
    (capacity : Option ProviderCapacityPermit) :
    Ended capacity provider key endpoint before
      { middle with providerRuntime := spend capacity (·.drop ·) middle.providerRuntime } := by
  apply ended_of_spent
  · intro id
    rw [spend_permit_entry]
    split
    · exact congrArg (· - 1) (spent.provider.inFlight id)
    · exact spent.provider.inFlight id
  · intro probe held
    have released := spent.provider.released probe held
    rw [spend_permit_entry]
    split
    · exact released
    · exact released
  · exact spent.key
  · exact spent.endpoint

theorem run_ended (holds : Holds provider key endpoint reservation) (ending : ReservationEnd)
    (state : SharedState) :
    Ended reservation.capacity provider key endpoint state (ending.run reservation state) := by
  cases ending with
  | finish scope outcome recordedMs nowMs =>
    exact ended_guards_first (finishWithScope_spent holds outcome scope recordedMs nowMs state) _
  | neutral nowMs => exact ended_guards_first (takeNeutral_spent holds nowMs state) _
  | intoCapacity nowMs => exact ended_guards_first (takeNeutral_spent holds nowMs state) _
  | drop endpointMs keyMs =>
    obtain ⟨hasProvider, hasKey, hasEndpoint⟩ := holds
    simp only [ReservationEnd.run, UpstreamAttemptReservation.drop,
      UpstreamAttemptReservation.dropCapacity, hasProvider, hasKey, hasEndpoint, spend]
    have spent := provider.neutral_spent (spend reservation.capacity (·.drop ·) state.providerRuntime)
    apply ended_of_spent
    · intro id
      refine (spent.inFlight id).trans ?_
      rw [spend_permit_entry]
      split <;> rfl
    · exact spent.released
    · exact key.neutral_spent _ _
    · exact endpoint.neutral_spent _ _

end Ends

section Reserve

variable {resolved : ResolvedUpstream} {nowMs keyMs endpointMs : Int}
  {acquireCapacity reserveQuota : Bool} {before after : SharedState}

theorem takeCapacity_acquires {book next : ProviderRuntimeBook} {provider : UpstreamProvider}
    {capacity : Option (Option ProviderCapacityPermit)}
    (taken : takeCapacity provider true book = (capacity, next)) :
    ∃ permit, book.tryAcquireCapacity provider = (permit, next) ∧ capacity = permit.map some := by
  simp only [takeCapacity, if_true] at taken
  cases acquired : book.tryAcquireCapacity provider with
  | mk permit acquiredBook =>
    rw [acquired] at taken
    cases permit with
    | none =>
      cases taken
      exact ⟨none, rfl, rfl⟩
    | some permit =>
      cases taken
      exact ⟨some permit, rfl, rfl⟩

theorem takeCapacity_granted {book next : ProviderRuntimeBook} {provider : UpstreamProvider}
    {capacity : Option ProviderCapacityPermit}
    (taken : takeCapacity provider acquireCapacity book = (some capacity, next)) :
    (acquireCapacity = true ∧ capacity = some ⟨provider.id⟩ ∧
      1 ≤ (next.entry provider.id).inFlight) ∨
      (acquireCapacity = false ∧ capacity = none ∧ next = book) := by
  cases acquireCapacity with
  | false =>
    cases taken
    exact .inr ⟨rfl, rfl, rfl⟩
  | true =>
    obtain ⟨permit, acquired, same⟩ := takeCapacity_acquires taken
    obtain ⟨⟨id⟩, rfl, rfl⟩ := Option.map_eq_some_iff.mp same.symm
    obtain ⟨owner, entry, _⟩ := ProviderRuntimeBook.tryAcquireCapacity_granted (congrArg Prod.fst acquired)
    rw [acquired] at entry
    refine .inl ⟨rfl, congrArg some (congrArg ProviderCapacityPermit.mk owner), ?_⟩
    rw [entry]
    exact saturatingAddU32_pos _

theorem takeCapacity_dropped {book next last : ProviderRuntimeBook} {provider : UpstreamProvider}
    {capacity : Option ProviderCapacityPermit}
    (fits : acquireCapacity = true → ProviderRuntimeBook.Fits provider book)
    (taken : takeCapacity provider acquireCapacity book = (some capacity, next))
    (kept : next.Kept last) : book.Kept (spend capacity (·.drop ·) last) := by
  cases acquireCapacity with
  | false =>
    cases taken
    exact kept
  | true =>
    obtain ⟨permit, acquired, same⟩ := takeCapacity_acquires taken
    obtain ⟨permit, rfl, rfl⟩ := Option.map_eq_some_iff.mp same.symm
    apply ProviderRuntimeBook.permit_dropped_kept (congrArg Prod.fst acquired) (fits rfl)
    rw [acquired]
    exact kept

theorem takeCapacity_refused {book next : ProviderRuntimeBook} {provider : UpstreamProvider}
    (refused : takeCapacity provider acquireCapacity book = (none, next)) : book.Kept next := by
  cases acquireCapacity with
  | false => cases refused
  | true =>
    obtain ⟨permit, acquired, same⟩ := takeCapacity_acquires refused
    have none := Option.map_eq_none_iff.mp same.symm
    have kept := ProviderRuntimeBook.tryAcquireCapacity_refused_kept ((congrArg Prod.fst acquired).trans none)
    rwa [acquired] at kept

theorem takeQuota_refused {book next : QuotaBook} {keyId : Int}
    (refused : takeQuota keyId nowMs reserveQuota book = (false, next)) (other : Int) :
    next.entry other = book.entry other ∨ next.entry other = (book.entry other).expire nowMs := by
  cases reserveQuota with
  | false => cases refused
  | true =>
    simp only [takeQuota, if_true] at refused
    have blocked : (book.reserveRequest keyId nowMs).1 = false := by rw [refused]
    have expired := QuotaBook.reserveRequest_refused blocked other
    rwa [refused] at expired

theorem reserveAttemptInner_error {error : AttemptReservationError}
    (fits : acquireCapacity = true →
      ProviderRuntimeBook.Fits resolved.provider before.providerRuntime)
    (failed : reserveAttemptInner resolved nowMs acquireCapacity reserveQuota keyMs endpointMs
      before = (.error error, after)) : Undone nowMs before after := by
  have sameKeys : before.upstreamKeyHealth.Kept before.upstreamKeyHealth :=
    ⟨rfl, rfl, rfl, fun _ => rfl⟩
  have sameEndpoints : before.endpointHealth.Kept before.endpointHealth :=
    ⟨rfl, rfl, rfl, fun _ => rfl⟩
  unfold reserveAttemptInner at failed
  split at failed
  · rename_i providers taken
    cases failed
    exact ⟨takeCapacity_refused taken, sameKeys, sameEndpoints, fun _ => .inl rfl⟩
  · rename_i capacity acquired taken
    split at failed
    · rename_i providers begun
      cases failed
      have refused := ProviderRuntimeBook.tryBeginAttempt_refused_kept (congrArg Prod.fst begun)
      rw [begun] at refused
      exact ⟨takeCapacity_dropped fits taken refused, sameKeys, sameEndpoints, fun _ => .inl rfl⟩
    · rename_i provider providers begun
      have dropped := ProviderRuntimeBook.tryBeginAttempt_dropped_kept (congrArg Prod.fst begun)
      rw [begun] at dropped
      have providerKept := takeCapacity_dropped fits taken dropped
      generalize (if provider.isHalfOpenProbe = true then _ else _ : Metrics) = metrics at failed
      split at failed
      · rename_i keys keyBegun
        cases failed
        have refused := RuntimeHealthBook.tryBeginAttempt_refused_kept (congrArg Prod.fst keyBegun)
        rw [keyBegun] at refused
        exact ⟨providerKept, refused, sameEndpoints, fun _ => .inl rfl⟩
      · rename_i key keys keyBegun
        have keyKept := RuntimeHealthBook.tryBeginAttempt_dropped_kept keyMs
          (congrArg Prod.fst keyBegun)
        rw [keyBegun] at keyKept
        split at failed
        · rename_i endpoints endpointBegun
          cases failed
          have refused := RuntimeHealthBook.tryBeginAttempt_refused_kept
            (congrArg Prod.fst endpointBegun)
          rw [endpointBegun] at refused
          exact ⟨providerKept, keyKept, refused, fun _ => .inl rfl⟩
        · rename_i endpoint endpoints endpointBegun
          have endpointKept := RuntimeHealthBook.tryBeginAttempt_dropped_kept endpointMs
            (congrArg Prod.fst endpointBegun)
          rw [endpointBegun] at endpointKept
          split at failed
          · rename_i quota quotaTaken
            cases failed
            exact ⟨providerKept, keyKept, endpointKept, takeQuota_refused quotaTaken⟩
          · cases failed

/-- What a reservation holds: three attempts that its books accept, and the permit if wanted. -/
structure Reserved (resolved : ResolvedUpstream) (acquireCapacity : Bool)
    (reservation : UpstreamAttemptReservation) (provider : ProviderAttemptGuard)
    (key endpoint : RuntimeHealthAttemptGuard) (after : SharedState) : Prop where
  holds : Holds provider key endpoint reservation
  capacity : reservation.capacity = if acquireCapacity then some ⟨resolved.provider.id⟩ else none
  counted : acquireCapacity = true →
    1 ≤ (after.providerRuntime.entry resolved.provider.id).inFlight
  provider : provider.isCurrent after.providerRuntime = true
  key : key.isCurrent after.upstreamKeyHealth = true
  endpoint : endpoint.isCurrent after.endpointHealth = true

theorem reserveAttemptInner_ok {reservation : UpstreamAttemptReservation}
    (reserved : reserveAttemptInner resolved nowMs acquireCapacity reserveQuota keyMs endpointMs
      before = (.ok reservation, after)) :
    ∃ provider key endpoint,
      Reserved resolved acquireCapacity reservation provider key endpoint after := by
  unfold reserveAttemptInner at reserved
  split at reserved
  · cases reserved
  · rename_i capacity acquired taken
    split at reserved
    · cases reserved
    · rename_i provider providers begun
      generalize (if provider.isHalfOpenProbe = true then _ else _ : Metrics) = metrics at reserved
      split at reserved
      · cases reserved
      · rename_i key keys keyBegun
        split at reserved
        · cases reserved
        · rename_i endpoint endpoints endpointBegun
          split at reserved
          · cases reserved
          · cases reserved
            have providerCurrent := ProviderRuntimeBook.tryBeginAttempt_current
              (congrArg Prod.fst begun)
            have keyCurrent := RuntimeHealthBook.tryBeginAttempt_current
              (congrArg Prod.fst keyBegun)
            have endpointCurrent := RuntimeHealthBook.tryBeginAttempt_current
              (congrArg Prod.fst endpointBegun)
            rw [begun] at providerCurrent
            rw [keyBegun] at keyCurrent
            rw [endpointBegun] at endpointCurrent
            have inFlight := ProviderRuntimeBook.tryBeginAttempt_inFlight acquired resolved.provider
              nowMs
            rw [begun] at inFlight
            refine ⟨provider, key, endpoint, ⟨rfl, rfl, rfl⟩, ?_, fun wanted => ?_, providerCurrent,
              keyCurrent, endpointCurrent⟩
            · rcases takeCapacity_granted taken with ⟨wanted, permit, _⟩ | ⟨unwanted, none, _⟩
              · rw [wanted]
                exact permit
              · rw [unwanted]
                exact none
            · rcases takeCapacity_granted taken with ⟨_, _, counted⟩ | ⟨unwanted, _, _⟩
              · exact inFlight ▸ counted
              · rw [unwanted] at wanted
                cases wanted

/-- A reservation that fails has changed nothing that routing reads, and one that succeeds is taken
    back in full by each of its ends, whenever it comes. -/
theorem reserveAttempt_atomic (resolved : ResolvedUpstream) (nowMs : Int)
    (acquireCapacity reserveQuota : Bool) (keyMs endpointMs : Int) (before after : SharedState)
    (fits : acquireCapacity = true →
      ProviderRuntimeBook.Fits resolved.provider before.providerRuntime) :
    (∀ error, reserveAttemptInner resolved nowMs acquireCapacity reserveQuota keyMs endpointMs
      before = (.error error, after) → Undone nowMs before after) ∧
    ∀ reservation, reserveAttemptInner resolved nowMs acquireCapacity reserveQuota keyMs endpointMs
      before = (.ok reservation, after) →
      ∃ provider key endpoint,
        Reserved resolved acquireCapacity reservation provider key endpoint after ∧
        ∀ (ending : ReservationEnd) (later : SharedState),
          Ended reservation.capacity provider key endpoint later (ending.run reservation later) := by
  refine ⟨fun error failed => reserveAttemptInner_error fits failed, fun reservation reserved => ?_⟩
  obtain ⟨provider, key, endpoint, holds⟩ := reserveAttemptInner_ok reserved
  exact ⟨provider, key, endpoint, holds, run_ended holds.holds⟩

def unlimitedTarget : ResolvedUpstream where
  provider :=
    { id := 1, providerType := "openai_compatible", enabled := true, maxConcurrency := none,
      circuitBreakerEnabled := true, circuitBreakerFailureThreshold := i32 3,
      circuitBreakerOpenMs := 30000, circuitBreakerHalfOpenSuccessThreshold := i32 1 }
  endpoint := { id := 2, providerId := 1, enabled := true }
  key := { id := 3, providerId := 1, enabled := true }

def openState (inFlight : Nat) : SharedState where
  endpointHealth := .new 3 30000
  upstreamKeyHealth := .new 3 30000
  providerRuntime := ProviderRuntimeBook.new.put 1
    { ProviderRuntimeState.initial with inFlight := inFlight, openUntilMs := some 30000 }
  quota := .new
  metrics := ⟨0, 0⟩

theorem reserveAttempt_atomic_refused :
    ∃ after, reserveAttemptInner unlimitedTarget 0 true true 0 0 (openState 5) =
      (.error .provider, after) ∧ Undone 0 (openState 5) after :=
  ⟨_, rfl, (reserveAttempt_atomic unlimitedTarget 0 true true 0 0 (openState 5) _
    (fun _ _ => by decide)).1 .provider rfl⟩

/-- At its largest value the count stays where it is when it is raised, and is then lowered. -/
theorem reserveAttempt_loses_count :
    ∃ after, reserveAttemptInner unlimitedTarget 0 true true 0 0 (openState u32Max) =
      (.error .provider, after) ∧
      ((openState u32Max).providerRuntime.entry 1).inFlight = u32Max ∧
      (after.providerRuntime.entry 1).inFlight = u32Max - 1 :=
  ⟨_, rfl, by decide, by decide⟩

end Reserve

end CodexGate.Reservation
