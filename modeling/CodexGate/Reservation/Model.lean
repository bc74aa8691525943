import CodexGate.State

namespace CodexGate.Reservation

open Foundation Health Provider

inductive FailureScope
  | success
  | key
  | quota
  | model
  | provider
  | client
  deriving DecidableEq

/-- The `Debug` form, which the error timeline keeps as the category. -/
def FailureScope.debug : FailureScope → String
  | .success => "Success"
  | .key => "Key"
  | .quota => "Quota"
  | .model => "Model"
  | .provider => "Provider"
  | .client => "Client"

inductive OutcomeOrigin
  | upstreamResponse
  | upstreamEvent
  | localTransport
  | gateway
  deriving DecidableEq

def classifyFailureScope (status : Option Int) (origin : OutcomeOrigin) : FailureScope :=
  if origin = .localTransport then .provider
  else
    match status with
    | none => .provider
    | some code =>
      if 200 ≤ code ∧ code ≤ 399 then .success
      else if code = 401 ∨ code = 403 then .key
      else if code = 402 ∨ code = 429 then .quota
      else if code = 404 then .model
      else if code = 408 ∨ code = 409 ∨ code = 425 then .provider
      else if code ≥ 500 then .provider
      else if 400 ≤ code ∧ code ≤ 499 then .client
      else .provider

def FailureScope.isRetryable : FailureScope → Bool
  | .key | .quota | .model | .provider => true
  | .success | .client => false

structure AttemptOutcome where
  status : Option Int
  origin : OutcomeOrigin
  errorType : Option String
  errorMessage : Option String
  observedLatencyMs : Option Int

/-- The part of a resolved route that a reservation reads. -/
structure ResolvedUpstream where
  provider : UpstreamProvider
  endpoint : UpstreamEndpoint
  key : UpstreamKey

inductive AttemptReservationError
  | provider
  | key
  | endpoint
  | quota
  deriving DecidableEq, Inhabited

structure ErrorTarget where
  provider : Int
  endpoint : Int
  key : Int

/-- A reservation that is not ended yet; the guards are gone once an end has taken them. -/
structure UpstreamAttemptReservation where
  errorBook : Option ErrorTarget
  capacity : Option ProviderCapacityPermit
  provider : Option ProviderAttemptGuard
  endpoint : Option RuntimeHealthAttemptGuard
  key : Option RuntimeHealthAttemptGuard

def spend {γ β : Type} (guard : Option γ) (use : γ → β → β) (book : β) : β :=
  match guard with
  | some guard => use guard book
  | none => book

def neutralHealth (guard : Option RuntimeHealthAttemptGuard) (nowMs : Int)
    (book : RuntimeHealthBook) : RuntimeHealthBook :=
  spend guard (·.neutral · nowMs) book

def neutralProvider (guard : Option ProviderAttemptGuard) (book : ProviderRuntimeBook) :
    ProviderRuntimeBook :=
  spend guard (·.neutral ·) book

namespace UpstreamAttemptReservation

def isCurrent (reservation : UpstreamAttemptReservation) (state : SharedState) : Bool :=
  reservation.provider.all (·.isCurrent state.providerRuntime) &&
    reservation.endpoint.all (·.isCurrent state.endpointHealth) &&
    reservation.key.all (·.isCurrent state.upstreamKeyHealth)

def recordFailure (reservation : UpstreamAttemptReservation) (outcome : AttemptOutcome)
    (scope : FailureScope) (recordedMs : Int) (book : ProviderRuntimeBook) : ProviderRuntimeBook :=
  match reservation.errorBook with
  | some target =>
    if scope ≠ .success then
      book.recordError target.provider
        ⟨recordedMs, target.endpoint, target.key, scope.debug, outcome.status⟩
    else book
  | none => book

def finishWithScope (reservation : UpstreamAttemptReservation) (outcome : AttemptOutcome)
    (scope : FailureScope) (recordedMs nowMs : Int) (state : SharedState) : SharedState :=
  let state := { state with
    providerRuntime := reservation.recordFailure outcome scope recordedMs state.providerRuntime }
  let errorType := outcome.errorType.getD "upstream_error"
  let errorMessage := outcome.errorMessage.getD "upstream attempt failed"
  let succeeded (guard : Option RuntimeHealthAttemptGuard) (book : RuntimeHealthBook) :=
    spend guard (·.success · outcome.status outcome.observedLatencyMs nowMs) book
  let failed (guard : Option RuntimeHealthAttemptGuard) (book : RuntimeHealthBook) :=
    spend guard (·.failure · outcome.status outcome.errorType outcome.errorMessage nowMs) book
  match scope with
  | .success =>
    { state with
      endpointHealth := succeeded reservation.endpoint state.endpointHealth
      upstreamKeyHealth := succeeded reservation.key state.upstreamKeyHealth
      providerRuntime := spend reservation.provider
        (·.success · outcome.status outcome.observedLatencyMs nowMs) state.providerRuntime }
  | .key =>
    { state with
      endpointHealth := succeeded reservation.endpoint state.endpointHealth
      upstreamKeyHealth := failed reservation.key state.upstreamKeyHealth
      providerRuntime := neutralProvider reservation.provider state.providerRuntime }
  | .model | .client =>
    { state with
      endpointHealth := succeeded reservation.endpoint state.endpointHealth
      upstreamKeyHealth := succeeded reservation.key state.upstreamKeyHealth
      providerRuntime := neutralProvider reservation.provider state.providerRuntime }
  | .quota =>
    { state with
      endpointHealth := neutralHealth reservation.endpoint nowMs state.endpointHealth
      upstreamKeyHealth := neutralHealth reservation.key nowMs state.upstreamKeyHealth
      providerRuntime := neutralProvider reservation.provider state.providerRuntime }
  | .provider =>
    let state := { state with
      endpointHealth := failed reservation.endpoint state.endpointHealth
      upstreamKeyHealth := neutralHealth reservation.key nowMs state.upstreamKeyHealth }
    match reservation.provider with
    | none => state
    | some guard =>
      let (transition, book) :=
        guard.failure state.providerRuntime outcome.status errorType errorMessage nowMs
      { state with
        providerRuntime := book
        metrics :=
          if transition = .opened then state.metrics.recordProviderBreakerOpen else state.metrics }

def dropCapacity (reservation : UpstreamAttemptReservation) (state : SharedState) : SharedState :=
  { state with providerRuntime := spend reservation.capacity (·.drop ·) state.providerRuntime }

def finish (reservation : UpstreamAttemptReservation) (outcome : AttemptOutcome)
    (recordedMs nowMs : Int) (state : SharedState) : SharedState :=
  reservation.dropCapacity (reservation.finishWithScope outcome
    (classifyFailureScope outcome.status outcome.origin) recordedMs nowMs state)

def takeNeutral (reservation : UpstreamAttemptReservation) (nowMs : Int) (state : SharedState) :
    SharedState :=
  { state with
    endpointHealth := neutralHealth reservation.endpoint nowMs state.endpointHealth
    upstreamKeyHealth := neutralHealth reservation.key nowMs state.upstreamKeyHealth
    providerRuntime := neutralProvider reservation.provider state.providerRuntime }

def neutral (reservation : UpstreamAttemptReservation) (nowMs : Int) (state : SharedState) :
    SharedState :=
  reservation.dropCapacity (reservation.takeNeutral nowMs state)

def intoCapacity (reservation : UpstreamAttemptReservation) (nowMs : Int) (state : SharedState) :
    Option ProviderCapacityPermit × SharedState :=
  (reservation.capacity, reservation.takeNeutral nowMs state)

/-- `Drop` of a reservation that was not ended: the fields go in their declared order. -/
def drop (reservation : UpstreamAttemptReservation) (endpointMs keyMs : Int)
    (state : SharedState) : SharedState :=
  let state := reservation.dropCapacity state
  { state with
    providerRuntime := spend reservation.provider (·.drop ·) state.providerRuntime
    endpointHealth := spend reservation.endpoint (·.drop · endpointMs) state.endpointHealth
    upstreamKeyHealth := spend reservation.key (·.drop · keyMs) state.upstreamKeyHealth }

end UpstreamAttemptReservation

def takeCapacity (provider : UpstreamProvider) (acquireCapacity : Bool)
    (book : ProviderRuntimeBook) :
    Option (Option ProviderCapacityPermit) × ProviderRuntimeBook :=
  if acquireCapacity then
    match book.tryAcquireCapacity provider with
    | (some permit, book) => (some (some permit), book)
    | (none, book) => (none, book)
  else (some none, book)

def takeQuota (keyId nowMs : Int) (reserveQuota : Bool) (book : QuotaBook) : Bool × QuotaBook :=
  if reserveQuota then book.reserveRequest keyId nowMs else (true, book)

/-- Each early return drops what was taken so far, the latest first; `keyMs` and `endpointMs` are
    the clock readings of those drops. -/
def reserveAttemptInner (resolved : ResolvedUpstream) (nowMs : Int)
    (acquireCapacity reserveQuota : Bool) (keyMs endpointMs : Int) (state : SharedState) :
    Except AttemptReservationError UpstreamAttemptReservation × SharedState :=
  match takeCapacity resolved.provider acquireCapacity state.providerRuntime with
  | (none, providers) => (.error .provider, { state with providerRuntime := providers })
  | (some capacity, providers) =>
  match providers.tryBeginAttempt resolved.provider nowMs with
  | (none, providers) =>
    (.error .provider, { state with providerRuntime := spend capacity (·.drop ·) providers })
  | (some provider, providers) =>
  let metrics :=
    if provider.isHalfOpenProbe then state.metrics.recordProviderBreakerProbe else state.metrics
  let dropped := spend capacity (·.drop ·) (provider.drop providers)
  match state.upstreamKeyHealth.tryBeginAttempt resolved.key.id nowMs with
  | (none, keys) =>
    (.error .key,
      { state with metrics := metrics, providerRuntime := dropped, upstreamKeyHealth := keys })
  | (some key, keys) =>
  match state.endpointHealth.tryBeginAttempt resolved.endpoint.id nowMs with
  | (none, endpoints) =>
    (.error .endpoint,
      { state with
        metrics := metrics
        providerRuntime := dropped
        upstreamKeyHealth := key.drop keys keyMs
        endpointHealth := endpoints })
  | (some endpoint, endpoints) =>
  match takeQuota resolved.key.id nowMs reserveQuota state.quota with
  | (false, quota) =>
    (.error .quota,
      { state with
        metrics := metrics
        providerRuntime := dropped
        upstreamKeyHealth := key.drop keys keyMs
        endpointHealth := endpoint.drop endpoints endpointMs
        quota := quota })
  | (true, quota) =>
    (.ok ⟨some ⟨resolved.provider.id, resolved.endpoint.id, resolved.key.id⟩, capacity,
        some provider, some endpoint, some key⟩,
      { metrics := metrics, providerRuntime := providers, upstreamKeyHealth := keys,
        endpointHealth := endpoints, quota := quota })

def reserveAttempt (resolved : ResolvedUpstream) (nowMs keyMs endpointMs : Int)
    (state : SharedState) : Except AttemptReservationError UpstreamAttemptReservation × SharedState :=
  reserveAttemptInner resolved nowMs true true keyMs endpointMs state

def reserveWsConnection (resolved : ResolvedUpstream) (nowMs keyMs endpointMs : Int)
    (state : SharedState) : Except AttemptReservationError UpstreamAttemptReservation × SharedState :=
  reserveAttemptInner resolved nowMs true false keyMs endpointMs state

def reserveWsTurn (resolved : ResolvedUpstream) (nowMs keyMs endpointMs : Int)
    (state : SharedState) : Except AttemptReservationError UpstreamAttemptReservation × SharedState :=
  reserveAttemptInner resolved nowMs false true keyMs endpointMs state

end CodexGate.Reservation
