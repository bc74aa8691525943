import CodexGate.Health.Model
import CodexGate.Types

namespace CodexGate.Provider

open Foundation Health

structure ProviderRuntimeView where
  state : CircuitState
  available : Bool
  inFlight : Nat
  maxConcurrency : Option I32
  consecutiveFailures : Nat
  successCount : Nat
  failureCount : Nat
  halfOpenSuccesses : Nat
  latencyEwmaMs : Option Int
  openUntilMs : Option Int
  lastStatus : Option Int
  lastErrorType : Option String
  lastErrorMessage : Option String
  lastSuccessAtMs : Option Int
  lastFailureAtMs : Option Int

structure ProviderRuntimeState extends ProbeGate where
  inFlight : Nat
  consecutiveFailures : Nat
  successCount : Nat
  failureCount : Nat
  halfOpenSuccesses : Nat
  latencyEwmaMs : Option Float
  openUntilMs : Option Int
  lastStatus : Option Int
  lastErrorType : Option String
  lastErrorMessage : Option String
  lastSuccessAtMs : Option Int
  lastFailureAtMs : Option Int

inductive BreakerTransition
  | unchanged
  | opened
  deriving DecidableEq

def concurrencyLimit (limit : I32) : Nat := (max limit.val 0).toNat

def atLeastOne (threshold : I32) : Nat := (max threshold.val 1).toNat

theorem atLeastOne_pos (threshold : I32) : 0 < atLeastOne threshold := by
  unfold atLeastOne
  omega

theorem atLeastOne_lt (threshold : I32) : atLeastOne threshold < 2 ^ 31 := by
  have high := threshold.property.2
  unfold atLeastOne
  omega

namespace ProviderRuntimeState

def initial : ProviderRuntimeState where
  inFlight := 0
  generation := 1
  nextProbeId := 0
  probeOwner := none
  consecutiveFailures := 0
  successCount := 0
  failureCount := 0
  halfOpenSuccesses := 0
  latencyEwmaMs := none
  openUntilMs := none
  lastStatus := none
  lastErrorType := none
  lastErrorMessage := none
  lastSuccessAtMs := none
  lastFailureAtMs := none

def circuitState (provider : UpstreamProvider) (state : ProviderRuntimeState) (nowMs : Int) :
    CircuitState :=
  if provider.circuitBreakerEnabled then circuitKind state.openUntilMs nowMs else .closed

def toView (provider : UpstreamProvider) (state : ProviderRuntimeState) (nowMs : Int) :
    ProviderRuntimeView where
  state := state.circuitState provider nowMs
  available := provider.enabled &&
    provider.maxConcurrency.all (fun limit => state.inFlight < concurrencyLimit limit) &&
    match state.circuitState provider nowMs with
    | .closed => true
    | .opened => false
    | .halfOpen => state.probeOwner.isNone
  inFlight := state.inFlight
  maxConcurrency := provider.maxConcurrency
  consecutiveFailures := state.consecutiveFailures
  successCount := state.successCount
  failureCount := state.failureCount
  halfOpenSuccesses := state.halfOpenSuccesses
  latencyEwmaMs := state.latencyEwmaMs.map roundLatency
  openUntilMs := if state.circuitState provider nowMs = .opened then state.openUntilMs else none
  lastStatus := state.lastStatus
  lastErrorType := state.lastErrorType
  lastErrorMessage := state.lastErrorMessage
  lastSuccessAtMs := state.lastSuccessAtMs
  lastFailureAtMs := state.lastFailureAtMs

def clearBreakerState (state : ProviderRuntimeState) : ProviderRuntimeState :=
  { state with
    consecutiveFailures := 0
    openUntilMs := none
    halfOpenSuccesses := 0
    probeOwner := none }

def tryAcquireCapacity (provider : UpstreamProvider) (state : ProviderRuntimeState) :
    Bool × ProviderRuntimeState :=
  if provider.maxConcurrency.any fun limit => state.inFlight ≥ concurrencyLimit limit then
    (false, state)
  else (true, { state with inFlight := saturatingAddU32 state.inFlight 1 })

def releaseCapacity (state : ProviderRuntimeState) : ProviderRuntimeState :=
  { state with inFlight := state.inFlight - 1 }

def tryBeginAttempt (provider : UpstreamProvider) (state : ProviderRuntimeState) (nowMs : Int) :
    Option AttemptToken × ProviderRuntimeState :=
  match state.circuitState provider nowMs with
  | .closed => (some ⟨state.generation, none⟩, state)
  | .opened => (none, state)
  | .halfOpen =>
    if state.probeOwner.isSome then (none, state)
    else
      let probing := { state with toProbeGate := state.claimProbe }
      (some ⟨probing.generation, some probing.nextProbeId⟩, probing)

def finishNeutral (state : ProviderRuntimeState) (token : AttemptToken) : ProviderRuntimeState :=
  if state.attemptTokenMatches token then
    { state with toProbeGate := (state.releaseProbeOwner token).1 }
  else state

def finishSuccess (alpha : Float) (provider : UpstreamProvider) (state : ProviderRuntimeState)
    (token : AttemptToken) (status latencyMs : Option Int) (nowMs : Int) : ProviderRuntimeState :=
  let counted := { state with
    successCount := saturatingAddU64 state.successCount 1
    latencyEwmaMs := observeLatency alpha state.latencyEwmaMs latencyMs }
  if counted.attemptTokenMatches token then
    let previousState := counted.circuitState provider nowMs
    let noted := { counted with
      toProbeGate := (counted.releaseProbeOwner token).1
      lastStatus := status
      lastErrorType := none
      lastErrorMessage := none
      lastSuccessAtMs := some nowMs }
    if provider.circuitBreakerEnabled then
      if previousState = .halfOpen then
        let successes := saturatingAddU32 noted.halfOpenSuccesses 1
        let counted := { noted with halfOpenSuccesses := successes }
        if successes ≥ atLeastOne provider.circuitBreakerHalfOpenSuccessThreshold then
          clearBreakerState { counted with toProbeGate := counted.advanceGeneration }
        else counted
      else { noted with consecutiveFailures := 0, openUntilMs := none, halfOpenSuccesses := 0 }
    else clearBreakerState noted
  else counted

def finishFailure (provider : UpstreamProvider) (state : ProviderRuntimeState)
    (token : AttemptToken) (status : Option Int) (errorType errorMessage : String) (nowMs : Int) :
    BreakerTransition × ProviderRuntimeState :=
  let counted := { state with failureCount := saturatingAddU64 state.failureCount 1 }
  if counted.attemptTokenMatches token then
    let previousState := counted.circuitState provider nowMs
    let noted := { counted with
      toProbeGate := (counted.releaseProbeOwner token).1
      consecutiveFailures := saturatingAddU32 counted.consecutiveFailures 1
      lastStatus := status
      lastErrorType := some errorType
      lastErrorMessage := some errorMessage
      lastFailureAtMs := some nowMs }
    if provider.circuitBreakerEnabled then
      let threshold := atLeastOne provider.circuitBreakerFailureThreshold
      -- a failed probe counts as the failure that reaches the threshold
      let failures :=
        if previousState = .halfOpen then max noted.consecutiveFailures threshold
        else noted.consecutiveFailures
      let noted := { noted with consecutiveFailures := failures }
      if failures ≥ threshold then
        let reopenCount := failures - threshold + 1
        (.opened, { noted with
          toProbeGate := noted.advanceGeneration
          openUntilMs :=
            some (saturatingAddI64 nowMs (cooldownMs provider.circuitBreakerOpenMs reopenCount))
          halfOpenSuccesses := 0 })
      else (.unchanged, noted)
    else (.unchanged, { noted with openUntilMs := none, halfOpenSuccesses := 0 })
  else (.unchanged, counted)

def reset (state : ProviderRuntimeState) : ProviderRuntimeState :=
  { state with
    toProbeGate := { state.advanceGeneration with probeOwner := none }
    consecutiveFailures := 0
    halfOpenSuccesses := 0
    openUntilMs := none
    lastStatus := none
    lastErrorType := none
    lastErrorMessage := none
    lastFailureAtMs := none }

end ProviderRuntimeState

/-- One entry of the error timeline; its `summary` is always `"Upstream attempt failed"`. -/
structure RecentError where
  timeMs : Int
  endpointId : Int
  keyId : Int
  category : String
  status : Option Int

structure ProviderRuntimeBook where
  errors : HashMap Int (List RecentError)
  ewmaAlpha : Float
  byProvider : HashMap Int ProviderRuntimeState

structure ProviderCapacityPermit where
  providerId : Int
  deriving DecidableEq

structure ProviderAttemptGuard where
  provider : UpstreamProvider
  token : AttemptToken
  deriving DecidableEq

namespace ProviderRuntimeBook

def new : ProviderRuntimeBook where
  errors := ∅
  ewmaAlpha := 0.2
  byProvider := ∅

def recordError (book : ProviderRuntimeBook) (id : Int) (error : RecentError) :
    ProviderRuntimeBook :=
  let entries := (book.errors.lookup id).getD []
  let kept := if entries.length = 50 then entries.tail else entries
  { book with errors := book.errors.insert id (kept ++ [error]) }

def entry (book : ProviderRuntimeBook) (id : Int) : ProviderRuntimeState :=
  (book.byProvider.lookup id).getD .initial

def put (book : ProviderRuntimeBook) (id : Int) (state : ProviderRuntimeState) :
    ProviderRuntimeBook :=
  { book with byProvider := book.byProvider.insert id state }

/-- A provider without an entry reads as available whatever its concurrency limit is. -/
def snapshot (book : ProviderRuntimeBook) (provider : UpstreamProvider) (nowMs : Int) :
    ProviderRuntimeView :=
  match book.byProvider.lookup provider.id with
  | none =>
    { state := .closed, available := provider.enabled, inFlight := 0,
      maxConcurrency := provider.maxConcurrency, consecutiveFailures := 0, successCount := 0,
      failureCount := 0, halfOpenSuccesses := 0, latencyEwmaMs := none, openUntilMs := none,
      lastStatus := none, lastErrorType := none, lastErrorMessage := none,
      lastSuccessAtMs := none, lastFailureAtMs := none }
  | some state => state.toView provider nowMs

def tryAcquireCapacity (book : ProviderRuntimeBook) (provider : UpstreamProvider) :
    Option ProviderCapacityPermit × ProviderRuntimeBook :=
  let (granted, state) := (book.entry provider.id).tryAcquireCapacity provider
  (if granted then some ⟨provider.id⟩ else none, book.put provider.id state)

def tryBeginAttempt (book : ProviderRuntimeBook) (provider : UpstreamProvider) (nowMs : Int) :
    Option ProviderAttemptGuard × ProviderRuntimeBook :=
  let (token, state) := (book.entry provider.id).tryBeginAttempt provider nowMs
  (token.map (⟨provider, ·⟩), book.put provider.id state)

def finishSuccess (book : ProviderRuntimeBook) (provider : UpstreamProvider) (token : AttemptToken)
    (status latencyMs : Option Int) (nowMs : Int) : ProviderRuntimeBook :=
  book.put provider.id
    ((book.entry provider.id).finishSuccess book.ewmaAlpha provider token status latencyMs nowMs)

def finishFailure (book : ProviderRuntimeBook) (provider : UpstreamProvider) (token : AttemptToken)
    (status : Option Int) (errorType errorMessage : String) (nowMs : Int) :
    BreakerTransition × ProviderRuntimeBook :=
  let (transition, state) := (book.entry provider.id).finishFailure provider token status errorType
    errorMessage nowMs
  (transition, book.put provider.id state)

def reset (book : ProviderRuntimeBook) (providerId : Int) : ProviderRuntimeBook :=
  book.put providerId (book.entry providerId).reset

def releaseCapacity (book : ProviderRuntimeBook) (providerId : Int) : ProviderRuntimeBook :=
  match book.byProvider.lookup providerId with
  | none => book
  | some state => book.put providerId state.releaseCapacity

def finishNeutral (book : ProviderRuntimeBook) (providerId : Int) (token : AttemptToken) :
    ProviderRuntimeBook :=
  match book.byProvider.lookup providerId with
  | none => book
  | some state => book.put providerId (state.finishNeutral token)

end ProviderRuntimeBook

namespace ProviderAttemptGuard

def isCurrent (guard : ProviderAttemptGuard) (book : ProviderRuntimeBook) : Bool :=
  (book.byProvider.lookup guard.provider.id).any (·.attemptTokenMatches guard.token)

def isHalfOpenProbe (guard : ProviderAttemptGuard) : Bool := guard.token.probeId.isSome

def success (guard : ProviderAttemptGuard) (book : ProviderRuntimeBook)
    (status latencyMs : Option Int) (nowMs : Int) : ProviderRuntimeBook :=
  book.finishSuccess guard.provider guard.token status latencyMs nowMs

def failure (guard : ProviderAttemptGuard) (book : ProviderRuntimeBook) (status : Option Int)
    (errorType errorMessage : String) (nowMs : Int) : BreakerTransition × ProviderRuntimeBook :=
  book.finishFailure guard.provider guard.token status errorType errorMessage nowMs

def neutral (guard : ProviderAttemptGuard) (book : ProviderRuntimeBook) : ProviderRuntimeBook :=
  book.finishNeutral guard.provider.id guard.token

def drop (guard : ProviderAttemptGuard) (book : ProviderRuntimeBook) : ProviderRuntimeBook :=
  book.finishNeutral guard.provider.id guard.token

end ProviderAttemptGuard

def ProviderCapacityPermit.drop (permit : ProviderCapacityPermit) (book : ProviderRuntimeBook) :
    ProviderRuntimeBook :=
  book.releaseCapacity permit.providerId

end CodexGate.Provider
