import CodexGate.Foundation.Machine
import CodexGate.Foundation.ProbeGate

namespace CodexGate.Health

open Foundation

def cooldownBaseMs : Int := 30000
def cooldownMaxMs : Int := 300000

def cooldownMs (configuredMs : Int) (failures : Nat) : Int :=
  let base := max configuredMs cooldownBaseMs
  min (saturatingMulI64 base (2 ^ min (failures - 1) 10)) (max cooldownMaxMs base)

/-- `opened` is the source's `Open`. -/
inductive CircuitState
  | closed
  | opened
  | halfOpen
  deriving DecidableEq

def circuitKind (openUntilMs : Option Int) (nowMs : Int) : CircuitState :=
  match openUntilMs with
  | some untilMs => if untilMs > nowMs then .opened else .halfOpen
  | none => .closed

theorem circuitKind_closed_iff (openUntilMs : Option Int) (nowMs : Int) :
    circuitKind openUntilMs nowMs = .closed ↔ openUntilMs = none := by
  cases openUntilMs with
  | none => simp [circuitKind]
  | some untilMs =>
    simp only [circuitKind, reduceCtorEq, iff_false]
    split <;> simp

theorem circuitKind_opened_iff (openUntilMs : Option Int) (nowMs : Int) :
    circuitKind openUntilMs nowMs = .opened ↔ ∃ untilMs, openUntilMs = some untilMs ∧ untilMs > nowMs := by
  cases openUntilMs with
  | none => simp [circuitKind]
  | some untilMs =>
    simp only [circuitKind, Option.some.injEq, exists_eq_left']
    split <;> simp_all

theorem circuitKind_halfOpen_iff (openUntilMs : Option Int) (nowMs : Int) :
    circuitKind openUntilMs nowMs = .halfOpen ↔ ∃ untilMs, openUntilMs = some untilMs ∧ untilMs ≤ nowMs := by
  cases openUntilMs with
  | none => simp [circuitKind]
  | some untilMs =>
    simp only [circuitKind, Option.some.injEq, exists_eq_left']
    split <;> simp_all

/-- The moving average both books keep over the non-negative latencies they are told. -/
def observeLatency (alpha : Float) (current : Option Float) (observedMs : Option Int) :
    Option Float :=
  match observedMs.filter (0 ≤ ·) with
  | none => current
  | some latencyMs =>
    match current with
    | some value => some (value * (1.0 - alpha) + Float.ofInt latencyMs * alpha)
    | none => some (Float.ofInt latencyMs)

def roundLatency (value : Float) : Int := value.round.toInt64.toInt

structure RuntimeHealthView where
  state : CircuitState := .closed
  available : Bool := true
  consecutiveFailures : Nat := 0
  successCount : Nat := 0
  failureCount : Nat := 0
  lastStatus : Option Int := none
  lastErrorType : Option String := none
  lastErrorMessage : Option String := none
  latencyEwmaMs : Option Int := none
  openUntilMs : Option Int := none
  lastSuccessAtMs : Option Int := none
  lastFailureAtMs : Option Int := none
  updatedAtMs : Option Int := none

structure RuntimeHealthState extends ProbeGate where
  consecutiveFailures : Nat
  successCount : Nat
  failureCount : Nat
  lastStatus : Option Int
  lastErrorType : Option String
  lastErrorMessage : Option String
  latencyEwmaMs : Option Float
  openUntilMs : Option Int
  lastSuccessAtMs : Option Int
  lastFailureAtMs : Option Int
  updatedAtMs : Option Int

namespace RuntimeHealthState

def initial : RuntimeHealthState where
  generation := 1
  nextProbeId := 0
  probeOwner := none
  consecutiveFailures := 0
  successCount := 0
  failureCount := 0
  lastStatus := none
  lastErrorType := none
  lastErrorMessage := none
  latencyEwmaMs := none
  openUntilMs := none
  lastSuccessAtMs := none
  lastFailureAtMs := none
  updatedAtMs := none

def stateKind (state : RuntimeHealthState) (nowMs : Int) : CircuitState :=
  circuitKind state.openUntilMs nowMs

def toView (state : RuntimeHealthState) (nowMs : Int) : RuntimeHealthView where
  state := state.stateKind nowMs
  available := match state.stateKind nowMs with
    | .closed => true
    | .opened => false
    | .halfOpen => state.probeOwner.isNone
  consecutiveFailures := state.consecutiveFailures
  successCount := state.successCount
  failureCount := state.failureCount
  lastStatus := state.lastStatus
  lastErrorType := state.lastErrorType
  lastErrorMessage := state.lastErrorMessage
  latencyEwmaMs := state.latencyEwmaMs.map roundLatency
  openUntilMs := match state.stateKind nowMs with
    | .opened => state.openUntilMs
    | _ => none
  lastSuccessAtMs := state.lastSuccessAtMs
  lastFailureAtMs := state.lastFailureAtMs
  updatedAtMs := state.updatedAtMs

def tryBeginAttempt (state : RuntimeHealthState) (nowMs : Int) :
    Option AttemptToken × RuntimeHealthState :=
  match state.stateKind nowMs with
  | .closed => (some ⟨state.generation, none⟩, state)
  | .opened => (none, state)
  | .halfOpen =>
    if state.probeOwner.isSome then (none, state)
    else
      let probing := { state with toProbeGate := state.claimProbe, updatedAtMs := some nowMs }
      (some ⟨probing.generation, some probing.nextProbeId⟩, probing)

def finishNeutral (state : RuntimeHealthState) (token : AttemptToken) (nowMs : Int) :
    RuntimeHealthState :=
  if state.attemptTokenMatches token then
    let (gate, released) := state.releaseProbeOwner token
    if released then { state with toProbeGate := gate, updatedAtMs := some nowMs } else state
  else state

def finishSuccess (alpha : Float) (state : RuntimeHealthState) (token : AttemptToken)
    (status observedLatencyMs : Option Int) (nowMs : Int) : RuntimeHealthState :=
  let counted := { state with
    successCount := saturatingAddU64 state.successCount 1
    latencyEwmaMs := observeLatency alpha state.latencyEwmaMs observedLatencyMs }
  if counted.attemptTokenMatches token then
    let previousKind := counted.stateKind nowMs
    let cleared := { counted with
      toProbeGate := (counted.releaseProbeOwner token).1
      consecutiveFailures := 0
      lastStatus := status
      lastErrorType := none
      lastErrorMessage := none
      openUntilMs := none
      lastSuccessAtMs := some nowMs
      updatedAtMs := some nowMs }
    if previousKind = .halfOpen then { cleared with toProbeGate := cleared.advanceGeneration }
    else cleared
  else counted

def finishFailure (failureThreshold : Nat) (openDurationMs : Int) (state : RuntimeHealthState)
    (token : AttemptToken) (status : Option Int) (errorType errorMessage : Option String)
    (nowMs : Int) : RuntimeHealthState :=
  let counted := { state with failureCount := saturatingAddU64 state.failureCount 1 }
  if counted.attemptTokenMatches token then
    let previousKind := counted.stateKind nowMs
    let failures := saturatingAddU32 counted.consecutiveFailures 1
    -- a failed target is left alone at once, even below the breaker threshold
    let configured :=
      if failures ≥ failureThreshold ∨ previousKind = .halfOpen then openDurationMs else 0
    { counted with
      toProbeGate := (counted.releaseProbeOwner token).1.advanceGeneration
      consecutiveFailures := failures
      lastStatus := status
      lastErrorType := errorType
      lastErrorMessage := errorMessage
      openUntilMs := some (saturatingAddI64 nowMs (cooldownMs configured failures))
      lastFailureAtMs := some nowMs
      updatedAtMs := some nowMs }
  else counted

def reset (state : RuntimeHealthState) : RuntimeHealthState :=
  { state with
    toProbeGate := state.advanceGeneration
    consecutiveFailures := 0
    openUntilMs := none
    lastErrorType := none
    lastErrorMessage := none }

def deferUntil (state : RuntimeHealthState) (untilMs : Int) : RuntimeHealthState :=
  { state with
    toProbeGate := state.advanceGeneration
    openUntilMs := some (max (state.openUntilMs.getD 0) untilMs) }

end RuntimeHealthState

structure RuntimeHealthBook where
  failureThreshold : Nat
  openDurationMs : Int
  ewmaAlpha : Float
  byId : HashMap Int RuntimeHealthState

/-- A guard is spent by exactly one of `success`, `failure`, `neutral` and `drop`; the flag that
    keeps `drop` from running after the others is this linear use. -/
structure RuntimeHealthAttemptGuard where
  id : Int
  token : AttemptToken
  deriving DecidableEq

namespace RuntimeHealthBook

def new (failureThreshold : Nat) (openDurationMs : Int) : RuntimeHealthBook where
  failureThreshold := max failureThreshold 1
  openDurationMs := max openDurationMs 1
  ewmaAlpha := 0.2
  byId := ∅

def entry (book : RuntimeHealthBook) (id : Int) : RuntimeHealthState :=
  (book.byId.lookup id).getD .initial

def put (book : RuntimeHealthBook) (id : Int) (state : RuntimeHealthState) : RuntimeHealthBook :=
  { book with byId := book.byId.insert id state }

def snapshot (book : RuntimeHealthBook) (id nowMs : Int) : RuntimeHealthView :=
  match book.byId.lookup id with
  | none => {}
  | some state => state.toView nowMs

def tryBeginAttempt (book : RuntimeHealthBook) (id nowMs : Int) :
    Option RuntimeHealthAttemptGuard × RuntimeHealthBook :=
  let (token, state) := (book.entry id).tryBeginAttempt nowMs
  (token.map (⟨id, ·⟩), book.put id state)

def finishNeutral (book : RuntimeHealthBook) (id : Int) (token : AttemptToken) (nowMs : Int) :
    RuntimeHealthBook :=
  match book.byId.lookup id with
  | none => book
  | some state => book.put id (state.finishNeutral token nowMs)

def finishSuccess (book : RuntimeHealthBook) (id : Int) (token : AttemptToken)
    (status observedLatencyMs : Option Int) (nowMs : Int) : RuntimeHealthBook :=
  book.put id ((book.entry id).finishSuccess book.ewmaAlpha token status observedLatencyMs nowMs)

def finishFailure (book : RuntimeHealthBook) (id : Int) (token : AttemptToken)
    (status : Option Int) (errorType errorMessage : Option String) (nowMs : Int) :
    RuntimeHealthBook :=
  book.put id ((book.entry id).finishFailure book.failureThreshold book.openDurationMs token status
    errorType errorMessage nowMs)

def reset (book : RuntimeHealthBook) (id : Int) : RuntimeHealthBook :=
  book.put id (book.entry id).reset

def deferUntil (book : RuntimeHealthBook) (id untilMs : Int) : RuntimeHealthBook :=
  book.put id ((book.entry id).deferUntil untilMs)

end RuntimeHealthBook

namespace RuntimeHealthAttemptGuard

def isCurrent (guard : RuntimeHealthAttemptGuard) (book : RuntimeHealthBook) : Bool :=
  (book.byId.lookup guard.id).any (·.attemptTokenMatches guard.token)

def success (guard : RuntimeHealthAttemptGuard) (book : RuntimeHealthBook)
    (status observedLatencyMs : Option Int) (nowMs : Int) : RuntimeHealthBook :=
  book.finishSuccess guard.id guard.token status observedLatencyMs nowMs

def failure (guard : RuntimeHealthAttemptGuard) (book : RuntimeHealthBook) (status : Option Int)
    (errorType errorMessage : Option String) (nowMs : Int) : RuntimeHealthBook :=
  book.finishFailure guard.id guard.token status errorType errorMessage nowMs

def neutral (guard : RuntimeHealthAttemptGuard) (book : RuntimeHealthBook) (nowMs : Int) :
    RuntimeHealthBook :=
  book.finishNeutral guard.id guard.token nowMs

/-- `Drop` of a guard that was not spent. -/
def drop (guard : RuntimeHealthAttemptGuard) (book : RuntimeHealthBook) (nowMs : Int) :
    RuntimeHealthBook :=
  book.finishNeutral guard.id guard.token nowMs

end RuntimeHealthAttemptGuard

end CodexGate.Health
