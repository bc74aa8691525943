import CodexGate.Reservation.Model
import CodexGate.Routing.Plan

namespace CodexGate.Dispatch

open Foundation Provider Resilience Routing

structure AttemptExclusions where
  attemptedPairs : List (Int × Int) := []
  providerIds : List Int := []
  endpointIds : List Int := []
  keyIds : List Int := []

namespace AttemptExclusions

def shouldSkip (exclusions : AttemptExclusions) (resolved : ResolvedUpstream) : Bool :=
  exclusions.providerIds.contains resolved.provider.id ||
    exclusions.endpointIds.contains resolved.endpoint.id ||
    exclusions.keyIds.contains resolved.key.id ||
    exclusions.attemptedPairs.contains (resolved.key.id, resolved.endpoint.id)

def noteAttempt (exclusions : AttemptExclusions) (resolved : ResolvedUpstream) :
    AttemptExclusions :=
  { exclusions with
    attemptedPairs := exclusions.attemptedPairs.insert (resolved.key.id, resolved.endpoint.id) }

def avoidEndpoint (exclusions : AttemptExclusions) (endpointId : Int) : AttemptExclusions :=
  { exclusions with endpointIds := exclusions.endpointIds.insert endpointId }

def avoidProvider (exclusions : AttemptExclusions) (providerId : Int) : AttemptExclusions :=
  { exclusions with providerIds := exclusions.providerIds.insert providerId }

def avoidKey (exclusions : AttemptExclusions) (keyId : Int) : AttemptExclusions :=
  { exclusions with keyIds := exclusions.keyIds.insert keyId }

end AttemptExclusions

def hasRemainingCandidate (attempts : List ResolvedUpstream) (exclusions : AttemptExclusions) :
    Bool :=
  attempts.any fun resolved => !exclusions.shouldSkip resolved

structure AttemptFailure where
  providerId : Option Int
  endpointId : Option Int
  upstreamKeyId : Option Int
  status : Nat
  errorType : String
  errorMessage : String

def AttemptFailure.new (resolved : ResolvedUpstream) (status : Nat)
    (errorType errorMessage : String) : AttemptFailure where
  providerId := some resolved.provider.id
  endpointId := some resolved.endpoint.id
  upstreamKeyId := some resolved.key.id
  status := status
  errorType := errorType
  errorMessage := errorMessage

inductive ProxyEnd
  | responded (status : Nat)
  | failed (status : Nat) (message : String)

inductive UpstreamDispatchError
  | request (message : String)
  | timeout (message : String)
  deriving Inhabited

/-- `dispatch_error_to_http`; the text of a timeout prints the configured span. -/
def dispatchErrorToHttp : UpstreamDispatchError → Nat × String × String
  | .request message => (502, "upstream_request_error", message)
  | .timeout message => (504, "upstream_timeout", message)

def shouldRetryResponseStatus (status : Nat) : Bool :=
  [401, 402, 403, 404, 408, 409, 425, 429].contains status || 500 ≤ status

inductive Preparation
  | ready
  /-- The conversion, the rewriting, the normalisation or an override fails. -/
  | refused (status : Nat) (message : String)
  | invalidUri (message : String)
  | unauthorized (status : Nat) (code message : String)

abbrev DispatchResult := Except UpstreamDispatchError Nat

def isUnauthorized : DispatchResult → Bool
  | .ok status => status == 401
  | .error _ => false

structure ReplayAnswers where
  availableAt : Nat
  refreshed : Bool
  overrideError : Option String
  begin : BeginReadings
  current : Bool
  result : DispatchResult

structure RecoveryAnswers where
  rejected : Bool
  availableAt : Nat
  sanitized : Bool
  begin : BeginReadings
  current : Bool
  result : DispatchResult

structure ResponseAnswers where
  hasUsage : Bool
  modelScoped : Bool
  availableAt : Nat
  isSse : Bool
  /-- Collecting the stream that a client did not ask for has failed. -/
  collectError : Option String
  preflightError : Option String
  /-- The body to convert exceeds its limit or does not arrive in time. -/
  bodyError : Option String
  conversionError : Option String

/-- Everything that is decided outside while one attempt is made. -/
structure AttemptAnswers where
  availableAt : Nat
  eligible : Bool
  begin : BeginReadings
  reserved : Bool
  preparation : Preparation
  downstreamStream : Bool
  current : Bool
  result : DispatchResult
  replay : ReplayAnswers
  recovery : RecoveryAnswers
  response : ResponseAnswers

structure ProxyRun where
  budget : AttemptBudget
  exclusions : AttemptExclusions := {}
  lastFailure : Option AttemptFailure := none
  /-- `attempts_sent` of the routing trace. -/
  attemptsSent : Nat := 0
  /-- `retries` of the trace of the encrypted-content recovery. -/
  recoveryRetries : Nat := 0
  /-- The providers of the requests that have been dispatched. -/
  dispatched : List Int := []

inductive Flow
  | next
  | leave
  | done (result : ProxyEnd)

namespace ProxyRun

def send (run : ProxyRun) (providerId : Int) : ProxyRun :=
  { run with
    attemptsSent := run.attemptsSent + 1
    budget := run.budget.noteSend providerId
    dispatched := run.dispatched ++ [providerId] }

/-- What every failed target ends in: it is excluded, and the next candidate or nobody serves the
    request. -/
def failOver (run : ProxyRun) (resolved : ResolvedUpstream) (rest : List ResolvedUpstream)
    (exclude : AttemptExclusions → AttemptExclusions) (status : Nat)
    (errorType message reply : String) : Flow × ProxyRun :=
  let run := { run with
    exclusions := exclude (run.exclusions.noteAttempt resolved)
    lastFailure := some (.new resolved status errorType message) }
  (if hasRemainingCandidate rest run.exclusions then .next else .done (.failed status reply), run)

end ProxyRun

section Attempt

variable (columns : PlanColumns) (recoveryEnabled : Bool) (resolved : ResolvedUpstream)
  (rest : List ResolvedUpstream)

def isCodexOauth : Bool := resolved.provider.providerType == codexProviderType
def isResponsesViaChat : Bool := resolved.protocol.conversion.isSome

def providerAvailable (run : ProxyRun) : Bool :=
  run.budget.providerAvailable resolved.provider.id (columns.maxAttempts resolved.provider.id)

def replay (answers : ReplayAnswers) (run : ProxyRun) (result : DispatchResult) :
    (Flow ⊕ DispatchResult) × ProxyRun :=
  if isCodexOauth resolved && run.budget.available answers.availableAt &&
      providerAvailable columns resolved run &&
      isUnauthorized result && answers.refreshed then
    match answers.overrideError with
    | some error =>
      (.inl (.done (.failed 500 s!"failed to apply provider request header overrides: {error}")),
        run)
    | none =>
      let (begun, budget) := run.budget.begin answers.begin
      let run := { run with budget := budget }
      if !begun then
        (.inl .leave, { run with lastFailure := some (.new resolved 503 "upstream_retry_exhausted"
          "upstream retry deadline reached") })
      else if !answers.current then (.inl .next, run)
      else (.inr answers.result, run.send resolved.provider.id)
  else (.inr result, run)

def recover (answers : RecoveryAnswers) (run : ProxyRun) (result : DispatchResult) :
    DispatchResult × ProxyRun :=
  if recoveryEnabled && !isResponsesViaChat resolved && result.isOk && answers.rejected then
    if run.recoveryRetries = 0 && run.budget.available answers.availableAt &&
        providerAvailable columns resolved run && answers.sanitized then
      let run := { run with recoveryRetries := run.recoveryRetries + 1 }
      let (begun, budget) := run.budget.begin answers.begin
      let run := { run with budget := budget }
      if begun && answers.current then (answers.result, run.send resolved.provider.id)
      else (result, run)
    else (result, run)
  else (result, run)

def convert (response : ResponseAnswers) (run : ProxyRun) (status : Nat) : Flow × ProxyRun :=
  let avoid (exclusions : AttemptExclusions) := exclusions.avoidEndpoint resolved.endpoint.id
  if isResponsesViaChat resolved && !response.isSse then
    match response.bodyError, response.conversionError with
    | some error, _ =>
      run.failOver resolved rest avoid 502 "responses_via_chat_response_too_large" error
        "converted upstream response exceeded the configured buffer"
    | none, some error =>
      run.failOver resolved rest avoid 502 "responses_via_chat_response_failed" error error
    | none, none => (.done (.responded status), run)
  else (.done (.responded status), run)

def passOn (answers : AttemptAnswers) (run : ProxyRun) (status : Nat) : Flow × ProxyRun :=
  let response := answers.response
  if !(200 ≤ status && status ≤ 299) then (.done (.responded status), run)
  else if isCodexOauth resolved && !answers.downstreamStream then
    if !response.isSse then
      (.done (.failed 502 "Codex returned an unexpected non-streaming response"), run)
    else
      match response.collectError with
      | some error => (.done (.failed 502 error), run)
      | none => (.done (.responded status), run)
  else
    match if response.isSse then response.preflightError else none with
    | some error =>
      run.failOver resolved rest (·.avoidEndpoint resolved.endpoint.id) 502
        "upstream_sse_preflight_failed" error error
    | none => convert resolved rest response run status

def failureScope (response : ResponseAnswers) (status : Nat) : Reservation.FailureScope :=
  if response.modelScoped then .model
  else Reservation.classifyFailureScope (some status) .upstreamResponse

def excludeScope (scope : Reservation.FailureScope) (exclusions : AttemptExclusions) :
    AttemptExclusions :=
  match scope with
  | .model => exclusions.avoidProvider resolved.provider.id
  | .key | .quota => exclusions.avoidKey resolved.key.id
  | .provider => exclusions.avoidEndpoint resolved.endpoint.id
  | .success | .client => exclusions

def readStatus (answers : AttemptAnswers) (run : ProxyRun) (status : Nat) : Flow × ProxyRun :=
  if shouldRetryResponseStatus status && !answers.response.hasUsage then
    let run := { run with
      exclusions := excludeScope resolved (failureScope answers.response status)
        (run.exclusions.noteAttempt resolved)
      lastFailure := some (.new resolved status "upstream_retry_status"
        s!"retryable upstream status {status}") }
    if run.budget.available answers.response.availableAt && rest.any fun candidate =>
        !run.exclusions.shouldSkip candidate && providerAvailable columns candidate run then
      (.next, run)
    else passOn resolved rest answers run status
  else passOn resolved rest answers run status

def readResult (answers : AttemptAnswers) (run : ProxyRun) (result : DispatchResult) :
    Flow × ProxyRun :=
  match result with
  | .error error =>
    let (status, errorType, message) := dispatchErrorToHttp error
    run.failOver resolved rest (·.avoidEndpoint resolved.endpoint.id) status errorType message
      message
  | .ok status => readStatus columns resolved rest answers run status

def serve (answers : AttemptAnswers) (run : ProxyRun) : Flow × ProxyRun :=
  match answers.preparation with
  | .refused status message => (.done (.failed status message), run)
  | .invalidUri message =>
    run.failOver resolved rest (·.avoidEndpoint resolved.endpoint.id) 400 "invalid_upstream_uri"
      message message
  | .unauthorized status code message =>
    run.failOver resolved rest (·.avoidKey resolved.key.id) status code message message
  | .ready =>
    if !answers.current then (.next, run)
    else
      match replay columns resolved answers.replay (run.send resolved.provider.id)
          answers.result with
      | (.inl flow, run) => (flow, run)
      | (.inr result, run) =>
        let (result, run) := recover columns recoveryEnabled resolved answers.recovery run result
        readResult columns resolved rest answers run result

def attempt (answers : AttemptAnswers) (run : ProxyRun) : Flow × ProxyRun :=
  if run.exclusions.shouldSkip resolved then (.next, run)
  else if !run.budget.available answers.availableAt then (.leave, run)
  else if !providerAvailable columns resolved run then (.next, run)
  else if !answers.eligible then (.next, run)
  else
    let (begun, budget) := run.budget.begin answers.begin
    let run := { run with budget := budget }
    if !begun then (.leave, run)
    else if !answers.reserved then (.next, run)
    else serve columns recoveryEnabled resolved rest answers run

end Attempt

def ProxyRun.exhausted (run : ProxyRun) : ProxyEnd :=
  match run.lastFailure with
  | some failure => .failed failure.status failure.errorMessage
  | none => .failed 503 "no available upstream targets after retries"

/-- The loop over the attempts; `script` answers for the attempt with each index. -/
def proxyAttempts (columns : PlanColumns) (recoveryEnabled : Bool) (script : Nat → AttemptAnswers) :
    Nat → List ResolvedUpstream → ProxyRun → ProxyEnd × ProxyRun
  | _, [], run => (run.exhausted, run)
  | index, resolved :: rest, run =>
    match attempt columns recoveryEnabled resolved rest (script index) run with
    | (.next, run) => proxyAttempts columns recoveryEnabled script (index + 1) rest run
    | (.leave, run) => (run.exhausted, run)
    | (.done result, run) => (result, run)

/-- The part of `proxy_openai` that sends, over a plan and what is decided outside. -/
def proxyOpenai (columns : PlanColumns) (recoveryEnabled : Bool) (script : Nat → AttemptAnswers)
    (plan : List ResolvedUpstream) (timeout startedAt : Nat) : ProxyEnd × ProxyRun :=
  proxyAttempts columns recoveryEnabled script 0 plan { budget := .new timeout startedAt }

end CodexGate.Dispatch
