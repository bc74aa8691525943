import CodexGate.Websocket.Context

namespace CodexGate.Websocket

open Resilience Routing

abbrev WsProviderBudget := List Int

namespace WsProviderBudget

def seed (budget : WsProviderBudget) (providerId : Int) : WsProviderBudget :=
  budget.insert providerId

def exhausted (budget : WsProviderBudget) : Bool := maxDistinctProviders ≤ budget.length

def tryNoteAttempt (budget : WsProviderBudget) (providerId : Int) : Option WsProviderBudget :=
  if budget.contains providerId then some budget
  else if budget.exhausted then none
  else some (budget.insert providerId)

end WsProviderBudget

inductive ActiveTransport
  | nativeWs (socket : Option Nat)
  | httpBridge
  deriving DecidableEq

structure ActiveUpstream where
  requestedModel : String
  resolved : WsTarget
  transport : ActiveTransport
  deriving DecidableEq

inductive NativeWsConnectOutcome
  | connected (socket : Nat)
  | unsupported (error : WsBridgeError)
  | unavailable (error : WsBridgeError)
  | failed (error : WsBridgeError)

/-- One call of `connect_upstream_ws`. -/
abbrev ConnectResult := Except WsBridgeError Unit

structure ReplayConnectAnswers where
  availableAt : Nat
  refreshed : Bool
  overrideError : Option String
  currentBefore : Bool
  begin : BeginAnswers
  currentAfter : Bool
  result : ConnectResult
  deriving Inhabited

/-- Everything that is decided outside while one target is connected. -/
structure ConnectAnswers where
  availableAt : Nat
  /-- The capability cache says so before the reservation, or under the probe lock. -/
  cachedUnsupported : Bool
  reserved : Bool
  learnedUnsupported : Bool
  urlError : Option String
  authError : Option WsBridgeError
  overrideError : Option String
  currentBefore : Bool
  begin : BeginAnswers
  currentAfter : Bool
  result : ConnectResult
  replay : ReplayConnectAnswers
  capacity : Bool
  deriving Inhabited

def cachedUnsupportedError : WsBridgeError where
  status := 426
  errorType := "upstream_websocket_capability_cached"
  message := "upstream websocket is cached as unsupported"

def notReservedError : WsBridgeError where
  status := 503
  errorType := "upstream_retry_exhausted"
  message := "websocket upstream target could not be reserved"

def capacityReleasedError : WsBridgeError where
  status := 503
  errorType := "provider_capacity_unavailable"
  message := "websocket provider capacity was released during connect"

def headerOverrideError (error : String) : WsBridgeError where
  status := 500
  errorType := "request_override_failed"
  message := s!"failed to apply provider request header overrides: {error}"

def ConnectAnswers.refusal (answers : ConnectAnswers) (target : WsTarget) :
    Option NativeWsConnectOutcome :=
  match answers.urlError, if target.isCodexOauth then answers.authError else none,
    answers.overrideError with
  | some message, _, _ => some (.failed ⟨400, "invalid_upstream_uri", message⟩)
  | none, some error, _ => some (.unavailable error)
  | none, none, some error => some (.failed (headerOverrideError error))
  | none, none, none =>
    if answers.currentBefore then none else some (.unavailable targetUnavailableError)

def isUnauthorized : ConnectResult → Bool
  | .ok _ => false
  | .error error => error.status == 401

def isDeterministicWsUnsupported (status : Nat) : Bool := [404, 405, 426, 501].contains status

section Connect

variable (target : WsTarget)

def sendConnect (ctx : WsContext) : WsContext := ctx.send target (.connect target.providerId)

def replayConnect (answers : ReplayConnectAnswers) (result : ConnectResult) (ctx : WsContext) :
    Except WsBridgeError ConnectResult × WsContext :=
  if isUnauthorized result && target.isCodexOauth && ctx.budget.available answers.availableAt &&
      answers.refreshed then
    match answers.overrideError with
    | some error => (.error (headerOverrideError error), ctx)
    | none =>
      if !answers.currentBefore then (.ok result, ctx)
      else
        let (begun, ctx) := ctx.beginWsAttempt target false answers.begin
        if begun && answers.currentAfter then (.ok answers.result, sendConnect target ctx)
        else (.ok result, ctx)
  else (.ok result, ctx)

/-- What a connect leads to. A connected socket goes by the index of its connect. -/
def settleConnect (capacity : Bool) (result : ConnectResult) (ctx : WsContext) :
    NativeWsConnectOutcome × WsContext :=
  match result with
  | .ok _ =>
    let ctx := { ctx with budget := ctx.budget.creditConnectedSetup }
    (if capacity then .connected ctx.attempts.length else .unavailable capacityReleasedError, ctx)
  | .error error =>
    (if isDeterministicWsUnsupported error.status then .unsupported error else .failed error, ctx)

def connectUpstreamWsOnce (answers : ConnectAnswers) (ctx : WsContext) :
    NativeWsConnectOutcome × WsContext :=
  match answers.refusal target with
  | some outcome => (outcome, ctx)
  | none =>
    let (begun, ctx) := ctx.beginWsAttempt target false answers.begin
    if !begun then (.unavailable budgetError, ctx)
    else if !answers.currentAfter then (.unavailable targetUnavailableError, ctx)
    else
      match replayConnect target answers.replay answers.result (sendConnect target ctx) with
      | (.error error, ctx) => (.failed error, ctx)
      | (.ok result, ctx) => settleConnect answers.capacity result ctx

def connectOrBridgeUpstream (answers : ConnectAnswers) (ctx : WsContext) :
    NativeWsConnectOutcome × WsContext :=
  if answers.cachedUnsupported then (.unsupported cachedUnsupportedError, ctx)
  else if !answers.reserved then (.unavailable notReservedError, ctx)
  else if answers.learnedUnsupported then (.unsupported cachedUnsupportedError, ctx)
  else connectUpstreamWsOnce target answers ctx

end Connect

def betaFeatureResponsesHttpToWs : String := "responses-http-to-ws"

def NativeWsConnectOutcome.use (outcome : NativeWsConnectOutcome) (requestedModel : String)
    (target : WsTarget) : Except WsBridgeError ActiveUpstream :=
  match outcome with
  | .connected socket => .ok ⟨requestedModel, target, .nativeWs (some socket)⟩
  | .unsupported error =>
    if target.hasBetaFeature betaFeatureResponsesHttpToWs then
      .ok ⟨requestedModel, target, .httpBridge⟩
    else .error error
  | .unavailable error | .failed error => .error error

def noneReservedError : WsBridgeError where
  status := 503
  errorType := "upstream_retry_exhausted"
  message := "no websocket upstream target could be reserved"

/-- What a selection has come to: an upstream or an error, and the providers tried by then. -/
structure Selection where
  result : Except WsBridgeError ActiveUpstream
  providerBudget : WsProviderBudget
  ctx : WsContext

/-- The loop over the targets of the plan; `script` answers for the target with each index. -/
def connectTargets (requestedModel : String) (script : Nat → ConnectAnswers) :
    Nat → List WsTarget → Option WsBridgeError → WsProviderBudget → WsContext → Selection
  | _, [], lastError, providerBudget, ctx =>
    ⟨.error (lastError.getD noneReservedError), providerBudget, ctx⟩
  | index, target :: rest, lastError, providerBudget, ctx =>
    if !ctx.budget.available (script index).availableAt then
      ⟨.error budgetError, providerBudget, ctx⟩
    else if !ctx.budget.providerAvailable target.providerId target.settings.maxAttempts then
      connectTargets requestedModel script (index + 1) rest lastError providerBudget ctx
    else
      match providerBudget.tryNoteAttempt target.providerId with
      | none => ⟨.error (lastError.getD noneReservedError), providerBudget, ctx⟩
      | some providerBudget =>
        let (outcome, ctx) := connectOrBridgeUpstream target (script index) ctx
        match outcome.use requestedModel target with
        | .ok active => ⟨.ok active, providerBudget, ctx⟩
        | .error error =>
          connectTargets requestedModel script (index + 1) rest (some error) providerBudget ctx

structure SelectionAnswers where
  plan : Except WsBridgeError (List WsTarget)
  target : Nat → ConnectAnswers
  deriving Inhabited

def websocketNotSupportedError (providerBudget : WsProviderBudget) : WsBridgeError where
  status := 426
  errorType := "websocket_not_supported"
  message :=
    if providerBudget.exhausted then "websocket provider failover budget exhausted"
    else "no websocket-enabled upstream target is available"

def connectSelectedUpstream (requestedModel : String) (answers : SelectionAnswers)
    (providerBudget : WsProviderBudget) (ctx : WsContext) : Selection :=
  match answers.plan with
  | .error error => ⟨.error error, providerBudget, ctx⟩
  | .ok plan =>
    let attempts := plan.filter fun target =>
      target.settings.websocketEnabled && !providerBudget.contains target.providerId
    if attempts = [] then ⟨.error (websocketNotSupportedError providerBudget), providerBudget, ctx⟩
    else connectTargets requestedModel answers.target 0 attempts none providerBudget ctx

theorem tryNoteAttempt_grows {tried budget noted : WsProviderBudget} {providerId : Int}
    (grown : (∀ known ∈ budget, known ∈ tried) ∧ budget.length = tried.length ∨
      tried.length < budget.length)
    (new : providerId ∉ tried) (notes : budget.tryNoteAttempt providerId = some noted) :
    providerId ∈ noted ∧ tried.length < noted.length := by
  unfold WsProviderBudget.tryNoteAttempt at notes
  split at notes
  · rename_i known
    cases notes
    have member : providerId ∈ budget := by simpa using known
    rcases grown with ⟨within, -⟩ | longer
    · exact absurd (within providerId member) new
    · exact ⟨member, longer⟩
  split at notes
  · cases notes
  · rename_i unknown _
    cases notes
    have absent : providerId ∉ budget := by simpa using unknown
    have length := List.length_insert_of_not_mem absent
    refine ⟨List.mem_insert_self, ?_⟩
    rcases grown with ⟨-, same⟩ | longer <;> omega

theorem connectTargets_grows (requestedModel : String) (script : Nat → ConnectAnswers)
    (targets : List WsTarget) (index : Nat) (lastError : Option WsBridgeError)
    {tried : WsProviderBudget} (providerBudget : WsProviderBudget) (ctx : WsContext)
    (grown : (∀ known ∈ providerBudget, known ∈ tried) ∧ providerBudget.length = tried.length ∨
      tried.length < providerBudget.length)
    (new : ∀ target ∈ targets, target.providerId ∉ tried) {active : ActiveUpstream}
    (selects : (connectTargets requestedModel script index targets lastError providerBudget
      ctx).result = .ok active) :
    active.resolved.providerId ∈ (connectTargets requestedModel script index targets lastError
        providerBudget ctx).providerBudget ∧
      tried.length < (connectTargets requestedModel script index targets lastError providerBudget
        ctx).providerBudget.length ∧ active.resolved ∈ targets := by
  induction targets generalizing index lastError providerBudget ctx with
  | nil => cases selects
  | cons target rest ih =>
    have others : ∀ target ∈ rest, target.providerId ∉ tried :=
      fun other member => new other (List.mem_cons_of_mem _ member)
    unfold connectTargets at selects ⊢
    split
    · rename_i spent
      rw [if_pos spent] at selects
      cases selects
    rename_i left
    rw [if_neg left] at selects
    split
    · rename_i full
      rw [if_pos full] at selects
      obtain ⟨kept, longer, later⟩ := ih _ _ _ _ grown others selects
      exact ⟨kept, longer, List.mem_cons_of_mem _ later⟩
    rename_i room
    rw [if_neg room] at selects
    split
    · rename_i notes
      rw [notes] at selects
      cases selects
    rename_i noted notes
    rw [notes] at selects
    have known := tryNoteAttempt_grows grown (new target List.mem_cons_self) notes
    dsimp only at selects ⊢
    split
    · rename_i chosen used
      rw [used] at selects
      cases selects
      have same : active.resolved = target := by
        unfold NativeWsConnectOutcome.use at used
        split at used
        · cases used
          rfl
        · split at used <;> cases used
          rfl
        · cases used
        · cases used
      rw [same]
      exact ⟨known.1, known.2, List.mem_cons_self⟩
    · rename_i error used
      rw [used] at selects
      obtain ⟨kept, longer, later⟩ := ih _ _ _ _ (Or.inr known.2) others selects
      exact ⟨kept, longer, List.mem_cons_of_mem _ later⟩

theorem connectSelectedUpstream_grows (requestedModel : String) (answers : SelectionAnswers)
    (providerBudget : WsProviderBudget) (ctx : WsContext) {active : ActiveUpstream}
    (selects : (connectSelectedUpstream requestedModel answers providerBudget ctx).result =
      .ok active) :
    active.resolved.providerId ∈ (connectSelectedUpstream requestedModel answers providerBudget
        ctx).providerBudget ∧
      providerBudget.length < (connectSelectedUpstream requestedModel answers providerBudget
        ctx).providerBudget.length ∧
      ∃ plan, answers.plan = .ok plan ∧ active.resolved ∈ plan ∧
        active.resolved.settings.websocketEnabled = true ∧
        active.resolved.providerId ∉ providerBudget := by
  unfold connectSelectedUpstream at selects ⊢
  split
  · rename_i error planned
    rw [planned] at selects
    cases selects
  rename_i plan planned
  rw [planned] at selects
  dsimp only at selects ⊢
  split
  · rename_i nothing
    rw [if_pos nothing] at selects
    cases selects
  · rename_i something
    rw [if_neg something] at selects
    have usable : ∀ target ∈ plan.filter (fun target => target.settings.websocketEnabled &&
        !providerBudget.contains target.providerId),
        target.settings.websocketEnabled = true ∧ target.providerId ∉ providerBudget := by
      intro target member
      simpa using (List.mem_filter.mp member).2
    obtain ⟨kept, longer, member⟩ := connectTargets_grows requestedModel answers.target _ 0 none
      providerBudget ctx (Or.inl ⟨fun _ => id, rfl⟩) (fun target member => (usable target member).2)
      selects
    exact ⟨kept, longer, plan, planned, List.mem_of_mem_filter member, usable _ member⟩

end CodexGate.Websocket
