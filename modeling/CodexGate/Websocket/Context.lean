import CodexGate.Metering.ResponseEvents
import CodexGate.Reservation.Model
import CodexGate.Routing.Plan

namespace CodexGate.Websocket

open Foundation Metering Provider Reservation
open Resilience Routing

structure ProviderSettings where
  providerType : String
  maxAttempts : I32
  websocketEnabled : Bool
  betaFeatures : List String
  deriving DecidableEq

structure WsTarget where
  providerId : Int
  endpointId : Int
  keyId : Int
  settings : ProviderSettings
  deriving DecidableEq

namespace WsTarget

def isCodexOauth (target : WsTarget) : Bool := target.settings.providerType == codexProviderType

def hasBetaFeature (target : WsTarget) (feature : String) : Bool :=
  target.settings.betaFeatures.contains feature

end WsTarget

structure WsBridgeError where
  status : Nat
  errorType : String
  message : String
  deriving DecidableEq, Inhabited

def budgetError : WsBridgeError where
  status := 503
  errorType := "upstream_retry_budget_exhausted"
  message := "upstream attempt limit or deadline reached; retry after cooldown"

def targetUnavailableError : WsBridgeError where
  status := 503
  errorType := "upstream_cooldown"
  message := "upstream entered cooldown before this attempt could be sent"

inductive TurnTransport
  | nativeWs
  | httpBridge
  | wsSetup
  deriving DecidableEq

/-- The part of a `ws_turn` telemetry event that says how the turn has ended. -/
structure TurnEvent where
  providerId : Option Int
  httpStatus : Nat
  errorType : Option String
  errorMessage : Option String
  usage : Option Usage
  transport : TurnTransport
  /-- `attempts_sent` of the routing trace. -/
  attemptsSent : Nat
  deriving DecidableEq

structure PendingTurnLog where
  permit : Bool
  event : TurnEvent
  succeeded : Bool

inductive ForwardResult
  | complete
  | retryEncryptedContent
  | retryableBeforeEvent (error : WsBridgeError)
  | fatal
  deriving DecidableEq

def ForwardResult.isRetry : ForwardResult → Bool
  | .retryEncryptedContent | .retryableBeforeEvent _ => true
  | .complete | .fatal => false

/-- What has become of the terminal event of an attempt, if one came. -/
inductive Fate
  | none
  | withheld
  | forwarded
  deriving DecidableEq

/-- How one attempt of a turn has ended. -/
structure Ending where
  /-- It was not let through: there is no record of it. -/
  turnedAway : Bool
  fate : Fate
  disconnected : Bool
  result : ForwardResult
  deriving DecidableEq

/-- A request to an upstream. `index` is the number of attempts counted when it is sent, and
    a socket goes by the index of its connect, or by none if an earlier turn has connected it. -/
inductive Request
  | connect (providerId : Int) (index : Nat)
  | dispatch (providerId : Int) (index : Nat)
  | create (providerId : Int) (socket : Option Nat) (index : Nat)
  deriving DecidableEq

namespace Request

def index : Request → Nat
  | connect _ index | dispatch _ index | create _ _ index => index

def providerId : Request → Int
  | connect providerId _ | dispatch providerId _ | create providerId _ _ => providerId

end Request

inductive Effect
  | request (request : Request)
  /-- A message goes downstream that is no terminal event. -/
  | data
  | terminal
  | errorFrame (error : WsBridgeError)
  /-- An event with usage is observed. -/
  | usage
  | ended (ending : Ending)
  /-- `record_turn` has filled the pending log. -/
  | recorded
  /-- `record_ws_setup_failed_turn` has run. -/
  | setupFailed
  | metric (httpStatus : Nat) (errorType : Option String)
  | telemetry (event : TurnEvent)
  | telemetryDropped
  deriving DecidableEq

/-- The part of a `WsContext` that one turn moves, with the telemetry permit it holds and the log of
    what it has done. -/
structure WsContext where
  budget : AttemptBudget
  /-- `last_number` of the trace. -/
  lastNumber : Nat := 0
  /-- The attempts of the trace. -/
  attempts : List WsTarget := []
  /-- `retries` of the trace of the encrypted-content recovery. -/
  recoveryRetries : Nat := 0
  disconnected : Bool
  observation : Observation := {}
  pendingTurnLog : Option PendingTurnLog := none
  telemetryPermit : Bool := false
  log : List Effect := []

/-- What ends a begin early: the client disconnects before the budget is asked or while it sleeps. -/
inductive Interruption
  | beforeBegin
  | duringBackoff

structure BeginAnswers where
  hangup : Bool
  interruption : Option Interruption
  readings : BeginReadings
  deriving Inhabited

structure TurnOutcome where
  status : Nat
  errorType : Option String
  errorMessage : Option String
  origin : OutcomeOrigin

namespace WsContext

def emit (ctx : WsContext) (effect : Effect) : WsContext := { ctx with log := ctx.log ++ [effect] }

/-- A look at `disconnected_at`. The client may have gone since the last one and does not return. -/
def look (ctx : WsContext) (hangup : Bool) : WsContext :=
  { ctx with disconnected := ctx.disconnected || hangup }

def beginWsAttempt (ctx : WsContext) (target : WsTarget) (turn : Bool) (answers : BeginAnswers) :
    Bool × WsContext :=
  let ctx := ctx.look answers.hangup
  if ctx.disconnected then (false, ctx)
  else
    match answers.interruption with
    | some .beforeBegin => (false, ctx.look true)
    | some .duringBackoff =>
      (false, { ctx.look true with budget := { ctx.budget with setupCredit := false } })
    | none =>
      let (begun, budget) := ctx.budget.beginForProvider target.providerId
        target.settings.maxAttempts turn answers.readings
      (begun, { ctx with budget := budget })

def noteWsSend (ctx : WsContext) (target : WsTarget) : WsContext :=
  -- A native connection and its first response.create are one target attempt.
  if ctx.lastNumber = ctx.budget.used then ctx
  else
    { ctx with
      budget := ctx.budget.noteSend target.providerId
      lastNumber := ctx.budget.used
      attempts := ctx.attempts ++ [target] }

def send (ctx : WsContext) (target : WsTarget) (request : Nat → Request) : WsContext :=
  let ctx := ctx.noteWsSend target
  ctx.emit (.request (request ctx.attempts.length))

def sendWsError (ctx : WsContext) (error : WsBridgeError) : WsContext := ctx.emit (.errorFrame error)

def sendTurnEvent (ctx : WsContext) (effect : Effect) (hangup delivered : Bool) : WsContext :=
  let ctx := ctx.look hangup
  if ctx.disconnected then ctx
  else if delivered then ctx.emit effect
  else ctx.look true

def observe (ctx : WsContext) (event : Json) : WsContext :=
  let ctx := { ctx with observation := ctx.observation.observe event }
  if (eventUsage event).isSome then ctx.emit .usage else ctx

def reservePermit (ctx : WsContext) (permit : Bool) : WsContext :=
  let ctx := { ctx with telemetryPermit := permit }
  if permit then ctx else ctx.emit .telemetryDropped

def recordTurn (ctx : WsContext) (target : WsTarget) (transport : TurnTransport)
    (outcome : TurnOutcome) (hangup : Bool) : WsContext :=
  let ctx := ctx.look hangup
  let outcome :=
    if ctx.disconnected then
      { outcome with
        errorType := some "client_disconnected"
        errorMessage := some "client disconnected; upstream metering collection finished"
        origin := .gateway }
    else outcome
  let event := {
    providerId := some target.providerId
    httpStatus := outcome.status
    errorType := outcome.errorType
    errorMessage := outcome.errorMessage
    usage := ctx.observation.usage
    transport := transport
    attemptsSent := ctx.attempts.length }
  { ctx.emit .recorded with
    pendingTurnLog := some {
      permit := ctx.telemetryPermit
      event := event
      succeeded := classifyFailureScope (some outcome.status) outcome.origin == .success }
    telemetryPermit := false }

/-- A turn that fails outside its attempts; what was pending of them is taken out. -/
def recordWsSetupFailedTurn (ctx : WsContext) (error : WsBridgeError) (permit : Bool) : WsContext :=
  let ctx := ({ ctx with pendingTurnLog := none }.emit .setupFailed).emit
    (.metric error.status (some error.errorType))
  if permit then
    ctx.emit (.telemetry {
      providerId := none
      httpStatus := error.status
      errorType := some error.errorType
      errorMessage := some error.message
      usage := none
      transport := .wsSetup
      attemptsSent := ctx.attempts.length })
  else ctx.emit .telemetryDropped

def failSetup (ctx : WsContext) (error : WsBridgeError) (permit : Bool) : WsContext :=
  (ctx.recordWsSetupFailedTurn error permit).sendWsError error

def settle (ctx : WsContext) : WsContext :=
  match ctx.pendingTurnLog with
  | none => ctx
  | some pending =>
    let event := pending.event
    let ctx := { ctx with pendingTurnLog := none }.emit
      (.metric event.httpStatus (if pending.succeeded then none else event.errorType))
    if pending.permit then ctx.emit (.telemetry event) else ctx

@[simp] theorem emit_log (ctx : WsContext) (effect : Effect) :
    (ctx.emit effect).log = ctx.log ++ [effect] := rfl

@[simp] theorem look_log (ctx : WsContext) (hangup : Bool) : (ctx.look hangup).log = ctx.log := rfl

theorem beginWsAttempt_cases (ctx : WsContext) (target : WsTarget) (turn : Bool)
    (answers : BeginAnswers) : ∃ gone,
    (∃ credit, (credit = true → ctx.budget.setupCredit = true) ∧
        ctx.beginWsAttempt target turn answers = (false, { ctx with
          disconnected := gone
          budget := { ctx.budget with setupCredit := credit } })) ∨
      (turn = true ∧ ctx.budget.setupCredit = true ∧
        ctx.beginWsAttempt target turn answers = (true, { ctx with
          disconnected := gone
          budget := { ctx.budget with setupCredit := false } })) ∨
      (ctx.budget.providerAvailable target.providerId target.settings.maxAttempts = true ∧
        ctx.budget.used < maxAttempts ∧
        ctx.beginWsAttempt target turn answers = (true, { ctx with
          disconnected := gone
          budget := { ctx.budget with setupCredit := false, used := ctx.budget.used + 1 } })) := by
  unfold beginWsAttempt
  dsimp only
  split
  · exact ⟨_, Or.inl ⟨ctx.budget.setupCredit, id, rfl⟩⟩
  split
  · exact ⟨_, Or.inl ⟨ctx.budget.setupCredit, id, rfl⟩⟩
  · exact ⟨_, Or.inl ⟨false, nofun, rfl⟩⟩
  refine ⟨(ctx.look answers.hangup).disconnected, ?_⟩
  have begins := ctx.budget.beginForProvider_cases target.providerId target.settings.maxAttempts turn
    answers.readings
  rcases begins with ⟨isTurn, credited, begins⟩ | ⟨available, room, begins⟩ | ⟨credit, kept, refuses⟩
  · exact Or.inr (Or.inl ⟨isTurn, credited, by simp only [look, begins]⟩)
  · exact Or.inr (Or.inr ⟨available, room, by simp only [look, begins]⟩)
  · exact Or.inl ⟨credit, kept, by simp only [look, refuses]⟩

theorem begin_log (ctx : WsContext) (target : WsTarget) (turn : Bool) (answers : BeginAnswers) :
    (ctx.beginWsAttempt target turn answers).2.log = ctx.log := by
  rcases ctx.beginWsAttempt_cases target turn answers with
    ⟨gone, ⟨_, _, after⟩ | ⟨_, _, after⟩ | ⟨_, _, after⟩⟩ <;> rw [after]

theorem failSetup_settle (ctx : WsContext) (error : WsBridgeError) (permit : Bool) :
    (ctx.failSetup error permit).settle = ctx.failSetup error permit := by
  have emptied : (ctx.failSetup error permit).pendingTurnLog = none := by
    unfold WsContext.failSetup WsContext.recordWsSetupFailedTurn
    dsimp only
    split <;> rfl
  unfold WsContext.settle
  rw [emptied]

end WsContext

end CodexGate.Websocket
