import CodexGate.Dispatch.Proxy
import CodexGate.Metering.Decoder
import CodexGate.Websocket.Connect

namespace CodexGate.Websocket

open Foundation Metering Reservation Resilience

def shouldRetryTerminalBeforeEvent (value : Json) (emittedEvent : Bool) : Bool :=
  if emittedEvent || (eventUsage value).isSome || !isTerminalResponseEvent value then false
  else (classifyFailureScope (some (terminalStatus value).1) .upstreamEvent).isRetryable

/-- The event that a whole JSON body is passed on as; `text` is the body read as text. -/
def jsonResponseToWsEvent (status : Nat) (parsed : Option Json) (text : String) : Json :=
  let parsed := parsed.getD (.object [("error",
    .object [("type", .string "upstream_error"), ("message", .string text)])])
  if isTerminalResponseEvent parsed && (parsed.get "type").isSome then parsed
  else if 200 ≤ status ∧ status ≤ 299 then
    .object [("type", .string "response.completed"), ("response", parsed)]
  else
    .object [("type", .string "error"), ("status", .ofNat status), ("response", parsed),
      ("error", (parsed.get "error").getD parsed)]

structure RecoveryAnswers where
  hangup : Bool
  availableAt : Nat
  /-- There are encrypted items to strip from the payload. -/
  strippable : Bool
  deriving Inhabited

structure EventAnswers where
  recovery : RecoveryAnswers
  hangup : Bool
  delivered : Bool
  deriving Inhabited

structure Reading where
  emittedEvent : Bool := false
  encryptedRetry : Bool := false
  terminal : Option TerminalStatus := none
  fate : Fate := .none

inductive NativeMessage
  /-- The text and what it parses to. -/
  | text (event : Option Json)
  | ping (pongError : Option String)
  | binary
  | other
  | closed
  | failed (error : String)
  | timedOut

structure NativeRead where
  message : NativeMessage
  event : EventAnswers

inductive BridgeFrame
  | data (bytes : List UInt8)
  | trailers
  | closed
  | failed (error : String)
  | timedOut

/-- A frame of the body, with the answers for the events it completes by their index. -/
structure BridgeRead where
  frame : BridgeFrame
  event : Nat → EventAnswers

structure FinishAnswers where
  hangup : Bool
  recordHangup : Bool
  deriving Inhabited

structure NativeAnswers where
  begin : BeginAnswers
  reserved : Except AttemptReservationError Unit
  writeError : Option String
  reads : List NativeRead
  failureHangup : Bool
  finish : FinishAnswers
  deriving Inhabited

/-- What comes of a bridge request before it is dispatched, in the order of the source. -/
inductive BridgePreparation
  | ready
  | quota
  | unreserved
  | invalidUri (message : String)
  | unauthorized (error : WsBridgeError)
  | overrideFailed (error : String)
  deriving Inhabited

structure BridgeReplayAnswers where
  availableAt : Nat
  refreshed : Bool
  overrideError : Option String
  currentBefore : Bool
  begin : BeginAnswers
  currentAfter : Bool
  result : Dispatch.DispatchResult
  deriving Inhabited

inductive PayloadFault
  | decode (error : String)
  | encode (error : String)

def PayloadFault.message : PayloadFault → String
  | decode error => s!"failed to decode HTTP bridge payload: {error}"
  | encode error => s!"failed to encode HTTP bridge payload: {error}"

structure BridgeAnswers where
  payloadFault : Option PayloadFault
  begin : BeginAnswers
  preparation : BridgePreparation
  current : Bool
  result : Dispatch.DispatchResult
  replay : BridgeReplayAnswers
  isSse : Bool
  reads : List BridgeRead
  /-- The answers for the events that the end of the body completes after all the reads. -/
  last : Nat → EventAnswers
  failureHangup : Bool
  finish : FinishAnswers
  deriving Inhabited

/-- The settings of the deployment that a turn reads, and the parser of its bodies. -/
structure WsSettings where
  encryptedContentRecovery : Bool
  fromSlice : List UInt8 → Except String Json

section Events

variable (settings : WsSettings) (target : WsTarget)

def prepareEncryptedRecovery (answers : RecoveryAnswers) (event : Json) (emittedEvent : Bool)
    (ctx : WsContext) : Bool × WsContext :=
  if !settings.encryptedContentRecovery || !rejectionWithoutOutput event ||
      ctx.observation.usage.isSome then (false, ctx)
  else if emittedEvent then (false, ctx)
  else
    let ctx := ctx.look answers.hangup
    if ctx.disconnected then (false, ctx)
    else if !ctx.budget.available answers.availableAt ||
        !ctx.budget.providerAvailable target.providerId target.settings.maxAttempts then
      (false, ctx)
    else if ctx.recoveryRetries = 0 && answers.strippable then
      (true, { ctx with recoveryRetries := ctx.recoveryRetries + 1 })
    else (false, ctx)

/-- An event is observed and, unless it is a terminal event that is retried, passed on. -/
def forwardEvent (answers : EventAnswers) (event : Json) (reading : Reading) (ctx : WsContext) :
    Reading × WsContext :=
  let ctx := ctx.observe event
  if !isTerminalResponseEvent event then
    ({ reading with emittedEvent := true }, ctx.sendTurnEvent .data answers.hangup answers.delivered)
  else
    let (retry, ctx) :=
      prepareEncryptedRecovery settings target answers.recovery event reading.emittedEvent ctx
    let reading := { reading with encryptedRetry := retry, terminal := some (terminalStatus event) }
    if !retry && !shouldRetryTerminalBeforeEvent event reading.emittedEvent then
      ({ reading with emittedEvent := true, fate := .forwarded },
        ctx.sendTurnEvent .terminal answers.hangup answers.delivered)
    else ({ reading with fate := .withheld }, ctx)

def forwardEvents (answers : Nat → EventAnswers) :
    Nat → List Json → Reading → WsContext → Reading × WsContext
  | _, [], reading, ctx => (reading, ctx)
  | index, event :: rest, reading, ctx =>
    let (reading, ctx) := forwardEvent settings target (answers index) event reading ctx
    if isTerminalResponseEvent event then (reading, ctx)
    else forwardEvents answers (index + 1) rest reading ctx

def forwardMessage (answers : EventAnswers) (reading : Reading) (ctx : WsContext) :
    Reading × WsContext :=
  ({ reading with emittedEvent := true }, ctx.sendTurnEvent .data answers.hangup answers.delivered)

def Reading.stop (reading : Reading) (status : Nat) (errorType errorMessage : String) : Reading :=
  { reading with terminal := some (status, some errorType, some errorMessage) }

/-- The loop over the messages of a socket; a socket without a further message is closed. -/
def readNative : List NativeRead → Reading → WsContext → Reading × WsContext
  | [], reading, ctx =>
    (reading.stop 502 "upstream_websocket_closed" "upstream closed before terminal response event",
      ctx)
  | read :: rest, reading, ctx =>
    match read.message with
    | .text (some event) =>
      let (reading, ctx) := forwardEvent settings target read.event event reading ctx
      if isTerminalResponseEvent event then (reading, ctx) else readNative rest reading ctx
    | .text none | .binary =>
      let (reading, ctx) := forwardMessage read.event reading ctx
      readNative rest reading ctx
    | .ping none | .other => readNative rest reading ctx
    | .ping (some error) => (reading.stop 502 "upstream_websocket_write_error" error, ctx)
    | .closed =>
      (reading.stop 502 "upstream_websocket_closed" "upstream closed before terminal response event",
        ctx)
    | .failed error => (reading.stop 502 "upstream_websocket_read_error" error, ctx)
    | .timedOut => (reading.stop 504 "upstream_timeout" "upstream read deadline exceeded", ctx)

structure BridgeBody where
  sse : SseDecoder := .default
  capture : List UInt8 := []

def BridgeBody.finish (body : BridgeBody) (isSse : Bool) (status : Nat) : List Json :=
  if isSse then (body.sse.finish settings.fromSlice).events
  else if body.capture = [] then []
  else
    [jsonResponseToWsEvent status (settings.fromSlice body.capture).toOption
      (fromUtf8Lossy body.capture)]

def BridgeFrame.ends (frame : BridgeFrame) (reading : Reading) : Reading :=
  match frame with
  | .failed error => reading.stop 502 "upstream_body_error" error
  | .timedOut => reading.stop 504 "upstream_timeout" "upstream read deadline exceeded"
  | .data _ | .trailers | .closed => reading

def incompleteStatus (sse : SseDecoder) : TerminalStatus :=
  (502, some "upstream_incomplete_response",
    some (sse.error.getD "upstream ended without terminal response event"))

def finishBody (isSse : Bool) (status : Nat) (answers : Nat → EventAnswers) (body : BridgeBody)
    (reading : Reading) (ctx : WsContext) : Reading × WsContext :=
  let events := body.finish settings isSse status
  let sse := if isSse then (body.sse.finish settings.fromSlice).state else body.sse
  let (reading, ctx) := forwardEvents settings target answers 0 events reading ctx
  ({ reading with terminal := some (reading.terminal.getD (incompleteStatus sse)) }, ctx)

/-- The loop over the frames of a body; a body without a further frame is at its end, and the
    answers for the events of that end are `last`. -/
def readBridge (isSse : Bool) (status : Nat) (last : Nat → EventAnswers) :
    List BridgeRead → BridgeBody → Reading → WsContext → Reading × WsContext
  | [], body, reading, ctx => finishBody settings target isSse status last body reading ctx
  | read :: rest, body, reading, ctx =>
    match read.frame with
    | .trailers => readBridge isSse status last rest body reading ctx
    | .data bytes =>
      if isSse then
        let pushed := body.sse.pushBytes settings.fromSlice bytes
        let body := { body with sse := pushed.state }
        let (reading, ctx) :=
          forwardEvents settings target read.event 0 pushed.events reading ctx
        if reading.terminal.isSome then (reading, ctx)
        else readBridge isSse status last rest body reading ctx
      else if maxEventBytes < body.capture.length + bytes.length then
        (reading.stop 502 "response_too_large" "HTTP bridge JSON exceeds 4 MiB parsing limit", ctx)
      else
        readBridge isSse status last rest { body with capture := body.capture ++ bytes } reading ctx
    | .closed | .failed _ | .timedOut =>
      finishBody settings target isSse status read.event body (read.frame.ends reading) ctx

end Events

def endAttempt (turnedAway : Bool) (fate : Fate) (result : ForwardResult) (ctx : WsContext) :
    ForwardResult × WsContext :=
  (result, ctx.emit (.ended ⟨turnedAway, fate, ctx.disconnected, result⟩))

def turnAway (error : WsBridgeError) (ctx : WsContext) : ForwardResult × WsContext :=
  endAttempt true .none (.retryableBeforeEvent error) ctx

section Attempt

variable (settings : WsSettings) (target : WsTarget) (transport : TurnTransport)

def failAttempt (origin : OutcomeOrigin) (error : WsBridgeError) (hangup : Bool) (ctx : WsContext) :
    ForwardResult × WsContext :=
  endAttempt false .none (.retryableBeforeEvent error) <|
    ctx.recordTurn target transport ⟨error.status, some error.errorType, some error.message, origin⟩
      hangup

def finishForwardedTurn (answers : FinishAnswers) (outcome : TurnOutcome) (emittedEvent : Bool)
    (ctx : WsContext) : ForwardResult × WsContext :=
  let ctx := ctx.look answers.hangup
  let scope := classifyFailureScope (some outcome.status) outcome.origin
  let after := ctx.recordTurn target transport outcome answers.recordHangup
  if ctx.disconnected then (.fatal, after)
  else if !emittedEvent && scope.isRetryable then
    (.retryableBeforeEvent ⟨outcome.status, "upstream_response_failed",
      outcome.errorMessage.getD "upstream response failed"⟩, after)
  else if scope = .success then (.complete, after)
  else (.fatal, after)

def finishReading (answers : FinishAnswers) (reading : Reading) (ctx : WsContext) :
    ForwardResult × WsContext :=
  let (status, errorType, errorMessage) := reading.terminal.getD (incompleteStatus .default)
  let (result, ctx) := finishForwardedTurn target transport answers
    ⟨status, errorType, errorMessage, .upstreamEvent⟩ reading.emittedEvent ctx
  endAttempt false reading.fate (if reading.encryptedRetry then .retryEncryptedContent else result)
    ctx

def quotaError : WsBridgeError where
  status := 429
  errorType := "upstream_quota_unavailable"
  message := "upstream request quota is unavailable"

def unreservedError (message : String) : WsBridgeError where
  status := 503
  errorType := "provider_capacity_unavailable"
  message := message

def writeError (error : String) : WsBridgeError where
  status := 502
  errorType := "upstream_websocket_write_error"
  message := s!"failed to send websocket request upstream: {error}"

def forwardNativeResponseCreate (socket : Option Nat) (answers : NativeAnswers) (ctx : WsContext) :
    ForwardResult × WsContext :=
  let fail := fun origin error ctx =>
    failAttempt target .nativeWs origin error answers.failureHangup ctx
  let (begun, ctx) := ctx.beginWsAttempt target true answers.begin
  if !begun then turnAway budgetError ctx
  else
    match answers.reserved with
    | .error .quota => fail .gateway quotaError ctx
    | .error _ =>
      fail .gateway
        (unreservedError "native websocket upstream target could not be reserved") ctx
    | .ok _ =>
      let ctx := ctx.send target (.create target.providerId socket)
      match answers.writeError with
      | some error => fail .localTransport (writeError error) ctx
      | none =>
        let (reading, ctx) := readNative settings target answers.reads {} ctx
        finishReading target .nativeWs answers.finish reading ctx

def BridgePreparation.failure : BridgePreparation → Option (OutcomeOrigin × WsBridgeError)
  | ready => none
  | quota => some (.gateway, quotaError)
  | unreserved =>
    some (.gateway, unreservedError "HTTP bridge upstream target could not be reserved")
  | invalidUri message => some (.localTransport, ⟨400, "invalid_upstream_uri", message⟩)
  | unauthorized error => some (.upstreamResponse, error)
  | overrideFailed error => some (.localTransport, headerOverrideError error)

def dispatchError (error : Dispatch.UpstreamDispatchError) : WsBridgeError :=
  let (status, errorType, message) := Dispatch.dispatchErrorToHttp error
  ⟨status, errorType, message⟩

def sendDispatch (ctx : WsContext) : WsContext := ctx.send target (.dispatch target.providerId)

/-- The replay of a request that was answered with 401: it ends the attempt or has a response. -/
def replayBridge (answers : BridgeReplayAnswers) (hangup : Bool) (result : Dispatch.DispatchResult)
    (ctx : WsContext) : (ForwardResult × WsContext) ⊕ (Dispatch.DispatchResult × WsContext) :=
  if target.isCodexOauth && ctx.budget.available answers.availableAt &&
      Dispatch.isUnauthorized result && answers.refreshed then
    match answers.overrideError with
    | some error =>
      .inl (failAttempt target .httpBridge .localTransport (headerOverrideError error) hangup ctx)
    | none =>
      if !answers.currentBefore then .inl (turnAway targetUnavailableError ctx)
      else
        let (begun, ctx) := ctx.beginWsAttempt target false answers.begin
        if !begun then .inl (turnAway budgetError ctx)
        else if !answers.currentAfter then .inl (turnAway targetUnavailableError ctx)
        else .inr (answers.result, sendDispatch target ctx)
  else .inr (result, ctx)

def invalidPayloadError (message : String) : WsBridgeError where
  status := 400
  errorType := "invalid_payload"
  message := message

def readDispatch (answers : BridgeAnswers) (result : Dispatch.DispatchResult) (ctx : WsContext) :
    ForwardResult × WsContext :=
  match result with
  | .error error =>
    failAttempt target .httpBridge .localTransport (dispatchError error) answers.failureHangup ctx
  | .ok status =>
    let (reading, ctx) := readBridge settings target answers.isSse status answers.last answers.reads
      {} {} ctx
    finishReading target .httpBridge answers.finish reading ctx

def forwardHttpBridgeResponseCreate (answers : BridgeAnswers) (ctx : WsContext) :
    ForwardResult × WsContext :=
  match answers.payloadFault with
  | some fault =>
    let error := invalidPayloadError fault.message
    let ctx := ctx.recordTurn target .httpBridge
      ⟨error.status, some error.errorType, some error.message, .gateway⟩ answers.failureHangup
    endAttempt false .none .fatal (ctx.sendWsError error)
  | none =>
    let (begun, ctx) := ctx.beginWsAttempt target false answers.begin
    if !begun then turnAway budgetError ctx
    else
      match answers.preparation.failure with
      | some (origin, error) => failAttempt target .httpBridge origin error answers.failureHangup ctx
      | none =>
        if !answers.current then turnAway targetUnavailableError ctx
        else
          match replayBridge target answers.replay answers.failureHangup answers.result
              (sendDispatch target ctx) with
          | .inl ended => ended
          | .inr (result, ctx) => readDispatch settings target answers result ctx

end Attempt

structure TransportAnswers where
  native : NativeAnswers
  bridge : BridgeAnswers
  deriving Inhabited

def forwardOnce (settings : WsSettings) (active : ActiveUpstream) (answers : TransportAnswers)
    (ctx : WsContext) : ForwardResult × WsContext :=
  match active.transport with
  | .nativeWs socket =>
    forwardNativeResponseCreate settings active.resolved socket answers.native ctx
  | .httpBridge => forwardHttpBridgeResponseCreate settings active.resolved answers.bridge ctx

def takeBack (ctx : WsContext) : WsContext :=
  let ctx := { ctx with observation := {} }
  match ctx.pendingTurnLog with
  | some pending => { ctx with pendingTurnLog := none, telemetryPermit := pending.permit }
  | none => ctx

/-- The loop of `forward_response_create`; `script` answers for the attempt with each index. -/
def forwardAttempts (settings : WsSettings) (active : ActiveUpstream)
    (script : Nat → TransportAnswers) : Nat → Nat → WsContext → ForwardResult × WsContext
  | 0, _, ctx => (.fatal, ctx)
  | fuel + 1, index, ctx =>
    match forwardOnce settings active (script index) ctx with
    | (.retryEncryptedContent, ctx) =>
      forwardAttempts settings active script fuel (index + 1) (takeBack ctx)
    | ended => ended

structure ForwardAnswers where
  permit : Bool
  attempt : Nat → TransportAnswers
  deriving Inhabited

/-- There is one encrypted-content retry in a turn, so a loop of two attempts never stops short. -/
def forwardResponseCreate (settings : WsSettings) (active : ActiveUpstream)
    (answers : ForwardAnswers) (ctx : WsContext) : ForwardResult × WsContext :=
  forwardAttempts settings active answers.attempt 2 0 (ctx.reservePermit answers.permit)

end CodexGate.Websocket
