import CodexGate.Websocket.Forward

namespace CodexGate.Websocket

open Foundation Metering Resilience Routing

def missingModelError : WsBridgeError where
  status := 400
  errorType := "missing_model"
  message := "response.create is missing model"

def modelChangedError : WsBridgeError where
  status := 400
  errorType := "model_changed"
  message := "a responses websocket connection can only serve one routed model"

def targetChangedError (message : String) : WsBridgeError where
  status := 503
  errorType := "upstream_target_changed"
  message := message

def bodyOverrideError (error : String) : WsBridgeError where
  status := 500
  errorType := "request_override_failed"
  message := s!"failed to apply provider request body overrides: {error}"

def encodePayloadError (error : String) : WsBridgeError where
  status := 400
  errorType := "invalid_payload"
  message := s!"failed to encode websocket payload: {error}"

structure RoundAnswers where
  /-- `refresh_active_upstream`: the settings the provider has now, or why it is no longer used. -/
  refreshed : Except String ProviderSettings
  overrideError : Option String
  encodeError : Option String
  setupPermit : Bool
  forward : ForwardAnswers
  hangup : Bool
  selection : SelectionAnswers
  deriving Inhabited

def RoundAnswers.failure (answers : RoundAnswers) : Option WsBridgeError :=
  match answers.refreshed, answers.overrideError, answers.encodeError with
  | .error message, _, _ => some (targetChangedError message)
  | .ok _, some error, _ => some (bodyOverrideError error)
  | .ok _, none, some error => some (encodePayloadError error)
  | .ok _, none, none => none

def RoundAnswers.refresh (answers : RoundAnswers) (active : ActiveUpstream) : ActiveUpstream :=
  match answers.refreshed with
  | .ok settings => { active with resolved := { active.resolved with settings := settings } }
  | .error _ => active

structure TurnEnd where
  goesOn : Bool
  active : Option ActiveUpstream
  ctx : WsContext

/-- The failover loop of a turn; `script` answers for the round with each index. -/
def serveRounds (settings : WsSettings) (requestedModel : String) (script : Nat → RoundAnswers) :
    Nat → Nat → ActiveUpstream → WsProviderBudget → WsContext → TurnEnd
  | 0, _, active, _, ctx => ⟨false, some active, ctx⟩
  | fuel + 1, index, active, providerBudget, ctx =>
    let answers := script index
    let active := answers.refresh active
    match answers.failure with
    | some error => ⟨false, some active, ctx.failSetup error answers.setupPermit⟩
    | none =>
      match forwardResponseCreate settings active answers.forward
          { ctx with observation := {} } with
      | (.complete, ctx) => ⟨true, some active, ctx⟩
      | (.fatal, ctx) | (.retryEncryptedContent, ctx) => ⟨false, some active, ctx⟩
      | (.retryableBeforeEvent error, ctx) =>
        let ctx := ctx.look answers.hangup
        if ctx.disconnected then ⟨false, some active, ctx⟩
        else
          let providerBudget := providerBudget.seed active.resolved.providerId
          if providerBudget.exhausted then ⟨false, none, ctx.sendWsError error⟩
          else
            let selection := connectSelectedUpstream requestedModel answers.selection providerBudget ctx
            match selection.result with
            | .ok active =>
              serveRounds settings requestedModel script fuel (index + 1) active
                selection.providerBudget selection.ctx
            | .error error => ⟨false, none, selection.ctx.sendWsError error⟩

/-- Everything that is decided outside while a `response.create` is served. -/
structure TurnAnswers where
  startedAt : Nat
  timeout : Nat
  requestedModel : Option String
  setupPermit : Bool
  selection : SelectionAnswers
  round : Nat → RoundAnswers
  deriving Inhabited

def ActiveUpstream.carried (active : ActiveUpstream) : ActiveUpstream :=
  { active with
    transport := match active.transport with
      | .nativeWs _ => .nativeWs none
      | .httpBridge => .httpBridge }

def turnRounds : Nat := maxDistinctProviders

/-- Where a turn starts from once it has an upstream: it fails, or its loop runs and is settled. -/
def serveModel (settings : WsSettings) (requestedModel : String) (answers : TurnAnswers)
    (active : ActiveUpstream) (providerBudget : WsProviderBudget) (ctx : WsContext) : TurnEnd :=
  if active.requestedModel ≠ requestedModel then
    ⟨false, some active, ctx.failSetup modelChangedError answers.setupPermit⟩
  else
    let served := serveRounds settings requestedModel answers.round turnRounds 0 active
      providerBudget ctx
    { served with ctx := served.ctx.settle }

/-- A `response.create` that has passed its authorization. -/
def serveTurn (settings : WsSettings) (answers : TurnAnswers) (active : Option ActiveUpstream)
    (disconnected : Bool) : TurnEnd :=
  let ctx : WsContext :=
    { budget := .new answers.timeout answers.startedAt, disconnected := disconnected }
  match answers.requestedModel with
  | none => ⟨true, active, ctx.failSetup missingModelError answers.setupPermit⟩
  | some requestedModel =>
    match active with
    | some active =>
      serveModel settings requestedModel answers active.carried
        (WsProviderBudget.seed [] active.resolved.providerId) ctx
    | none =>
      let selection := connectSelectedUpstream requestedModel answers.selection [] ctx
      match selection.result with
      | .error error => ⟨false, none, selection.ctx.failSetup error answers.setupPermit⟩
      | .ok active =>
        serveModel settings requestedModel answers active selection.providerBudget selection.ctx

/-- What the session loop does with a message other than an authorized `response.create`. -/
inductive Incoming
  /-- `hangup` is whether the client is seen gone by now. -/
  | create (hangup : Bool) (answers : TurnAnswers)
  /-- It is answered with an error frame or a pong, or ignored, and the session goes on. -/
  | invalidJson
  | missingType
  | binary
  | ping (pongFails : Bool)
  | pong
  /-- Any other event, which goes to the socket in use. -/
  | event (sendFails : Bool)
  | unauthorized
  | close
  | readError

structure WsSession where
  active : Option ActiveUpstream := none
  disconnected : Bool := false

/-- The frames that a session is answered with outside its turns are left out here: what is kept
    of a run is the context that each turn ends with. -/
def serveWebsocket (settings : WsSettings) : List Incoming → WsSession → List WsContext
  | [], _ => []
  | message :: rest, session =>
    match message with
    | .create hangup answers =>
      let ended := serveTurn settings answers session.active (session.disconnected || hangup)
      let turns := if ended.goesOn then
        serveWebsocket settings rest ⟨ended.active, ended.ctx.disconnected⟩ else []
      ended.ctx :: turns
    | .invalidJson | .missingType | .binary | .pong => serveWebsocket settings rest session
    | .ping pongFails => if pongFails then [] else serveWebsocket settings rest session
    | .event sendFails =>
      match session.active.map ActiveUpstream.transport with
      | some (.nativeWs _) => if sendFails then [] else serveWebsocket settings rest session
      | some .httpBridge => []
      | none => serveWebsocket settings rest session
    | .unauthorized | .close | .readError => []

theorem RoundAnswers.refresh_providerId (answers : RoundAnswers) (active : ActiveUpstream) :
    (answers.refresh active).resolved.providerId = active.resolved.providerId := by
  unfold RoundAnswers.refresh
  split <;> rfl

theorem serveRounds_enough (settings : WsSettings) (requestedModel : String)
    (script : Nat → RoundAnswers) {fuel : Nat} (some_round : 0 < fuel) (index : Nat)
    {active : ActiveUpstream} {providerBudget : WsProviderBudget} (ctx : WsContext)
    (tried : active.resolved.providerId ∈ providerBudget)
    (enough : maxDistinctProviders < fuel + providerBudget.length) (more : Nat) :
    serveRounds settings requestedModel script (fuel + more) index active providerBudget ctx =
      serveRounds settings requestedModel script fuel index active providerBudget ctx := by
  induction fuel generalizing index active providerBudget ctx with
  | zero => cases some_round
  | succ fuel ih =>
    have known : ((script index).refresh active).resolved.providerId ∈ providerBudget := by
      rw [RoundAnswers.refresh_providerId]
      exact tried
    have seeded : providerBudget.seed ((script index).refresh active).resolved.providerId =
        providerBudget := List.insert_of_mem known
    rw [Nat.succ_add, serveRounds, serveRounds]
    split
    · rfl
    split
    · rfl
    · rfl
    · rfl
    dsimp only
    rw [seeded]
    split
    · rfl
    split
    · rfl
    rename_i error turn failed kept room
    split
    · rename_i next selects
      have grown := connectSelectedUpstream_grows _ _ _ _ selects
      have some_left : 0 < fuel := by
        have short : providerBudget.length < maxDistinctProviders := by
          simpa [WsProviderBudget.exhausted] using room
        omega
      exact ih some_left _ _ grown.1 (by omega)
    · rfl

theorem serveWebsocket_turns (settings : WsSettings) {P : WsContext → Prop}
    (turn : ∀ answers active disconnected,
      P (serveTurn settings answers active disconnected).ctx)
    (messages : List Incoming) (session : WsSession) :
    ∀ ctx ∈ serveWebsocket settings messages session, P ctx := by
  induction messages generalizing session with
  | nil => simp [serveWebsocket]
  | cons message rest ih =>
    intro ctx member
    cases message with
    | create hangup answers =>
      rw [serveWebsocket] at member
      rcases List.mem_cons.mp member with rfl | member
      · exact turn answers session.active _
      · split at member
        · exact ih _ ctx member
        · cases member
    | invalidJson | missingType | binary | pong => exact ih session ctx member
    | ping pongFails =>
      rw [serveWebsocket] at member
      split at member
      · cases member
      · exact ih session ctx member
    | event sendFails =>
      rw [serveWebsocket] at member
      split at member
      · split at member
        · cases member
        · exact ih session ctx member
      · cases member
      · exact ih session ctx member
    | unauthorized | close | readError => simp [serveWebsocket] at member

def plainTarget (providerId : Int) : WsTarget where
  providerId := providerId
  endpointId := 1
  keyId := 1
  settings := {
    providerType := "openai"
    maxAttempts := i32 2
    websocketEnabled := true
    betaFeatures := [] }

def plainSettings : WsSettings where
  encryptedContentRecovery := true
  fromSlice _ := .error "not read"

def openSession : WsSession where
  active := some ⟨"gpt", plainTarget 1, .nativeWs none⟩

def refusedConnect : ConnectAnswers :=
  { (default : ConnectAnswers) with
    reserved := true
    currentBefore := true
    currentAfter := true
    result := .error ⟨503, "upstream_websocket_http_error", "unavailable"⟩ }

def closedSocket : TransportAnswers :=
  { (default : TransportAnswers) with
    native := { (default : NativeAnswers) with reserved := .ok () } }

def answeringSocket (event : Json) (strippable : Bool) : TransportAnswers :=
  { (default : TransportAnswers) with
    native := { (default : NativeAnswers) with
      reserved := .ok ()
      reads := [{
        message := .text (some event)
        event := {
          recovery := { hangup := false, availableAt := 0, strippable := strippable }
          hangup := false
          delivered := true } }] } }

def completedEvent : Json := .object [("type", .string "response.completed")]

def plainRound (attempt : Nat → TransportAnswers) (selection : SelectionAnswers) : RoundAnswers :=
  { (default : RoundAnswers) with
    refreshed := .ok (plainTarget 1).settings
    forward := { permit := true, attempt := attempt }
    selection := selection }

def plainTurn (round : RoundAnswers) : TurnAnswers :=
  { (default : TurnAnswers) with
    timeout := 120 * 10 ^ 9
    requestedModel := some "gpt"
    setupPermit := true
    round := fun _ => round }

end CodexGate.Websocket
