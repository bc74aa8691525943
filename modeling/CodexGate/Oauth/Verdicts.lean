import CodexGate.Oauth.Lease

namespace CodexGate.Oauth

open Foundation Routing

structure SaveCodexLogin where
  accessToken : String
  refreshToken : String
  idToken : String
  accountId : String
  email : String
  planType : Option String
  tokenExpiresAtMs : Option Int
  nowMs : Int

/-- What `finish_token_bundle` saves, if the exchange answers with all tokens and their claims. -/
def loginOf (codec : IdTokenCodec) (token : TokenResponse) (nowMs : Int) : Option SaveCodexLogin :=
  let refreshToken := token.refreshToken.getD ""
  let idToken := token.idToken.getD ""
  if trim token.accessToken = "" ∨ trim refreshToken = "" ∨ trim idToken = "" then none
  else
    match parseIdToken codec idToken with
    | .error _ => none
    | .ok claims =>
      if trim claims.accountId = "" then none
      else
        some
          { accessToken := token.accessToken
            refreshToken := refreshToken
            idToken := idToken
            accountId := trim claims.accountId
            email := trim claims.email
            planType := claims.planType
            tokenExpiresAtMs := some (saturatingAddI64 nowMs
              (saturatingMulI64 (max (token.expiresIn.getD 3600) 1) 1000))
            nowMs := nowMs }

namespace AccountRow

def saveCodexOauthLogin (login : SaveCodexLogin) : AccountRow where
  accessToken := login.accessToken
  credentials :=
    { refreshToken := login.refreshToken
      idToken := login.idToken
      accountId := login.accountId
      email := login.email }
  planType := login.planType
  tokenExpiresAtMs := login.tokenExpiresAtMs
  lastRefreshAtMs := some login.nowMs
  authStatus := authStatusActive
  lastError := none
  refreshLease := none

def updateCodexQuotaSuccess (row : AccountRow) : AccountRow :=
  { row with authStatus := authStatusActive, lastError := none }

def updateCodexTemporaryError (row : AccountRow) (error : String) : AccountRow :=
  { row with lastError := some (sanitizePersistedError error) }

end AccountRow

def isAccountForbiddenError (bytes : List UInt8) : Bool :=
  let text := toAsciiLowercase (fromUtf8Lossy bytes)
  ["missing entitlement", "missing_entitlement", "missing_codex_entitlement",
    "workspace deactivated", "workspace_deactivated", "account deactivated"].any (contains text)

/-- What a key is used for: a request that is passed on, a WebSocket, the HTTP bridge of one, or a
request of the gateway itself. -/
inductive UseKind
  | proxy
  | websocket
  | bridge
  | quota
  | models
  deriving DecidableEq

inductive Answer
  /-- The response to a request or to a handshake. -/
  | response (status : Nat) (body : List UInt8)
  /-- A terminal event of the stream, with the status that `terminal_status` gives it. -/
  | event (status : Nat) (body : List UInt8)
  deriving DecidableEq

inductive Verdict
  | status (status error : String)
  | quotaSuccess
  | temporary (error : String)
  deriving DecidableEq

def observeCodexAccountError (status : Nat) (body : List UInt8) : Option Verdict :=
  if status = 403 ∧ isAccountForbiddenError body then
    some (.status authStatusForbidden "Codex entitlement or workspace access was denied")
  else none

def verdict (kind : UseKind) (replayed : Bool) : Answer → Option Verdict
  | .response status body =>
    let rejected (error : String) : Option Verdict :=
      if replayed ∧ status = 401 then some (.status authStatusReauthRequired error) else none
    match kind with
    | .proxy =>
      (rejected "upstream rejected the refreshed access token").or
        (observeCodexAccountError status body)
    | .websocket => rejected "upstream websocket rejected the refreshed access token"
    | .bridge => rejected "HTTP bridge rejected the refreshed access token"
    | .quota =>
      if status = 200 then some .quotaSuccess
      else if status = 401 then rejected "upstream rejected the refreshed access token"
      else if status = 403 then
        some (.status authStatusForbidden "the quota endpoint returned 403")
      else some (.temporary s!"quota endpoint returned status {status}")
    | .models => rejected "model endpoint rejected the refreshed access token"
  | .event status body =>
    match kind with
    | .websocket | .bridge => observeCodexAccountError status body
    | .proxy | .quota | .models => none

def AccountRow.judge (row : AccountRow) : Verdict → AccountRow
  | .status status error => row.updateCodexAuthStatus status (some error)
  | .quotaSuccess => row.updateCodexQuotaSuccess
  | .temporary error => row.updateCodexTemporaryError error

/-- A request with what the call `call` has prepared. -/
structure Sending where
  call : Nat
  auth : PreparedCodexAuth
  replayed : Bool
  /-- It was sent again without its encrypted content. -/
  resent : Bool
  deriving DecidableEq

inductive UsePhase
  | preparing (call : Nat) (replayed : Bool)
  | sent (sending : Sending)
  | answered (sending : Sending) (answer : Answer)
  /-- The verdict is stored; a stream may go on. -/
  | judged (sending : Sending)
  deriving DecidableEq

structure Use where
  kind : UseKind
  phase : UsePhase
  deriving DecidableEq

structure KeyWorld where
  world : World
  uses : Nat → Option Use

inductive KeyAction
  | prepare (action : Action)
  | login (token : TokenResponse) (nowMs : Int)
  | use (id : Nat) (kind : UseKind) (call gateway : Nat)
  | send (id : Nat)
  | answer (id : Nat) (answer : Answer)
  | resend (id : Nat)
  | replay (id call gateway : Nat)
  /-- Stores what the answer says about the account. -/
  | judge (id : Nat)
  | finish (id : Nat)

namespace KeyWorld

def become (key : KeyWorld) (id : Nat) (use : Use) : KeyWorld :=
  { key with uses := Function.update key.uses id (some use) }

def prepare (codec : IdTokenCodec) (key : KeyWorld) (id : Nat) (kind : UseKind) (call gateway : Nat)
    (forceRefresh : Bool) : Option KeyWorld :=
  (step codec key.world (.call call gateway forceRefresh (kind = .quota))).map fun world =>
    { key with world := world }.become id
      { kind := kind, phase := .preparing call forceRefresh }

end KeyWorld

def keyStep (codec : IdTokenCodec) (key : KeyWorld) : KeyAction → Option KeyWorld
  | .prepare action => (step codec key.world action).map fun world => { key with world := world }
  | .login token nowMs =>
    (loginOf codec token nowMs).map fun login =>
      { key with world := { key.world with row := .saveCodexOauthLogin login } }
  | .use id kind call gateway =>
    if key.uses id = none then key.prepare codec id kind call gateway false else none
  | .send id =>
    match key.uses id with
    | some { kind, phase := .preparing call replayed } =>
      match key.world.phase call with
      | some (.prepared auth) =>
        some (key.become id
          { kind := kind
            phase := .sent { call := call, auth := auth, replayed := replayed, resent := false } })
      | _ => none
    | _ => none
  | .answer id answer =>
    match key.uses id, answer with
    | some { kind, phase := .sent sending }, .response .. =>
      some (key.become id { kind := kind, phase := .answered sending answer })
    | some { kind, phase := .answered sending _ }, .event ..
    | some { kind, phase := .judged sending }, .event .. =>
      if kind = .websocket ∨ kind = .bridge then
        some (key.become id { kind := kind, phase := .answered sending answer })
      else none
    | _, _ => none
  | .resend id =>
    match key.uses id with
    | some { kind := .proxy, phase := .answered sending (.response 400 _) } =>
      if sending.resent then none
      else some (key.become id { kind := .proxy, phase := .sent { sending with resent := true } })
    | _ => none
  | .replay id call gateway =>
    match key.uses id with
    | some { kind, phase := .answered sending (.response 401 _) } =>
      if sending.replayed || sending.resent then none
      else key.prepare codec id kind call gateway true
    | _ => none
  | .judge id =>
    match key.uses id with
    | some { kind, phase := .answered sending answer } =>
      (verdict kind sending.replayed answer).map fun verdict =>
        { key with world := { key.world with row := key.world.row.judge verdict } }.become id
          { kind := kind, phase := .judged sending }
    | _ => none
  | .finish id =>
    if key.uses id = none then none
    else some { key with uses := Function.update key.uses id none }

end CodexGate.Oauth
