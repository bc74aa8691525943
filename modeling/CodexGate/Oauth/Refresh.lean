import CodexGate.Oauth.Tokens
import CodexGate.Routing.Collect
import Mathlib.Logic.Function.Basic

namespace CodexGate.Oauth

open Foundation Routing

def refreshLeewayMs : Int := 60000
def refreshLeaseMs : Int := 30000
def refreshLeaseWaitAttempts : Nat := 20

def authStatusReauthRequired : String := "reauth_required"

structure CodexOAuthCredentials where
  refreshToken : String
  idToken : String
  accountId : String
  email : String
  deriving DecidableEq

/-- An account as `find_codex_oauth_account` returns it, without its quota. -/
structure CodexOAuthAccount where
  accessToken : String
  credentials : CodexOAuthCredentials
  planType : Option String
  tokenExpiresAtMs : Option Int
  lastRefreshAtMs : Option Int
  authStatus : String
  lastError : Option String
  refreshLeaseUntilMs : Option Int
  deriving DecidableEq

structure RefreshLease where
  owner : Nat
  untilMs : Int
  deriving DecidableEq

/-- The row of the key in `codex_oauth_accounts`, with the secret of the key. The two lease columns
are written together, and an owner is the number of the call that drew it. -/
structure AccountRow where
  accessToken : String
  credentials : CodexOAuthCredentials
  planType : Option String
  tokenExpiresAtMs : Option Int
  lastRefreshAtMs : Option Int
  authStatus : String
  lastError : Option String
  refreshLease : Option RefreshLease
  deriving DecidableEq

namespace AccountRow

def findCodexOauthAccount (row : AccountRow) : CodexOAuthAccount where
  accessToken := row.accessToken
  credentials := row.credentials
  planType := row.planType
  tokenExpiresAtMs := row.tokenExpiresAtMs
  lastRefreshAtMs := row.lastRefreshAtMs
  authStatus := row.authStatus
  lastError := row.lastError
  refreshLeaseUntilMs := row.refreshLease.map (·.untilMs)

def tryAcquireCodexRefreshLease (row : AccountRow) (owner : Nat) (leaseUntilMs nowMs : Int) :
    Option AccountRow :=
  if row.refreshLease.all fun lease => lease.untilMs ≤ nowMs || lease.owner == owner then
    some { row with refreshLease := some { owner := owner, untilMs := leaseUntilMs } }
  else none

def ownedBy (row : AccountRow) (owner : Nat) : Bool :=
  row.refreshLease.any (·.owner == owner)

def releaseCodexRefreshLease (row : AccountRow) (owner : Nat) : AccountRow :=
  if row.ownedBy owner then { row with refreshLease := none } else row

def persistCodexTokenRefresh (row : AccountRow) (owner : Nat) (accessToken : String)
    (credentials : CodexOAuthCredentials) (planType : Option String) (tokenExpiresAtMs : Option Int)
    (authStatus : String) (lastError : Option String) (nowMs : Int) : Option AccountRow :=
  if row.ownedBy owner then
    some
      { accessToken := accessToken
        credentials := credentials
        planType := planType
        tokenExpiresAtMs := tokenExpiresAtMs
        lastRefreshAtMs := some nowMs
        authStatus := authStatus
        lastError := lastError.map sanitizePersistedError
        refreshLease := none }
  else none

def updateCodexAuthStatus (row : AccountRow) (status : String) (error : Option String) :
    AccountRow :=
  { row with authStatus := status, lastError := error.map sanitizePersistedError }

end AccountRow

structure PreparedCodexAuth where
  accessToken : String
  accountId : String
  deriving DecidableEq

def preparedAuth (account : CodexOAuthAccount) : PreparedCodexAuth where
  accessToken := account.accessToken
  accountId := account.credentials.accountId

def loadAccount (row : AccountRow) (allowForbidden : Bool) :
    Except CodexOAuthError CodexOAuthAccount :=
  let account := row.findCodexOauthAccount
  if account.authStatus = authStatusActive then .ok account
  else if account.authStatus = authStatusForbidden then
    if allowForbidden then .ok account
    else
      .error (.forbidden "account_forbidden"
        "the Codex account is not currently entitled to use the service")
  else .error (.reauth "reauth_required" "the Codex account must be signed in again")

/-- Where a call of `prepare_auth_with_status` stands between two of its awaits. -/
inductive Phase
  /-- It waits for the lock of its gateway. -/
  | queued
  | locked
  /-- It found no refresh token. -/
  | unusable
  /-- It will try to take the lease, for the `left`-th last time. -/
  | acquiring (account : CodexOAuthAccount) (nowMs : Int) (left : Nat)
  /-- It sleeps while another call has the lease. -/
  | waiting (left : Nat)
  | refreshing (account : CodexOAuthAccount)
  /-- The refresh failed, and the lease is to be released. -/
  | refused (account : CodexOAuthAccount) (error : CodexOAuthError)
  /-- The refresh token was rejected, and the status is to be stored. -/
  | rejected (error : CodexOAuthError)
  | persisting (account : CodexOAuthAccount) (refreshed : RefreshTokenBundle)
  | persisted
  | prepared (auth : PreparedCodexAuth)
  | failed (error : CodexOAuthError)
  /-- The future of the call was dropped. -/
  | dropped
  deriving DecidableEq

structure PrepareCall where
  gateway : Nat
  forceRefresh : Bool
  allowForbidden : Bool
  phase : Phase
  deriving DecidableEq

/-- The account row of one key, the calls of all gateways for that key, the call that has the lock
of each gateway, and the refresh tokens that the token endpoint has taken. -/
structure World where
  row : AccountRow
  calls : Nat → Option PrepareCall
  locks : Nat → Option Nat
  spent : List String

namespace World

def enter (world : World) (id : Nat) (call : PrepareCall) (phase : Phase) : World :=
  { world with calls := Function.update world.calls id (some { call with phase := phase }) }

def leave (world : World) (id : Nat) (call : PrepareCall) (phase : Phase) : World :=
  { world.enter id call phase with
    locks :=
      if world.locks call.gateway = some id then Function.update world.locks call.gateway none
      else world.locks }

def fail (world : World) (id : Nat) (call : PrepareCall) (error : CodexOAuthError) : World :=
  world.leave id call (.failed error)

def await (world : World) (id : Nat) (call : PrepareCall) (left : Nat) : World :=
  if left = 0 then
    world.fail id call (.temporary "refresh_in_progress"
      "another gateway instance is refreshing this account")
  else world.enter id call (.waiting left)

def load (world : World) (id : Nat) (call : PrepareCall) (nowMs : Int) : World :=
  match loadAccount world.row call.allowForbidden with
  | .error error => world.fail id call error
  | .ok account =>
    let stillValid := account.tokenExpiresAtMs.all fun expires =>
      saturatingAddI64 nowMs refreshLeewayMs < expires
    if !call.forceRefresh && stillValid then world.leave id call (.prepared (preparedAuth account))
    else if trim account.credentials.refreshToken = "" then world.enter id call .unusable
    else world.enter id call (.acquiring account nowMs refreshLeaseWaitAttempts)

def acquire (world : World) (id : Nat) (call : PrepareCall) (account : CodexOAuthAccount)
    (nowMs : Int) (left : Nat) : World :=
  match world.row.tryAcquireCodexRefreshLease id (saturatingAddI64 nowMs refreshLeaseMs) nowMs with
  | some row => { world.enter id call (.refreshing account) with row := row }
  | none => world.await id call left

/-- One round of the loop that waits for the lease, up to its attempt to take it. -/
def poll (world : World) (id : Nat) (call : PrepareCall) (left : Nat) (nowMs : Int) : World :=
  match loadAccount world.row call.allowForbidden with
  | .error error => world.fail id call error
  | .ok account =>
    if account.tokenExpiresAtMs.any fun expires =>
        saturatingAddI64 nowMs refreshLeewayMs < expires then
      world.leave id call (.prepared (preparedAuth account))
    else if account.refreshLeaseUntilMs.all (· ≤ nowMs) then
      world.enter id call (.acquiring account nowMs left)
    else world.await id call left

end World

def rotated (refreshed : RefreshTokenBundle) : Option String :=
  refreshed.refreshToken.filter fun value => trim value ≠ ""

namespace World

def request (world : World) (id : Nat) (call : PrepareCall) (account : CodexOAuthAccount)
    (answer : TokenAnswer) : World :=
  match refreshTokens answer with
  | .error error => world.enter id call (.refused account error)
  | .ok refreshed =>
    { world.enter id call (.persisting account refreshed) with
      spent :=
        if (rotated refreshed).isSome then account.credentials.refreshToken :: world.spent
        else world.spent }

def release (world : World) (id : Nat) (call : PrepareCall) (error : CodexOAuthError) : World :=
  if error.reauthRequired then world.enter id call (.rejected error) else world.fail id call error

def refreshedCredentials (account : CodexOAuthAccount) (refreshed : RefreshTokenBundle)
    (claims : Option IdTokenClaims) : CodexOAuthCredentials where
  refreshToken := (rotated refreshed).getD account.credentials.refreshToken
  idToken :=
    (refreshed.idToken.filter fun value => trim value ≠ "").getD account.credentials.idToken
  accountId := account.credentials.accountId
  email :=
    ((claims.map (·.email)).filter fun value => trim value ≠ "").getD account.credentials.email

def persist (codec : IdTokenCodec) (world : World) (id : Nat) (call : PrepareCall)
    (account : CodexOAuthAccount) (refreshed : RefreshTokenBundle) (nowMs : Int) : World :=
  match (refreshed.idToken.filter fun value => trim value ≠ "").mapM (parseIdToken codec) with
  | .error error => world.fail id call error
  | .ok claims =>
    let planType := (claims.bind (·.planType)).or account.planType
    let expiresAtMs := saturatingAddI64 nowMs (saturatingMulI64 (max refreshed.expiresInSeconds 1) 1000)
    let preservedLastError :=
      if account.authStatus ≠ authStatusActive then account.lastError else none
    match world.row.persistCodexTokenRefresh id refreshed.accessToken
        (refreshedCredentials account refreshed claims) planType (some expiresAtMs)
        account.authStatus preservedLastError nowMs with
    | none =>
      world.fail id call (.temporary "refresh_lease_lost"
        "the account refresh lease was lost before credentials were saved")
    | some row => { world.enter id call .persisted with row := row }

def reload (world : World) (id : Nat) (call : PrepareCall) : World :=
  match loadAccount world.row call.allowForbidden with
  | .error error => world.fail id call error
  | .ok account => world.leave id call (.prepared (preparedAuth account))

end World

inductive Action
  | call (id gateway : Nat) (forceRefresh allowForbidden : Bool)
  | lock (id : Nat)
  | load (id : Nat) (nowMs : Int)
  | acquire (id : Nat)
  | poll (id : Nat) (nowMs : Int)
  | request (id : Nat) (answer : TokenAnswer)
  | release (id : Nat)
  /-- Stores that the account must be signed in again. -/
  | mark (id : Nat)
  | persist (id : Nat) (nowMs : Int)
  | reload (id : Nat)
  /-- The statement that the call waits for fails. -/
  | databaseError (id : Nat) (message : String)
  | drop (id : Nat)

def stepCall (codec : IdTokenCodec) (world : World) (id : Nat) (call : PrepareCall) :
    Action → Option World
  | .call .. => none
  | .lock _ =>
    if call.phase = .queued ∧ world.locks call.gateway = none then
      some
        { world.enter id call .locked with
          locks := Function.update world.locks call.gateway (some id) }
    else none
  | .load _ nowMs => if call.phase = .locked then some (world.load id call nowMs) else none
  | .acquire _ =>
    match call.phase with
    | .acquiring account nowMs left => some (world.acquire id call account nowMs left)
    | _ => none
  | .poll _ nowMs =>
    match call.phase with
    | .waiting left => some (world.poll id call (left - 1) nowMs)
    | _ => none
  | .request _ answer =>
    match call.phase with
    | .refreshing account => some (world.request id call account answer)
    | _ => none
  | .release _ =>
    match call.phase with
    | .refused _ error =>
      some ({ world with row := world.row.releaseCodexRefreshLease id }.release id call error)
    | _ => none
  | .mark _ =>
    match call.phase with
    | .unusable =>
      some
        ({ world with
          row := world.row.updateCodexAuthStatus authStatusReauthRequired
            (some "refresh token is missing") }.fail id call
          (.reauth "refresh_token_missing" "the account must be signed in again"))
    | .rejected error =>
      some
        ({ world with
          row := world.row.updateCodexAuthStatus authStatusReauthRequired
            (some error.message) }.fail id call error)
    | _ => none
  | .persist _ nowMs =>
    match call.phase with
    | .persisting account refreshed => some (world.persist codec id call account refreshed nowMs)
    | _ => none
  | .reload _ => if call.phase = .persisted then some (world.reload id call) else none
  | .databaseError _ message =>
    match call.phase with
    | .queued | .refreshing _ | .prepared _ | .failed _ | .dropped => none
    -- The outcome of the two statements after a failed refresh is ignored.
    | .refused _ error => some (world.release id call error)
    | .rejected error => some (world.fail id call error)
    | _ => some (world.fail id call (.database message))
  | .drop _ =>
    match call.phase with
    | .prepared _ | .failed _ | .dropped => none
    | _ => some (world.leave id call .dropped)

def Action.caller : Action → Nat
  | .call id .. | .lock id | .load id _ | .acquire id | .poll id _ | .request id _ | .release id
  | .mark id | .persist id _ | .reload id | .databaseError id _ | .drop id => id

def step (codec : IdTokenCodec) (world : World) (action : Action) : Option World :=
  match world.calls action.caller with
  | some call => stepCall codec world action.caller call action
  | none =>
    match action with
    | .call id gateway forceRefresh allowForbidden =>
      some
        { world with
          calls := Function.update world.calls id (some
            { gateway := gateway
              forceRefresh := forceRefresh
              allowForbidden := allowForbidden
              phase := .queued }) }
    | _ => none

end CodexGate.Oauth
