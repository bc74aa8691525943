import CodexGate.Foundation.Json
import CodexGate.Foundation.Text

namespace CodexGate.Oauth

open Foundation

inductive CodexOAuthErrorKind
  | badRequest
  | conflict
  | temporary
  | upstream
  | reauthRequired
  | forbidden
  | database
  deriving DecidableEq

structure CodexOAuthError where
  code : String
  message : String
  kind : CodexOAuthErrorKind
  reauthRequired : Bool
  deriving DecidableEq

def secretMarkers : List String :=
  ["access_token", "refresh_token", "id_token", "authorization_code", "code_verifier", "user_code"]

def sanitizePersistedError (message : String) : String :=
  let trimmed := trim message
  let sanitized :=
    if trimmed = "" then "unknown OAuth error" else String.ofList (trimmed.toList.take 240)
  if secretMarkers.any (contains (toAsciiLowercase sanitized)) then "upstream OAuth request failed"
  else sanitized

namespace CodexOAuthError

def new (code message : String) (kind : CodexOAuthErrorKind) : CodexOAuthError where
  code := code
  message := sanitizePersistedError message
  kind := kind
  reauthRequired := kind = .reauthRequired

def temporary (code message : String) : CodexOAuthError := .new code message .temporary

def upstream (code message : String) : CodexOAuthError := .new code message .upstream

def reauth (code message : String) : CodexOAuthError := .new code message .reauthRequired

def forbidden (code message : String) : CodexOAuthError := .new code message .forbidden

def database (message : String) : CodexOAuthError := .new "oauth_database_error" message .database

end CodexOAuthError

structure TokenResponse where
  accessToken : String
  refreshToken : Option String
  idToken : Option String
  expiresIn : Option Int

structure RefreshTokenBundle where
  accessToken : String
  refreshToken : Option String
  idToken : Option String
  expiresInSeconds : Int
  deriving DecidableEq

/-- What the token endpoint makes of a refresh request. -/
inductive TokenAnswer
  /-- There is no answer, or none that could be read. -/
  | failed (error : CodexOAuthError)
  /-- The status is not 200. -/
  | refused (status : Nat) (bytes : List UInt8)
  /-- The status is 200 and the body is not a token response. -/
  | garbled
  | granted (token : TokenResponse)

def classifyRefreshFailure (status : Nat) (bytes : List UInt8) : CodexOAuthError :=
  let text := toAsciiLowercase (fromUtf8Lossy bytes)
  if status = 400 ∧
      ["invalid_grant", "refresh_token_reused", "token_reused", "revoked"].any (contains text) then
    .reauth
      (if contains text "refresh_token_reused" || contains text "token_reused" then
        "refresh_token_reused"
      else "token_refresh_rejected")
      "the refresh token is no longer valid; sign in again"
  else
    .temporary "token_refresh_failed" s!"OAuth token refresh returned status {status}"

def refreshTokens : TokenAnswer → Except CodexOAuthError RefreshTokenBundle
  | .failed error => .error error
  | .refused status bytes => .error (classifyRefreshFailure status bytes)
  | .garbled =>
    .error (.upstream "token_refresh_invalid" "OAuth token refresh returned invalid JSON")
  | .granted token =>
    if trim token.accessToken = "" then
      .error (.upstream "token_refresh_invalid" "OAuth token refresh omitted the access token")
    else
      .ok
        { accessToken := token.accessToken
          refreshToken := token.refreshToken
          idToken := token.idToken
          expiresInSeconds := max (token.expiresIn.getD 3600) 1 }

structure IdTokenClaims where
  accountId : String
  email : String
  planType : Option String

/-- The decoders that `parse_id_token` calls: URL-safe base64, with padding or without, and JSON. -/
structure IdTokenCodec where
  base64 : String → Option (List UInt8)
  json : List UInt8 → Option Json

def parseIdToken (codec : IdTokenCodec) (token : String) : Except CodexOAuthError IdTokenClaims :=
  match (token.toList.splitOn '.').map String.ofList with
  | [_, payload, _] =>
    match codec.base64 payload with
    | none => .error (.upstream "id_token_invalid" "ID token payload is not valid base64")
    | some decoded =>
      match codec.json decoded with
      | none => .error (.upstream "id_token_invalid" "ID token payload is not valid JSON")
      | some value =>
        let auth := value.get "https://api.openai.com/auth"
        .ok
          { accountId := ((auth.bind (·.get "chatgpt_account_id")).bind Json.asStr).getD ""
            email := ((value.get "email").bind Json.asStr).getD ""
            planType := (((auth.bind (·.get "chatgpt_plan_type")).bind Json.asStr).map trim).filter
              (· ≠ "") }
  | _ => .error (.upstream "id_token_invalid" "ID token has an invalid format")

end CodexGate.Oauth
