import CodexGate.Foundation.Text
import CodexGate.Foundation.Json
import Mathlib.Data.List.SplitOn

namespace CodexGate.Overrides

open Foundation

def maxHeaderOverrides : Nat := 64
def maxBodyOverrides : Nat := 128
def maxConfigBytes : Nat := 256 * 1024
def maxHeaderValueBytes : Nat := 8 * 1024
def maxBodyPathBytes : Nat := 512
def maxBodyPathDepth : Nat := 16
def maxBodyValueBytes : Nat := 64 * 1024
def requestIdTemplate : String := "\x7b\x7brequest_id\x7d\x7d"

inductive RequestOverrideScope
  | all
  | chatCompletions
  | responses
  deriving DecidableEq

inductive RequestOverrideOperation
  | set
  | remove
  deriving DecidableEq

inductive RequestOverrideTarget
  | models
  | chatCompletions
  | responses
  deriving DecidableEq

structure RequestHeaderOverride where
  scope : RequestOverrideScope
  operation : RequestOverrideOperation
  name : String
  value : String

structure RequestBodyOverride where
  scope : RequestOverrideScope
  operation : RequestOverrideOperation
  path : String
  value : JsonValue

structure RequestOverrides where
  headers : List RequestHeaderOverride
  body : List RequestBodyOverride

structure RequestOverrideContext where
  requestId : String

def targetSpecificScope : RequestOverrideTarget → Option RequestOverrideScope
  | .models => none
  | .chatCompletions => some .chatCompletions
  | .responses => some .responses

/-- What is used of `http` and `serde_json`, with the texts of their errors, and `{:?}`. -/
structure Crates where
  headerName : String → Except String HeaderName
  headerValue : String → Except String HeaderValue
  encodeOverrides : RequestOverrides → Except String (List UInt8)
  encodeValue : Json → Except String (List UInt8)
  debug : String → String

def reservedHeaders : List HeaderName :=
  ["authorization", "connection", "content-length", "host", "proxy-authenticate",
    "proxy-authorization", "te", "trailer", "transfer-encoding", "upgrade", "accept-encoding",
    "content-encoding", "expect", "keep-alive", "proxy-connection", "cookie", "set-cookie",
    "x-api-key", "api-key", "x-goog-api-key", "chatgpt-account-id", "forwarded", "via", "x-real-ip",
    "cf-connecting-ip", "cf-ray", "cdn-loop", "true-client-ip", "x-http-method-override",
    "x-http-method", "x-method-override", "x-original-host", "x-original-url", "x-original-uri",
    "x-rewrite-url", "x-envoy-original-path"]

def eqIgnoreAsciiCase (text other : String) : Bool := toAsciiLowercase text = toAsciiLowercase other

def isReservedHeader (name : HeaderName) : Bool :=
  startsWith name "sec-websocket-" || startsWith name "x-forwarded-" ||
    reservedHeaders.any (eqIgnoreAsciiCase name)

def isReservedBodyRoot (value : String) : Bool :=
  ["model", "stream", "type"].any (eqIgnoreAsciiCase value)

def bodyPathSegments (crates : Crates) (path : String) : Except String (List String) :=
  let trimmed := trim path
  if trimmed = "" then .error "request body override path is empty"
  else if byteLength trimmed > maxBodyPathBytes then
    .error s!"request body override path exceeds the {maxBodyPathBytes} byte limit"
  else
    let segments := (trimmed.toList.splitOn '.').map fun piece => trim (String.ofList piece)
    if segments.length > maxBodyPathDepth then
      .error s!"request body override path exceeds the {maxBodyPathDepth} segment limit"
    else if segments.any (· = "") then
      .error s!"request body override path {crates.debug trimmed} contains an empty segment"
    else .ok segments

section Validate

variable (crates : Crates)

def checkHeader (rule : RequestHeaderOverride) : Except String HeaderName :=
  let name := trim rule.name
  match crates.headerName name with
  | .error error => .error s!"invalid request override header {crates.debug name}: {error}"
  | .ok parsed =>
    if isReservedHeader parsed then
      .error s!"request override header {parsed} is managed by the gateway"
    else if byteLength rule.value > maxHeaderValueBytes then
      .error s!"request override header {parsed} exceeds the {maxHeaderValueBytes} byte value limit"
    else
      match rule.operation, crates.headerValue rule.value with
      | .set, .error error =>
        .error s!"invalid value for request override header {parsed}: {error}"
      | _, _ => .ok parsed

def checkHeaders (seen : List (RequestOverrideScope × String)) :
    List RequestHeaderOverride → Except String Unit
  | [] => .ok ()
  | rule :: rest =>
    match checkHeader crates rule with
    | .error error => .error error
    | .ok parsed =>
      let key := (rule.scope, toAsciiLowercase parsed)
      if key ∈ seen then .error s!"duplicate request override header {parsed} in the same scope"
      else checkHeaders (key :: seen) rest

def checkBodyRule (rule : RequestBodyOverride) : Except String (List String) :=
  match bodyPathSegments crates rule.path with
  | .error error => .error error
  | .ok segments =>
    let first := segments.head?.getD ""
    if isReservedBodyRoot first then
      .error s!"request body field {first} is managed by the gateway"
    else
      match rule.operation with
      | .remove => .ok segments
      | .set =>
        match crates.encodeValue rule.value.val with
        | .error error => .error s!"request body override value is invalid: {error}"
        | .ok encoded =>
          if encoded.length > maxBodyValueBytes then
            let path := trim rule.path
            .error s!"request body override {path} exceeds the {maxBodyValueBytes} byte value limit"
          else .ok segments

def checkBody (seen : List (RequestOverrideScope × String)) :
    List RequestBodyOverride → Except String Unit
  | [] => .ok ()
  | rule :: rest =>
    match checkBodyRule crates rule with
    | .error error => .error error
    | .ok segments =>
      let path := ".".intercalate segments
      if (rule.scope, path) ∈ seen then
        .error s!"duplicate request body override path {path} in the same scope"
      else checkBody ((rule.scope, path) :: seen) rest

def validateRequestOverrides (overrides : RequestOverrides) : Except String Unit :=
  match crates.encodeOverrides overrides with
  | .error error => .error s!"request overrides could not be encoded: {error}"
  | .ok encoded =>
    if encoded.length > maxConfigBytes then
      .error s!"request overrides exceed the {maxConfigBytes} byte limit"
    else if overrides.headers.length > maxHeaderOverrides then
      .error s!"request header overrides exceed the {maxHeaderOverrides} rule limit"
    else if overrides.body.length > maxBodyOverrides then
      .error s!"request body overrides exceed the {maxBodyOverrides} rule limit"
    else
      match checkHeaders crates [] overrides.headers with
      | .error error => .error error
      | .ok () => checkBody crates [] overrides.body

end Validate

/-- `str::replace`: `skip` characters are still part of what was replaced last. -/
def replaceChars (pattern replacement : List Char) : Nat → List Char → List Char
  | _, [] => []
  | skip + 1, _ :: rest => replaceChars pattern replacement skip rest
  | 0, c :: rest =>
    if pattern.isPrefixOf (c :: rest) then
      replacement ++ replaceChars pattern replacement (pattern.length - 1) rest
    else c :: replaceChars pattern replacement 0 rest

def expandTemplate (value : String) (context : RequestOverrideContext) : String :=
  String.ofList
    (replaceChars requestIdTemplate.toList context.requestId.toList 0 value.toList)

mutual

def expandValueTemplates (context : RequestOverrideContext) : Json → Json
  | .string value => .string (expandTemplate value context)
  | .array values => .array (expandItems context values)
  | .object values => .object (expandMembers context values)
  | value => value

def expandItems (context : RequestOverrideContext) : List Json → List Json
  | [] => []
  | value :: rest => expandValueTemplates context value :: expandItems context rest

def expandMembers (context : RequestOverrideContext) : List (String × Json) → List (String × Json)
  | [] => []
  | (key, value) :: rest =>
    (key, expandValueTemplates context value) :: expandMembers context rest

end

def setPath (replacement : Json) : List String → List (String × Json) → List (String × Json)
  | [], members => members
  | [last], members => SortedMaps.insert last replacement members
  | segment :: rest, members =>
    SortedMaps.insert segment
      (.object (setPath replacement rest (Json.entries (members.lookup segment)))) members

def setBodyPath (value : Json) (segments : List String) (replacement : Json) :
    Except String Unit × Json :=
  if segments = [] then (.error "request body override path is empty", value)
  else
    match value with
    | .object members => (.ok (), .object (setPath replacement segments members))
    | other => (.error "request body overrides require a JSON object body", other)

def removePath : List String → List (String × Json) → List (String × Json)
  | [], members => members
  | [last], members => SortedMaps.remove last members
  | segment :: rest, members =>
    match members.lookup segment with
    | some (.object inner) => SortedMaps.insert segment (.object (removePath rest inner)) members
    | _ => members

def removeBodyPath (value : Json) (segments : List String) : Json :=
  match value with
  | .object members => .object (removePath segments members)
  | other => other

section Apply

variable (crates : Crates) (context : RequestOverrideContext)

def applyBodyRule (rule : RequestBodyOverride) (value : Json) : Except String Unit × Json :=
  match bodyPathSegments crates rule.path with
  | .error error => (.error error, value)
  | .ok segments =>
    match rule.operation with
    | .set => setBodyPath value segments (expandValueTemplates context rule.value.val)
    | .remove => (.ok (), removeBodyPath value segments)

def applyBodyRules : List RequestBodyOverride → Json → Except String Unit × Json
  | [], value => (.ok (), value)
  | rule :: rest, value =>
    match applyBodyRule crates context rule value with
    | (.ok (), value) => applyBodyRules rest value
    | (.error error, value) => (.error error, value)

def scopesOf (target : RequestOverrideTarget) : List RequestOverrideScope :=
  .all :: (targetSpecificScope target).toList

def bodyRules (overrides : RequestOverrides) (target : RequestOverrideTarget) :
    List RequestBodyOverride :=
  (scopesOf target).flatMap fun scope => overrides.body.filter fun rule => rule.scope = scope

def applyBodyOverridesToValue (overrides : RequestOverrides) (target : RequestOverrideTarget)
    (value : Json) : Except String Unit × Json :=
  applyBodyRules crates context (bodyRules overrides target) value

def applyHeaderRule (rule : RequestHeaderOverride) (headers : HeaderMap) :
    Except String Unit × HeaderMap :=
  match crates.headerName (trim rule.name) with
  | .error error => (.error s!"invalid request override header: {error}", headers)
  | .ok name =>
    match rule.operation with
    | .set =>
      match crates.headerValue (expandTemplate rule.value context) with
      | .error error =>
        (.error s!"invalid value for request override header {name}: {error}", headers)
      | .ok value => (.ok (), headers.insert name value)
    | .remove => (.ok (), headers.remove name)

def applyHeaderRules : List RequestHeaderOverride → HeaderMap → Except String Unit × HeaderMap
  | [], headers => (.ok (), headers)
  | rule :: rest, headers =>
    match applyHeaderRule crates context rule headers with
    | (.ok (), headers) => applyHeaderRules rest headers
    | (.error error, headers) => (.error error, headers)

def headerRules (overrides : RequestOverrides) (target : RequestOverrideTarget) :
    List RequestHeaderOverride :=
  (scopesOf target).flatMap fun scope => overrides.headers.filter fun rule => rule.scope = scope

def applyHeaderOverrides (overrides : RequestOverrides) (target : RequestOverrideTarget)
    (headers : HeaderMap) : Except String Unit × HeaderMap :=
  applyHeaderRules crates context (headerRules overrides target) headers

end Apply

end CodexGate.Overrides
