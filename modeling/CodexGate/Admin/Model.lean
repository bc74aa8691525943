import CodexGate.Authorization.Model
import CodexGate.Foundation.Commits
import CodexGate.Foundation.Text
import CodexGate.Routing.Collect

namespace CodexGate.Admin

open Foundation Authorization Routing

inductive Answer
  | ok
  | refused (status : Nat) (message : String)
  /-- 500 with the text of the error of the database -/
  | failed
  deriving DecidableEq

/-- The calls of the database that the three handlers make. A refresh has a transaction of its own. -/
inductive DbStep
  | listUpstreamProviders
  | listProviderGroups
  | updateUpstreamProvider
  | replaceProviderGroupMemberships
  | refreshMemberships
  | updateDefaultRouteTarget
  | refreshRouteTarget
  | requestOptions
  | saveRequestOptions
  | findApiKeyById
  | authorizationIsDirect
  | updateApiKey
  | replaceApiKeyProviderGroups
  | refreshApiKeyGroups
  | replaceAllowedProviders
  | upsertModelRoute
  | deleteRoutePolicy
  | routePolicies
  | saveRoutePolicy
  deriving DecidableEq

inductive Table
  | upstreamProviders
  | providerGroupProviders
  | providerGroupApiKeys
  | apiKeys
  | apiKeyAuthorization
  | apiKeyAllowedProviders
  | modelRoutes
  | modelRouteProviders
  | modelRoutePolicies
  | upstreamRequestOptions
  deriving DecidableEq

namespace DbStep

def tables : DbStep → List Table
  | updateUpstreamProvider => [.upstreamProviders]
  | replaceProviderGroupMemberships => [.providerGroupProviders]
  | refreshMemberships | refreshRouteTarget | refreshApiKeyGroups =>
    [.apiKeyAuthorization, .apiKeyAllowedProviders]
  | updateDefaultRouteTarget | deleteRoutePolicy | saveRoutePolicy => [.modelRoutePolicies]
  | saveRequestOptions => [.upstreamRequestOptions]
  | updateApiKey => [.apiKeys]
  | replaceApiKeyProviderGroups => [.providerGroupApiKeys]
  | replaceAllowedProviders => [.apiKeyAuthorization, .apiKeyAllowedProviders]
  | upsertModelRoute => [.modelRoutes, .modelRouteProviders]
  | listUpstreamProviders | listProviderGroups | requestOptions | findApiKeyById
  | authorizationIsDirect | routePolicies => []

end DbStep

inductive Memory
  | apiKeys
  | upstream
  | affinity (provider : Nat)
  | providerRuntime (provider : Nat)
  deriving DecidableEq

def Memory.tables : Memory → List Table
  | apiKeys => [.apiKeys, .providerGroupApiKeys, .apiKeyAllowedProviders]
  | upstream =>
    [.upstreamProviders, .providerGroupProviders, .modelRoutes, .modelRouteProviders,
      .modelRoutePolicies, .upstreamRequestOptions]
  | affinity _ | providerRuntime _ => []

structure ProviderRow (Overrides : Type) where
  name : String
  providerType : String
  enabled : Bool
  priority : I32
  weight : I32
  supportsIncludeUsage : Bool
  websocketEnabled : Bool
  betaFeatures : List String
  requestOverrides : Overrides
  keySelectionStrategy : String
  maxAttempts : Int
  maxConcurrency : Option Int
  circuitBreakerEnabled : Bool
  circuitBreakerFailureThreshold : Int
  circuitBreakerOpenMs : Int
  circuitBreakerHalfOpenSuccessThreshold : Int
  updatedAtMs : Int

structure ApiKeyRow where
  name : String
  enabled : Bool
  expiresAtMs : Option Int
  logEnabled : Bool
  updatedAtMs : Int

structure RouteRow where
  enabled : Bool
  providerIds : List Nat
  updatedAtMs : Int

/-- The rows of the tables, those of the memberships and the authorizations in `auth`. -/
structure AdminStore (Overrides : Type) where
  auth : AuthStore
  providers : HashMap Nat (ProviderRow Overrides)
  requestOptions : HashMap Nat (Option Nat × Bool)
  apiKeys : HashMap Nat ApiKeyRow
  routes : HashMap String RouteRow
  policies : HashMap String RoutePolicy

structure GroupAssignment where
  groupId : Nat
  priorityOverride : Option I32

structure PatchProviderReq (Overrides : Type) where
  maxRetries : Option Int
  requestTimeoutMs : Option (Option Nat)
  endpointFailover : Option Bool
  name : Option String
  providerType : Option String
  enabled : Option Bool
  priority : Option I32
  weight : Option I32
  supportsIncludeUsage : Option Bool
  websocketEnabled : Option Bool
  betaFeatures : Option (List String)
  requestOverrides : Option Overrides
  keySelectionStrategy : Option String
  groups : Option (List GroupAssignment)
  maxAttempts : Option Int
  maxConcurrency : Option (Option Int)
  circuitBreakerEnabled : Option Bool
  circuitBreakerFailureThreshold : Option Int
  circuitBreakerOpenMs : Option Int
  circuitBreakerHalfOpenSuccessThreshold : Option Int

structure PatchApiKeyReq where
  name : Option String
  enabled : Option Bool
  expiresAtMs : Option (Option Int)
  logEnabled : Option Bool
  providerGroupIds : Option (List Nat)
  allowedProviderIds : Option (List Nat)

structure UpsertRouteReq where
  enabled : Bool
  providerIds : List Nat

abbrev AdminStage (Overrides : Type) := Stage DbStep (AdminStore Overrides) Memory

variable {Overrides : Type}

def refuse {α : Type} (status : Nat) (message : String) : Except Answer α :=
  .error (.refused status message)

def refuseIf (condition : Prop) [Decidable condition] (status : Nat) (message : String) :
    Except Answer Unit :=
  if condition then refuse status message else pure ()

def query (fails : DbStep → Bool) (step : DbStep) : Except Answer Unit :=
  if fails step then .error .failed else pure ()

def validateProviderRouting (priority weight : Option I32) : Except Answer Unit := do
  refuseIf (priority.any fun value => value.1 < 0) 400 "priority must be greater than or equal to 0"
  refuseIf (weight.any fun value => value.1 < 1) 400 "weight must be greater than or equal to 1"

def validateProviderResilience (row : ProviderRow Overrides) : Except Answer Unit := do
  refuseIf (¬ (1 ≤ row.maxAttempts ∧ row.maxAttempts ≤ 10)) 400
    "max_attempts must be between 1 and 10"
  refuseIf (row.maxConcurrency.any fun value => ¬ (1 ≤ value ∧ value ≤ 100000)) 400
    "max_concurrency must be null or between 1 and 100000"
  refuseIf (¬ (1 ≤ row.circuitBreakerFailureThreshold ∧ row.circuitBreakerFailureThreshold ≤ 100))
    400 "circuit breaker failure threshold must be between 1 and 100"
  refuseIf (¬ (1000 ≤ row.circuitBreakerOpenMs ∧ row.circuitBreakerOpenMs ≤ 86400000)) 400
    "circuit breaker open duration must be between 1000 and 86400000 ms"
  refuseIf (¬ (1 ≤ row.circuitBreakerHalfOpenSuccessThreshold ∧
    row.circuitBreakerHalfOpenSuccessThreshold ≤ 20)) 400
    "half-open success threshold must be between 1 and 20"

def validateEachGroup (available : Finset Nat) : List Nat → List Nat → Except Answer Unit
  | _, [] => pure ()
  | seen, id :: rest => do
    refuseIf (id ∈ seen) 400 "provider group ids must be unique"
    refuseIf (id ∉ available) 400 "provider group not found"
    validateEachGroup available (id :: seen) rest

def validateProviderGroupIds (ids : List Nat) (available : Finset Nat) : Except Answer Unit := do
  refuseIf (ids = []) 400 "at least one provider group is required"
  validateEachGroup available [] ids

def validateProviderGroupAssignments (assignments : List GroupAssignment) (available : Finset Nat) :
    Except Answer Unit := do
  validateProviderGroupIds (assignments.map GroupAssignment.groupId) available
  refuseIf (assignments.any fun assignment => assignment.priorityOverride.any fun value => value.1 < 0)
    400 "group priority override must be greater than or equal to 0"

def allowedProviderTypes : List String :=
  ["openai", "openai_compatible", "openai_codex_oauth", "openai_compatible_responses"]

def isValidKeySelectionStrategy (value : String) : Bool :=
  value ∈ ["round_robin", "ordered", "weighted"]

def normalizeBetaFeatures (features : List String) : List String :=
  if (features.map trim).contains "responses-http-to-ws" then ["responses-http-to-ws"] else []

def validateAllowedUpstreams (fails : DbStep → Bool) (store : AdminStore Overrides)
    (ids : List Nat) : Except Answer Unit := do
  query fails .listUpstreamProviders
  refuseIf (¬ ids.Nodup ∨ ids.any fun id => (store.providers.lookup id).isNone) 400
    "allowed_provider_ids must contain unique existing upstream IDs"

section Provider

variable (validateOverrides : Overrides → Except String Unit)

/-- The row with the fields of the patch, each checked where the handler takes it over. -/
def patchedProvider (current : ProviderRow Overrides) (patch : PatchProviderReq Overrides) (now : Int) :
    Except Answer (ProviderRow Overrides) := do
  refuseIf (patch.keySelectionStrategy = some "weighted" ∧
    current.keySelectionStrategy ≠ "weighted") 400
    "weighted keys are read-only legacy configuration"
  refuseIf (patch.name.any fun name => trim name = "") 400 "name is empty"
  refuseIf (patch.providerType.any fun value => trim value = "") 400 "provider_type is empty"
  refuseIf (patch.providerType.any fun value => trim value ∉ allowedProviderTypes) 400
    "invalid provider_type"
  match patch.requestOverrides.map validateOverrides with
  | some (.error message) => refuse 400 message
  | some (.ok _) | none => pure ()
  refuseIf (patch.keySelectionStrategy.any fun value => !isValidKeySelectionStrategy (trim value))
    400 "invalid key_selection_strategy"
  pure {
    name := (patch.name.map trim).getD current.name
    providerType := (patch.providerType.map trim).getD current.providerType
    enabled := patch.enabled.getD current.enabled
    priority := patch.priority.getD current.priority
    weight := patch.weight.getD current.weight
    supportsIncludeUsage := patch.supportsIncludeUsage.getD current.supportsIncludeUsage
    websocketEnabled := patch.websocketEnabled.getD current.websocketEnabled
    betaFeatures := (patch.betaFeatures.map normalizeBetaFeatures).getD current.betaFeatures
    requestOverrides := patch.requestOverrides.getD current.requestOverrides
    keySelectionStrategy := (patch.keySelectionStrategy.map trim).getD current.keySelectionStrategy
    maxAttempts := ((patch.maxRetries.map (· + 1)).or patch.maxAttempts).getD current.maxAttempts
    maxConcurrency := patch.maxConcurrency.getD current.maxConcurrency
    circuitBreakerEnabled := patch.circuitBreakerEnabled.getD current.circuitBreakerEnabled
    circuitBreakerFailureThreshold :=
      patch.circuitBreakerFailureThreshold.getD current.circuitBreakerFailureThreshold
    circuitBreakerOpenMs := patch.circuitBreakerOpenMs.getD current.circuitBreakerOpenMs
    circuitBreakerHalfOpenSuccessThreshold :=
      patch.circuitBreakerHalfOpenSuccessThreshold.getD
        current.circuitBreakerHalfOpenSuccessThreshold
    updatedAtMs := now }

def checkedProvider (fails : DbStep → Bool) (store : AdminStore Overrides) (id : Nat) (modern : Bool)
    (patch : PatchProviderReq Overrides) (now : Int) : Except Answer (ProviderRow Overrides) := do
  refuseIf (modern ∧ (patch.priority.isSome ∨ patch.weight.isSome ∨ patch.groups.isSome)) 400
    "upstream scheduling belongs to model routes"
  refuseIf (patch.groups.any fun groups => groups.any fun group => group.priorityOverride.isSome) 409
    "group priority overrides have been removed; use model routes"
  refuseIf ((patch.maxRetries.any fun count => ¬ (0 ≤ count ∧ count ≤ 2)) ∨
    (patch.requestTimeoutMs.join.any fun timeout => ¬ (1 ≤ timeout ∧ timeout ≤ 3600000))) 400
    "invalid retries or request timeout"
  validateProviderRouting patch.priority patch.weight
  query fails .listUpstreamProviders
  match store.providers.lookup id with
  | none => refuse 404 "provider not found"
  | some current =>
    let row ← patchedProvider validateOverrides current patch now
    validateProviderResilience row
    match patch.groups with
    | none => pure row
    | some assignments =>
      query fails .listProviderGroups
      validateProviderGroupAssignments assignments store.auth.groups
      pure row

end Provider

def checkedApiKey (fails : DbStep → Bool) (store : AdminStore Overrides) (id : Nat)
    (patch : PatchApiKeyReq) (now : Int) : Except Answer ApiKeyRow := do
  query fails .findApiKeyById
  match store.apiKeys.lookup id with
  | none => refuse 404 "api key not found"
  | some current =>
    if patch.providerGroupIds.isSome then
      query fails .authorizationIsDirect
      refuseIf (id ∈ store.auth.direct) 409 "authorization migrated: edit allowed_provider_ids"
      refuseIf patch.allowedProviderIds.isSome 409 "conflicting authorization fields"
    match patch.allowedProviderIds with
    | some ids => validateAllowedUpstreams fails store ids
    | none => pure ()
    let name := patch.name.getD current.name
    refuseIf (trim name = "") 400 "name is empty"
    query fails .listProviderGroups
    match patch.providerGroupIds with
    | some ids => validateProviderGroupIds ids store.auth.groups
    | none => pure ()
    pure {
      name := trim name
      enabled := patch.enabled.getD current.enabled
      expiresAtMs := patch.expiresAtMs.getD current.expiresAtMs
      logEnabled := patch.logEnabled.getD current.logEnabled
      updatedAtMs := now }

def always (_ : AdminStore Overrides) : Bool := true

/-- `refresh_compat_authorizations` when no one else is writing. -/
def refreshCompatAuthorizations (store : AdminStore Overrides) : AdminStore Overrides :=
  let auth := store.auth
  { store with
    auth := { auth with
      recorded := auth.recorded ∪ auth.keys
      allowed := auth.allowed \ deletedRows auth auth ∪ insertedRows auth auth } }

def replaceProviderGroupMemberships (provider : Nat) (assignments : List GroupAssignment)
    (store : AdminStore Overrides) : AdminStore Overrides :=
  let rows := assignments.map fun assignment => (assignment.groupId, provider)
  { store with
    auth := { store.auth with
      providerGroups := store.auth.providerGroups.filter (·.2 ≠ provider) ∪ rows.toFinset } }

def replaceApiKeyProviderGroups (key : Nat) (groups : List Nat) (store : AdminStore Overrides) :
    AdminStore Overrides :=
  let rows := groups.map fun group => (key, group)
  { store with
    auth := { store.auth with
      keyGroups := store.auth.keyGroups.filter (·.1 ≠ key) ∪ rows.toFinset } }

def replaceAllowedProviders (key : Nat) (ids : List Nat) (store : AdminStore Overrides) :
    AdminStore Overrides :=
  let rows := ids.map fun id => (key, id)
  { store with
    auth := { store.auth with
      recorded := insert key store.auth.recorded
      direct := insert key store.auth.direct
      allowed := store.auth.allowed.filter (·.1 ≠ key) ∪ rows.toFinset } }

/-- The target of the provider in the policy for `*` moves to the end of the targets. -/
def updateDefaultRouteTarget (provider : Nat) (priority weight : I32) (legacyWeighted : Bool)
    (store : AdminStore Overrides) : AdminStore Overrides :=
  match store.policies.lookup "*" with
  | none => store
  | some policy =>
    let others := policy.targets.filter fun target => target.providerId ≠ (provider : Int)
    { store with
      policies := store.policies.insert "*" { policy with
        mode := if legacyWeighted then "weighted" else policy.mode
        targets := others ++ [{ providerId := provider, priority, weight }] } }

def saveRequestOptions (provider : Nat) (timeout : Option (Option Nat)) (failover : Option Bool)
    (store : AdminStore Overrides) : AdminStore Overrides :=
  let stored := (store.requestOptions.lookup provider).getD (none, true)
  { store with
    requestOptions := store.requestOptions.insert provider
      (timeout.getD stored.1, failover.getD stored.2) }

def upsertModelRoute (model : String) (body : UpsertRouteReq) (now : Int)
    (store : AdminStore Overrides) : AdminStore Overrides :=
  { store with
    routes := store.routes.insert model
      { enabled := body.enabled, providerIds := body.providerIds.dedup, updatedAtMs := now } }

def groupStages (id : Nat) (patch : PatchProviderReq Overrides) : List (AdminStage Overrides) :=
  match patch.groups with
  | none => []
  | some assignments =>
    [.write .replaceProviderGroupMemberships always (replaceProviderGroupMemberships id assignments),
      .write .refreshMemberships always refreshCompatAuthorizations]

/-- `sync_legacy_provider_route`, which finds no row to update where there is no policy for `*`. -/
def routeTargetStages (id : Nat) (row : ProviderRow Overrides) (patch : PatchProviderReq Overrides) :
    List (AdminStage Overrides) :=
  if patch.priority.isSome || patch.weight.isSome then
    [.write .updateDefaultRouteTarget (fun store => (store.policies.lookup "*").isSome)
        (updateDefaultRouteTarget id row.priority row.weight patch.weight.isSome),
      .write .refreshRouteTarget always refreshCompatAuthorizations,
      .empty .apiKeys]
  else []

def optionStages (id : Nat) (patch : PatchProviderReq Overrides) : List (AdminStage Overrides) :=
  if patch.requestTimeoutMs.isSome || patch.endpointFailover.isSome then
    [.query .requestOptions,
      .write .saveRequestOptions always
        (saveRequestOptions id patch.requestTimeoutMs patch.endpointFailover)]
  else []

def purgeStages (id : Nat) (row : ProviderRow Overrides) : List (AdminStage Overrides) :=
  if row.enabled then [] else [.empty (.affinity id), .empty (.providerRuntime id)]

def providerStages (id : Nat) (row : ProviderRow Overrides) (patch : PatchProviderReq Overrides) :
    List (AdminStage Overrides) :=
  .write .updateUpstreamProvider always
      (fun store => { store with providers := store.providers.insert id row }) ::
    (groupStages id patch ++ routeTargetStages id row patch ++ optionStages id patch ++
      .empty .apiKeys :: purgeStages id row) ++ [.empty .upstream]

def keyGroupStages (id : Nat) (patch : PatchApiKeyReq) : List (AdminStage Overrides) :=
  match patch.providerGroupIds with
  | none => []
  | some groups =>
    [.write .replaceApiKeyProviderGroups always (replaceApiKeyProviderGroups id groups),
      .write .refreshApiKeyGroups always refreshCompatAuthorizations]

def allowedStages (id : Nat) (patch : PatchApiKeyReq) : List (AdminStage Overrides) :=
  match patch.allowedProviderIds with
  | none => []
  | some ids => [.write .replaceAllowedProviders always (replaceAllowedProviders id ids)]

def apiKeyStages (id : Nat) (row : ApiKeyRow) (patch : PatchApiKeyReq) : List (AdminStage Overrides) :=
  .write .updateApiKey always
      (fun store => { store with apiKeys := store.apiKeys.insert id row }) ::
    (keyGroupStages id patch ++ allowedStages id patch) ++ [.empty .apiKeys]

/-- `adapt_legacy_route`. A route that is off or empty loses its policy; any other gets the default
policy with its own providers, if there is one. -/
def adaptStages (store : AdminStore Overrides) (model : String) (body : UpsertRouteReq) :
    List (AdminStage Overrides) :=
  if !body.enabled || body.providerIds.isEmpty then
    [.write .deleteRoutePolicy always fun store =>
      { store with policies := if model = "*" then store.policies else store.policies.erase model }]
  else
    .query .routePolicies :: match store.policies.lookup "*" with
      | none => []
      | some default =>
        let targets := default.targets.filter fun target =>
          body.providerIds.any fun id => target.providerId = (id : Int)
        [.write .saveRoutePolicy always fun store =>
          { store with
            policies := store.policies.insert model { default with modelName := model, targets } }]

def routeStages (store : AdminStore Overrides) (model : String) (body : UpsertRouteReq) (now : Int) :
    List (AdminStage Overrides) :=
  .write .upsertModelRoute
      (fun store => body.providerIds.all fun id => (store.providers.lookup id).isSome)
      (upsertModelRoute model body now) ::
    adaptStages store model body ++ [.empty .upstream]

inductive AdminRequest (Overrides : Type)
  | updateProvider (id : Nat) (modern : Bool) (patch : PatchProviderReq Overrides)
  | updateApiKey (id : Nat) (patch : PatchApiKeyReq)
  | upsertRoute (model : String) (body : UpsertRouteReq)

section Handle

variable (validateOverrides : Overrides → Except String Unit) (fails : DbStep → Bool)
  (store : AdminStore Overrides) (now : Int)

/-- What a request does once its checks have passed, or the answer that refuses it. -/
def plan : AdminRequest Overrides → Except Answer (List (AdminStage Overrides))
  | .updateProvider id modern patch => do
    let row ← checkedProvider validateOverrides fails store id modern patch now
    pure (providerStages id row patch)
  | .updateApiKey id patch => do
    let row ← checkedApiKey fails store id patch now
    pure (apiKeyStages id row patch)
  | .upsertRoute model body => do
    refuseIf (model = "") 400 "missing model name"
    pure (routeStages store model body now)

def begun : Progress DbStep (AdminStore Overrides) Memory where
  store := store
  committed := []
  unseen := fun _ => []

def handle (request : AdminRequest Overrides) :
    Answer × Progress DbStep (AdminStore Overrides) Memory :=
  match plan validateOverrides fails store now request with
  | .error answer => (answer, begun store)
  | .ok stages =>
    match Stage.perform fails stages (begun store) with
    | (progress, true) => (.ok, progress)
    | (progress, false) => (.failed, progress)

end Handle

end CodexGate.Admin
