import CodexGate.Types

namespace CodexGate.Routing

open Foundation

structure RouteTarget where
  providerId : Int
  priority : I32
  weight : I32

structure RoutePolicy where
  modelName : String
  mode : String
  sticky : Bool
  failover : Bool
  targets : List RouteTarget

structure ProviderModelState where
  enabled : Bool
  available : Bool
  responsesViaChatEnabled : Bool

def ProviderModelState.isActive (state : ProviderModelState) : Bool :=
  state.enabled && state.available

structure ProviderModelAliasTarget where
  providerId : Int
  upstreamModel : String
  enabled : Bool

structure CodexQuotaWindow where
  usedPercent : Float
  remainingPercent : Float
  windowSeconds : Option Int
  resetAtMs : Option Int

structure CodexQuotaSnapshot where
  allowed : Option Bool
  primaryWindow : Option CodexQuotaWindow
  secondaryWindow : Option CodexQuotaWindow
  codeReviewWindow : Option CodexQuotaWindow

namespace CodexQuotaSnapshot

def windows (quota : CodexQuotaSnapshot) : List CodexQuotaWindow :=
  [quota.primaryWindow, quota.secondaryWindow, quota.codeReviewWindow].filterMap id

/-- The last reset among the exhausted windows that are still to come. -/
def blockedUntilMs (quota : CodexQuotaSnapshot) (nowMs : Int) : Option Int :=
  let resets := ((quota.windows.filter (·.remainingPercent ≤ 0.0)).filterMap (·.resetAtMs)).filter
    (· > nowMs)
  match resets with
  | [] => none
  | first :: resets =>
    resets.foldl (fun current reset => some (current.elim reset (max · reset))) (some first)

def isExhaustedWithoutReset (quota : CodexQuotaSnapshot) : Bool :=
  quota.allowed == some false && quota.windows.all (·.resetAtMs.isNone)

end CodexQuotaSnapshot

def codexProviderType : String := "openai_codex_oauth"
def authStatusActive : String := "active"
def authStatusForbidden : String := "forbidden"

structure CodexOAuthRoutingAccount where
  authStatus : String
  quota : Option CodexQuotaSnapshot

def CodexOAuthRoutingAccount.isRoutable (account : CodexOAuthRoutingAccount) (nowMs : Int) : Bool :=
  if account.authStatus ≠ authStatusActive then false
  else
    match account.quota with
    | none => true
    | some quota => (quota.blockedUntilMs nowMs).isNone && !quota.isExhaustedWithoutReset

/-- The tables of the snapshot that routing and admission read. -/
structure UpstreamSnapshot where
  providers : List UpstreamProvider
  routePolicies : HashMap String RoutePolicy
  keysByProvider : HashMap Int (List UpstreamKey)
  endpointsByProvider : HashMap Int (List UpstreamEndpoint)
  routesByModel : HashMap String ModelRoute
  providerModelsByProvider : HashMap Int (HashMap String ProviderModelState)
  aliasToProviderModel : HashMap String ProviderModelAliasTarget
  modelAliasesByName : HashMap String ModelAlias
  aliasTargetsByAlias : HashMap Int (List ModelAliasTarget)
  keyModelsByKey : HashMap Int (HashMap String Bool)
  globallyDisabledModels : List String
  codexOauthByKey : HashMap Int CodexOAuthRoutingAccount

namespace UpstreamSnapshot

def empty : UpstreamSnapshot where
  providers := []
  routePolicies := ∅
  keysByProvider := ∅
  endpointsByProvider := ∅
  routesByModel := ∅
  providerModelsByProvider := ∅
  aliasToProviderModel := ∅
  modelAliasesByName := ∅
  aliasTargetsByAlias := ∅
  keyModelsByKey := ∅
  globallyDisabledModels := []
  codexOauthByKey := ∅

def isModelGloballyEnabled (snap : UpstreamSnapshot) (modelName : String) : Bool :=
  !snap.globallyDisabledModels.contains modelName

def providerModelState (snap : UpstreamSnapshot) (providerId : Int) (upstreamModel : String) :
    Option ProviderModelState :=
  (snap.providerModelsByProvider.lookup providerId).bind (·.lookup upstreamModel)

def keyAllowsModel (snap : UpstreamSnapshot) (keyId : Int) (upstreamModel : String) : Bool :=
  match snap.keyModelsByKey.lookup keyId with
  | some models => if models.entries.isEmpty then true else (models.lookup upstreamModel).getD false
  | none => true

end UpstreamSnapshot

inductive ConversionMode
  | responsesViaChat
  deriving DecidableEq

structure ProtocolPlan where
  clientApiFormat : ApiFormat
  upstreamApiFormat : ApiFormat
  conversion : Option ConversionMode
  deriving DecidableEq

def ProtocolPlan.native (apiFormat : ApiFormat) : ProtocolPlan := ⟨apiFormat, apiFormat, none⟩

def ProtocolPlan.responsesViaChat : ProtocolPlan :=
  ⟨.responses, .chatCompletions, some .responsesViaChat⟩

def providerProtocolPlan (snap : UpstreamSnapshot) (provider : UpstreamProvider)
    (clientApiFormat : ApiFormat) (upstreamModel : String) (allowResponsesViaChat : Bool) :
    Option ProtocolPlan :=
  if provider.providerType = "openai" then some (.native clientApiFormat)
  else if provider.providerType = "openai_compatible" then
    match clientApiFormat with
    | .chatCompletions => some (.native .chatCompletions)
    | .responses =>
      if allowResponsesViaChat && (snap.providerModelState provider.id upstreamModel).any fun state =>
          state.isActive && state.responsesViaChatEnabled then
        some .responsesViaChat
      else none
  else if (provider.providerType = "openai_compatible_responses" ∨
      provider.providerType = codexProviderType) ∧ clientApiFormat = .responses then
    some (.native .responses)
  else none

structure RouteRejection where
  providerId : Option Int
  upstreamModel : String
  stage : String
  code : String
  message : String
  deriving DecidableEq

/-- The rejections of `RouteDiagnostics`; its candidates are filled after the collection. -/
structure RouteDiagnostics where
  rejections : List RouteRejection := []
  deriving DecidableEq

def RouteDiagnostics.reject (diagnostics : RouteDiagnostics) (providerId : Option Int)
    (upstreamModel stage code message : String) : RouteDiagnostics :=
  if diagnostics.rejections.length ≥ 100 then diagnostics
  else ⟨diagnostics.rejections ++ [⟨providerId, upstreamModel, stage, code, message⟩]⟩

structure RouteResolutionError where
  status : Nat
  errorType : String
  code : String
  message : String
  diagnostics : RouteDiagnostics
  retryAtMs : Option Int := none
  deriving DecidableEq

structure ProviderRoute where
  provider : UpstreamProvider
  upstreamModel : String
  routePriority : Option I32
  routeWeight : Option I32
  protocol : ProtocolPlan
  deriving DecidableEq

def providerModelRejection (snap : UpstreamSnapshot) (providerId : Int) (upstreamModel : String) :
    Option (String × String) :=
  match snap.providerModelsByProvider.lookup providerId with
  | none => none
  | some models =>
    match models.lookup upstreamModel with
    | none =>
      some ("provider_model_not_registered", "provider model inventory does not contain this model")
    | some state =>
      if !state.enabled then some ("provider_model_disabled", "provider model is disabled")
      else if !state.available then
        some ("provider_model_unavailable",
          "provider model is not present in the latest synchronized inventory")
      else none

def protocolRejection (snap : UpstreamSnapshot) (provider : UpstreamProvider)
    (apiFormat : ApiFormat) (upstreamModel : String) (allowResponsesViaChat : Bool) :
    String × String :=
  let unsupported := ("provider_protocol_unsupported",
    "provider does not support the requested client API format")
  if provider.providerType = "openai_compatible" ∧ apiFormat = .responses then
    if !allowResponsesViaChat then
      ("provider_protocol_unsupported", "this transport requires a native Responses upstream")
    else if (snap.providerModelState provider.id upstreamModel).any (!·.responsesViaChatEnabled) then
      ("responses_via_chat_disabled",
        "Responses-to-Chat conversion is disabled for this provider model")
    else unsupported
  else unsupported

def routeAllowsProviderForModel (snap : UpstreamSnapshot) (upstreamModel : String)
    (providerId : Int) : Bool :=
  match snap.routePolicies.lookup upstreamModel with
  | some policy => policy.targets.any (·.providerId == providerId)
  | none =>
    if (snap.routePolicies.lookup "*").isSome then true
    else
      match snap.routesByModel.lookup upstreamModel with
      | none => true
      | some route =>
        if !route.enabled || route.providerIds.isEmpty then true
        else route.providerIds.contains providerId

def finishRouteCollection (requestedModel : String) (routes : List ProviderRoute)
    (diagnostics : RouteDiagnostics) (inventoryCandidates routeCandidates : Nat) :
    Except RouteResolutionError (List ProviderRoute × RouteDiagnostics) :=
  if !routes.isEmpty then .ok (routes, diagnostics)
  else if routeCandidates > 0 then
    .error ⟨400, "invalid_request_error", "model_protocol_unsupported",
      s!"Model \"{requestedModel}\" is registered, but no matching provider supports the requested API format or conversion",
      diagnostics, none⟩
  else if inventoryCandidates > 0 then
    .error ⟨503, "upstream_configuration_error", "model_route_unavailable",
      s!"Model \"{requestedModel}\" is registered, but its gateway route excludes all matching providers",
      diagnostics, none⟩
  else if diagnostics.rejections.any fun rejection => rejection.code ∈
      ["provider_model_disabled", "provider_model_unavailable", "alias_target_disabled"] then
    .error ⟨503, "upstream_configuration_error", "model_not_available",
      s!"Model \"{requestedModel}\" exists in synchronized inventory but is disabled or unavailable",
      diagnostics, none⟩
  else
    .error ⟨404, "invalid_request_error", "model_not_found",
      s!"Model \"{requestedModel}\" is not registered by any provider", diagnostics, none⟩

structure RouteScan where
  routes : List ProviderRoute := []
  diagnostics : RouteDiagnostics := {}
  inventoryCandidates : Nat := 0
  routeCandidates : Nat := 0
  seen : List Int := []

def RouteScan.reject (scan : RouteScan) (providerId : Option Int)
    (upstreamModel stage code message : String) : RouteScan :=
  { scan with
    diagnostics := scan.diagnostics.reject providerId upstreamModel stage code message }

def RouteScan.finish (scan : RouteScan) (requestedModel : String) :
    Except RouteResolutionError (List ProviderRoute × RouteDiagnostics) :=
  finishRouteCollection requestedModel scan.routes scan.diagnostics scan.inventoryCandidates
    scan.routeCandidates

section Scan

variable (snap : UpstreamSnapshot) (apiFormat : ApiFormat) (allowResponsesViaChat : Bool)

def scanAliasTarget (mode : String) (scan : RouteScan) (target : ModelAliasTarget) : RouteScan :=
  if !target.enabled then
    scan.reject (some target.providerId) target.upstreamModel "model_inventory"
      "alias_target_disabled" "model alias target is disabled"
  else
    match snap.providers.find? (·.id == target.providerId) with
    | none =>
      scan.reject (some target.providerId) target.upstreamModel "model_inventory"
        "provider_not_found" "model alias target references a missing provider"
    | some provider =>
      match providerModelRejection snap provider.id target.upstreamModel with
      | some (code, message) =>
        scan.reject (some provider.id) target.upstreamModel "model_inventory" code message
      | none =>
        let scan := { scan with inventoryCandidates := scan.inventoryCandidates + 1 }
        if !snap.isModelGloballyEnabled target.upstreamModel ||
            !routeAllowsProviderForModel snap target.upstreamModel target.providerId then
          scan.reject (some provider.id) target.upstreamModel "model_route"
            "model_route_excluded" "gateway model route excludes this provider"
        else
          let scan := { scan with routeCandidates := scan.routeCandidates + 1 }
          match providerProtocolPlan snap provider apiFormat target.upstreamModel
              allowResponsesViaChat with
          | none =>
            let (code, message) := protocolRejection snap provider apiFormat target.upstreamModel
              allowResponsesViaChat
            scan.reject (some provider.id) target.upstreamModel "protocol" code message
          | some protocol =>
            if scan.seen.contains target.providerId then scan
            else
              { scan with
                seen := target.providerId :: scan.seen
                routes := scan.routes ++ [⟨provider, target.upstreamModel, some target.priority,
                  if mode = "weighted" then some target.weight else none, protocol⟩] }

def scanProvider (upstreamModel : String) (forcedProviderId : Option Int) (scan : RouteScan)
    (provider : UpstreamProvider) : RouteScan :=
  if forcedProviderId.any (· ≠ provider.id) then scan
  else
    match providerModelRejection snap provider.id upstreamModel with
    | some (code, message) =>
      scan.reject (some provider.id) upstreamModel "model_inventory" code message
    | none =>
      let scan := { scan with inventoryCandidates := scan.inventoryCandidates + 1 }
      if !routeAllowsProviderForModel snap upstreamModel provider.id then
        scan.reject (some provider.id) upstreamModel "model_route"
          "model_route_excluded" "gateway model route excludes this provider"
      else
        let scan := { scan with routeCandidates := scan.routeCandidates + 1 }
        match providerProtocolPlan snap provider apiFormat upstreamModel allowResponsesViaChat with
        | none =>
          let (code, message) := protocolRejection snap provider apiFormat upstreamModel
            allowResponsesViaChat
          scan.reject (some provider.id) upstreamModel "protocol" code message
        | some protocol =>
          { scan with routes := scan.routes ++ [⟨provider, upstreamModel, none, none, protocol⟩] }

def modelDisabled (requestedModel : String) (diagnostics : RouteDiagnostics) :
    RouteResolutionError :=
  ⟨403, "permission_error", "model_disabled", s!"Model \"{requestedModel}\" is disabled",
    diagnostics, none⟩

def collectProviderRoutesInner (requestedModel : String) :
    Except RouteResolutionError (List ProviderRoute × RouteDiagnostics) :=
  let disabled (providerId : Option Int) (model message : String) :
      Except RouteResolutionError (List ProviderRoute × RouteDiagnostics) :=
    .error (modelDisabled requestedModel
      (RouteDiagnostics.reject {} providerId model "model_policy" "model_disabled" message))
  if !snap.isModelGloballyEnabled requestedModel then
    disabled none requestedModel "model is disabled by the gateway policy"
  else
    match snap.modelAliasesByName.lookup requestedModel with
    | some modelAlias =>
      if !modelAlias.enabled then disabled none requestedModel "model alias is disabled"
      else
        match snap.aliasTargetsByAlias.lookup modelAlias.id with
        | none =>
          .error ⟨404, "invalid_request_error", "model_not_found",
            s!"Model \"{requestedModel}\" has no registered alias targets", {}, none⟩
        | some targets =>
          (targets.foldl (scanAliasTarget snap apiFormat allowResponsesViaChat modelAlias.mode)
            {}).finish requestedModel
    | none =>
      let scanProviders (upstreamModel : String) (forcedProviderId : Option Int) :=
        if !snap.isModelGloballyEnabled upstreamModel then
          disabled forcedProviderId upstreamModel "upstream model is disabled by the gateway policy"
        else
          (snap.providers.foldl (scanProvider snap apiFormat allowResponsesViaChat upstreamModel
            forcedProviderId) {}).finish requestedModel
      match snap.aliasToProviderModel.lookup requestedModel with
      | some target =>
        if !target.enabled then
          disabled (some target.providerId) target.upstreamModel "legacy model alias is disabled"
        else scanProviders target.upstreamModel (some target.providerId)
      | none => scanProviders requestedModel none

end Scan

def retainPolicyTargets (policy : RoutePolicy) :
    List ProviderRoute → RouteDiagnostics → List ProviderRoute × RouteDiagnostics
  | [], diagnostics => ([], diagnostics)
  | route :: routes, diagnostics =>
    if policy.targets.any (·.providerId == route.provider.id) then
      let (kept, diagnostics) := retainPolicyTargets policy routes diagnostics
      (route :: kept, diagnostics)
    else
      retainPolicyTargets policy routes (diagnostics.reject (some route.provider.id)
        route.upstreamModel "model_route" "model_route_excluded"
        "model route excludes this upstream")

def collectProviderRoutes (snap : UpstreamSnapshot) (apiFormat : ApiFormat)
    (requestedModel : String) (allowResponsesViaChat : Bool) :
    Except RouteResolutionError (List ProviderRoute × RouteDiagnostics) :=
  match collectProviderRoutesInner snap apiFormat allowResponsesViaChat requestedModel with
  | .error error => .error error
  | .ok (routes, diagnostics) =>
    match (snap.routePolicies.lookup requestedModel).or (snap.routePolicies.lookup "*") with
    | none => .ok (routes, diagnostics)
    | some policy =>
      let (routes, diagnostics) := retainPolicyTargets policy routes diagnostics
      if routes.isEmpty then
        .error ⟨503, "upstream_configuration_error", "model_route_unavailable",
          "model route has no eligible targets", diagnostics, none⟩
      else .ok (routes, diagnostics)

end CodexGate.Routing
