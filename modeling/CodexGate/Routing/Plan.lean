import CodexGate.Resilience
import CodexGate.Routing.Affinity
import CodexGate.Routing.RetryAt
import Mathlib.Data.List.Sort

namespace CodexGate.Routing

open Foundation Health Provider Resilience

def maxDistinctProviders : Nat := maxAttempts

structure SchedulableProvider where
  route : ProviderRoute
  effectivePriority : Int
  effectiveWeight : Int
  keys : List UpstreamKey
  endpoints : List UpstreamEndpoint

structure ResolvedUpstream where
  upstreamModel : String
  provider : UpstreamProvider
  endpoint : UpstreamEndpoint
  key : UpstreamKey
  protocol : ProtocolPlan

structure UpstreamPlan where
  sticky : Bool
  attempts : List ResolvedUpstream
  transientSpillProviderIds : List Int
  diagnostics : RouteDiagnostics

/-- The columns of the configuration that only the plan and its attempts read, by the id of the
    row. -/
structure PlanColumns where
  endpointFailover : Int → Bool
  endpointPriority : Int → I32
  maxAttempts : Int → I32

/-- The orders that random draws decide. `rankKeys` is `rank_key_refs_with_health` followed by
    `order_keys_for_provider`, called for the providers one after the other. -/
structure PlanOrders where
  rankKeys : Nat → List UpstreamKey → List UpstreamKey
  orderSchedulableProviders : List SchedulableProvider → Option Int → List SchedulableProvider

structure PlanScan where
  state : SharedState
  affinity : AffinityBook
  diagnostics : RouteDiagnostics
  schedulable : List SchedulableProvider := []
  transientSpillProviderIds : List Int := []
  keyReadyProviders : Nat := 0
  staticReadyProviders : Nat := 0

def PlanScan.reject (scan : PlanScan) (route : ProviderRoute) (stage code message : String) :
    PlanScan :=
  { scan with
    diagnostics := scan.diagnostics.reject (some route.provider.id) route.upstreamModel stage code
      message }

def PlanScan.spill (scan : PlanScan) (providerId : Int) : PlanScan :=
  { scan with transientSpillProviderIds := scan.transientSpillProviderIds.insert providerId }

def retainRoutes (passes : ProviderRoute → Bool) (stage code message : String) :
    List ProviderRoute → RouteDiagnostics → List ProviderRoute × RouteDiagnostics
  | [], diagnostics => ([], diagnostics)
  | route :: routes, diagnostics =>
    if passes route then
      let (kept, diagnostics) := retainRoutes passes stage code message routes diagnostics
      (route :: kept, diagnostics)
    else
      retainRoutes passes stage code message routes
        (diagnostics.reject (some route.provider.id) route.upstreamModel stage code message)

def routesRetryAt (snap : UpstreamSnapshot) (nowMs : Int) :
    SharedState → List ProviderRoute → List Int × SharedState
  | state, [] => ([], state)
  | state, route :: routes =>
    let (retryAtMs, state) :=
      providerRetryAt state snap route.provider (some route.upstreamModel) nowMs
    let (moments, state) := routesRetryAt snap nowMs state routes
    (retryAtMs.toList ++ moments, state)

section Route

variable (snap : UpstreamSnapshot) (columns : PlanColumns) (orders : PlanOrders)
  (policy : Option RoutePolicy) (requestedModel : String) (identity : Option AffinityIdentity)
  (nowMs : Int)

def availableKeys (route : ProviderRoute) : PlanScan → List UpstreamKey → List UpstreamKey × PlanScan
  | scan, [] => ([], scan)
  | scan, key :: keys =>
    let (availability, state) :=
      account scan.state snap route.provider key (some route.upstreamModel) false nowMs
    let scan := { scan with state := state }
    if availability.available then
      let (kept, scan) := availableKeys route scan keys
      (key :: kept, scan)
    else
      availableKeys route (scan.reject route "runtime"
        (availability.reason.getD "account_unavailable")
        "upstream account or its connection path is temporarily unavailable") keys

def rankEndpoints (state : SharedState) (endpoints : List UpstreamEndpoint) :
    List UpstreamEndpoint :=
  (endpoints.filter fun endpoint => endpoint.enabled &&
    (state.endpointHealth.snapshot endpoint.id nowMs).available).mergeSort fun left right =>
      decide ((columns.endpointPriority left.id).val < (columns.endpointPriority right.id).val ∨
        (columns.endpointPriority left.id).val = (columns.endpointPriority right.id).val ∧
          left.id ≤ right.id)

def effectivePriority (route : ProviderRoute) : Int :=
  let target := policy.bind fun policy => policy.targets.find? (·.providerId == route.provider.id)
  let configured := target.elim 100 (·.priority.val)
  if policy.any (·.modelName ≠ "*") then configured
  else route.routePriority.elim configured (·.val)

def effectiveWeight (route : ProviderRoute) : Int :=
  let target := policy.bind fun policy => policy.targets.find? (·.providerId == route.provider.id)
  let configured := target.elim 1 (·.weight.val)
  let weighted :=
    match policy.filter (·.modelName ≠ "*") with
    | some explicit => explicit.mode == "weighted"
    | none =>
      match snap.modelAliasesByName.lookup requestedModel with
      | some modelAlias => modelAlias.mode == "weighted"
      | none => policy.any (·.mode == "weighted")
  if !weighted then 0
  else if policy.any (·.modelName ≠ "*") then max configured 1
  else max (route.routeWeight.elim configured (·.val)) 1

def scheduleRoute (scan : PlanScan) (route : ProviderRoute) (enabledModelKeys : List UpstreamKey)
    (endpoints : List UpstreamEndpoint) : PlanScan :=
  let provider := route.provider
  let (avoided, affinity) := scan.affinity.avoids identity provider.id nowMs
  let scan := { scan with affinity := affinity }
  if avoided then
    scan.reject route "runtime" "affinity_provider_avoided"
      "provider is temporarily avoided for this affinity identity"
  else
    let providerRuntime := scan.state.providerRuntime.snapshot provider nowMs
    if !providerRuntime.available then
      match providerRuntime.state with
      | .opened => scan.reject route "runtime" "provider_circuit_open" "provider circuit is open"
      | .halfOpen =>
        scan.reject route "runtime" "recovery_probe_in_progress"
          "provider recovery probe is already in progress"
      | .closed =>
        (scan.spill provider.id).reject route "runtime" "provider_capacity_exhausted"
          "provider concurrency capacity is exhausted"
    else
      let (keys, scan) := availableKeys snap nowMs route scan enabledModelKeys
      if keys.isEmpty then scan.spill provider.id
      else
        let rankedKeys := orders.rankKeys scan.staticReadyProviders keys
        if rankedKeys.isEmpty then
          (scan.spill provider.id).reject route "runtime" "no_healthy_upstream_key"
            "all model-capable upstream keys are unhealthy or circuit-open"
        else
          let ranked := rankEndpoints columns nowMs scan.state endpoints
          let rankedEndpoints := if columns.endpointFailover provider.id then ranked else ranked.take 1
          if rankedEndpoints.isEmpty then
            scan.reject route "runtime" "no_healthy_upstream_endpoint"
              "all enabled upstream endpoints are unhealthy or circuit-open"
          else if policy.any fun policy => policy.modelName ≠ "*" &&
              !policy.targets.any (·.providerId == provider.id) then scan
          else
            { scan with schedulable := scan.schedulable ++ [{
                route := route
                effectivePriority := effectivePriority policy route
                effectiveWeight := effectiveWeight snap policy requestedModel route
                keys := rankedKeys
                endpoints := rankedEndpoints }] }

def modelKeys (route : ProviderRoute) : List UpstreamKey :=
  ((snap.keysByProvider.lookup route.provider.id).getD []).filter fun key =>
    snap.keyAllowsModel key.id route.upstreamModel

def planRoute (scan : PlanScan) (route : ProviderRoute) : PlanScan :=
  let keys := modelKeys snap route
  if keys.isEmpty then
    scan.reject route "static_configuration" "no_upstream_key_for_model"
      "provider has no upstream key registered for this model"
  else
    let enabledModelKeys := keys.filter (·.enabled)
    if enabledModelKeys.isEmpty then
      scan.reject route "static_configuration" "no_enabled_upstream_key"
        "all upstream keys registered for this model are disabled"
    else
      let scan := { scan with keyReadyProviders := scan.keyReadyProviders + 1 }
      let endpoints := enabledEndpoints snap route.provider
      if endpoints.isEmpty then
        scan.reject route "static_configuration" "no_enabled_upstream_endpoint"
          "provider has no enabled upstream endpoint"
      else
        scheduleRoute snap columns orders policy requestedModel identity nowMs
          { scan with staticReadyProviders := scan.staticReadyProviders + 1 } route enabledModelKeys
          endpoints

end Route

def buildScheduledAttempts (ordered : List SchedulableProvider) : List ResolvedUpstream :=
  (ordered.take maxDistinctProviders).flatMap fun scheduled =>
    (scheduled.endpoints.take maxAttempts).flatMap fun endpoint =>
      (scheduled.keys.take maxAttempts).map fun key => {
        upstreamModel := scheduled.route.upstreamModel
        provider := scheduled.route.provider
        endpoint := endpoint
        key := key
        protocol := scheduled.route.protocol }

def retainFirstProvider (policy : Option RoutePolicy) (attempts : List ResolvedUpstream) :
    List ResolvedUpstream :=
  match attempts with
  | [] => []
  | first :: _ =>
    if policy.any (!·.failover) then attempts.filter (·.provider.id == first.provider.id)
    else attempts

def temporarilyUnavailable (requestedModel : String) (diagnostics : RouteDiagnostics)
    (retryAtMs : Option Int) : RouteResolutionError :=
  ⟨503, "upstream_unavailable", "all_upstreams_temporarily_unavailable",
    s!"All upstream targets for model \"{requestedModel}\" are temporarily unavailable",
    diagnostics, retryAtMs⟩

def PlanScan.finish (scan : PlanScan) (orders : PlanOrders) (policy : Option RoutePolicy)
    (requestedModel : String) (affinityProviderId retryAtMs : Option Int) :
    Except RouteResolutionError UpstreamPlan :=
  if scan.schedulable.isEmpty then
    if scan.keyReadyProviders = 0 then
      .error ⟨503, "upstream_configuration_error", "no_upstream_key_for_model",
        s!"Model \"{requestedModel}\" has no enabled upstream key registered for this model",
        scan.diagnostics, none⟩
    else if scan.staticReadyProviders = 0 then
      .error ⟨503, "upstream_configuration_error", "no_enabled_upstream_endpoint",
        s!"Model \"{requestedModel}\" has no enabled upstream endpoint", scan.diagnostics, none⟩
    else .error (temporarilyUnavailable requestedModel scan.diagnostics retryAtMs)
  else
    let attempts := retainFirstProvider policy
      (buildScheduledAttempts (orders.orderSchedulableProviders scan.schedulable affinityProviderId))
    if attempts.isEmpty then
      .error (temporarilyUnavailable requestedModel scan.diagnostics retryAtMs)
    else
      .ok {
        sticky := policy.all (·.sticky)
        attempts := attempts
        transientSpillProviderIds := scan.transientSpillProviderIds
        diagnostics := scan.diagnostics }

/-- The plan over the snapshot in the cache; a snapshot that cannot be loaded is an error before. -/
def buildUpstreamPlan (state : SharedState) (affinity : AffinityBook) (snap : UpstreamSnapshot)
    (columns : PlanColumns) (orders : PlanOrders) (apiFormat : ApiFormat) (requestedModel : String)
    (allowedProviderIds : List Int) (identity : Option AffinityIdentity)
    (allowResponsesViaChat : Bool) (nowMs : Int) :
    Except RouteResolutionError UpstreamPlan × SharedState × AffinityBook :=
  match collectProviderRoutes snap apiFormat requestedModel allowResponsesViaChat with
  | .error error => (.error error, state, affinity)
  | .ok (routes, diagnostics) =>
    let policy := (snap.routePolicies.lookup requestedModel).or (snap.routePolicies.lookup "*")
    let identity := if policy.all (·.sticky) then identity else none
    let (authorizedRoutes, diagnostics) :=
      retainRoutes (fun route => allowedProviderIds.contains route.provider.id) "authorization"
        "provider_denied" "API key does not allow this upstream" routes diagnostics
    if authorizedRoutes.isEmpty then
      (.error ⟨403, "permission_error", "model_not_authorized",
        s!"Model \"{requestedModel}\" is registered, but this API key is not authorized for any matching provider",
        diagnostics, none⟩, state, affinity)
    else
      let (enabledRoutes, diagnostics) :=
        retainRoutes (·.provider.enabled) "static_configuration" "provider_disabled"
          "provider is disabled" authorizedRoutes diagnostics
      if enabledRoutes.isEmpty then
        (.error ⟨503, "upstream_configuration_error", "no_enabled_upstream_provider",
          s!"Model \"{requestedModel}\" has no enabled upstream provider", diagnostics, none⟩,
          state, affinity)
      else
        let (moments, state) := routesRetryAt snap nowMs state enabledRoutes
        let (binding, affinity) := affinity.binding identity nowMs
        let scan := enabledRoutes.foldl
          (planRoute snap columns orders policy requestedModel identity nowMs)
          { state := state, affinity := affinity, diagnostics := diagnostics }
        (scan.finish orders policy requestedModel (binding.map (·.providerId)) moments.min?,
          scan.state, scan.affinity)

end CodexGate.Routing
