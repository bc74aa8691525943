import CodexGate.Routing.Collect
import CodexGate.State

namespace CodexGate.Routing

open Foundation Health Provider

structure RoutingAvailability where
  available : Bool
  reason : Option String
  retryAtMs : Option Int
  deriving DecidableEq

def RoutingAvailability.unavailable (reason : String) : RoutingAvailability :=
  ⟨false, some reason, none⟩

def RoutingAvailability.isAvailable : RoutingAvailability := ⟨true, none, none⟩

def legacyRouteAllows (snap : UpstreamSnapshot) (name : String) (providerId : Int) : Bool :=
  (snap.routesByModel.lookup name).all fun route =>
    !route.enabled || route.providerIds.isEmpty || route.providerIds.contains providerId

def accountAllows (snap : UpstreamSnapshot) (provider : UpstreamProvider) (key : UpstreamKey)
    (name : String) : Bool :=
  snap.keyAllowsModel key.id name && snap.isModelGloballyEnabled name &&
    (snap.providerModelsByProvider.lookup provider.id).all (fun models =>
      (models.lookup name).any (·.isActive)) &&
    legacyRouteAllows snap name provider.id

def accountModelAvailable (snap : UpstreamSnapshot) (provider : UpstreamProvider)
    (key : UpstreamKey) (model : Option String) : Bool :=
  match model with
  | some name => accountAllows snap provider key name
  | none =>
    match snap.providerModelsByProvider.lookup provider.id with
    | some models => models.keys.any (accountAllows snap provider key)
    | none =>
      (snap.keyModelsByKey.lookup key.id).all fun models =>
        models.entries.isEmpty || models.keys.any (accountAllows snap provider key)

def codexRejection (snap : UpstreamSnapshot) (key : UpstreamKey) (nowMs : Int) : Option String :=
  match snap.codexOauthByKey.lookup key.id with
  | none => some "reauth_required"
  | some account =>
    if account.authStatus ≠ authStatusActive then
      some (if account.authStatus = authStatusForbidden then "account_forbidden"
        else "reauth_required")
    else if !account.isRoutable nowMs then some "quota_unavailable"
    else none

/-- Reading the quota lets the entry expire, so the state is returned with the answer. -/
def account (state : SharedState) (snap : UpstreamSnapshot) (provider : UpstreamProvider)
    (key : UpstreamKey) (model : Option String) (ownsCapacity : Bool) (nowMs : Int) :
    RoutingAvailability × SharedState :=
  if !provider.enabled then (.unavailable "provider_disabled", state)
  else if !key.enabled then (.unavailable "account_disabled", state)
  else
    match if provider.providerType = codexProviderType then codexRejection snap key nowMs
      else none with
    | some reason => (.unavailable reason, state)
    | none =>
      let (quotaAvailable, quota) := state.quota.isAvailable key.id nowMs
      let state := { state with quota := quota }
      if !quotaAvailable then (.unavailable "quota_unavailable", state)
      else if !accountModelAvailable snap provider key model then
        (.unavailable "no_allowed_models", state)
      else
        let runtime := state.providerRuntime.snapshot provider nowMs
        if runtime.state = .opened then (.unavailable "provider_circuit_open", state)
        else if !ownsCapacity && !runtime.available then
          (.unavailable (if runtime.state = .halfOpen then "recovery_probe_in_progress"
            else "provider_capacity_exhausted"), state)
        else if !(state.upstreamKeyHealth.snapshot key.id nowMs).available then
          (.unavailable "account_unhealthy", state)
        else if !(snap.endpointsByProvider.lookup provider.id).any (fun endpoints =>
            endpoints.any fun endpoint => endpoint.enabled &&
              (state.endpointHealth.snapshot endpoint.id nowMs).available) then
          (.unavailable "no_available_endpoint", state)
        else (.isAvailable, state)

section Routes

variable {snap : UpstreamSnapshot} {apiFormat : ApiFormat} {allowResponsesViaChat : Bool}

structure Admitted (snap : UpstreamSnapshot) (route : ProviderRoute) : Prop where
  inventory : providerModelRejection snap route.provider.id route.upstreamModel = none
  enabled : snap.isModelGloballyEnabled route.upstreamModel = true
  allowed : routeAllowsProviderForModel snap route.upstreamModel route.provider.id = true

def AllAdmitted (snap : UpstreamSnapshot) (scan : RouteScan) : Prop :=
  ∀ route ∈ scan.routes, Admitted snap route

theorem scanAliasTarget_admitted (mode : String) (scan : RouteScan) (target : ModelAliasTarget)
    (admitted : AllAdmitted snap scan) :
    AllAdmitted snap (scanAliasTarget snap apiFormat allowResponsesViaChat mode scan target) := by
  unfold scanAliasTarget
  split
  · exact admitted
  split
  · exact admitted
  rename_i provider found
  have same : provider.id = target.providerId := by
    simpa using List.find?_some found
  split
  · exact admitted
  rename_i inventory
  dsimp only
  split
  · exact admitted
  rename_i passed
  simp only [Bool.or_eq_true, Bool.not_eq_true', not_or, Bool.not_eq_false] at passed
  split
  · exact admitted
  split
  · exact admitted
  intro route member
  rcases List.mem_append.mp member with member | member
  · exact admitted route member
  · rw [List.mem_singleton] at member
    subst member
    exact ⟨inventory, passed.1, same ▸ passed.2⟩

theorem scanProvider_admitted (upstreamModel : String) (forcedProviderId : Option Int)
    (enabled : snap.isModelGloballyEnabled upstreamModel = true) (scan : RouteScan)
    (provider : UpstreamProvider) (admitted : AllAdmitted snap scan) :
    AllAdmitted snap (scanProvider snap apiFormat allowResponsesViaChat upstreamModel
      forcedProviderId scan provider) := by
  unfold scanProvider
  split
  · exact admitted
  split
  · exact admitted
  rename_i inventory
  dsimp only
  split
  · exact admitted
  rename_i allowed
  simp only [Bool.not_eq_true', Bool.not_eq_false] at allowed
  split
  · exact admitted
  intro route member
  rcases List.mem_append.mp member with member | member
  · exact admitted route member
  · rw [List.mem_singleton] at member
    subst member
    exact ⟨inventory, enabled, allowed⟩

theorem foldl_admitted {α : Type} (scanOne : RouteScan → α → RouteScan)
    (keeps : ∀ scan candidate, AllAdmitted snap scan → AllAdmitted snap (scanOne scan candidate))
    (candidates : List α) (scan : RouteScan) (admitted : AllAdmitted snap scan) :
    AllAdmitted snap (candidates.foldl scanOne scan) := by
  induction candidates generalizing scan with
  | nil => exact admitted
  | cons candidate rest ih => exact ih _ (keeps scan candidate admitted)

theorem finish_routes {scan : RouteScan} {requestedModel : String} {routes : List ProviderRoute}
    {diagnostics : RouteDiagnostics}
    (finished : scan.finish requestedModel = .ok (routes, diagnostics)) : routes = scan.routes := by
  unfold RouteScan.finish finishRouteCollection at finished
  split at finished
  · cases finished
    rfl
  split at finished
  · cases finished
  split at finished
  · cases finished
  split at finished <;> cases finished

theorem collectInner_admitted {requestedModel : String} {routes : List ProviderRoute}
    {diagnostics : RouteDiagnostics}
    (collected : collectProviderRoutesInner snap apiFormat allowResponsesViaChat requestedModel =
      .ok (routes, diagnostics)) : ∀ route ∈ routes, Admitted snap route := by
  have fromScan : ∀ scan : RouteScan, AllAdmitted snap scan →
      scan.finish requestedModel = .ok (routes, diagnostics) →
      ∀ route ∈ routes, Admitted snap route := by
    intro scan admitted finished
    rw [finish_routes finished]
    exact admitted
  have nothing : AllAdmitted snap {} := by
    intro route member
    cases member
  have fromProviders : ∀ upstreamModel forcedProviderId,
      snap.isModelGloballyEnabled upstreamModel = true →
      (snap.providers.foldl (scanProvider snap apiFormat allowResponsesViaChat upstreamModel
        forcedProviderId) {}).finish requestedModel = .ok (routes, diagnostics) →
      ∀ route ∈ routes, Admitted snap route := by
    intro upstreamModel forcedProviderId enabled
    exact fromScan _ (foldl_admitted _ (scanProvider_admitted _ _ enabled) _ _ nothing)
  unfold collectProviderRoutesInner at collected
  dsimp only at collected
  split at collected
  · cases collected
  rename_i requestedEnabled
  split at collected
  · split at collected
    · cases collected
    split at collected
    · cases collected
    exact fromScan _ (foldl_admitted _ (scanAliasTarget_admitted _) _ _ nothing) collected
  · split at collected
    · split at collected
      · cases collected
      split at collected
      · cases collected
      rename_i enabled
      exact fromProviders _ _ (by simpa using enabled) collected
    · exact fromProviders _ _ (by simpa using requestedEnabled) collected

theorem retainPolicyTargets_subset (policy : RoutePolicy) (routes : List ProviderRoute)
    (diagnostics : RouteDiagnostics) : (retainPolicyTargets policy routes diagnostics).1 ⊆ routes := by
  induction routes generalizing diagnostics with
  | nil => exact List.Subset.refl _
  | cons route routes ih =>
    unfold retainPolicyTargets
    split
    · exact List.cons_subset_cons route (ih diagnostics)
    · exact List.subset_cons_of_subset route (ih _)

theorem collect_admitted {requestedModel : String} {routes : List ProviderRoute}
    {diagnostics : RouteDiagnostics}
    (collected : collectProviderRoutes snap apiFormat requestedModel allowResponsesViaChat =
      .ok (routes, diagnostics)) {route : ProviderRoute} (returned : route ∈ routes) :
    Admitted snap route := by
  unfold collectProviderRoutes at collected
  split at collected
  · cases collected
  rename_i inner innerDiagnostics gathered
  have admitted := collectInner_admitted gathered
  split at collected
  · cases collected
    exact admitted route returned
  dsimp only at collected
  split at collected
  · cases collected
  cases collected
  exact admitted route (retainPolicyTargets_subset _ _ _ returned)

/-- Everything but the model tables speaks for the account. -/
structure Ready (state : SharedState) (snap : UpstreamSnapshot) (provider : UpstreamProvider)
    (key : UpstreamKey) (upstreamModel : String) (nowMs : Int) : Prop where
  providerEnabled : provider.enabled = true
  keyEnabled : key.enabled = true
  keyAllows : snap.keyAllowsModel key.id upstreamModel = true
  providerAvailable : (state.providerRuntime.snapshot provider nowMs).available = true
  keyAvailable : (state.upstreamKeyHealth.snapshot key.id nowMs).available = true
  endpointAvailable : ∃ endpoints, snap.endpointsByProvider.lookup provider.id = some endpoints ∧
    ∃ endpoint ∈ endpoints, endpoint.enabled = true ∧
      (state.endpointHealth.snapshot endpoint.id nowMs).available = true
  quotaAvailable : (state.quota.isAvailable key.id nowMs).1 = true
  codexRoutable : provider.providerType = codexProviderType → ∃ oauthAccount,
    snap.codexOauthByKey.lookup key.id = some oauthAccount ∧ oauthAccount.isRoutable nowMs = true

theorem snapshot_available_not_open {book : ProviderRuntimeBook} {provider : UpstreamProvider}
    {nowMs : Int} (available : (book.snapshot provider nowMs).available = true) :
    (book.snapshot provider nowMs).state ≠ .opened := by
  unfold ProviderRuntimeBook.snapshot at *
  split at available
  · simp
  · rename_i state _
    intro opened
    simp only [ProviderRuntimeState.toView] at opened available
    simp [opened] at available

theorem codexRejection_routable {key : UpstreamKey} {nowMs : Int}
    (routable : ∃ oauthAccount, snap.codexOauthByKey.lookup key.id = some oauthAccount ∧
      oauthAccount.isRoutable nowMs = true) : codexRejection snap key nowMs = none := by
  obtain ⟨oauthAccount, found, usable⟩ := routable
  have active : oauthAccount.authStatus = authStatusActive := by
    by_cases active : oauthAccount.authStatus = authStatusActive
    · exact active
    · simp [CodexOAuthRoutingAccount.isRoutable, active] at usable
  simp [codexRejection, found, active, usable]

theorem account_ready {state : SharedState} {provider : UpstreamProvider} {key : UpstreamKey}
    {upstreamModel : String} {nowMs : Int}
    (ready : Ready state snap provider key upstreamModel nowMs) :
    (account state snap provider key (some upstreamModel) false nowMs).1.available =
      accountAllows snap provider key upstreamModel := by
  have codex : (if provider.providerType = codexProviderType then codexRejection snap key nowMs
      else none) = none := by
    split
    · rename_i isCodex
      exact codexRejection_routable (ready.codexRoutable isCodex)
    · rfl
  have notOpen := snapshot_available_not_open ready.providerAvailable
  obtain ⟨endpoints, found, endpoint, member, enabled, healthy⟩ := ready.endpointAvailable
  have endpoint : (snap.endpointsByProvider.lookup provider.id).any (fun endpoints =>
      endpoints.any fun endpoint => endpoint.enabled &&
        (state.endpointHealth.snapshot endpoint.id nowMs).available) = true := by
    rw [found, Option.any_some, List.any_eq_true]
    exact ⟨endpoint, member, by rw [enabled, healthy]; rfl⟩
  cases allows : accountAllows snap provider key upstreamModel with
  | false =>
    simp [account, ready.providerEnabled, ready.keyEnabled, codex, ready.quotaAvailable,
      accountModelAvailable, allows, RoutingAvailability.unavailable]
  | true =>
    simp [account, ready.providerEnabled, ready.keyEnabled, codex, ready.quotaAvailable,
      accountModelAvailable, allows, notOpen, ready.providerAvailable, ready.keyAvailable, endpoint,
      RoutingAvailability.isAvailable]

theorem admitted_active {route : ProviderRoute} (admitted : Admitted snap route) :
    (snap.providerModelsByProvider.lookup route.provider.id).all (fun models =>
      (models.lookup route.upstreamModel).any (·.isActive)) = true := by
  have inventory := admitted.inventory
  unfold providerModelRejection at inventory
  split at inventory
  · rename_i absent
    rw [absent]
    rfl
  rename_i models found
  split at inventory
  · cases inventory
  rename_i state registered
  rw [found, Option.all_some, registered, Option.any_some]
  cases enabled : state.enabled <;> cases available : state.available <;>
    simp_all [ProviderModelState.isActive]

theorem legacy_of_no_policy {route : ProviderRoute} (admitted : Admitted snap route)
    (noPolicy : snap.routePolicies.lookup route.upstreamModel = none)
    (noDefault : snap.routePolicies.lookup "*" = none) :
    legacyRouteAllows snap route.upstreamModel route.provider.id = true := by
  have allowed := admitted.allowed
  unfold routeAllowsProviderForModel at allowed
  simp only [noPolicy, noDefault, Option.isSome_none, Bool.false_eq_true, if_false] at allowed
  unfold legacyRouteAllows
  split at allowed
  · rename_i absent
    rw [absent]
    rfl
  · rename_i row found
    rw [found, Option.all_some]
    split at allowed
    · rename_i inactive
      rw [inactive]
      rfl
    · rw [allowed, Bool.or_true]

/-- Route collection and account admission agree exactly on the routes whose legacy row, if there
    is an enabled one with providers, names the provider. Without a policy it always does. -/
theorem account_agrees_iff_legacy_row (state : SharedState) {requestedModel : String}
    {routes : List ProviderRoute} {diagnostics : RouteDiagnostics}
    (collected : collectProviderRoutes snap apiFormat requestedModel allowResponsesViaChat =
      .ok (routes, diagnostics)) {route : ProviderRoute} (returned : route ∈ routes)
    {key : UpstreamKey} {nowMs : Int}
    (ready : Ready state snap route.provider key route.upstreamModel nowMs) :
    ((account state snap route.provider key (some route.upstreamModel) false nowMs).1.available =
        true ↔ legacyRouteAllows snap route.upstreamModel route.provider.id = true) ∧
      (snap.routePolicies.lookup route.upstreamModel = none → snap.routePolicies.lookup "*" = none →
        (account state snap route.provider key (some route.upstreamModel) false nowMs).1.available =
          true) := by
  have admitted := collect_admitted collected returned
  have agrees : (account state snap route.provider key (some route.upstreamModel) false
      nowMs).1.available = legacyRouteAllows snap route.upstreamModel route.provider.id := by
    rw [account_ready ready, accountAllows, ready.keyAllows, admitted.enabled,
      admitted_active admitted]
    rfl
  refine ⟨by rw [agrees], fun noPolicy noDefault => ?_⟩
  rw [agrees]
  exact legacy_of_no_policy admitted noPolicy noDefault

def movedProvider : UpstreamProvider where
  id := 1
  providerType := "openai"
  enabled := true
  maxConcurrency := none
  circuitBreakerEnabled := true
  circuitBreakerFailureThreshold := i32 3
  circuitBreakerOpenMs := 30000
  circuitBreakerHalfOpenSuccessThreshold := i32 1

def movedSnapshot (legacyIds : List Int) : UpstreamSnapshot :=
  { UpstreamSnapshot.empty with
    providers := [movedProvider]
    routePolicies := (∅ : HashMap String RoutePolicy).insert "m"
      ⟨"m", "ordered", true, true, [⟨1, i32 100, i32 1⟩]⟩
    endpointsByProvider := (∅ : HashMap Int (List UpstreamEndpoint)).insert 1 [⟨5, 1, true⟩]
    routesByModel := (∅ : HashMap String ModelRoute).insert "m" ⟨"m", true, legacyIds⟩ }

def idleState : SharedState where
  endpointHealth := .new 3 30000
  upstreamKeyHealth := .new 3 30000
  providerRuntime := .new
  quota := .new
  metrics := ⟨0, 0⟩

theorem movedSnapshot_ready (legacyIds : List Int) :
    Ready idleState (movedSnapshot legacyIds) movedProvider ⟨7, 1, true⟩ "m" 0 where
  providerEnabled := rfl
  keyEnabled := rfl
  keyAllows := rfl
  providerAvailable := rfl
  keyAvailable := rfl
  endpointAvailable := ⟨_, rfl, _, List.mem_singleton.mpr rfl, rfl, rfl⟩
  quotaAvailable := rfl
  codexRoutable isCodex := absurd isCodex (by decide)

theorem movedSnapshot_collected (legacyIds : List Int) :
    collectProviderRoutes (movedSnapshot legacyIds) .responses "m" false =
      .ok ([⟨movedProvider, "m", none, none, .native .responses⟩], {}) := rfl

/-- With a legacy row that names the provider too, the account is available. -/
theorem account_agrees_iff_legacy_row_named :
    (account idleState (movedSnapshot [2, 1]) movedProvider ⟨7, 1, true⟩ (some "m") false
      0).1.available = true :=
  (account_agrees_iff_legacy_row idleState (movedSnapshot_collected [2, 1])
    (List.mem_singleton.mpr rfl) (movedSnapshot_ready [2, 1])).1.mpr rfl

/-- The policy admits the provider and the legacy row rejects its account. -/
theorem account_rejects_policy_route :
    collectProviderRoutes (movedSnapshot [2]) .responses "m" false =
        .ok ([⟨movedProvider, "m", none, none, .native .responses⟩], {}) ∧
      Ready idleState (movedSnapshot [2]) movedProvider ⟨7, 1, true⟩ "m" 0 ∧
      (account idleState (movedSnapshot [2]) movedProvider ⟨7, 1, true⟩ (some "m") false 0).1 =
        .unavailable "no_allowed_models" :=
  ⟨movedSnapshot_collected [2], movedSnapshot_ready [2], rfl⟩

end Routes

end CodexGate.Routing
