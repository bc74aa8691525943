import CodexGate.Routing.Plan

namespace CodexGate.Routing

open Foundation Health Provider

section Registry

variable (snap : UpstreamSnapshot)

def servesModel (provider : UpstreamProvider) (upstreamModel : String) (nowMs : Int)
    (key : UpstreamKey) : Bool :=
  key.enabled && snap.keyAllowsModel key.id upstreamModel &&
    (provider.providerType != codexProviderType ||
      (snap.codexOauthByKey.lookup key.id).any (·.isRoutable nowMs))

/-- `active_targets`, with the models of the inventories in any order. -/
def activeTargets (nowMs : Int) : List (Int × String) :=
  (snap.providers.filter (·.enabled)).flatMap fun provider =>
    match snap.providerModelsByProvider.lookup provider.id, snap.keysByProvider.lookup provider.id with
    | some models, some keys =>
      (models.entries.filter fun entry => entry.2.isActive && snap.isModelGloballyEnabled entry.1 &&
        keys.any (servesModel snap provider entry.1 nowMs)).map fun entry => (provider.id, entry.1)
    | _, _ => []

def activeAliases (active : List (Int × String)) : List String :=
  ((snap.modelAliasesByName.entries.map (·.2)).filter fun modelAlias =>
    modelAlias.enabled && snap.isModelGloballyEnabled modelAlias.name &&
      (snap.aliasTargetsByAlias.lookup modelAlias.id).any fun targets =>
        targets.any fun target => target.enabled && snap.isModelGloballyEnabled target.upstreamModel &&
          active.contains (target.providerId, target.upstreamModel)).map (·.name)

def activeLegacyAliases (active : List (Int × String)) : List String :=
  (snap.aliasToProviderModel.entries.filter fun entry =>
    entry.2.enabled && snap.isModelGloballyEnabled entry.1 &&
      snap.isModelGloballyEnabled entry.2.upstreamModel &&
      active.contains (entry.2.providerId, entry.2.upstreamModel)).map (·.1)

/-- The names of the registry in order and each of them once, as a `BTreeSet` keeps them. -/
def rebuildModelRegistryIds (nowMs : Int) : List String :=
  let active := activeTargets snap nowMs
  ((active.map (·.2) ++ activeAliases snap active ++ activeLegacyAliases snap active).dedup).mergeSort

def listsRoute (allowedProviderIds : List Int) (route : ProviderRoute) : Bool :=
  route.provider.enabled && allowedProviderIds.contains route.provider.id &&
    (snap.keysByProvider.lookup route.provider.id).any fun keys =>
      keys.any fun key => key.enabled && snap.keyAllowsModel key.id route.upstreamModel

def listsModel (allowedProviderIds : List Int) (model : String) : Bool :=
  [ApiFormat.chatCompletions, .responses].any fun format =>
    match collectProviderRoutes snap format model true with
    | .ok (routes, _) => routes.any (listsRoute snap allowedProviderIds)
    | .error _ => false

/-- The `data` of `list_models`, by the ids: every other member of an entry is a constant. -/
def listModels (loadedAtMs : Int) (allowedProviderIds : List Int) : List String :=
  (rebuildModelRegistryIds snap loadedAtMs).filter (listsModel snap allowedProviderIds)

end Registry

section Plans

variable {snap : UpstreamSnapshot} {columns : PlanColumns} {orders : PlanOrders}
  {policy : Option RoutePolicy} {requestedModel : String} {identity : Option AffinityIdentity}
  {nowMs : Int}

theorem retainRoutes_eq (passes : ProviderRoute → Bool) (stage code message : String)
    (routes : List ProviderRoute) (diagnostics : RouteDiagnostics) :
    (retainRoutes passes stage code message routes diagnostics).1 = routes.filter passes := by
  induction routes generalizing diagnostics with
  | nil => rfl
  | cons route routes ih =>
    unfold retainRoutes
    by_cases kept : passes route = true
    · simp [kept, ih]
    · simp [kept, ih]

/-- The counters of the loop, and whether it has scheduled anything. -/
def PlanScan.tally (scan : PlanScan) : Nat × Nat × List SchedulableProvider :=
  (scan.keyReadyProviders, scan.staticReadyProviders, scan.schedulable)

theorem availableKeys_tally (route : ProviderRoute) (scan : PlanScan) (keys : List UpstreamKey) :
    (availableKeys snap nowMs route scan keys).2.tally = scan.tally := by
  induction keys generalizing scan with
  | nil => rfl
  | cons key keys ih =>
    unfold availableKeys
    dsimp only
    split
    · exact ih _
    · exact ih _

def StaticReady (snap : UpstreamSnapshot) (route : ProviderRoute) : Prop :=
  (modelKeys snap route).filter (·.enabled) ≠ [] ∧ enabledEndpoints snap route.provider ≠ []

instance (snap : UpstreamSnapshot) (route : ProviderRoute) : Decidable (StaticReady snap route) :=
  inferInstanceAs (Decidable (_ ∧ _))

theorem scheduleRoute_counters (scan : PlanScan) (route : ProviderRoute) (keys : List UpstreamKey)
    (endpoints : List UpstreamEndpoint) :
    (scheduleRoute snap columns orders policy requestedModel identity nowMs scan route keys
        endpoints).keyReadyProviders = scan.keyReadyProviders ∧
      (scheduleRoute snap columns orders policy requestedModel identity nowMs scan route keys
        endpoints).staticReadyProviders = scan.staticReadyProviders := by
  have kept : ∀ scan : PlanScan,
      (availableKeys snap nowMs route scan keys).2.keyReadyProviders = scan.keyReadyProviders ∧
        (availableKeys snap nowMs route scan keys).2.staticReadyProviders =
          scan.staticReadyProviders := by
    intro scan
    have tally := @availableKeys_tally snap nowMs route scan keys
    simp only [PlanScan.tally, Prod.mk.injEq] at tally
    exact ⟨tally.1, tally.2.1⟩
  unfold scheduleRoute
  dsimp only
  split
  · exact ⟨rfl, rfl⟩
  split
  · split <;> exact ⟨rfl, rfl⟩
  -- from here on only the keys are read
  repeat' split
  all_goals exact kept _

structure Tallied (snap : UpstreamSnapshot) (passed : List ProviderRoute) (scan : PlanScan) :
    Prop where
  static : 0 < scan.staticReadyProviders ↔ ∃ route ∈ passed, StaticReady snap route
  ready : scan.staticReadyProviders ≤ scan.keyReadyProviders
  scheduled : scan.schedulable ≠ [] → 0 < scan.staticReadyProviders

theorem planRoute_tallied {passed : List ProviderRoute} {scan : PlanScan}
    (tallied : Tallied snap passed scan) (route : ProviderRoute) :
    Tallied snap (passed ++ [route])
      (planRoute snap columns orders policy requestedModel identity nowMs scan route) := by
  have unready : ¬StaticReady snap route → ((∃ other ∈ passed ++ [route], StaticReady snap other) ↔
      ∃ other ∈ passed, StaticReady snap other) := by
    intro unready
    simp [List.mem_append, or_and_right, exists_or, unready]
  unfold planRoute
  dsimp only
  split
  · rename_i keyless
    have keyless : modelKeys snap route = [] := List.isEmpty_iff.mp keyless
    have notReady : ¬StaticReady snap route := fun ready => ready.1 (by rw [keyless]; rfl)
    exact ⟨tallied.static.trans (unready notReady).symm, tallied.ready, tallied.scheduled⟩
  split
  · rename_i keyless
    have notReady : ¬StaticReady snap route := fun ready => ready.1 (List.isEmpty_iff.mp keyless)
    exact ⟨tallied.static.trans (unready notReady).symm, tallied.ready, tallied.scheduled⟩
  split
  · rename_i bare
    have notReady : ¬StaticReady snap route := fun ready => ready.2 (List.isEmpty_iff.mp bare)
    exact ⟨tallied.static.trans (unready notReady).symm, Nat.le_succ_of_le tallied.ready,
      tallied.scheduled⟩
  · rename_i keyed served
    have ready : StaticReady snap route := by
      simp only [List.isEmpty_iff] at keyed served
      exact ⟨keyed, served⟩
    obtain ⟨keyReady, staticReady⟩ := @scheduleRoute_counters snap columns orders policy
      requestedModel identity nowMs { scan with
        keyReadyProviders := scan.keyReadyProviders + 1
        staticReadyProviders := scan.staticReadyProviders + 1 } route
      ((modelKeys snap route).filter (·.enabled)) (enabledEndpoints snap route.provider)
    refine ⟨?_, ?_, ?_⟩
    · rw [staticReady]
      exact iff_of_true (Nat.succ_pos _) ⟨route, List.mem_append_right _ (by simp), ready⟩
    · rw [staticReady, keyReady]
      exact Nat.succ_le_succ tallied.ready
    · rw [staticReady]
      exact fun _ => Nat.succ_pos _

theorem planRoutes_tallied {passed : List ProviderRoute} {scan : PlanScan}
    (tallied : Tallied snap passed scan) (routes : List ProviderRoute) :
    Tallied snap (passed ++ routes)
      (routes.foldl (planRoute snap columns orders policy requestedModel identity nowMs) scan) := by
  induction routes generalizing passed scan with
  | nil => simpa using tallied
  | cons route routes ih => simpa using ih (planRoute_tallied tallied route)

def transientCode : String := "all_upstreams_temporarily_unavailable"

/-- The plan exists, or nothing but the state at the moment keeps it from existing. -/
def Served (result : Except RouteResolutionError UpstreamPlan) : Prop :=
  match result with
  | .ok _ => True
  | .error error => error.code = transientCode

theorem not_served {error : RouteResolutionError} (code : error.code ≠ transientCode) :
    ¬Served (.error error) := code

theorem finish_served_iff {routes : List ProviderRoute} {scan : PlanScan}
    (tallied : Tallied snap routes scan) (affinityProviderId retryAtMs : Option Int) :
    Served (scan.finish orders policy requestedModel affinityProviderId retryAtMs) ↔
      ∃ route ∈ routes, StaticReady snap route := by
  rw [← tallied.static]
  unfold PlanScan.finish
  split
  · split
    · rename_i none
      have ready := tallied.ready
      exact iff_of_false (not_served (by decide : "no_upstream_key_for_model" ≠ transientCode))
        (by omega)
    split
    · rename_i none
      exact iff_of_false (not_served (by decide : "no_enabled_upstream_endpoint" ≠ transientCode))
        (by omega)
    · rename_i some
      exact iff_of_true rfl (by omega)
  · rename_i scheduled
    have static := tallied.scheduled (by simpa using scheduled)
    dsimp only
    split
    · exact iff_of_true rfl static
    · exact iff_of_true trivial static

def Static (result : Except RouteResolutionError (List ProviderRoute × RouteDiagnostics)) : Prop :=
  ∀ error, result = .error error → error.code ≠ transientCode

def routeCodes : List String :=
  ["model_disabled", "model_protocol_unsupported", "model_route_unavailable", "model_not_available",
    "model_not_found"]

def Coded (result : Except RouteResolutionError (List ProviderRoute × RouteDiagnostics)) : Prop :=
  ∀ error, result = .error error → error.code ∈ routeCodes

theorem coded_error {error : RouteResolutionError} (code : error.code ∈ routeCodes) :
    Coded (.error error) := by
  rintro _ ⟨⟩
  exact code

theorem coded_ok (collection : List ProviderRoute × RouteDiagnostics) : Coded (.ok collection) := by
  rintro _ ⟨⟩

theorem finish_coded (scan : RouteScan) (requestedModel : String) :
    Coded (scan.finish requestedModel) := by
  unfold RouteScan.finish finishRouteCollection
  split
  · exact coded_ok _
  split
  · exact coded_error (by decide : "model_protocol_unsupported" ∈ routeCodes)
  split
  · exact coded_error (by decide : "model_route_unavailable" ∈ routeCodes)
  split
  · exact coded_error (by decide : "model_not_available" ∈ routeCodes)
  · exact coded_error (by decide : "model_not_found" ∈ routeCodes)

theorem collectInner_coded (snap : UpstreamSnapshot) (apiFormat : ApiFormat)
    (allowResponsesViaChat : Bool) (requestedModel : String) :
    Coded (collectProviderRoutesInner snap apiFormat allowResponsesViaChat requestedModel) := by
  have disabled : ∀ diagnostics, Coded (.error (modelDisabled requestedModel diagnostics)) :=
    fun _ => coded_error (by decide : "model_disabled" ∈ routeCodes)
  unfold collectProviderRoutesInner
  dsimp only
  split
  · exact disabled _
  split
  · split
    · exact disabled _
    split
    · exact coded_error (by decide : "model_not_found" ∈ routeCodes)
    · exact finish_coded _ _
  split
  · split
    · exact disabled _
    split
    · exact disabled _
    · exact finish_coded _ _
  · exact finish_coded _ _

theorem collect_coded (snap : UpstreamSnapshot) (apiFormat : ApiFormat) (requestedModel : String)
    (allowResponsesViaChat : Bool) :
    Coded (collectProviderRoutes snap apiFormat requestedModel allowResponsesViaChat) := by
  have inner := collectInner_coded snap apiFormat allowResponsesViaChat requestedModel
  unfold collectProviderRoutes
  split
  · rename_i error failed
    exact coded_error (inner error failed)
  split
  · exact coded_ok _
  dsimp only
  split
  · exact coded_error (by decide : "model_route_unavailable" ∈ routeCodes)
  · exact coded_ok _

theorem collect_static (snap : UpstreamSnapshot) (apiFormat : ApiFormat) (requestedModel : String)
    (allowResponsesViaChat : Bool) :
    Static (collectProviderRoutes snap apiFormat requestedModel allowResponsesViaChat) := by
  intro error failed transient
  have code := collect_coded snap apiFormat requestedModel allowResponsesViaChat error failed
  rw [transient] at code
  exact absurd code (by decide)

theorem buildUpstreamPlan_served_iff (state : SharedState) (affinity : AffinityBook)
    (snap : UpstreamSnapshot) (columns : PlanColumns) (orders : PlanOrders) (apiFormat : ApiFormat)
    (requestedModel : String) (allowedProviderIds : List Int)
    (identity : Option AffinityIdentity) (allowResponsesViaChat : Bool) (nowMs : Int) :
    Served (buildUpstreamPlan state affinity snap columns orders apiFormat requestedModel
        allowedProviderIds identity allowResponsesViaChat nowMs).1 ↔
      ∃ routes diagnostics, collectProviderRoutes snap apiFormat requestedModel
          allowResponsesViaChat = .ok (routes, diagnostics) ∧
        ∃ route ∈ routes, allowedProviderIds.contains route.provider.id = true ∧
          route.provider.enabled = true ∧ StaticReady snap route := by
  unfold buildUpstreamPlan
  cases collected : collectProviderRoutes snap apiFormat requestedModel allowResponsesViaChat with
  | error error =>
    have static := collect_static snap apiFormat requestedModel allowResponsesViaChat error collected
    exact iff_of_false static (by rintro ⟨_, _, ⟨⟩, _⟩)
  | ok collection =>
    obtain ⟨routes, diagnostics⟩ := collection
    have retained : (∃ gathered trace, (Except.ok (routes, diagnostics) : Except RouteResolutionError
          (List ProviderRoute × RouteDiagnostics)) = .ok (gathered, trace) ∧
        ∃ route ∈ gathered, allowedProviderIds.contains route.provider.id = true ∧
          route.provider.enabled = true ∧ StaticReady snap route) ↔
        ∃ route ∈ (routes.filter fun route => allowedProviderIds.contains route.provider.id).filter
          (·.provider.enabled), StaticReady snap route := by
      simp only [List.mem_filter, and_assoc]
      constructor
      · rintro ⟨_, _, ⟨⟩, found⟩
        exact found
      · exact fun found => ⟨routes, diagnostics, rfl, found⟩
    rw [retained]
    simp only [retainRoutes_eq]
    split
    · rename_i none
      rw [List.isEmpty_iff.mp none]
      exact iff_of_false (not_served (by decide : "model_not_authorized" ≠ transientCode)) (by simp)
    split
    · rename_i none
      rw [List.isEmpty_iff.mp none]
      exact iff_of_false (not_served (by decide : "no_enabled_upstream_provider" ≠ transientCode))
        (by simp)
    · have initial : ∀ state affinity diagnostics, Tallied snap []
          { state := state, affinity := affinity, diagnostics := diagnostics } :=
        fun _ _ _ => ⟨by simp, le_refl 0, by simp⟩
      exact finish_served_iff (planRoutes_tallied (initial _ _ _) _) _ _

theorem listsRoute_iff (allowedProviderIds : List Int) (route : ProviderRoute) :
    listsRoute snap allowedProviderIds route = true ↔ route.provider.enabled = true ∧
      allowedProviderIds.contains route.provider.id = true ∧
        (modelKeys snap route).filter (·.enabled) ≠ [] := by
  unfold listsRoute modelKeys
  rw [Bool.and_eq_true, Bool.and_eq_true, and_assoc]
  cases snap.keysByProvider.lookup route.provider.id with
  | none => simp
  | some keys => simp

/-- What is listed is served in one of the formats just when some route that lists it has an
    enabled endpoint. -/
theorem listed_served_iff (state : SharedState) (affinity : AffinityBook) (snap : UpstreamSnapshot)
    (columns : PlanColumns) (orders : PlanOrders) (identity : Option AffinityIdentity)
    (allowedProviderIds : List Int) (loadedAtMs nowMs : Int) (model : String) :
    (model ∈ listModels snap loadedAtMs allowedProviderIds →
        ∃ format, Served (buildUpstreamPlan state affinity snap columns orders format model
          allowedProviderIds identity true nowMs).1) ↔
      (model ∈ listModels snap loadedAtMs allowedProviderIds →
        ∃ format routes diagnostics,
          collectProviderRoutes snap format model true = .ok (routes, diagnostics) ∧
            ∃ route ∈ routes, listsRoute snap allowedProviderIds route = true ∧
              enabledEndpoints snap route.provider ≠ []) := by
  refine imp_congr_right fun _ => exists_congr fun format => ?_
  rw [buildUpstreamPlan_served_iff]
  refine exists₂_congr fun routes diagnostics => and_congr_right fun _ => exists_congr fun route =>
    and_congr_right fun _ => ?_
  rw [listsRoute_iff, StaticReady]
  tauto

def detachedSnapshot : UpstreamSnapshot :=
  { UpstreamSnapshot.empty with
    providers := [movedProvider]
    providerModelsByProvider := (∅ : HashMap Int (HashMap String ProviderModelState)).insert 1
      ((∅ : HashMap String ProviderModelState).insert "m" ⟨true, true, false⟩)
    keysByProvider := (∅ : HashMap Int (List UpstreamKey)).insert 1 [⟨7, 1, true⟩]
    endpointsByProvider := (∅ : HashMap Int (List UpstreamEndpoint)).insert 1 [⟨5, 1, false⟩] }

def givenOrders : PlanOrders where
  rankKeys _ keys := keys
  orderSchedulableProviders providers _ := providers

/-- The model is listed, and a request for it fails for good in both formats. -/
theorem detached_listed :
    "m" ∈ listModels detachedSnapshot 0 [1] ∧
      ¬∃ format, Served (buildUpstreamPlan idleState (.new 1800000 10000) detachedSnapshot
        ⟨fun _ => true, fun _ => ⟨100, by decide⟩, fun _ => ⟨2, by decide⟩⟩ givenOrders format "m" [1] none true 0).1 := by
  constructor
  · have ids : rebuildModelRegistryIds detachedSnapshot 0 = ["m"] := by
      have active : activeTargets detachedSnapshot 0 = [(1, "m")] := rfl
      have names : (["m"] ++ activeAliases detachedSnapshot [(1, "m")] ++
          activeLegacyAliases detachedSnapshot [(1, "m")]).dedup = ["m"] := rfl
      rw [rebuildModelRegistryIds, active, List.map_singleton, names, List.mergeSort_singleton]
    rw [listModels, ids]
    decide
  · rintro ⟨format, served⟩
    cases format with
    | chatCompletions => exact absurd served (by decide : "no_enabled_upstream_endpoint" ≠ transientCode)
    | responses => exact absurd served (by decide : "no_enabled_upstream_endpoint" ≠ transientCode)

end Plans

end CodexGate.Routing
