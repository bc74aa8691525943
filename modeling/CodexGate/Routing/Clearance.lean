import CodexGate.Routing.Admission

namespace CodexGate.Routing

open Foundation Health Provider

section Readings

variable {snap : UpstreamSnapshot} {nowMs : Int} {state current last : SharedState}

theorem Reread.trans (first : Reread nowMs state current) (second : Reread nowMs current last) :
    Reread nowMs state last := by
  obtain ⟨quota, same, rfl⟩ := first
  obtain ⟨later, again, rfl⟩ := second
  exact ⟨later, same.trans again, rfl⟩

theorem isAvailable_sameFrom (book : QuotaBook) (keyId nowMs : Int) :
    QuotaBook.SameFrom nowMs book (book.isAvailable keyId nowMs).2 := by
  have same : (book.isAvailable keyId nowMs).2 = (book.snapshot keyId nowMs).2 := by
    unfold QuotaBook.isAvailable QuotaBook.snapshot
    cases book.byKey.lookup keyId <;> rfl
  rw [same]
  exact book.snapshot_sameFrom keyId nowMs

theorem account_reread (state : SharedState) (provider : UpstreamProvider) (key : UpstreamKey)
    (model : Option String) : Reread nowMs state (account state snap provider key model false nowMs).2 := by
  have read : Reread nowMs state { state with quota := (state.quota.isAvailable key.id nowMs).2 } :=
    ⟨_, isAvailable_sameFrom state.quota key.id nowMs, rfl⟩
  unfold account
  split
  · exact .refl nowMs state
  split
  · exact .refl nowMs state
  split
  · exact .refl nowMs state
  dsimp only
  repeat' split
  all_goals exact read

theorem routesRetryAt_reread (routes : List ProviderRoute) (state : SharedState) :
    Reread nowMs state (routesRetryAt snap nowMs state routes).2 := by
  induction routes generalizing state with
  | nil => exact .refl nowMs state
  | cons route routes ih => exact providerRetryAt_eq.2.trans (ih _)

end Readings

/-- All that has been checked of a target before it is attempted. -/
structure Cleared (inputs : PlanInputs) (target : ResolvedUpstream) : Prop where
  admitted : ∃ route, Admitted inputs.snap route ∧ route.provider = target.provider ∧
    route.upstreamModel = target.upstreamModel
  authorized : target.provider.id ∈ inputs.allowedProviderIds
  targeted : ∀ policy, inputs.policy = some policy → policy.modelName ≠ "*" →
    policy.targets.any (·.providerId == target.provider.id) = true
  key : target.key ∈ (inputs.snap.keysByProvider.lookup target.provider.id).getD []
  account : (account inputs.state inputs.snap target.provider target.key (some target.upstreamModel)
    false inputs.nowMs).1.available = true
  endpoint : target.endpoint ∈ enabledEndpoints inputs.snap target.provider
  endpointAvailable :
    (inputs.state.endpointHealth.snapshot target.endpoint.id inputs.nowMs).available = true

namespace PlanInputs

variable {inputs : PlanInputs} {scan : PlanScan} {route : ProviderRoute}

structure Schedules (inputs : PlanInputs) (entry : SchedulableProvider) : Prop where
  route : entry.route ∈ inputs.enabledRoutes.1
  targeted : ∀ policy, inputs.policy = some policy → policy.modelName ≠ "*" →
    policy.targets.any (·.providerId == entry.route.provider.id) = true
  keys : ∀ key ∈ entry.keys, key ∈ modelKeys inputs.snap entry.route ∧
    (account inputs.state inputs.snap entry.route.provider key (some entry.route.upstreamModel) false
      inputs.nowMs).1.available = true
  endpoints : ∀ endpoint ∈ entry.endpoints,
    endpoint ∈ enabledEndpoints inputs.snap entry.route.provider ∧
      (inputs.state.endpointHealth.snapshot endpoint.id inputs.nowMs).available = true

/-- The loop has only reread the state, and everything it has scheduled is cleared. -/
structure Clears (inputs : PlanInputs) (scan : PlanScan) : Prop where
  reread : Reread inputs.nowMs inputs.state scan.state
  schedulable : ∀ entry ∈ scan.schedulable, inputs.Schedules entry

theorem Clears.reject (clears : inputs.Clears scan) (route : ProviderRoute)
    (stage code message : String) : inputs.Clears (scan.reject route stage code message) :=
  ⟨clears.reread, clears.schedulable⟩

theorem availableKeys_clears (clears : inputs.Clears scan) (route : ProviderRoute)
    (keys : List UpstreamKey) :
    inputs.Clears (availableKeys inputs.snap inputs.nowMs route scan keys).2 ∧
      ∀ key ∈ (availableKeys inputs.snap inputs.nowMs route scan keys).1, key ∈ keys ∧
        (account inputs.state inputs.snap route.provider key (some route.upstreamModel) false
          inputs.nowMs).1.available = true := by
  induction keys generalizing scan with
  | nil => exact ⟨clears, fun _ none => absurd none List.not_mem_nil⟩
  | cons key keys ih =>
    have moved : inputs.Clears { scan with state := (account scan.state inputs.snap route.provider key
        (some route.upstreamModel) false inputs.nowMs).2 } :=
      ⟨clears.reread.trans (account_reread _ _ _ _), clears.schedulable⟩
    unfold availableKeys
    dsimp only
    split
    · rename_i passes
      obtain ⟨kept, rest⟩ := ih moved
      refine ⟨kept, fun other member => ?_⟩
      rcases List.mem_cons.mp member with rfl | later
      · exact ⟨List.mem_cons_self, (clears.reread.account (le_refl _)).mp passes⟩
      · exact ⟨List.mem_cons_of_mem _ (rest other later).1, (rest other later).2⟩
    · refine ⟨(ih (moved.reject _ _ _ _)).1, fun other member => ?_⟩
      have later := (ih (moved.reject _ _ _ _)).2 other member
      exact ⟨List.mem_cons_of_mem _ later.1, later.2⟩

theorem mem_enabledRoutes (member : route ∈ inputs.enabledRoutes.1) :
    Admitted inputs.snap route ∧ route.provider.id ∈ inputs.allowedProviderIds := by
  unfold enabledRoutes at member
  split at member
  · cases member
  rename_i routes diagnostics collected
  simp only [retainRoutes_eq, List.mem_filter, List.contains_eq_mem, decide_eq_true_eq] at member
  exact ⟨collect_admitted collected member.1.1, member.1.2⟩

theorem retainFirstProvider_subset (policy : Option RoutePolicy) (attempts : List ResolvedUpstream) :
    retainFirstProvider policy attempts ⊆ attempts := by
  unfold retainFirstProvider
  split
  · exact List.Subset.refl _
  split
  · exact fun target member => List.mem_of_mem_filter member
  · exact List.Subset.refl _

section Ranked

variable (ranks : ∀ count keys, inputs.rankKeys count keys ⊆ keys)

include ranks

theorem scheduleRoute_clears (clears : inputs.Clears scan)
    (enabled : route ∈ inputs.enabledRoutes.1) {keys : List UpstreamKey}
    (registered : keys ⊆ modelKeys inputs.snap route) :
    inputs.Clears (scheduleRoute inputs.snap inputs.columns inputs.orders inputs.policy
      inputs.requestedModel inputs.stickyIdentity inputs.nowMs scan route keys
      (enabledEndpoints inputs.snap route.provider)) := by
  unfold scheduleRoute
  dsimp only
  split
  · exact ⟨clears.reread, clears.schedulable⟩
  split
  · split <;> exact ⟨clears.reread, clears.schedulable⟩
  obtain ⟨kept, passed⟩ := @availableKeys_clears inputs
    { scan with affinity := (scan.affinity.avoids inputs.stickyIdentity route.provider.id inputs.nowMs).2 }
    ⟨clears.reread, clears.schedulable⟩ route keys
  generalize availableKeys inputs.snap inputs.nowMs route _ keys = read at kept passed ⊢
  split
  · exact ⟨kept.reread, kept.schedulable⟩
  split
  · exact ⟨kept.reread, kept.schedulable⟩
  generalize ranking : rankEndpoints inputs.columns inputs.nowMs read.2.state
    (enabledEndpoints inputs.snap route.provider) = ranked
  have few : (if inputs.columns.endpointFailover route.provider.id = true then ranked
      else ranked.take 1) ⊆ ranked := by
    split
    · exact List.Subset.refl _
    · exact List.take_subset 1 ranked
  generalize (if inputs.columns.endpointFailover route.provider.id = true then ranked
    else ranked.take 1) = chosen at few ⊢
  split
  · exact ⟨kept.reread, kept.schedulable⟩
  split
  · exact kept
  rename_i named
  refine ⟨kept.reread, fun entry member => ?_⟩
  rcases List.mem_append.mp member with before | here
  · exact kept.schedulable entry before
  rw [List.mem_singleton.mp here]
  refine ⟨enabled, fun policy known explicit => ?_, fun key taken => ?_, fun endpoint taken => ?_⟩
  · simpa [known, explicit] using named
  · have held := passed key (ranks _ _ taken)
    exact ⟨registered held.1, held.2⟩
  · have listed := few taken
    obtain ⟨quota, -, same⟩ := kept.reread
    rw [← ranking, rankEndpoints, List.mem_mergeSort, List.mem_filter, Bool.and_eq_true, same] at listed
    exact ⟨listed.1, listed.2.2⟩

theorem planRoute_clears (clears : inputs.Clears scan) (enabled : route ∈ inputs.enabledRoutes.1) :
    inputs.Clears (planRoute inputs.snap inputs.columns inputs.orders inputs.policy
      inputs.requestedModel inputs.stickyIdentity inputs.nowMs scan route) := by
  unfold planRoute
  dsimp only
  split
  · exact ⟨clears.reread, clears.schedulable⟩
  split
  · exact ⟨clears.reread, clears.schedulable⟩
  split
  · exact ⟨clears.reread, clears.schedulable⟩
  · refine scheduleRoute_clears ranks ?_ enabled fun key member => List.mem_of_mem_filter member
    exact ⟨clears.reread, clears.schedulable⟩

theorem scan_clears : inputs.Clears inputs.scan := by
  have folded : ∀ routes : List ProviderRoute, routes ⊆ inputs.enabledRoutes.1 →
      ∀ scan, inputs.Clears scan → inputs.Clears (routes.foldl (planRoute inputs.snap inputs.columns
        inputs.orders inputs.policy inputs.requestedModel inputs.stickyIdentity inputs.nowMs) scan) := by
    intro routes
    induction routes with
    | nil => exact fun _ _ clears => clears
    | cons route routes ih =>
      intro within scan clears
      obtain ⟨enabled, rest⟩ := List.cons_subset.mp within
      exact ih rest _ (planRoute_clears ranks clears enabled)
  exact folded _ (List.Subset.refl _) _
    ⟨routesRetryAt_reread _ _, fun _ none => absurd none List.not_mem_nil⟩

theorem build_clears {plan : UpstreamPlan} (built : inputs.build.1 = .ok plan) :
    ∀ target ∈ plan.attempts, Cleared inputs target := by
  intro target member
  rcases inputs.build_cases with ⟨-, error, failed, -⟩ | ⟨other, planned, attempts⟩
  · cases built.symm.trans failed
  cases built.symm.trans planned
  rw [attempts] at member
  have scheduled := retainFirstProvider_subset _ _ member
  simp only [buildScheduledAttempts, List.mem_flatMap, List.mem_map] at scheduled
  obtain ⟨entry, taken, endpoint, served, key, keyed, rfl⟩ := scheduled
  have schedules := (scan_clears ranks).schedulable entry
    (inputs.ordered_perm.mem_iff.mp (List.mem_of_mem_take taken))
  obtain ⟨admitted, authorized⟩ := mem_enabledRoutes schedules.route
  obtain ⟨registered, available⟩ := schedules.keys key (List.mem_of_mem_take keyed)
  obtain ⟨enabled, healthy⟩ := schedules.endpoints endpoint (List.mem_of_mem_take served)
  exact {
    admitted := ⟨entry.route, admitted, rfl, rfl⟩
    authorized := authorized
    targeted := schedules.targeted
    key := List.mem_of_mem_filter registered
    account := available
    endpoint := enabled
    endpointAvailable := healthy }

end Ranked

end PlanInputs

end CodexGate.Routing
