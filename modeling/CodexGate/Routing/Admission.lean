import CodexGate.Routing.AffinityPlan
import CodexGate.Routing.Listing
import CodexGate.Routing.Scheduling

namespace CodexGate.Routing

open Foundation Health Provider Resilience

structure PlanInputs where
  state : SharedState
  affinity : AffinityBook
  snap : UpstreamSnapshot
  columns : PlanColumns
  rankKeys : Nat → List UpstreamKey → List UpstreamKey
  draws : Draws
  apiFormat : ApiFormat
  requestedModel : String
  allowedProviderIds : List Int
  identity : Option AffinityIdentity
  allowResponsesViaChat : Bool
  nowMs : Int

namespace PlanInputs

variable (inputs : PlanInputs)

def orders : PlanOrders where
  rankKeys := inputs.rankKeys
  orderSchedulableProviders providers affinityProviderId :=
    (orderSchedulableProviders inputs.draws providers affinityProviderId).getD providers

def build : Except RouteResolutionError UpstreamPlan × SharedState × AffinityBook :=
  buildUpstreamPlan inputs.state inputs.affinity inputs.snap inputs.columns inputs.orders inputs.apiFormat
    inputs.requestedModel inputs.allowedProviderIds inputs.identity inputs.allowResponsesViaChat inputs.nowMs

def policy : Option RoutePolicy :=
  (inputs.snap.routePolicies.lookup inputs.requestedModel).or (inputs.snap.routePolicies.lookup "*")

def stickyIdentity : Option AffinityIdentity :=
  if inputs.policy.all (·.sticky) then inputs.identity else none

def enabledRoutes : List ProviderRoute × RouteDiagnostics :=
  match collectProviderRoutes inputs.snap inputs.apiFormat inputs.requestedModel
      inputs.allowResponsesViaChat with
  | .error error => ([], error.diagnostics)
  | .ok (routes, diagnostics) =>
    let (authorizedRoutes, diagnostics) :=
      retainRoutes (fun route => inputs.allowedProviderIds.contains route.provider.id) "authorization"
        "provider_denied" "API key does not allow this upstream" routes diagnostics
    retainRoutes (·.provider.enabled) "static_configuration" "provider_disabled"
      "provider is disabled" authorizedRoutes diagnostics

def scan : PlanScan :=
  inputs.enabledRoutes.1.foldl
    (planRoute inputs.snap inputs.columns inputs.orders inputs.policy inputs.requestedModel
      inputs.stickyIdentity inputs.nowMs)
    { state := (routesRetryAt inputs.snap inputs.nowMs inputs.state inputs.enabledRoutes.1).2
      affinity := (inputs.affinity.binding inputs.stickyIdentity inputs.nowMs).2
      diagnostics := inputs.enabledRoutes.2 }

def ordered : List SchedulableProvider :=
  inputs.orders.orderSchedulableProviders inputs.scan.schedulable
    ((inputs.affinity.binding inputs.stickyIdentity inputs.nowMs).1.map (·.providerId))

def Admits (entry : SchedulableProvider) : Prop :=
  entry ∈ inputs.ordered ∧
    (inputs.policy.any (!·.failover) = true → inputs.ordered.head?.any (·.id == entry.id) = true)

end PlanInputs

section Order

variable {draws : Draws} {providers ordered : List SchedulableProvider} {affinityProviderId : Option Int}

theorem orderSchedulableProviders_perm
    (found : orderSchedulableProviders draws providers affinityProviderId = some ordered) :
    ordered.Perm providers := by
  unfold orderSchedulableProviders at found
  obtain ⟨⟨first, rest⟩, taken, found⟩ := Option.bind_eq_some_iff.mp found
  obtain ⟨⟨later, after⟩, peeled, found⟩ := Option.bind_eq_some_iff.mp found
  cases found
  have same : (first ++ rest).Perm providers := by
    unfold takeAffinity at taken
    split at taken
    · obtain ⟨⟨provider, others⟩, removed, kept⟩ := Option.map_eq_some_iff.mp taken
      cases kept
      exact swapRemove_perm removed
    · cases taken
      exact .refl _
  have keepAll : Peeled (·.effectivePriority) (fun _ => true) (orderPriorityGroup draws) rest later :=
    peel_peeled (fun count group out after arranged => by
      rw [List.filter_true]
      exact orderPriorityGroup_perm arranged) peeled
  have last := keepAll.perm
  rw [List.filter_true] at last
  exact (last.append_left first).trans same

theorem PlanInputs.ordered_perm (inputs : PlanInputs) : inputs.ordered.Perm inputs.scan.schedulable := by
  unfold PlanInputs.ordered PlanInputs.orders
  dsimp only
  cases found : orderSchedulableProviders inputs.draws inputs.scan.schedulable
      ((inputs.affinity.binding inputs.stickyIdentity inputs.nowMs).1.map (·.providerId)) with
  | none => exact .refl _
  | some ordered => exact orderSchedulableProviders_perm found

end Order

section Ready

variable {snap : UpstreamSnapshot} {columns : PlanColumns} {orders : PlanOrders}
  {policy : Option RoutePolicy} {requestedModel : String} {identity : Option AffinityIdentity}
  {nowMs : Int}

def Supplied (scan : PlanScan) : Prop :=
  ∀ entry ∈ scan.schedulable, entry.keys ≠ [] ∧ entry.endpoints ≠ []

theorem scheduleRoute_supplied {scan : PlanScan} (supplied : Supplied scan) (route : ProviderRoute)
    (keys : List UpstreamKey) (endpoints : List UpstreamEndpoint) :
    Supplied (scheduleRoute snap columns orders policy requestedModel identity nowMs scan route keys
      endpoints) := by
  have kept : ∀ scan : PlanScan, Supplied scan →
      Supplied (availableKeys snap nowMs route scan keys).2 := by
    intro scan supplied
    have tally := @availableKeys_tally snap nowMs route scan keys
    simp only [PlanScan.tally, Prod.mk.injEq] at tally
    unfold Supplied
    rw [tally.2.2]
    exact supplied
  have added : ∀ (scan : PlanScan) (entry : SchedulableProvider), Supplied scan →
      entry.keys.isEmpty ≠ true → entry.endpoints.isEmpty ≠ true →
      Supplied { scan with schedulable := scan.schedulable ++ [entry] } := by
    intro scan entry supplied keyed served other member
    rcases List.mem_append.mp member with before | here
    · exact supplied other before
    · rw [List.mem_singleton.mp here]
      rw [ne_eq, List.isEmpty_iff] at keyed served
      exact ⟨keyed, served⟩
  unfold scheduleRoute
  dsimp only
  split
  · exact supplied
  split
  · split <;> exact supplied
  split
  · exact kept _ supplied
  split
  · exact kept _ supplied
  rename_i keyed
  split
  · split
    · exact kept _ supplied
    split
    · exact kept _ supplied
    · exact added _ _ (kept _ supplied) keyed ‹_›
  · split
    · exact kept _ supplied
    split
    · exact kept _ supplied
    · exact added _ _ (kept _ supplied) keyed ‹_›

theorem planRoute_supplied {scan : PlanScan} (supplied : Supplied scan) (route : ProviderRoute) :
    Supplied (planRoute snap columns orders policy requestedModel identity nowMs scan route) := by
  unfold planRoute
  dsimp only
  split
  · exact supplied
  split
  · exact supplied
  split
  · exact supplied
  · refine scheduleRoute_supplied ?_ route _ _
    exact supplied

theorem planRoutes_supplied {scan : PlanScan} (supplied : Supplied scan) (routes : List ProviderRoute) :
    Supplied (routes.foldl (planRoute snap columns orders policy requestedModel identity nowMs) scan) := by
  induction routes generalizing scan with
  | nil => exact supplied
  | cons route routes ih => exact ih (planRoute_supplied supplied route)

end Ready

theorem PlanInputs.ordered_supplied (inputs : PlanInputs) (entry : SchedulableProvider)
    (member : entry ∈ inputs.ordered) : entry.keys ≠ [] ∧ entry.endpoints ≠ [] := by
  have start : Supplied
      { state := (routesRetryAt inputs.snap inputs.nowMs inputs.state inputs.enabledRoutes.1).2
        affinity := (inputs.affinity.binding inputs.stickyIdentity inputs.nowMs).2
        diagnostics := inputs.enabledRoutes.2 } := fun _ none => absurd none List.not_mem_nil
  exact planRoutes_supplied start inputs.enabledRoutes.1 entry (inputs.ordered_perm.mem_iff.mp member)

section Attempts

variable {policy : Option RoutePolicy} {ordered : List SchedulableProvider}

theorem blockOf_ne_nil {entry : SchedulableProvider} (keyed : entry.keys ≠ [])
    (served : entry.endpoints ≠ []) : blockOf entry ≠ [] := by
  obtain ⟨key, keys, keysEq⟩ := List.exists_cons_of_ne_nil keyed
  obtain ⟨endpoint, endpoints, endpointsEq⟩ := List.exists_cons_of_ne_nil served
  rw [blockOf, keysEq, endpointsEq]
  exact List.cons_ne_nil _ _

theorem exists_mem_blockOf_iff {entry : SchedulableProvider} (keyed : entry.keys ≠ [])
    (served : entry.endpoints ≠ []) (id : Int) :
    (∃ attempt ∈ blockOf entry, attempt.provider.id = id) ↔ entry.id = id := by
  have block := blockOf_block entry
  constructor
  · rintro ⟨attempt, member, rfl⟩
    rw [(block.provider attempt member).1]
    rfl
  · rintro rfl
    obtain ⟨attempt, member⟩ := List.exists_mem_of_ne_nil _ (blockOf_ne_nil keyed served)
    exact ⟨attempt, member, by rw [(block.provider attempt member).1]; rfl⟩

theorem exists_mem_scheduled_iff
    (supplied : ∀ entry ∈ ordered, entry.keys ≠ [] ∧ entry.endpoints ≠ []) (id : Int) :
    (∃ attempt ∈ buildScheduledAttempts ordered, attempt.provider.id = id) ↔
      ∃ entry ∈ ordered.take maxDistinctProviders, entry.id = id := by
  rw [buildScheduledAttempts_blocks]
  simp only [List.mem_flatten, List.mem_map]
  constructor
  · rintro ⟨attempt, ⟨block, ⟨entry, taken, rfl⟩, member⟩, same⟩
    obtain ⟨keyed, served⟩ := supplied entry (List.mem_of_mem_take taken)
    exact ⟨entry, taken, (exists_mem_blockOf_iff keyed served id).mp ⟨attempt, member, same⟩⟩
  · rintro ⟨entry, taken, same⟩
    obtain ⟨keyed, served⟩ := supplied entry (List.mem_of_mem_take taken)
    obtain ⟨attempt, member, here⟩ := (exists_mem_blockOf_iff keyed served id).mpr same
    exact ⟨attempt, ⟨_, ⟨entry, taken, rfl⟩, member⟩, here⟩

theorem head_scheduled (supplied : ∀ entry ∈ ordered, entry.keys ≠ [] ∧ entry.endpoints ≠ []) :
    (buildScheduledAttempts ordered).head?.map (·.provider.id) = ordered.head?.map (·.id) := by
  cases ordered with
  | nil => rfl
  | cons entry rest =>
    obtain ⟨keyed, served⟩ := supplied entry (.head _)
    obtain ⟨attempt, attempts, block⟩ := List.exists_cons_of_ne_nil (blockOf_ne_nil keyed served)
    have first : attempt ∈ blockOf entry := by
      rw [block]
      exact .head _
    have whole : buildScheduledAttempts (entry :: rest) =
        blockOf entry ++ ((rest.take 2).map blockOf).flatten := rfl
    rw [whole, block, List.cons_append, List.head?_cons, List.head?_cons, Option.map_some, Option.map_some,
      ((blockOf_block entry).provider attempt first).1]
    rfl

theorem exists_mem_retained_iff
    (supplied : ∀ entry ∈ ordered, entry.keys ≠ [] ∧ entry.endpoints ≠ []) (id : Int) :
    (∃ attempt ∈ retainFirstProvider policy (buildScheduledAttempts ordered), attempt.provider.id = id) ↔
      ∃ entry ∈ ordered.take maxDistinctProviders, entry.id = id ∧
        (policy.any (!·.failover) = true → ordered.head?.any (·.id == id) = true) := by
  have head := head_scheduled supplied
  have scheduled := exists_mem_scheduled_iff supplied id
  cases attempts : buildScheduledAttempts ordered with
  | nil =>
    rw [attempts] at scheduled
    refine iff_of_false (by simp [retainFirstProvider]) ?_
    rintro ⟨entry, taken, same, -⟩
    obtain ⟨attempt, none, -⟩ := scheduled.mpr ⟨entry, taken, same⟩
    cases none
  | cons first rest =>
    rw [attempts] at head scheduled
    obtain ⟨leader, leads, same⟩ := Option.map_eq_some_iff.mp head.symm
    rw [leads, Option.any_some]
    by_cases strict : policy.any (!·.failover) = true
    · have kept : retainFirstProvider policy (first :: rest) =
          (first :: rest).filter (·.provider.id == first.provider.id) := if_pos strict
      rw [kept]
      simp only [List.mem_filter, beq_iff_eq, strict, forall_const, same]
      constructor
      · rintro ⟨attempt, ⟨member, firstId⟩, rfl⟩
        obtain ⟨entry, taken, here⟩ := scheduled.mp ⟨attempt, member, rfl⟩
        exact ⟨entry, taken, here, firstId.symm⟩
      · rintro ⟨entry, taken, here, firstId⟩
        obtain ⟨attempt, member, there⟩ := scheduled.mpr ⟨entry, taken, here⟩
        exact ⟨attempt, ⟨member, there.trans firstId.symm⟩, there⟩
    · have kept : retainFirstProvider policy (first :: rest) = first :: rest := if_neg strict
      rw [kept, scheduled]
      exact exists_congr fun entry => and_congr_right fun _ =>
        (and_iff_left fun yes => absurd yes strict).symm

end Attempts

def planCodes : List String :=
  routeCodes ++ ["model_not_authorized", "no_enabled_upstream_provider", "no_upstream_key_for_model",
    "no_enabled_upstream_endpoint", "all_upstreams_temporarily_unavailable"]

namespace PlanInputs

variable (inputs : PlanInputs)

theorem ordered_of_none (none : inputs.enabledRoutes.1 = []) : inputs.ordered = [] := by
  have perm := inputs.ordered_perm
  rw [scan, none] at perm
  exact perm.eq_nil

theorem scan_finish_cases (affinityProviderId retryAtMs : Option Int)
    (bound : (inputs.affinity.binding inputs.stickyIdentity inputs.nowMs).1.map (·.providerId) =
      affinityProviderId) :
    (inputs.ordered = [] ∧ ∃ error, inputs.scan.finish inputs.orders inputs.policy inputs.requestedModel
        affinityProviderId retryAtMs = .error error ∧ error.code ∈ planCodes) ∨
      ∃ plan, inputs.scan.finish inputs.orders inputs.policy inputs.requestedModel affinityProviderId
          retryAtMs = .ok plan ∧
        plan.attempts = retainFirstProvider inputs.policy (buildScheduledAttempts inputs.ordered) := by
  have order : inputs.orders.orderSchedulableProviders inputs.scan.schedulable affinityProviderId =
      inputs.ordered := by rw [ordered, bound]
  unfold PlanScan.finish
  split
  · rename_i nothing
    have none : inputs.ordered = [] := by
      have perm := inputs.ordered_perm
      rw [List.isEmpty_iff.mp nothing] at perm
      exact perm.eq_nil
    refine .inl ⟨none, ?_⟩
    split
    · exact ⟨_, rfl, (by decide : "no_upstream_key_for_model" ∈ planCodes)⟩
    split
    · exact ⟨_, rfl, (by decide : "no_enabled_upstream_endpoint" ∈ planCodes)⟩
    · exact ⟨_, rfl, (by decide : "all_upstreams_temporarily_unavailable" ∈ planCodes)⟩
  · rw [order]
    dsimp only
    split
    · rename_i unattempted
      refine .inl ⟨?_, _, rfl, (by decide : "all_upstreams_temporarily_unavailable" ∈ planCodes)⟩
      by_contra some_ordered
      obtain ⟨leader, rest, listed⟩ := List.exists_cons_of_ne_nil some_ordered
      obtain ⟨attempt, member, -⟩ := (@exists_mem_retained_iff inputs.policy inputs.ordered
        inputs.ordered_supplied leader.id).mpr ⟨leader, by rw [listed]; exact .head _, rfl, fun _ => by
          rw [listed, List.head?_cons, Option.any_some, beq_self_eq_true]⟩
      rw [List.isEmpty_iff.mp unattempted] at member
      cases member
    · exact .inr ⟨_, rfl, rfl⟩

theorem build_cases :
    (inputs.ordered = [] ∧ ∃ error, inputs.build.1 = .error error ∧ error.code ∈ planCodes) ∨
      ∃ plan, inputs.build.1 = .ok plan ∧
        plan.attempts = retainFirstProvider inputs.policy (buildScheduledAttempts inputs.ordered) := by
  cases collected : collectProviderRoutes inputs.snap inputs.apiFormat inputs.requestedModel
      inputs.allowResponsesViaChat with
  | error error =>
    have code := collect_coded _ _ _ _ error collected
    refine .inl ⟨inputs.ordered_of_none (by rw [enabledRoutes, collected]), error, ?_,
      List.mem_append_left _ code⟩
    rw [build, buildUpstreamPlan, collected]
  | ok collection =>
    obtain ⟨routes, diagnostics⟩ := collection
    have enabled : inputs.enabledRoutes =
        retainRoutes (·.provider.enabled) "static_configuration" "provider_disabled" "provider is disabled"
          (retainRoutes (fun route => inputs.allowedProviderIds.contains route.provider.id) "authorization"
            "provider_denied" "API key does not allow this upstream" routes diagnostics).1
          (retainRoutes (fun route => inputs.allowedProviderIds.contains route.provider.id) "authorization"
            "provider_denied" "API key does not allow this upstream" routes diagnostics).2 := by
      rw [enabledRoutes, collected]
    rw [build, buildUpstreamPlan, collected]
    dsimp only
    split
    · rename_i nothing
      rw [List.isEmpty_iff.mp nothing] at enabled
      exact .inl ⟨inputs.ordered_of_none (by rw [enabled]; rfl), _, rfl,
        (by decide : "model_not_authorized" ∈ planCodes)⟩
    rw [← enabled]
    split
    · rename_i nothing
      exact .inl ⟨inputs.ordered_of_none (List.isEmpty_iff.mp nothing), _, rfl,
        (by decide : "no_enabled_upstream_provider" ∈ planCodes)⟩
    · exact inputs.scan_finish_cases _ _ rfl

end PlanInputs

end CodexGate.Routing
