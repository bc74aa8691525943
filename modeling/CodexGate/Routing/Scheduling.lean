import CodexGate.Foundation.Sampling
import CodexGate.Routing.Plan
import Mathlib.Data.List.ProdSigma

namespace CodexGate.Routing

open Foundation Resilience

def offsetIndex : Int → Nat → List Int → Option Nat
  | _, _, [] => none
  | offset, index, weight :: rest =>
    if offset < weight then some index else offsetIndex (offset - weight) (index + 1) rest

def SchedulableProvider.id (scheduled : SchedulableProvider) : Int := scheduled.route.provider.id

section Order

variable (draws : Draws) (count : Nat)

def weightedSampleProvider (providers : List SchedulableProvider) : Option Nat :=
  let weights := providers.map fun provider => max provider.effectiveWeight 0
  let totalWeight := weights.foldl (fun total weight => wrapI64 (total + weight)) 0
  if totalWeight ≤ 0 then draws.below count providers.length
  else do
    let offset ← draws.below count totalWeight.toNat
    return (offsetIndex offset 0 weights).getD (providers.length - 1)

def settledUnweighted (group : List SchedulableProvider) : Option (List SchedulableProvider) :=
  if group.all (·.effectiveWeight == 0) then
    some (group.mergeSort fun left right => decide (left.id ≤ right.id))
  else none

def orderPriorityGroup (group : List SchedulableProvider) : Option (List SchedulableProvider × Nat) :=
  drain settledUnweighted (weightedSampleProvider draws) group.length count group

def takeAffinity (providers : List SchedulableProvider) (affinityProviderId : Option Int) :
    Option (List SchedulableProvider × List SchedulableProvider) :=
  match affinityProviderId.bind fun id => providers.findIdx? (·.id == id) with
  | some index => (swapRemove providers index).map fun (provider, rest) => ([provider], rest)
  | none => some ([], providers)

def orderSchedulableProviders (providers : List SchedulableProvider)
    (affinityProviderId : Option Int) : Option (List SchedulableProvider) := do
  let (first, providers) ← takeAffinity providers affinityProviderId
  let (ordered, _) ← peel (·.effectivePriority) (orderPriorityGroup draws) providers.length 0 providers
  return first ++ ordered

def scheduleAttempts (schedulable : List SchedulableProvider) (affinityProviderId : Option Int) :
    Option (List ResolvedUpstream) :=
  (orderSchedulableProviders draws schedulable affinityProviderId).map buildScheduledAttempts

end Order

section Sampling

variable {draws : Draws} {count after : Nat} {group out : List SchedulableProvider}

theorem offsetIndex_lt {offset : Int} {index found : Nat} {weights : List Int}
    (picked : offsetIndex offset index weights = some found) : found < index + weights.length := by
  induction weights generalizing offset index with
  | nil => cases picked
  | cons weight rest ih =>
    unfold offsetIndex at picked
    rw [List.length_cons]
    split at picked
    · cases picked
      exact Nat.lt_add_of_pos_right (Nat.succ_pos _)
    · have inside := ih picked
      omega

theorem weightedSampleProvider_lt (some_ : group ≠ []) :
    ∃ index < group.length, weightedSampleProvider draws count group = some index := by
  have positive := List.length_pos_of_ne_nil some_
  unfold weightedSampleProvider
  dsimp only
  split
  · obtain ⟨drawn, below, same⟩ := draws.below_eq_some count positive
    exact ⟨drawn, below, same⟩
  · rename_i total
    have bound := Int.pos_iff_toNat_pos.mp (Int.not_le.mp total)
    obtain ⟨offset, -, same⟩ := draws.below_eq_some count bound
    rw [same]
    refine ⟨_, ?_, rfl⟩
    rcases picked : offsetIndex offset 0 (group.map fun provider => max provider.effectiveWeight 0)
      with _ | index
    · rw [picked]
      exact Nat.sub_lt positive Nat.one_pos
    · have inside := offsetIndex_lt picked
      rw [picked]
      rwa [zero_add, List.length_map] at inside

theorem settledUnweighted_perm {tail : List SchedulableProvider}
    (settles : settledUnweighted group = some tail) : tail.Perm group := by
  unfold settledUnweighted at settles
  split at settles
  · cases settles
    exact List.mergeSort_perm _ _
  · cases settles

theorem orderPriorityGroup_perm (ordered : orderPriorityGroup draws count group = some (out, after)) :
    out.Perm group :=
  drain_perm (fun _ _ settles => settledUnweighted_perm settles) ordered

theorem orderPriorityGroup_isSome : (orderPriorityGroup draws count group).isSome = true := by
  refine drain_isSome (P := fun _ => True) ?_ (fun _ _ _ _ _ => trivial) ?_ trivial (le_refl _)
  · rfl
  · intro count items _ goes
    refine weightedSampleProvider_lt fun none => ?_
    rw [none] at goes
    cases goes

theorem orderPriorityGroup_unweighted
    (ordered : orderPriorityGroup draws count group = some (out, after))
    (unweighted : ∀ provider ∈ group, provider.effectiveWeight = 0) :
    out.Pairwise fun left right => left.id ≤ right.id := by
  have settles : settledUnweighted group =
      some (group.mergeSort fun left right => decide (left.id ≤ right.id)) :=
    if_pos (List.all_eq_true.mpr fun provider member => beq_iff_eq.mpr (unweighted provider member))
  rcases drain_cases ordered with ⟨stays, -⟩ | ⟨goes, -⟩
  · rw [settles] at stays
    cases stays
    have trans : ∀ first second third : SchedulableProvider, decide (first.id ≤ second.id) = true →
        decide (second.id ≤ third.id) = true → decide (first.id ≤ third.id) = true := by
      intro first second third
      simp only [decide_eq_true_iff]
      exact le_trans
    have total : ∀ first second : SchedulableProvider,
        (decide (first.id ≤ second.id) || decide (second.id ≤ first.id)) = true := by
      intro first second
      simp only [Bool.or_eq_true, decide_eq_true_iff]
      exact le_total _ _
    exact (List.pairwise_mergeSort trans total group).imp fun le => of_decide_eq_true le
  · rw [settles] at goes
    cases goes

end Sampling

/-- The provider of the affinity first, the others by their priorities, and those without weights
by their ids. -/
structure Scheduled (providers : List SchedulableProvider) (affinityProviderId : Option Int)
    (ordered : List SchedulableProvider) : Prop where
  perm : ordered.Perm providers
  affinity : ∀ provider ∈ providers, affinityProviderId = some provider.id →
    ordered.head? = some provider
  sorted : (ordered.filter (some ·.id ≠ affinityProviderId)).Pairwise fun left right =>
    left.effectivePriority ≤ right.effectivePriority
  unweighted : ∀ priority, (∀ provider ∈ providers, some provider.id ≠ affinityProviderId →
      provider.effectivePriority = priority → provider.effectiveWeight = 0) →
    (ordered.filter fun provider => some provider.id ≠ affinityProviderId ∧
      provider.effectivePriority = priority).Pairwise fun left right => left.id < right.id

section Schedule

variable {draws : Draws} {providers ordered : List SchedulableProvider}
  {affinityProviderId : Option Int}

theorem takeAffinity_cases (distinct : (providers.map (·.id)).Nodup) :
    ∃ first rest, takeAffinity providers affinityProviderId = some (first, rest) ∧
      (first ++ rest).Perm providers ∧
      (∀ provider ∈ first, affinityProviderId = some provider.id) ∧
      (∀ provider ∈ rest, some provider.id ≠ affinityProviderId) ∧
      ∀ provider ∈ providers, affinityProviderId = some provider.id → first = [provider] := by
  rcases found : affinityProviderId.bind fun id => providers.findIdx? (·.id == id) with _ | index
  · have taken : takeAffinity providers affinityProviderId = some ([], providers) := by
      unfold takeAffinity
      rw [found]
    have absent : ∀ provider ∈ providers, affinityProviderId ≠ some provider.id := by
      intro provider member same
      rw [same, Option.bind_some, List.findIdx?_eq_none_iff] at found
      exact absurd (beq_self_eq_true provider.id) (Bool.eq_false_iff.mp (found provider member))
    refine ⟨[], providers, taken, .refl _, ?_, ?_, ?_⟩
    · exact fun _ member => absurd member List.not_mem_nil
    · exact fun provider member same => absent provider member same.symm
    · exact fun provider member same => absurd same (absent provider member)
  · obtain ⟨id, bound, first⟩ := Option.bind_eq_some_iff.mp found
    obtain ⟨inside, same, -⟩ := List.findIdx?_eq_some_iff_getElem.mp first
    obtain ⟨⟨preferred, rest⟩, removed⟩ := Option.isSome_iff_exists.mp (swapRemove_isSome inside)
    have taken : takeAffinity providers affinityProviderId = some ([preferred], rest) := by
      unfold takeAffinity
      rw [found]
      simp only [removed]
      rfl
    have item := swapRemove_item removed
    rw [List.getElem?_eq_getElem inside] at item
    have here : preferred.id = id := by
      rw [← Option.some.inj item]
      exact beq_iff_eq.mp same
    have member : preferred ∈ providers := List.mem_of_getElem? (swapRemove_item removed)
    have perm := swapRemove_perm removed
    have nodup := (perm.map (·.id)).nodup_iff.mpr distinct
    rw [List.map_cons, List.nodup_cons] at nodup
    refine ⟨[preferred], rest, taken, perm, ?_, ?_, ?_⟩
    · intro provider inside
      rw [List.mem_singleton.mp inside, here]
      exact bound
    · intro provider inside equal
      rw [bound] at equal
      exact nodup.1 (List.mem_map.mpr ⟨provider, inside, (Option.some.inj equal).trans here.symm⟩)
    · intro provider inside equal
      rw [bound] at equal
      rw [List.inj_on_of_nodup_map distinct inside member
        ((Option.some.inj equal).symm.trans here.symm)]

theorem orderSchedulableProviders_scheduled (distinct : (providers.map (·.id)).Nodup) :
    ∃ ordered, orderSchedulableProviders draws providers affinityProviderId = some ordered ∧
      Scheduled providers affinityProviderId ordered := by
  obtain ⟨first, rest, taken, perm, preferred, others, alone⟩ :=
    @takeAffinity_cases _ affinityProviderId distinct
  have arranges := fun count (provider : SchedulableProvider) (_ : provider ∈ rest) =>
    @orderPriorityGroup_isSome draws count
      (rest.filter (·.effectivePriority = provider.effectivePriority))
  obtain ⟨⟨later, after⟩, peeled⟩ := Option.isSome_iff_exists.mp
    (@peel_isSome _ (·.effectivePriority) (orderPriorityGroup draws) rest.length 0 rest arranges
      (le_refl _))
  have keepAll : Peeled (·.effectivePriority) (fun _ => true) (orderPriorityGroup draws) rest later :=
    peel_peeled (fun count group out after arranged => by
      rw [List.filter_true]
      exact orderPriorityGroup_perm arranged) peeled
  have same := keepAll.perm
  rw [List.filter_true] at same
  have apart : ∀ provider ∈ later, some provider.id ≠ affinityProviderId :=
    fun provider member => others provider (same.mem_iff.mp member)
  have whole : (first ++ later).Perm providers := (same.append_left first).trans perm
  have unpreferred : (first ++ later).filter (some ·.id ≠ affinityProviderId) = later := by
    have none : first.filter (some ·.id ≠ affinityProviderId) = [] :=
      List.filter_eq_nil_iff.mpr fun provider member => by
        simpa using (preferred provider member).symm
    have all : later.filter (some ·.id ≠ affinityProviderId) = later :=
      List.filter_eq_self.mpr fun provider member => decide_eq_true (apart provider member)
    rw [List.filter_append, none, all, List.nil_append]
  refine ⟨first ++ later, ?_, whole, ?_, ?_, ?_⟩
  · unfold orderSchedulableProviders
    rw [taken]
    simp only [Option.bind_eq_bind, Option.bind_some, peeled]
    rfl
  · intro provider member equal
    rw [alone provider member equal]
    rfl
  · rw [unpreferred]
    exact keepAll.sorted
  · intro priority zero
    have group : (first ++ later).filter (fun provider => some provider.id ≠ affinityProviderId ∧
        provider.effectivePriority = priority) = later.filter (·.effectivePriority = priority) := by
      have nested : (first ++ later).filter (fun provider =>
          some provider.id ≠ affinityProviderId ∧ provider.effectivePriority = priority) =
          ((first ++ later).filter (some ·.id ≠ affinityProviderId)).filter
            (·.effectivePriority = priority) := by
        rw [List.filter_filter]
        refine List.filter_congr fun provider _ => ?_
        rw [Bool.decide_and, Bool.and_comm]
      rw [nested, unpreferred]
    rw [group]
    have sub := (List.sublist_append_right first later).map (·.id)
    have nodup := ((whole.map (·.id)).nodup_iff.mpr distinct).sublist sub
    have apartIds : later.Pairwise fun left right => left.id ≠ right.id := List.pairwise_map.mp nodup
    refine List.pairwise_iff_forall_sublist.mpr fun {left right} pair => ?_
    have inside : left ∈ later.filter (·.effectivePriority = priority) := pair.subset (.head _)
    obtain ⟨member, here⟩ := List.mem_filter.mp inside
    have here : left.effectivePriority = priority := of_decide_eq_true here
    obtain ⟨count, after', arranged⟩ := keepAll.groups left (same.mem_iff.mp member)
    rw [here] at arranged
    have inOrder := orderPriorityGroup_unweighted arranged fun provider grouped => by
      obtain ⟨held, there⟩ := List.mem_filter.mp grouped
      exact zero provider (perm.subset (List.mem_append_right first held)) (others provider held)
        (of_decide_eq_true there)
    have least := List.pairwise_iff_forall_sublist.mp inOrder pair
    have differ := List.pairwise_iff_forall_sublist.mp apartIds (pair.trans List.filter_sublist)
    exact lt_of_le_of_ne least differ

end Schedule

/-- The attempts of one provider: a target for each endpoint and key, endpoint by endpoint. -/
structure Block (scheduled : SchedulableProvider) (attempts : List ResolvedUpstream) : Prop where
  provider : ∀ attempt ∈ attempts, attempt.provider = scheduled.route.provider ∧
    attempt.upstreamModel = scheduled.route.upstreamModel ∧
    attempt.protocol = scheduled.route.protocol
  endpointMajor : attempts.map (fun attempt => (attempt.endpoint, attempt.key)) =
    scheduled.endpoints.take maxAttempts ×ˢ scheduled.keys.take maxAttempts
  distinct : (scheduled.endpoints.map (·.id)).Nodup → (scheduled.keys.map (·.id)).Nodup →
    (attempts.map fun attempt => (attempt.endpoint.id, attempt.key.id)).Nodup

section Attempts

variable {scheduled : SchedulableProvider}

def attemptOf (scheduled : SchedulableProvider) (endpoint : UpstreamEndpoint) (key : UpstreamKey) :
    ResolvedUpstream where
  upstreamModel := scheduled.route.upstreamModel
  provider := scheduled.route.provider
  endpoint := endpoint
  key := key
  protocol := scheduled.route.protocol

def blockOf (scheduled : SchedulableProvider) : List ResolvedUpstream :=
  (scheduled.endpoints.take maxAttempts).flatMap fun endpoint =>
    (scheduled.keys.take maxAttempts).map (attemptOf scheduled endpoint)

theorem buildScheduledAttempts_blocks (ordered : List SchedulableProvider) :
    buildScheduledAttempts ordered = ((ordered.take maxDistinctProviders).map blockOf).flatten := rfl

theorem blockOf_block (scheduled : SchedulableProvider) : Block scheduled (blockOf scheduled) := by
  have pairs : (blockOf scheduled).map (fun attempt => (attempt.endpoint, attempt.key)) =
      scheduled.endpoints.take maxAttempts ×ˢ scheduled.keys.take maxAttempts := by
    unfold blockOf
    rw [List.map_flatMap]
    simp only [List.map_map]
    rfl
  refine ⟨fun attempt member => ?_, pairs, fun endpoints keys => ?_⟩
  · obtain ⟨endpoint, -, inner⟩ := List.mem_flatMap.mp member
    obtain ⟨key, -, rfl⟩ := List.mem_map.mp inner
    exact ⟨rfl, rfl, rfl⟩
  · have ids : (blockOf scheduled).map (fun attempt => (attempt.endpoint.id, attempt.key.id)) =
        (scheduled.endpoints.take maxAttempts).map (·.id) ×ˢ
          (scheduled.keys.take maxAttempts).map (·.id) := by
      show _ = ((scheduled.endpoints.take maxAttempts).map (·.id)).flatMap fun id =>
        ((scheduled.keys.take maxAttempts).map (·.id)).map (Prod.mk id)
      unfold blockOf
      rw [List.map_flatMap, List.flatMap_map]
      simp only [List.map_map]
      rfl
    have fewerEndpoints := (List.take_sublist maxAttempts scheduled.endpoints).map (·.id)
    have fewerKeys := (List.take_sublist maxAttempts scheduled.keys).map (·.id)
    rw [ids]
    exact (endpoints.sublist fewerEndpoints).product (keys.sublist fewerKeys)

structure Blocks (ordered : List SchedulableProvider) (attempts : List ResolvedUpstream)
    (blocks : List (List ResolvedUpstream)) : Prop where
  attempts : attempts = blocks.flatten
  few : blocks.length ≤ 3
  blocks : List.Forall₂ Block (ordered.take 3) blocks
  providers : ((ordered.take 3).map (·.id)).Nodup

/-- For every outcome of the draws the providers are scheduled, and the attempts are those of the first
three of them. -/
theorem schedule_ordered (draws : Draws) {providers : List SchedulableProvider}
    (distinct : (providers.map (·.id)).Nodup) (affinityProviderId : Option Int) :
    ∃ ordered, orderSchedulableProviders draws providers affinityProviderId = some ordered ∧
      Scheduled providers affinityProviderId ordered ∧
      ∃ attempts blocks, scheduleAttempts draws providers affinityProviderId = some attempts ∧
        Blocks ordered attempts blocks := by
  obtain ⟨ordered, found, scheduled⟩ :=
    @orderSchedulableProviders_scheduled draws _ affinityProviderId distinct
  refine ⟨ordered, found, scheduled, buildScheduledAttempts ordered,
    (ordered.take 3).map blockOf, ?_, ?_, ?_, ?_, ?_⟩
  · unfold scheduleAttempts
    rw [found]
    rfl
  · exact buildScheduledAttempts_blocks ordered
  · rw [List.length_map]
    exact List.length_take_le 3 ordered
  · refine List.forall₂_map_right_iff.mpr (List.forall₂_same.mpr fun provider _ => ?_)
    exact blockOf_block provider
  · have nodup := (scheduled.perm.map (·.id)).nodup_iff.mpr distinct
    exact nodup.sublist ((List.take_sublist 3 ordered).map (·.id))

def schedulable (id priority weight : Int) : SchedulableProvider where
  route := {
    provider := {
      id := id
      providerType := "openai"
      enabled := true
      maxConcurrency := none
      circuitBreakerEnabled := false
      circuitBreakerFailureThreshold := i32 5
      circuitBreakerOpenMs := 30000
      circuitBreakerHalfOpenSuccessThreshold := i32 1 }
    upstreamModel := "gpt-5"
    routePriority := none
    routeWeight := none
    protocol := .native .responses }
  effectivePriority := priority
  effectiveWeight := weight
  keys := [⟨id, id, true⟩]
  endpoints := [⟨id, id, true⟩]

/-- Four providers, of which the last is that of the affinity. -/
theorem schedule_ordered_four : ∃ ordered, orderSchedulableProviders .least
    [schedulable 3 0 0, schedulable 1 0 0, schedulable 2 5 0, schedulable 4 10 0] (some 4) =
      some ordered ∧ ordered.head? = some (schedulable 4 10 0) := by
  obtain ⟨ordered, found, scheduled, -⟩ := @schedule_ordered .least
    [schedulable 3 0 0, schedulable 1 0 0, schedulable 2 5 0, schedulable 4 10 0] (by decide) (some 4)
  exact ⟨ordered, found, scheduled.affinity _ (by simp) rfl⟩

end Attempts

end CodexGate.Routing
