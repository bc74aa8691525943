import CodexGate.Admin.Model

namespace CodexGate.Admin

open Foundation Authorization Routing

variable {Overrides : Type}

def WritesNothing (fails : DbStep → Bool) (store : AdminStore Overrides)
    (stages : List (AdminStage Overrides)) : Prop :=
  ∀ first ∈ stages.head?, first.stops fails store = true

def Goes (fails : DbStep → Bool) (store : AdminStore Overrides)
    (stages : List (AdminStage Overrides)) : Prop :=
  ∀ stage ∈ stages, stage.stops fails store = false

structure Closing (name : DbStep) (cache : Memory) (stages : List (AdminStage Overrides)) : Prop where
  steady : Stage.Steady stages
  shape : ∃ ready change middle, stages = .write name ready change :: middle ++ [.empty cache] ∧
    ∀ stage ∈ middle, ¬ stage.Empties cache

section Closing

variable {name : DbStep} {cache : Memory} {stages : List (AdminStage Overrides)}
  {fails : DbStep → Bool} {store : AdminStore Overrides}

theorem perform_writesNothing (nothing : WritesNothing fails store stages) (answered : stages ≠ []) :
    Stage.perform fails stages (begun store) = (begun store, false) := by
  cases stages with
  | nil => exact absurd rfl answered
  | cons first rest => exact Stage.perform_stopped (nothing first rfl)

theorem Closing.nonempty (closing : Closing name cache stages) : stages ≠ [] := by
  obtain ⟨ready, change, middle, rfl, -⟩ := closing.shape
  exact List.cons_ne_nil _ _

theorem Closing.writes (closing : Closing name cache stages) : name ∈ Stage.writes stages := by
  obtain ⟨ready, change, middle, rfl, -⟩ := closing.shape
  exact List.mem_cons_self

theorem Closing.goes (closing : Closing name cache stages) :
    (Stage.perform fails stages (begun store)).2 = true ↔ Goes fails store stages :=
  Stage.perform_done_iff closing.steady (begun store)

theorem Closing.whole (closing : Closing name cache stages) (goes : Goes fails store stages) :
    (Stage.perform fails stages (begun store)).1.store = stages.foldl Stage.changed store ∧
      (Stage.perform fails stages (begun store)).1.committed = Stage.writes stages := by
  have done := closing.goes.mpr goes
  exact Stage.perform_done (Prod.ext rfl done : Stage.perform fails stages (begun store) = (_, true))

theorem Closing.seen (closing : Closing name cache stages) (goes : Goes fails store stages) :
    (Stage.perform fails stages (begun store)).1.unseen cache = [] := by
  have done := closing.goes.mpr goes
  obtain ⟨ready, change, middle, rfl, -⟩ := closing.shape
  exact Stage.unseen_emptied rfl done

theorem Closing.unseen (closing : Closing name cache stages)
    (something : ¬ WritesNothing fails store stages) (stopped : ¬ Goes fails store stages) :
    name ∈ (Stage.perform fails stages (begun store)).1.unseen cache := by
  have interrupted : (Stage.perform fails stages (begun store)).2 = false :=
    Bool.eq_false_iff.mpr fun done => stopped (closing.goes.mp done)
  obtain ⟨ready, change, middle, rfl, kept⟩ := closing.shape
  apply Stage.unseen_interrupted kept ?_ interrupted
  apply Bool.eq_false_iff.mpr
  intro stops
  apply something
  intro first there
  cases there
  exact stops

end Closing

section Shapes

variable (store : AdminStore Overrides) (id : Nat) (row : ProviderRow Overrides)
  (patch : PatchProviderReq Overrides) (key : ApiKeyRow) (keyPatch : PatchApiKeyReq)
  (model : String) (body : UpsertRouteReq) (now : Int)

theorem groupStages_forall {P : AdminStage Overrides → Prop}
    (replaced : ∀ assignments, P (.write .replaceProviderGroupMemberships always
      (replaceProviderGroupMemberships id assignments)))
    (refreshed : P (.write .refreshMemberships always refreshCompatAuthorizations)) :
    ∀ stage ∈ groupStages id patch, P stage := by
  unfold groupStages
  split
  · simp
  · rename_i assignments _
    simp [replaced assignments, refreshed]

theorem routeTargetStages_forall {P : AdminStage Overrides → Prop}
    (updated : ∀ weighted, P (.write .updateDefaultRouteTarget
      (fun store => (store.policies.lookup "*").isSome)
      (updateDefaultRouteTarget id row.priority row.weight weighted)))
    (refreshed : P (.write .refreshRouteTarget always refreshCompatAuthorizations))
    (emptied : P (.empty .apiKeys)) : ∀ stage ∈ routeTargetStages id row patch, P stage := by
  unfold routeTargetStages
  split
  · simp [updated, refreshed, emptied]
  · simp

theorem optionStages_forall {P : AdminStage Overrides → Prop} (read : P (.query .requestOptions))
    (saved : ∀ timeout failover,
      P (.write .saveRequestOptions always (saveRequestOptions id timeout failover))) :
    ∀ stage ∈ optionStages id patch, P stage := by
  unfold optionStages
  split
  · simp [read, saved]
  · simp

theorem purgeStages_forall {P : AdminStage Overrides → Prop}
    (affinity : P (.empty (.affinity id))) (runtime : P (.empty (.providerRuntime id))) :
    ∀ stage ∈ purgeStages id row, P stage := by
  unfold purgeStages
  split
  · simp
  · simp [affinity, runtime]

theorem keyGroupStages_forall {P : AdminStage Overrides → Prop}
    (replaced : ∀ groups, P (.write .replaceApiKeyProviderGroups always
      (replaceApiKeyProviderGroups id groups)))
    (refreshed : P (.write .refreshApiKeyGroups always refreshCompatAuthorizations)) :
    ∀ stage ∈ keyGroupStages id keyPatch, P stage := by
  unfold keyGroupStages
  split
  · simp
  · rename_i groups _
    simp [replaced groups, refreshed]

theorem allowedStages_forall {P : AdminStage Overrides → Prop}
    (replaced : ∀ ids, P (.write .replaceAllowedProviders always (replaceAllowedProviders id ids))) :
    ∀ stage ∈ allowedStages id keyPatch, P stage := by
  unfold allowedStages
  split
  · simp
  · rename_i ids _
    simp [replaced ids]

theorem adaptStages_forall {P : AdminStage Overrides → Prop} (read : P (.query .routePolicies))
    (deleted : ∀ policies : HashMap String RoutePolicy → HashMap String RoutePolicy,
      P (.write .deleteRoutePolicy always fun store =>
        { store with policies := policies store.policies }))
    (saved : ∀ policies : HashMap String RoutePolicy → HashMap String RoutePolicy,
      P (.write .saveRoutePolicy always fun store =>
        { store with policies := policies store.policies })) :
    ∀ stage ∈ adaptStages store model body, P stage := by
  unfold adaptStages
  split
  · intro stage there
    rw [List.mem_singleton.mp there]
    exact deleted fun policies => if model = "*" then policies else policies.erase model
  · intro stage there
    rcases List.mem_cons.mp there with rfl | there
    · exact read
    · split at there
      · cases there
      · rename_i default _
        rw [List.mem_singleton.mp there]
        exact saved fun policies => policies.insert model { default with
          modelName := model
          targets := default.targets.filter fun target =>
            body.providerIds.any fun id => target.providerId = (id : Int) }

theorem updateDefaultRouteTarget_keeps (priority weight : I32) (weighted : Bool) :
    (((updateDefaultRouteTarget id priority weight weighted store).policies.lookup "*").isSome) =
      (store.policies.lookup "*").isSome := by
  unfold updateDefaultRouteTarget
  split
  · rfl
  · rename_i policy found
    simp [found]

theorem providerStages_forall {P : AdminStage Overrides → Prop}
    (updated : P (.write .updateUpstreamProvider always
      (fun store => { store with providers := store.providers.insert id row })))
    (groups : ∀ stage ∈ groupStages id patch, P stage)
    (targets : ∀ stage ∈ routeTargetStages id row patch, P stage)
    (options : ∀ stage ∈ optionStages id patch, P stage)
    (purges : ∀ stage ∈ purgeStages id row, P stage) (apiKeys : P (.empty .apiKeys))
    (upstream : P (.empty .upstream)) : ∀ stage ∈ providerStages id row patch, P stage := by
  intro stage there
  simp only [providerStages, List.cons_append, List.mem_cons, List.mem_append, List.not_mem_nil,
    or_false] at there
  rcases there with rfl | (((there | there) | there) | rfl | there) | rfl
  · exact updated
  · exact groups stage there
  · exact targets stage there
  · exact options stage there
  · exact apiKeys
  · exact purges stage there
  · exact upstream

theorem providerStages_steady : Stage.Steady (providerStages id row patch) := by
  apply Stage.Steady.of_view (fun store => (store.policies.lookup "*").isSome)
  · refine providerStages_forall id row patch ?_ ?_ ?_ ?_ ?_ ?_ ?_
    · exact fun _ => rfl
    · exact groupStages_forall id patch (fun _ _ => rfl) (fun _ => rfl)
    · exact routeTargetStages_forall id row patch
        (fun weighted store => updateDefaultRouteTarget_keeps store id row.priority row.weight weighted)
        (fun _ => rfl) (fun _ => rfl)
    · exact optionStages_forall id patch (fun _ => rfl) (fun _ _ _ => rfl)
    · exact purgeStages_forall id row (fun _ => rfl) (fun _ => rfl)
    · exact fun _ => rfl
    · exact fun _ => rfl
  · have target_looks : ∀ weighted : Bool, Stage.Looks (fun store => (store.policies.lookup "*").isSome)
        (.write .updateDefaultRouteTarget (fun store => (store.policies.lookup "*").isSome)
          (updateDefaultRouteTarget id row.priority row.weight weighted) : AdminStage Overrides) := by
      intro weighted fails before after same
      simp only [Stage.stops, same]
    refine providerStages_forall id row patch ?_ ?_ ?_ ?_ ?_ ?_ ?_
    · exact fun _ _ _ _ => rfl
    · exact groupStages_forall id patch (fun _ _ _ _ _ => rfl) (fun _ _ _ _ => rfl)
    · exact routeTargetStages_forall id row patch target_looks (fun _ _ _ _ => rfl)
        (fun _ _ _ _ => rfl)
    · exact optionStages_forall id patch (fun _ _ _ _ => rfl) (fun _ _ _ _ _ _ => rfl)
    · exact purgeStages_forall id row (fun _ _ _ _ => rfl) (fun _ _ _ _ => rfl)
    · exact fun _ _ _ _ => rfl
    · exact fun _ _ _ _ => rfl

theorem providerStages_closing :
    Closing .updateUpstreamProvider .upstream (providerStages id row patch) where
  steady := providerStages_steady id row patch
  shape := by
    refine ⟨_, _, _, rfl, ?_⟩
    simp only [List.forall_mem_cons, List.forall_mem_append]
    refine ⟨⟨⟨?_, ?_⟩, ?_⟩, nofun, ?_⟩
    · exact groupStages_forall id patch (fun _ => nofun) nofun
    · exact routeTargetStages_forall id row patch (fun _ => nofun) nofun nofun
    · exact optionStages_forall id patch nofun (fun _ _ => nofun)
    · exact purgeStages_forall id row nofun nofun

theorem apiKeyStages_forall {P : AdminStage Overrides → Prop}
    (updated : P (.write .updateApiKey always
      (fun store => { store with apiKeys := store.apiKeys.insert id key })))
    (groups : ∀ stage ∈ keyGroupStages id keyPatch, P stage)
    (allowed : ∀ stage ∈ allowedStages id keyPatch, P stage) (apiKeys : P (.empty .apiKeys)) :
    ∀ stage ∈ apiKeyStages id key keyPatch, P stage := by
  intro stage there
  simp only [apiKeyStages, List.cons_append, List.mem_cons, List.mem_append, List.not_mem_nil,
    or_false] at there
  rcases there with rfl | (there | there) | rfl
  · exact updated
  · exact groups stage there
  · exact allowed stage there
  · exact apiKeys

theorem apiKeyStages_closing :
    Closing .updateApiKey .apiKeys (apiKeyStages id key keyPatch : List (AdminStage Overrides)) where
  steady := by
    apply Stage.Steady.of_view (fun _ => ())
    · exact fun _ _ _ => rfl
    · refine apiKeyStages_forall id key keyPatch ?_ ?_ ?_ ?_
      · exact fun _ _ _ _ => rfl
      · exact keyGroupStages_forall id keyPatch (fun _ _ _ _ _ => rfl) (fun _ _ _ _ => rfl)
      · exact allowedStages_forall id keyPatch (fun _ _ _ _ _ => rfl)
      · exact fun _ _ _ _ => rfl
  shape := by
    refine ⟨_, _, _, rfl, ?_⟩
    simp only [List.forall_mem_append]
    constructor
    · exact keyGroupStages_forall id keyPatch (fun _ => nofun) nofun
    · exact allowedStages_forall id keyPatch (fun _ => nofun)

theorem routeStages_forall {P : AdminStage Overrides → Prop}
    (updated : P (.write .upsertModelRoute
      (fun store => body.providerIds.all fun id => (store.providers.lookup id).isSome)
      (upsertModelRoute model body now)))
    (adapted : ∀ stage ∈ adaptStages store model body, P stage) (upstream : P (.empty .upstream)) :
    ∀ stage ∈ routeStages store model body now, P stage := by
  intro stage there
  simp only [routeStages, List.cons_append, List.mem_cons, List.mem_append, List.not_mem_nil,
    or_false] at there
  rcases there with rfl | there | rfl
  · exact updated
  · exact adapted stage there
  · exact upstream

theorem routeStages_closing :
    Closing .upsertModelRoute .upstream (routeStages store model body now) where
  steady := by
    apply Stage.Steady.of_view AdminStore.providers
    · refine routeStages_forall store model body now ?_ ?_ ?_
      · exact fun _ => rfl
      · exact adaptStages_forall store model body (fun _ => rfl) (fun _ _ => rfl) (fun _ _ => rfl)
      · exact fun _ => rfl
    · refine routeStages_forall store model body now ?_ ?_ ?_
      · intro fails before after same
        simp only [Stage.stops, same]
      · exact adaptStages_forall store model body (fun _ _ _ _ => rfl) (fun _ _ _ _ _ => rfl)
          (fun _ _ _ _ _ => rfl)
      · exact fun _ _ _ _ => rfl
  shape := by
    refine ⟨_, _, _, rfl, ?_⟩
    exact adaptStages_forall store model body nofun (fun _ => nofun) (fun _ => nofun)

end Shapes

end CodexGate.Admin
