import CodexGate.Admin.Stages

namespace CodexGate.Admin

open Foundation Authorization Routing

variable {Overrides : Type}

def planned (validateOverrides : Overrides → Except String Unit) (fails : DbStep → Bool)
    (store : AdminStore Overrides) (now : Int) (request : AdminRequest Overrides) :
    List (AdminStage Overrides) :=
  match plan validateOverrides fails store now request with
  | .error _ => []
  | .ok stages => stages

def Whole (store : AdminStore Overrides) (stages : List (AdminStage Overrides))
    (progress : Progress DbStep (AdminStore Overrides) Memory) : Prop :=
  (progress.committed = [] ∧ progress.store = store) ∨
    (progress.committed = Stage.writes stages ∧
      progress.store = stages.foldl Stage.changed store)

def Invalidated (progress : Progress DbStep (AdminStore Overrides) Memory) : Prop :=
  progress.unseen .apiKeys = [] ∧ progress.unseen .upstream = []

def DbStep.concerns (name : DbStep) (cache : Memory) : Bool :=
  name.tables.any fun table => table ∈ cache.tables

/-- Each cache has been emptied since the last commit to a table it is loaded from. -/
def Current (progress : Progress DbStep (AdminStore Overrides) Memory) : Prop :=
  ∀ cache, ∀ name ∈ progress.unseen cache, name.concerns cache = false

def AdminRequest.updatesProvider : AdminRequest Overrides → Bool
  | updateProvider .. => true
  | updateApiKey .. | upsertRoute .. => false

section Kept

variable {fails : DbStep → Bool} {store : AdminStore Overrides} {name : DbStep} {cache : Memory}
  {stages : List (AdminStage Overrides)}

theorem begun_kept (store : AdminStore Overrides) (stages : List (AdminStage Overrides)) :
    Whole store stages (begun store) ∧ Invalidated (begun store) ∧ Current (begun store) := by
  have current : Current (begun store) := fun cache name unseen => by cases unseen
  exact ⟨.inl ⟨rfl, rfl⟩, ⟨rfl, rfl⟩, current⟩

theorem Closing.begun (closing : Closing name cache stages)
    (nothing : WritesNothing fails store stages) :
    (Stage.perform fails stages (Admin.begun store)).1 = Admin.begun store := by
  rw [perform_writesNothing nothing closing.nonempty]

theorem Closing.settled (closing : Closing name cache stages)
    (seen : (Stage.perform fails stages (Admin.begun store)).1.unseen cache = []) :
    WritesNothing fails store stages ∨ Goes fails store stages := by
  by_contra neither
  have both := not_or.mp neither
  have unseen := closing.unseen both.1 both.2
  rw [seen] at unseen
  cases unseen

theorem concerns_affinity (name : DbStep) (provider : Nat) :
    name.concerns (.affinity provider) = false := by
  simp [DbStep.concerns, Memory.tables]

theorem concerns_providerRuntime (name : DbStep) (provider : Nat) :
    name.concerns (.providerRuntime provider) = false := by
  simp [DbStep.concerns, Memory.tables]

theorem Closing.current_iff (closing : Closing name cache stages) (loaded : name.concerns cache = true)
    (others : Goes fails store stages → ∀ other, other ≠ cache →
      ∀ name ∈ (Stage.perform fails stages (Admin.begun store)).1.unseen other,
        name.concerns other = false) :
    (Whole store stages (Stage.perform fails stages (Admin.begun store)).1 ∧
      Current (Stage.perform fails stages (Admin.begun store)).1) ↔
      WritesNothing fails store stages ∨ Goes fails store stages := by
  constructor
  · rintro ⟨-, current⟩
    by_contra neither
    have both := not_or.mp neither
    have missed := current cache name (closing.unseen both.1 both.2)
    rw [loaded] at missed
    cases missed
  · intro settled
    rcases settled with nothing | goes
    · rw [closing.begun nothing]
      exact ⟨(begun_kept store stages).1, (begun_kept store stages).2.2⟩
    · constructor
      · exact .inr (closing.whole goes).symm
      · intro other name unseen
        by_cases same : other = cache
        · rw [same, closing.seen goes] at unseen
          cases unseen
        · exact others goes other same name unseen

theorem Closing.never_seen {other : Memory} (closing : Closing name cache stages)
    (kept : ∀ stage ∈ stages, ¬ stage.Empties other) (goes : Goes fails store stages) :
    (Stage.perform fails stages (Admin.begun store)).1.unseen other ≠ [] := by
  intro seen
  obtain ⟨names, unseen, committed⟩ := Stage.perform_unseen fails (Admin.begun store) kept
  have nothing : names = [] := by simpa [Admin.begun] using unseen.symm.trans seen
  have whole := (closing.whole goes).2
  rw [committed, nothing] at whole
  have first := closing.writes
  rw [← whole] at first
  cases first

end Kept

section Handlers

variable (fails : DbStep → Bool) (store : AdminStore Overrides) (id : Nat)
  (row : ProviderRow Overrides) (patch : PatchProviderReq Overrides) (key : ApiKeyRow)
  (keyPatch : PatchApiKeyReq) (model : String) (body : UpsertRouteReq) (now : Int)

theorem providerStages_apiKeys (goes : Goes fails store (providerStages id row patch)) :
    (Stage.perform fails (providerStages id row patch) (begun store)).1.unseen .apiKeys = [] := by
  have done := (providerStages_closing id row patch).goes.mpr goes
  have purged : Stage.writes (purgeStages id row ++ [.empty .upstream]) = [] := by
    unfold purgeStages
    split <;> rfl
  have split_there : providerStages id row patch =
      (.write .updateUpstreamProvider always
          (fun store => { store with providers := store.providers.insert id row }) ::
        (groupStages id patch ++ routeTargetStages id row patch ++ optionStages id patch)) ++
        .empty .apiKeys :: (purgeStages id row ++ [.empty .upstream]) := by
    simp [providerStages]
  rw [split_there] at done ⊢
  exact Stage.unseen_emptied purged done

theorem provider_kept :
    (Whole store (providerStages id row patch)
        (Stage.perform fails (providerStages id row patch) (begun store)).1 ∧
      Invalidated (Stage.perform fails (providerStages id row patch) (begun store)).1) ↔
      WritesNothing fails store (providerStages id row patch) ∨
        Goes fails store (providerStages id row patch) := by
  have closing := providerStages_closing id row patch
  constructor
  · intro kept
    exact closing.settled kept.2.2
  · intro settled
    rcases settled with nothing | goes
    · rw [closing.begun nothing]
      exact ⟨(begun_kept store _).1, (begun_kept store []).2.1⟩
    · have apiKeys := providerStages_apiKeys fails store id row patch goes
      exact ⟨.inr (closing.whole goes).symm, apiKeys, closing.seen goes⟩

theorem provider_current :
    (Whole store (providerStages id row patch)
        (Stage.perform fails (providerStages id row patch) (begun store)).1 ∧
      Current (Stage.perform fails (providerStages id row patch) (begun store)).1) ↔
      WritesNothing fails store (providerStages id row patch) ∨
        Goes fails store (providerStages id row patch) := by
  apply (providerStages_closing id row patch).current_iff rfl
  intro goes other apart name unseen
  cases other with
  | apiKeys =>
    rw [providerStages_apiKeys fails store id row patch goes] at unseen
    cases unseen
  | upstream => exact absurd rfl apart
  | affinity provider => exact concerns_affinity name provider
  | providerRuntime provider => exact concerns_providerRuntime name provider

theorem apiKey_kept :
    (Whole store (apiKeyStages id key keyPatch)
        (Stage.perform fails (apiKeyStages id key keyPatch) (begun store)).1 ∧
      Invalidated (Stage.perform fails (apiKeyStages id key keyPatch) (begun store)).1) ↔
      WritesNothing fails store (apiKeyStages id key keyPatch) := by
  have closing : Closing .updateApiKey .apiKeys
      (apiKeyStages id key keyPatch : List (AdminStage Overrides)) :=
    apiKeyStages_closing id key keyPatch
  have never : ∀ stage ∈ (apiKeyStages id key keyPatch : List (AdminStage Overrides)),
      ¬ stage.Empties .upstream :=
    apiKeyStages_forall id key keyPatch nofun (keyGroupStages_forall id keyPatch (fun _ => nofun) nofun)
      (allowedStages_forall id keyPatch fun _ => nofun) nofun
  constructor
  · intro kept
    rcases closing.settled kept.2.1 with nothing | goes
    · exact nothing
    · exact absurd kept.2.2 (closing.never_seen never goes)
  · intro nothing
    rw [closing.begun nothing]
    exact ⟨(begun_kept store _).1, (begun_kept store []).2.1⟩

theorem unseen_writes {stages : List (AdminStage Overrides)} {cache : Memory} {P : DbStep → Prop}
    (each : ∀ stage ∈ stages, stage.Writes P) :
    ∀ name ∈ (Stage.perform fails stages (begun store)).1.unseen cache, P name := by
  intro name unseen
  rcases Stage.mem_unseen stages unseen with there | there
  · cases there
  · exact Stage.writes_forall each name there

theorem apiKey_current :
    (Whole store (apiKeyStages id key keyPatch)
        (Stage.perform fails (apiKeyStages id key keyPatch) (begun store)).1 ∧
      Current (Stage.perform fails (apiKeyStages id key keyPatch) (begun store)).1) ↔
      WritesNothing fails store (apiKeyStages id key keyPatch) ∨
        Goes fails store (apiKeyStages id key keyPatch) := by
  apply (apiKeyStages_closing id key keyPatch).current_iff rfl
  intro goes other apart name unseen
  cases other with
  | apiKeys => exact absurd rfl apart
  | upstream =>
    have elsewhere : ∀ stage ∈ (apiKeyStages id key keyPatch : List (AdminStage Overrides)),
        stage.Writes fun name => name.concerns .upstream = false :=
      apiKeyStages_forall id key keyPatch rfl (keyGroupStages_forall id keyPatch (fun _ => rfl) rfl)
        (allowedStages_forall id keyPatch fun _ => rfl) trivial
    exact unseen_writes fails store elsewhere name unseen
  | affinity provider => exact concerns_affinity name provider
  | providerRuntime provider => exact concerns_providerRuntime name provider

theorem route_kept :
    (Whole store (routeStages store model body now)
        (Stage.perform fails (routeStages store model body now) (begun store)).1 ∧
      Invalidated (Stage.perform fails (routeStages store model body now) (begun store)).1) ↔
      WritesNothing fails store (routeStages store model body now) := by
  have closing := routeStages_closing store model body now
  have never : ∀ stage ∈ routeStages store model body now, ¬ stage.Empties .apiKeys :=
    routeStages_forall store model body now nofun
      (adaptStages_forall store model body nofun (fun _ => nofun) (fun _ => nofun)) nofun
  constructor
  · intro kept
    rcases closing.settled kept.2.2 with nothing | goes
    · exact nothing
    · exact absurd kept.2.1 (closing.never_seen never goes)
  · intro nothing
    rw [closing.begun nothing]
    exact ⟨(begun_kept store _).1, (begun_kept store []).2.1⟩

theorem route_current :
    (Whole store (routeStages store model body now)
        (Stage.perform fails (routeStages store model body now) (begun store)).1 ∧
      Current (Stage.perform fails (routeStages store model body now) (begun store)).1) ↔
      WritesNothing fails store (routeStages store model body now) ∨
        Goes fails store (routeStages store model body now) := by
  apply (routeStages_closing store model body now).current_iff rfl
  intro goes other apart name unseen
  cases other with
  | apiKeys =>
    have elsewhere : ∀ stage ∈ routeStages store model body now,
        stage.Writes fun name => name.concerns .apiKeys = false :=
      routeStages_forall store model body now rfl
        (adaptStages_forall store model body trivial (fun _ => rfl) (fun _ => rfl)) trivial
    exact unseen_writes fails store elsewhere name unseen
  | upstream => exact absurd rfl apart
  | affinity provider => exact concerns_affinity name provider
  | providerRuntime provider => exact concerns_providerRuntime name provider

end Handlers

section Requests

variable (validateOverrides : Overrides → Except String Unit) (fails : DbStep → Bool)
  (store : AdminStore Overrides) (now : Int)

theorem planned_cases (request : AdminRequest Overrides) :
    planned validateOverrides fails store now request = [] ∨
      match request with
      | .updateProvider id _ patch =>
        ∃ row, planned validateOverrides fails store now request = providerStages id row patch
      | .updateApiKey id patch =>
        ∃ row, planned validateOverrides fails store now request = apiKeyStages id row patch
      | .upsertRoute model body =>
        planned validateOverrides fails store now request = routeStages store model body now := by
  cases request with
  | updateProvider id modern patch =>
    simp only [planned, plan]
    cases checkedProvider validateOverrides fails store id modern patch now with
    | error answer => exact .inl rfl
    | ok row => exact .inr ⟨row, rfl⟩
  | updateApiKey id patch =>
    simp only [planned, plan]
    cases checkedApiKey fails store id patch now with
    | error answer => exact .inl rfl
    | ok row => exact .inr ⟨row, rfl⟩
  | upsertRoute model body =>
    by_cases nameless : model = ""
    · exact .inl (by simp [planned, plan, refuseIf, refuse, nameless, bind, Except.bind])
    · exact .inr (by simp [planned, plan, refuseIf, nameless, bind, Except.bind, pure, Except.pure])

theorem handle_progress (request : AdminRequest Overrides) :
    (handle validateOverrides fails store now request).2 =
      (Stage.perform fails (planned validateOverrides fails store now request) (begun store)).1 := by
  unfold handle planned
  cases plan validateOverrides fails store now request with
  | error answer => rfl
  | ok stages =>
    dsimp only
    split <;> rename_i performed <;> rw [performed]

/-- A request keeps its promise if it is refused or fails at its first write, and one that updates a
provider also if nothing fails. The caches that are loaded from what was written are current in just
these cases, and for every request that nothing stops. -/
theorem handle_kept (request : AdminRequest Overrides) :
    let stages := planned validateOverrides fails store now request
    let progress := (handle validateOverrides fails store now request).2
    (Whole store stages progress ∧ Invalidated progress ↔
        WritesNothing fails store stages ∨
          (request.updatesProvider = true ∧ Goes fails store stages)) ∧
      (Whole store stages progress ∧ Current progress ↔
        WritesNothing fails store stages ∨ Goes fails store stages) := by
  intro stages progress
  have same : progress = (Stage.perform fails stages (begun store)).1 :=
    handle_progress validateOverrides fails store now request
  rw [same]
  rcases planned_cases validateOverrides fails store now request with refused | runs
  · have none_left : stages = [] := refused
    have nothing : WritesNothing fails store stages := by
      rw [none_left]
      exact fun first there => by cases there
    have kept := begun_kept store stages
    have still : (Stage.perform fails stages (begun store)).1 = begun store := by
      rw [none_left]
      rfl
    rw [still]
    exact ⟨iff_of_true ⟨kept.1, kept.2.1⟩ (.inl nothing), iff_of_true ⟨kept.1, kept.2.2⟩ (.inl nothing)⟩
  · cases request with
    | updateProvider id modern patch =>
      obtain ⟨row, there⟩ := runs
      have stages_eq : stages = providerStages id row patch := there
      rw [stages_eq]
      have kept := provider_kept fails store id row patch
      have current := provider_current fails store id row patch
      simp only [AdminRequest.updatesProvider, true_and]
      exact ⟨kept, current⟩
    | updateApiKey id patch =>
      obtain ⟨row, there⟩ := runs
      have stages_eq : stages = apiKeyStages id row patch := there
      rw [stages_eq]
      have kept := apiKey_kept fails store id row patch
      have current := apiKey_current fails store id row patch
      simp only [AdminRequest.updatesProvider, Bool.false_eq_true, false_and, or_false]
      exact ⟨kept, current⟩
    | upsertRoute model body =>
      have stages_eq : stages = routeStages store model body now := runs
      rw [stages_eq]
      have kept := route_kept fails store model body now
      have current := route_current fails store model body now
      simp only [AdminRequest.updatesProvider, Bool.false_eq_true, false_and, or_false]
      exact ⟨kept, current⟩

end Requests

section Disabled

abbrev soundProvider : ProviderRow Unit where
  name := "primary"
  providerType := "openai"
  enabled := true
  priority := i32 100
  weight := i32 1
  supportsIncludeUsage := true
  websocketEnabled := false
  betaFeatures := []
  requestOverrides := ()
  keySelectionStrategy := "round_robin"
  maxAttempts := 1
  maxConcurrency := none
  circuitBreakerEnabled := true
  circuitBreakerFailureThreshold := 5
  circuitBreakerOpenMs := 30000
  circuitBreakerHalfOpenSuccessThreshold := 1
  updatedAtMs := 0

abbrev oneProvider : AdminStore Unit where
  auth :=
    { keys := ∅, groups := ∅, providers := {1}, keyGroups := ∅, providerGroups := ∅, recorded := ∅
      direct := ∅, allowed := ∅ }
  providers := AList.singleton 1 soundProvider
  requestOptions := ∅
  apiKeys := ∅
  routes := ∅
  policies := ∅

abbrev disabling : AdminRequest Unit :=
  .updateProvider 1 true
    { maxRetries := none, requestTimeoutMs := some (some 5000), endpointFailover := none
      name := none, providerType := none, enabled := some false, priority := none, weight := none
      supportsIncludeUsage := none, websocketEnabled := none, betaFeatures := none
      requestOverrides := none, keySelectionStrategy := none, groups := none, maxAttempts := none
      maxConcurrency := none, circuitBreakerEnabled := none, circuitBreakerFailureThreshold := none
      circuitBreakerOpenMs := none, circuitBreakerHalfOpenSuccessThreshold := none }

/-- The provider is disabled in the table alone when the stored options cannot be read. -/
theorem handle_half_done :
    let fails : DbStep → Bool := fun step => step = .requestOptions
    let handled := handle (fun _ => .ok ()) fails oneProvider 9 disabling
    handled.1 = .failed ∧
      (handled.2.store.providers.lookup 1).map ProviderRow.enabled = some false ∧
      handled.2.store.requestOptions.lookup 1 = none ∧
      ¬ (Whole oneProvider (planned (fun _ => .ok ()) fails oneProvider 9 disabling) handled.2 ∧
        Invalidated handled.2) := by
  intro fails handled
  have unseen : handled.2.unseen .upstream = [.updateUpstreamProvider] := by decide
  refine ⟨by decide, by decide, by decide, ?_⟩
  rintro ⟨-, -, upstream⟩
  rw [unseen] at upstream
  cases upstream

end Disabled

end CodexGate.Admin
