import CodexGate.Pricing.Evaluation
import CodexGate.Routing.Availability

namespace CodexGate.Pricing

open Foundation Routing

structure PricedSnapshot (Decimal : Type) extends UpstreamSnapshot where
  providerPricesByModel : HashMap Int (HashMap String (PriceVersion Decimal))
  globalPricesByModel : HashMap String (PriceVersion Decimal)

namespace PricedSnapshot

variable {Decimal : Type} (snap : PricedSnapshot Decimal)

def findPrice (providerId : Int) (modelName : String) : Option (PriceVersion Decimal) :=
  ((snap.providerPricesByModel.lookup providerId).bind fun items => items.lookup modelName).or
    (snap.globalPricesByModel.lookup modelName)

def findPriceForRequest (providerId : Int) (requestedModel upstreamModel : String) :
    Option (PriceVersion Decimal) :=
  (snap.findPrice providerId upstreamModel).or
    (if requestedModel = upstreamModel then none else snap.findPrice providerId requestedModel)

def legacyTargets (providerId : Int) (requestedModel : String) : List String :=
  match snap.aliasToProviderModel.lookup requestedModel with
  | some target =>
    if target.providerId = providerId && target.enabled then [target.upstreamModel] else []
  | none => []

def aliasTargets (providerId : Int) (requestedModel : String) : List String :=
  match snap.modelAliasesByName.lookup requestedModel with
  | some modelAlias =>
    if modelAlias.enabled then
      (((snap.aliasTargetsByAlias.lookup modelAlias.id).getD []).filter fun target =>
        target.providerId = providerId && target.enabled).map (·.upstreamModel)
    else []
  | none => []

def upstreamModels (providerId : Int) (requestedModel : String) : List String :=
  let models := (snap.legacyTargets providerId requestedModel ++
    snap.aliasTargets providerId requestedModel).dedup.mergeSort (· ≤ ·)
  if models.isEmpty then [requestedModel] else models

def commonPrice (common : Option (Option (PriceVersion Decimal))) :
    List (Option (PriceVersion Decimal)) → Option (Option (Option (PriceVersion Decimal)))
  | [] => some common
  | effective :: rest =>
    match common with
    | some existing =>
      if existing.map (·.id) ≠ effective.map (·.id) then none else commonPrice common rest
    | none => commonPrice (some effective) rest

def findPriceForHistoricalRequest (providerId : Int) (requestedModel : String) :
    Option (PriceVersion Decimal) :=
  let requestedPrice := snap.findPrice providerId requestedModel
  let effective := (snap.upstreamModels providerId requestedModel).map fun upstreamModel =>
    (snap.findPrice providerId upstreamModel).or requestedPrice
  (commonPrice none effective).bind fun common => common.join.or requestedPrice

inductive TargetOf (providerId : Int) (requestedModel upstreamModel : String) : Prop
  | legacy (target : ProviderModelAliasTarget)
    (found : snap.aliasToProviderModel.lookup requestedModel = some target)
    (enabled : target.enabled = true) (provider : target.providerId = providerId)
    (model : target.upstreamModel = upstreamModel)
  | modelAlias (modelAlias : ModelAlias) (targets : List ModelAliasTarget) (target : ModelAliasTarget)
    (named : snap.modelAliasesByName.lookup requestedModel = some modelAlias)
    (aliasEnabled : modelAlias.enabled = true)
    (found : snap.aliasTargetsByAlias.lookup modelAlias.id = some targets) (member : target ∈ targets)
    (enabled : target.enabled = true) (provider : target.providerId = providerId)
    (model : target.upstreamModel = upstreamModel)

def Identified : Prop :=
  ∀ providerId modelName otherId otherName version other,
    snap.findPrice providerId modelName = some version →
      snap.findPrice otherId otherName = some other → version.id = other.id → version = other

section Models

variable {snap} {providerId : Int} {requestedModel upstreamModel : String}

theorem mem_legacyTargets : upstreamModel ∈ snap.legacyTargets providerId requestedModel ↔
    ∃ target, snap.aliasToProviderModel.lookup requestedModel = some target ∧ target.enabled = true ∧
      target.providerId = providerId ∧ target.upstreamModel = upstreamModel := by
  unfold legacyTargets
  cases found : snap.aliasToProviderModel.lookup requestedModel with
  | none => simp
  | some target =>
    simp only [Option.some.injEq, exists_eq_left']
    split
    · rename_i chosen
      simp only [Bool.and_eq_true, decide_eq_true_eq] at chosen
      simp [chosen, eq_comm]
    · rename_i other
      simp only [Bool.and_eq_true, decide_eq_true_eq, not_and] at other
      simp only [List.not_mem_nil, false_iff, not_and]
      intro enabled provider
      exact absurd enabled (other provider)

theorem mem_aliasTargets : upstreamModel ∈ snap.aliasTargets providerId requestedModel ↔
    ∃ modelAlias targets target, snap.modelAliasesByName.lookup requestedModel = some modelAlias ∧
      modelAlias.enabled = true ∧ snap.aliasTargetsByAlias.lookup modelAlias.id = some targets ∧
      target ∈ targets ∧ target.enabled = true ∧ target.providerId = providerId ∧
      target.upstreamModel = upstreamModel := by
  unfold aliasTargets
  cases named : snap.modelAliasesByName.lookup requestedModel with
  | none => simp
  | some modelAlias =>
    dsimp only
    split
    · rename_i enabled
      cases found : snap.aliasTargetsByAlias.lookup modelAlias.id with
      | none => simp [found]
      | some targets =>
        simp only [Option.getD_some, List.mem_map, List.mem_filter, Bool.and_eq_true, decide_eq_true_eq]
        constructor
        · rintro ⟨target, ⟨member, provider, active⟩, model⟩
          exact ⟨modelAlias, targets, target, rfl, enabled, found, member, active, provider, model⟩
        · rintro ⟨other, others, target, same, -, found', member, active, provider, model⟩
          cases same
          cases found.symm.trans found'
          exact ⟨target, ⟨member, provider, active⟩, model⟩
    · rename_i disabled
      simp only [List.not_mem_nil, false_iff]
      rintro ⟨other, -, -, same, enabled, -⟩
      cases same
      exact disabled enabled

theorem targetOf_iff : snap.TargetOf providerId requestedModel upstreamModel ↔
    upstreamModel ∈ snap.legacyTargets providerId requestedModel ++
      snap.aliasTargets providerId requestedModel := by
  rw [List.mem_append, mem_legacyTargets, mem_aliasTargets]
  constructor
  · intro target
    cases target with
    | legacy target found enabled provider model => exact .inl ⟨target, found, enabled, provider, model⟩
    | modelAlias modelAlias targets target named aliasEnabled found member enabled provider model =>
      exact .inr ⟨modelAlias, targets, target, named, aliasEnabled, found, member, enabled, provider,
        model⟩
  · rintro (⟨target, found, enabled, provider, model⟩ |
      ⟨modelAlias, targets, target, named, aliasEnabled, found, member, enabled, provider, model⟩)
    · exact .legacy target found enabled provider model
    · exact .modelAlias modelAlias targets target named aliasEnabled found member enabled provider model

theorem mem_upstreamModels : upstreamModel ∈ snap.upstreamModels providerId requestedModel ↔
    snap.TargetOf providerId requestedModel upstreamModel ∨
      upstreamModel = requestedModel ∧ ∀ other, ¬ snap.TargetOf providerId requestedModel other := by
  simp only [targetOf_iff]
  unfold upstreamModels
  generalize snap.legacyTargets providerId requestedModel ++
    snap.aliasTargets providerId requestedModel = models
  dsimp only
  split
  · rename_i empty
    have none : models = [] := by
      refine List.eq_nil_iff_forall_not_mem.mpr fun other member => ?_
      have there : other ∈ models.dedup.mergeSort (· ≤ ·) := by simpa using member
      rw [List.isEmpty_iff.mp empty] at there
      cases there
    simp [none]
  · rename_i some
    have member : ∃ other, other ∈ models := by
      by_contra none
      apply some
      have nil : models = [] := List.eq_nil_iff_forall_not_mem.mpr (by simpa using none)
      simp [nil]
    obtain ⟨other, there⟩ := member
    simp only [List.mem_mergeSort, List.mem_dedup]
    constructor
    · exact .inl
    · rintro (here | ⟨-, nothing⟩)
      · exact here
      · exact absurd there (nothing other)

end Models

section Live

variable {snap} {apiFormat : ApiFormat} {allowResponsesViaChat : Bool} {requestedModel : String}

def FromTargets (targets : List ModelAliasTarget) (scan : RouteScan) : Prop :=
  ∀ route ∈ scan.routes, ∃ target ∈ targets, target.enabled = true ∧
    target.providerId = route.provider.id ∧ target.upstreamModel = route.upstreamModel

/-- Every route found so far is for the model, and for the provider if one is forced. -/
def FromModel (upstreamModel : String) (forcedProviderId : Option Int) (scan : RouteScan) : Prop :=
  ∀ route ∈ scan.routes, route.upstreamModel = upstreamModel ∧
    ∀ forced, forcedProviderId = some forced → route.provider.id = forced

theorem scanAliasTarget_target {targets : List ModelAliasTarget} {mode : String} {scan : RouteScan}
    {target : ModelAliasTarget} (member : target ∈ targets) (before : FromTargets targets scan) :
    FromTargets targets (scanAliasTarget snap.toUpstreamSnapshot apiFormat allowResponsesViaChat mode
      scan target) := by
  unfold scanAliasTarget
  split
  · exact before
  rename_i enabled
  split
  · exact before
  rename_i provider found
  have same : provider.id = target.providerId := by simpa using List.find?_some found
  split
  · exact before
  dsimp only
  split
  · exact before
  split
  · exact before
  split
  · exact before
  intro route there
  rcases List.mem_append.mp there with there | there
  · exact before route there
  · rw [List.mem_singleton] at there
    subst there
    exact ⟨target, member, by simpa using enabled, same.symm, rfl⟩

theorem scanProvider_model {upstreamModel : String} {forcedProviderId : Option Int} {scan : RouteScan}
    {provider : UpstreamProvider} (before : FromModel upstreamModel forcedProviderId scan) :
    FromModel upstreamModel forcedProviderId (scanProvider snap.toUpstreamSnapshot apiFormat
      allowResponsesViaChat upstreamModel forcedProviderId scan provider) := by
  unfold scanProvider
  split
  · exact before
  rename_i chosen
  split
  · exact before
  dsimp only
  split
  · exact before
  split
  · exact before
  intro route there
  rcases List.mem_append.mp there with there | there
  · exact before route there
  · rw [List.mem_singleton] at there
    subst there
    refine ⟨rfl, fun forced same => ?_⟩
    subst same
    have here : forced = provider.id := by simpa using chosen
    exact here.symm

theorem collectInner_upstreamModels {routes : List ProviderRoute} {diagnostics : RouteDiagnostics}
    (collected : collectProviderRoutesInner snap.toUpstreamSnapshot apiFormat allowResponsesViaChat
      requestedModel = .ok (routes, diagnostics)) :
    ∀ route ∈ routes, route.upstreamModel ∈ snap.upstreamModels route.provider.id requestedModel := by
  have fromProviders : ∀ upstreamModel forcedProviderId,
      (snap.providers.foldl (scanProvider snap.toUpstreamSnapshot apiFormat allowResponsesViaChat
        upstreamModel forcedProviderId) {}).finish requestedModel = .ok (routes, diagnostics) →
      ∀ route ∈ routes, route.upstreamModel = upstreamModel ∧
        ∀ forced, forcedProviderId = some forced → route.provider.id = forced := by
    intro upstreamModel forcedProviderId finished
    rw [finish_routes finished]
    have traced : FromModel upstreamModel forcedProviderId (snap.providers.foldl
        (scanProvider snap.toUpstreamSnapshot apiFormat allowResponsesViaChat upstreamModel
          forcedProviderId) {}) :=
      List.foldlRecOn (motive := FromModel upstreamModel forcedProviderId) snap.providers _
        (fun route there => by cases there) fun scan before provider _ => scanProvider_model before
    exact traced
  intro route member
  rw [mem_upstreamModels]
  unfold collectProviderRoutesInner at collected
  dsimp only at collected
  split at collected
  · cases collected
  split at collected
  · rename_i modelAlias named
    split at collected
    · cases collected
    rename_i enabled
    split at collected
    · cases collected
    rename_i targets found
    have traced : FromTargets targets (targets.foldl (scanAliasTarget snap.toUpstreamSnapshot apiFormat
        allowResponsesViaChat modelAlias.mode) {}) :=
      List.foldlRecOn (motive := FromTargets targets) targets _ (fun route there => by cases there)
        fun scan before target there => scanAliasTarget_target there before
    rw [finish_routes collected] at member
    obtain ⟨target, there, active, provider, model⟩ := traced route member
    exact .inl (.modelAlias modelAlias targets target named (by simpa using enabled) found there active
      provider model)
  · rename_i unnamed
    split at collected
    · rename_i target found
      split at collected
      · cases collected
      rename_i enabled
      split at collected
      · cases collected
      obtain ⟨model, provider⟩ := fromProviders _ _ collected route member
      exact .inl (.legacy target found (by simpa using enabled) (provider _ rfl).symm model.symm)
    · rename_i missing
      obtain ⟨model, -⟩ := fromProviders _ _ collected route member
      refine .inr ⟨model, fun other target => ?_⟩
      cases target with
      | legacy target found => cases missing.symm.trans found
      | modelAlias modelAlias targets target named => cases unnamed.symm.trans named

theorem collect_upstreamModels {routes : List ProviderRoute} {diagnostics : RouteDiagnostics}
    (collected : collectProviderRoutes snap.toUpstreamSnapshot apiFormat requestedModel
      allowResponsesViaChat = .ok (routes, diagnostics)) :
    ∀ route ∈ routes, route.upstreamModel ∈ snap.upstreamModels route.provider.id requestedModel := by
  intro route member
  unfold collectProviderRoutes at collected
  split at collected
  · cases collected
  rename_i inner innerDiagnostics gathered
  have traced := collectInner_upstreamModels gathered
  split at collected
  · cases collected
    exact traced route member
  dsimp only at collected
  split at collected
  · cases collected
  cases collected
  exact traced route (retainPolicyTargets_subset _ _ _ member)

end Live

theorem commonPrice_some (existing : Option (PriceVersion Decimal))
    (prices : List (Option (PriceVersion Decimal))) :
    commonPrice (some existing) prices =
      if ∀ price ∈ prices, existing.map (·.id) = price.map (·.id) then some (some existing) else none := by
  induction prices with
  | nil => rfl
  | cons price rest ih =>
    simp only [commonPrice, List.forall_mem_cons]
    by_cases same : existing.map (·.id) = price.map (·.id)
    · rw [if_neg (not_not_intro same), ih]
      exact if_congr (and_iff_right same).symm rfl rfl
    · rw [if_pos same, if_neg fun both => same both.1]

variable {snap}

theorem findPriceForRequest_eq (providerId : Int) (requestedModel upstreamModel : String) :
    snap.findPriceForRequest providerId requestedModel upstreamModel =
      (snap.findPrice providerId upstreamModel).or (snap.findPrice providerId requestedModel) := by
  unfold findPriceForRequest
  split
  · rename_i same
    rw [same, Option.or_none, Option.or_self]
  · rfl

theorem findPriceForHistoricalRequest_eq (providerId : Int) (requestedModel : String) :
    snap.findPriceForHistoricalRequest providerId requestedModel =
      (commonPrice none ((snap.upstreamModels providerId requestedModel).map
        (snap.findPriceForRequest providerId requestedModel))).bind fun common =>
          common.join.or (snap.findPrice providerId requestedModel) := by
  have live : (fun upstreamModel => (snap.findPrice providerId upstreamModel).or
      (snap.findPrice providerId requestedModel)) = snap.findPriceForRequest providerId requestedModel := by
    funext upstreamModel
    exact (findPriceForRequest_eq _ _ _).symm
  rw [← live]
  rfl

section Agreement

variable {providerId : Int} {requestedModel : String}

theorem findPriceForHistoricalRequest_first (snap : PricedSnapshot Decimal) (providerId : Int) (requestedModel : String) :
    ∃ first ∈ snap.upstreamModels providerId requestedModel,
      snap.findPriceForHistoricalRequest providerId requestedModel =
        if ∀ other ∈ snap.upstreamModels providerId requestedModel,
          (snap.findPriceForRequest providerId requestedModel first).map (·.id) =
            (snap.findPriceForRequest providerId requestedModel other).map (·.id)
        then snap.findPriceForRequest providerId requestedModel first else none := by
  rw [findPriceForHistoricalRequest_eq]
  cases models : snap.upstreamModels providerId requestedModel with
  | nil =>
    have nothing : ∀ other, ¬ snap.TargetOf providerId requestedModel other := by
      intro other target
      have member := mem_upstreamModels.mpr (.inl target)
      rw [models] at member
      cases member
    have member := mem_upstreamModels.mpr (.inr ⟨rfl, nothing⟩)
    rw [models] at member
    cases member
  | cons first rest =>
    refine ⟨first, List.mem_cons_self, ?_⟩
    simp only [List.map_cons, commonPrice, commonPrice_some, List.forall_mem_cons, List.forall_mem_map,
      true_and]
    split
    · rw [Option.bind_some, Option.join_some, findPriceForRequest_eq, Option.or_assoc, Option.or_self]
    · rfl

theorem findPriceForRequest_of_historical {version : PriceVersion Decimal}
    (found : snap.findPriceForHistoricalRequest providerId requestedModel = some version)
    {upstreamModel : String} (member : upstreamModel ∈ snap.upstreamModels providerId requestedModel) :
    ∃ live, snap.findPriceForRequest providerId requestedModel upstreamModel = some live ∧
      live.id = version.id := by
  obtain ⟨first, -, result⟩ := findPriceForHistoricalRequest_first snap providerId requestedModel
  rw [result] at found
  split at found
  · rename_i same
    have ids := same upstreamModel member
    rw [found, Option.map_some, eq_comm, Option.map_eq_some_iff] at ids
    exact ids
  · cases found

theorem findPriceForRequest_priced {upstreamModel : String} {version : PriceVersion Decimal}
    (found : snap.findPriceForRequest providerId requestedModel upstreamModel = some version) :
    ∃ modelName, snap.findPrice providerId modelName = some version := by
  rw [findPriceForRequest_eq, Option.or_eq_some_iff] at found
  rcases found with found | ⟨-, found⟩
  · exact ⟨_, found⟩
  · exact ⟨_, found⟩

theorem historical_missing (missing : snap.findPriceForHistoricalRequest providerId requestedModel = none)
    {upstreamModel : String} (member : upstreamModel ∈ snap.upstreamModels providerId requestedModel) :
    snap.findPriceForRequest providerId requestedModel upstreamModel = none ∨
      ∃ one other, snap.TargetOf providerId requestedModel one ∧
        snap.TargetOf providerId requestedModel other ∧
        (snap.findPriceForRequest providerId requestedModel one).map (·.id) ≠
          (snap.findPriceForRequest providerId requestedModel other).map (·.id) := by
  obtain ⟨first, there, result⟩ := findPriceForHistoricalRequest_first snap providerId requestedModel
  rw [result] at missing
  split at missing
  · rename_i same
    have ids := same upstreamModel member
    rw [missing, Option.map_none, eq_comm, Option.map_eq_none_iff] at ids
    exact .inl ids
  · rename_i differ
    push Not at differ
    obtain ⟨other, member', apart⟩ := differ
    right
    rcases mem_upstreamModels.mp there with target | ⟨rfl, nothing⟩
    · rcases mem_upstreamModels.mp member' with target' | ⟨-, nothing⟩
      · exact ⟨first, other, target, target', apart⟩
      · exact absurd target (nothing first)
    · rcases mem_upstreamModels.mp member' with target' | ⟨rfl, -⟩
      · exact absurd target' (nothing other)
      · exact absurd rfl apart

end Agreement

structure HistoricalAgrees (snap : PricedSnapshot Decimal) (providerId : Int) (requestedModel : String)
    (routes : List ProviderRoute) : Prop where
  found : ∀ version, snap.findPriceForHistoricalRequest providerId requestedModel = some version →
    ∀ route ∈ routes, route.provider.id = providerId →
      ∃ live, snap.findPriceForRequest providerId requestedModel route.upstreamModel = some live ∧
        live.id = version.id ∧ (snap.Identified → live = version)
  missing : snap.findPriceForHistoricalRequest providerId requestedModel = none →
    ∀ route ∈ routes, route.provider.id = providerId →
      snap.findPriceForRequest providerId requestedModel route.upstreamModel = none ∨
        ∃ one other, snap.TargetOf providerId requestedModel one ∧
          snap.TargetOf providerId requestedModel other ∧
          (snap.findPriceForRequest providerId requestedModel one).map (·.id) ≠
            (snap.findPriceForRequest providerId requestedModel other).map (·.id)

theorem historical_agrees (snap : PricedSnapshot Decimal) (providerId : Int) (requestedModel : String)
    {apiFormat : ApiFormat} {allowResponsesViaChat : Bool} {routes : List ProviderRoute}
    {diagnostics : RouteDiagnostics}
    (collected : collectProviderRoutes snap.toUpstreamSnapshot apiFormat requestedModel
      allowResponsesViaChat = .ok (routes, diagnostics)) :
    snap.HistoricalAgrees providerId requestedModel routes := by
  have considered := collect_upstreamModels collected
  refine ⟨?_, ?_⟩
  · rintro version found route member rfl
    obtain ⟨live, priced, same⟩ := findPriceForRequest_of_historical found (considered route member)
    refine ⟨live, priced, same, fun identified => ?_⟩
    obtain ⟨first, there, result⟩ := findPriceForHistoricalRequest_first snap
      route.provider.id requestedModel
    rw [result] at found
    split at found
    · obtain ⟨name, known⟩ := findPriceForRequest_priced priced
      obtain ⟨otherName, known'⟩ := findPriceForRequest_priced found
      exact identified _ name _ otherName live version known known' same
    · cases found
  · rintro missing route member rfl
    exact historical_missing missing (considered route member)

end PricedSnapshot

def aliasSnapshot : PricedSnapshot Nat where
  toUpstreamSnapshot := { UpstreamSnapshot.empty with
    providers := [movedProvider]
    modelAliasesByName := (∅ : HashMap String ModelAlias).insert "gateway-alias"
      ⟨11, "gateway-alias", true, "weighted"⟩
    aliasTargetsByAlias := (∅ : HashMap Int (List ModelAliasTarget)).insert 11
      [⟨1, 11, 1, "upstream-model", true, i32 100, i32 1⟩] }
  providerPricesByModel := ∅
  globalPricesByModel := (∅ : HashMap String (PriceVersion Nat)).insert "upstream-model"
    ⟨7, ⟨⟨some 7, some 7, none, none⟩, []⟩⟩

theorem aliasSnapshot_agrees : aliasSnapshot.HistoricalAgrees 1 "gateway-alias"
    [⟨movedProvider, "upstream-model", some (i32 100), some (i32 1), .native .responses⟩] :=
  @PricedSnapshot.historical_agrees _ aliasSnapshot 1 "gateway-alias" .responses true _ {} rfl

end CodexGate.Pricing
