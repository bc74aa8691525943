import CodexGate.Reservation.Model
import CodexGate.Routing.Plan
import Mathlib.Data.Prod.Lex

namespace CodexGate.Reservation

def FailureScope.shouldAvoidAffinityImmediately : FailureScope → Bool
  | .model | .provider => true
  | .success | .key | .quota | .client => false

end CodexGate.Reservation

namespace CodexGate.Routing

open Foundation
open Reservation (FailureScope)

/-- Whether an attempt is the target of a binding, as far as the binding names one. -/
def AffinityBinding.isTarget (binding : AffinityBinding) (attempt : ResolvedUpstream) : Bool :=
  attempt.provider.id == binding.providerId &&
    binding.upstreamKeyId.all (attempt.key.id == ·) && binding.endpointId.all (attempt.endpoint.id == ·)

def UpstreamPlan.preferTarget (plan : UpstreamPlan) (binding : AffinityBinding) :
    Bool × UpstreamPlan :=
  if !plan.attempts.any binding.isTarget then (false, plan)
  else
    let place attempt := toLex (!binding.isTarget attempt, attempt.provider.id != binding.providerId)
    (true, { plan with
      attempts := plan.attempts.mergeSort fun left right => place left ≤ place right })

def claimFirst (book : AffinityBook) (identity : AffinityIdentity) (plan : UpstreamPlan) (nowMs : Int)
    (order : AffinityOrder) : Option AffinityBinding × UpstreamPlan × AffinityBook :=
  match plan.attempts.head? with
  | none => (none, plan, book)
  | some first =>
    let (binding, book) := book.claimTarget identity first.provider.id (some first.key.id)
      (some first.endpoint.id) nowMs order
    (some binding, (plan.preferTarget binding).2, book)

def applyAffinityToPlan (book : AffinityBook) (identity : Option AffinityIdentity)
    (existing : Option AffinityBinding) (plan : UpstreamPlan) (nowMs : Int) (order : AffinityOrder) :
    Option AffinityBinding × UpstreamPlan × AffinityBook :=
  if !plan.sticky then (none, plan, book)
  else
    match identity with
    | none => (none, plan, book)
    | some identity =>
      match existing with
      | none => claimFirst book identity plan nowMs order
      | some binding =>
        let (found, plan) := plan.preferTarget binding
        if found || plan.transientSpillProviderIds.contains binding.providerId then
          (some binding, plan, book)
        else
          claimFirst (book.clearIfProvider identity binding.providerId).2 identity plan nowMs order

/-- What the end of a response reads of its attempt for the affinity. -/
structure TapConfig where
  provider : UpstreamProvider
  upstreamKeyId : Option Int
  endpointId : Option Int
  affinityIdentity : Option AffinityIdentity
  affinityBinding : Option AffinityBinding
  affinityShouldMigrate : Bool

def TapConfig.ofAttempt (resolved : ResolvedUpstream) (identity : Option AffinityIdentity)
    (binding : Option AffinityBinding) (faultedProviders : List Int) : TapConfig where
  provider := resolved.provider
  upstreamKeyId := some resolved.key.id
  endpointId := some resolved.endpoint.id
  affinityIdentity := identity
  affinityBinding := binding
  affinityShouldMigrate := binding.any fun binding =>
    binding.providerId != resolved.provider.id || binding.upstreamKeyId != some resolved.key.id ||
      binding.endpointId != some resolved.endpoint.id ||
      faultedProviders.contains binding.providerId

def finalizeTap (cfg : TapConfig) (scope : FailureScope) (nowMs : Int) (order : AffinityOrder)
    (book : AffinityBook) : AffinityBook :=
  if scope = .success then
    match cfg.affinityIdentity, cfg.affinityBinding with
    | some identity, some binding =>
      if binding.providerId = cfg.provider.id ∧ binding.upstreamKeyId = cfg.upstreamKeyId ∧
          binding.endpointId = cfg.endpointId then
        if binding.confirmed then (book.refreshIfTarget identity binding nowMs).2
        else (book.confirm identity binding nowMs).2
      else if cfg.affinityShouldMigrate then
        (book.migrateTarget identity cfg.provider.id cfg.upstreamKeyId cfg.endpointId nowMs order).2
      else book
    | _, _ => book
  else if scope.shouldAvoidAffinityImmediately then
    match cfg.affinityIdentity with
    | some identity =>
      book.markProviderFailed identity cfg.provider.id nowMs
        (max cfg.provider.circuitBreakerOpenMs 1).toNat order
    | none => book
  else book

def finalizeCall (cfg : TapConfig) (scope : FailureScope) (nowMs : Int) (order : AffinityOrder) :
    Option AffinityCall :=
  if scope = .success then
    match cfg.affinityIdentity, cfg.affinityBinding with
    | some identity, some binding =>
      if binding.providerId = cfg.provider.id ∧ binding.upstreamKeyId = cfg.upstreamKeyId ∧
          binding.endpointId = cfg.endpointId then
        if binding.confirmed then some (.refreshIfTarget identity binding nowMs)
        else some (.confirm identity binding nowMs)
      else if cfg.affinityShouldMigrate then
        some (.migrateTarget identity cfg.provider.id cfg.upstreamKeyId cfg.endpointId nowMs order)
      else none
    | _, _ => none
  else if scope.shouldAvoidAffinityImmediately then
    cfg.affinityIdentity.map fun identity =>
      .markProviderFailed identity cfg.provider.id nowMs
        (max cfg.provider.circuitBreakerOpenMs 1).toNat order
  else none

theorem finalizeTap_eq (cfg : TapConfig) (scope : FailureScope) (nowMs : Int) (order : AffinityOrder)
    (book : AffinityBook) : finalizeTap cfg scope nowMs order book =
      (finalizeCall cfg scope nowMs order).elim book fun call => (book.call call).2 := by
  unfold finalizeTap finalizeCall
  split
  · split
    · split
      · split
        · rfl
        · rfl
      · split
        · rfl
        · rfl
    · rfl
  · split
    · cases cfg.affinityIdentity <;> rfl
    · rfl

theorem preferTarget_perm (plan : UpstreamPlan) (binding : AffinityBinding) :
    (plan.preferTarget binding).2.attempts.Perm plan.attempts := by
  unfold UpstreamPlan.preferTarget
  split
  · exact .refl _
  · exact List.mergeSort_perm _ _

theorem claimFirst_perm (book : AffinityBook) (identity : AffinityIdentity) (plan : UpstreamPlan)
    (nowMs : Int) (order : AffinityOrder) :
    (claimFirst book identity plan nowMs order).2.1.attempts.Perm plan.attempts := by
  unfold claimFirst
  split
  · exact .refl _
  · exact preferTarget_perm _ _

theorem applyAffinityToPlan_perm (book : AffinityBook) (identity : Option AffinityIdentity)
    (existing : Option AffinityBinding) (plan : UpstreamPlan) (nowMs : Int) (order : AffinityOrder) :
    (applyAffinityToPlan book identity existing plan nowMs order).2.1.attempts.Perm plan.attempts := by
  unfold applyAffinityToPlan
  split
  · exact .refl _
  cases identity with
  | none => exact .refl _
  | some identity =>
    cases existing with
    | none => exact claimFirst_perm _ _ _ _ _
    | some binding =>
      dsimp only
      split
      · exact preferTarget_perm _ _
      · exact (claimFirst_perm _ _ _ _ _).trans (preferTarget_perm _ _)

end CodexGate.Routing
