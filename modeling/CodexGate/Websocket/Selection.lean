import CodexGate.Routing.Clearance
import CodexGate.Websocket.Connect

namespace CodexGate.Websocket

open Foundation Resilience Routing

def notSupported : String := "websocket_not_supported"

def WsTarget.ofResolved (settings : Int → ProviderSettings) (resolved : ResolvedUpstream) : WsTarget where
  providerId := resolved.provider.id
  endpointId := resolved.endpoint.id
  keyId := resolved.key.id
  settings := settings resolved.provider.id

/-- What a selection reads: what a plan is built from, the settings of the providers and the affinity
that it found before. -/
structure SelectionInputs where
  request : PlanInputs
  settings : Int → ProviderSettings
  existing : Option AffinityBinding
  appliedMs : Int
  order : AffinityOrder

def SelectionInputs.plan (inputs : SelectionInputs) : PlanInputs :=
  { inputs.request with
    apiFormat := .responses
    allowResponsesViaChat := false }

def SelectionInputs.targets (inputs : SelectionInputs) : Except WsBridgeError (List WsTarget) :=
  match inputs.plan.build with
  | (.error error, _, _) => .error ⟨error.status, error.code, error.message⟩
  | (.ok plan, _, book) =>
    let (_, plan, _) := applyAffinityToPlan book inputs.plan.identity inputs.existing plan inputs.appliedMs
      inputs.order
    .ok (plan.attempts.map (WsTarget.ofResolved inputs.settings))

def connectUpstreamWsErrorTypes : List String :=
  ["invalid_upstream_uri", "invalid_upstream_header", "upstream_timeout", "upstream_websocket_http_error",
    "upstream_websocket_io_error", "upstream_websocket_error"]

def prepareAuthCodes : List String :=
  ["oauth_database_error", "oauth_metadata_missing", "account_forbidden", "reauth_required",
    "refresh_token_missing", "refresh_in_progress", "refresh_lease_lost", "refresh_token_reused",
    "token_refresh_rejected", "token_refresh_failed", "token_refresh_invalid", "id_token_invalid",
    "oauth_uri_invalid", "oauth_request_invalid", "oauth_request_timeout", "oauth_request_unavailable",
    "oauth_response_too_large"]

/-- The errors that come from outside have the types that their functions give them. -/
structure ConnectAnswers.Typed (answers : ConnectAnswers) : Prop where
  auth : ∀ error, answers.authError = some error → error.errorType ∈ prepareAuthCodes
  result : ∀ error, answers.result = .error error → error.errorType ∈ connectUpstreamWsErrorTypes
  replay : ∀ error, answers.replay.result = .error error → error.errorType ∈ connectUpstreamWsErrorTypes

def NativeWsConnectOutcome.Named : NativeWsConnectOutcome → Prop
  | .connected _ => True
  | .unsupported error | .unavailable error | .failed error => error.errorType ≠ notSupported

theorem ne_notSupported {names : List String} (absent : notSupported ∉ names) {name : String}
    (member : name ∈ names) : name ≠ notSupported := by
  rintro rfl
  exact absent member

section Errors

variable {answers : ConnectAnswers} {target : WsTarget}

theorem refusal_named (typed : answers.Typed) {outcome : NativeWsConnectOutcome}
    (refused : answers.refusal target = some outcome) : outcome.Named := by
  unfold ConnectAnswers.refusal at refused
  split at refused
  · cases refused
    exact (by decide : "invalid_upstream_uri" ≠ notSupported)
  · rename_i error _ denied
    cases refused
    split at denied
    · exact ne_notSupported (by decide) (typed.auth error denied)
    · cases denied
  · cases refused
    exact (by decide : "request_override_failed" ≠ notSupported)
  · split at refused
    · cases refused
    · cases refused
      exact (by decide : "upstream_cooldown" ≠ notSupported)

theorem settleConnect_named {capacity : Bool} {result : ConnectResult} {ctx : WsContext}
    (named : ∀ error, result = .error error → error.errorType ≠ notSupported) :
    (settleConnect capacity result ctx).1.Named := by
  unfold settleConnect
  cases result with
  | ok connected =>
    dsimp only
    split
    · trivial
    · exact (by decide : "provider_capacity_unavailable" ≠ notSupported)
  | error error =>
    dsimp only
    split
    · exact named error rfl
    · exact named error rfl

theorem replayConnect_cases (ctx : WsContext) :
    (∃ error, (replayConnect target answers.replay answers.result ctx).1 =
        .error (headerOverrideError error)) ∨
      (replayConnect target answers.replay answers.result ctx).1 = .ok answers.replay.result ∨
      (replayConnect target answers.replay answers.result ctx).1 = .ok answers.result := by
  unfold replayConnect
  split
  · split
    · exact .inl ⟨_, rfl⟩
    split
    · exact .inr (.inr rfl)
    · dsimp only
      split
      · exact .inr (.inl rfl)
      · exact .inr (.inr rfl)
  · exact .inr (.inr rfl)

theorem connectOrBridgeUpstream_named (typed : answers.Typed) (ctx : WsContext) :
    (connectOrBridgeUpstream target answers ctx).1.Named := by
  unfold connectOrBridgeUpstream
  split
  · exact (by decide : "upstream_websocket_capability_cached" ≠ notSupported)
  split
  · exact (by decide : "upstream_retry_exhausted" ≠ notSupported)
  split
  · exact (by decide : "upstream_websocket_capability_cached" ≠ notSupported)
  unfold connectUpstreamWsOnce
  split
  · rename_i outcome refused
    exact refusal_named typed refused
  dsimp only
  split
  · exact (by decide : "upstream_retry_budget_exhausted" ≠ notSupported)
  split
  · exact (by decide : "upstream_cooldown" ≠ notSupported)
  have replayed := @replayConnect_cases answers target
    (sendConnect target (ctx.beginWsAttempt target false answers.begin).2)
  split
  · rename_i error after gaveUp
    rw [gaveUp] at replayed
    rcases replayed with ⟨message, same⟩ | same | same
    · cases same
      exact (by decide : "request_override_failed" ≠ notSupported)
    · cases same
    · cases same
  · rename_i result after connected
    rw [connected] at replayed
    refine settleConnect_named fun error failed => ?_
    rcases replayed with ⟨message, same⟩ | same | same
    · cases same
    · cases same
      exact ne_notSupported (by decide) (typed.replay error failed)
    · cases same
      exact ne_notSupported (by decide) (typed.result error failed)

end Errors

theorem use_named {outcome : NativeWsConnectOutcome} (named : outcome.Named) {requestedModel : String}
    {target : WsTarget} {error : WsBridgeError} (failed : outcome.use requestedModel target = .error error) :
    error.errorType ≠ notSupported := by
  unfold NativeWsConnectOutcome.use at failed
  split at failed
  · cases failed
  · split at failed
    · cases failed
    · cases failed
      exact named
  · cases failed
    exact named
  · cases failed
    exact named

theorem connectTargets_named {script : Nat → ConnectAnswers} (typed : ∀ index, (script index).Typed)
    (requestedModel : String) (targets : List WsTarget) (index : Nat) (lastError : Option WsBridgeError)
    (last : ∀ error, lastError = some error → error.errorType ≠ notSupported)
    (providerBudget : WsProviderBudget) (ctx : WsContext) (error : WsBridgeError)
    (failed : (connectTargets requestedModel script index targets lastError providerBudget ctx).result =
      .error error) : error.errorType ≠ notSupported := by
  have given : (lastError.getD noneReservedError).errorType ≠ notSupported := by
    cases lastError with
    | none => decide
    | some error => exact last error rfl
  induction targets generalizing index lastError providerBudget ctx with
  | nil =>
    cases failed
    exact given
  | cons target rest ih =>
    unfold connectTargets at failed
    split at failed
    · cases failed
      exact (by decide : "upstream_retry_budget_exhausted" ≠ notSupported)
    split at failed
    · exact ih _ _ last _ _ failed given
    split at failed
    · cases failed
      exact given
    dsimp only at failed
    split at failed
    · cases failed
    · rename_i error' unused
      have named := use_named (connectOrBridgeUpstream_named (typed index) ctx) unused
      refine ih _ _ ?_ _ _ failed named
      rintro _ ⟨⟩
      exact named

namespace SelectionInputs

variable (inputs : SelectionInputs)

def Open (providerBudget : WsProviderBudget) (id : Int) : Prop :=
  (inputs.settings id).websocketEnabled = true ∧ id ∉ providerBudget

theorem targets_cases :
    (inputs.plan.ordered = [] ∧ ∃ error, inputs.targets = .error error ∧ error.errorType ≠ notSupported) ∨
      ∃ attempts : List ResolvedUpstream,
        inputs.targets = .ok (attempts.map (WsTarget.ofResolved inputs.settings)) ∧
        ∀ id, (∃ attempt ∈ attempts, attempt.provider.id = id) ↔
          ∃ entry ∈ inputs.plan.ordered.take maxDistinctProviders, entry.id = id ∧
            inputs.plan.Admits entry := by
  rcases inputs.plan.build_cases with ⟨none, error, failed, code⟩ | ⟨plan, planned, attempts⟩
  · refine .inl ⟨none, ⟨error.status, error.code, error.message⟩, ?_,
      ne_notSupported (by decide) code⟩
    rw [targets, ← Prod.mk.eta (p := inputs.plan.build), failed]
  · let applied := applyAffinityToPlan inputs.plan.build.2.2 inputs.plan.identity inputs.existing plan
      inputs.appliedMs inputs.order
    have perm : applied.2.1.attempts.Perm plan.attempts := applyAffinityToPlan_perm _ _ _ _ _ _
    refine .inr ⟨applied.2.1.attempts, ?_, fun id => ?_⟩
    · rw [targets, ← Prod.mk.eta (p := inputs.plan.build), planned]
    · have retained := @exists_mem_retained_iff inputs.plan.policy _ inputs.plan.ordered_supplied id
      rw [← attempts] at retained
      simp only [perm.mem_iff, retained, PlanInputs.Admits]
      refine exists_congr fun entry => ?_
      constructor
      · rintro ⟨taken, rfl, first⟩
        exact ⟨taken, rfl, List.mem_of_mem_take taken, first⟩
      · rintro ⟨taken, rfl, -, first⟩
        exact ⟨taken, rfl, first⟩

theorem exists_open_target_iff {attempts : List ResolvedUpstream} {offered : Int → Prop}
    (served : ∀ id, (∃ attempt ∈ attempts, attempt.provider.id = id) ↔ offered id)
    (providerBudget : WsProviderBudget) :
    (attempts.map (WsTarget.ofResolved inputs.settings)).filter (fun target =>
        target.settings.websocketEnabled && !providerBudget.contains target.providerId) ≠ [] ↔
      ∃ id, offered id ∧ inputs.Open providerBudget id := by
  rw [List.ne_nil_iff_exists_cons, ← List.length_pos_iff_exists_cons, List.length_pos_iff_exists_mem]
  simp only [List.mem_filter, List.mem_map, Bool.and_eq_true, Bool.not_eq_true', List.contains_eq_mem,
    decide_eq_false_iff_not]
  constructor
  · rintro ⟨_, ⟨attempt, member, rfl⟩, enabled, new⟩
    exact ⟨attempt.provider.id, (served _).mp ⟨attempt, member, rfl⟩, enabled, new⟩
  · rintro ⟨id, offers, enabled, new⟩
    obtain ⟨attempt, member, rfl⟩ := (served id).mpr offers
    exact ⟨_, ⟨attempt, member, rfl⟩, enabled, new⟩

theorem connectSelectedUpstream_complete_iff (requestedModel : String) (script : Nat → ConnectAnswers)
    (providerBudget : WsProviderBudget) (ctx : WsContext) (typed : ∀ index, (script index).Typed) :
    (∀ error, (connectSelectedUpstream requestedModel ⟨inputs.targets, script⟩ providerBudget ctx).result =
          .error error → error.errorType = notSupported →
        ∀ entry, inputs.plan.Admits entry → ¬inputs.Open providerBudget entry.id) ↔
      ((∃ entry, inputs.plan.Admits entry ∧ inputs.Open providerBudget entry.id) →
        ∃ entry ∈ inputs.plan.ordered.take maxDistinctProviders,
          inputs.plan.Admits entry ∧ inputs.Open providerBudget entry.id) := by
  rcases inputs.targets_cases with ⟨none, error, failed, named⟩ | ⟨attempts, planned, served⟩
  · refine iff_of_true ?_ ?_
    · intro _ _ _ entry admitted
      rw [PlanInputs.Admits, none] at admitted
      cases admitted.1
    · rintro ⟨entry, admitted, -⟩
      rw [PlanInputs.Admits, none] at admitted
      cases admitted.1
  have offers := inputs.exists_open_target_iff served providerBudget
  unfold connectSelectedUpstream
  rw [planned]
  dsimp only
  split
  · rename_i nothing
    rw [nothing] at offers
    have unoffered := mt offers.mpr (not_not_intro rfl)
    constructor
    · rintro complete ⟨entry, admitted, opens⟩
      exact absurd opens (complete _ rfl rfl entry admitted)
    · rintro first error - - entry admitted opens
      obtain ⟨leader, taken, admits, usable⟩ := first ⟨entry, admitted, opens⟩
      exact unoffered ⟨leader.id, ⟨leader, taken, rfl, admits⟩, usable⟩
  · rename_i something
    obtain ⟨_, ⟨leader, taken, rfl, admits⟩, usable⟩ := offers.mp something
    refine iff_of_true ?_ fun _ => ⟨leader, taken, admits, usable⟩
    intro error failed unsupported
    have fresh : ∀ error, (none : Option WsBridgeError) = some error → error.errorType ≠ notSupported := by
      rintro _ ⟨⟩
    exact absurd unsupported (connectTargets_named typed _ _ _ _ fresh _ _ _ failed)

/-- The upstream that a turn gets has passed every check of the plan, and the turn has not tried its
provider before. -/
theorem connectSelectedUpstream_clears
    (ranks : ∀ count keys, inputs.request.rankKeys count keys ⊆ keys) (requestedModel : String)
    (script : Nat → ConnectAnswers) (providerBudget : WsProviderBudget) (ctx : WsContext)
    {active : ActiveUpstream}
    (selects : (connectSelectedUpstream requestedModel ⟨inputs.targets, script⟩ providerBudget
      ctx).result = .ok active) :
    (∃ target, Cleared inputs.plan target ∧
        active.resolved = WsTarget.ofResolved inputs.settings target) ∧
      inputs.Open providerBudget active.resolved.providerId ∧
      active.resolved.providerId ∈ (connectSelectedUpstream requestedModel ⟨inputs.targets, script⟩
        providerBudget ctx).providerBudget := by
  obtain ⟨noted, -, listed, planned, member, enabled, new⟩ :=
    connectSelectedUpstream_grows _ _ _ _ selects
  change inputs.targets = .ok listed at planned
  unfold targets at planned
  split at planned
  · cases planned
  rename_i plan state book built
  cases planned
  obtain ⟨target, kept, same⟩ := List.mem_map.mp member
  have cleared := @PlanInputs.build_clears inputs.plan ranks _ (congrArg (·.1) built) target
    ((applyAffinityToPlan_perm _ _ _ _ _ _).mem_iff.mp kept)
  refine ⟨⟨target, cleared, same.symm⟩, ⟨?_, new⟩, noted⟩
  rw [← same] at enabled ⊢
  exact enabled

end SelectionInputs

def offeredSnapshot : UpstreamSnapshot :=
  { UpstreamSnapshot.empty with
    providers := [1, 2, 3, 4].map fun id => { movedProvider with id := id }
    routePolicies := (∅ : HashMap String RoutePolicy).insert "m"
      ⟨"m", "ordered", true, true, [1, 2, 3, 4].map fun id => ⟨id, i32 (100 + id), i32 1⟩⟩
    keysByProvider := [1, 2, 3, 4].foldl (fun keys id => keys.insert id [⟨id, id, true⟩]) ∅
    endpointsByProvider := [1, 2, 3, 4].foldl (fun endpoints id => endpoints.insert id [⟨id, id, true⟩]) ∅ }

/-- Only the provider `native` is websocket-enabled. -/
def offeredInputs (native : Int) : SelectionInputs where
  request :=
    { state := idleState
      affinity := .new 1800000 10000
      snap := offeredSnapshot
      columns := ⟨fun _ => true, fun _ => i32 100, fun _ => i32 2⟩
      rankKeys _ keys := keys
      draws := .least
      apiFormat := .responses
      requestedModel := "m"
      allowedProviderIds := [1, 2, 3, 4]
      identity := none
      allowResponsesViaChat := false
      nowMs := 0 }
  settings id := ⟨"openai", i32 2, id == native, []⟩
  existing := none
  appliedMs := 0
  order := ⟨.plain, .plain⟩

def connectedAnswers : ConnectAnswers :=
  { (default : ConnectAnswers) with
    result := .ok ()
    replay := { (default : ReplayConnectAnswers) with result := .ok () } }

def offeredCtx : WsContext where
  budget := .new 300000 0
  disconnected := false

theorem connectedAnswers_typed : connectedAnswers.Typed := by
  refine ⟨?_, ?_, ?_⟩
  · rintro _ ⟨⟩
  · rintro _ ⟨⟩
  · rintro _ ⟨⟩

theorem offered_admitted (native : Int) {entry : SchedulableProvider}
    (member : entry ∈ (offeredInputs native).plan.ordered) : (offeredInputs native).plan.Admits entry :=
  ⟨member, fun strict => Bool.noConfusion strict⟩

/-- The second provider is admitted and not missed. -/
theorem offered_second_found :
    (∃ entry, (offeredInputs 2).plan.Admits entry ∧ (offeredInputs 2).Open [] entry.id) ∧
      (connectSelectedUpstream "m" ⟨(offeredInputs 2).targets, fun _ => connectedAnswers⟩ []
        offeredCtx).result ≠ .error (websocketNotSupportedError []) := by
  have second : ∃ entry ∈ (offeredInputs 2).plan.ordered.take maxDistinctProviders, entry.id = 2 := by
    decide +kernel
  obtain ⟨entry, taken, same⟩ := second
  have admitted := offered_admitted 2 (List.mem_of_mem_take taken)
  have opens : (offeredInputs 2).Open [] entry.id := by
    rw [same]
    exact ⟨rfl, List.not_mem_nil⟩
  refine ⟨⟨entry, admitted, opens⟩, fun failed => ?_⟩
  exact ((offeredInputs 2).connectSelectedUpstream_complete_iff "m" (fun _ => connectedAnswers) [] offeredCtx
    fun _ => connectedAnswers_typed).mpr (fun _ => ⟨entry, taken, admitted, opens⟩) _ failed rfl entry
      admitted opens

/-- The fourth provider is admitted and not tried, and no upstream is found. -/
theorem offered_fourth_missed :
    (connectSelectedUpstream "m" ⟨(offeredInputs 4).targets, fun _ => connectedAnswers⟩ []
        offeredCtx).result = .error (websocketNotSupportedError []) ∧
      ∃ entry, (offeredInputs 4).plan.Admits entry ∧ (offeredInputs 4).Open [] entry.id := by
  have fourth : ∃ entry ∈ (offeredInputs 4).plan.ordered, entry.id = 4 := by decide +kernel
  obtain ⟨entry, member, same⟩ := fourth
  refine ⟨by decide +kernel, entry, offered_admitted 4 member, ?_⟩
  rw [same]
  exact ⟨rfl, List.not_mem_nil⟩

def openAnswers : ConnectAnswers :=
  { connectedAnswers with reserved := true, currentBefore := true, currentAfter := true, capacity := true }

theorem connectSelectedUpstream_clears_second :
    ∃ active : ActiveUpstream, active.resolved.providerId = 2 ∧
      ∃ target, Cleared (offeredInputs 2).plan target ∧
        active.resolved = WsTarget.ofResolved (offeredInputs 2).settings target := by
  have found : (connectSelectedUpstream "m" ⟨(offeredInputs 2).targets, fun _ => openAnswers⟩ []
      offeredCtx).result.toOption.any (·.resolved.providerId == 2) = true := by decide +kernel
  cases selects : (connectSelectedUpstream "m" ⟨(offeredInputs 2).targets, fun _ => openAnswers⟩ []
      offeredCtx).result with
  | error error =>
    rw [selects] at found
    cases found
  | ok active =>
    rw [selects] at found
    have clears := (offeredInputs 2).connectSelectedUpstream_clears (fun _ _ => List.Subset.refl _) "m"
      _ [] offeredCtx selects
    exact ⟨active, by simpa [Except.toOption] using found, clears.1⟩

end CodexGate.Websocket
