import CodexGate.Routing.AffinityPlan
import CodexGate.Routing.AffinityTokens

/-! Requests of the proxy that bind sessions. Each takes the lock of the book once a step, so that the
steps of other requests, and any other calls, may lie between its own. -/

namespace CodexGate.Routing

open Foundation
open Reservation (FailureScope)

inductive Phase
  | looked (existing : Option Token)
  | claiming (plan : UpstreamPlan)
  | planned (token : Option Token) (plan : UpstreamPlan)
  | reported

structure SessionRequest where
  identity : AffinityIdentity
  phase : Phase

structure Sessions where
  traced : Traced
  requests : Nat → Option SessionRequest

inductive SessionAction
  | look (request : Nat) (identity : AffinityIdentity) (nowMs : Int)
  | apply (request : Nat) (plan : UpstreamPlan)
  | claim (request : Nat) (nowMs : Int) (order : AffinityOrder)
  | report (request : Nat) (resolved : ResolvedUpstream) (faultedProviders : List Int)
    (scope : FailureScope) (nowMs : Int) (order : AffinityOrder)
  | call (call : AffinityCall)

namespace Sessions

variable (world : Sessions) (request : Nat) (identity : AffinityIdentity)

def new (ttlMs : Int) (maxEntries : Nat) : Sessions := ⟨.new ttlMs maxEntries, fun _ => none⟩

def advance (call : Option AffinityCall) (phase : Phase) : Sessions where
  traced := call.elim world.traced world.traced.call
  requests := Function.update world.requests request (some ⟨identity, phase⟩)

def look (nowMs : Int) : Sessions :=
  world.advance request identity (some (.lookup identity nowMs))
    (.looked (world.traced.granted (.lookup identity nowMs)))

/-- `apply_affinity_to_plan` as far as the removal of a binding that the plan cannot keep. -/
def apply (existing : Option Token) (plan : UpstreamPlan) : Sessions :=
  if !plan.sticky then world.advance request identity none (.planned none plan)
  else
    match existing with
    | none => world.advance request identity none (.claiming plan)
    | some token =>
      let (found, plan) := plan.preferTarget token.binding
      if found || plan.transientSpillProviderIds.contains token.binding.providerId then
        world.advance request identity none (.planned (some token) plan)
      else
        world.advance request identity
          (some (.clearIfProvider identity token.binding.providerId)) (.claiming plan)

def claim (plan : UpstreamPlan) (nowMs : Int) (order : AffinityOrder) : Sessions :=
  match plan.attempts.head? with
  | none => world.advance request identity none (.planned none plan)
  | some first =>
    let call := .claimTarget identity first.provider.id (some first.key.id)
      (some first.endpoint.id) nowMs order
    let token := world.traced.granted call
    world.advance request identity (some call) (.planned token
      (token.elim plan fun token => (plan.preferTarget token.binding).2))

def tapConfig (token : Option Token) (plan : UpstreamPlan) (resolved : ResolvedUpstream)
    (faultedProviders : List Int) : TapConfig :=
  .ofAttempt resolved (if plan.sticky then some identity else none) (token.map (·.binding))
    faultedProviders

def report (token : Option Token) (plan : UpstreamPlan) (resolved : ResolvedUpstream)
    (faultedProviders : List Int) (scope : FailureScope) (nowMs : Int) (order : AffinityOrder) :
    Sessions :=
  world.advance request identity
    (finalizeCall (tapConfig identity token plan resolved faultedProviders) scope nowMs order) .reported

end Sessions

inductive Sessions.Step : Sessions → SessionAction → Sessions → Prop
  | look {world : Sessions} (request : Nat) (absent : world.requests request = none)
    (identity : AffinityIdentity) (nowMs : Int) :
    Step world (.look request identity nowMs) (world.look request identity nowMs)
  | apply {world : Sessions} (request : Nat) {identity : AffinityIdentity} {existing : Option Token}
    (looked : world.requests request = some ⟨identity, .looked existing⟩) (plan : UpstreamPlan) :
    Step world (.apply request plan) (world.apply request identity existing plan)
  | claim {world : Sessions} (request : Nat) {identity : AffinityIdentity} {plan : UpstreamPlan}
    (claiming : world.requests request = some ⟨identity, .claiming plan⟩) (nowMs : Int)
    (order : AffinityOrder) :
    Step world (.claim request nowMs order) (world.claim request identity plan nowMs order)
  | report {world : Sessions} (request : Nat) {identity : AffinityIdentity} {token : Option Token}
    {plan : UpstreamPlan} (planned : world.requests request = some ⟨identity, .planned token plan⟩)
    {resolved : ResolvedUpstream} (member : resolved ∈ plan.attempts) (faultedProviders : List Int)
    (scope : FailureScope) (nowMs : Int) (order : AffinityOrder) :
    Step world (.report request resolved faultedProviders scope nowMs order)
      (world.report request identity token plan resolved faultedProviders scope nowMs order)
  | call (world : Sessions) (call : AffinityCall) :
    Step world (.call call) { world with traced := world.traced.call call }

section Refinement

variable {world : Sessions} {request : Nat} {identity : AffinityIdentity}

theorem advance_request (world : Sessions) (request : Nat) (identity : AffinityIdentity)
    (call : Option AffinityCall) (phase : Phase) :
    (world.advance request identity call phase).requests request = some ⟨identity, phase⟩ :=
  Function.update_self _ _ _

theorem granted_binding (traced : Traced) (call : AffinityCall) :
    (traced.granted call).map (·.binding) = (traced.book.call call).1 := by
  unfold Traced.granted
  rcases returned : (traced.book.call call).1 with _ | binding
  · cases call.asks <;> rfl
  · obtain ⟨key, entry, asks, -, -⟩ := call_returned returned
    rw [asks]
    rfl

theorem claim_claims {plan : UpstreamPlan}
    (claiming : world.requests request = some ⟨identity, .claiming plan⟩) (nowMs : Int)
    (order : AffinityOrder) : ∃ after token preferred,
      Sessions.Step world (.claim request nowMs order) after ∧
      after.requests request = some ⟨identity, .planned token preferred⟩ ∧
      claimFirst world.traced.book identity plan nowMs order =
        (token.map (·.binding), preferred, after.traced.book) := by
  have taken := Sessions.Step.claim request claiming nowMs order
  unfold Sessions.claim at taken
  unfold claimFirst
  rcases head : plan.attempts.head? with _ | first
  · rw [head] at taken
    exact ⟨_, none, plan, taken, advance_request _ _ _ _ _, rfl⟩
  · rw [head] at taken
    refine ⟨_, _, _, taken, advance_request _ _ _ _ _, ?_⟩
    have same := granted_binding world.traced (.claimTarget identity first.provider.id
      (some first.key.id) (some first.endpoint.id) nowMs order)
    rcases held : world.traced.granted (.claimTarget identity first.provider.id
      (some first.key.id) (some first.endpoint.id) nowMs order) with _ | token
    · rw [held] at same
      cases same
    · rw [held] at same
      have binding : token.binding = (world.traced.book.claimTarget identity first.provider.id
        (some first.key.id) (some first.endpoint.id) nowMs order).1 := Option.some.inj same
      simp only [Option.map_some, Option.elim_some, binding]
      rfl

theorem report_book (world : Sessions) (request : Nat) (identity : AffinityIdentity)
    (token : Option Token) (plan : UpstreamPlan) (resolved : ResolvedUpstream)
    (faultedProviders : List Int) (scope : FailureScope) (nowMs : Int) (order : AffinityOrder) :
    (world.report request identity token plan resolved faultedProviders scope nowMs
      order).traced.book =
      finalizeTap (Sessions.tapConfig identity token plan resolved faultedProviders) scope nowMs order
        world.traced.book := by
  rw [finalizeTap_eq]
  unfold Sessions.report Sessions.advance
  cases finalizeCall (Sessions.tapConfig identity token plan resolved faultedProviders) scope nowMs
    order <;> rfl

end Refinement

abbrev AffinityTarget := Int × Option Int × Option Int

def AffinityBinding.target (binding : AffinityBinding) : AffinityTarget :=
  (binding.providerId, binding.upstreamKeyId, binding.endpointId)

def ResolvedUpstream.target (resolved : ResolvedUpstream) : AffinityTarget :=
  (resolved.provider.id, some resolved.key.id, some resolved.endpoint.id)

def AffinityBook.target (book : AffinityBook) (identity : AffinityIdentity) : Option AffinityTarget :=
  (book.entries.lookup identity.routingKey).map (·.target)

section Targets

variable (book : AffinityBook) (identity : AffinityIdentity) (binding : AffinityBinding) (nowMs : Int)

theorem renew_target {entry : AffinityEntry}
    (found : book.entries.lookup identity.routingKey = some entry) :
    (book.renew identity entry nowMs).target identity = book.target identity := by
  unfold AffinityBook.target AffinityBook.renew
  rw [AList.lookup_insert, found]
  rfl

theorem confirm_target : (book.confirm identity binding nowMs).2.target identity =
    book.target identity := by
  unfold AffinityBook.confirm
  split
  · rfl
  · rename_i entry found
    split
    · rfl
    · exact renew_target book identity nowMs found

theorem refreshIfTarget_target : (book.refreshIfTarget identity binding nowMs).2.target identity =
    book.target identity := by
  unfold AffinityBook.refreshIfTarget
  split
  · rfl
  · rename_i entry found
    split
    · rfl
    · exact renew_target book identity nowMs found

theorem migrateTarget_target (providerId : Int) (upstreamKeyId endpointId : Option Int)
    (order : AffinityOrder) :
    (book.migrateTarget identity providerId upstreamKeyId endpointId nowMs order).2.target identity =
      some (providerId, upstreamKeyId, endpointId) := by
  obtain ⟨middle, row, made⟩ :=
    migrateTarget_created book identity providerId upstreamKeyId endpointId nowMs order
  unfold AffinityBook.target
  rw [made.entries, AList.lookup_insert]
  show some row.target = _
  rw [made.returned]
  rfl

theorem markProviderFailed_target (providerId : Int) (avoidForMs : Nat) (order : AffinityOrder) :
    (book.markProviderFailed identity providerId nowMs avoidForMs order).target identity =
      (book.target identity).filter (·.1 ≠ providerId) := by
  have entries : (book.markProviderFailed identity providerId nowMs avoidForMs order).entries =
      (book.clearIfProvider identity providerId).2.entries := by
    unfold AffinityBook.markProviderFailed
    dsimp only
    split <;> rfl
  unfold AffinityBook.target
  rw [entries]
  unfold AffinityBook.clearIfProvider
  rcases found : book.entries.lookup identity.routingKey with _ | entry
  · simp [found]
  · by_cases same : entry.providerId = providerId
    · simp [same, AffinityBinding.target, Option.filter]
    · simp [found, same, AffinityBinding.target, Option.filter]

end Targets

/-- The entry that the binding was returned for is still the one of the session. -/
def Current (traced : Traced) (token : Token) (identity : AffinityIdentity) : Prop :=
  identity.routingKey ∈ traced.book.entries ∧ token.Genuine traced identity

/-- What a request reports changes the target of its session only when the binding that it planned
with is current. -/
def Respects (t : Transition Sessions SessionAction) : Prop :=
  match t.action with
  | .report request _ _ _ _ _ => ∀ identity token plan,
    t.before.requests request = some ⟨identity, .planned token plan⟩ →
    t.after.traced.book.target identity ≠ t.before.traced.book.target identity →
      ∃ held ∈ token, Current t.before.traced held identity
  | _ => True

/-- A success on another target than that of the binding, which moves the session, finds the binding
current or the session there already. A failure that makes the session leave its provider finds the
binding current or the session elsewhere. -/
def Timely (t : Transition Sessions SessionAction) : Prop :=
  match t.action with
  | .report request resolved _ scope _ _ => ∀ identity token plan,
    t.before.requests request = some ⟨identity, .planned token plan⟩ → plan.sticky = true →
    (scope = .success → ∀ held ∈ token, held.binding.target ≠ resolved.target →
      t.before.traced.book.target identity = some resolved.target ∨
        Current t.before.traced held identity) ∧
    (scope.shouldAvoidAffinityImmediately = true →
      (∀ target ∈ t.before.traced.book.target identity, target.1 ≠ resolved.provider.id) ∨
        ∃ held ∈ token, Current t.before.traced held identity)
  | _ => True

/-- Where a request that planned with a binding leaves its session. -/
def outcomeTarget (token : Option Token) (plan : UpstreamPlan) (resolved : ResolvedUpstream)
    (scope : FailureScope) (bound : Option AffinityTarget) : Option AffinityTarget :=
  if plan.sticky = false then bound
  else if scope = .success then
    token.elim bound fun held =>
      if held.binding.target = resolved.target then bound else some resolved.target
  else if scope.shouldAvoidAffinityImmediately then bound.filter (·.1 ≠ resolved.provider.id)
  else bound

section Outcomes

variable {world : Sessions} {request : Nat} {identity : AffinityIdentity} {token : Option Token}
  {plan : UpstreamPlan} {resolved : ResolvedUpstream} {faultedProviders : List Int}
  {scope : FailureScope} {nowMs : Int} {order : AffinityOrder}

theorem target_eq_iff (binding : AffinityBinding) (resolved : ResolvedUpstream) :
    binding.target = resolved.target ↔ binding.providerId = resolved.provider.id ∧
      binding.upstreamKeyId = some resolved.key.id ∧
      binding.endpointId = some resolved.endpoint.id := by
  unfold AffinityBinding.target ResolvedUpstream.target
  rw [Prod.mk.injEq, Prod.mk.injEq]

theorem ofAttempt_migrates (identity : Option AffinityIdentity) (binding : AffinityBinding)
    (faultedProviders : List Int) (other : binding.target ≠ resolved.target) :
    (TapConfig.ofAttempt resolved identity (some binding) faultedProviders).affinityShouldMigrate =
      true := by
  rw [ne_eq, target_eq_iff, not_and_or, not_and_or] at other
  unfold TapConfig.ofAttempt
  simp only [Option.any_some, Bool.or_eq_true, bne_iff_ne]
  rcases other with provider | key | endpoint
  · exact .inl (.inl (.inl provider))
  · exact .inl (.inl (.inr key))
  · exact .inl (.inr endpoint)

theorem finalizeTap_target (book : AffinityBook) :
    (finalizeTap (Sessions.tapConfig identity token plan resolved faultedProviders) scope nowMs order
      book).target identity = outcomeTarget token plan resolved scope (book.target identity) := by
  unfold outcomeTarget Sessions.tapConfig
  by_cases sticky : plan.sticky = true
  · rw [if_pos sticky, if_neg (by rw [sticky]; decide)]
    by_cases success : scope = .success
    · subst success
      cases token with
      | none => rfl
      | some held =>
        simp only [Option.map_some, Option.elim_some, if_true]
        by_cases same : held.binding.target = resolved.target
        · have target := (target_eq_iff held.binding resolved).mp same
          rw [if_pos same]
          unfold finalizeTap TapConfig.ofAttempt
          simp only [if_true, if_pos target]
          split
          · exact refreshIfTarget_target book identity held.binding nowMs
          · exact confirm_target book identity held.binding nowMs
        · have target := (target_eq_iff held.binding resolved).not.mp same
          have migrates := ofAttempt_migrates (some identity) held.binding faultedProviders same
          rw [if_neg same]
          unfold finalizeTap
          rw [migrates]
          simp only [if_true]
          unfold TapConfig.ofAttempt
          simp only [if_neg target]
          exact migrateTarget_target book identity nowMs _ _ _ order
    · unfold finalizeTap
      rw [if_neg success, if_neg success]
      split
      · exact markProviderFailed_target book identity nowMs _ _ order
      · rfl
  · have loose : plan.sticky = false := Bool.eq_false_iff.mpr sticky
    rw [if_neg sticky, if_pos loose]
    unfold finalizeTap TapConfig.ofAttempt
    split
    · rfl
    · split <;> rfl

theorem filter_ne_self {bound : Option AffinityTarget} {providerId : Int} :
    bound.filter (·.1 ≠ providerId) ≠ bound ↔ ¬ ∀ target ∈ bound, target.1 ≠ providerId := by
  cases bound with
  | none => simp
  | some target =>
    by_cases same : target.1 = providerId
    · simp [same, Option.filter]
    · simp [same, Option.filter]

theorem report_respects_iff (planned : world.requests request = some ⟨identity, .planned token plan⟩) :
    Respects ⟨world, .report request resolved faultedProviders scope nowMs order,
      world.report request identity token plan resolved faultedProviders scope nowMs order⟩ ↔
    Timely ⟨world, .report request resolved faultedProviders scope nowMs order,
      world.report request identity token plan resolved faultedProviders scope nowMs order⟩ := by
  have after : (world.report request identity token plan resolved faultedProviders scope nowMs
      order).traced.book.target identity =
      outcomeTarget token plan resolved scope (world.traced.book.target identity) := by
    rw [report_book, finalizeTap_target]
  constructor
  · intro respects found held plan' there sticky
    rw [planned] at there
    cases there
    have current := respects identity token plan planned
    rw [after] at current
    unfold outcomeTarget at current
    rw [if_neg (by rw [sticky]; decide)] at current
    constructor
    · rintro rfl held member other
      cases member
      simp only [if_true, Option.elim_some, if_neg other] at current
      by_cases there : world.traced.book.target identity = some resolved.target
      · exact .inl there
      · obtain ⟨_, same, current⟩ := current (Ne.symm there)
        cases same
        exact .inr current
    · intro avoid
      have failed : scope ≠ .success := by
        rintro rfl
        cases avoid
      rw [if_neg failed, if_pos avoid] at current
      by_cases elsewhere : ∀ target ∈ world.traced.book.target identity,
          target.1 ≠ resolved.provider.id
      · exact .inl elsewhere
      · exact .inr (current (filter_ne_self.mpr elsewhere))
  · intro timely found held plan' there changed
    rw [planned] at there
    cases there
    dsimp only at changed
    rw [after] at changed
    unfold outcomeTarget at changed
    split at changed
    · exact absurd rfl changed
    · rename_i sticky
      obtain ⟨moves, leaves⟩ := timely identity token plan planned (Bool.not_eq_false _ ▸ sticky)
      split at changed
      · rename_i success
        cases token with
        | none => exact absurd rfl changed
        | some held =>
          simp only [Option.elim_some] at changed
          split at changed
          · exact absurd rfl changed
          · rename_i other
            rcases moves success held rfl other with there | current
            · exact absurd there.symm changed
            · exact ⟨held, rfl, current⟩
      · split at changed
        · rename_i avoid
          rcases leaves avoid with elsewhere | current
          · exact absurd elsewhere (filter_ne_self.mp changed)
          · exact current
        · exact absurd rfl changed

end Outcomes

section Run

variable {ttlMs : Int} {limit : Nat} {history : List (Transition Sessions SessionAction)}
  {world : Sessions}

/-- In every interleaving exactly the timely reports are those that displace no newer binding. -/
theorem run_respects_iff (run : Execution Sessions.Step (.new ttlMs limit) history world) :
    ∀ t ∈ history, Respects t ↔ Timely t := by
  rintro ⟨before, action, after⟩ member
  have taken : Sessions.Step before action after := run.taken member
  cases taken with
  | report request planned => exact report_respects_iff planned
  | look | apply | claim | call => exact Iff.rfl

def targetOf (id : Int) : ResolvedUpstream where
  upstreamModel := "gpt-5"
  provider := {
    id := id
    providerType := "openai"
    enabled := true
    maxConcurrency := none
    circuitBreakerEnabled := false
    circuitBreakerFailureThreshold := i32 5
    circuitBreakerOpenMs := 30000
    circuitBreakerHalfOpenSuccessThreshold := i32 1 }
  endpoint := ⟨id, id, true⟩
  key := ⟨id, id, true⟩
  protocol := .native .responses

def threeTargets : UpstreamPlan where
  sticky := true
  attempts := [targetOf 1, targetOf 2, targetOf 3]
  transientSpillProviderIds := []
  diagnostics := {}

/-- Of two requests of the session `[1]` the first binds it to the first target, and the second looks
that binding up. -/
def overlapping : Sessions :=
  ((((Sessions.new 60000 10).look 0 ⟨[1]⟩ 0).apply 0 ⟨[1]⟩ none threeTargets).claim 0 ⟨[1]⟩ threeTargets
    0 ⟨.plain, .plain⟩).look 1 ⟨[1]⟩ 5

def overlappingToken : Token := ⟨[1], 1, 0, ⟨1, some 1, some 1, 1, false⟩⟩

def planned : Sessions := overlapping.apply 1 ⟨[1]⟩ overlappingToken threeTargets

def movedTo (world : Sessions) (request : Nat) (id : Int) : Sessions :=
  world.report request ⟨[1]⟩ overlappingToken (threeTargets.preferTarget overlappingToken.binding).2
    (targetOf id) [] .success 10 ⟨.plain, .plain⟩

def move (world : Sessions) (request : Nat) (id : Int) : Transition Sessions SessionAction :=
  ⟨world, .report request (targetOf id) [] .success 10 ⟨.plain, .plain⟩, movedTo world request id⟩

theorem mem_preferTarget {plan : UpstreamPlan} {binding : AffinityBinding}
    {resolved : ResolvedUpstream} :
    resolved ∈ (plan.preferTarget binding).2.attempts ↔ resolved ∈ plan.attempts := by
  unfold UpstreamPlan.preferTarget
  split
  · rfl
  · exact List.mem_mergeSort

theorem planned_run : ∃ history, Execution Sessions.Step (.new 60000 10) history planned := by
  have empty : Execution Sessions.Step (.new 60000 10) [] (.new 60000 10) := .start
  have run := empty.next (Sessions.Step.look 0 rfl ⟨[1]⟩ 0)
  have run := run.next (Sessions.Step.apply 0 rfl threeTargets)
  have run := run.next (Sessions.Step.claim 0 rfl 0 ⟨.plain, .plain⟩)
  have run := run.next (Sessions.Step.look 1 rfl ⟨[1]⟩ 5)
  exact ⟨_, run.next (Sessions.Step.apply 1 rfl threeTargets)⟩

theorem moves (world : Sessions) (request : Nat) (id : Int)
    (waits : world.requests request = some ⟨⟨[1]⟩, .planned overlappingToken
      (threeTargets.preferTarget overlappingToken.binding).2⟩)
    (member : targetOf id ∈ threeTargets.attempts) :
    Sessions.Step world (move world request id).action (movedTo world request id) :=
  .report request waits (mem_preferTarget.mpr member) [] .success 10 ⟨.plain, .plain⟩

/-- The first request moves the session to the second target, and the second request moves it on to the
third. -/
theorem run_displaces_newer : ∃ history world t,
    Execution Sessions.Step (.new 60000 10) (t :: history) world ∧ ¬ Respects t := by
  obtain ⟨history, run⟩ := planned_run
  have run := run.next (moves planned 0 2 rfl (.tail _ (.head _)))
  have run := run.next (moves (movedTo planned 0 2) 1 3 rfl (.tail _ (.tail _ (.head _))))
  refine ⟨_, _, move (movedTo planned 0 2) 1 3, run, fun respects => ?_⟩
  obtain ⟨held, same, -, -, current⟩ := respects ⟨[1]⟩ overlappingToken _ rfl (by decide)
  cases same
  exact absurd current (by decide)

/-- The first of the two requests is in time. -/
theorem run_respects_iff_first : ∃ history world t,
    Execution Sessions.Step (.new 60000 10) (t :: history) world ∧ Respects t := by
  obtain ⟨history, run⟩ := planned_run
  have run := run.next (moves planned 0 2 rfl (.tail _ (.head _)))
  refine ⟨_, _, move planned 0 2, run, ?_⟩
  refine (run_respects_iff run _ (.head _)).mpr fun identity token plan there sticky => ?_
  cases there
  refine ⟨fun _ held member _ => .inr ?_, fun avoid => by cases avoid⟩
  cases member
  exact ⟨by decide, rfl, rfl⟩

end Run

end CodexGate.Routing
