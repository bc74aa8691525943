import CodexGate.Dispatch.Proxy
import CodexGate.Routing.AffinityPlan
import CodexGate.Routing.Clearance

namespace CodexGate.Dispatch

open Foundation Provider Resilience Routing

section SendBudget

variable {columns : PlanColumns} {recoveryEnabled : Bool} {resolved : ResolvedUpstream}
  {rest : List ResolvedUpstream}

structure Within (columns : PlanColumns) (run : ProxyRun) : Prop where
  sent : run.attemptsSent = run.dispatched.length
  begun : run.dispatched.length ≤ run.budget.used
  limited : run.budget.used ≤ maxAttempts
  counted : ∀ providerId, run.budget.sentTo providerId = run.dispatched.count providerId
  bounded : ∀ providerId,
    run.dispatched.count providerId ≤ atLeastOne (columns.maxAttempts providerId)

structure Begun (columns : PlanColumns) (run : ProxyRun) : Prop extends Within columns run where
  unsent : run.dispatched.length < run.budget.used

theorem new_within (columns : PlanColumns) (timeout startedAt : Nat) :
    Within columns { budget := .new timeout startedAt } where
  sent := rfl
  begun := le_refl 0
  limited := Nat.zero_le _
  counted _ := rfl
  bounded _ := Nat.zero_le _

def ProxyRun.books (run : ProxyRun) : AttemptBudget × Nat × List Int :=
  (run.budget, run.attemptsSent, run.dispatched)

theorem Within.of_books {run other : ProxyRun} (within : Within columns run)
    (same : other.books = run.books) : Within columns other := by
  simp only [ProxyRun.books, Prod.mk.injEq] at same
  obtain ⟨budget, sent, dispatched⟩ := same
  exact ⟨by rw [sent, dispatched, within.sent], by rw [budget, dispatched]; exact within.begun,
    by rw [budget]; exact within.limited,
    fun id => by rw [budget, dispatched]; exact within.counted id,
    fun id => by rw [dispatched]; exact within.bounded id⟩

theorem begin_within {run : ProxyRun} (within : Within columns run) (readings : BeginReadings) :
    Within columns { run with budget := (run.budget.begin readings).2 } ∧
      ((run.budget.begin readings).1 = true →
        Begun columns { run with budget := (run.budget.begin readings).2 }) := by
  rcases run.budget.begin_cases readings with ⟨begins, room⟩ | refuses
  · rw [begins]
    have more : Within columns { run with
        budget := { run.budget with setupCredit := false, used := run.budget.used + 1 } } :=
      ⟨within.sent, Nat.le_succ_of_le within.begun, room, within.counted, within.bounded⟩
    exact ⟨more, fun _ => ⟨more, Nat.lt_succ_of_le within.begun⟩⟩
  · rw [refuses]
    exact ⟨⟨within.sent, within.begun, within.limited, within.counted, within.bounded⟩,
      fun begins => by cases begins⟩

theorem begin_providerAvailable {run : ProxyRun} (readings : BeginReadings)
    (available : providerAvailable columns resolved run = true) :
    providerAvailable columns resolved
      { run with budget := (run.budget.begin readings).2 } = true := by
  rcases run.budget.begin_cases readings with ⟨begins, _⟩ | refuses
  · rw [begins]
    exact available
  · rw [refuses]
    exact available

theorem send_within {run : ProxyRun} (begun : Begun columns run)
    (available : providerAvailable columns resolved run = true) :
    Within columns (run.send resolved.provider.id) := by
  have room : run.budget.sentTo resolved.provider.id <
      atLeastOne (columns.maxAttempts resolved.provider.id) := by
    simpa [providerAvailable, AttemptBudget.providerAvailable] using available
  rw [begun.counted] at room
  refine ⟨?_, ?_, begun.limited, ?_, ?_⟩
  · simp [ProxyRun.send, begun.sent]
  · simpa [ProxyRun.send, AttemptBudget.noteSend] using Nat.succ_le_of_lt begun.unsent
  · intro providerId
    by_cases same : providerId = resolved.provider.id
    · subst same
      simp [ProxyRun.send, begun.counted]
    · simp [ProxyRun.send, AttemptBudget.sentTo_noteSend_ne _ same, begun.counted,
        Ne.symm same]
  · intro providerId
    by_cases same : providerId = resolved.provider.id
    · subst same
      simpa [ProxyRun.send] using Nat.succ_le_of_lt room
    · simpa [ProxyRun.send, List.count_singleton, Ne.symm same] using begun.bounded providerId

theorem begin_send_within {run : ProxyRun} (within : Within columns run)
    (available : providerAvailable columns resolved run = true) {readings : BeginReadings}
    (begins : (run.budget.begin readings).1 = true) :
    Within columns ({ run with budget := (run.budget.begin readings).2 }.send
      resolved.provider.id) :=
  send_within ((begin_within within readings).2 begins) (begin_providerAvailable readings available)

theorem convert_books (response : ResponseAnswers) (run : ProxyRun) (status : Nat) :
    (convert resolved rest response run status).2.books = run.books := by
  unfold convert
  dsimp only
  split
  · split <;> rfl
  · rfl

theorem passOn_books (answers : AttemptAnswers) (run : ProxyRun) (status : Nat) :
    (passOn resolved rest answers run status).2.books = run.books := by
  unfold passOn
  dsimp only
  split
  · rfl
  split
  · split
    · rfl
    · split <;> rfl
  split
  · rfl
  · exact convert_books answers.response run status

theorem readStatus_books (answers : AttemptAnswers) (run : ProxyRun) (status : Nat) :
    (readStatus columns resolved rest answers run status).2.books = run.books := by
  unfold readStatus
  dsimp only
  split
  · split
    · rfl
    · exact passOn_books answers _ status
  · exact passOn_books answers run status

theorem readResult_books (answers : AttemptAnswers) (run : ProxyRun) (result : DispatchResult) :
    (readResult columns resolved rest answers run result).2.books = run.books := by
  unfold readResult
  cases result with
  | error error => rfl
  | ok status => exact readStatus_books answers run status

theorem replay_within (resolved : ResolvedUpstream) (answers : ReplayAnswers) {run : ProxyRun} (within : Within columns run)
    (result : DispatchResult) : Within columns (replay columns resolved answers run result).2 := by
  unfold replay
  split
  · rename_i checked
    simp only [Bool.and_eq_true] at checked
    have available : providerAvailable columns resolved run = true := checked.1.1.2
    split
    · exact within
    dsimp only
    split
    · exact ((begin_within within answers.begin).1).of_books rfl
    split
    · exact (begin_within within answers.begin).1
    · rename_i begins _
      exact begin_send_within within available (by simpa using begins)
  · exact within

theorem recover_within (answers : RecoveryAnswers) {run : ProxyRun} (within : Within columns run)
    (result : DispatchResult) :
    Within columns (recover columns recoveryEnabled resolved answers run result).2 := by
  unfold recover
  split
  · split
    · rename_i checked
      simp only [Bool.and_eq_true] at checked
      have available : providerAvailable columns resolved run = true := checked.1.2
      have noted : Within columns { run with recoveryRetries := run.recoveryRetries + 1 } :=
        within.of_books rfl
      dsimp only
      split
      · rename_i begins
        rw [Bool.and_eq_true] at begins
        exact begin_send_within noted available begins.1
      · exact (begin_within noted answers.begin).1
    · exact within
  · exact within

theorem serve_within (answers : AttemptAnswers) {run : ProxyRun} (begun : Begun columns run)
    (available : providerAvailable columns resolved run = true) :
    Within columns (serve columns recoveryEnabled resolved rest answers run).2 := by
  have within := begun.toWithin
  unfold serve
  split
  · exact within
  · exact within.of_books rfl
  · exact within.of_books rfl
  split
  · exact within
  have replayed := replay_within resolved answers.replay (send_within begun available) answers.result
  split
  · rename_i flow after replaying
    rw [replaying] at replayed
    exact replayed
  · rename_i result after replaying
    rw [replaying] at replayed
    exact (recover_within answers.recovery replayed result).of_books (readResult_books answers _ _)

theorem attempt_within (answers : AttemptAnswers) {run : ProxyRun} (within : Within columns run) :
    Within columns (attempt columns recoveryEnabled resolved rest answers run).2 := by
  unfold attempt
  split
  · exact within
  split
  · exact within
  split
  · exact within
  rename_i available
  simp only [Bool.not_eq_true', Bool.not_eq_false] at available
  split
  · exact within
  dsimp only
  split
  · exact (begin_within within answers.begin).1
  rename_i begins
  split
  · exact (begin_within within answers.begin).1
  · exact serve_within answers ((begin_within within answers.begin).2 (by simpa using begins))
      (begin_providerAvailable answers.begin available)

theorem proxyAttempts_within (script : Nat → AttemptAnswers) (plan : List ResolvedUpstream)
    (index : Nat) {run : ProxyRun} (within : Within columns run) :
    Within columns (proxyAttempts columns recoveryEnabled script index plan run).2 := by
  induction plan generalizing index run with
  | nil => exact within
  | cons resolved rest ih =>
    have kept := @attempt_within columns recoveryEnabled resolved rest (script index) run within
    unfold proxyAttempts
    split
    · rename_i after attempted
      rw [attempted] at kept
      exact ih (index + 1) kept
    · rename_i after attempted
      rw [attempted] at kept
      exact kept
    · rename_i result after attempted
      rw [attempted] at kept
      exact kept

/-- One request sends at most three times, at most so often to a provider as it allows, and the
    trace counts every dispatch. -/
theorem proxyOpenai_within_budget (columns : PlanColumns) (recoveryEnabled : Bool)
    (script : Nat → AttemptAnswers) (plan : List ResolvedUpstream) (timeout startedAt : Nat) :
    (proxyOpenai columns recoveryEnabled script plan timeout startedAt).2.dispatched.length ≤ 3 ∧
      (∀ providerId,
        (proxyOpenai columns recoveryEnabled script plan timeout startedAt).2.dispatched.count
          providerId ≤ atLeastOne (columns.maxAttempts providerId)) ∧
      (proxyOpenai columns recoveryEnabled script plan timeout startedAt).2.attemptsSent =
        (proxyOpenai columns recoveryEnabled script plan timeout
          startedAt).2.dispatched.length := by
  have within : Within columns
      (proxyOpenai columns recoveryEnabled script plan timeout startedAt).2 :=
    proxyAttempts_within script plan 0 (new_within columns timeout startedAt)
  exact ⟨within.begun.trans within.limited, within.bounded, within.sent⟩

end SendBudget

section Order

/-- The attempts that the loop of `proxy_openai` goes through, if it comes to the loop. -/
def proxyTargets (inputs : PlanInputs) (hasPreviousResponseId : Bool)
    (existing : Option AffinityBinding) (appliedMs : Int) (order : AffinityOrder) :
    Option (List ResolvedUpstream) :=
  match inputs.build with
  | (.error _, _, _) => none
  | (.ok plan, _, book) =>
    let native := decide (inputs.apiFormat = .responses) && hasPreviousResponseId
    let plan := if native then
      { plan with attempts := plan.attempts.filter (!isResponsesViaChat ·) } else plan
    if native && plan.attempts.isEmpty then none
    else
      let identity := if plan.sticky then inputs.identity else none
      some (applyAffinityToPlan book identity existing plan appliedMs order).2.1.attempts

/-- The targets in their order, each sent to so many times in a row. -/
def sendsOf (targets : List ResolvedUpstream) (counts : List Nat) : List Int :=
  (targets.zip counts).flatMap fun sent => List.replicate sent.2 sent.1.provider.id

def Sends (id : Int) (run next : ProxyRun) : Prop :=
  ∃ count, next.dispatched = run.dispatched ++ List.replicate count id

variable {columns : PlanColumns} {recoveryEnabled : Bool} {resolved : ResolvedUpstream}
  {rest : List ResolvedUpstream} {run next other : ProxyRun} {id : Int}

theorem Sends.of_books (sends : Sends id run next) (same : other.books = next.books) :
    Sends id run other := by
  obtain ⟨count, sent⟩ := sends
  exact ⟨count, (congrArg (·.2.2) same).trans sent⟩

theorem Sends.send (sends : Sends id run next) : Sends id run (next.send id) := by
  obtain ⟨count, sent⟩ := sends
  refine ⟨count + 1, ?_⟩
  rw [ProxyRun.send, sent, List.append_assoc, List.replicate_succ']

theorem replay_sends (answers : ReplayAnswers) (sends : Sends resolved.provider.id run next)
    (result : DispatchResult) :
    Sends resolved.provider.id run (replay columns resolved answers next result).2 := by
  unfold replay
  split
  · split
    · exact sends
    dsimp only
    split
    · exact sends
    split
    · exact sends
    · exact sends.send
  · exact sends

theorem recover_sends (answers : RecoveryAnswers) (sends : Sends resolved.provider.id run next)
    (result : DispatchResult) :
    Sends resolved.provider.id run
      (recover columns recoveryEnabled resolved answers next result).2 := by
  unfold recover
  split
  · split
    · dsimp only
      split
      · exact sends.send
      · exact sends
    · exact sends
  · exact sends

theorem serve_sends (answers : AttemptAnswers) (sends : Sends resolved.provider.id run next) :
    Sends resolved.provider.id run (serve columns recoveryEnabled resolved rest answers next).2 := by
  unfold serve
  split
  · exact sends
  · exact sends
  · exact sends
  split
  · exact sends
  have replayed := @replay_sends columns resolved run _ answers.replay sends.send answers.result
  split
  · rename_i flow after replaying
    rw [replaying] at replayed
    exact replayed
  · rename_i result after replaying
    rw [replaying] at replayed
    exact (recover_sends answers.recovery replayed result).of_books (readResult_books answers _ _)

theorem attempt_sends (answers : AttemptAnswers) (run : ProxyRun) : Sends resolved.provider.id run
    (attempt columns recoveryEnabled resolved rest answers run).2 := by
  have none : Sends resolved.provider.id run run := ⟨0, (List.append_nil _).symm⟩
  unfold attempt
  split
  · exact none
  split
  · exact none
  split
  · exact none
  split
  · exact none
  dsimp only
  split
  · exact none
  split
  · exact none
  · exact serve_sends answers none

theorem proxyAttempts_sends (script : Nat → AttemptAnswers) (targets : List ResolvedUpstream)
    (index : Nat) (run : ProxyRun) : ∃ counts,
      (proxyAttempts columns recoveryEnabled script index targets run).2.dispatched =
        run.dispatched ++ sendsOf targets counts := by
  induction targets generalizing index run with
  | nil => exact ⟨[], (List.append_nil _).symm⟩
  | cons resolved rest ih =>
    obtain ⟨count, sent⟩ := @attempt_sends columns recoveryEnabled resolved rest (script index) run
    have last : run.dispatched ++ List.replicate count resolved.provider.id =
        run.dispatched ++ sendsOf (resolved :: rest) [count] := by simp [sendsOf]
    unfold proxyAttempts
    split
    · rename_i after attempted
      rw [attempted] at sent
      obtain ⟨counts, later⟩ := ih (index + 1) after
      refine ⟨count :: counts, ?_⟩
      rw [later, sent, List.append_assoc]
      rfl
    · rename_i after attempted
      rw [attempted] at sent
      exact ⟨[count], sent.trans last⟩
    · rename_i result after attempted
      rw [attempted] at sent
      exact ⟨[count], sent.trans last⟩

/-- A request is only sent to targets that have passed every check, in the order of its plan and
without coming back to one. -/
theorem proxyOpenai_follows_plan (inputs : PlanInputs)
    (ranks : ∀ count keys, inputs.rankKeys count keys ⊆ keys) {hasPreviousResponseId : Bool}
    {existing : Option AffinityBinding} {appliedMs : Int} {order : AffinityOrder}
    {targets : List ResolvedUpstream}
    (planned : proxyTargets inputs hasPreviousResponseId existing appliedMs order = some targets)
    (recoveryEnabled : Bool) (script : Nat → AttemptAnswers) (timeout startedAt : Nat) :
    (∀ target ∈ targets, Cleared inputs target ∧
        (inputs.apiFormat = .responses → hasPreviousResponseId = true →
          isResponsesViaChat target = false)) ∧
      ∃ counts, (proxyOpenai inputs.columns recoveryEnabled script targets timeout
        startedAt).2.dispatched = sendsOf targets counts := by
  refine ⟨fun target member => ?_, proxyAttempts_sends script targets 0 _⟩
  unfold proxyTargets at planned
  split at planned
  · cases planned
  rename_i plan state book built
  have cleared := PlanInputs.build_clears ranks (congrArg (·.1) built)
  dsimp only at planned
  split at planned
  · split at planned
    · cases planned
    cases planned
    rw [(applyAffinityToPlan_perm _ _ _ _ _ _).mem_iff] at member
    obtain ⟨listed, native⟩ := List.mem_filter.mp member
    exact ⟨cleared target listed, fun _ _ => by simpa using native⟩
  · rename_i fresh
    split at planned
    · cases planned
    cases planned
    rw [(applyAffinityToPlan_perm _ _ _ _ _ _).mem_iff] at member
    exact ⟨cleared target member, fun responses previous => by simp [responses, previous] at fresh⟩

def plainInputs : PlanInputs where
  state := idleState
  affinity := .new 1800000 10000
  snap := { movedSnapshot [1] with
    keysByProvider := (∅ : HashMap Int (List UpstreamKey)).insert 1 [⟨7, 1, true⟩] }
  columns := ⟨fun _ => true, fun _ => i32 100, fun _ => i32 2⟩
  rankKeys _ keys := keys
  draws := .least
  apiFormat := .responses
  requestedModel := "m"
  allowedProviderIds := [1]
  identity := none
  allowResponsesViaChat := true
  nowMs := 0

theorem proxyOpenai_follows_plan_one : ∃ targets, targets.length = 1 ∧
    ∀ script, (∀ target ∈ targets, Cleared plainInputs target) ∧
      ∃ counts, (proxyOpenai plainInputs.columns true script targets 300000 0).2.dispatched =
        sendsOf targets counts := by
  have some_targets : (proxyTargets plainInputs false none 0 ⟨.plain, .plain⟩).any
      (·.length == 1) = true := by decide +kernel
  obtain ⟨targets, planned, one⟩ := (Option.any_eq_true _ _).mp some_targets
  refine ⟨targets, by simpa using one, fun script => ?_⟩
  obtain ⟨cleared, sent⟩ := proxyOpenai_follows_plan plainInputs (fun _ _ => List.Subset.refl _)
    planned true script 300000 0
  exact ⟨fun target member => (cleared target member).1, sent⟩

end Order

end CodexGate.Dispatch
