import CodexGate.Notification.Alerts

namespace CodexGate.Notification

open Foundation

variable {F : Type} [LT F] [LE F] [DecidableLT F] [DecidableLE F]

abbrev AlertStep (F : Type) [LT F] [LE F] [DecidableLT F] [DecidableLE F] (ruleId : Int)
    (before : AlertStore) (evaluation : Evaluation F) (after : AlertStore) : Prop :=
  evaluateRule ruleId before evaluation = some after

def storedEvent (t : Transition AlertStore (Evaluation F)) : Option String :=
  if t.action.ruleClaimed.ok && t.action.payloadBuilt && t.action.stateRead &&
      t.action.stateStored.applied then
    (t.before.transition t.action).eventType
  else none

def Uninterrupted (evaluation : Evaluation F) : Prop :=
  evaluation.stateStored.ok = true ∧ evaluation.channelsRead = true ∧
    evaluation.runCreated.applied = true

instance (evaluation : Evaluation F) : Decidable (Uninterrupted evaluation) :=
  inferInstanceAs (Decidable (_ ∧ _ ∧ _))

def reported (ruleId : Int) (eventType : String) (timeMs : Int) (reports : List Report) : Nat :=
  reports.countP fun report => report.ruleId = some ruleId ∧ report.eventType = eventType ∧
    report.scheduledForMs = timeMs

def reportsAfter (ruleId : Int) (evaluation : Evaluation F) (event : Option String)
    (reports : List Report) : List Report :=
  match event with
  | some eventType =>
    if Uninterrupted evaluation then createRun reports (alertReport ruleId evaluation eventType)
    else reports
  | none => reports

theorem processRule_reports (ruleId : Int) (store : AlertStore) (evaluation : Evaluation F) :
    (store.processRule ruleId evaluation).1.reports =
      reportsAfter ruleId evaluation
        (if evaluation.payloadBuilt && evaluation.stateRead && evaluation.stateStored.applied then
          (store.transition evaluation).eventType
        else none) store.reports := by
  have completes : ∀ after : AlertStore, (evaluation.ruleCompleted.leaves after
      { after with
        rule := after.rule.complete evaluation.owner
          (saturatingAddI64 evaluation.nowMs alertEvaluationMs) none }).reports = after.reports := by
    intro after
    unfold CallOutcome.leaves
    split <;> rfl
  unfold AlertStore.processRule
  by_cases built : (evaluation.payloadBuilt && evaluation.stateRead) = true
  · have started : (!evaluation.payloadBuilt || !evaluation.stateRead) = false := by
      rw [← Bool.not_and, built]
      rfl
    rw [started, built]
    simp only [Bool.false_eq_true, if_false, Bool.true_and]
    cases stored : evaluation.stateStored.ok with
    | false =>
      have interrupted : ¬ Uninterrupted evaluation := fun whole =>
        Bool.noConfusion (stored.symm.trans whole.1)
      simp only [Bool.not_false, if_true, reportsAfter, if_neg interrupted, CallOutcome.leaves]
      split
      · split <;> rfl
      · rfl
    | true =>
      have applied := CallOutcome.applied_of_ok stored
      simp only [Bool.not_true, Bool.false_eq_true, if_false, applied, if_true, CallOutcome.leaves]
      cases event : (store.transition evaluation).eventType with
      | none => exact completes _
      | some eventType =>
        simp only [reportsAfter, Uninterrupted, stored, true_and]
        cases channels : evaluation.channelsRead with
        | false => simp
        | true =>
          simp only [Bool.not_true, Bool.false_eq_true, if_false, true_and]
          cases created : evaluation.runCreated.ok with
          | true =>
            have there := CallOutcome.applied_of_ok created
            simp only [Bool.not_true, Bool.false_eq_true, if_false, there, if_true]
            exact completes _
          | false =>
            simp only [Bool.not_false, if_true]
            split <;> rfl
  · have stopped : (evaluation.payloadBuilt && evaluation.stateRead) = false :=
      Bool.not_eq_true _ ▸ built
    have stops : (!evaluation.payloadBuilt || !evaluation.stateRead) = true := by
      rw [← Bool.not_and, stopped]
      rfl
    rw [stops, stopped]
    rfl

theorem evaluateRule_reports {ruleId : Int} {before after : AlertStore}
    {evaluation : Evaluation F} (taken : AlertStep F ruleId before evaluation after) :
    after.reports = reportsAfter ruleId evaluation
      (storedEvent ⟨before, evaluation, after⟩) before.reports := by
  have claimed : ∀ applied : CallOutcome, (applied.leaves before
      { before with rule := before.rule.claim evaluation.owner evaluation.nowMs }).reports =
        before.reports := by
    intro applied
    unfold CallOutcome.leaves
    split <;> rfl
  have same : ∀ applied : CallOutcome, (applied.leaves before
      { before with rule := before.rule.claim evaluation.owner evaluation.nowMs }).transition
        evaluation = before.transition evaluation := by
    intro applied
    unfold CallOutcome.leaves
    split <;> rfl
  unfold AlertStep evaluateRule at taken
  split at taken
  · dsimp only at taken
    split at taken
    · rename_i failed
      have failed : evaluation.ruleClaimed.ok = false := by simpa using failed
      cases taken
      rw [claimed]
      simp [storedEvent, failed, reportsAfter]
    · rename_i done
      have done : evaluation.ruleClaimed.ok = true := by simpa using done
      have processed := processRule_reports ruleId (evaluation.ruleClaimed.leaves before
        { before with rule := before.rule.claim evaluation.owner evaluation.nowMs }) evaluation
      rw [claimed, same] at processed
      have event : storedEvent ⟨before, evaluation, after⟩ =
          if evaluation.payloadBuilt && evaluation.stateRead && evaluation.stateStored.applied then
            (before.transition evaluation).eventType
          else none := by
        simp [storedEvent, done]
      rw [event, ← processed]
      split at taken
      · rename_i result processed
        cases taken
        rw [processed]
      · rename_i result processed
        cases taken
        rw [processed]
        unfold CallOutcome.leaves
        split <;> rfl
  · cases taken

def Rested (timeMs : Int) (rule : Rule) : Prop :=
  timeMs < rule.nextRunAtMs ∨ ∃ lease, rule.lease = some lease ∧ timeMs ≤ lease.untilMs

theorem Rested.before {timeMs nowMs : Int} {rule : Rule} (rested : Rested timeMs rule)
    (due : rule.claimable nowMs = true) : timeMs < nowMs := by
  unfold Rule.claimable at due
  simp only [Bool.and_eq_true, decide_eq_true_eq] at due
  obtain next | ⟨lease, is, kept⟩ := rested
  · omega
  · have isOver := due.2
    rw [is] at isOver
    simp only [Option.all_some, decide_eq_true_eq] at isOver
    omega

theorem Rested.earlier {timeMs laterMs : Int} {rule : Rule} (rested : Rested laterMs rule)
    (earlier : timeMs ≤ laterMs) : Rested timeMs rule := by
  obtain next | ⟨lease, is, kept⟩ := rested
  · exact .inl (by omega)
  · exact .inr ⟨lease, is, by omega⟩

theorem lt_saturatingAddI64 {nowMs more : Int} (inRange : nowMs < i64Max) (positive : 0 < more) :
    nowMs < saturatingAddI64 nowMs more := by
  unfold saturatingAddI64 clampI64
  simp only [i64Max, i64Min] at *
  omega

theorem rested_claim {rule : Rule} {owner : String} {nowMs : Int} (inRange : nowMs < i64Max) :
    Rested nowMs (rule.claim owner nowMs) :=
  .inr ⟨_, rfl, Int.le_of_lt (lt_saturatingAddI64 inRange (show 0 < ruleLeaseMs by decide))⟩

theorem Rested.complete {rule : Rule} {owner : String} {nowMs more : Int} {window : Option Int}
    (rested : Rested nowMs rule) (inRange : nowMs < i64Max) (positive : 0 < more) :
    Rested nowMs (rule.complete owner (saturatingAddI64 nowMs more) window) := by
  unfold Rule.complete
  split
  · exact .inl (lt_saturatingAddI64 inRange positive)
  · exact rested

theorem Rested.release {rule : Rule} {owner : String} {nowMs more : Int}
    (rested : Rested nowMs rule) (inRange : nowMs < i64Max) (positive : 0 < more) :
    Rested nowMs (rule.release owner (saturatingAddI64 nowMs more)) := by
  unfold Rule.release
  split
  · exact .inl (lt_saturatingAddI64 inRange positive)
  · exact rested

theorem processRule_rested {ruleId : Int} {store : AlertStore} {evaluation : Evaluation F}
    (rested : Rested evaluation.nowMs store.rule) :
    Rested evaluation.nowMs (store.processRule ruleId evaluation).1.rule := by
  have completes : ∀ after : AlertStore, after.rule = store.rule →
      Rested evaluation.nowMs (evaluation.ruleCompleted.leaves after
        { after with
          rule := after.rule.complete evaluation.owner
            (saturatingAddI64 evaluation.nowMs alertEvaluationMs) none }).rule := by
    intro after same
    obtain is | is := evaluation.ruleCompleted.leaves_cases after
      { after with
        rule := after.rule.complete evaluation.owner
          (saturatingAddI64 evaluation.nowMs alertEvaluationMs) none }
    · rw [is, same]
      exact rested
    · rw [is, same]
      exact rested.complete evaluation.inRange (by decide)
  have stored : (evaluation.stateStored.leaves store
      { store with alertState := some (store.transition evaluation).next }).rule = store.rule := by
    unfold CallOutcome.leaves
    split <;> rfl
  have created : ∀ after : AlertStore, ∀ reports, (evaluation.runCreated.leaves after
      { after with reports := reports }).rule = after.rule := by
    intro after reports
    unfold CallOutcome.leaves
    split <;> rfl
  unfold AlertStore.processRule
  dsimp only
  split
  · exact rested
  · split
    · rw [stored]
      exact rested
    · split
      · split
        · rw [stored]
          exact rested
        · split
          · rw [created, stored]
            exact rested
          · exact completes _ ((created _ _).trans stored)
      · exact completes _ stored

theorem evaluateRule_rested {ruleId : Int} {before after : AlertStore} {evaluation : Evaluation F}
    (taken : AlertStep F ruleId before evaluation after) :
    before.rule.claimable evaluation.nowMs = true ∧
      (evaluation.ruleClaimed.ok = false ∧ after.rule = before.rule ∨
        Rested evaluation.nowMs after.rule) := by
  unfold AlertStep evaluateRule at taken
  split at taken
  · rename_i due
    refine ⟨due, ?_⟩
    have claimed : Rested evaluation.nowMs (before.rule.claim evaluation.owner evaluation.nowMs) :=
      rested_claim evaluation.inRange
    dsimp only at taken
    split at taken
    · rename_i failed
      cases taken
      obtain is | is := evaluation.ruleClaimed.leaves_cases before
        { before with rule := before.rule.claim evaluation.owner evaluation.nowMs }
      · exact .inl ⟨by simpa using failed, congrArg AlertStore.rule is⟩
      · rw [is]
        exact .inr claimed
    · rename_i done
      have applied := CallOutcome.applied_of_ok
        (show evaluation.ruleClaimed.ok = true by simpa using done)
      rw [show evaluation.ruleClaimed.leaves before
        { before with rule := before.rule.claim evaluation.owner evaluation.nowMs } =
          { before with rule := before.rule.claim evaluation.owner evaluation.nowMs } from
            if_pos applied] at taken
      have processed := @processRule_rested F _ _ _ _ ruleId
        { before with rule := before.rule.claim evaluation.owner evaluation.nowMs } evaluation claimed
      refine .inr ?_
      split at taken
      · rename_i result is
        cases taken
        rw [is] at processed
        exact processed
      · rename_i result is
        cases taken
        rw [is] at processed
        obtain same | same := evaluation.ruleReleased.leaves_cases result
          { result with
            rule := result.rule.release evaluation.owner
              (saturatingAddI64 evaluation.nowMs ruleRetryMs) }
        · rw [same]
          exact processed
        · rw [same]
          exact processed.release evaluation.inRange (by decide)
  · cases taken

/-- Each transition in the alert state that carries an event has one run of that event. -/
def Reported (ruleId : Int) (history : List (Transition AlertStore (Evaluation F)))
    (store : AlertStore) : Prop :=
  ∀ t ∈ history, ∀ eventType, storedEvent t = some eventType →
    reported ruleId eventType t.action.nowMs store.reports = 1

theorem claimed_of_storedEvent {t : Transition AlertStore (Evaluation F)} {eventType : String}
    (stored : storedEvent t = some eventType) : t.action.ruleClaimed.ok = true := by
  unfold storedEvent at stored
  split at stored
  · rename_i all
    simp only [Bool.and_eq_true] at all
    exact all.1.1.1
  · cases stored

structure Accounted (ruleId : Int) (history : List (Transition AlertStore (Evaluation F)))
    (store : AlertStore) : Prop where
  dated : ∀ report ∈ store.reports, report.ruleId = some ruleId →
    ∃ t ∈ history, t.action.ruleClaimed.ok = true ∧ report.scheduledForMs = t.action.nowMs
  rested : ∀ t ∈ history, t.action.ruleClaimed.ok = true → Rested t.action.nowMs store.rule
  counted : ∀ t ∈ history, ∀ eventType, storedEvent t = some eventType →
    reported ruleId eventType t.action.nowMs store.reports =
      if Uninterrupted t.action then 1 else 0

theorem reported_append (ruleId timeMs : Int) (eventType : String) (reports more : List Report) :
    reported ruleId eventType timeMs (reports ++ more) =
      reported ruleId eventType timeMs reports + reported ruleId eventType timeMs more :=
  List.countP_append

theorem reported_none {ruleId timeMs : Int} {eventType : String} {reports : List Report}
    (dated : ∀ report ∈ reports, report.ruleId = some ruleId → report.scheduledForMs ≠ timeMs) :
    reported ruleId eventType timeMs reports = 0 := by
  unfold reported
  rw [List.countP_eq_zero]
  intro report member
  simp only [decide_eq_true_eq]
  exact fun same => dated report member same.1 same.2.2

omit [LT F] [LE F] [DecidableLT F] [DecidableLE F] in
theorem createRun_fresh {reports : List Report} {ruleId : Int} {evaluation : Evaluation F}
    (eventType : String) (dated : ∀ report ∈ reports, report.ruleId = some ruleId →
      report.scheduledForMs ≠ evaluation.nowMs) :
    createRun reports (alertReport ruleId evaluation eventType) =
      reports ++ [alertReport ruleId evaluation eventType] := by
  unfold createRun
  rw [if_neg]
  intro clash
  obtain ⟨report, member, same⟩ := List.any_eq_true.mp clash
  simp only [Report.clashes, alertReport, Bool.and_eq_true] at same
  exact dated report member (of_decide_eq_true same.1.1.2).symm (of_decide_eq_true same.2).symm

theorem evaluateRule_adds {ruleId : Int} {before after : AlertStore} {evaluation : Evaluation F}
    (taken : AlertStep F ruleId before evaluation after)
    (dated : ∀ report ∈ before.reports, report.ruleId = some ruleId →
      report.scheduledForMs ≠ evaluation.nowMs) :
    ∃ added, after.reports = before.reports ++ added ∧
      (∀ report ∈ added, evaluation.ruleClaimed.ok = true ∧
        report.scheduledForMs = evaluation.nowMs) ∧
      ∀ eventType, storedEvent ⟨before, evaluation, after⟩ = some eventType →
        reported ruleId eventType evaluation.nowMs added =
          if Uninterrupted evaluation then 1 else 0 := by
  have reports := evaluateRule_reports taken
  cases stored : storedEvent ⟨before, evaluation, after⟩ with
  | none =>
    rw [stored] at reports
    exact ⟨[], by simpa [reportsAfter] using reports, by simp, nofun⟩
  | some eventType =>
    rw [stored] at reports
    have claimed := claimed_of_storedEvent stored
    simp only [reportsAfter] at reports
    split at reports
    · rename_i whole
      refine ⟨[alertReport ruleId evaluation eventType],
        reports.trans (createRun_fresh eventType dated), ?_, ?_⟩
      · intro report member
        rw [List.mem_singleton] at member
        subst member
        exact ⟨claimed, rfl⟩
      · intro other same
        cases same
        rw [if_pos whole]
        simp [reported, alertReport]
    · rename_i interrupted
      refine ⟨[], by simpa using reports, by simp, fun other _ => ?_⟩
      rw [if_neg interrupted]
      rfl

theorem Accounted.step {ruleId : Int} {history : List (Transition AlertStore (Evaluation F))}
    {before after : AlertStore} {evaluation : Evaluation F}
    (accounted : Accounted ruleId history before)
    (taken : AlertStep F ruleId before evaluation after) :
    Accounted ruleId (⟨before, evaluation, after⟩ :: history) after := by
  obtain ⟨due, rests⟩ := evaluateRule_rested taken
  have earlier : ∀ t ∈ history, t.action.ruleClaimed.ok = true →
      t.action.nowMs < evaluation.nowMs := fun t member claimed =>
    (accounted.rested t member claimed).before due
  have dated : ∀ report ∈ before.reports, report.ruleId = some ruleId →
      report.scheduledForMs ≠ evaluation.nowMs := by
    intro report member of
    obtain ⟨t, member, claimed, same⟩ := accounted.dated report member of
    have := earlier t member claimed
    omega
  obtain ⟨added, reports, new, counts⟩ := evaluateRule_adds taken dated
  refine ⟨?_, ?_, ?_⟩
  · intro report member of
    rw [reports, List.mem_append] at member
    obtain member | member := member
    · obtain ⟨t, member, claimed, same⟩ := accounted.dated report member of
      exact ⟨t, List.mem_cons_of_mem _ member, claimed, same⟩
    · exact ⟨_, List.mem_cons_self, new report member⟩
  · intro t member claimed
    obtain same | member := List.mem_cons.mp member
    · subst same
      obtain ⟨failed, _⟩ | rested := rests
      · exact Bool.noConfusion (failed.symm.trans claimed)
      · exact rested
    · obtain ⟨_, same⟩ | rested := rests
      · rw [same]
        exact accounted.rested t member claimed
      · exact rested.earlier (Int.le_of_lt (earlier t member claimed))
  · intro t member eventType event
    rw [reports, reported_append]
    obtain same | member := List.mem_cons.mp member
    · subst same
      rw [reported_none dated, counts eventType event, Nat.zero_add]
    · have before' := earlier t member (claimed_of_storedEvent event)
      rw [accounted.counted t member eventType event, @reported_none _ _ _ added, Nat.add_zero]
      intro report there _
      have := (new report there).2
      omega

theorem accounted_run {ruleId : Int} {start store : AlertStore}
    {history : List (Transition AlertStore (Evaluation F))}
    (unreported : ∀ report ∈ start.reports, report.ruleId ≠ some ruleId)
    (run : Execution (AlertStep F ruleId) start history store) : Accounted ruleId history store :=
  run.invariant (P := Accounted ruleId)
    ⟨fun report member of => absurd of (unreported report member), by simp, by simp⟩
    fun _ _ _ _ accounted taken => accounted.step taken

/-- Each stored event has one run exactly if no evaluation fails between the two. -/
theorem alertEvents_reported_iff {ruleId : Int} {start store : AlertStore}
    {history : List (Transition AlertStore (Evaluation F))}
    (unreported : ∀ report ∈ start.reports, report.ruleId ≠ some ruleId)
    (run : Execution (AlertStep F ruleId) start history store) :
    Reported ruleId history store ↔
      ∀ t ∈ history, (storedEvent t).isSome = true → Uninterrupted t.action := by
  have accounted := accounted_run unreported run
  constructor
  · intro all t member stored
    obtain ⟨eventType, event⟩ := Option.isSome_iff_exists.mp stored
    have once := all t member eventType event
    rw [accounted.counted t member eventType event] at once
    by_contra interrupted
    rw [if_neg interrupted] at once
    cases once
  · intro whole t member eventType event
    rw [accounted.counted t member eventType event,
      if_pos (whole t member (by rw [event]; rfl))]

def firstBreach : ThresholdAlertConfig Int where
  metric := .cpuUsagePercent
  operator := .gte
  threshold := 80
  minimumRequests := 1
  triggerAfter := 1
  recoverAfter := 1
  cooldownMinutes := 30
  sendRecovery := true
  windowMinutes := 5

def breach : Evaluation Int where
  nowMs := 100000
  inRange := by decide
  owner := "a"
  config := firstBreach
  ruleClaimed := .done
  payloadBuilt := true
  value := some { value := 90, complete := true, sampleCount := 1 }
  stateRead := true
  stateStored := .done
  channelsRead := true
  runCreated := .done
  ruleCompleted := .done
  ruleReleased := .done

def secondBreach : Evaluation Int :=
  { breach with nowMs := 160000, inRange := by decide }

def calmRule : AlertStore where
  rule := { enabled := true, nextRunAtMs := 0, lastWindowEndMs := none, lease := none }
  alertState := none
  reports := []

theorem alertEvents_reported_iff_breach : ∃ history store,
    Execution (AlertStep Int 1) calmRule history store ∧ history.length = 2 ∧
      (Reported 1 history store ↔
        ∀ t ∈ history, (storedEvent t).isSome = true → Uninterrupted t.action) := by
  have replayed : ∃ run, replay (evaluateRule 1) calmRule [secondBreach, breach] = some run ∧
      run.1.length = 2 := ⟨_, rfl, rfl⟩
  obtain ⟨⟨history, store⟩, ran, length⟩ := replayed
  have run := replay_run ran
  exact ⟨history, store, run, length, alertEvents_reported_iff (by simp [calmRule]) run⟩

/-- The alert is firing, but its run is lost, and the retry finds nothing to report. -/
theorem triggered_alert_lost : ∃ history store,
    Execution (AlertStep Int 1) calmRule history store ∧ store.reports = [] ∧
      store.alertState.map (·.state) = some "firing" ∧ ¬ Reported 1 history store := by
  have replayed : ∃ run, replay (evaluateRule 1) calmRule
      [secondBreach, { breach with runCreated := .failed false }] = some run ∧
      run.2.reports = [] ∧ run.2.alertState.map (·.state) = some "firing" ∧
      ∃ t ∈ run.1, storedEvent t = some "alert_triggered" :=
    ⟨_, rfl, rfl, rfl, _, List.mem_cons_of_mem _ List.mem_cons_self, rfl⟩
  obtain ⟨⟨history, store⟩, ran, none, firing, t, member, event⟩ := replayed
  have none : store.reports = [] := none
  refine ⟨history, store, replay_run ran, none, firing, fun all => ?_⟩
  have once := all t member "alert_triggered" event
  rw [none] at once
  cases once

end CodexGate.Notification
