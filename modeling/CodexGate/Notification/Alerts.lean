import CodexGate.Notification.Reports
import Mathlib.Order.Defs.LinearOrder

namespace CodexGate.Notification

open Foundation

def alertEvaluationMs : Int := 60000

inductive AlertMetric
  | cpuUsagePercent
  | memoryUsagePercent
  | unhealthyProviderCount
  | requestCount
  | errorRatePercent
  | totalTokens
  | estimatedCostUsd
  deriving DecidableEq

inductive AlertOperator
  | gt
  | gte
  | lt
  | lte
  deriving DecidableEq

section Values

/-! The values are `f64` in the source; only their comparisons count here. -/

variable {F : Type} [LT F] [LE F] [DecidableLT F] [DecidableLE F]

def AlertOperator.matches (operator : AlertOperator) (value threshold : F) : Bool :=
  match operator with
  | .gt => threshold < value
  | .gte => threshold ≤ value
  | .lt => value < threshold
  | .lte => value ≤ threshold

structure ThresholdAlertConfig (F : Type) where
  metric : AlertMetric
  operator : AlertOperator
  threshold : F
  minimumRequests : Nat
  triggerAfter : Nat
  recoverAfter : Nat
  cooldownMinutes : Nat
  sendRecovery : Bool
  windowMinutes : Nat

structure MetricValue (F : Type) where
  value : F
  complete : Bool
  sampleCount : Int

structure AlertState where
  state : String
  breachCount : Int
  recoveryCount : Int
  openedAtMs : Option Int
  lastNotifiedAtMs : Option Int
  deriving DecidableEq

def defaultAlertState : AlertState where
  state := "normal"
  breachCount := 0
  recoveryCount := 0
  openedAtMs := none
  lastNotifiedAtMs := none

structure AlertTransition where
  next : AlertState
  eventType : Option String
  deriving DecidableEq

def unchangedTransition (state : AlertState) : AlertTransition where
  next := state
  eventType := none

def evaluateAlert (state : AlertState) (config : ThresholdAlertConfig F)
    (value : Option (MetricValue F)) (nowMs : Int) : AlertTransition :=
  match value with
  | none => unchangedTransition state
  | some value =>
    if config.metric = .errorRatePercent ∧ value.sampleCount < config.minimumRequests then
      unchangedTransition state
    else
      let breached := config.operator.matches value.value config.threshold
      if !breached && !value.complete then unchangedTransition state
      else if state.state = "firing" then
        if breached then
          let cooldownMs : Int := config.cooldownMinutes * 60000
          let shouldRemind := state.lastNotifiedAtMs.all fun last =>
            cooldownMs ≤ saturatingSubI64 nowMs last
          { next :=
              { state := "firing"
                breachCount := state.breachCount
                recoveryCount := 0
                openedAtMs := state.openedAtMs
                lastNotifiedAtMs := if shouldRemind then some nowMs else state.lastNotifiedAtMs }
            eventType := if shouldRemind then some "alert_reminder" else none }
        else
          let recoveryCount := saturatingAddI64 state.recoveryCount 1
          let recovered := decide ((config.recoverAfter : Int) ≤ recoveryCount)
          { next :=
              { state := if recovered then "normal" else "firing"
                breachCount := if recovered then 0 else state.breachCount
                recoveryCount := if recovered then 0 else recoveryCount
                openedAtMs := if recovered then none else state.openedAtMs
                lastNotifiedAtMs :=
                  if recovered && config.sendRecovery then some nowMs else state.lastNotifiedAtMs }
            eventType := if recovered && config.sendRecovery then some "alert_recovered" else none }
      else if breached then
        let breachCount := saturatingAddI64 state.breachCount 1
        let triggered := decide ((config.triggerAfter : Int) ≤ breachCount)
        { next :=
            { state := if triggered then "firing" else "pending"
              breachCount := breachCount
              recoveryCount := 0
              openedAtMs := if triggered then some nowMs else none
              lastNotifiedAtMs := if triggered then some nowMs else none }
          eventType := if triggered then some "alert_triggered" else none }
      else
        { next :=
            { state := "normal"
              breachCount := 0
              recoveryCount := 0
              openedAtMs := none
              lastNotifiedAtMs := state.lastNotifiedAtMs }
          eventType := none }

theorem evaluateAlert_triggers (state : AlertState) (config : ThresholdAlertConfig F)
    (value : Option (MetricValue F)) (nowMs : Int) :
    (evaluateAlert state config value nowMs).eventType = some "alert_triggered" ↔
      state.state ≠ "firing" ∧ (evaluateAlert state config value nowMs).next.state = "firing" := by
  unfold evaluateAlert unchangedTransition
  dsimp only
  repeat' split
  all_goals simp_all

theorem evaluateAlert_recovers (state : AlertState) (config : ThresholdAlertConfig F)
    (value : Option (MetricValue F)) (nowMs : Int) :
    (evaluateAlert state config value nowMs).eventType = some "alert_recovered" ↔
      state.state = "firing" ∧ (evaluateAlert state config value nowMs).next.state ≠ "firing" ∧
        config.sendRecovery = true := by
  unfold evaluateAlert unchangedTransition
  dsimp only
  repeat' split
  all_goals simp_all
  omega

/-- One turn of `process_rules` on a threshold rule, with the outcomes of its calls. The clock is
below the last `i64`, where the times of the rule stop moving. -/
structure Evaluation (F : Type) where
  nowMs : Int
  inRange : nowMs < i64Max
  owner : String
  config : ThresholdAlertConfig F
  ruleClaimed : CallOutcome
  /-- `build_payload` has read the usage. -/
  payloadBuilt : Bool
  value : Option (MetricValue F)
  stateRead : Bool
  stateStored : CallOutcome
  channelsRead : Bool
  runCreated : CallOutcome
  ruleCompleted : CallOutcome
  ruleReleased : CallOutcome

structure AlertStore where
  rule : Rule
  alertState : Option AlertState
  reports : List Report

def alertReport (ruleId : Int) (evaluation : Evaluation F) (eventType : String) : Report where
  ruleId := some ruleId
  eventType := eventType
  scheduledForMs := evaluation.nowMs
  windowFromMs := some (saturatingSubI64 evaluation.nowMs (evaluation.config.windowMinutes * 60000))
  windowToMs := some evaluation.nowMs

namespace AlertStore

def transition (store : AlertStore) (evaluation : Evaluation F) : AlertTransition :=
  evaluateAlert (store.alertState.getD defaultAlertState) evaluation.config evaluation.value
    evaluation.nowMs

def processRule (ruleId : Int) (store : AlertStore) (evaluation : Evaluation F) :
    AlertStore × Bool :=
  let complete (store : AlertStore) : AlertStore × Bool :=
    (evaluation.ruleCompleted.leaves store
      { store with
        rule := store.rule.complete evaluation.owner
          (saturatingAddI64 evaluation.nowMs alertEvaluationMs) none },
      evaluation.ruleCompleted.ok)
  if !evaluation.payloadBuilt || !evaluation.stateRead then (store, false)
  else
    let transition := store.transition evaluation
    let stored := evaluation.stateStored.leaves store
      { store with alertState := some transition.next }
    if !evaluation.stateStored.ok then (stored, false)
    else
      match transition.eventType with
      | some eventType =>
        if !evaluation.channelsRead then (stored, false)
        else
          let created := evaluation.runCreated.leaves stored
            { stored with
              reports := createRun stored.reports (alertReport ruleId evaluation eventType) }
          if !evaluation.runCreated.ok then (created, false) else complete created
      | none => complete stored

end AlertStore

def evaluateRule (ruleId : Int) (store : AlertStore) (evaluation : Evaluation F) :
    Option AlertStore :=
  if store.rule.claimable evaluation.nowMs then
    let claimed := evaluation.ruleClaimed.leaves store
      { store with rule := store.rule.claim evaluation.owner evaluation.nowMs }
    if !evaluation.ruleClaimed.ok then some claimed
    else
      match claimed.processRule ruleId evaluation with
      | (after, true) => some after
      | (after, false) =>
        some (evaluation.ruleReleased.leaves after
          { after with
            rule := after.rule.release evaluation.owner
              (saturatingAddI64 evaluation.nowMs ruleRetryMs) })
  else none

end Values

end CodexGate.Notification
