import CodexGate.Foundation.Execution
import CodexGate.Notification.Deliveries
import Mathlib.Order.Bounds.Basic

namespace CodexGate.Notification

open Foundation

def ruleLeaseMs : Int := 120000
def ruleRetryMs : Int := 60000

inductive CallOutcome
  | done
  | failed (applied : Bool)
  deriving DecidableEq

namespace CallOutcome

def ok : CallOutcome → Bool
  | .done => true
  | .failed _ => false

def applied : CallOutcome → Bool
  | .done => true
  | .failed applied => applied

def leaves {σ : Type} (outcome : CallOutcome) (before after : σ) : σ :=
  if outcome.applied then after else before

theorem leaves_cases {σ : Type} (outcome : CallOutcome) (before after : σ) :
    outcome.leaves before after = before ∨ outcome.leaves before after = after := by
  unfold leaves
  split
  · exact .inr rfl
  · exact .inl rfl

theorem applied_of_ok {outcome : CallOutcome} (ok : outcome.ok = true) : outcome.applied = true := by
  cases outcome with
  | done => rfl
  | failed => cases ok

end CallOutcome

structure Rule where
  enabled : Bool
  nextRunAtMs : Int
  lastWindowEndMs : Option Int
  lease : Option Lease
  deriving DecidableEq

namespace Rule

def claimable (rule : Rule) (nowMs : Int) : Bool :=
  rule.enabled && rule.nextRunAtMs ≤ nowMs && rule.lease.all (·.untilMs < nowMs)

def claim (rule : Rule) (owner : String) (nowMs : Int) : Rule :=
  { rule with lease := some { owner := owner, untilMs := saturatingAddI64 nowMs ruleLeaseMs } }

def ownedBy (rule : Rule) (owner : String) : Bool := rule.lease.any (·.owner == owner)

def complete (rule : Rule) (owner : String) (nextRunAtMs : Int) (lastWindowEndMs : Option Int) :
    Rule :=
  if rule.ownedBy owner then
    { rule with
      nextRunAtMs := nextRunAtMs
      lastWindowEndMs := lastWindowEndMs.or rule.lastWindowEndMs
      lease := none }
  else rule

def release (rule : Rule) (owner : String) (retryAtMs : Int) : Rule :=
  if rule.ownedBy owner then { rule with nextRunAtMs := retryAtMs, lease := none } else rule

end Rule

structure Report where
  ruleId : Option Int
  eventType : String
  scheduledForMs : Int
  windowFromMs : Option Int
  windowToMs : Option Int
  deriving DecidableEq

def Report.clashes (report other : Report) : Bool :=
  report.ruleId.isSome && report.ruleId = other.ruleId && report.eventType = other.eventType &&
    report.scheduledForMs = other.scheduledForMs

def createRun (reports : List Report) (report : Report) : List Report :=
  if reports.any report.clashes then reports else reports ++ [report]

def historyRetentionMs : Int := 90 * 86400000

/-- What the cron library answers for the expression and the timezone of a rule. -/
structure Schedule where
  previousOccurrence : Int → Option Int
  nextOccurrence : Int → Option Int

/-- The answers are the neighbouring occurrences, as far as there are any. -/
structure Schedule.Lawful (schedule : Schedule) (occurrences : Set Int) : Prop where
  previous : ∀ atMs occurrence, schedule.previousOccurrence atMs = some occurrence ↔
    IsGreatest {moment ∈ occurrences | moment < atMs} occurrence
  next : ∀ atMs occurrence, schedule.nextOccurrence atMs = some occurrence ↔
    IsLeast {moment ∈ occurrences | atMs < moment} occurrence

def Schedule.window (schedule : Schedule) (lastWindowEndMs : Option Int) (nowMs : Int) :
    Option (Int × Int) :=
  (schedule.previousOccurrence (nowMs + 1)).bind fun boundary =>
    match lastWindowEndMs with
    | some value =>
      if value < boundary then some (value, boundary)
      else (schedule.previousOccurrence boundary).map (·, boundary)
    | none => (schedule.previousOccurrence boundary).map (·, boundary)

inductive ReportPhase
  | polling
  | listed (lastWindowEndMs : Option Int)
  | claimed (lastWindowEndMs : Option Int)
  | creating (lastWindowEndMs : Option Int) (fromMs boundary : Int)
  | completing (boundary : Int)
  | releasing
  deriving DecidableEq

structure ReportWorker where
  nowMs : Int
  phase : ReportPhase
  deriving DecidableEq

structure ReportRow where
  report : Report
  createdAtMs : Int
  deriving DecidableEq

structure ReportStore where
  clockMs : Int
  rule : Rule
  rows : List ReportRow
  /-- Every window a report was created for, the latest last; no cleanup removes one. -/
  windows : List (Int × Int)
  workers : String → Option ReportWorker

namespace ReportStore

def enter (store : ReportStore) (owner : String) (worker : ReportWorker) (phase : ReportPhase) :
    ReportStore :=
  { store with
    workers := Function.update store.workers owner (some { worker with phase := phase }) }

def leave (store : ReportStore) (owner : String) : ReportStore :=
  { store with workers := Function.update store.workers owner none }

def scheduledReport (ruleId fromMs boundary : Int) : Report where
  ruleId := some ruleId
  eventType := "scheduled_report"
  scheduledForMs := boundary
  windowFromMs := some fromMs
  windowToMs := some boundary

def clashes (store : ReportStore) (report : Report) : Bool :=
  store.rows.any fun row => report.clashes row.report

def createRun (store : ReportStore) (ruleId fromMs boundary nowMs : Int) : ReportStore :=
  let report := scheduledReport ruleId fromMs boundary
  if store.clashes report then store
  else
    { store with
      rows := store.rows ++ [{ report := report, createdAtMs := nowMs }]
      windows := store.windows ++ [(fromMs, boundary)] }

def setRule (store : ReportStore) (rule : Rule) : ReportStore := { store with rule := rule }

end ReportStore

inductive ReportAction
  | tick (nowMs : Int)
  /-- `process_rules` starts and reads the clock. -/
  | poll (owner : String)
  | list (owner : String)
  | claim (owner : String) (outcome : CallOutcome)
  /-- The configuration, the payload and the channels of the rule are read. -/
  | prepare (owner : String) (prepared : Bool)
  | create (owner : String) (outcome : CallOutcome)
  | complete (owner : String) (outcome : CallOutcome)
  | release (owner : String) (outcome : CallOutcome)
  /-- The process ends. -/
  | crash (owner : String)
  /-- An admin updates the rule, with the clock read before. -/
  | edit (enabled : Bool) (nowMs : Int)
  | cleanup (nowMs : Int)

def stepReport (schedule : Schedule) (ruleId : Int) (store : ReportStore) (owner : String)
    (worker : ReportWorker) : ReportAction → Option ReportStore
  | .list _ =>
    match worker.phase with
    | .polling =>
      if store.rule.claimable worker.nowMs then
        some (store.enter owner worker (.listed store.rule.lastWindowEndMs))
      else some (store.leave owner)
    | _ => none
  | .claim _ outcome =>
    match worker.phase with
    | .listed lastWindowEndMs =>
      if store.rule.claimable worker.nowMs then
        let claimed := outcome.leaves store (store.setRule (store.rule.claim owner worker.nowMs))
        some (if outcome.ok then claimed.enter owner worker (.claimed lastWindowEndMs)
          else claimed.leave owner)
      else some (store.leave owner)
    | _ => none
  | .prepare _ prepared =>
    match worker.phase with
    | .claimed lastWindowEndMs =>
      match schedule.window lastWindowEndMs worker.nowMs, prepared with
      | some (fromMs, boundary), true =>
        some (store.enter owner worker (.creating lastWindowEndMs fromMs boundary))
      | _, _ => some (store.enter owner worker .releasing)
    | _ => none
  | .create _ outcome =>
    match worker.phase with
    | .creating _ fromMs boundary =>
      let created := outcome.leaves store (store.createRun ruleId fromMs boundary worker.nowMs)
      some (created.enter owner worker (if outcome.ok then .completing boundary else .releasing))
    | _ => none
  | .complete _ outcome =>
    match worker.phase with
    | .completing boundary =>
      match schedule.nextOccurrence worker.nowMs with
      | some next =>
        let completed := outcome.leaves store
          (store.setRule (store.rule.complete owner next (some boundary)))
        some (if outcome.ok then completed.leave owner
          else completed.enter owner worker .releasing)
      | none => some (store.enter owner worker .releasing)
    | _ => none
  | .release _ outcome =>
    match worker.phase with
    | .releasing =>
      some ((outcome.leaves store (store.setRule (store.rule.release owner
        (saturatingAddI64 worker.nowMs ruleRetryMs)))).leave owner)
    | _ => none
  | .crash _ => some (store.leave owner)
  | _ => none

def ReportAction.owner : ReportAction → Option String
  | .list owner | .claim owner _ | .prepare owner _ | .create owner _ | .complete owner _
  | .release owner _ | .crash owner => some owner
  | .tick _ | .poll _ | .edit .. | .cleanup _ => none

def reportStep (schedule : Schedule) (ruleId : Int) (store : ReportStore) (action : ReportAction) :
    Option ReportStore :=
  match action with
  | .tick nowMs =>
    if store.clockMs ≤ nowMs ∧ nowMs < i64Max then some { store with clockMs := nowMs } else none
  | .poll owner =>
    if store.workers owner = none then
      some (store.enter owner { nowMs := store.clockMs, phase := .polling } .polling)
    else none
  | .edit enabled nowMs =>
    if nowMs ≤ store.clockMs then
      some (match schedule.nextOccurrence nowMs with
        | some next =>
          store.setRule
            { store.rule with enabled := enabled, nextRunAtMs := next, lease := none }
        | none => store)
    else none
  | .cleanup nowMs =>
    if nowMs ≤ store.clockMs then
      let cutoffMs := saturatingSubI64 nowMs historyRetentionMs
      some { store with rows := store.rows.filter fun row => !decide (row.createdAtMs < cutoffMs) }
    else none
  | action =>
    match action.owner with
    | none => none
    | some owner => (store.workers owner).bind fun worker =>
        stepReport schedule ruleId store owner worker action

end CodexGate.Notification
