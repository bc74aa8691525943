import CodexGate.Foundation.Batches
import CodexGate.Telemetry.Worker
import Mathlib.Data.Prod.Lex
import Mathlib.Data.String.Basic

namespace CodexGate.Telemetry

open Foundation

def retentionMaxBatchesPerRun : Nat := 4

def RequestLogRow.age (row : RequestLogRow) : Int ×ₗ String := toLex (row.timeMs, row.id)

structure RequestLogTable where
  rows : List RequestLogRow
  distinct : (rows.map RequestLogRow.id).Nodup

namespace RequestLogTable

variable (table : RequestLogTable) (cutoffTimeMs limit : Int)

def before : List RequestLogRow := table.rows.filter fun row => row.timeMs < cutoffTimeMs

def limitRows (limit : Int) : Nat := (max limit 1).toNat

def listRequestLogsBefore : List RequestLogRow :=
  earliest RequestLogRow.age (limitRows limit) (table.before cutoffTimeMs)

def deleteRequestLogsBefore : RequestLogTable × Nat :=
  let ids := (earliest RequestLogRow.age (limitRows limit) (table.before cutoffTimeMs)).map
    RequestLogRow.id
  (⟨table.rows.filter fun row => row.id ∉ ids,
    table.distinct.sublist (List.filter_sublist.map RequestLogRow.id)⟩, ids.length)

/-- All rows of a transaction, or none where an `id` is there already. -/
def insertRequestLogs (rows : List RequestLogRow) : RequestLogTable :=
  if distinct : ((table.rows ++ rows).map RequestLogRow.id).Nodup then ⟨table.rows ++ rows, distinct⟩
  else table

end RequestLogTable

structure ArchivingPolicy extends RetentionPolicy where
  requestLogArchiveEnabled : Bool

def ArchivingPolicy.new (requestLogRetentionDays statsDailyRetentionDays cleanupIntervalMs
    deleteBatch : Nat) (requestLogArchiveEnabled : Bool) : ArchivingPolicy where
  requestLogRetentionDays := requestLogRetentionDays
  statsDailyRetentionDays := statsDailyRetentionDays
  cleanupIntervalMs := cleanupIntervalMs
  deleteBatch := max deleteBatch 1
  requestLogArchiveEnabled := requestLogArchiveEnabled

def ArchivingPolicy.batch (policy : ArchivingPolicy) : Int := wrapI64 policy.deleteBatch

inductive RetentionPhase
  | idle
  | listing (cutoffTimeMs : Int) (batches : Nat)
  | archiving (cutoffTimeMs : Int) (batches : Nat) (rows : List RequestLogRow)
  | deleting (cutoffTimeMs : Int) (batches : Nat) (rows : List RequestLogRow)

structure Retention where
  policy : ArchivingPolicy
  nextRetentionRunMs : Int
  phase : RetentionPhase

def RetentionPhase.next (cutoffTimeMs : Int) : Nat → RetentionPhase
  | 0 => .idle
  | batches + 1 => .listing cutoffTimeMs (batches + 1)

/-- Instances on one database, and the batches whose archive files have been written. -/
structure RetentionWorld (ι : Type) where
  instances : ι → Option Retention
  table : RequestLogTable
  archive : List (List RequestLogRow)

/-- `lost` where the rows are removed and the instance is answered an error. -/
inductive DeleteAnswer
  | removed
  | lost
  | failed
  deriving DecidableEq

inductive RetentionAction
  /-- A process starts, or starts again wherever its retention was. -/
  | start (policy : ArchivingPolicy) (nowMs : Int)
  | begin (nowMs : Int)
  | list (fails : Bool)
  | archive (fails : Bool)
  | delete (answer : DeleteAnswer)

inductive RequestLogAction (ι : Type)
  | insert (rows : List RequestLogRow)
  | retention (who : ι) (act : RetentionAction)

namespace RetentionWorld

variable {ι : Type} [DecidableEq ι] (world : RetentionWorld ι)

def enter (who : ι) (inst : Retention) (phase : RetentionPhase) : RetentionWorld ι :=
  { world with instances := Function.update world.instances who (some { inst with phase := phase }) }

def begin (who : ι) (inst : Retention) (nowMs : Int) : RetentionWorld ι :=
  if ¬inst.policy.enabled ∨ nowMs < inst.nextRetentionRunMs then world
  else
    let inst := { inst with
      nextRetentionRunMs := TelemetryWorker.nextRetention inst.policy.toRetentionPolicy nowMs }
    if 0 < inst.policy.requestLogRetentionDays then
      let days : Int := inst.policy.requestLogRetentionDays
      let cutoffTimeMs := saturatingSubI64 nowMs (saturatingMulI64 days millisPerDay)
      world.enter who inst (.listing cutoffTimeMs retentionMaxBatchesPerRun)
    else world.enter who inst .idle

def list (who : ι) (inst : Retention) (cutoffTimeMs : Int) (batches : Nat) (fails : Bool) :
    RetentionWorld ι :=
  let rows := world.table.listRequestLogsBefore cutoffTimeMs inst.policy.batch
  if fails ∨ rows.isEmpty then world.enter who inst .idle
  else if inst.policy.requestLogArchiveEnabled then
    world.enter who inst (.archiving cutoffTimeMs batches rows)
  else world.enter who inst (.deleting cutoffTimeMs batches rows)

def archiveRows (who : ι) (inst : Retention) (cutoffTimeMs : Int) (batches : Nat)
    (rows : List RequestLogRow) (fails : Bool) : RetentionWorld ι :=
  if fails then world.enter who inst .idle
  else
    { world.enter who inst (.deleting cutoffTimeMs batches rows) with
      archive := rows :: world.archive }

def delete (who : ι) (inst : Retention) (cutoffTimeMs : Int) (batches : Nat) :
    DeleteAnswer → RetentionWorld ι
  | .failed => world.enter who inst .idle
  | .lost =>
    { world.enter who inst .idle with
      table := (world.table.deleteRequestLogsBefore cutoffTimeMs inst.policy.batch).1 }
  | .removed =>
    let deleted := world.table.deleteRequestLogsBefore cutoffTimeMs inst.policy.batch
    let phase := if deleted.2 < inst.policy.deleteBatch then .idle else .next cutoffTimeMs batches
    { world.enter who inst phase with table := deleted.1 }

def stepOf (who : ι) : Option Retention → RetentionAction → Option (RetentionWorld ι)
  | _, .start policy nowMs =>
    let next := TelemetryWorker.nextRetention policy.toRetentionPolicy nowMs
    some (world.enter who ⟨policy, next, .idle⟩ .idle)
  | some inst, act =>
    match inst.phase, act with
    | .idle, .begin nowMs => some (world.begin who inst nowMs)
    | .listing cutoffTimeMs (batches + 1), .list fails =>
      some (world.list who inst cutoffTimeMs batches fails)
    | .archiving cutoffTimeMs batches rows, .archive fails =>
      some (world.archiveRows who inst cutoffTimeMs batches rows fails)
    | .deleting cutoffTimeMs batches _, .delete answer =>
      some (world.delete who inst cutoffTimeMs batches answer)
    | _, _ => none
  | none, _ => none

def step : RequestLogAction ι → Option (RetentionWorld ι)
  | .insert rows => some { world with table := world.table.insertRequestLogs rows }
  | .retention who act => world.stepOf who (world.instances who) act

abbrev Run (start : RetentionWorld ι) :=
  Execution (fun before action after => step before action = some after) start

abbrev Move (ι : Type) := Transition (RetentionWorld ι) (RequestLogAction ι)

def idle (table : RequestLogTable) : RetentionWorld ι := ⟨fun _ => none, table, []⟩

end RetentionWorld

end CodexGate.Telemetry
