import CodexGate.Foundation.Execution
import CodexGate.Foundation.Tables
import CodexGate.Telemetry.Stats
import Mathlib.Data.List.Sort

namespace CodexGate.Telemetry

open Foundation

structure StatsDailyRow where
  date : Int
  apiKeyId : Int
  stats : StatsAgg
  updatedAtMs : Int

structure StatsHourlyRow where
  key : HourlyKey
  stats : HourlyStatsAgg
  updatedAtMs : Int

structure StatsEventRow where
  id : String
  timeMs : Int
  apiKeyId : Int
  providerId : Option Int
  endpointId : Option Int
  upstreamKeyId : Option Int
  apiFormat : String
  model : Option String
  httpStatus : Option Int
  errorType : Option String
  usage : Usage
  usageObserved : Bool
  priceVersionId : Option Int
  priceTierIndex : Option I32
  durationMs : Option Int
  createdAtMs : Int

structure RequestLogRow where
  id : String
  timeMs : Int
  apiKeyId : Int
  providerId : Option Int
  endpointId : Option Int
  upstreamKeyId : Option Int
  apiFormat : String
  upstreamApiFormat : Option String
  model : Option String
  httpStatus : Option I32
  errorType : Option String
  errorMessage : Option String
  usage : Usage
  usageObserved : Bool
  priceVersionId : Option Int
  priceTierIndex : Option I32
  tStreamMs : Option Int
  tFirstByteMs : Option Int
  tFirstTokenMs : Option Int
  durationMs : Option Int
  spanKind : String
  transport : String
  parentId : Option String
  wsSessionId : Option String
  ttftSource : Option String
  requestedReasoningEffort : Option String
  upstreamReasoningEffort : Option String
  requestedServiceTier : Option String
  upstreamServiceTier : Option String
  serviceTier : Option String
  routingTrace : Option Json
  createdAtMs : Int

structure DailyRecord where
  stats : StatsAgg
  updatedAtMs : Int
  deriving DecidableEq

structure HourlyRecord where
  stats : HourlyStatsAgg
  updatedAtMs : Int
  deriving DecidableEq

structure Database where
  statsDaily : HashMap (Int × Int) DailyRecord
  statsHourly : HashMap HourlyKey HourlyRecord
  statsEvents : List StatsEventRow
  requestLogs : List RequestLogRow

namespace Database

def listStatsDailyByDate (db : Database) (date : Int) : List StatsDailyRow :=
  (db.statsDaily.entries.filter fun entry => entry.1.1 = date).map fun entry =>
    ⟨entry.1.1, entry.1.2, entry.2.stats, entry.2.updatedAtMs⟩

def upsertStatsDaily (db : Database) (rows : List StatsDailyRow) : Database :=
  { db with
    statsDaily := writeRows (fun row => (row.date, row.apiKeyId))
      (fun _ row => ⟨row.stats, row.updatedAtMs⟩) rows db.statsDaily }

end Database

def StatsAgg.plus (stored excluded : StatsAgg) : StatsAgg where
  requestSuccess := stored.requestSuccess + excluded.requestSuccess
  requestFailed := stored.requestFailed + excluded.requestFailed
  inputTokens := stored.inputTokens + excluded.inputTokens
  outputTokens := stored.outputTokens + excluded.outputTokens
  cacheReadInputTokens := stored.cacheReadInputTokens + excluded.cacheReadInputTokens
  cacheCreationInputTokens := stored.cacheCreationInputTokens + excluded.cacheCreationInputTokens
  reasoningOutputTokens := stored.reasoningOutputTokens + excluded.reasoningOutputTokens
  usageObservedRequests := stored.usageObservedRequests + excluded.usageObservedRequests
  waitTimeMs := stored.waitTimeMs + excluded.waitTimeMs

def HourlyStatsAgg.plus (stored excluded : HourlyStatsAgg) : HourlyStatsAgg where
  stats := stored.stats.plus excluded.stats
  latencyLt500ms := stored.latencyLt500ms + excluded.latencyLt500ms
  latencyLt1000ms := stored.latencyLt1000ms + excluded.latencyLt1000ms
  latencyLt2000ms := stored.latencyLt2000ms + excluded.latencyLt2000ms
  latencyLt5000ms := stored.latencyLt5000ms + excluded.latencyLt5000ms
  latencyLt15000ms := stored.latencyLt15000ms + excluded.latencyLt15000ms
  latencyGte15000ms := stored.latencyGte15000ms + excluded.latencyGte15000ms

/-- What `STATS_HOURLY_UPSERT` leaves where a row of the same key may be stored. -/
def StatsHourlyRow.upserted (stored : Option HourlyRecord) (row : StatsHourlyRow) : HourlyRecord :=
  match stored with
  | none => ⟨row.stats, row.updatedAtMs⟩
  | some record => ⟨record.stats.plus row.stats, row.updatedAtMs⟩

def Database.upsertStatsHourly (db : Database) (rows : List StatsHourlyRow) : Database :=
  { db with statsHourly := writeRows StatsHourlyRow.key StatsHourlyRow.upserted rows db.statsHourly }

/-- `DELETE FROM stats_daily WHERE date < ? ORDER BY date, api_key_id LIMIT ?`, with the number of
rows that it removes. -/
def Database.deleteStatsDailyBefore (db : Database) (cutoffDate : Int) (limit : Nat) :
    Database × Nat :=
  let old := (db.statsDaily.keys.filter fun key => key.1 < cutoffDate).insertionSort fun a b =>
    a.1 < b.1 ∨ a.1 = b.1 ∧ a.2 ≤ b.2
  let removed := old.take (max limit 1)
  ({ db with statsDaily := removed.foldl (fun table key => table.erase key) db.statsDaily },
    removed.length)

structure RetentionPolicy where
  requestLogRetentionDays : Nat
  statsDailyRetentionDays : Nat
  cleanupIntervalMs : Nat
  deleteBatch : Nat

def RetentionPolicy.enabled (policy : RetentionPolicy) : Bool :=
  0 < policy.requestLogRetentionDays || 0 < policy.statsDailyRetentionDays

structure TelemetryWorker where
  logBatchMax : Nat
  retention : RetentionPolicy
  nextRetentionRunMs : Int
  currentDate : Int
  statsByKey : HashMap Int StatsAgg
  hourlyStats : HashMap HourlyKey HourlyStatsAgg
  dirty : Bool
  logBuffer : List RequestLogRow
  statsEventBuffer : List StatsEventRow

structure TelemetryWorld where
  worker : TelemetryWorker
  db : Database

/-- What the clock, the identifiers and the database answer while an event is taken in. -/
structure EventMoment where
  statsEventId : String
  logId : String
  nowMs : Int
  statsEventsFail : Bool
  logsFail : Bool

/-- What the clock and the database answer during a flush. An upsert of hourly rows is no
transaction: where it fails, rows of `hourlyFail` are stored and the others are not. -/
structure FlushMoment where
  nowMs : Int
  dailyFails : Bool
  hourlyFail : Option (List HourlyKey)
  statsEventsFail : Bool
  logsFail : Bool

structure RetentionMoment where
  nowMs : Int
  todayMs : Int
  deleteFailsAt : Option Nat

structure TickMoment where
  nowMs : Int
  rotation : FlushMoment
  listFails : Bool
  write : FlushMoment
  retention : RetentionMoment

inductive TelemetryAction
  | event (event : TelemetryEvent) (moment : EventMoment)
  | flush (moment : FlushMoment)
  | tick (moment : TickMoment)

def loadStats (rows : List StatsDailyRow) (stats : HashMap Int StatsAgg) : HashMap Int StatsAgg :=
  writeRows StatsDailyRow.apiKeyId (fun _ row => row.stats) rows stats

def updateEntry {κ ν : Type} [DecidableEq κ] (table : HashMap κ ν) (key : κ) (blank : ν)
    (change : ν → ν) : HashMap κ ν :=
  table.insert key (change ((table.lookup key).getD blank))

def statsEventFromEvent (event : TelemetryEvent) (ok : Bool) (moment : EventMoment) :
    StatsEventRow where
  id := moment.statsEventId
  timeMs := event.timeMs
  apiKeyId := event.apiKeyId
  providerId := event.providerId
  endpointId := event.endpointId
  upstreamKeyId := event.upstreamKeyId
  apiFormat := event.apiFormat
  model := event.model
  httpStatus := (event.httpStatus.map Subtype.val).or (if ok then some 200 else some 500)
  errorType := event.errorType
  usage := event.usage
  usageObserved := event.usageObserved
  priceVersionId := event.priceVersionId
  priceTierIndex := event.priceTierIndex
  durationMs := event.durationMs
  createdAtMs := moment.nowMs

def logMessage : Option String → Option (Option String)
  | none => some none
  | some message =>
    if 512 < byteLength message then (truncate message 512).map some else some (some message)

def requestLogRow (event : TelemetryEvent) (errorMessage : Option String) (moment : EventMoment) :
    RequestLogRow where
  id := event.id.getD moment.logId
  timeMs := event.timeMs
  apiKeyId := event.apiKeyId
  providerId := event.providerId
  endpointId := event.endpointId
  upstreamKeyId := event.upstreamKeyId
  apiFormat := event.apiFormat
  upstreamApiFormat := event.upstreamApiFormat
  model := event.model
  httpStatus := event.httpStatus
  errorType := event.errorType
  errorMessage := errorMessage
  usage := event.usage
  usageObserved := event.usageObserved
  priceVersionId := event.priceVersionId
  priceTierIndex := event.priceTierIndex
  tStreamMs := event.tStreamMs
  tFirstByteMs := event.tFirstByteMs
  tFirstTokenMs := event.tFirstTokenMs
  durationMs := event.durationMs
  spanKind := event.spanKind
  transport := event.transport
  parentId := event.parentId
  wsSessionId := event.wsSessionId
  ttftSource := event.ttftSource
  requestedReasoningEffort := event.requestedReasoningEffort
  upstreamReasoningEffort := event.upstreamReasoningEffort
  requestedServiceTier := event.requestedServiceTier
  upstreamServiceTier := event.upstreamServiceTier
  serviceTier := event.serviceTier
  routingTrace := event.routingTrace
  createdAtMs := moment.nowMs

namespace TelemetryWorker

def nextRetention (retention : RetentionPolicy) (nowMs : Int) : Int :=
  if retention.enabled then wrapI64 (nowMs + min (retention.cleanupIntervalMs : Int) i64Max) else i64Max

def new (db : Database) (logBatchMax : Nat) (retention : RetentionPolicy) (nowMs : Int) :
    TelemetryWorker where
  logBatchMax := max logBatchMax 1
  retention := retention
  nextRetentionRunMs := nextRetention retention nowMs
  currentDate := utcDay nowMs
  statsByKey := loadStats (db.listStatsDailyByDate (utcDay nowMs)) ∅
  hourlyStats := ∅
  dirty := false
  logBuffer := []
  statsEventBuffer := []

variable (worker : TelemetryWorker)

def dailyRows (nowMs : Int) : List StatsDailyRow :=
  worker.statsByKey.entries.map fun entry => ⟨worker.currentDate, entry.1, entry.2, nowMs⟩

def hourlyRows (updatedAtMs : Int) : List StatsHourlyRow :=
  worker.hourlyStats.entries.map fun entry => ⟨entry.1, entry.2, updatedAtMs⟩

def count (event : TelemetryEvent) (moment : EventMoment) : TelemetryWorker :=
  let ok := event.ok
  let wait := event.wait
  let add (stats : HashMap Int StatsAgg) (key : Int) :=
    updateEntry stats key .default fun agg => agg.add ok event.usage event.usageObserved wait
  { worker with
    statsByKey := add (add worker.statsByKey event.apiKeyId) 0
    hourlyStats := updateEntry worker.hourlyStats event.hourlyKey .default fun agg =>
      agg.add ok event wait
    dirty := true
    statsEventBuffer := worker.statsEventBuffer ++ [statsEventFromEvent event ok moment] }

end TelemetryWorker

namespace TelemetryWorld

def new (db : Database) (logBatchMax : Nat) (retention : RetentionPolicy) (nowMs : Int) :
    TelemetryWorld :=
  ⟨.new db logBatchMax retention nowMs, db⟩

variable (world : TelemetryWorld)

def flushLogs (fails : Bool) : TelemetryWorld :=
  if world.worker.logBuffer.isEmpty then world
  else
    { worker := { world.worker with logBuffer := [] }
      db := { world.db with
        requestLogs :=
          if fails then world.db.requestLogs
          else world.db.requestLogs ++ world.worker.logBuffer } }

def flushStatsEvents (fails : Bool) : TelemetryWorld :=
  if world.worker.statsEventBuffer.isEmpty then world
  else
    { worker := { world.worker with statsEventBuffer := [] }
      db := { world.db with
        statsEvents :=
          if fails then world.db.statsEvents
          else world.db.statsEvents ++ world.worker.statsEventBuffer } }

def flushDaily (moment : FlushMoment) : TelemetryWorld :=
  if moment.dailyFails then { world with worker := { world.worker with dirty := true } }
  else { world with db := world.db.upsertStatsDaily (world.worker.dailyRows moment.nowMs) }

def flushHourly (moment : FlushMoment) : TelemetryWorld :=
  let rows := world.worker.hourlyRows moment.nowMs
  match moment.hourlyFail with
  | none => ⟨{ world.worker with hourlyStats := ∅ }, world.db.upsertStatsHourly rows⟩
  | some stored =>
    ⟨{ world.worker with dirty := true },
      world.db.upsertStatsHourly (rows.filter fun row => row.key ∈ stored)⟩

def flushStats (moment : FlushMoment) : TelemetryWorld :=
  let world := world.flushDaily moment
  if world.worker.hourlyStats.entries.isEmpty then world else world.flushHourly moment

def flushDirty (moment : FlushMoment) : TelemetryWorld :=
  if world.worker.dirty then
    { world with worker := { world.worker with dirty := false } }.flushStats moment
  else world

def flush (moment : FlushMoment) : TelemetryWorld :=
  ((world.flushDirty moment).flushLogs moment.logsFail).flushStatsEvents moment.statsEventsFail

def beginDay (nowMs : Int) (listFails : Bool) : TelemetryWorld :=
  let rows := if listFails then [] else world.db.listStatsDailyByDate (utcDay nowMs)
  { world with
    worker := { world.worker with
      currentDate := utcDay nowMs, statsByKey := loadStats rows ∅, dirty := false } }

def maybeRotateDay (moment : TickMoment) : TelemetryWorld :=
  if utcDay moment.nowMs = world.worker.currentDate then world
  else (world.flush moment.rotation).beginDay moment.nowMs moment.listFails

def deleteBatches (world : TelemetryWorld) (cutoffDate : Int) (failsAt : Option Nat) :
    Nat → Nat → TelemetryWorld
  | _, 0 => world
  | index, batches + 1 =>
    if failsAt = some index then world
    else
      let limit := world.worker.retention.deleteBatch
      let deleted := world.db.deleteStatsDailyBefore cutoffDate limit
      let next := { world with db := deleted.1 }
      if deleted.2 < limit then next else deleteBatches next cutoffDate failsAt (index + 1) batches

def cutoffDate (moment : RetentionMoment) : Int :=
  utcDay moment.todayMs - ((world.worker.retention.statsDailyRetentionDays - 1 : Nat) : Int)

def maybeRunRetention (moment : RetentionMoment) : TelemetryWorld :=
  if ¬world.worker.retention.enabled ∨ moment.nowMs < world.worker.nextRetentionRunMs then world
  else
    let world := { world with
      worker := { world.worker with
        nextRetentionRunMs := TelemetryWorker.nextRetention world.worker.retention moment.nowMs } }
    if 0 < world.worker.retention.statsDailyRetentionDays then
      world.deleteBatches (world.cutoffDate moment) moment.deleteFailsAt 0 4
    else world

def tick (moment : TickMoment) : TelemetryWorld :=
  ((world.maybeRotateDay moment).flush moment.write).maybeRunRetention moment.retention

def logEvent (event : TelemetryEvent) (moment : EventMoment) : Option TelemetryWorld :=
  if event.logEnabled then
    (logMessage event.errorMessage).map fun errorMessage =>
      let row := requestLogRow event errorMessage moment
      let world := { world with
        worker := { world.worker with logBuffer := world.worker.logBuffer ++ [row] } }
      if world.worker.logBatchMax ≤ world.worker.logBuffer.length then world.flushLogs moment.logsFail
      else world
  else some world

def countEvent (event : TelemetryEvent) (moment : EventMoment) : TelemetryWorld :=
  if event.countsForStats then
    let world := { world with worker := world.worker.count event moment }
    if world.worker.logBatchMax ≤ world.worker.statsEventBuffer.length then
      world.flushStatsEvents moment.statsEventsFail
    else world
  else world

/-- `None` where the worker panics. -/
def onEvent (event : TelemetryEvent) (moment : EventMoment) : Option TelemetryWorld :=
  (world.countEvent event moment).logEvent event moment

def step : TelemetryAction → Option TelemetryWorld
  | .event event moment => world.onEvent event moment
  | .flush moment => some (world.flush moment)
  | .tick moment => some (world.tick moment)

abbrev Run (start : TelemetryWorld) :=
  Execution (fun before action after => step before action = some after) start

end TelemetryWorld

end CodexGate.Telemetry
