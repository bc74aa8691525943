import CodexGate.Foundation.Json
import CodexGate.Foundation.Text
import CodexGate.Types
import Mathlib.Data.ZMod.Basic

namespace CodexGate.Telemetry

open Foundation

def millisPerDay : Int := 86400000
def millisPerHour : Int := 3600000

structure TelemetryEvent where
  id : Option String
  apiKeyId : Int
  logEnabled : Bool
  providerId : Option Int
  endpointId : Option Int
  upstreamKeyId : Option Int
  apiFormat : String
  upstreamApiFormat : Option String
  model : Option String
  httpStatus : Option I32
  errorType : Option String
  errorMessage : Option String
  tStreamMs : Option Int
  tFirstByteMs : Option Int
  tFirstTokenMs : Option Int
  durationMs : Option Int
  usage : Usage
  usageObserved : Bool
  priceVersionId : Option Int
  priceTierIndex : Option I32
  timeMs : Int
  spanKind : String
  transport : String
  parentId : Option String
  wsSessionId : Option String
  ttftSource : Option String
  requestedReasoningEffort : Option String
  upstreamReasoningEffort : Option String
  requestedServiceTier : Option String
  upstreamServiceTier : Option String
  serviceTier : Option String
  routingTrace : Option Json

namespace TelemetryEvent

variable (event : TelemetryEvent)

def ok : Bool := (event.httpStatus.map Subtype.val).getD 500 < 400 && event.errorType.isNone

def wait : Int := event.durationMs.getD 0

def countsForStats : Bool := event.spanKind = "request" || event.spanKind = "ws_turn"

end TelemetryEvent

structure StatsAgg where
  requestSuccess : Int
  requestFailed : Int
  inputTokens : Int
  outputTokens : Int
  cacheReadInputTokens : Int
  cacheCreationInputTokens : Int
  reasoningOutputTokens : Int
  usageObservedRequests : Int
  waitTimeMs : Int
  deriving DecidableEq

def StatsAgg.default : StatsAgg := ⟨0, 0, 0, 0, 0, 0, 0, 0, 0⟩

def bump (counted : Bool) (counter : Int) : Int := if counted then wrapI64 (counter + 1) else counter

def StatsAgg.add (agg : StatsAgg) (ok : Bool) (usage : Usage) (usageObserved : Bool)
    (waitTimeMs : Int) : StatsAgg where
  requestSuccess := bump ok agg.requestSuccess
  requestFailed := bump (!ok) agg.requestFailed
  inputTokens := wrapI64 (agg.inputTokens + usage.inputTokens)
  outputTokens := wrapI64 (agg.outputTokens + usage.outputTokens)
  cacheReadInputTokens := wrapI64 (agg.cacheReadInputTokens + usage.cacheReadInputTokens)
  cacheCreationInputTokens := wrapI64 (agg.cacheCreationInputTokens + usage.cacheCreationInputTokens)
  reasoningOutputTokens := wrapI64 (agg.reasoningOutputTokens + usage.reasoningOutputTokens)
  usageObservedRequests := bump usageObserved agg.usageObservedRequests
  waitTimeMs := wrapI64 (agg.waitTimeMs + waitTimeMs)

structure HourlyKey where
  bucketMs : Int
  apiKeyId : Int
  providerId : Int
  endpointId : Int
  upstreamKeyId : Int
  apiFormat : String
  model : String
  priceVersionId : Int
  priceTierIndex : Int
  deriving DecidableEq

structure HourlyStatsAgg where
  stats : StatsAgg
  latencyLt500ms : Int
  latencyLt1000ms : Int
  latencyLt2000ms : Int
  latencyLt5000ms : Int
  latencyLt15000ms : Int
  latencyGte15000ms : Int
  deriving DecidableEq

def HourlyStatsAgg.default : HourlyStatsAgg := ⟨.default, 0, 0, 0, 0, 0, 0⟩

def HourlyStatsAgg.add (agg : HourlyStatsAgg) (ok : Bool) (event : TelemetryEvent)
    (waitTimeMs : Int) : HourlyStatsAgg :=
  let agg := { agg with stats := agg.stats.add ok event.usage event.usageObserved waitTimeMs }
  if waitTimeMs < 500 then { agg with latencyLt500ms := bump true agg.latencyLt500ms }
  else if waitTimeMs < 1000 then { agg with latencyLt1000ms := bump true agg.latencyLt1000ms }
  else if waitTimeMs < 2000 then { agg with latencyLt2000ms := bump true agg.latencyLt2000ms }
  else if waitTimeMs < 5000 then { agg with latencyLt5000ms := bump true agg.latencyLt5000ms }
  else if waitTimeMs < 15000 then { agg with latencyLt15000ms := bump true agg.latencyLt15000ms }
  else { agg with latencyGte15000ms := bump true agg.latencyGte15000ms }

def hourBucketMs (timeMs : Int) : Int := wrapI64 (timeMs / millisPerHour * millisPerHour)

def utcDay (timeMs : Int) : Int := timeMs / millisPerDay

def TelemetryEvent.modelLabel (event : TelemetryEvent) : String :=
  ((event.model.map trim).filter fun value => value ≠ "").getD "unknown"

def TelemetryEvent.hourlyKey (event : TelemetryEvent) : HourlyKey where
  bucketMs := hourBucketMs event.timeMs
  apiKeyId := event.apiKeyId
  providerId := event.providerId.getD 0
  endpointId := event.endpointId.getD 0
  upstreamKeyId := event.upstreamKeyId.getD 0
  apiFormat := event.apiFormat
  model := event.modelLabel
  priceVersionId := event.priceVersionId.getD 0
  priceTierIndex := (event.priceTierIndex.map Subtype.val).getD (-1)

inductive StatsField
  | requestSuccess
  | requestFailed
  | inputTokens
  | outputTokens
  | cacheReadInputTokens
  | cacheCreationInputTokens
  | reasoningOutputTokens
  | usageObservedRequests
  | waitTimeMs
  deriving DecidableEq

/-- Amounts of every field as `i64` counters keep them, which is up to multiples of `2 ^ 64`. -/
abbrev Counts := StatsField → ZMod (2 ^ 64)

def StatsAgg.field (agg : StatsAgg) : StatsField → Int
  | .requestSuccess => agg.requestSuccess
  | .requestFailed => agg.requestFailed
  | .inputTokens => agg.inputTokens
  | .outputTokens => agg.outputTokens
  | .cacheReadInputTokens => agg.cacheReadInputTokens
  | .cacheCreationInputTokens => agg.cacheCreationInputTokens
  | .reasoningOutputTokens => agg.reasoningOutputTokens
  | .usageObservedRequests => agg.usageObservedRequests
  | .waitTimeMs => agg.waitTimeMs

def StatsAgg.counts (agg : StatsAgg) : Counts := fun field => (agg.field field : ZMod (2 ^ 64))

def TelemetryEvent.amount (event : TelemetryEvent) : StatsField → Int
  | .requestSuccess => if event.ok then 1 else 0
  | .requestFailed => if event.ok then 0 else 1
  | .inputTokens => event.usage.inputTokens
  | .outputTokens => event.usage.outputTokens
  | .cacheReadInputTokens => event.usage.cacheReadInputTokens
  | .cacheCreationInputTokens => event.usage.cacheCreationInputTokens
  | .reasoningOutputTokens => event.usage.reasoningOutputTokens
  | .usageObservedRequests => if event.usageObserved then 1 else 0
  | .waitTimeMs => event.wait

def TelemetryEvent.counts (event : TelemetryEvent) : Counts :=
  fun field => (event.amount field : ZMod (2 ^ 64))

theorem wrapI64_cast (n : Int) : (wrapI64 n : ZMod (2 ^ 64)) = n := by
  rw [ZMod.intCast_eq_intCast_iff']
  exact Int.bmod_emod

theorem bump_cast (counted : Bool) (counter : Int) :
    (bump counted counter : ZMod (2 ^ 64)) = counter + ((if counted then 1 else 0 : Int) : ZMod (2 ^ 64)) := by
  cases counted with
  | false => simp [bump]
  | true =>
    simp only [bump, if_true, wrapI64_cast]
    push_cast
    rfl

@[simp] theorem StatsAgg.counts_default : StatsAgg.default.counts = 0 := by
  funext field
  cases field <;> simp [StatsAgg.counts, StatsAgg.field, StatsAgg.default]

theorem StatsAgg.counts_add (agg : StatsAgg) (event : TelemetryEvent) :
    (agg.add event.ok event.usage event.usageObserved event.wait).counts =
      agg.counts + event.counts := by
  funext field
  cases field <;>
    simp only [counts, StatsAgg.field, add, TelemetryEvent.counts, TelemetryEvent.amount,
      Pi.add_apply, wrapI64_cast, bump_cast, Int.cast_add]
  case requestFailed =>
    cases event.ok <;> rfl

theorem HourlyStatsAgg.stats_add (agg : HourlyStatsAgg) (event : TelemetryEvent) :
    (agg.add event.ok event event.wait).stats =
      agg.stats.add event.ok event.usage event.usageObserved event.wait := by
  unfold add
  dsimp only
  split_ifs <;> rfl

end CodexGate.Telemetry
