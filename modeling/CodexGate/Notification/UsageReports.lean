import CodexGate.Notification.Hysteresis
import CodexGate.Pricing.Coverage
import CodexGate.Telemetry.Series

namespace CodexGate.Notification

open Foundation Pricing Telemetry
open Std (TransCmp)

def maxWebhookDimensionItems : Nat := 1000

inductive NotificationLocale
  | zhCn
  | enUs
  deriving DecidableEq

def localized (locale : NotificationLocale) (zh en : String) : String :=
  match locale with
  | .zhCn => zh
  | .enUs => en

/-- What `USAGE_SQLITE` and `USAGE_POSTGRES` group by. -/
structure UsageGroupKey where
  providerId : Option Int
  apiKeyId : Int
  priceVersionId : Option Int
  priceTierIndex : Option I32
  hasInputTokens : Bool
  hasOutputTokens : Bool
  hasCacheReadInputTokens : Bool
  hasCacheCreationInputTokens : Bool
  deriving DecidableEq

structure UsageGroupRow where
  providerId : Option Int
  apiKeyId : Int
  priceVersionId : Option Int
  priceTierIndex : Option I32
  requestSuccess : Int
  requestFailed : Int
  usageObservedRequests : Int
  usage : Usage
  deriving DecidableEq

def usageGroupKey (event : StatsEventRow) : UsageGroupKey where
  providerId := event.providerId
  apiKeyId := event.apiKeyId
  priceVersionId := event.priceVersionId
  priceTierIndex := event.priceTierIndex
  hasInputTokens := 0 < event.usage.inputTokens
  hasOutputTokens := 0 < event.usage.outputTokens
  hasCacheReadInputTokens := 0 < event.usage.cacheReadInputTokens
  hasCacheCreationInputTokens := 0 < event.usage.cacheCreationInputTokens

def summedUsage (events : List StatsEventRow) : Usage where
  inputTokens := sumOf events (·.usage.inputTokens)
  outputTokens := sumOf events (·.usage.outputTokens)
  cacheReadInputTokens := sumOf events (·.usage.cacheReadInputTokens)
  cacheCreationInputTokens := sumOf events (·.usage.cacheCreationInputTokens)
  reasoningOutputTokens := sumOf events (·.usage.reasoningOutputTokens)

def usageGroupRow (group : UsageGroupKey × List StatsEventRow) : UsageGroupRow where
  providerId := group.1.providerId
  apiKeyId := group.1.apiKeyId
  priceVersionId := group.1.priceVersionId
  priceTierIndex := group.1.priceTierIndex
  requestSuccess := countOf group.2 StatsEventRow.succeeded
  requestFailed := countOf group.2 StatsEventRow.failed
  usageObservedRequests := countOf group.2 (·.usageObserved)
  usage := summedUsage group.2

def reportEvents (events : List StatsEventRow) (fromMs toMs : Int) : List StatsEventRow :=
  events.filter fun event => fromMs ≤ event.timeMs ∧ event.timeMs < toMs

def AggregatedUsage (events : List StatsEventRow) (fromMs toMs : Int) (rows : List UsageGroupRow) : Prop :=
  ∃ groups : List (UsageGroupKey × List StatsEventRow),
    groups.Perm (groupRows usageGroupKey (reportEvents events fromMs toMs)) ∧
    rows = groups.map usageGroupRow

variable {Decimal : Type}

structure MutableAggregate (Decimal : Type) where
  requests : Int
  failed : Int
  usageObservedRequests : Int
  usage : Usage
  estimatedCostUsd : Decimal
  unpricedRequests : Int

structure UsageAggregate where
  requests : Int := 0
  failed : Int := 0
  errorRatePercent : Float := 0.0
  inputTokens : Int := 0
  outputTokens : Int := 0
  cacheReadInputTokens : Int := 0
  cacheCreationInputTokens : Int := 0
  reasoningOutputTokens : Int := 0
  totalTokens : Int := 0
  usageObservedRequests : Int := 0
  usageCoveragePercent : Float := 0.0
  estimatedCostUsd : String := ""
  unpricedRequests : Int := 0

def percent (numerator denominator : Int) : Float :=
  if denominator ≤ 0 then 0.0 else Float.ofInt (max numerator 0) / Float.ofInt denominator * 100.0

def addUsage (usage other : Usage) : Usage where
  inputTokens := saturatingAddI64 usage.inputTokens other.inputTokens
  outputTokens := saturatingAddI64 usage.outputTokens other.outputTokens
  cacheReadInputTokens := saturatingAddI64 usage.cacheReadInputTokens other.cacheReadInputTokens
  cacheCreationInputTokens := saturatingAddI64 usage.cacheCreationInputTokens other.cacheCreationInputTokens
  reasoningOutputTokens := saturatingAddI64 usage.reasoningOutputTokens other.reasoningOutputTokens

def tierOf (tierIndex : Option I32) : Int := (tierIndex.map fun index => index.val).getD 0

section Aggregates

variable (crate : DecimalCrate Decimal)

def MutableAggregate.default : MutableAggregate Decimal := ⟨0, 0, 0, ⟨0, 0, 0, 0, 0⟩, crate.zero, 0⟩

def rowCost (row : UsageGroupRow) (price : Option (PriceVersion Decimal)) : Outcome (PricedCost Decimal) :=
  match price with
  | none => .missing
  | some price => price.card.costForUsage crate row.usage (tierOf row.priceTierIndex)

def MutableAggregate.counted (self : MutableAggregate Decimal) (row : UsageGroupRow) : MutableAggregate Decimal :=
  { self with
    requests := saturatingAddI64 self.requests (saturatingAddI64 row.requestSuccess row.requestFailed)
    failed := saturatingAddI64 self.failed row.requestFailed
    usageObservedRequests := saturatingAddI64 self.usageObservedRequests row.usageObservedRequests
    usage := addUsage self.usage row.usage }

def MutableAggregate.add (self : MutableAggregate Decimal) (row : UsageGroupRow)
    (price : Option (PriceVersion Decimal)) : Option (MutableAggregate Decimal) :=
  match rowCost crate row price with
  | .aborted => none
  | .missing => some { self.counted row with
      unpricedRequests := saturatingAddI64 self.unpricedRequests row.usageObservedRequests }
  | .found cost => do
    let both ← crate.add cost.inputUsd cost.outputUsd
    let total ← crate.add self.estimatedCostUsd both
    some { self.counted row with estimatedCostUsd := total }

def MutableAggregate.finish (self : MutableAggregate Decimal) : UsageAggregate where
  requests := self.requests
  failed := self.failed
  errorRatePercent := percent self.failed self.requests
  inputTokens := self.usage.inputTokens
  outputTokens := self.usage.outputTokens
  cacheReadInputTokens := self.usage.cacheReadInputTokens
  cacheCreationInputTokens := self.usage.cacheCreationInputTokens
  reasoningOutputTokens := self.usage.reasoningOutputTokens
  totalTokens := saturatingAddI64 (saturatingAddI64 (saturatingAddI64 self.usage.inputTokens
    self.usage.outputTokens) self.usage.cacheReadInputTokens) self.usage.cacheCreationInputTokens
  usageObservedRequests := self.usageObservedRequests
  usageCoveragePercent := percent self.usageObservedRequests self.requests
  estimatedCostUsd := crate.normalized self.estimatedCostUsd
  unpricedRequests := self.unpricedRequests

structure Aggregates (Decimal : Type) where
  totals : MutableAggregate Decimal
  byProvider : HashMap Int (MutableAggregate Decimal)
  byClientKey : HashMap Int (MutableAggregate Decimal)

variable (versions : List (PriceVersion Decimal))

def rowPrice (row : UsageGroupRow) : Option (PriceVersion Decimal) := row.priceVersionId.bind (findVersion versions)

def addRow (aggregate : MutableAggregate Decimal) (row : UsageGroupRow) : Option (MutableAggregate Decimal) :=
  aggregate.add crate row (rowPrice versions row)

def clientKeyOf (row : UsageGroupRow) : Option Int := some row.apiKeyId

def aggregateStep (self : Aggregates Decimal) (row : UsageGroupRow) : Option (Aggregates Decimal) := do
  let totals ← addRow crate versions self.totals row
  let byProvider ← tallyRow (addRow crate versions) (.default crate) (·.providerId) self.byProvider row
  let byClientKey ← tallyRow (addRow crate versions) (.default crate) clientKeyOf self.byClientKey row
  some ⟨totals, byProvider, byClientKey⟩

def aggregateRows (rows : List UsageGroupRow) : Option (Aggregates Decimal) :=
  rows.foldlM (aggregateStep crate versions) ⟨.default crate, ∅, ∅⟩

end Aggregates

section Runs

variable {crate : DecimalCrate Decimal} {versions : List (PriceVersion Decimal)} {rows : List UsageGroupRow}
  {aggregates : Aggregates Decimal}

structure Aggregated (crate : DecimalCrate Decimal) (versions : List (PriceVersion Decimal))
    (rows : List UsageGroupRow) (aggregates : Aggregates Decimal) : Prop where
  totals : rows.foldlM (addRow crate versions) (.default crate) = some aggregates.totals
  byProvider : Tallied (addRow crate versions) (.default crate) (·.providerId) rows aggregates.byProvider
  byClientKey : Tallied (addRow crate versions) (.default crate) clientKeyOf rows aggregates.byClientKey

theorem Aggregated.step (aggregated : Aggregated crate versions rows aggregates) {row : UsageGroupRow}
    {next : Aggregates Decimal} (stepped : aggregateStep crate versions aggregates row = some next) :
    Aggregated crate versions (rows ++ [row]) next := by
  obtain ⟨totals, added, stepped⟩ := Option.bind_eq_some_iff.mp stepped
  obtain ⟨byProvider, providerAdded, stepped⟩ := Option.bind_eq_some_iff.mp stepped
  obtain ⟨byClientKey, keyAdded, stepped⟩ := Option.bind_eq_some_iff.mp stepped
  cases stepped
  refine ⟨?_, aggregated.byProvider.concat providerAdded, aggregated.byClientKey.concat keyAdded⟩
  rw [List.foldlM_append, aggregated.totals]
  simp [added]

theorem aggregated_of_rows (ran : aggregateRows crate versions rows = some aggregates) :
    Aggregated crate versions rows aggregates := by
  induction rows using List.reverseRecOn generalizing aggregates with
  | nil =>
    cases ran
    exact ⟨rfl, .nil, .nil⟩
  | append_singleton rows row ih =>
    rw [aggregateRows, List.foldlM_append] at ran
    obtain ⟨before, earlier, stepped⟩ := Option.bind_eq_some_iff.mp ran
    apply (ih earlier).step
    simpa using stepped

theorem aggregateRows_exists
    (sums : ∀ part : List UsageGroupRow, part.Sublist rows →
      (part.foldlM (addRow crate versions) (.default crate)).isSome = true) :
    ∃ aggregates, aggregateRows crate versions rows = some aggregates := by
  induction rows using List.reverseRecOn with
  | nil => exact ⟨_, rfl⟩
  | append_singleton rows row ih =>
    obtain ⟨before, earlier⟩ := ih fun part sub => sums part (sub.trans (List.sublist_append_left rows [row]))
    have aggregated := aggregated_of_rows earlier
    have whole := sums _ (List.Sublist.refl _)
    rw [List.foldlM_append, aggregated.totals] at whole
    obtain ⟨totals, added⟩ := Option.isSome_iff_exists.mp whole
    replace added : addRow crate versions before.totals row = some totals := by simpa using added
    obtain ⟨byProvider, providerAdded⟩ :=
      aggregated.byProvider.tallyRow_exists fun id => sums _ List.filter_sublist
    obtain ⟨byClientKey, keyAdded⟩ :=
      aggregated.byClientKey.tallyRow_exists fun id => sums _ List.filter_sublist
    refine ⟨⟨totals, byProvider, byClientKey⟩, ?_⟩
    have stepped : aggregateStep crate versions before row = some ⟨totals, byProvider, byClientKey⟩ := by
      unfold aggregateStep
      rw [added, Option.bind_eq_bind, Option.bind_some, providerAdded, Option.bind_eq_bind, Option.bind_some]
      exact congrArg (fun table => Option.bind table _) keyAdded
    rw [aggregateRows, List.foldlM_append]
    refine (congrArg (fun table => Option.bind table _) earlier).trans ?_
    simpa using stepped

end Runs

structure UsageDimension where
  id : Int
  name : String
  aggregate : UsageAggregate

section Dimensions

variable (crate : DecimalCrate Decimal) (cmp : Decimal → Decimal → Ordering)

def costOf (item : UsageDimension) : Decimal := (crate.fromStr item.aggregate.estimatedCostUsd).getD crate.zero

def compareDimensions (left right : UsageDimension) : Ordering :=
  ((cmp (costOf crate right) (costOf crate left)).then
    (compare right.aggregate.totalTokens left.aggregate.totalTokens)).then (compare left.id right.id)

def sortDimensions (items : List UsageDimension) : List UsageDimension :=
  items.mergeSort fun left right => (compareDimensions crate cmp left right).isLE

def mergeCounts (aggregate other : UsageAggregate) : UsageAggregate :=
  { aggregate with
    requests := saturatingAddI64 aggregate.requests other.requests
    failed := saturatingAddI64 aggregate.failed other.failed
    inputTokens := saturatingAddI64 aggregate.inputTokens other.inputTokens
    outputTokens := saturatingAddI64 aggregate.outputTokens other.outputTokens
    cacheReadInputTokens := saturatingAddI64 aggregate.cacheReadInputTokens other.cacheReadInputTokens
    cacheCreationInputTokens := saturatingAddI64 aggregate.cacheCreationInputTokens other.cacheCreationInputTokens
    reasoningOutputTokens := saturatingAddI64 aggregate.reasoningOutputTokens other.reasoningOutputTokens
    totalTokens := saturatingAddI64 aggregate.totalTokens other.totalTokens
    usageObservedRequests := saturatingAddI64 aggregate.usageObservedRequests other.usageObservedRequests
    unpricedRequests := saturatingAddI64 aggregate.unpricedRequests other.unpricedRequests }

def mergeItem (self : UsageAggregate × Decimal) (item : UsageDimension) : Option (UsageAggregate × Decimal) := do
  let cost ← crate.add self.2 (costOf crate item)
  some (mergeCounts self.1 item.aggregate, cost)

def otherDimension (locale : NotificationLocale) (merged : UsageAggregate × Decimal) : UsageDimension where
  id := 0
  name := localized locale "其他" "Other"
  aggregate := { merged.1 with
    errorRatePercent := percent merged.1.failed merged.1.requests
    usageCoveragePercent := percent merged.1.usageObservedRequests merged.1.requests
    estimatedCostUsd := crate.normalized merged.2 }

def truncateDimensions (locale : NotificationLocale) (items : List UsageDimension) :
    Option (List UsageDimension × Bool) :=
  if items.length ≤ maxWebhookDimensionItems then some (items, false)
  else do
    let merged ← (items.drop (maxWebhookDimensionItems - 1)).foldlM (mergeItem crate) ({}, crate.zero)
    some (items.take (maxWebhookDimensionItems - 1) ++ [otherDimension crate locale merged], true)

def dimensions (kind : String) (names : HashMap Int String)
    (table : HashMap Int (MutableAggregate Decimal)) : List UsageDimension :=
  table.entries.map fun entry =>
    ⟨entry.1, (names.lookup entry.1).getD s!"{kind} #{entry.1}", entry.2.finish crate⟩

end Dimensions

structure UsagePayload where
  totals : UsageAggregate
  providers : List UsageDimension
  clientKeys : List UsageDimension
  truncated : Bool
  totalProviderItems : Nat
  totalClientKeyItems : Nat

structure ServerPayload where
  cpuUsagePercent : Option Float
  memoryUsagePercent : Option Float
  providersEnabled : Nat
  warning : Nat
  error : Nat

structure NotificationPayload where
  dataComplete : Bool
  server : ServerPayload
  usage : UsagePayload
  warnings : List String

structure ReportState where
  providerNames : HashMap Int String
  apiKeyNames : HashMap Int String
  requestLogRetentionDays : Int
  server : ServerPayload
  nowMs : Int

def dataComplete (state : ReportState) (fromMs : Int) : Bool :=
  state.requestLogRetentionDays = 0 ||
    saturatingSubI64 state.nowMs (saturatingMulI64 state.requestLogRetentionDays 86400000) ≤ fromMs

def reportWarnings (locale : NotificationLocale) (complete : Bool) (totals : UsageAggregate)
    (truncated : Bool) : List String :=
  (if complete then [] else [localized locale "报表窗口早于明细统计保留期，数据可能不完整。"
    "The report window exceeds detailed-stat retention and may be incomplete."]) ++
  (if totals.usageObservedRequests < totals.requests then
    [localized locale "部分请求未返回用量，Token 和成本为已观测下限。"
      "Some requests did not return usage; token and cost values are observed lower bounds."] else []) ++
  (if 0 < totals.unpricedRequests then [localized locale "部分请求缺少价格，成本未覆盖全部用量。"
    "Some requests are unpriced, so cost does not cover all usage."] else []) ++
  (if truncated then [localized locale "维度明细超过 Webhook 安全上限，尾部项目已合并为“其他”。"
    "Dimension details exceeded the Webhook safety limit; trailing items were grouped as Other."] else [])

section Payload

variable (crate : DecimalCrate Decimal) (cmp : Decimal → Decimal → Ordering) (locale : NotificationLocale)

def usagePayload (state : ReportState) (self : Aggregates Decimal) : Option UsagePayload := do
  let providerRows := sortDimensions crate cmp (dimensions crate "Provider" state.providerNames self.byProvider)
  let clientKeyRows := sortDimensions crate cmp (dimensions crate "Key" state.apiKeyNames self.byClientKey)
  let (providers, cutProviders) ← truncateDimensions crate locale providerRows
  let (clientKeys, cutClientKeys) ← truncateDimensions crate locale clientKeyRows
  some {
    totals := self.totals.finish crate
    providers := providers
    clientKeys := clientKeys
    truncated := cutProviders || cutClientKeys
    totalProviderItems := providerRows.length
    totalClientKeyItems := clientKeyRows.length }

def buildPayload (stored : PriceTable) (state : ReportState) (fromMs : Int) (rows : List UsageGroupRow) :
    Except String (Option NotificationPayload) := do
  let versions ← listPriceVersions crate stored (versionIds (rows.filterMap (·.priceVersionId)))
  return do
    let aggregates ← aggregateRows crate versions rows
    let usage ← usagePayload crate cmp locale state aggregates
    let complete := dataComplete state fromMs
    some {
      dataComplete := complete
      server := state.server
      usage := usage
      warnings := reportWarnings locale complete usage.totals usage.truncated }

end Payload

def aggregateForScope (payload : NotificationPayload) (scope : AlertScopeKind) (scopeId : Option Int) :
    Option UsageAggregate :=
  match scope with
  | .global => some payload.usage.totals
  | .provider => (payload.usage.providers.find? fun item => some item.id = scopeId).map (·.aggregate)
  | .clientKey => (payload.usage.clientKeys.find? fun item => some item.id = scopeId).map (·.aggregate)

def usageMetric (parseF64 : String → Option Float) (metric : AlertMetric) (aggregate : UsageAggregate) :
    Option (MetricValue Float) := do
  let value ← match metric with
    | .requestCount => some (Float.ofInt aggregate.requests)
    | .errorRatePercent => some aggregate.errorRatePercent
    | .totalTokens => some (Float.ofInt aggregate.totalTokens)
    | .estimatedCostUsd => parseF64 aggregate.estimatedCostUsd
    | _ => none
  let complete : Bool := match metric with
    | .totalTokens => aggregate.requests ≤ aggregate.usageObservedRequests
    | .estimatedCostUsd =>
      aggregate.requests ≤ aggregate.usageObservedRequests && aggregate.unpricedRequests = 0
    | _ => true
  some ⟨value, complete, aggregate.requests⟩

def metricValue (parseF64 : String → Option Float) (payload : NotificationPayload)
    (config : ScopedAlertConfig Float) : Option (MetricValue Float) :=
  match config.metric with
  | .cpuUsagePercent => payload.server.cpuUsagePercent.map fun value => ⟨value, true, 1⟩
  | .memoryUsagePercent => payload.server.memoryUsagePercent.map fun value => ⟨value, true, 1⟩
  | .unhealthyProviderCount =>
    some ⟨Float.ofNat (saturatingAddU32 payload.server.warning payload.server.error), true,
      payload.server.providersEnabled⟩
  | metric => (aggregateForScope payload config.scopeKind config.scopeId).bind (usageMetric parseF64 metric)

instance compareDimensions_trans (crate : DecimalCrate Decimal) (cmp : Decimal → Decimal → Ordering) [TransCmp cmp] :
    TransCmp (compareDimensions crate cmp) := by
  have cost := @descending_trans _ _ cmp _ (costOf crate)
  have tokens := @descending_trans _ _ (compare : Int → Int → Ordering) _
    fun item : UsageDimension => item.aggregate.totalTokens
  show TransCmp (compareLex (compareLex _ _) (compareOn fun item : UsageDimension => item.id))
  infer_instance

def rowScope (kind : AlertScopeKind) (row : UsageGroupRow) : Option Int :=
  match kind with
  | .global => none
  | .provider => row.providerId
  | .clientKey => clientKeyOf row

def eventScope (kind : AlertScopeKind) (event : StatsEventRow) : Option Int :=
  match kind with
  | .global => none
  | .provider => event.providerId
  | .clientKey => some event.apiKeyId

section Scopes

variable (crate : DecimalCrate Decimal) (cmp : Decimal → Decimal → Ordering) (versions : List (PriceVersion Decimal))

def EventsMetric (parseF64 : String → Option Float) (metric : AlertMetric) (events : List StatsEventRow)
    (fromMs toMs : Int) (value : MetricValue Float) : Prop :=
  ∃ rows totals, AggregatedUsage events fromMs toMs rows ∧
    rows.foldlM (addRow crate versions) (.default crate) = some totals ∧
    usageMetric parseF64 metric (totals.finish crate) = some value

variable (keyOf : UsageGroupRow → Option Int) (rows : List UsageGroupRow)

def scopesOf : List Int := (rows.filterMap keyOf).dedup

def scopeItem (id : Int) : UsageDimension where
  id := id
  name := ""
  aggregate := (((keyedRows keyOf rows id).foldlM (addRow crate versions) (.default crate)).getD
    (.default crate)).finish crate

def scopesBefore (id : Int) : List Int :=
  (scopesOf keyOf rows).filter fun other =>
    compareDimensions crate cmp (scopeItem crate versions keyOf rows other)
      (scopeItem crate versions keyOf rows id) = .lt

def ItemOfItsOwn (id : Int) : Prop :=
  id ∈ scopesOf keyOf rows ∧
    ((scopesOf keyOf rows).length ≤ maxWebhookDimensionItems ∨
      (scopesBefore crate cmp versions keyOf rows id).length < maxWebhookDimensionItems - 1)

end Scopes

section Lookups

variable {crate : DecimalCrate Decimal} {cmp : Decimal → Decimal → Ordering} {versions : List (PriceVersion Decimal)}
  {keyOf : UsageGroupRow → Option Int} {rows : List UsageGroupRow} {table : HashMap Int (MutableAggregate Decimal)}
  {kind : String} {names : HashMap Int String} {items : List UsageDimension}

theorem mem_scopesOf {id : Int} : id ∈ scopesOf keyOf rows ↔ ∃ row ∈ rows, keyOf row = some id := by
  simp [scopesOf]

structure ItemsOf (crate : DecimalCrate Decimal) (versions : List (PriceVersion Decimal))
    (keyOf : UsageGroupRow → Option Int) (rows : List UsageGroupRow) (items : List UsageDimension) : Prop where
  ids : (items.map (·.id)).Perm (scopesOf keyOf rows)
  aggregate : ∀ item ∈ items, item.aggregate = (scopeItem crate versions keyOf rows item.id).aggregate

theorem dimensions_ids : (dimensions crate kind names table).map (·.id) = table.keys := by
  simp [dimensions, AList.keys, List.keys, Function.comp_def]

theorem mem_dimensions {item : UsageDimension} (member : item ∈ dimensions crate kind names table) :
    ∃ aggregate, table.lookup item.id = some aggregate ∧ item.aggregate = aggregate.finish crate := by
  obtain ⟨⟨id, aggregate⟩, there, rfl⟩ := List.mem_map.mp member
  exact ⟨aggregate, AList.mem_lookup_iff.mpr there, rfl⟩

theorem itemsOf_dimensions (tallied : Tallied (addRow crate versions) (.default crate) keyOf rows table) :
    ItemsOf crate versions keyOf rows (dimensions crate kind names table) := by
  constructor
  · rw [dimensions_ids]
    apply (List.perm_ext_iff_of_nodup table.keys_nodup (List.nodup_dedup _)).mpr
    intro id
    show id ∈ table.keys ↔ id ∈ scopesOf keyOf rows
    rw [mem_scopesOf, ← AList.mem_keys, ← AList.lookup_isSome, tallied.occurs, keyedRows, Ne, List.filter_eq_nil_iff]
    simp
  · intro item member
    obtain ⟨aggregate, found, same⟩ := mem_dimensions member
    have tally := tallied.tally item.id
    rw [found, Option.getD_some] at tally
    rw [same, scopeItem, tally, Option.getD_some]

theorem ItemsOf.compare_eq (itemsOf : ItemsOf crate versions keyOf rows items) {first second : UsageDimension}
    (firstMember : first ∈ items) (secondMember : second ∈ items) :
    compareDimensions crate cmp first second =
      compareDimensions crate cmp (scopeItem crate versions keyOf rows first.id)
        (scopeItem crate versions keyOf rows second.id) := by
  simp only [compareDimensions, costOf, itemsOf.aggregate first firstMember, itemsOf.aggregate second secondMember]
  rfl

theorem ItemsOf.before_length (itemsOf : ItemsOf crate versions keyOf rows items) {item : UsageDimension}
    (member : item ∈ items) :
    (items.filter fun other => compareDimensions crate cmp other item = .lt).length =
      (scopesBefore crate cmp versions keyOf rows item.id).length := by
  have same : items.filter (fun other => compareDimensions crate cmp other item = .lt) =
      items.filter ((fun id => decide (compareDimensions crate cmp (scopeItem crate versions keyOf rows id)
        (scopeItem crate versions keyOf rows item.id) = .lt)) ∘ fun other => other.id) := by
    apply List.filter_congr
    intro other there
    rw [Function.comp_apply, itemsOf.compare_eq there member]
  rw [same, ← List.length_map (·.id), ← List.filter_map]
  exact (itemsOf.ids.filter _).length_eq

theorem ItemsOf.apart [TransCmp cmp] (itemsOf : ItemsOf crate versions keyOf rows items) :
    items.Pairwise fun left right => compareDimensions crate cmp left right ≠ .eq := by
  have nodup : (items.map (·.id)).Nodup := itemsOf.ids.nodup_iff.mpr (List.nodup_dedup _)
  refine (List.pairwise_map.mp nodup).imp ?_
  intro left right different equal
  apply different
  have ids := (Ordering.then_eq_eq.mp equal).2
  exact Std.LawfulEqOrd.eq_of_compare ids

def ownItems (items : List UsageDimension) : List UsageDimension :=
  if items.length ≤ maxWebhookDimensionItems then items else items.take (maxWebhookDimensionItems - 1)

theorem find_truncated {locale : NotificationLocale} {shown : List UsageDimension} {cut : Bool} {id : Int}
    (truncated : truncateDimensions crate locale items = some (shown, cut)) (positive : 0 < id) :
    shown.find? (fun item => some item.id = some id) = (ownItems items).find? fun item => some item.id = some id := by
  unfold truncateDimensions at truncated
  unfold ownItems
  split at truncated
  · cases truncated
    rw [if_pos ‹_›]
  · obtain ⟨merged, -, truncated⟩ := Option.bind_eq_some_iff.mp truncated
    cases truncated
    -- no scope has the number 0 of the remainder
    have other : ¬(some (otherDimension crate locale merged).id = some id) := by
      simp only [otherDimension, Option.some.injEq]
      omega
    rw [if_neg ‹_›, List.find?_append, List.find?_singleton, if_neg (by simpa using other), Option.or_none]

theorem ItemsOf.mem_ownItems [TransCmp cmp] (itemsOf : ItemsOf crate versions keyOf rows items)
    {item : UsageDimension} (member : item ∈ items) :
    item ∈ ownItems (sortDimensions crate cmp items) ↔ ItemOfItsOwn crate cmp versions keyOf rows item.id := by
  have scope : item.id ∈ scopesOf keyOf rows := itemsOf.ids.mem_iff.mp (List.mem_map_of_mem member)
  have count : items.length = (scopesOf keyOf rows).length := by
    rw [← itemsOf.ids.length_eq, List.length_map]
  have sorted : (sortDimensions crate cmp items).length = items.length := List.length_mergeSort _
  unfold ownItems ItemOfItsOwn
  rw [sorted, count]
  by_cases few : (scopesOf keyOf rows).length ≤ maxWebhookDimensionItems
  · rw [if_pos few]
    simp [few, scope, sortDimensions, member]
  · rw [if_neg few, sortDimensions, mem_take_mergeSort_iff itemsOf.apart member, itemsOf.before_length member]
    simp [few, scope]

theorem ItemsOf.lookup [TransCmp cmp] (itemsOf : ItemsOf crate versions keyOf rows items)
    {locale : NotificationLocale} {shown : List UsageDimension} {cut : Bool} {id : Int}
    (truncated : truncateDimensions crate locale (sortDimensions crate cmp items) = some (shown, cut))
    (positive : 0 < id) {aggregate : UsageAggregate} :
    (shown.find? fun item => some item.id = some id).map (·.aggregate) = some aggregate ↔
      ItemOfItsOwn crate cmp versions keyOf rows id ∧
        (scopeItem crate versions keyOf rows id).aggregate = aggregate := by
  have inside : ∀ item ∈ ownItems (sortDimensions crate cmp items), item ∈ items := by
    intro item there
    unfold ownItems at there
    split at there
    · exact List.mem_mergeSort.mp there
    · exact List.mem_mergeSort.mp (List.mem_of_mem_take there)
  rw [find_truncated truncated positive]
  constructor
  · intro looked
    obtain ⟨item, found, rfl⟩ := Option.map_eq_some_iff.mp looked
    have here : item.id = id := by simpa using List.find?_some found
    have there := List.mem_of_find?_eq_some found
    subst here
    exact ⟨(itemsOf.mem_ownItems (inside item there)).mp there, (itemsOf.aggregate item (inside item there)).symm⟩
  · rintro ⟨own, rfl⟩
    obtain ⟨item, member, here⟩ := List.mem_map.mp (itemsOf.ids.mem_iff.mpr own.1)
    subst here
    have there := (itemsOf.mem_ownItems member).mpr own
    have some := List.find?_isSome (p := fun other => decide (some other.id = some item.id)) |>.mpr
      ⟨item, there, decide_eq_true rfl⟩
    obtain ⟨found, same⟩ := Option.isSome_iff_exists.mp some
    have alike : found.id = item.id := by simpa using List.find?_some same
    rw [same, Option.map_some, itemsOf.aggregate found (inside found (List.mem_of_find?_eq_some same)), alike]

end Lookups

section Metrics

variable {crate : DecimalCrate Decimal} {cmp : Decimal → Decimal → Ordering} {versions : List (PriceVersion Decimal)}
  {events : List StatsEventRow} {fromMs toMs : Int} {rows : List UsageGroupRow} {kind : AlertScopeKind}

theorem aggregatedUsage_scope (queried : AggregatedUsage events fromMs toMs rows) (id : Int) :
    AggregatedUsage (keyedRows (eventScope kind) events id) fromMs toMs (keyedRows (rowScope kind) rows id) := by
  obtain ⟨groups, perm, rfl⟩ := queried
  let p : UsageGroupKey → Bool := fun k => rowScope kind (usageGroupRow (k, [])) = some id
  have scope : ∀ event, p (usageGroupKey event) = decide (eventScope kind event = some id) := by
    intro event
    cases kind <;> rfl
  refine ⟨groups.filter fun group => p group.1, ?_, ?_⟩
  · have whole := (perm.filter fun group => p group.1).trans (groupRows_filter p)
    have same : reportEvents (keyedRows (eventScope kind) events id) fromMs toMs =
        (reportEvents events fromMs toMs).filter fun event => p (usageGroupKey event) := by
      simp only [scope, reportEvents, keyedRows, List.filter_filter, Bool.and_comm]
    rw [same]
    exact whole
  · rw [keyedRows, List.filter_map]
    apply congrArg
    apply List.filter_congr
    intro group _
    cases kind <;> rfl

theorem scopesOf_iff (queried : AggregatedUsage events fromMs toMs rows) {id : Int} :
    id ∈ scopesOf (rowScope kind) rows ↔ ∃ event ∈ reportEvents events fromMs toMs, eventScope kind event = some id := by
  obtain ⟨groups, perm, rfl⟩ := queried
  have scope : ∀ event, eventScope kind event = rowScope kind (usageGroupRow (usageGroupKey event, [])) := by
    intro event
    cases kind <;> rfl
  have same : ∀ group, rowScope kind (usageGroupRow group) = rowScope kind (usageGroupRow (group.1, [])) := by
    intro group
    cases kind <;> rfl
  rw [mem_scopesOf]
  constructor
  · rintro ⟨row, there, here⟩
    obtain ⟨group, member, rfl⟩ := List.mem_map.mp there
    obtain ⟨⟨event, inside, keyed⟩, -⟩ := mem_groupRows.mp (perm.mem_iff.mp member)
    exact ⟨event, inside, by rw [scope, keyed, ← same, here]⟩
  · rintro ⟨event, inside, here⟩
    have member := perm.mem_iff.mpr (groupRows_of_key inside rfl)
    exact ⟨_, List.mem_map_of_mem member, by rw [same, ← scope, here]⟩

theorem aggregates_of_payload {stored : PriceTable} {locale : NotificationLocale} {state : ReportState}
    {payload : NotificationPayload}
    (read : listPriceVersions crate stored (versionIds (rows.filterMap (·.priceVersionId))) = .ok versions)
    (built : buildPayload crate cmp locale stored state fromMs rows = .ok (some payload)) :
    ∃ aggregates, Aggregated crate versions rows aggregates ∧
      usagePayload crate cmp locale state aggregates = some payload.usage := by
  obtain ⟨same, readAgain, built⟩ := bind_eq_ok.mp built
  cases readAgain.symm.trans read
  have made := Except.ok.inj built
  obtain ⟨aggregates, ran, made⟩ := Option.bind_eq_some_iff.mp made
  obtain ⟨usage, listed, made⟩ := Option.bind_eq_some_iff.mp made
  cases made
  exact ⟨aggregates, aggregated_of_rows ran, listed⟩

theorem aggregateForScope_iff [TransCmp cmp] {aggregates : Aggregates Decimal} {locale : NotificationLocale}
    {state : ReportState} {payload : NotificationPayload} (aggregated : Aggregated crate versions rows aggregates)
    (listed : usagePayload crate cmp locale state aggregates = some payload.usage)
    (narrow : kind ≠ .global) {id : Int} (positive : 0 < id) (aggregate : UsageAggregate) :
    aggregateForScope payload kind (some id) = some aggregate ↔
      ItemOfItsOwn crate cmp versions (rowScope kind) rows id ∧
        (scopeItem crate versions (rowScope kind) rows id).aggregate = aggregate := by
  obtain ⟨complete, server, usage, warnings⟩ := payload
  obtain ⟨⟨providers, cutProviders⟩, providersCut, listed⟩ := Option.bind_eq_some_iff.mp listed
  obtain ⟨⟨clientKeys, cutClientKeys⟩, clientKeysCut, listed⟩ := Option.bind_eq_some_iff.mp listed
  cases listed
  cases kind with
  | global => exact absurd rfl narrow
  | provider => exact (itemsOf_dimensions aggregated.byProvider).lookup providersCut positive
  | clientKey => exact (itemsOf_dimensions aggregated.byClientKey).lookup clientKeysCut positive

theorem usageMetric_isSome {parseF64 : String → Option Float}
    (parses : ∀ d, (parseF64 (crate.normalized d)).isSome = true) {metric : AlertMetric}
    (usage : metric.isUsage = true) (totals : MutableAggregate Decimal) :
    (usageMetric parseF64 metric (totals.finish crate)).isSome = true := by
  have cost := parses totals.estimatedCostUsd
  cases metric with
  | estimatedCostUsd =>
    obtain ⟨value, same⟩ := Option.isSome_iff_exists.mp cost
    show (Option.bind (parseF64 (crate.normalized totals.estimatedCostUsd)) _).isSome = true
    rw [same]
    rfl
  | cpuUsagePercent | memoryUsagePercent | unhealthyProviderCount => cases usage
  | _ => rfl

/-- An alert on a scope has the metric of the scope's events just when the report has an item of
its own for the scope: some event is in the window, and the scope is not part of the remainder. -/
theorem metricValue_scope_iff [TransCmp cmp] {stored : PriceTable} {locale : NotificationLocale} {state : ReportState}
    {payload : NotificationPayload} (queried : AggregatedUsage events fromMs toMs rows)
    (read : listPriceVersions crate stored (versionIds (rows.filterMap (·.priceVersionId))) = .ok versions)
    (built : buildPayload crate cmp locale stored state fromMs rows = .ok (some payload))
    {isFinite : Float → Bool} {config : ScopedAlertConfig Float} {id : Int}
    (valid : validateRuleConfig isFinite config = .ok ()) (narrow : config.scopeKind ≠ .global)
    (scope : config.scopeId = some id) {parseF64 : String → Option Float}
    (parses : ∀ d, (parseF64 (crate.normalized d)).isSome = true) :
    (∃ value, metricValue parseF64 payload config = some value ∧
        EventsMetric crate versions parseF64 config.metric
          (keyedRows (eventScope config.scopeKind) events id) fromMs toMs value) ↔
      (∃ event ∈ reportEvents events fromMs toMs, eventScope config.scopeKind event = some id) ∧
        ((scopesOf (rowScope config.scopeKind) rows).length ≤ maxWebhookDimensionItems ∨
          (scopesBefore crate cmp versions (rowScope config.scopeKind) rows id).length <
            maxWebhookDimensionItems - 1) := by
  obtain ⟨usage, positive⟩ := isUsage_of_valid valid narrow
  rw [scope, Option.getD_some] at positive
  have looked : metricValue parseF64 payload config =
      (aggregateForScope payload config.scopeKind (some id)).bind (usageMetric parseF64 config.metric) := by
    unfold metricValue
    rw [scope]
    cases metric : config.metric with
    | cpuUsagePercent | memoryUsagePercent | unhealthyProviderCount =>
      rw [metric] at usage
      cases usage
    | _ => rfl
  obtain ⟨aggregates, aggregated, listed⟩ := aggregates_of_payload read built
  have own := aggregateForScope_iff aggregated listed narrow positive
  rw [← scopesOf_iff queried, looked]
  constructor
  · rintro ⟨value, metric, -⟩
    obtain ⟨aggregate, found, -⟩ := Option.bind_eq_some_iff.mp metric
    exact ((own aggregate).mp found).1
  · intro item
    obtain ⟨totals, folded⟩ : ∃ totals, (keyedRows (rowScope config.scopeKind) rows id).foldlM (addRow crate versions)
        (.default crate) = some totals := by
      cases kind : config.scopeKind with
      | global => exact absurd kind narrow
      | provider => exact ⟨_, aggregated.byProvider.tally id⟩
      | clientKey => exact ⟨_, aggregated.byClientKey.tally id⟩
    have found := (own _).mpr ⟨item, rfl⟩
    rw [scopeItem, folded, Option.getD_some] at found
    obtain ⟨value, metric⟩ := Option.isSome_iff_exists.mp (usageMetric_isSome parses usage totals)
    exact ⟨value, by rw [found, Option.bind_some, metric], _, totals, aggregatedUsage_scope queried id, folded, metric⟩

end Metrics

def pricedRequest : StatsEventRow :=
  { requestAt 5 with usage := ⟨10, 0, 0, 0, 0⟩, priceVersionId := some 1 }

def pricedRows : List UsageGroupRow := [usageGroupRow (usageGroupKey pricedRequest, [pricedRequest])]

def ownPrices : PriceTable := AList.singleton 1 (flatJson "2")

def quietState : ReportState := ⟨∅, ∅, 0, ⟨none, none, 0, 0, 0⟩, 10⟩

def byValue (a b : PlainDecimal) : Ordering := compare a.value b.value

def lowTraffic : ScopedAlertConfig Float where
  metric := .requestCount
  operator := .lt
  threshold := 1
  minimumRequests := 0
  triggerAfter := 1
  recoverAfter := 1
  cooldownMinutes := 5
  sendRecovery := true
  windowMinutes := 5
  scopeKind := .clientKey
  scopeId := some 1

def plainF64 (text : String) : Option Float :=
  (PlainDecimal.parse text).map fun decimal => Float.ofScientific decimal.mantissa true decimal.scale

theorem buildPayload_exists {Decimal : Type} {crate : DecimalCrate Decimal} {versions : List (PriceVersion Decimal)}
    {stored : PriceTable} {rows : List UsageGroupRow} {aggregates : Aggregates Decimal}
    (cmp : Decimal → Decimal → Ordering) (locale : NotificationLocale) (state : ReportState) (fromMs : Int)
    (read : listPriceVersions crate stored (versionIds (rows.filterMap (·.priceVersionId))) = .ok versions)
    (ran : aggregateRows crate versions rows = some aggregates)
    (providers : aggregates.byProvider.entries.length ≤ maxWebhookDimensionItems)
    (clientKeys : aggregates.byClientKey.entries.length ≤ maxWebhookDimensionItems) :
    ∃ payload, buildPayload crate cmp locale stored state fromMs rows = .ok (some payload) := by
  have few : ∀ items : List UsageDimension, items.length ≤ maxWebhookDimensionItems →
      truncateDimensions crate locale (sortDimensions crate cmp items) = some (sortDimensions crate cmp items, false) := by
    intro items few
    have sorted : (sortDimensions crate cmp items).length = items.length := List.length_mergeSort items
    rw [truncateDimensions, if_pos (sorted.trans_le few)]
  have listed : ∃ usage, usagePayload crate cmp locale state aggregates = some usage := by
    refine ⟨_, Option.bind_eq_some_iff.mpr ⟨_, few _ ?_, Option.bind_eq_some_iff.mpr ⟨_, few _ ?_, rfl⟩⟩⟩
    · rwa [dimensions, List.length_map]
    · rwa [dimensions, List.length_map]
  obtain ⟨usage, listed⟩ := listed
  let payload : NotificationPayload := ⟨dataComplete state fromMs, state.server, usage,
    reportWarnings locale (dataComplete state fromMs) usage.totals usage.truncated⟩
  refine ⟨payload, bind_eq_ok.mpr ⟨versions, read, ?_⟩⟩
  rw [ran, Option.bind_eq_bind, Option.bind_some, listed]
  rfl

instance : TransCmp byValue :=
  inferInstanceAs (TransCmp (compareOn PlainDecimal.value))

theorem lowTraffic_unseen :
    AggregatedUsage [] 0 9 [] ∧ validateRuleConfig (fun _ => true) lowTraffic = .ok () ∧
      ∃ payload, buildPayload plainCrate byValue .enUs ownPrices quietState 0 [] = .ok (some payload) ∧
        metricValue plainF64 payload lowTraffic = none := by
  refine ⟨⟨[], .of_eq (by simp [groupRows, reportEvents]), rfl⟩, rfl, ?_⟩
  have read : listPriceVersions plainCrate ownPrices
      (versionIds (([] : List UsageGroupRow).filterMap (·.priceVersionId))) = .ok [] := by
    simp [versionIds, listPriceVersions]
  obtain ⟨payload, built⟩ := buildPayload_exists byValue .enUs quietState 0 read rfl (Nat.zero_le _) (Nat.zero_le _)
  refine ⟨payload, built, ?_⟩
  obtain ⟨aggregates, aggregated, listed⟩ := aggregates_of_payload read built
  have unseen : aggregateForScope payload .clientKey (some 1) = none := by
    by_contra seen
    obtain ⟨aggregate, seen⟩ := Option.ne_none_iff_exists'.mp seen
    have clientKey : AlertScopeKind.clientKey ≠ .global := by decide
    have item := (aggregateForScope_iff aggregated listed clientKey Int.one_pos aggregate).mp seen
    simp [ItemOfItsOwn, scopesOf] at item
  show (aggregateForScope payload .clientKey (some 1)).bind _ = none
  rw [unseen]
  rfl

theorem pricedRows_queried : AggregatedUsage [pricedRequest] 0 9 pricedRows := by
  refine ⟨[(usageGroupKey pricedRequest, [pricedRequest])], .of_eq ?_, rfl⟩
  simp [groupRows, rowsOf, reportEvents, pricedRequest, requestAt]

theorem pricedRows_read :
    listPriceVersions plainCrate ownPrices (versionIds (pricedRows.filterMap (·.priceVersionId))) =
      .ok [⟨1, ⟨⟨some ⟨2, 0⟩, none, none, none⟩, []⟩⟩] := by
  have ids : versionIds (pricedRows.filterMap (·.priceVersionId)) = [1] := by
    simp [versionIds, pricedRows, usageGroupRow, usageGroupKey, pricedRequest]
  rw [ids]
  rfl

theorem plainF64_isSome (decimal : PlainDecimal) : (plainF64 (plainCrate.normalized decimal)).isSome = true := by
  obtain ⟨again, parsed, -⟩ := plainCrate_faithful decimal rfl
  have found : PlainDecimal.parse (plainCrate.normalized decimal) = some again := parsed
  rw [plainF64, found]
  rfl

theorem lowTraffic_seen :
    ∃ payload value, buildPayload plainCrate byValue .enUs ownPrices quietState 0 pricedRows = .ok (some payload) ∧
      metricValue plainF64 payload lowTraffic = some value := by
  have valid : validateRuleConfig (fun _ => true) lowTraffic = .ok () := rfl
  have inside : pricedRequest ∈ reportEvents [pricedRequest] 0 9 := by
    simp [reportEvents, pricedRequest, requestAt]
  obtain ⟨payload, built⟩ :=
    buildPayload_exists byValue .enUs quietState 0 pricedRows_read rfl (by decide +kernel) (by decide +kernel)
  obtain ⟨value, metric, -⟩ :=
    (metricValue_scope_iff pricedRows_queried pricedRows_read built valid (by decide) rfl plainF64_isSome).mpr
      ⟨⟨pricedRequest, inside, rfl⟩, .inl (by decide +kernel)⟩
  exact ⟨payload, value, built, metric⟩

end CodexGate.Notification
