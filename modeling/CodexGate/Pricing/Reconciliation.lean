import CodexGate.Pricing.Coverage
import CodexGate.Pricing.Historical

namespace CodexGate.Pricing

open Foundation

structure UsageRow where
  timeMs : Int
  spanKind : String
  providerId : Option Int
  model : Option String
  usage : Usage
  usageObserved : Bool
  priceVersionId : Option Int
  priceTierIndex : Option Int
  deriving DecidableEq

inductive UsageTable
  | statsEvents
  | requestLogs
  deriving DecidableEq

structure UsageTables where
  rows : UsageTable → List UsageRow

structure PricingReconciliationKeyRow where
  providerId : Option Int
  model : String
  priceVersionId : Option Int
  priceTierIndex : Option Int
  hasInputTokens : Bool
  hasOutputTokens : Bool
  hasCacheReadInputTokens : Bool
  hasCacheCreationInputTokens : Bool
  deriving DecidableEq

instance : LawfulBEq PricingReconciliationKeyRow := inferInstance

section Queries

variable (timeFromMs timeToMs : Int)

def UsageRow.concerned (table : UsageTable) (row : UsageRow) : Bool :=
  timeFromMs ≤ row.timeMs && row.timeMs ≤ timeToMs && row.usageObserved &&
    (table = .statsEvents || row.spanKind = "request" || row.spanKind = "ws_turn")

def blank (model : String) : Bool := model.toList.all (· = ' ')

def UsageRow.key (row : UsageRow) : Option PricingReconciliationKeyRow :=
  row.model.map fun model =>
    { providerId := row.providerId
      model := model
      priceVersionId := row.priceVersionId
      priceTierIndex := row.priceTierIndex
      hasInputTokens := 0 < row.usage.inputTokens
      hasOutputTokens := 0 < row.usage.outputTokens
      hasCacheReadInputTokens := 0 < row.usage.cacheReadInputTokens
      hasCacheCreationInputTokens := 0 < row.usage.cacheCreationInputTokens }

def UsageRow.listed (table : UsageTable) (row : UsageRow) : Bool :=
  row.concerned timeFromMs timeToMs table && row.model.any fun model => !blank model

def listPricingReconciliationKeys (tables : UsageTables) : List PricingReconciliationKeyRow :=
  (((tables.rows .statsEvents).filter (·.listed timeFromMs timeToMs .statsEvents)).filterMap (·.key) ++
    ((tables.rows .requestLogs).filter (·.listed timeFromMs timeToMs .requestLogs)).filterMap
      (·.key)).dedup

def PricingReconciliationKeyRow.selects (key : PricingReconciliationKeyRow) (table : UsageTable)
    (row : UsageRow) : Bool :=
  row.concerned timeFromMs timeToMs table && row.model = some key.model &&
    row.providerId = key.providerId && row.priceVersionId = key.priceVersionId &&
    row.priceTierIndex = key.priceTierIndex &&
    (if key.hasInputTokens then 0 < row.usage.inputTokens else row.usage.inputTokens ≤ 0) &&
    (if key.hasOutputTokens then 0 < row.usage.outputTokens else row.usage.outputTokens ≤ 0) &&
    (if key.hasCacheReadInputTokens then 0 < row.usage.cacheReadInputTokens
      else row.usage.cacheReadInputTokens ≤ 0) &&
    (if key.hasCacheCreationInputTokens then 0 < row.usage.cacheCreationInputTokens
      else row.usage.cacheCreationInputTokens ≤ 0)

variable {Decimal : Type}

/-- The `CASE` over the tiers, from the last one on. -/
def priceTierCase (card : PriceCard Decimal) (usage : Usage) : Int :=
  let totalInput := max usage.inputTokens 0 + max usage.cacheReadInputTokens 0 +
    max usage.cacheCreationInputTokens 0
  ((card.tiers.zipIdx.reverse.find? fun tier => tier.1.overTotalInputTokens < totalInput).map
    fun tier => tierNumber tier.2).getD 0

def UsageRow.rebind (price : PriceVersion Decimal) (row : UsageRow) : UsageRow :=
  { row with
    priceVersionId := some price.id
    priceTierIndex := some (priceTierCase price.card row.usage) }

def rebindPricingUsageGroup (key : PricingReconciliationKeyRow) (price : PriceVersion Decimal)
    (tables : UsageTables) : UsageTables × Nat :=
  (⟨fun table => (tables.rows table).map fun row =>
      if key.selects timeFromMs timeToMs table row then row.rebind price else row⟩,
    (tables.rows .statsEvents).countP (key.selects timeFromMs timeToMs .statsEvents))

end Queries

section Reconciliation

variable {Decimal : Type} (crate : DecimalCrate Decimal)

def Outcome.isSome {α : Type} : Outcome α → Option Bool
  | .aborted => none
  | .missing => some false
  | .found _ => some true

def PricingReconciliationKeyRow.usage (key : PricingReconciliationKeyRow) : Usage where
  inputTokens := if key.hasInputTokens then 1 else 0
  outputTokens := if key.hasOutputTokens then 1 else 0
  cacheReadInputTokens := if key.hasCacheReadInputTokens then 1 else 0
  cacheCreationInputTokens := if key.hasCacheCreationInputTokens then 1 else 0
  reasoningOutputTokens := 0

def applicablePrice (snapshot : PricedSnapshot Decimal) (providerId : Option Int) (model : String) :
    Option (PriceVersion Decimal) :=
  match providerId with
  | some providerId => snapshot.findPriceForHistoricalRequest providerId model
  | none => snapshot.globalPricesByModel.lookup model

def alreadyPriceable (existing : List (PriceVersion Decimal)) (key : PricingReconciliationKeyRow) :
    Option Bool :=
  match key.priceVersionId.bind (findVersion existing), key.priceTierIndex with
  | some version, some tierIndex => (version.card.costForUsage crate key.usage tierIndex).isSome
  | _, _ => some false

def groupPrice (existing : List (PriceVersion Decimal)) (snapshot : PricedSnapshot Decimal)
    (key : PricingReconciliationKeyRow) : Option (Option (PriceVersion Decimal)) := do
  let already ← alreadyPriceable crate existing key
  if already then some none
  else
    match applicablePrice snapshot key.providerId key.model with
    | none => some none
    | some price => do
      let covered ← (price.card.costForUsage crate key.usage 0).isSome
      if covered then some (some price) else some none

def reconcileGroups (existing : List (PriceVersion Decimal)) (snapshot : PricedSnapshot Decimal)
    (timeFromMs timeToMs : Int) :
    List PricingReconciliationKeyRow → UsageTables → Nat → UsageTables × Option Nat
  | [], tables, backfilled => (tables, some backfilled)
  | key :: rest, tables, backfilled =>
    match groupPrice crate existing snapshot key with
    | none => (tables, none)
    | some none => reconcileGroups existing snapshot timeFromMs timeToMs rest tables backfilled
    | some (some price) =>
      let (tables, rebound) := rebindPricingUsageGroup timeFromMs timeToMs key price tables
      reconcileGroups existing snapshot timeFromMs timeToMs rest tables
        (saturatingAddU64 backfilled rebound)

/-- `keys` are the rows of the first query, in the order in which the database returns them. -/
def reconcileUnpricedUsage (stored : PriceTable) (snapshot : PricedSnapshot Decimal)
    (timeFromMs timeToMs : Int) (keys : List PricingReconciliationKeyRow) (tables : UsageTables) :
    UsageTables × Option Nat :=
  if keys.isEmpty then (tables, some 0)
  else
    match listPriceVersions crate stored (versionIds (keys.filterMap (·.priceVersionId))) with
    | .error _ => (tables, none)
    | .ok existing => reconcileGroups crate existing snapshot timeFromMs timeToMs keys tables 0

end Reconciliation

section Tiers

variable {α : Type} {passes : α → Bool}

theorem find_reverse_zipIdx (items : List α) (start : Nat) :
    ((items.zipIdx start).reverse.find? fun item => passes item.1).map (·.2) =
      (rposition passes items).map (· + start) := by
  induction items generalizing start with
  | nil => rfl
  | cons item rest ih =>
    rw [List.zipIdx_cons, List.reverse_cons, List.find?_append, rposition, Option.map_or, ih]
    cases rposition passes rest with
    | some place =>
      simp only [Option.map_some, Option.some_or]
      congr 1
      omega
    | none =>
      simp only [Option.map_none, Option.none_or, List.find?_cons, List.find?_nil]
      by_cases passed : passes item
      · simp [passed]
      · simp [passed]

def UsageRow.Fits (row : UsageRow) : Prop :=
  max row.usage.inputTokens 0 + max row.usage.cacheReadInputTokens 0 +
    max row.usage.cacheCreationInputTokens 0 ≤ i64Max

theorem priceTierCase_eq {Decimal : Type} {card : PriceCard Decimal} {row : UsageRow} (fits : row.Fits) :
    priceTierCase card row.usage = card.tierIndexForUsage row.usage := by
  have total : totalInputTokens row.usage = max row.usage.inputTokens 0 +
      max row.usage.cacheReadInputTokens 0 + max row.usage.cacheCreationInputTokens 0 := by
    unfold UsageRow.Fits at fits
    simp only [totalInputTokens, saturatingAddI64, clampI64, i64Max, i64Min] at fits ⊢
    omega
  unfold priceTierCase PriceCard.tierIndexForUsage
  dsimp only
  rw [total]
  have found := @find_reverse_zipIdx _ (fun tier : ContextPriceTier Decimal =>
    decide (tier.overTotalInputTokens < max row.usage.inputTokens 0 +
      max row.usage.cacheReadInputTokens 0 + max row.usage.cacheCreationInputTokens 0)) card.tiers 0
  rw [← Function.comp_def tierNumber, ← Option.map_map, found, Option.map_map]
  simp only [Function.comp_def, Nat.add_zero]

end Tiers

section Rows

variable {Decimal : Type} (crate : DecimalCrate Decimal) (stored : PriceTable)
  (snapshot : PricedSnapshot Decimal) (timeFromMs timeToMs : Int)

def UsageRow.ownPriceable (row : UsageRow) : Bool :=
  match row.priceVersionId.bind (storedCard crate stored), row.priceTierIndex with
  | some card, some tierIndex => card.canPrice row.usage tierIndex
  | _, _ => false

def UsageRow.applicable (row : UsageRow) : Option (PriceVersion Decimal) :=
  row.model.bind fun model => applicablePrice snapshot row.providerId model

def UsageRow.boundPrice (table : UsageTable) (row : UsageRow) : Option (PriceVersion Decimal) :=
  if row.listed timeFromMs timeToMs table && !row.ownPriceable crate stored then
    (row.applicable snapshot).filter fun price => price.card.canPrice row.usage 0
  else none

def UsageRow.afterUpdates (table : UsageTable) (row : UsageRow) : UsageRow :=
  ((row.boundPrice crate stored snapshot timeFromMs timeToMs table).map fun price =>
    row.rebind price).getD row

end Rows

section Proofs

variable {Decimal : Type} {crate : DecimalCrate Decimal} {stored : PriceTable}
  {snapshot : PricedSnapshot Decimal} {timeFromMs timeToMs : Int} {table : UsageTable}
  {row : UsageRow} {key : PricingReconciliationKeyRow} {price : PriceVersion Decimal}

theorem Outcome.isSome_eq {card : PriceCard Decimal} {usage : Usage} {tierIndex : Int} {covered : Bool}
    (evaluated : (card.costForUsage crate usage tierIndex).isSome = some covered) :
    covered = card.canPrice usage tierIndex := by
  cases outcome : card.costForUsage crate usage tierIndex with
  | aborted => rw [outcome] at evaluated; cases evaluated
  | missing =>
    rw [outcome] at evaluated
    cases evaluated
    exact (costForUsage_missing outcome).symm
  | found cost =>
    rw [outcome] at evaluated
    cases evaluated
    exact (costForUsage_found outcome).symm

theorem key_usage_kinds (keyed : row.key = some key) : SameKinds key.usage row.usage := by
  obtain ⟨model, -, rfl⟩ := Option.map_eq_some_iff.mp keyed
  constructor
  all_goals
    simp only [PricingReconciliationKeyRow.usage]
    split
    · rename_i used
      simpa using used
    · rename_i unused
      simpa using unused

theorem selects_iff : key.selects timeFromMs timeToMs table row = true ↔
    row.concerned timeFromMs timeToMs table = true ∧ row.key = some key := by
  obtain ⟨providerId, model, version, tier, input, output, cacheRead, cacheCreation⟩ := key
  have flag : ∀ (has : Bool) (tokens : Int),
      (if has then decide (0 < tokens) else decide (tokens ≤ 0)) = true ↔ decide (0 < tokens) = has := by
    intro has tokens
    cases has
    · simp
    · simp
  unfold PricingReconciliationKeyRow.selects UsageRow.key
  simp only [Bool.and_eq_true, decide_eq_true_eq, flag, Option.map_eq_some_iff,
    PricingReconciliationKeyRow.mk.injEq]
  constructor
  · rintro ⟨⟨⟨⟨⟨⟨⟨⟨concerned, model⟩, provider⟩, version⟩, tier⟩, input⟩, output⟩, cacheRead⟩, creation⟩
    exact ⟨concerned, _, model, provider, rfl, version, tier, input, output, cacheRead, creation⟩
  · rintro ⟨concerned, _, model, provider, rfl, version, tier, input, output, cacheRead, creation⟩
    exact ⟨⟨⟨⟨⟨⟨⟨⟨concerned, model⟩, provider⟩, version⟩, tier⟩, input⟩, output⟩, cacheRead⟩, creation⟩

theorem mem_listPricingReconciliationKeys {tables : UsageTables} :
    key ∈ listPricingReconciliationKeys timeFromMs timeToMs tables ↔
      ∃ table, ∃ row ∈ tables.rows table, row.listed timeFromMs timeToMs table = true ∧
        row.key = some key := by
  simp only [listPricingReconciliationKeys, List.mem_dedup, List.mem_append, List.mem_filterMap,
    List.mem_filter]
  constructor
  · rintro (⟨row, ⟨member, listed⟩, keyed⟩ | ⟨row, ⟨member, listed⟩, keyed⟩)
    · exact ⟨.statsEvents, row, member, listed, keyed⟩
    · exact ⟨.requestLogs, row, member, listed, keyed⟩
  · rintro ⟨table, row, member, listed, keyed⟩
    cases table with
    | statsEvents => exact .inl ⟨row, ⟨member, listed⟩, keyed⟩
    | requestLogs => exact .inr ⟨row, ⟨member, listed⟩, keyed⟩

theorem listed_of_selected (named : blank key.model = false)
    (selected : key.selects timeFromMs timeToMs table row = true) :
    row.listed timeFromMs timeToMs table = true := by
  obtain ⟨concerned, keyed⟩ := selects_iff.mp selected
  obtain ⟨model, isModel, rfl⟩ := Option.map_eq_some_iff.mp keyed
  simp only at named
  simp [UsageRow.listed, concerned, isModel, named]

theorem alreadyPriceable_eq {existing : List (PriceVersion Decimal)} (keyed : row.key = some key)
    (known : ∀ id, key.priceVersionId = some id →
      (findVersion existing id).map (·.card) = storedCard crate stored id)
    {already : Bool} (decided : alreadyPriceable crate existing key = some already) :
    already = row.ownPriceable crate stored := by
  have kinds := key_usage_kinds keyed
  obtain ⟨sameVersion, sameTier⟩ :
      key.priceVersionId = row.priceVersionId ∧ key.priceTierIndex = row.priceTierIndex := by
    obtain ⟨model, -, rfl⟩ := Option.map_eq_some_iff.mp keyed
    exact ⟨rfl, rfl⟩
  unfold alreadyPriceable at decided
  unfold UsageRow.ownPriceable
  rw [← sameVersion, ← sameTier]
  cases version : key.priceVersionId with
  | none =>
    rw [version] at decided
    cases decided
    rfl
  | some id =>
    rw [version, Option.bind_some] at decided
    rw [Option.bind_some, ← known id version]
    cases found : findVersion existing id with
    | none =>
      rw [found] at decided
      cases decided
      rfl
    | some priced =>
      rw [found] at decided
      cases tier : key.priceTierIndex with
      | none =>
        rw [tier] at decided
        cases decided
        rfl
      | some tierIndex =>
        rw [tier] at decided
        rw [Outcome.isSome_eq decided, canPrice_congr kinds]
        rfl

theorem groupPrice_eq {existing : List (PriceVersion Decimal)} (named : blank key.model = false)
    (selected : key.selects timeFromMs timeToMs table row = true)
    (known : ∀ id, key.priceVersionId = some id →
      (findVersion existing id).map (·.card) = storedCard crate stored id)
    {decided : Option (PriceVersion Decimal)}
    (group : groupPrice crate existing snapshot key = some decided) :
    decided = row.boundPrice crate stored snapshot timeFromMs timeToMs table := by
  have listed := listed_of_selected named selected
  obtain ⟨-, keyed⟩ := selects_iff.mp selected
  have kinds := key_usage_kinds keyed
  obtain ⟨already, isAlready, group⟩ := Option.bind_eq_some_iff.mp group
  have own := alreadyPriceable_eq keyed known isAlready
  have applicable : applicablePrice snapshot key.providerId key.model = row.applicable snapshot := by
    obtain ⟨model, isModel, rfl⟩ := Option.map_eq_some_iff.mp keyed
    rw [UsageRow.applicable, isModel, Option.bind_some]
  rw [applicable] at group
  rw [UsageRow.boundPrice, listed, ← own, Bool.true_and]
  cases already with
  | true =>
    cases group
    rfl
  | false =>
    simp only [Bool.false_eq_true, if_false] at group
    cases found : row.applicable snapshot with
    | none =>
      rw [found] at group
      cases group
      rfl
    | some price =>
      rw [found] at group
      obtain ⟨covered, isCovered, group⟩ := Option.bind_eq_some_iff.mp group
      have covers := Outcome.isSome_eq isCovered
      rw [canPrice_congr kinds] at covers
      cases covered with
      | true =>
        cases group
        simp [Option.filter_some, ← covers]
      | false =>
        cases group
        simp [Option.filter_some, ← covers]

@[simp] theorem rebind_rebind : (row.rebind price).rebind price = row.rebind price := rfl

theorem rebind_listed : (row.rebind price).listed timeFromMs timeToMs table =
    row.listed timeFromMs timeToMs table := rfl

theorem rebind_applicable (other : PriceVersion Decimal) :
    (row.rebind other).applicable snapshot = row.applicable snapshot := rfl

theorem afterUpdates_idem :
    (row.afterUpdates crate stored snapshot timeFromMs timeToMs table).afterUpdates crate stored snapshot
      timeFromMs timeToMs table = row.afterUpdates crate stored snapshot timeFromMs timeToMs table := by
  cases bound : row.boundPrice crate stored snapshot timeFromMs timeToMs table with
  | none =>
    have same : row.afterUpdates crate stored snapshot timeFromMs timeToMs table = row := by
      rw [UsageRow.afterUpdates, bound]
      rfl
    rw [same, same]
  | some price =>
    have first : row.afterUpdates crate stored snapshot timeFromMs timeToMs table = row.rebind price := by
      rw [UsageRow.afterUpdates, bound]
      rfl
    rw [first, UsageRow.afterUpdates]
    cases again : (row.rebind price).boundPrice crate stored snapshot timeFromMs timeToMs table with
    | none => rfl
    | some other =>
      have same : other = price := by
        unfold UsageRow.boundPrice at bound again
        rw [rebind_listed, rebind_applicable] at again
        split at bound
        · split at again
          · have found := (Option.filter_eq_some_iff.mp bound).1
            have found' := (Option.filter_eq_some_iff.mp again).1
            exact Option.some.inj (found'.symm.trans found)
          · cases again
        · cases bound
      rw [same]
      rfl

def UsageRow.update (timeFromMs timeToMs : Int) (table : UsageTable) (row : UsageRow)
    (update : PricingReconciliationKeyRow × Option (PriceVersion Decimal)) : UsageRow :=
  match update.2 with
  | some price => if update.1.selects timeFromMs timeToMs table row then row.rebind price else row
  | none => row

theorem update_cases {existing : List (PriceVersion Decimal)} (named : blank key.model = false)
    (known : ∀ id, key.priceVersionId = some id →
      (findVersion existing id).map (·.card) = storedCard crate stored id)
    {decided : Option (PriceVersion Decimal)}
    (group : groupPrice crate existing snapshot key = some decided) :
    row.update timeFromMs timeToMs table (key, decided) =
      if key.selects timeFromMs timeToMs table row
      then row.afterUpdates crate stored snapshot timeFromMs timeToMs table else row := by
  by_cases selected : key.selects timeFromMs timeToMs table row = true
  · have same := groupPrice_eq named selected known group
    rw [if_pos selected, UsageRow.afterUpdates, ← same]
    cases decided with
    | none => rfl
    | some price => exact if_pos selected
  · rw [if_neg selected]
    cases decided with
    | none => rfl
    | some price => exact if_neg selected

structure Updates (crate : DecimalCrate Decimal) (stored : PriceTable) (snapshot : PricedSnapshot Decimal)
    (existing : List (PriceVersion Decimal)) (keys : List PricingReconciliationKeyRow) : Prop where
  named : ∀ key ∈ keys, blank key.model = false
  known : ∀ key ∈ keys, ∀ id, key.priceVersionId = some id →
    (findVersion existing id).map (·.card) = storedCard crate stored id

theorem Updates.tail {existing : List (PriceVersion Decimal)} {keys : List PricingReconciliationKeyRow}
    (updates : Updates crate stored snapshot existing (key :: keys)) :
    Updates crate stored snapshot existing keys :=
  ⟨fun other member => updates.named other (List.mem_cons_of_mem _ member),
    fun other member => updates.known other (List.mem_cons_of_mem _ member)⟩

/-- How far along a row is after some groups: all is done, or nothing, and then no group was its own
unless the run stopped early. -/
def Underway (crate : DecimalCrate Decimal) (stored : PriceTable) (snapshot : PricedSnapshot Decimal)
    (timeFromMs timeToMs : Int) (table : UsageTable) (keys : List PricingReconciliationKeyRow)
    (finished : Bool) (row now : UsageRow) : Prop :=
  now = row.afterUpdates crate stored snapshot timeFromMs timeToMs table ∨
    now = row ∧ (finished = true → ∀ key ∈ keys, key.selects timeFromMs timeToMs table row = false)

theorem Underway.cons {existing : List (PriceVersion Decimal)} {keys : List PricingReconciliationKeyRow}
    (updates : Updates crate stored snapshot existing (key :: keys))
    {decided : Option (PriceVersion Decimal)}
    (group : groupPrice crate existing snapshot key = some decided) {finished : Bool} {now : UsageRow}
    (later : Underway crate stored snapshot timeFromMs timeToMs table keys finished
      (row.update timeFromMs timeToMs table (key, decided)) now) :
    Underway crate stored snapshot timeFromMs timeToMs table (key :: keys) finished row now := by
  have update := @update_cases _ crate stored snapshot timeFromMs timeToMs table row key existing
    (updates.named key (by simp)) (updates.known key (by simp)) decided group
  rw [update] at later
  by_cases selected : key.selects timeFromMs timeToMs table row = true
  · left
    rw [if_pos selected] at later
    rcases later with done | ⟨done, -⟩
    · rw [done, afterUpdates_idem]
    · exact done
  · rw [if_neg selected] at later
    rcases later with done | ⟨kept, others⟩
    · exact .inl done
    · refine .inr ⟨kept, fun finished => List.forall_mem_cons.mpr ⟨?_, others finished⟩⟩
      simpa using selected

theorem reconcileGroups_underway {existing : List (PriceVersion Decimal)}
    {keys : List PricingReconciliationKeyRow}
    (updates : Updates crate stored snapshot existing keys) {tables final : UsageTables}
    {backfilled : Nat} {result : Option Nat}
    (ran : reconcileGroups crate existing snapshot timeFromMs timeToMs keys tables backfilled =
      (final, result)) (table : UsageTable) :
    List.Forall₂ (Underway crate stored snapshot timeFromMs timeToMs table keys result.isSome)
      (tables.rows table) (final.rows table) := by
  induction keys generalizing tables backfilled with
  | nil =>
    cases ran
    exact List.forall₂_same.mpr fun row _ => .inr ⟨rfl, fun _ => by simp⟩
  | cons key keys ih =>
    rw [reconcileGroups] at ran
    split at ran
    · cases ran
      exact List.forall₂_same.mpr fun row _ => .inr ⟨rfl, fun finished => by cases finished⟩
    · rename_i group
      exact (ih updates.tail ran).imp fun row now later => later.cons updates group
    · rename_i price group
      have rest := ih updates.tail ran
      replace rest : List.Forall₂ _ ((tables.rows table).map fun row =>
        row.update timeFromMs timeToMs table (key, some price)) (final.rows table) := rest
      rw [List.forall₂_map_left_iff] at rest
      exact rest.imp fun row now later => later.cons updates group

theorem updates_listed {existing : List (PriceVersion Decimal)} {tables : UsageTables}
    {keys : List PricingReconciliationKeyRow}
    (queried : keys.Perm (listPricingReconciliationKeys timeFromMs timeToMs tables))
    (read : listPriceVersions crate stored (versionIds (keys.filterMap (·.priceVersionId))) =
      .ok existing) : Updates crate stored snapshot existing keys where
  named := by
    intro key member
    obtain ⟨table, row, -, listed, keyed⟩ :=
      mem_listPricingReconciliationKeys.mp (queried.mem_iff.mp member)
    obtain ⟨model, isModel, rfl⟩ := Option.map_eq_some_iff.mp keyed
    simp only [UsageRow.listed, isModel, Option.any_some, Bool.and_eq_true, Bool.not_eq_true'] at listed
    exact listed.2
  known := by
    intro key member id version
    rw [findVersion_listed read, if_pos]
    exact mem_versionIds.mpr (List.mem_filterMap.mpr ⟨key, member, version⟩)

theorem reconcileUnpricedUsage_rows {tables final : UsageTables} {backfilled : Nat}
    {keys : List PricingReconciliationKeyRow}
    (queried : keys.Perm (listPricingReconciliationKeys timeFromMs timeToMs tables))
    (ran : reconcileUnpricedUsage crate stored snapshot timeFromMs timeToMs keys tables =
      (final, some backfilled)) (table : UsageTable) :
    final.rows table = (tables.rows table).map
      (·.afterUpdates crate stored snapshot timeFromMs timeToMs table) := by
  have unlisted : ∀ row ∈ tables.rows table,
      (∀ key ∈ keys, key.selects timeFromMs timeToMs table row = false) →
        row = row.afterUpdates crate stored snapshot timeFromMs timeToMs table := by
    intro row member missed
    by_cases listed : row.listed timeFromMs timeToMs table = true
    · have concerned := (Bool.and_eq_true_iff.mp listed).1
      cases keyed : row.key with
      | none =>
        have nameless : row.model = none := by simpa [UsageRow.key] using keyed
        simp [UsageRow.listed, nameless] at listed
      | some key =>
        have there := mem_listPricingReconciliationKeys.mpr ⟨table, row, member, listed, keyed⟩
        have selected := selects_iff.mpr ⟨concerned, keyed⟩
        rw [missed key (queried.mem_iff.mpr there)] at selected
        cases selected
    · simp [UsageRow.afterUpdates, UsageRow.boundPrice, listed]
  have underway : List.Forall₂ (Underway crate stored snapshot timeFromMs timeToMs table keys true)
      (tables.rows table) (final.rows table) := by
    unfold reconcileUnpricedUsage at ran
    split at ran
    · rename_i empty
      cases ran
      rw [List.isEmpty_iff.mp empty]
      exact List.forall₂_same.mpr fun row _ => .inr ⟨rfl, fun _ => by simp⟩
    · split at ran
      · cases ran
      · rename_i existing read
        exact reconcileGroups_underway (updates_listed queried read) ran table
  have each : List.Forall₂ (fun row now => now =
      row.afterUpdates crate stored snapshot timeFromMs timeToMs table)
        (tables.rows table) (final.rows table) := by
    refine List.forall₂_iff_zip.mpr ⟨underway.length_eq, fun {row now} paired => ?_⟩
    rcases List.forall₂_zip underway paired with done | ⟨kept, missed⟩
    · exact done
    · rw [kept]
      exact unlisted row (List.of_mem_zip paired).1 (missed rfl)
  have mapped : List.Forall₂ (· = ·) ((tables.rows table).map
      (·.afterUpdates crate stored snapshot timeFromMs timeToMs table)) (final.rows table) := by
    rw [List.forall₂_map_left_iff]
    exact each.imp fun row now same => same.symm
  rw [List.forall₂_eq_eq_eq] at mapped
  exact mapped.symm

theorem reconcileUnpricedUsage_settled {tables : UsageTables}
    (settled : ∀ table, ∀ row ∈ tables.rows table,
      row.afterUpdates crate stored snapshot timeFromMs timeToMs table = row)
    {keys : List PricingReconciliationKeyRow}
    (queried : keys.Perm (listPricingReconciliationKeys timeFromMs timeToMs tables)) :
    (reconcileUnpricedUsage crate stored snapshot timeFromMs timeToMs keys tables).1 = tables := by
  unfold reconcileUnpricedUsage
  split
  · rfl
  · split
    · rfl
    · rename_i existing read
      have each := fun table => reconcileGroups_underway (updates_listed queried read)
        (rfl : reconcileGroups crate existing snapshot timeFromMs timeToMs keys tables 0 = (_, _)) table
      have same : ∀ table, tables.rows table =
          (reconcileGroups crate existing snapshot timeFromMs timeToMs keys tables 0).1.rows table := by
        intro table
        have equal : List.Forall₂ (· = ·) (tables.rows table)
            ((reconcileGroups crate existing snapshot timeFromMs timeToMs keys tables 0).1.rows table) := by
          refine List.forall₂_iff_zip.mpr ⟨(each table).length_eq, fun {row now} paired => ?_⟩
          rcases List.forall₂_zip (each table) paired with done | ⟨kept, -⟩
          · rw [done, settled table row (List.of_mem_zip paired).1]
          · exact kept.symm
        rwa [List.forall₂_eq_eq_eq] at equal
      show (reconcileGroups crate existing snapshot timeFromMs timeToMs keys tables 0).1 = tables
      generalize (reconcileGroups crate existing snapshot timeFromMs timeToMs keys tables 0).1 = final at same
      obtain ⟨rows⟩ := tables
      obtain ⟨rows'⟩ := final
      congr 1
      funext table
      exact (same table).symm

end Proofs

section Reconciled

variable {Decimal : Type} (crate : DecimalCrate Decimal) (stored : PriceTable)
  (snapshot : PricedSnapshot Decimal) (timeFromMs timeToMs : Int)

def UsageRow.boundTo (price : PriceVersion Decimal) (row : UsageRow) : UsageRow :=
  { row with
    priceVersionId := some price.id
    priceTierIndex := some (price.card.tierIndexForUsage row.usage) }

def UsageRow.pricedBy (price : PriceVersion Decimal) (row : UsageRow) : Bool :=
  price.card.canPrice row.usage (price.card.tierIndexForUsage row.usage)

structure RowReconciled (table : UsageTable) (row now : UsageRow) : Prop where
  unconcerned : row.concerned timeFromMs timeToMs table = false → now = row
  priced : row.ownPriceable crate stored = true → now = row
  bound : row.concerned timeFromMs timeToMs table = true → row.ownPriceable crate stored = false →
    ∀ price, row.applicable snapshot = some price → row.pricedBy price = true → now = row.boundTo price
  others : (∀ price, row.applicable snapshot = some price → row.pricedBy price = false) → now = row

structure Reconciled (tables final : UsageTables) : Prop where
  rows : ∀ table, List.Forall₂ (RowReconciled crate stored snapshot timeFromMs timeToMs table)
    (tables.rows table) (final.rows table)
  again : ∀ keys, keys.Perm (listPricingReconciliationKeys timeFromMs timeToMs final) →
    (reconcileUnpricedUsage crate stored snapshot timeFromMs timeToMs keys final).1 = final

/-- The group of the row is listed and its price has a cost at the lowest tier, exactly if that price has a
cost at the tier of the row, unless the row is already bound to it. -/
def UsageRow.GroupAgrees (table : UsageTable) (row : UsageRow) : Prop :=
  row.concerned timeFromMs timeToMs table = true → row.ownPriceable crate stored = false →
    ∀ price, row.applicable snapshot = some price →
      ((row.listed timeFromMs timeToMs table = true ∧ price.card.canPrice row.usage 0 = true ↔
        row.pricedBy price = true) ∨ row.boundTo price = row)

variable {crate stored snapshot timeFromMs timeToMs}

theorem rebind_eq {row : UsageRow} (fits : row.Fits) (price : PriceVersion Decimal) :
    row.rebind price = row.boundTo price := by
  rw [UsageRow.rebind, priceTierCase_eq fits]
  rfl

theorem afterUpdates_eq {row : UsageRow} (fits : row.Fits) {table : UsageTable}
    (own : row.ownPriceable crate stored = false) {price : PriceVersion Decimal}
    (applicable : row.applicable snapshot = some price) :
    row.afterUpdates crate stored snapshot timeFromMs timeToMs table =
      if row.listed timeFromMs timeToMs table = true ∧ price.card.canPrice row.usage 0 = true
      then row.boundTo price else row := by
  rw [UsageRow.afterUpdates, UsageRow.boundPrice, own, applicable, Option.filter_some]
  cases row.listed timeFromMs timeToMs table with
  | false => simp
  | true =>
    cases price.card.canPrice row.usage 0 with
    | false => simp
    | true => simp [rebind_eq fits]

theorem rowReconciled_iff {row : UsageRow} (fits : row.Fits) (table : UsageTable) :
    RowReconciled crate stored snapshot timeFromMs timeToMs table row
        (row.afterUpdates crate stored snapshot timeFromMs timeToMs table) ↔
      row.GroupAgrees crate stored snapshot timeFromMs timeToMs table := by
  constructor
  · intro reconciled concerned own price applicable
    have after := @afterUpdates_eq _ crate stored snapshot timeFromMs timeToMs row fits table own price
      applicable
    by_cases bound : row.listed timeFromMs timeToMs table = true ∧ price.card.canPrice row.usage 0 = true
    · rw [if_pos bound] at after
      by_cases priced : row.pricedBy price = true
      · exact .inl (iff_of_true bound priced)
      · right
        rw [← after]
        refine reconciled.others fun other found => ?_
        rw [applicable] at found
        cases found
        simpa using priced
    · rw [if_neg bound] at after
      by_cases priced : row.pricedBy price = true
      · right
        have there := reconciled.bound concerned own price applicable priced
        rw [← there, after]
      · exact .inl (iff_of_false bound priced)
  · intro agrees
    refine ⟨?_, ?_, ?_, ?_⟩
    · intro unconcerned
      simp [UsageRow.afterUpdates, UsageRow.boundPrice, UsageRow.listed, unconcerned]
    · intro own
      simp [UsageRow.afterUpdates, UsageRow.boundPrice, own]
    · intro concerned own price applicable priced
      rw [afterUpdates_eq fits own applicable]
      rcases agrees concerned own price applicable with same | there
      · rw [if_pos (same.mpr priced)]
      · rw [there, ite_self]
    · intro unpriced
      cases concerned : row.concerned timeFromMs timeToMs table with
      | false => simp [UsageRow.afterUpdates, UsageRow.boundPrice, UsageRow.listed, concerned]
      | true =>
        cases own : row.ownPriceable crate stored with
        | true => simp [UsageRow.afterUpdates, UsageRow.boundPrice, own]
        | false =>
          cases applicable : row.applicable snapshot with
          | none => simp [UsageRow.afterUpdates, UsageRow.boundPrice, applicable]
          | some price =>
            rw [afterUpdates_eq fits own applicable]
            rcases agrees concerned own price applicable with same | there
            · have missed := unpriced price applicable
              rw [if_neg]
              intro bound
              rw [same.mp bound] at missed
              cases missed
            · rw [there, ite_self]

/-- A group is tested at the lowest tier alone, whatever the tiers of its rows are. -/
theorem reconciled_iff {tables final : UsageTables} (fits : ∀ table, ∀ row ∈ tables.rows table, row.Fits)
    {keys : List PricingReconciliationKeyRow}
    (queried : keys.Perm (listPricingReconciliationKeys timeFromMs timeToMs tables)) {backfilled : Nat}
    (ran : reconcileUnpricedUsage crate stored snapshot timeFromMs timeToMs keys tables =
      (final, some backfilled)) :
    Reconciled crate stored snapshot timeFromMs timeToMs tables final ↔
      ∀ table, ∀ row ∈ tables.rows table, row.GroupAgrees crate stored snapshot timeFromMs timeToMs table := by
  have rows := reconcileUnpricedUsage_rows queried ran
  have each : ∀ table, List.Forall₂ (RowReconciled crate stored snapshot timeFromMs timeToMs table)
      (tables.rows table) (final.rows table) ↔ ∀ row ∈ tables.rows table,
        row.GroupAgrees crate stored snapshot timeFromMs timeToMs table := by
    intro table
    rw [rows table, List.forall₂_map_right_iff, List.forall₂_same]
    exact forall₂_congr fun row member => rowReconciled_iff (fits table row member) table
  constructor
  · intro reconciled table
    exact (each table).mp (reconciled.rows table)
  · intro agrees
    refine ⟨fun table => (each table).mpr (agrees table), fun keys queried => ?_⟩
    refine reconcileUnpricedUsage_settled (fun table row member => ?_) queried
    rw [rows table] at member
    obtain ⟨before, -, rfl⟩ := List.mem_map.mp member
    exact afterUpdates_idem

end Reconciled

def lateOutputVersion : PriceVersion PlainDecimal :=
  ⟨7, ⟨⟨some ⟨2, 0⟩, none, none, none⟩, [⟨200000, ⟨some ⟨4, 0⟩, some ⟨9, 0⟩, none, none⟩⟩]⟩⟩

def lateOutputSnapshot : PricedSnapshot PlainDecimal where
  toUpstreamSnapshot := Routing.UpstreamSnapshot.empty
  providerPricesByModel := ∅
  globalPricesByModel := (∅ : HashMap String (PriceVersion PlainDecimal)).insert "m"
    lateOutputVersion

def longRow : UsageRow where
  timeMs := 500
  spanKind := "request"
  providerId := some 1
  model := some "m"
  usage := ⟨300000, 10, 0, 0, 0⟩
  usageObserved := true
  priceVersionId := none
  priceTierIndex := none

def shortRow : UsageRow := { longRow with usage := ⟨100, 0, 0, 0, 0⟩ }

def onlyRow (row : UsageRow) : UsageTables := ⟨fun _ => [row]⟩

theorem lateOutput_applicable (row : UsageRow) (model : row.model = some "m")
    (provider : row.providerId = some 1) : row.applicable lateOutputSnapshot =
      some lateOutputVersion := by
  have models : lateOutputSnapshot.upstreamModels 1 "m" = ["m"] := by
    simp [PricedSnapshot.upstreamModels, PricedSnapshot.legacyTargets, PricedSnapshot.aliasTargets,
      lateOutputSnapshot, Routing.UpstreamSnapshot.empty]
  rw [UsageRow.applicable, model, provider, Option.bind_some, applicablePrice,
    PricedSnapshot.findPriceForHistoricalRequest, models]
  rfl

/-- The group has output, for which the lowest tier has no rate, so the row is left without a price. -/
theorem longRow_unreconciled :
    listPricingReconciliationKeys 0 1000 (onlyRow longRow) =
        [⟨some 1, "m", none, none, true, true, false, false⟩] ∧
      reconcileUnpricedUsage plainCrate ∅ lateOutputSnapshot 0 1000
        [⟨some 1, "m", none, none, true, true, false, false⟩] (onlyRow longRow) =
          (onlyRow longRow, some 0) ∧
      ¬ Reconciled plainCrate ∅ lateOutputSnapshot 0 1000 (onlyRow longRow) (onlyRow longRow) := by
  refine ⟨by decide, ?_, fun reconciled => ?_⟩
  · have applicable := lateOutput_applicable longRow rfl rfl
    have group : groupPrice plainCrate [] lateOutputSnapshot
        ⟨some 1, "m", none, none, true, true, false, false⟩ = some none := by
      have same : applicablePrice lateOutputSnapshot (some 1) "m" = longRow.applicable lateOutputSnapshot := rfl
      simp only [groupPrice, alreadyPriceable, same, applicable]
      rfl
    simp [reconcileUnpricedUsage, versionIds, listPriceVersions, reconcileGroups, group]
  · have rows := reconciled.rows .statsEvents
    obtain ⟨row, -⟩ := List.forall₂_cons.mp rows
    have bound := row.bound (by decide) (by decide) _ (lateOutput_applicable longRow rfl rfl) (by decide)
    cases congrArg UsageRow.priceVersionId bound

/-- A short request is priced at the lowest tier, where its group is tested. -/
theorem shortRow_reconciled :
    Reconciled plainCrate ∅ lateOutputSnapshot 0 1000 (onlyRow shortRow)
        (reconcileUnpricedUsage plainCrate ∅ lateOutputSnapshot 0 1000
          [⟨some 1, "m", none, none, true, false, false, false⟩] (onlyRow shortRow)).1 ↔
      ∀ table, ∀ row ∈ (onlyRow shortRow).rows table,
        row.GroupAgrees plainCrate ∅ lateOutputSnapshot 0 1000 table := by
  have listed : listPricingReconciliationKeys 0 1000 (onlyRow shortRow) =
      [⟨some 1, "m", none, none, true, false, false, false⟩] := by decide
  have group : groupPrice plainCrate [] lateOutputSnapshot
      ⟨some 1, "m", none, none, true, false, false, false⟩ =
        some (some lateOutputVersion) := by
    have same : applicablePrice lateOutputSnapshot (some 1) "m" = shortRow.applicable lateOutputSnapshot := rfl
    simp only [groupPrice, alreadyPriceable, same, lateOutput_applicable shortRow rfl rfl]
    rfl
  have ran : (reconcileUnpricedUsage plainCrate ∅ lateOutputSnapshot 0 1000
      [⟨some 1, "m", none, none, true, false, false, false⟩] (onlyRow shortRow)).2 = some 1 := by
    simp [reconcileUnpricedUsage, versionIds, listPriceVersions, reconcileGroups, group]
    decide
  refine reconciled_iff (fun table row member => ?_) (by rw [listed]) (Prod.ext rfl ran)
  rw [List.mem_singleton.mp member]
  unfold UsageRow.Fits
  decide

end CodexGate.Pricing
