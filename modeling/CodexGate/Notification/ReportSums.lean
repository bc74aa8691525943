import CodexGate.Notification.UsageReports
import Mathlib.Algebra.Order.BigOperators.Group.List
import Mathlib.Algebra.BigOperators.Ring.List

namespace CodexGate.Notification

open Foundation Pricing Telemetry

inductive Measure
  | requests
  | failed
  | usageObservedRequests
  | inputTokens
  | outputTokens
  | cacheReadInputTokens
  | cacheCreationInputTokens
  | reasoningOutputTokens
  | totalTokens
  | unpricedRequests
  deriving DecidableEq

def UsageAggregate.count (aggregate : UsageAggregate) : Measure → Int
  | .requests => aggregate.requests
  | .failed => aggregate.failed
  | .usageObservedRequests => aggregate.usageObservedRequests
  | .inputTokens => aggregate.inputTokens
  | .outputTokens => aggregate.outputTokens
  | .cacheReadInputTokens => aggregate.cacheReadInputTokens
  | .cacheCreationInputTokens => aggregate.cacheCreationInputTokens
  | .reasoningOutputTokens => aggregate.reasoningOutputTokens
  | .totalTokens => aggregate.totalTokens
  | .unpricedRequests => aggregate.unpricedRequests

variable {Decimal : Type}

def usd (value : Decimal → ℚ) : Outcome (PricedCost Decimal) → ℚ
  | .found cost => value cost.inputUsd + value cost.outputUsd
  | _ => 0

def hasCost : Outcome (PricedCost Decimal) → Bool
  | .found _ => true
  | _ => false

section Events

variable (crate : DecimalCrate Decimal) (value : Decimal → ℚ) (stored : PriceTable)

def eventCost (event : StatsEventRow) : Outcome (PricedCost Decimal) :=
  match event.priceVersionId.bind (storedCard crate stored) with
  | none => .missing
  | some card => card.costForUsage crate event.usage (tierOf event.priceTierIndex)

def eventCount (event : StatsEventRow) : Measure → Int
  | .requests => 1
  | .failed => if event.failed then 1 else 0
  | .usageObservedRequests => if event.usageObserved then 1 else 0
  | .inputTokens => event.usage.inputTokens
  | .outputTokens => event.usage.outputTokens
  | .cacheReadInputTokens => event.usage.cacheReadInputTokens
  | .cacheCreationInputTokens => event.usage.cacheCreationInputTokens
  | .reasoningOutputTokens => event.usage.reasoningOutputTokens
  | .totalTokens => event.usage.inputTokens + event.usage.outputTokens +
      event.usage.cacheReadInputTokens + event.usage.cacheCreationInputTokens
  | .unpricedRequests => if event.usageObserved && !hasCost (eventCost crate stored event) then 1 else 0

def totalCount (events : List StatsEventRow) (m : Measure) : Int :=
  (events.map fun event => eventCount crate stored event m).sum

def totalCost (events : List StatsEventRow) : ℚ :=
  (events.map fun event => usd value (eventCost crate stored event)).sum

end Events

structure Counts (event : StatsEventRow) : Prop where
  input : 0 ≤ event.usage.inputTokens
  output : 0 ≤ event.usage.outputTokens
  cacheRead : 0 ≤ event.usage.cacheReadInputTokens
  cacheCreation : 0 ≤ event.usage.cacheCreationInputTokens
  reasoning : 0 ≤ event.usage.reasoningOutputTokens

section Totals

variable {crate : DecimalCrate Decimal} {value : Decimal → ℚ} {stored : PriceTable}
  {events others : List StatsEventRow}

theorem eventCount_nonneg {event : StatsEventRow} (counts : Counts event) (m : Measure) :
    0 ≤ eventCount crate stored event m := by
  obtain ⟨input, output, cacheRead, cacheCreation, reasoning⟩ := counts
  cases m with
  | failed =>
    simp only [eventCount]
    split <;> omega
  | usageObservedRequests =>
    simp only [eventCount]
    split <;> omega
  | unpricedRequests =>
    simp only [eventCount]
    split <;> omega
  | _ =>
    simp only [eventCount]
    omega

theorem totalCount_append (m : Measure) :
    totalCount crate stored (events ++ others) m =
      totalCount crate stored events m + totalCount crate stored others m := by
  simp only [totalCount, List.map_append, List.sum_append]

theorem totalCost_append :
    totalCost crate value stored (events ++ others) =
      totalCost crate value stored events + totalCost crate value stored others := by
  simp only [totalCost, List.map_append, List.sum_append]

theorem totalCount_perm (perm : events.Perm others) (m : Measure) :
    totalCount crate stored events m = totalCount crate stored others m :=
  (perm.map _).sum_eq

theorem totalCost_perm (perm : events.Perm others) :
    totalCost crate value stored events = totalCost crate value stored others :=
  (perm.map _).sum_eq

theorem totalCount_nonneg (counts : ∀ event ∈ events, Counts event) (m : Measure) :
    0 ≤ totalCount crate stored events m := by
  apply List.sum_nonneg
  intro count there
  obtain ⟨event, member, rfl⟩ := List.mem_map.mp there
  exact eventCount_nonneg (counts event member) m

theorem totalCount_le_of_sublist (counts : ∀ event ∈ others, Counts event) (part : events.Sublist others)
    (m : Measure) : totalCount crate stored events m ≤ totalCount crate stored others m := by
  apply (part.map _).sum_le_sum
  intro count there
  obtain ⟨event, member, rfl⟩ := List.mem_map.mp there
  exact eventCount_nonneg (counts event member) m

end Totals

structure Grouped (group : UsageGroupKey × List StatsEventRow) : Prop where
  nonempty : group.2 ≠ []
  keyed : ∀ event ∈ group.2, usageGroupKey event = group.1
  counts : ∀ event ∈ group.2, Counts event

section Groups

variable {group : UsageGroupKey × List StatsEventRow}

theorem sumOf_pos_iff {events : List StatsEventRow} {column : StatsEventRow → Int}
    (nonneg : ∀ event ∈ events, 0 ≤ column event) {event : StatsEventRow} (member : event ∈ events)
    (alike : ∀ other ∈ events, 0 < column other ↔ 0 < column event) :
    0 < sumOf events column ↔ 0 < column event := by
  have each : ∀ count ∈ events.map column, 0 ≤ count := by
    intro count there
    obtain ⟨other, here, rfl⟩ := List.mem_map.mp there
    exact nonneg other here
  constructor
  · intro positive
    by_contra free
    have zero : ∀ count ∈ events.map column, count = 0 := by
      intro count there
      obtain ⟨other, here, rfl⟩ := List.mem_map.mp there
      have least := nonneg other here
      have most := mt (alike other here).mp free
      omega
    rw [sumOf, List.sum_eq_zero zero] at positive
    omega
  · intro positive
    have most := List.single_le_sum each (column event) (List.mem_map_of_mem member)
    rw [sumOf]
    omega

theorem Grouped.sameKinds (grouped : Grouped group) {event : StatsEventRow} (member : event ∈ group.2) :
    SameKinds (summedUsage group.2) event.usage := by
  have alike : ∀ other ∈ group.2, usageGroupKey other = usageGroupKey event := by
    intro other there
    rw [grouped.keyed other there, grouped.keyed event member]
  have column : ∀ (flag : UsageGroupKey → Bool) (count : StatsEventRow → Int),
      (∀ event, flag (usageGroupKey event) = decide (0 < count event)) →
      (∀ event ∈ group.2, 0 ≤ count event) → (0 < sumOf group.2 count ↔ 0 < count event) := by
    intro flag count flagged nonneg
    apply sumOf_pos_iff nonneg member
    intro other there
    have same := congrArg flag (alike other there)
    rwa [flagged, flagged, decide_eq_decide] at same
  constructor
  · exact column (·.hasInputTokens) _ (fun _ => rfl) fun event there => (grouped.counts event there).input
  · exact column (·.hasOutputTokens) _ (fun _ => rfl) fun event there => (grouped.counts event there).output
  · exact column (·.hasCacheReadInputTokens) _ (fun _ => rfl) fun event there =>
      (grouped.counts event there).cacheRead
  · exact column (·.hasCacheCreationInputTokens) _ (fun _ => rfl) fun event there =>
      (grouped.counts event there).cacheCreation

theorem exactCost_sum {Decimal : Type} (value : Decimal → ℚ) {events : List StatsEventRow}
    {column : StatsEventRow → Int} (nonneg : ∀ event ∈ events, 0 ≤ column event) (rate : Option Decimal) :
    exactCost value (sumOf events column) rate = (events.map fun event => exactCost value (column event) rate).sum := by
  have tokens : pricedTokens (sumOf events column) = (events.map fun event => pricedTokens (column event)).sum := by
    induction events with
    | nil => simp [sumOf, pricedTokens]
    | cons event rest ih =>
      have first := nonneg event (List.mem_cons_self ..)
      have later : ∀ other ∈ rest, 0 ≤ column other := by
        intro other there
        exact nonneg other (List.mem_cons_of_mem _ there)
      have whole : 0 ≤ sumOf rest column := by
        apply List.sum_nonneg
        intro count there
        obtain ⟨other, here, rfl⟩ := List.mem_map.mp there
        exact later other here
      rw [List.map_cons, List.sum_cons, ← ih later]
      simp only [sumOf, List.map_cons, List.sum_cons, pricedTokens] at whole ⊢
      rw [max_eq_left first, max_eq_left whole, max_eq_left (by omega)]
      push_cast
      rfl
  unfold exactCost
  rw [tokens, mul_div_assoc, ← List.sum_map_mul_right]
  simp only [mul_div_assoc]

theorem usageCost_sum {Decimal : Type} (value : Decimal → ℚ) (rates : PriceRates Decimal)
    {events : List StatsEventRow} (counts : ∀ event ∈ events, Counts event) :
    usageCost value rates (summedUsage events) = (events.map fun event => usageCost value rates event.usage).sum := by
  unfold usageCost summedUsage
  rw [exactCost_sum value (fun event there => (counts event there).input),
    exactCost_sum value (fun event there => (counts event there).cacheRead),
    exactCost_sum value (fun event there => (counts event there).cacheCreation),
    exactCost_sum value (fun event there => (counts event there).output)]
  simp only [List.sum_map_add]

end Groups

section Rows

variable {Decimal : Type} {crate : DecimalCrate Decimal} {value : Decimal → ℚ} {stored : PriceTable}
  {versions : List (PriceVersion Decimal)} {group : UsageGroupKey × List StatsEventRow}

theorem summedUsage_fits (fits : ∀ m, totalCount crate stored group.2 m ≤ i64Max) :
    CountsFit (summedUsage group.2) :=
  ⟨fits .inputTokens, fits .cacheReadInputTokens, fits .cacheCreationInputTokens, fits .outputTokens⟩

theorem eventUsage_fits (counts : ∀ event ∈ group.2, Counts event)
    (fits : ∀ m, totalCount crate stored group.2 m ≤ i64Max) {event : StatsEventRow} (member : event ∈ group.2) :
    CountsFit event.usage := by
  have below : ∀ m, eventCount crate stored event m ≤ i64Max := by
    intro m
    have own : totalCount crate stored [event] m ≤ totalCount crate stored group.2 m :=
      totalCount_le_of_sublist counts (List.singleton_sublist.mpr member) m
    rw [totalCount, List.map_singleton, List.sum_singleton] at own
    exact le_trans own (fits m)
  exact ⟨below .inputTokens, below .cacheReadInputTokens, below .cacheCreationInputTokens, below .outputTokens⟩

theorem Grouped.eventCost_eq (grouped : Grouped group) {event : StatsEventRow} (member : event ∈ group.2) :
    eventCost crate stored event = match group.1.priceVersionId.bind (storedCard crate stored) with
      | none => .missing
      | some card => card.costForUsage crate event.usage (tierOf group.1.priceTierIndex) := by
  rw [eventCost, ← grouped.keyed event member]
  rfl

structure RowCost (crate : DecimalCrate Decimal) (value : Decimal → ℚ) (stored : PriceTable)
    (events : List StatsEventRow) (cost : PricedCost Decimal) : Prop where
  inputSign : crate.isSignNegative cost.inputUsd = false
  outputSign : crate.isSignNegative cost.outputUsd = false
  usd : value cost.inputUsd + value cost.outputUsd = totalCost crate value stored events
  each : ∀ event ∈ events, hasCost (eventCost crate stored event) = true

theorem rowCost_cases (exactly : crate.Exact value) (grouped : Grouped group)
    (fits : ∀ m, totalCount crate stored group.2 m ≤ i64Max)
    (known : (rowPrice versions (usageGroupRow group)).map (·.card) =
      group.1.priceVersionId.bind (storedCard crate stored)) :
    rowCost crate (usageGroupRow group) (rowPrice versions (usageGroupRow group)) = .missing ∧
        (∀ event ∈ group.2, eventCost crate stored event = .missing) ∨
      ∃ cost, rowCost crate (usageGroupRow group) (rowPrice versions (usageGroupRow group)) = .found cost ∧
        RowCost crate value stored group.2 cost := by
  cases price : rowPrice versions (usageGroupRow group) with
  | none =>
    rw [price, Option.map_none] at known
    left
    refine ⟨rfl, ?_⟩
    intro event member
    rw [grouped.eventCost_eq member, ← known]
  | some version =>
    rw [price, Option.map_some] at known
    have valid : version.card.Valid crate := by
      obtain ⟨id, -, found⟩ := Option.bind_eq_some_iff.mp known.symm
      exact storedCard_valid found
    have own : ∀ event ∈ group.2, eventCost crate stored event =
        version.card.costForUsage crate event.usage (tierOf group.1.priceTierIndex) := by
      intro event member
      rw [grouped.eventCost_eq member, ← known]
    have kinds : ∀ event ∈ group.2,
        version.card.canPrice event.usage (tierOf group.1.priceTierIndex) =
          version.card.canPrice (summedUsage group.2) (tierOf group.1.priceTierIndex) := by
      intro event member
      exact (canPrice_congr (grouped.sameKinds member) _).symm
    cases covered : version.card.canPrice (summedUsage group.2) (tierOf group.1.priceTierIndex) with
    | false =>
      left
      refine ⟨costForUsage_uncovered exactly valid (summedUsage_fits fits) covered, ?_⟩
      intro event member
      rw [own event member]
      apply costForUsage_uncovered exactly valid (eventUsage_fits grouped.counts fits member)
      rw [kinds event member, covered]
    | true =>
      right
      obtain ⟨rates, tier, -⟩ := (Option.any_eq_true _ _).mp covered
      have ratesValid := ratesForTier_valid valid tier
      have priced : ∀ usage, CountsFit usage →
          version.card.canPrice usage (tierOf group.1.priceTierIndex) = true →
          ∃ cost, version.card.costForUsage crate usage (tierOf group.1.priceTierIndex) = .found cost ∧
            crate.isSignNegative cost.inputUsd = false ∧ crate.isSignNegative cost.outputUsd = false ∧
            value cost.inputUsd + value cost.outputUsd = usageCost value rates usage := by
        intro usage counts can
        rw [PriceCard.canPrice, tier, Option.any_some] at can
        exact costForUsage_exact exactly tier ratesValid counts can
      obtain ⟨cost, found, inputSign, outputSign, sum⟩ := priced _ (summedUsage_fits fits) covered
      have each : ∀ event ∈ group.2, ∃ single, eventCost crate stored event = .found single ∧
          value single.inputUsd + value single.outputUsd = usageCost value rates event.usage := by
        intro event member
        have can := (kinds event member).trans covered
        obtain ⟨single, found, -, -, sum⟩ := priced _ (eventUsage_fits grouped.counts fits member) can
        exact ⟨single, (own event member).trans found, sum⟩
      refine ⟨cost, found, inputSign, outputSign, ?_, ?_⟩
      · rw [sum, usageCost_sum value rates grouped.counts, totalCost]
        apply congrArg List.sum
        apply List.map_congr_left
        intro event member
        obtain ⟨single, found, same⟩ := each event member
        rw [found, usd, same]
      · intro event member
        obtain ⟨single, found, -⟩ := each event member
        rw [found]
        rfl

end Rows

variable {Decimal : Type}

def MutableAggregate.count (aggregate : MutableAggregate Decimal) : Measure → Int
  | .requests => aggregate.requests
  | .failed => aggregate.failed
  | .usageObservedRequests => aggregate.usageObservedRequests
  | .inputTokens => aggregate.usage.inputTokens
  | .outputTokens => aggregate.usage.outputTokens
  | .cacheReadInputTokens => aggregate.usage.cacheReadInputTokens
  | .cacheCreationInputTokens => aggregate.usage.cacheCreationInputTokens
  | .reasoningOutputTokens => aggregate.usage.reasoningOutputTokens
  | .totalTokens => aggregate.usage.inputTokens + aggregate.usage.outputTokens +
      aggregate.usage.cacheReadInputTokens + aggregate.usage.cacheCreationInputTokens
  | .unpricedRequests => aggregate.unpricedRequests

structure Adds (crate : DecimalCrate Decimal) (value : Decimal → ℚ) (stored : PriceTable)
    (aggregate : MutableAggregate Decimal) (events : List StatsEventRow) : Prop where
  counts : ∀ m, aggregate.count m = totalCount crate stored events m
  cost : value aggregate.estimatedCostUsd = totalCost crate value stored events
  sign : crate.isSignNegative aggregate.estimatedCostUsd = false

section Additions

variable {crate : DecimalCrate Decimal} {value : Decimal → ℚ} {stored : PriceTable}
  {versions : List (PriceVersion Decimal)} {group : UsageGroupKey × List StatsEventRow}
  {aggregate : MutableAggregate Decimal} {events : List StatsEventRow}

theorem Adds.default (exactly : crate.Exact value) : Adds crate value stored (.default crate) [] := by
  obtain ⟨zero, isZero, sign, same⟩ := exactly.zero
  cases isZero
  refine ⟨?_, same, sign⟩
  intro m
  cases m <;> rfl

theorem Adds.of_perm {others : List StatsEventRow} (adds : Adds crate value stored aggregate events)
    (perm : events.Perm others) : Adds crate value stored aggregate others := by
  refine ⟨?_, ?_, adds.sign⟩
  · intro m
    rw [adds.counts, totalCount_perm perm]
  · rw [adds.cost, totalCost_perm perm]

theorem saturatingAddI64_of_fits {a b : Int} (first : 0 ≤ a) (second : 0 ≤ b) (fits : a + b ≤ i64Max) :
    saturatingAddI64 a b = a + b := by
  apply clampI64_of_fits
  · simp only [i64Min]
    omega
  · exact fits

theorem requests_eq (events : List StatsEventRow) :
    countOf events StatsEventRow.succeeded + countOf events StatsEventRow.failed =
      totalCount crate stored events .requests := by
  induction events with
  | nil => rfl
  | cons event rest ih =>
    have split : (if event.succeeded then 1 else 0) + (if event.failed then 1 else 0) = (1 : Int) := by
      unfold StatsEventRow.succeeded StatsEventRow.failed
      by_cases low : event.httpStatus.getD 500 < 400
      · cases event.errorType <;> simp [low]
      · simp [low, not_lt.mp low]
    simp only [countOf, sumOf, totalCount, List.map_cons, List.sum_cons, eventCount] at ih ⊢
    omega

theorem totalTokens_eq (events : List StatsEventRow) :
    totalCount crate stored events .totalTokens = totalCount crate stored events .inputTokens +
      totalCount crate stored events .outputTokens + totalCount crate stored events .cacheReadInputTokens +
        totalCount crate stored events .cacheCreationInputTokens := by
  simp only [totalCount, eventCount, List.sum_map_add]

theorem countOf_nonneg (events : List StatsEventRow) (test : StatsEventRow → Bool) : 0 ≤ countOf events test := by
  apply List.sum_nonneg
  intro count there
  obtain ⟨event, -, rfl⟩ := List.mem_map.mp there
  split <;> omega

theorem unpriced_of_missing (missing : ∀ event ∈ events, eventCost crate stored event = .missing) :
    totalCount crate stored events .unpricedRequests = totalCount crate stored events .usageObservedRequests := by
  apply congrArg List.sum
  apply List.map_congr_left
  intro event member
  simp [eventCount, missing event member, hasCost]

theorem unpriced_of_cost (each : ∀ event ∈ events, hasCost (eventCost crate stored event) = true) :
    totalCount crate stored events .unpricedRequests = 0 := by
  apply List.sum_eq_zero
  intro count there
  obtain ⟨event, member, rfl⟩ := List.mem_map.mp there
  simp [eventCount, each event member]

theorem totalCost_of_missing (missing : ∀ event ∈ events, eventCost crate stored event = .missing) :
    totalCost crate value stored events = 0 := by
  apply List.sum_eq_zero
  intro cost there
  obtain ⟨event, member, rfl⟩ := List.mem_map.mp there
  simp [missing event member, usd]

theorem Adds.added (adds : Adds crate value stored aggregate events)
    (counts : ∀ event ∈ events, Counts event) (grouped : Grouped group)
    (fits : ∀ m, totalCount crate stored (events ++ group.2) m ≤ i64Max) (m : Measure) :
    saturatingAddI64 (aggregate.count m) (totalCount crate stored group.2 m) =
      totalCount crate stored (events ++ group.2) m := by
  have sum := fits m
  rw [totalCount_append] at sum ⊢
  rw [adds.counts]
  exact saturatingAddI64_of_fits (totalCount_nonneg counts m) (totalCount_nonneg grouped.counts m) sum

theorem Adds.group_fits (counts : ∀ event ∈ events, Counts event)
    (fits : ∀ m, totalCount crate stored (events ++ group.2) m ≤ i64Max) (m : Measure) :
    totalCount crate stored group.2 m ≤ i64Max := by
  have sum := fits m
  have first : 0 ≤ totalCount crate stored events m := totalCount_nonneg counts m
  rw [totalCount_append] at sum
  omega

theorem Adds.counted (adds : Adds crate value stored aggregate events)
    (counts : ∀ event ∈ events, Counts event) (grouped : Grouped group)
    (fits : ∀ m, totalCount crate stored (events ++ group.2) m ≤ i64Max) {m : Measure}
    (other : m ≠ .unpricedRequests) :
    (aggregate.counted (usageGroupRow group)).count m = totalCount crate stored (events ++ group.2) m := by
  have added := adds.added counts grouped fits
  cases m with
  | requests =>
    have both : countOf group.2 StatsEventRow.succeeded + countOf group.2 StatsEventRow.failed =
        totalCount crate stored group.2 .requests := requests_eq group.2
    have requests : saturatingAddI64 (countOf group.2 StatsEventRow.succeeded)
        (countOf group.2 StatsEventRow.failed) = totalCount crate stored group.2 .requests := by
      rw [saturatingAddI64_of_fits (countOf_nonneg _ _) (countOf_nonneg _ _)]
      · exact both
      · rw [both]
        exact Adds.group_fits counts fits .requests
    exact (congrArg (saturatingAddI64 aggregate.requests) requests).trans (added .requests)
  | totalTokens =>
    rw [totalTokens_eq, ← added .inputTokens, ← added .outputTokens, ← added .cacheReadInputTokens,
      ← added .cacheCreationInputTokens]
    rfl
  | unpricedRequests => exact absurd rfl other
  | failed => exact added .failed
  | usageObservedRequests => exact added .usageObservedRequests
  | inputTokens => exact added .inputTokens
  | outputTokens => exact added .outputTokens
  | cacheReadInputTokens => exact added .cacheReadInputTokens
  | cacheCreationInputTokens => exact added .cacheCreationInputTokens
  | reasoningOutputTokens => exact added .reasoningOutputTokens

theorem count_congr {first second : MutableAggregate Decimal} (requests : first.requests = second.requests)
    (failed : first.failed = second.failed)
    (observed : first.usageObservedRequests = second.usageObservedRequests) (usage : first.usage = second.usage)
    {m : Measure} (other : m ≠ .unpricedRequests) : first.count m = second.count m := by
  cases m with
  | unpricedRequests => exact absurd rfl other
  | _ => simp only [MutableAggregate.count, requests, failed, observed, usage]

theorem Adds.addRow (exactly : crate.Exact value) (adds : Adds crate value stored aggregate events)
    (counts : ∀ event ∈ events, Counts event) (grouped : Grouped group)
    (fits : ∀ m, totalCount crate stored (events ++ group.2) m ≤ i64Max)
    (known : (rowPrice versions (usageGroupRow group)).map (·.card) =
      group.1.priceVersionId.bind (storedCard crate stored)) :
    ∃ next, addRow crate versions aggregate (usageGroupRow group) = some next ∧
      Adds crate value stored next (events ++ group.2) := by
  have counted := fun m => adds.counted counts grouped fits (m := m)
  rcases rowCost_cases exactly grouped (Adds.group_fits counts fits) known with
    ⟨missing, each⟩ | ⟨cost, found, costs⟩
  · let next : MutableAggregate Decimal := { aggregate.counted (usageGroupRow group) with
      unpricedRequests := saturatingAddI64 aggregate.unpricedRequests (countOf group.2 (·.usageObserved)) }
    have ran : Notification.addRow crate versions aggregate (usageGroupRow group) = some next := by
      simp only [Notification.addRow, MutableAggregate.add, missing]
      rfl
    refine ⟨next, ran, ?_, ?_, adds.sign⟩
    · intro m
      by_cases priced : m = .unpricedRequests
      · subst priced
        have observed := adds.added counts grouped fits .unpricedRequests
        rwa [unpriced_of_missing each] at observed
      · rw [← counted m priced]
        exact @count_congr _ next (aggregate.counted (usageGroupRow group)) rfl rfl rfl rfl m priced
    · rw [totalCost_append, totalCost_of_missing each, add_zero]
      exact adds.cost
  · obtain ⟨both, summed, bothSign, bothValue⟩ := exactly.add _ _ costs.inputSign costs.outputSign
    obtain ⟨total, summed', totalSign, totalValue⟩ := exactly.add _ _ adds.sign bothSign
    let next : MutableAggregate Decimal :=
      { aggregate.counted (usageGroupRow group) with estimatedCostUsd := total }
    have ran : Notification.addRow crate versions aggregate (usageGroupRow group) = some next := by
      simp only [Notification.addRow, MutableAggregate.add, found, summed, Option.bind_eq_bind, Option.bind_some,
        summed']
      rfl
    refine ⟨next, ran, ?_, ?_, totalSign⟩
    · intro m
      by_cases priced : m = .unpricedRequests
      · subst priced
        rw [totalCount_append, unpriced_of_cost costs.each, add_zero]
        exact adds.counts .unpricedRequests
      · rw [← counted m priced]
        exact @count_congr _ next (aggregate.counted (usageGroupRow group)) rfl rfl rfl rfl m priced
    · show value total = _
      rw [totalValue, bothValue, costs.usd, adds.cost, totalCost_append]

end Additions

structure Queried (crate : DecimalCrate Decimal) (stored : PriceTable) (versions : List (PriceVersion Decimal))
    (events : List StatsEventRow) (groups : List (UsageGroupKey × List StatsEventRow)) : Prop where
  grouped : ∀ group ∈ groups, Grouped group
  whole : (groups.flatMap (·.2)).Perm events
  known : ∀ group ∈ groups, (rowPrice versions (usageGroupRow group)).map (·.card) =
    group.1.priceVersionId.bind (storedCard crate stored)
  fits : ∀ m, totalCount crate stored events m ≤ i64Max

section Queries

variable {crate : DecimalCrate Decimal} {value : Decimal → ℚ} {stored : PriceTable}
  {versions : List (PriceVersion Decimal)} {groups part : List (UsageGroupKey × List StatsEventRow)}
  {events : List StatsEventRow}

theorem queried_of_aggregated {rows : List UsageGroupRow}
    (counts : ∀ event ∈ events, Counts event) (fits : ∀ m, totalCount crate stored events m ≤ i64Max)
    (perm : groups.Perm (groupRows usageGroupKey events)) (same : rows = groups.map usageGroupRow)
    (read : listPriceVersions crate stored (versionIds (rows.filterMap (·.priceVersionId))) = .ok versions) :
    Queried crate stored versions events groups where
  grouped := by
    intro group member
    obtain ⟨⟨event, there, keyed⟩, members⟩ := mem_groupRows.mp (perm.mem_iff.mp member)
    rw [← Prod.eta group, members]
    refine ⟨List.ne_nil_of_mem (mem_rowsOf.mpr ⟨there, keyed⟩), ?_, ?_⟩
    · intro other here
      exact (mem_rowsOf.mp here).2
    · intro other here
      exact counts other (mem_rowsOf.mp here).1
  whole := (perm.flatMap_right _).trans groupRows_perm
  known := by
    intro group member
    cases version : group.1.priceVersionId with
    | none => simp [rowPrice, usageGroupRow, version]
    | some id =>
      have asked : id ∈ versionIds (rows.filterMap (·.priceVersionId)) := by
        rw [mem_versionIds, same]
        exact List.mem_filterMap.mpr ⟨usageGroupRow group, List.mem_map_of_mem member, version⟩
      have found := findVersion_listed read id
      rw [if_pos asked] at found
      simpa [rowPrice, usageGroupRow, version] using found
  fits := fits

theorem Queried.part_fits (queried : Queried crate stored versions events groups) (sub : part.Sublist groups)
    (m : Measure) : totalCount crate stored (part.flatMap (·.2)) m ≤ i64Max := by
  have counts : ∀ event ∈ groups.flatMap (·.2), Counts event := by
    intro event there
    obtain ⟨group, member, here⟩ := List.mem_flatMap.mp there
    exact (queried.grouped group member).counts event here
  have below : totalCount crate stored (part.flatMap (·.2)) m ≤ totalCount crate stored (groups.flatMap (·.2)) m := by
    apply totalCount_le_of_sublist counts
    exact sub.flatMap _
  rw [totalCount_perm queried.whole] at below
  exact le_trans below (queried.fits m)

theorem Queried.fold (exactly : crate.Exact value) (queried : Queried crate stored versions events groups)
    (sub : part.Sublist groups) :
    ∃ aggregate, (part.map usageGroupRow).foldlM (addRow crate versions) (.default crate) = some aggregate ∧
      Adds crate value stored aggregate (part.flatMap (·.2)) := by
  induction part using List.reverseRecOn with
  | nil => exact ⟨_, rfl, Adds.default exactly⟩
  | append_singleton part group ih =>
    have before : part.Sublist groups := (List.sublist_append_left part [group]).trans sub
    have member : group ∈ groups := sub.subset (by simp)
    obtain ⟨aggregate, folded, adds⟩ := ih before
    have counts : ∀ event ∈ part.flatMap (·.2), Counts event := by
      intro event there
      obtain ⟨earlier, here, inside⟩ := List.mem_flatMap.mp there
      exact (queried.grouped earlier (before.subset here)).counts event inside
    have fits : ∀ m, totalCount crate stored (part.flatMap (·.2) ++ group.2) m ≤ i64Max := by
      intro m
      have whole := queried.part_fits sub m
      rwa [List.flatMap_append, List.flatMap_singleton] at whole
    obtain ⟨next, added, adds'⟩ :=
      adds.addRow exactly counts (queried.grouped group member) fits (queried.known group member)
    refine ⟨next, ?_, ?_⟩
    · rw [List.map_append, List.foldlM_append, folded]
      simp [added]
    · rw [List.flatMap_append, List.flatMap_singleton]
      exact adds'

variable {keyOf : UsageGroupRow → Option Int} {eventKey : StatsEventRow → Option Int} {id : Int}

theorem flatMap_filter_groups (agree : ∀ event members,
      keyOf (usageGroupRow (usageGroupKey event, members)) = eventKey event)
    (grouped : ∀ group ∈ groups, Grouped group) :
    (groups.filter fun group => decide (keyOf (usageGroupRow group) = some id)).flatMap (·.2) =
      keyedRows eventKey (groups.flatMap (·.2)) id := by
  rw [keyedRows, List.filter_flatMap]
  induction groups with
  | nil => rfl
  | cons group rest ih =>
    have first := grouped group (List.mem_cons_self ..)
    have keyed : ∀ event ∈ group.2, eventKey event = keyOf (usageGroupRow group) := by
      intro event there
      rw [← agree event group.2, first.keyed event there]
    rw [List.filter_cons, List.flatMap_cons, ← ih fun other there => grouped other (List.mem_cons_of_mem _ there)]
    by_cases here : keyOf (usageGroupRow group) = some id
    · have all : group.2.filter (fun event => decide (eventKey event = some id)) = group.2 := by
        rw [List.filter_eq_self]
        intro event there
        rw [keyed event there]
        exact decide_eq_true here
      rw [if_pos (decide_eq_true here), List.flatMap_cons, all]
    · have none : group.2.filter (fun event => decide (eventKey event = some id)) = [] := by
        rw [List.filter_eq_nil_iff]
        intro event there
        rw [keyed event there]
        simpa using here
      rw [if_neg (by simpa using here), none, List.nil_append]

theorem Queried.entry (exactly : crate.Exact value) (queried : Queried crate stored versions events groups)
    (agree : ∀ event members, keyOf (usageGroupRow (usageGroupKey event, members)) = eventKey event)
    {table : HashMap Int (MutableAggregate Decimal)}
    (tallied : Tallied (addRow crate versions) (.default crate) keyOf (groups.map usageGroupRow) table)
    {aggregate : MutableAggregate Decimal} (found : table.lookup id = some aggregate) :
    Adds crate value stored aggregate (keyedRows eventKey events id) := by
  have part : (groups.filter fun group => decide (keyOf (usageGroupRow group) = some id)).Sublist groups :=
    List.filter_sublist
  obtain ⟨same, folded, adds⟩ := queried.fold exactly part
  have tally := tallied.tally id
  rw [found, Option.getD_some, keyedRows, List.filter_map] at tally
  have equal : some same = some aggregate := folded.symm.trans tally
  cases equal
  rw [flatMap_filter_groups agree queried.grouped] at adds
  exact adds.of_perm (queried.whole.filter _)

theorem Tallied.occurs_iff {table : HashMap Int (MutableAggregate Decimal)}
    (queried : Queried crate stored versions events groups)
    (agree : ∀ event members, keyOf (usageGroupRow (usageGroupKey event, members)) = eventKey event)
    (tallied : Tallied (addRow crate versions) (.default crate) keyOf (groups.map usageGroupRow) table) :
    (table.lookup id).isSome = true ↔ keyedRows eventKey events id ≠ [] := by
  rw [tallied.occurs]
  have nonempty : keyedRows keyOf (groups.map usageGroupRow) id ≠ [] ↔
      keyedRows eventKey (groups.flatMap (·.2)) id ≠ [] := by
    rw [← flatMap_filter_groups agree queried.grouped, keyedRows, List.filter_map, Ne, List.map_eq_nil_iff, Ne,
      not_iff_not, List.flatMap_eq_nil_iff]
    constructor
    · intro none group there
      have inside : group ∈ groups.filter ((fun row => decide (keyOf row = some id)) ∘ usageGroupRow) := there
      rw [none] at inside
      cases inside
    · intro empty
      rw [List.eq_nil_iff_forall_not_mem]
      intro group there
      have some := (queried.grouped group (List.mem_of_mem_filter there)).nonempty
      exact some (empty group there)
  rw [nonempty]
  have perm : (keyedRows eventKey (groups.flatMap (·.2)) id).Perm (keyedRows eventKey events id) :=
    queried.whole.filter _
  rw [Ne, Ne, not_iff_not]
  constructor
  · intro none
    rw [none] at perm
    exact perm.symm.eq_nil
  · intro none
    rw [none] at perm
    exact perm.eq_nil

end Queries

structure Reports (crate : DecimalCrate Decimal) (value : Decimal → ℚ) (stored : PriceTable)
    (aggregate : UsageAggregate) (events : List StatsEventRow) : Prop where
  counts : ∀ m, aggregate.count m = totalCount crate stored events m
  cost : ∃ decimal, crate.fromStr aggregate.estimatedCostUsd = some decimal ∧
    crate.isSignNegative decimal = false ∧ value decimal = totalCost crate value stored events

structure Merges (crate : DecimalCrate Decimal) (value : Decimal → ℚ) (stored : PriceTable)
    (merged : UsageAggregate × Decimal) (events : List StatsEventRow) : Prop where
  counts : ∀ m, merged.1.count m = totalCount crate stored events m
  cost : value merged.2 = totalCost crate value stored events
  sign : crate.isSignNegative merged.2 = false

section Items

variable {crate : DecimalCrate Decimal} {cmp : Decimal → Decimal → Ordering} {value : Decimal → ℚ} {stored : PriceTable}
  {events others : List StatsEventRow}

theorem Adds.finish (faithful : crate.Faithful value) {aggregate : MutableAggregate Decimal}
    (adds : Adds crate value stored aggregate events) (counts : ∀ event ∈ events, Counts event)
    (fits : ∀ m, totalCount crate stored events m ≤ i64Max) :
    Reports crate value stored (aggregate.finish crate) events := by
  constructor
  · intro m
    have counted := adds.counts m
    cases m with
    | totalTokens =>
      have nonneg : ∀ m, 0 ≤ aggregate.count m := by
        intro m
        rw [adds.counts]
        exact totalCount_nonneg counts m
      have whole := fits .totalTokens
      rw [← adds.counts] at whole ⊢
      have input := nonneg .inputTokens
      have output := nonneg .outputTokens
      have cacheRead := nonneg .cacheReadInputTokens
      have cacheCreation := nonneg .cacheCreationInputTokens
      simp only [UsageAggregate.count, MutableAggregate.finish, MutableAggregate.count] at *
      rw [saturatingAddI64_of_fits input output (by omega), saturatingAddI64_of_fits (by omega) cacheRead (by omega),
        saturatingAddI64_of_fits (by omega) cacheCreation (by omega)]
    | _ => exact counted
  · obtain ⟨again, parsed, sign, same⟩ := faithful _ adds.sign
    exact ⟨again, parsed, sign, same.trans adds.cost⟩

theorem Merges.item (exactly : crate.Exact value) {merged : UsageAggregate × Decimal}
    (merges : Merges crate value stored merged events) (counts : ∀ event ∈ events, Counts event)
    {item : UsageDimension} (reports : Reports crate value stored item.aggregate others)
    (otherCounts : ∀ event ∈ others, Counts event)
    (fits : ∀ m, totalCount crate stored (events ++ others) m ≤ i64Max) :
    ∃ next, mergeItem crate merged item = some next ∧
      Merges crate value stored next (events ++ others) := by
  obtain ⟨decimal, parsed, sign, same⟩ := reports.cost
  obtain ⟨cost, added, costSign, costValue⟩ := exactly.add _ _ merges.sign sign
  have sums : ∀ m, saturatingAddI64 (merged.1.count m) (item.aggregate.count m) =
      totalCount crate stored (events ++ others) m := by
    intro m
    have whole := fits m
    rw [totalCount_append] at whole ⊢
    rw [merges.counts, reports.counts]
    exact saturatingAddI64_of_fits (totalCount_nonneg counts m) (totalCount_nonneg otherCounts m) whole
  have own : costOf crate item = decimal := by rw [costOf, parsed, Option.getD_some]
  refine ⟨(mergeCounts merged.1 item.aggregate, cost), ?_, ?_, ?_, costSign⟩
  · rw [mergeItem, own, added]
    rfl
  · intro m
    have same := sums m
    cases m <;> exact same
  · show value cost = _
    rw [costValue, merges.cost, same, totalCost_append]

theorem Merges.other (faithful : crate.Faithful value) {merged : UsageAggregate × Decimal}
    (merges : Merges crate value stored merged events) (locale : NotificationLocale) :
    Reports crate value stored (otherDimension crate locale merged).aggregate events := by
  constructor
  · intro m
    have same := merges.counts m
    cases m <;> exact same
  · obtain ⟨again, parsed, sign, same⟩ := faithful _ merges.sign
    exact ⟨again, parsed, sign, same.trans merges.cost⟩

theorem merges_foldlM (exactly : crate.Exact value) {own : Int → List StatsEventRow} {items : List UsageDimension}
    (reports : ∀ item ∈ items, Reports crate value stored item.aggregate (own item.id))
    (counts : ∀ id, ∀ event ∈ own id, Counts event)
    (fits : ∀ m, totalCount crate stored (items.flatMap fun item => own item.id) m ≤ i64Max) :
    ∃ merged, items.foldlM (mergeItem crate) ({}, crate.zero) = some merged ∧
      Merges crate value stored merged (items.flatMap fun item => own item.id) := by
  induction items using List.reverseRecOn with
  | nil =>
    obtain ⟨zero, isZero, sign, same⟩ := exactly.zero
    cases isZero
    refine ⟨_, rfl, ?_, same, sign⟩
    intro m
    cases m <;> rfl
  | append_singleton items item ih =>
    have allCounts : ∀ event ∈ items.flatMap fun item => own item.id, Counts event := by
      intro event there
      obtain ⟨earlier, -, inside⟩ := List.mem_flatMap.mp there
      exact counts earlier.id event inside
    simp only [List.flatMap_append, List.flatMap_singleton] at fits ⊢
    have before : ∀ m, totalCount crate stored (items.flatMap fun item => own item.id) m ≤ i64Max := by
      intro m
      have whole := fits m
      have later : 0 ≤ totalCount crate stored (own item.id) m := totalCount_nonneg (counts item.id) m
      rw [totalCount_append] at whole
      omega
    obtain ⟨merged, folded, merges⟩ := ih (fun other there => reports other (List.mem_append_left _ there)) before
    obtain ⟨next, added, merges'⟩ := merges.item exactly allCounts (reports item (by simp)) (counts item.id) fits
    refine ⟨next, ?_, merges'⟩
    rw [List.foldlM_append, folded]
    simp [added]

def reportedCost (crate : DecimalCrate Decimal) (value : Decimal → ℚ) (aggregate : UsageAggregate) : ℚ :=
  value ((crate.fromStr aggregate.estimatedCostUsd).getD crate.zero)

theorem Reports.reportedCost {aggregate : UsageAggregate}
    (reports : Reports crate value stored aggregate events) :
    reportedCost crate value aggregate = totalCost crate value stored events := by
  obtain ⟨decimal, parsed, -, same⟩ := reports.cost
  rw [Notification.reportedCost, parsed, Option.getD_some, same]

def Itemized (crate : DecimalCrate Decimal) (value : Decimal → ℚ) (stored : PriceTable)
    (eventKey : StatsEventRow → Option Int) (events : List StatsEventRow) (shown : List UsageDimension) : Prop :=
  ∃ items : List UsageDimension, (items.map (·.id)).Nodup ∧
    (∀ id, id ∈ items.map (·.id) ↔ keyedRows eventKey events id ≠ []) ∧
    (∀ item ∈ items, Reports crate value stored item.aggregate (keyedRows eventKey events item.id)) ∧
    (items.length ≤ maxWebhookDimensionItems ∧ shown = items ∨
      maxWebhookDimensionItems < items.length ∧ ∃ other : UsageDimension,
        shown = items.take (maxWebhookDimensionItems - 1) ++ [other] ∧
        Reports crate value stored other.aggregate
          ((items.drop (maxWebhookDimensionItems - 1)).flatMap fun item => keyedRows eventKey events item.id)) ∧
    (∀ m, (shown.map (·.aggregate.count m)).sum = (items.map (·.aggregate.count m)).sum) ∧
    (shown.map fun item => reportedCost crate value item.aggregate).sum =
      (items.map fun item => reportedCost crate value item.aggregate).sum

section Sums

variable {own : Int → List StatsEventRow} {items : List UsageDimension}

theorem counts_sum (reports : ∀ item ∈ items, Reports crate value stored item.aggregate (own item.id))
    (m : Measure) : (items.map (·.aggregate.count m)).sum =
      totalCount crate stored (items.flatMap fun item => own item.id) m := by
  induction items with
  | nil => rfl
  | cons item rest ih =>
    rw [List.map_cons, List.sum_cons, List.flatMap_cons, totalCount_append,
      ih fun other there => reports other (List.mem_cons_of_mem _ there),
      (reports item (List.mem_cons_self ..)).counts]

theorem costs_sum (reports : ∀ item ∈ items, Reports crate value stored item.aggregate (own item.id)) :
    (items.map fun item => reportedCost crate value item.aggregate).sum =
      totalCost crate value stored (items.flatMap fun item => own item.id) := by
  induction items with
  | nil => rfl
  | cons item rest ih =>
    rw [List.map_cons, List.sum_cons, List.flatMap_cons, totalCost_append,
      ih fun other there => reports other (List.mem_cons_of_mem _ there),
      (reports item (List.mem_cons_self ..)).reportedCost]

end Sums

variable {eventKey : StatsEventRow → Option Int} {items : List UsageDimension}

theorem keyedRows_perm (nodup : (items.map (·.id)).Nodup)
    (occurs : ∀ id, id ∈ items.map (·.id) ↔ keyedRows eventKey events id ≠ []) :
    (items.flatMap fun item => keyedRows eventKey events item.id).Perm
      (events.filter fun event => (eventKey event).isSome) := by
  have keys : ((items.map (·.id)).map some).Nodup := nodup.map (Option.some_injective Int)
  have all : ∀ event ∈ events.filter fun event => (eventKey event).isSome,
      eventKey event ∈ (items.map (·.id)).map some := by
    intro event there
    obtain ⟨member, keyed⟩ := List.mem_filter.mp there
    obtain ⟨id, here⟩ := Option.isSome_iff_exists.mp keyed
    rw [here]
    apply List.mem_map_of_mem
    rw [occurs]
    exact List.ne_nil_of_mem (List.mem_filter.mpr ⟨member, decide_eq_true here⟩)
  have spread := flatMap_rowsOf_perm keys all
  rw [List.map_map, List.flatMap_map] at spread
  have same : ∀ id, rowsOf eventKey (events.filter fun event => (eventKey event).isSome) (some id) =
      keyedRows eventKey events id := by
    intro id
    rw [rowsOf, List.filter_filter, keyedRows]
    apply List.filter_congr
    intro event _
    by_cases here : eventKey event = some id
    · simp [here]
    · simp [here]
  simpa only [Function.comp_def, same] using spread

theorem itemized_of_items (exactly : crate.Exact value) (faithful : crate.Faithful value)
    (counts : ∀ event ∈ events, Counts event)
    (fits : ∀ m, totalCount crate stored events m ≤ i64Max) (nodup : (items.map (·.id)).Nodup)
    (occurs : ∀ id, id ∈ items.map (·.id) ↔ keyedRows eventKey events id ≠ [])
    (reports : ∀ item ∈ items,
      Reports crate value stored item.aggregate (keyedRows eventKey events item.id))
    (locale : NotificationLocale) :
    ∃ shown cut, truncateDimensions crate locale items = some (shown, cut) ∧
      Itemized crate value stored eventKey events shown := by
  by_cases few : items.length ≤ maxWebhookDimensionItems
  · exact ⟨items, false, if_pos few, items, nodup, occurs, reports, .inl ⟨few, rfl⟩, fun _ => rfl, rfl⟩
  · have keyedCounts : ∀ id, ∀ event ∈ keyedRows eventKey events id, Counts event := by
      intro id event there
      exact counts event (List.mem_of_mem_filter there)
    have allCounts : ∀ event ∈ items.flatMap fun item => keyedRows eventKey events item.id, Counts event := by
      intro event there
      obtain ⟨item, -, inside⟩ := List.mem_flatMap.mp there
      exact keyedCounts item.id event inside
    have restFits : ∀ m, totalCount crate stored
        ((items.drop (maxWebhookDimensionItems - 1)).flatMap fun item => keyedRows eventKey events item.id) m ≤
          i64Max := by
      intro m
      have part : totalCount crate stored _ m ≤ totalCount crate stored _ m :=
        totalCount_le_of_sublist allCounts ((List.drop_sublist (maxWebhookDimensionItems - 1) items).flatMap _) m
      rw [totalCount_perm (keyedRows_perm nodup occurs)] at part
      exact part.trans ((totalCount_le_of_sublist counts List.filter_sublist m).trans (fits m))
    have restReports : ∀ item ∈ items.drop (maxWebhookDimensionItems - 1),
        Reports crate value stored item.aggregate (keyedRows eventKey events item.id) :=
      fun item there => reports item (List.mem_of_mem_drop there)
    have firstReports : ∀ item ∈ items.take (maxWebhookDimensionItems - 1),
        Reports crate value stored item.aggregate (keyedRows eventKey events item.id) :=
      fun item there => reports item (List.mem_of_mem_take there)
    obtain ⟨merged, folded, merges⟩ := merges_foldlM exactly restReports keyedCounts restFits
    have other := merges.other faithful locale
    have split : items.flatMap (fun item => keyedRows eventKey events item.id) =
        (items.take (maxWebhookDimensionItems - 1)).flatMap (fun item => keyedRows eventKey events item.id) ++
          (items.drop (maxWebhookDimensionItems - 1)).flatMap fun item => keyedRows eventKey events item.id := by
      rw [← List.flatMap_append, List.take_append_drop]
    refine ⟨_, true, ?_, items, nodup, occurs, reports, .inr ⟨not_le.mp few, _, rfl, other⟩, ?_, ?_⟩
    · rw [truncateDimensions, if_neg few, folded]
      rfl
    · intro m
      rw [List.map_append, List.sum_append, counts_sum firstReports, counts_sum reports, split, totalCount_append,
        List.map_singleton, List.sum_singleton, other.counts]
    · rw [List.map_append, List.sum_append, costs_sum firstReports, costs_sum reports, split, totalCost_append,
        List.map_singleton, List.sum_singleton, other.reportedCost]

theorem itemized_of_table (cmp : Decimal → Decimal → Ordering) (exactly : crate.Exact value) (faithful : crate.Faithful value)
    (counts : ∀ event ∈ events, Counts event) {versions : List (PriceVersion Decimal)}
    {groups : List (UsageGroupKey × List StatsEventRow)}
    (queried : Queried crate stored versions events groups) {keyOf : UsageGroupRow → Option Int}
    (agree : ∀ event members, keyOf (usageGroupRow (usageGroupKey event, members)) = eventKey event)
    {table : HashMap Int (MutableAggregate Decimal)}
    (tallied : Tallied (addRow crate versions) (.default crate) keyOf
      (groups.map usageGroupRow) table) (kind : String) (names : HashMap Int String) (locale : NotificationLocale) :
    ∃ shown cut,
      truncateDimensions crate locale (sortDimensions crate cmp (dimensions crate kind names table)) =
        some (shown, cut) ∧
      Itemized crate value stored eventKey events shown := by
  have perm : (sortDimensions crate cmp (dimensions crate kind names table)).Perm (dimensions crate kind names table) :=
    List.mergeSort_perm _ _
  have ids := perm.map (·.id)
  rw [dimensions_ids] at ids
  apply itemized_of_items exactly faithful counts queried.fits
  · exact ids.nodup_iff.mpr table.keys_nodup
  · intro id
    rw [ids.mem_iff, ← AList.mem_keys, ← AList.lookup_isSome]
    exact Tallied.occurs_iff queried agree tallied
  · intro item member
    obtain ⟨aggregate, found, same⟩ := mem_dimensions (perm.mem_iff.mp member)
    have adds := queried.entry exactly agree tallied found
    rw [same]
    apply adds.finish faithful
    · intro event there
      exact counts event (List.mem_of_mem_filter there)
    · intro m
      exact (totalCount_le_of_sublist counts List.filter_sublist m).trans (queried.fits m)

theorem Itemized.sums {shown : List UsageDimension}
    (itemized : Itemized crate value stored eventKey events shown)
    (all : ∀ event, (eventKey event).isSome = true) :
    (∀ m, (shown.map (·.aggregate.count m)).sum = totalCount crate stored events m) ∧
      (shown.map fun item => reportedCost crate value item.aggregate).sum =
        totalCost crate value stored events := by
  obtain ⟨items, nodup, occurs, reports, -, kept, keptCost⟩ := itemized
  have perm := keyedRows_perm nodup occurs
  rw [List.filter_eq_self.mpr fun event _ => all event] at perm
  constructor
  · intro m
    rw [kept, counts_sum reports, totalCount_perm perm]
  · rw [keptCost, costs_sum reports, totalCost_perm perm]

theorem Queried.aggregates (exactly : crate.Exact value) {versions : List (PriceVersion Decimal)}
    {groups : List (UsageGroupKey × List StatsEventRow)} (queried : Queried crate stored versions events groups) :
    ∃ aggregates, aggregateRows crate versions (groups.map usageGroupRow) = some aggregates ∧
      Adds crate value stored aggregates.totals events := by
  have sums : ∀ part : List UsageGroupRow, part.Sublist (groups.map usageGroupRow) →
      (part.foldlM (addRow crate versions) (.default crate)).isSome = true := by
    intro part sub
    obtain ⟨some, inside, rfl⟩ := List.sublist_map_iff.mp sub
    obtain ⟨aggregate, folded, -⟩ := queried.fold exactly inside
    rw [folded, Option.isSome_some]
  obtain ⟨aggregates, ran⟩ := aggregateRows_exists sums
  obtain ⟨totals, folded, adds⟩ := queried.fold exactly (List.Sublist.refl groups)
  have equal : some totals = some aggregates.totals := folded.symm.trans (aggregated_of_rows ran).totals
  cases equal
  exact ⟨aggregates, ran, adds.of_perm queried.whole⟩

/-- A report has the costs and the counts of its events, in its totals and in its items. -/
theorem buildPayload_sums (exactly : crate.Exact value) (faithful : crate.Faithful value)
    (counts : ∀ event ∈ events, Counts event) {fromMs toMs : Int}
    (fits : ∀ m, totalCount crate stored (reportEvents events fromMs toMs) m ≤ i64Max)
    {rows : List UsageGroupRow} (queried : AggregatedUsage events fromMs toMs rows) (locale : NotificationLocale)
    (state : ReportState) {result : Option NotificationPayload}
    (built : buildPayload crate cmp locale stored state fromMs rows = .ok result) :
    ∃ payload, result = some payload ∧
      Reports crate value stored payload.usage.totals (reportEvents events fromMs toMs) ∧
      Itemized crate value stored (·.providerId) (reportEvents events fromMs toMs)
        payload.usage.providers ∧
      Itemized crate value stored (fun event => some event.apiKeyId)
        (reportEvents events fromMs toMs) payload.usage.clientKeys ∧
      (∀ m, (payload.usage.clientKeys.map (·.aggregate.count m)).sum = payload.usage.totals.count m) ∧
      (payload.usage.clientKeys.map fun item => reportedCost crate value item.aggregate).sum =
        reportedCost crate value payload.usage.totals := by
  obtain ⟨versions, read, built⟩ := bind_eq_ok.mp built
  obtain ⟨groups, perm, same⟩ := queried
  have within : ∀ event ∈ reportEvents events fromMs toMs, Counts event :=
    fun event there => counts event (List.mem_of_mem_filter there)
  have facts := queried_of_aggregated within fits perm same read
  obtain ⟨aggregates, ran, adds⟩ := facts.aggregates exactly
  have aggregated := aggregated_of_rows ran
  have providerKeys : ∀ (event : StatsEventRow) (members : List StatsEventRow),
      (usageGroupRow (usageGroupKey event, members)).providerId = event.providerId := fun _ _ => rfl
  have clientKeys : ∀ (event : StatsEventRow) (members : List StatsEventRow),
      clientKeyOf (usageGroupRow (usageGroupKey event, members)) = some event.apiKeyId := fun _ _ => rfl
  obtain ⟨providers, cutProviders, providersCut, byProvider⟩ :=
    itemized_of_table cmp exactly faithful within facts providerKeys aggregated.byProvider "Provider"
      state.providerNames locale
  obtain ⟨shownKeys, cutClientKeys, clientKeysCut, byClientKey⟩ :=
    itemized_of_table cmp exactly faithful within facts clientKeys aggregated.byClientKey "Key"
      state.apiKeyNames locale
  have whole := adds.finish faithful within fits
  have sums := byClientKey.sums fun _ => rfl
  rw [← same] at ran
  simp only [ran, usagePayload, providersCut, clientKeysCut, Option.bind_eq_bind, Option.bind_some] at built
  cases built
  refine ⟨_, rfl, whole, byProvider, byClientKey, ?_, ?_⟩
  · intro m
    rw [whole.counts]
    exact sums.1 m
  · rw [whole.reportedCost]
    exact sums.2

end Items

theorem pricedRequest_reported :
    ∃ payload, buildPayload plainCrate byValue .enUs ownPrices quietState 0 pricedRows = .ok (some payload) ∧
      reportedCost plainCrate PlainDecimal.value payload.usage.totals = 1 / 50000 ∧
      payload.usage.totals.unpricedRequests = 0 := by
  have counts : ∀ event ∈ [pricedRequest], Counts event := by
    intro event there
    rw [List.mem_singleton.mp there]
    exact ⟨by decide, by decide, by decide, by decide, by decide⟩
  have fits : ∀ m, totalCount plainCrate ownPrices (reportEvents [pricedRequest] 0 9) m ≤ i64Max := by
    intro m
    cases m <;> decide +kernel
  obtain ⟨payload, same, totals, -⟩ := buildPayload_sums plainCrate_exact plainCrate_faithful counts fits pricedRows_queried
    .enUs quietState (bind_eq_ok.mpr ⟨_, pricedRows_read, rfl⟩)
  refine ⟨payload, ?_, ?_, ?_⟩
  · rw [← same]
    exact bind_eq_ok.mpr ⟨_, pricedRows_read, rfl⟩
  · have cost := totals.reportedCost
    rw [cost]
    decide +kernel
  · have unpriced := totals.counts .unpricedRequests
    refine Eq.trans unpriced ?_
    decide +kernel

end CodexGate.Notification
