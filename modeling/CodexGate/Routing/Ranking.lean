import CodexGate.Foundation.Sampling
import CodexGate.Health.Model
import CodexGate.Types
import Mathlib

namespace CodexGate.Routing

open Foundation Health

def i32Max : Int := 2 ^ 31 - 1

/-- `+` on `i32`, which panics when the sum does not fit. -/
def checkedAddI32 (left right : Int) : Option Int :=
  if -2 ^ 31 ≤ left + right ∧ left + right ≤ i32Max then some (left + right) else none

def sumI32 (weights : List Int) : Option Int := weights.foldlM checkedAddI32 0

/-- The place of the first weight that the offset lies below; without one, the first place. -/
def pickIndex : Int → Nat → List Int → Option Nat
  | _, _, [] => some 0
  | offset, index, weight :: rest =>
    if offset < weight then some index
    else do
      let offset ← checkedAddI32 offset (-weight)
      pickIndex offset (index + 1) rest

section Weighted

variable {α : Type} (draws : Draws) (count : Nat)

def weightsOf (items : List (α × I32)) : List Int := items.map fun item => max item.2.val 0

def chooseWeighted (items : List (α × I32)) : Option Nat := do
  let totalWeight ← sumI32 (weightsOf items)
  if totalWeight ≤ 0 then draws.below count items.length
  else
    let offset ← draws.below count totalWeight.toNat
    pickIndex offset 0 (weightsOf items)

def settledEmpty (items : List (α × I32)) : Option (List (α × I32)) :=
  if items.isEmpty then some [] else none

def weightedOrderPairs (items : List (α × I32)) : Option (List α × Nat) := do
  let (out, count) ← drain settledEmpty (chooseWeighted draws) items.length count items
  return (out.map (·.1), count)

end Weighted

structure Described where
  enabled : Bool
  priority : I32
  weight : I32
  state : CircuitState
  available : Bool

section Rank

variable {α : Type} (draws : Draws) (describe : α → Described)

def place (item : α) : Int := (describe item).priority.val

def weighted (items : List α) : List (α × I32) := items.map fun item => (item, (describe item).weight)

def orderByPriorityWeightRefs (count : Nat) (items : List α) : Option (List α × Nat) :=
  let enabled := items.filter fun item => (describe item).enabled
  peel (place describe) (fun count group => weightedOrderPairs draws count (weighted describe group))
    enabled.length count enabled

/-- Whether an item is available, with a circuit in the given state. -/
def stands (state : CircuitState) (item : α) : Bool :=
  (describe item).available && decide ((describe item).state = state)

def rankGroup (count : Nat) (group : List α) : Option (List α × Nat) := do
  let (closed, count) ←
    weightedOrderPairs draws count (weighted describe (group.filter (stands describe .closed)))
  let (halfOpen, count) ←
    weightedOrderPairs draws count (weighted describe (group.filter (stands describe .halfOpen)))
  return (closed ++ halfOpen, count)

def rankByPriorityAndHealth (items : List α) : Option (List α) := do
  let (prioritized, count) ← orderByPriorityWeightRefs draws describe 0 items
  let (out, _) ← runs (place describe) (rankGroup draws describe) prioritized.length count prioritized
  return out

end Rank

structure SelectorKey extends UpstreamKey where
  priority : I32
  weight : I32

def describeKey (health : RuntimeHealthBook) (nowMs : Int) (key : SelectorKey) : Described :=
  let snapshot := health.snapshot key.id nowMs
  ⟨key.enabled, key.priority, key.weight, snapshot.state, snapshot.available⟩

def rankKeyRefsWithHealth (draws : Draws) (items : List SelectorKey) (health : RuntimeHealthBook)
    (nowMs : Int) : Option (List SelectorKey) :=
  rankByPriorityAndHealth draws (describeKey health nowMs) items

section Weights

variable {weights : List Int} {offset total : Int}

theorem foldlM_checkedAddI32 (nonneg : ∀ weight ∈ weights, 0 ≤ weight) (low : 0 ≤ total)
    (fits : total ≤ i32Max) : weights.foldlM checkedAddI32 total =
      if total + weights.sum ≤ i32Max then some (total + weights.sum) else none := by
  induction weights generalizing total with
  | nil =>
    rw [List.foldlM_nil, List.sum_nil, add_zero, if_pos fits]
    rfl
  | cons weight rest ih =>
    have here := nonneg weight (.head _)
    have others := fun other member => nonneg other (.tail _ member)
    have more : 0 ≤ rest.sum := List.sum_nonneg others
    rw [List.foldlM_cons, List.sum_cons, ← add_assoc]
    by_cases sum : total + weight ≤ i32Max
    · have added : checkedAddI32 total weight = some (total + weight) :=
        if_pos ⟨by omega, sum⟩
      rw [added]
      exact ih others (by omega) sum
    · have overflow : checkedAddI32 total weight = none := if_neg fun both => sum both.2
      rw [overflow, if_neg (by omega)]
      rfl

theorem sumI32_eq (nonneg : ∀ weight ∈ weights, 0 ≤ weight) :
    sumI32 weights = if weights.sum ≤ i32Max then some weights.sum else none := by
  unfold sumI32
  rw [foldlM_checkedAddI32 nonneg (le_refl 0) (by decide), zero_add]

theorem pickIndex_lt (nonneg : ∀ weight ∈ weights, 0 ≤ weight) (low : 0 ≤ offset)
    (high : offset < weights.sum) (fits : offset ≤ i32Max) (index : Nat) :
    ∃ picked < index + weights.length, pickIndex offset index weights = some picked := by
  induction weights generalizing offset index with
  | nil => exact absurd (low.trans_lt high) (lt_irrefl 0)
  | cons weight rest ih =>
    have here := nonneg weight (.head _)
    rw [List.sum_cons] at high
    unfold pickIndex
    by_cases below : offset < weight
    · rw [if_pos below]
      exact ⟨index, Nat.lt_add_of_pos_right (Nat.succ_pos _), rfl⟩
    · have left : checkedAddI32 offset (-weight) = some (offset + -weight) :=
        if_pos ⟨by omega, by omega⟩
      have others := fun other member => nonneg other (.tail _ member)
      obtain ⟨picked, inside, found⟩ :=
        @ih (offset + -weight) others (by omega) (by omega) (by omega) (index + 1)
      rw [if_neg below, left]
      refine ⟨picked, ?_, found⟩
      rw [List.length_cons]
      omega

end Weights

section Weighted

variable {α : Type} {draws : Draws} {count : Nat} {items : List (α × I32)}

theorem weightsOf_nonneg (items : List (α × I32)) : ∀ weight ∈ weightsOf items, 0 ≤ weight := by
  intro weight member
  obtain ⟨item, -, rfl⟩ := List.mem_map.mp member
  exact le_max_right _ _

theorem chooseWeighted_lt (some_ : items ≠ []) (fits : (weightsOf items).sum ≤ i32Max) :
    ∃ index < items.length, chooseWeighted draws count items = some index := by
  have sum : sumI32 (weightsOf items) = some (weightsOf items).sum := by
    rw [sumI32_eq (weightsOf_nonneg items), if_pos fits]
  unfold chooseWeighted
  rw [sum]
  by_cases zero : (weightsOf items).sum ≤ 0
  · obtain ⟨index, inside, drawn⟩ := draws.below_eq_some count (List.length_pos_of_ne_nil some_)
    refine ⟨index, inside, ?_⟩
    simp only [Option.bind_eq_bind, Option.bind_some, if_pos zero]
    exact drawn
  · have positive : 0 < (weightsOf items).sum.toNat := by omega
    obtain ⟨offset, below, drawn⟩ := draws.below_eq_some count positive
    have under : (offset : Int) < (weightsOf items).sum := by omega
    obtain ⟨index, inside, picked⟩ := pickIndex_lt (weightsOf_nonneg items)
      (Int.natCast_nonneg offset) under (under.le.trans fits) 0
    refine ⟨index, ?_, ?_⟩
    · unfold weightsOf at inside
      rwa [List.length_map, zero_add] at inside
    · simp only [Option.bind_eq_bind, Option.bind_some, if_neg zero, drawn]
      exact picked

theorem weightsOf_perm {other : List (α × I32)} (perm : items.Perm other) :
    (weightsOf items).sum = (weightsOf other).sum :=
  (perm.map _).sum_eq

theorem weightsOf_cons (item : α × I32) (rest : List (α × I32)) :
    (weightsOf (item :: rest)).sum = max item.2.val 0 + (weightsOf rest).sum := List.sum_cons

theorem weightedOrderPairs_isSome_iff :
    (weightedOrderPairs draws count items).isSome = true ↔ (weightsOf items).sum ≤ i32Max := by
  constructor
  · intro ordered
    by_contra overflow
    have sum : sumI32 (weightsOf items) = none := by
      rw [sumI32_eq (weightsOf_nonneg items), if_neg overflow]
    have panics : chooseWeighted draws count items = none := by
      unfold chooseWeighted
      rw [sum]
      rfl
    cases items with
    | nil =>
      have fits : 0 ≤ i32Max := by decide
      exact overflow fits
    | cons item rest =>
      unfold weightedOrderPairs drain at ordered
      rw [panics] at ordered
      cases ordered
  · intro fits
    have drained : (drain settledEmpty (chooseWeighted draws) items.length count items).isSome =
        true := by
      refine drain_isSome (P := fun items => (weightsOf items).sum ≤ i32Max) rfl ?_ ?_ fits (le_refl _)
      · intro items item rest fits perm
        rw [← weightsOf_perm perm, weightsOf_cons] at fits
        omega
      · intro count items fits goes
        refine chooseWeighted_lt (fun none => ?_) fits
        rw [none] at goes
        cases goes
    obtain ⟨⟨out, after⟩, same⟩ := Option.isSome_iff_exists.mp drained
    unfold weightedOrderPairs
    rw [same]
    rfl

theorem weightedOrderPairs_perm {out : List α} {after : Nat}
    (ordered : weightedOrderPairs draws count items = some (out, after)) :
    out.Perm (items.map (·.1)) := by
  unfold weightedOrderPairs at ordered
  simp only [Option.bind_eq_bind, Option.bind_eq_some_iff, Prod.exists] at ordered
  obtain ⟨pairs, count', drained, same⟩ := ordered
  cases same
  refine (drain_perm (fun items tail settles => ?_) drained).map _
  unfold settledEmpty at settles
  split at settles
  · rename_i empty
    cases settles
    rw [List.isEmpty_iff.mp empty]
  · cases settles

end Weighted

section Rank

variable {α : Type} {draws : Draws} {describe : α → Described} {count after : Nat}
  {items group out : List α}

theorem weighted_items (items : List α) : (weighted describe items).map (·.1) = items := by
  unfold weighted
  rw [List.map_map]
  exact List.map_id _

def positiveWeight (describe : α → Described) (items : List α) : Int :=
  (weightsOf (weighted describe items)).sum

theorem positiveWeight_perm (perm : items.Perm out) :
    positiveWeight describe items = positiveWeight describe out :=
  weightsOf_perm (perm.map _)

theorem positiveWeight_filter_le (keep : α → Bool) (items : List α) :
    positiveWeight describe (items.filter keep) ≤ positiveWeight describe items :=
  ((List.filter_sublist.map _).map _).sum_le_sum (weightsOf_nonneg _)

theorem weightedOrder_perm
    (ordered : weightedOrderPairs draws count (weighted describe group) = some (out, after)) :
    out.Perm group := by
  have perm := weightedOrderPairs_perm ordered
  rwa [weighted_items] at perm

def enabledItems (describe : α → Described) (items : List α) : List α :=
  items.filter fun item => (describe item).enabled

/-- For each priority the positive weights of the enabled items fit together. -/
def Fits (describe : α → Described) (items : List α) : Prop :=
  ∀ priority,
    positiveWeight describe ((enabledItems describe items).filter (place describe · = priority)) ≤
      i32Max

theorem order_peeled
    (ordered : orderByPriorityWeightRefs draws describe count items = some (out, after)) :
    Peeled (place describe) (fun _ => true)
      (fun count group => weightedOrderPairs draws count (weighted describe group))
      (enabledItems describe items) out := by
  refine peel_peeled (fun count group first after arranged => ?_) ordered
  rw [List.filter_true]
  exact weightedOrder_perm arranged

theorem orderByPriorityWeightRefs_isSome_iff :
    (orderByPriorityWeightRefs draws describe count items).isSome = true ↔ Fits describe items := by
  constructor
  · intro ordered priority
    obtain ⟨⟨out, after⟩, ordered⟩ := Option.isSome_iff_exists.mp ordered
    rcases group : (enabledItems describe items).filter (place describe · = priority) with
      _ | ⟨first, rest⟩
    · show (0 : Int) ≤ i32Max
      decide
    · have member : first ∈ (enabledItems describe items).filter (place describe · = priority) := by
        rw [group]
        exact .head _
      obtain ⟨inside, same⟩ := List.mem_filter.mp member
      obtain ⟨count', after', arranged⟩ := (order_peeled ordered).groups first inside
      rw [of_decide_eq_true same, group] at arranged
      exact weightedOrderPairs_isSome_iff.mp (Option.isSome_iff_exists.mpr ⟨_, arranged⟩)
  · intro fits
    refine peel_isSome (fun count item _ => ?_) (le_refl _)
    exact weightedOrderPairs_isSome_iff.mpr (fits (place describe item))

def ready (describe : α → Described) (item : α) : Bool :=
  stands describe .closed item || stands describe .halfOpen item

theorem stands_iff {state : CircuitState} {item : α} : stands describe state item = true ↔
    (describe item).available = true ∧ (describe item).state = state := by
  unfold stands
  rw [Bool.and_eq_true, decide_eq_true_iff]

theorem ready_perm (group : List α) :
    (group.filter (stands describe .closed) ++ group.filter (stands describe .halfOpen)).Perm
      (group.filter (ready describe)) := by
  have parts := List.filter_append_perm (stands describe .closed) (group.filter (ready describe))
  rw [List.filter_filter, List.filter_filter] at parts
  have closed : group.filter (fun item => stands describe .closed item && ready describe item) =
      group.filter (stands describe .closed) :=
    List.filter_congr fun item _ => by
      unfold ready
      cases stands describe .closed item <;> rfl
  have halfOpen : group.filter (fun item => !stands describe .closed item && ready describe item) =
      group.filter (stands describe .halfOpen) := by
    refine List.filter_congr fun item _ => ?_
    unfold ready
    rcases open_ : stands describe .halfOpen item with _ | _
    · cases stands describe .closed item <;> rfl
    · have other : stands describe .closed item = false := by
        rw [← Bool.not_eq_true, stands_iff, (stands_iff.mp open_).2]
        rintro ⟨-, same⟩
        cases same
      rw [other]
      rfl
  rw [closed, halfOpen] at parts
  exact parts

theorem rankGroup_cases (ranked : rankGroup draws describe count group = some (out, after)) :
    ∃ closed halfOpen, out = closed ++ halfOpen ∧
      closed.Perm (group.filter (stands describe .closed)) ∧
      halfOpen.Perm (group.filter (stands describe .halfOpen)) := by
  unfold rankGroup at ranked
  simp only [Option.bind_eq_bind, Option.bind_eq_some_iff, Prod.exists] at ranked
  obtain ⟨closed, middle, first, halfOpen, after', second, same⟩ := ranked
  cases same
  exact ⟨closed, halfOpen, rfl, weightedOrder_perm first, weightedOrder_perm second⟩

theorem rankGroup_isSome (fits : positiveWeight describe group ≤ i32Max) :
    (rankGroup draws describe count group).isSome = true := by
  have part : ∀ keep count, (weightedOrderPairs draws count
      (weighted describe (group.filter keep))).isSome = true := fun keep count =>
    weightedOrderPairs_isSome_iff.mpr ((positiveWeight_filter_le keep group).trans fits)
  obtain ⟨⟨closed, middle⟩, first⟩ := Option.isSome_iff_exists.mp (part (stands describe .closed) count)
  obtain ⟨⟨halfOpen, after⟩, second⟩ :=
    Option.isSome_iff_exists.mp (part (stands describe .halfOpen) middle)
  unfold rankGroup
  rw [first]
  simp only [Option.bind_eq_bind, Option.bind_some, second]
  rfl

def ClosedFirst (describe : α → Described) (left right : α) : Prop :=
  (describe right).state = .closed → (describe left).state = .closed

theorem rankGroup_closedFirst (ranked : rankGroup draws describe count group = some (out, after)) :
    out.Pairwise (ClosedFirst describe) := by
  obtain ⟨closed, halfOpen, rfl, first, second⟩ := rankGroup_cases ranked
  have shut : ∀ item ∈ closed, (describe item).state = .closed := by
    intro item member
    exact (stands_iff.mp (List.mem_filter.mp (first.mem_iff.mp member)).2).2
  have ajar : ∀ item ∈ halfOpen, (describe item).state = .halfOpen := by
    intro item member
    exact (stands_iff.mp (List.mem_filter.mp (second.mem_iff.mp member)).2).2
  refine List.pairwise_append.mpr ⟨?_, ?_, fun left inClosed _ _ _ => shut left inClosed⟩
  · exact List.pairwise_of_forall_mem_list fun left inside _ _ _ => shut left inside
  · refine List.pairwise_of_forall_mem_list fun _ _ right inside closed => ?_
    rw [ajar right inside] at closed
    cases closed

/-- The enabled and available items, in the order of their priorities and closed before half open. -/
structure Ranking (describe : α → Described) (items ranked : List α) : Prop where
  perm : ranked.Perm (items.filter fun item => (describe item).enabled && (describe item).available)
  priority : ranked.Pairwise fun left right =>
    (describe left).priority.val ≤ (describe right).priority.val
  health : ranked.Pairwise fun left right =>
    (describe left).priority.val = (describe right).priority.val → ClosedFirst describe left right

theorem enabled_ready (shut : ∀ item, (describe item).available = true →
      (describe item).state ≠ .opened) (items : List α) :
    (enabledItems describe items).filter (ready describe) =
      items.filter fun item => (describe item).enabled && (describe item).available := by
  unfold enabledItems
  rw [List.filter_filter]
  refine List.filter_congr fun item _ => ?_
  have same : ready describe item = (describe item).available := by
    unfold ready stands
    rcases available : (describe item).available with _ | _
    · rfl
    · rcases state : (describe item).state with _ | _ | _
      · rfl
      · exact absurd state (shut item available)
      · rfl
  rw [same, Bool.and_comm]

theorem rankByPriorityAndHealth_ranking (shut : ∀ item, (describe item).available = true →
      (describe item).state ≠ .opened)
    (ranked : rankByPriorityAndHealth draws describe items = some out) :
    Ranking describe items out := by
  unfold rankByPriorityAndHealth at ranked
  simp only [Option.bind_eq_bind, Option.bind_eq_some_iff, Prod.exists] at ranked
  obtain ⟨prioritized, middle, ordered, out', after, runs, same⟩ := ranked
  cases same
  have first := order_peeled ordered
  rw [runs_eq_peel _ first.sorted] at runs
  have second := peel_peeled (fun count group first after arranged => by
    obtain ⟨closed, halfOpen, rfl, left, right⟩ := rankGroup_cases arranged
    exact (left.append right).trans (ready_perm group)) runs
  have perm := first.perm
  rw [List.filter_true] at perm
  refine ⟨?_, second.sorted, pairwise_of_groups fun item member => ?_⟩
  · rw [← enabled_ready shut]
    exact second.perm.trans (perm.filter _)
  · have inside := (List.mem_filter.mp (second.perm.mem_iff.mp member)).1
    obtain ⟨count, after', arranged⟩ := second.groups item inside
    exact rankGroup_closedFirst arranged

theorem rankByPriorityAndHealth_isSome_iff :
    (rankByPriorityAndHealth draws describe items).isSome = true ↔ Fits describe items := by
  constructor
  · intro ranked
    obtain ⟨out, ranked⟩ := Option.isSome_iff_exists.mp ranked
    unfold rankByPriorityAndHealth at ranked
    simp only [Option.bind_eq_bind, Option.bind_eq_some_iff, Prod.exists] at ranked
    obtain ⟨prioritized, middle, ordered, -⟩ := ranked
    exact orderByPriorityWeightRefs_isSome_iff.mp (Option.isSome_iff_exists.mpr ⟨_, ordered⟩)
  · intro fits
    obtain ⟨⟨prioritized, middle⟩, ordered⟩ :=
      Option.isSome_iff_exists.mp (orderByPriorityWeightRefs_isSome_iff.mpr fits)
    have first := order_peeled ordered
    have perm := first.perm
    rw [List.filter_true] at perm
    have peeled : (peel (place describe) (rankGroup draws describe) prioritized.length middle
        prioritized).isSome = true := by
      refine peel_isSome (fun count item _ => rankGroup_isSome ?_) (le_refl _)
      rw [positiveWeight_perm (perm.filter _)]
      exact fits (place describe item)
    rw [← runs_eq_peel _ first.sorted] at peeled
    obtain ⟨⟨out, after⟩, runs⟩ := Option.isSome_iff_exists.mp peeled
    unfold rankByPriorityAndHealth
    rw [ordered]
    simp only [Option.bind_eq_bind, Option.bind_some, runs]
    rfl

end Rank

section Keys

theorem snapshot_available (health : RuntimeHealthBook) (id nowMs : Int)
    (available : (health.snapshot id nowMs).available = true) :
    (health.snapshot id nowMs).state ≠ .opened := by
  unfold RuntimeHealthBook.snapshot at available ⊢
  split at available
  · exact fun opened => by cases opened
  · rename_i state found
    intro opened
    change state.stateKind nowMs = .opened at opened
    unfold RuntimeHealthState.toView at available
    simp only [opened] at available
    cases available

def enabledWeight (items : List SelectorKey) (priority : I32) : Int :=
  ((items.filter fun key => key.enabled && decide (key.priority.val = priority.val)).map fun key =>
    max key.weight.val 0).sum

theorem fits_iff (health : RuntimeHealthBook) (nowMs : Int) (items : List SelectorKey) :
    Fits (describeKey health nowMs) items ↔ ∀ priority, enabledWeight items priority ≤ i32Max := by
  have same : ∀ priority : I32, positiveWeight (describeKey health nowMs)
      ((enabledItems (describeKey health nowMs) items).filter
        (place (describeKey health nowMs) · = priority.val)) = enabledWeight items priority := by
    intro priority
    unfold positiveWeight enabledItems enabledWeight weightsOf weighted
    rw [List.map_map, List.filter_filter]
    have group : items.filter (fun key => decide (place (describeKey health nowMs) key = priority.val) &&
        (describeKey health nowMs key).enabled) =
        items.filter fun key => key.enabled && decide (key.priority.val = priority.val) := by
      refine List.filter_congr fun key _ => ?_
      rw [Bool.and_comm]
      rfl
    rw [group]
    rfl
  constructor
  · intro fits priority
    rw [← same priority]
    exact fits priority.val
  · intro fits priority
    rcases group : (enabledItems (describeKey health nowMs) items).filter
      (place (describeKey health nowMs) · = priority) with _ | ⟨first, rest⟩
    · show (0 : Int) ≤ i32Max
      decide
    · have member : first ∈ (enabledItems (describeKey health nowMs) items).filter
          (place (describeKey health nowMs) · = priority) := by
        rw [group]
        exact .head _
      have here : first.priority.val = priority := of_decide_eq_true (List.mem_filter.mp member).2
      rw [← group, ← here, same first.priority]
      exact fits first.priority

/-- For every outcome of the choices: the keys are ranked, and ranked as they should be, exactly when
the positive weights of the enabled keys of each priority fit into an `i32` together. -/
theorem rankKeyRefsWithHealth_ranks_iff (draws : Draws) (items : List SelectorKey)
    (health : RuntimeHealthBook) (nowMs : Int) :
    (∃ ranked, rankKeyRefsWithHealth draws items health nowMs = some ranked ∧
      Ranking (describeKey health nowMs) items ranked) ↔
    ∀ priority, enabledWeight items priority ≤ i32Max := by
  rw [← fits_iff health nowMs items, ← @rankByPriorityAndHealth_isSome_iff _ draws,
    Option.isSome_iff_exists]
  have shut := fun key : SelectorKey => snapshot_available health key.id nowMs
  constructor
  · rintro ⟨ranked, found, -⟩
    exact ⟨ranked, found⟩
  · rintro ⟨ranked, found⟩
    exact ⟨ranked, found, rankByPriorityAndHealth_ranking shut found⟩

def heavyKey (id : Int) : SelectorKey := ⟨⟨id, 1, true⟩, i32 0, i32 (2 ^ 31 - 1)⟩

/-- Two keys of the greatest weight cannot be ranked. -/
theorem heavyKeys_unranked : ¬ ∃ ranked,
    rankKeyRefsWithHealth .least [heavyKey 1, heavyKey 2] ⟨3, 1000, 0.5, ∅⟩ 0 = some ranked ∧
    Ranking (describeKey ⟨3, 1000, 0.5, ∅⟩ 0) [heavyKey 1, heavyKey 2] ranked := by
  rintro ⟨ranked, found, -⟩
  have fits := (fits_iff ⟨3, 1000, 0.5, ∅⟩ 0 [heavyKey 1, heavyKey 2]).mp
    (rankByPriorityAndHealth_isSome_iff.mp (Option.isSome_iff_exists.mpr ⟨ranked, found⟩))
  exact absurd (fits (i32 0)) (by decide)

end Keys

end CodexGate.Routing
