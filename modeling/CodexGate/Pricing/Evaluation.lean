import CodexGate.Foundation.Rounding
import CodexGate.Pricing.CardCodec
import Mathlib.Tactic.NormNum

namespace CodexGate.Pricing

open Foundation

variable {Decimal : Type}

structure PriceVersion (Decimal : Type) where
  id : Int
  card : PriceCard Decimal

structure PricedCost (Decimal : Type) where
  inputUsd : Decimal
  outputUsd : Decimal

inductive PricingStatus
  | priced
  | unpriced
  | usageMissing
  deriving DecidableEq

structure PricingEvaluation (Decimal : Type) where
  tierIndex : Option Int
  cost : Option (PricedCost Decimal)
  status : PricingStatus

def PricingEvaluation.usageMissing : PricingEvaluation Decimal := ⟨none, none, .usageMissing⟩

/-- What a computation comes to that returns an `Option` unless it aborts. -/
inductive Outcome (α : Type)
  | aborted
  | missing
  | found (value : α)

namespace Outcome

instance : Monad Outcome where
  pure := found
  bind first next :=
    match first with
    | aborted => aborted
    | missing => missing
    | found value => next value

variable {α β : Type}

@[simp] theorem aborted_bind (next : α → Outcome β) : aborted >>= next = aborted := rfl

@[simp] theorem missing_bind (next : α → Outcome β) : missing >>= next = missing := rfl

@[simp] theorem found_bind (value : α) (next : α → Outcome β) : found value >>= next = next value := rfl

def orAbort : Option α → Outcome α
  | some value => .found value
  | none => .aborted

def orMissing : Option α → Outcome α
  | some value => .found value
  | none => .missing

@[simp] theorem orAbort_some (value : α) : orAbort (some value) = .found value := rfl

@[simp] theorem orMissing_some (value : α) : orMissing (some value) = .found value := rfl

end Outcome

section Computation

variable (crate : DecimalCrate Decimal)

def componentCost (tokens : Int) (rate : Option Decimal) : Outcome Decimal :=
  let tokens := max tokens 0
  if tokens = 0 then pure crate.zero
  else do
    let rate ← .orMissing rate
    let product ← .orAbort (crate.mul (crate.ofI64 tokens) rate)
    .orAbort (crate.div product (crate.ofI64 tokensPerMillion))

def PriceCard.costForUsage (card : PriceCard Decimal) (usage : Usage) (tierIndex : Int) :
    Outcome (PricedCost Decimal) := do
  let rates ← .orMissing (card.ratesForTier tierIndex)
  let input ← componentCost crate usage.inputTokens rates.input
  let cacheRead ← componentCost crate usage.cacheReadInputTokens rates.cacheRead
  let inputUsd ← .orAbort (crate.add input cacheRead)
  let cacheWrite ← componentCost crate usage.cacheCreationInputTokens rates.cacheWrite
  let inputUsd ← .orAbort (crate.add inputUsd cacheWrite)
  let outputUsd ← componentCost crate usage.outputTokens rates.output
  pure ⟨inputUsd, outputUsd⟩

def evaluatePrice (usage : Usage) (usageObserved : Bool) (price : Option (PriceVersion Decimal)) :
    Option (PricingEvaluation Decimal) :=
  if !usageObserved then some .usageMissing
  else
    match price with
    | none => some ⟨none, none, .unpriced⟩
    | some price =>
      let tierIndex := price.card.tierIndexForUsage usage
      match price.card.costForUsage crate usage tierIndex with
      | .aborted => none
      | .missing => some ⟨some tierIndex, none, .unpriced⟩
      | .found cost => some ⟨some tierIndex, some cost, .priced⟩

end Computation

def maxDecimal : ℚ := 79228162514264337593543950335

def decimalLimit : ℚ := maxDecimal + 1 / 2

def decimalPrecision : ℚ := 1 / 10000000000000000000000000000

/-- What the decimals are relied on for: an operation rounds, and it aborts if that leaves no decimal. -/
structure DecimalCrate.Rounds (crate : DecimalCrate Decimal) (value : Decimal → ℚ) : Prop where
  zero : value crate.zero = 0
  ofI64 : ∀ n : Int, 0 ≤ n → n ≤ i64Max → value (crate.ofI64 n) = n
  positive : ∀ d, crate.isSignNegative d = false → 0 ≤ value d
  bounded : ∀ d, value d ≤ maxDecimal
  mul : ∀ a b, 0 ≤ value a → 0 ≤ value b →
    Rounded value decimalLimit decimalPrecision (crate.mul a b) (value a * value b)
  add : ∀ a b, 0 ≤ value a → 0 ≤ value b →
    Rounded value decimalLimit decimalPrecision (crate.add a b) (value a + value b)
  div : ∀ a b, 0 ≤ value a → 0 < value b →
    Rounded value decimalLimit decimalPrecision (crate.div a b) (value a / value b)

section Costs

variable {crate : DecimalCrate Decimal} {value : Decimal → ℚ}

def pricedTokens (tokens : Int) : ℚ := ((max tokens 0 : Int) : ℚ)

def exactCost (value : Decimal → ℚ) (tokens : Int) (rate : Option Decimal) : ℚ :=
  pricedTokens tokens * (rate.map value).getD 0 / 1000000

structure Priced (value : Decimal → ℚ) (tokens : Int) (rate : Option Decimal) (cost : Decimal) : Prop where
  within : Within decimalPrecision 3 (value cost) (exactCost value tokens rate)
  small : value cost ≤ 200000000000000000000000

theorem decimalPrecision_nonneg : 0 ≤ decimalPrecision := by
  norm_num [decimalPrecision]

theorem pricedTokens_nonneg (tokens : Int) : 0 ≤ pricedTokens tokens := by
  unfold pricedTokens
  exact_mod_cast le_max_right tokens 0

theorem componentCost_free (rounds : crate.Rounds value) {tokens : Int} (free : tokens ≤ 0)
    (rate : Option Decimal) :
    componentCost crate tokens rate = .found crate.zero ∧ Priced value tokens rate crate.zero := by
  have none_priced : max tokens 0 = 0 := by omega
  have exact_zero : exactCost value tokens rate = 0 := by
    simp [exactCost, pricedTokens, none_priced]
  refine ⟨if_pos none_priced, ?_, ?_⟩
  · rw [rounds.zero, exact_zero]
    exact Within.self decimalPrecision_nonneg (by norm_num) le_rfl
  · rw [rounds.zero]
    norm_num

theorem componentCost_missing {tokens : Int} (asked : 0 < tokens) :
    componentCost crate tokens none = .missing :=
  if_neg (by omega)

theorem componentCost_fits (rounds : crate.Rounds value) {tokens : Int} (asked : 0 < tokens)
    (counted : tokens ≤ i64Max) {rate : Decimal} (positive : 0 ≤ value rate)
    (fits : pricedTokens tokens * value rate < decimalLimit) :
    ∃ cost, componentCost crate tokens (some rate) = .found cost ∧ Priced value tokens (some rate) cost := by
  have tokens_value : value (crate.ofI64 (max tokens 0)) = pricedTokens tokens :=
    rounds.ofI64 _ (by omega) (by omega)
  have million : value (crate.ofI64 tokensPerMillion) = 1000000 := by
    rw [rounds.ofI64 _ (by decide) (by decide)]
    norm_num [tokensPerMillion]
  have tokens_nonneg := pricedTokens_nonneg tokens
  have multiplied := rounds.mul (crate.ofI64 (max tokens 0)) rate (by rw [tokens_value]; exact tokens_nonneg) positive
  rw [tokens_value] at multiplied
  obtain ⟨product, isProduct, near⟩ := multiplied.exists_of_lt fits
  have divided := rounds.div product (crate.ofI64 tokensPerMillion) near.positive (by rw [million]; norm_num)
  rw [million] at divided
  have bounded := rounds.bounded product
  obtain ⟨cost, isCost, near_cost⟩ := divided.exists_of_lt (by
    unfold decimalLimit
    unfold maxDecimal at *
    linarith)
  refine ⟨cost, ?_, ?_, ?_⟩
  · rw [componentCost, if_neg (by omega)]
    show (Outcome.orAbort (crate.mul (crate.ofI64 (max tokens 0)) rate) >>= fun product =>
      Outcome.orAbort (crate.div product (crate.ofI64 tokensPerMillion))) = .found cost
    rw [isProduct]
    show Outcome.orAbort (crate.div product (crate.ofI64 tokensPerMillion)) = .found cost
    rw [isCost]
    rfl
  · have within := near.div (by norm_num) decimalPrecision_nonneg (by norm_num)
      (by norm_num [decimalPrecision]) near_cost
    norm_num at within
    exact within
  · have most := near_cost.le (by norm_num [decimalPrecision])
    have least : max 1 (value product / 1000000) ≤ maxDecimal / 1000000 := by
      refine max_le (by norm_num [maxDecimal]) ?_
      linarith
    unfold maxDecimal at *
    linarith

theorem componentCost_overflows (rounds : crate.Rounds value) {tokens : Int} (asked : 0 < tokens)
    (counted : tokens ≤ i64Max) {rate : Decimal} (positive : 0 ≤ value rate)
    (past : decimalLimit ≤ pricedTokens tokens * value rate) :
    componentCost crate tokens (some rate) = .aborted := by
  have tokens_value : value (crate.ofI64 (max tokens 0)) = pricedTokens tokens :=
    rounds.ofI64 _ (by omega) (by omega)
  have multiplied := rounds.mul (crate.ofI64 (max tokens 0)) rate
    (by rw [tokens_value]; exact pricedTokens_nonneg tokens) positive
  rw [tokens_value] at multiplied
  have overflow := multiplied.none_iff.mpr past
  rw [componentCost, if_neg (by omega)]
  show (Outcome.orAbort (crate.mul (crate.ofI64 (max tokens 0)) rate) >>= fun product =>
    Outcome.orAbort (crate.div product (crate.ofI64 tokensPerMillion))) = .aborted
  rw [overflow]
  rfl

/-- No product overflows, in the order of the components up to one whose rate is missing. -/
def ProductsFit (value : Decimal → ℚ) : List (Int × Option Decimal) → Prop
  | [] => True
  | (tokens, none) :: rest => 0 < tokens ∨ ProductsFit value rest
  | (tokens, some rate) :: rest =>
    pricedTokens tokens * value rate < decimalLimit ∧ ProductsFit value rest

inductive Component (crate : DecimalCrate Decimal) (value : Decimal → ℚ) (tokens : Int)
    (rate : Option Decimal) : Prop
  | aborted (comes : componentCost crate tokens rate = .aborted)
      (past : ∀ rest, ¬ ProductsFit value ((tokens, rate) :: rest))
  | missing (comes : componentCost crate tokens rate = .missing) (asked : 0 < tokens) (none_there : rate = none)
      (fits : ∀ rest, ProductsFit value ((tokens, rate) :: rest))
  | priced (cost : Decimal) (comes : componentCost crate tokens rate = .found cost)
      (priced : Priced value tokens rate cost)
      (fits : ∀ rest, ProductsFit value ((tokens, rate) :: rest) ↔ ProductsFit value rest)

theorem component (rounds : crate.Rounds value) {tokens : Int} (counted : tokens ≤ i64Max)
    {rate : Option Decimal} (valid : ∀ found, rate = some found → crate.isSignNegative found = false) :
    Component crate value tokens rate := by
  by_cases asked : 0 < tokens
  · cases rate with
    | none => exact .missing (componentCost_missing asked) asked rfl fun rest => .inl asked
    | some rate =>
      have positive := rounds.positive rate (valid rate rfl)
      by_cases fits : pricedTokens tokens * value rate < decimalLimit
      · obtain ⟨cost, comes, priced⟩ := componentCost_fits rounds asked counted positive fits
        exact .priced cost comes priced fun rest => and_iff_right fits
      · exact .aborted (componentCost_overflows rounds asked counted positive (not_lt.mp fits))
          fun rest all => fits all.1
  · obtain ⟨comes, priced⟩ := componentCost_free rounds (not_lt.mp asked) rate
    refine .priced crate.zero comes priced fun rest => ?_
    cases rate with
    | none => exact or_iff_right asked
    | some rate =>
      have free : pricedTokens tokens * value rate = 0 := by
        simp [pricedTokens, max_eq_right (not_lt.mp asked)]
      refine and_iff_right ?_
      rw [free]
      norm_num [decimalLimit, maxDecimal]

theorem add_small (rounds : crate.Rounds value) {a b : Decimal} (a_nonneg : 0 ≤ value a)
    (b_nonneg : 0 ≤ value b) (small : value a + value b ≤ 1000000000000000000000000) :
    ∃ sum, crate.add a b = some sum ∧ Within decimalPrecision 1 (value sum) (value a + value b) := by
  refine (rounds.add a b a_nonneg b_nonneg).exists_of_lt ?_
  norm_num [decimalLimit, maxDecimal]
  linarith

section Sums

variable {tokens tokens' : Int} {rate rate' : Option Decimal} {cost cost' : Decimal}

theorem add_priced (rounds : crate.Rounds value) (priced : Priced value tokens rate cost)
    (priced' : Priced value tokens' rate' cost') (exact_nonneg : 0 ≤ exactCost value tokens rate)
    (exact_nonneg' : 0 ≤ exactCost value tokens' rate') :
    ∃ sum, crate.add cost cost' = some sum ∧
      Within decimalPrecision 8 (value sum) (exactCost value tokens rate + exactCost value tokens' rate') ∧
      value sum ≤ 800000000000000000000000 := by
  have small := priced.small
  have small' := priced'.small
  obtain ⟨sum, summed, near⟩ := add_small rounds priced.within.positive priced'.within.positive (by linarith)
  have within := priced.within.add exact_nonneg exact_nonneg' priced'.within decimalPrecision_nonneg
    (by norm_num) (by norm_num) (by norm_num [decimalPrecision]) near
  norm_num at within
  have doubled := near.le (by norm_num [decimalPrecision])
  have least : max 1 (value cost + value cost') ≤ 400000000000000000000000 :=
    max_le (by norm_num) (by linarith)
  exact ⟨sum, summed, within, by linarith⟩

theorem add_summed (rounds : crate.Rounds value) {sum : Decimal} {exact : ℚ}
    (within : Within decimalPrecision 8 (value sum) exact) (small : value sum ≤ 800000000000000000000000)
    (priced : Priced value tokens rate cost) (exact_nonneg : 0 ≤ exact)
    (exact_nonneg' : 0 ≤ exactCost value tokens rate) :
    ∃ total, crate.add sum cost = some total ∧
      Within decimalPrecision 13 (value total) (exact + exactCost value tokens rate) := by
  have small' := priced.small
  obtain ⟨total, totaled, near⟩ := add_small rounds within.positive priced.within.positive (by linarith)
  have both := within.add exact_nonneg exact_nonneg' priced.within decimalPrecision_nonneg
    (by norm_num) (by norm_num) (by norm_num [decimalPrecision]) near
  norm_num at both
  exact ⟨total, totaled, both⟩

end Sums

theorem exactCost_nonneg {tokens : Int} {rate : Option Decimal}
    (positive : ∀ found, rate = some found → 0 ≤ value found) : 0 ≤ exactCost value tokens rate := by
  have tokens_nonneg := pricedTokens_nonneg tokens
  have rate_nonneg : 0 ≤ (rate.map value).getD 0 := by
    cases rate with
    | none => exact le_rfl
    | some found => exact positive found rfl
  unfold exactCost
  positivity

def components (usage : Usage) (rates : PriceRates Decimal) : List (Int × Option Decimal) :=
  [(usage.inputTokens, rates.input), (usage.cacheReadInputTokens, rates.cacheRead),
    (usage.cacheCreationInputTokens, rates.cacheWrite), (usage.outputTokens, rates.output)]

def exactInput (value : Decimal → ℚ) (usage : Usage) (rates : PriceRates Decimal) : ℚ :=
  exactCost value usage.inputTokens rates.input + exactCost value usage.cacheReadInputTokens rates.cacheRead +
    exactCost value usage.cacheCreationInputTokens rates.cacheWrite

structure CountsFit (usage : Usage) : Prop where
  input : usage.inputTokens ≤ i64Max
  cacheRead : usage.cacheReadInputTokens ≤ i64Max
  cacheCreation : usage.cacheCreationInputTokens ≤ i64Max
  output : usage.outputTokens ≤ i64Max

theorem costForUsage_eq {card : PriceCard Decimal} {tierIndex : Int} {rates : PriceRates Decimal}
    (chosen : card.ratesForTier tierIndex = some rates) (usage : Usage) :
    card.costForUsage crate usage tierIndex = (do
      let input ← componentCost crate usage.inputTokens rates.input
      let cacheRead ← componentCost crate usage.cacheReadInputTokens rates.cacheRead
      let inputUsd ← .orAbort (crate.add input cacheRead)
      let cacheWrite ← componentCost crate usage.cacheCreationInputTokens rates.cacheWrite
      let inputUsd ← .orAbort (crate.add inputUsd cacheWrite)
      let outputUsd ← componentCost crate usage.outputTokens rates.output
      pure ⟨inputUsd, outputUsd⟩) := by
  rw [PriceCard.costForUsage, chosen]
  rfl

inductive Costed (value : Decimal → ℚ) (usage : Usage) (rates : PriceRates Decimal) :
    Outcome (PricedCost Decimal) → Prop
  | aborted (past : ¬ ProductsFit value (components usage rates)) : Costed value usage rates .aborted
  | missing (fits : ProductsFit value (components usage rates)) {needed : Int × Option Decimal}
      (there : needed ∈ components usage rates) (asked : 0 < needed.1) (none_there : needed.2 = none) :
      Costed value usage rates .missing
  | found (fits : ProductsFit value (components usage rates)) {cost : PricedCost Decimal}
      (input : Within decimalPrecision 13 (value cost.inputUsd) (exactInput value usage rates))
      (output : Within decimalPrecision 3 (value cost.outputUsd)
        (exactCost value usage.outputTokens rates.output)) :
      Costed value usage rates (.found cost)

theorem costForUsage_costed (rounds : crate.Rounds value) {card : PriceCard Decimal} {tierIndex : Int}
    {rates : PriceRates Decimal} (chosen : card.ratesForTier tierIndex = some rates)
    (valid : rates.Valid crate) {usage : Usage} (counts : CountsFit usage) :
    Costed value usage rates (card.costForUsage crate usage tierIndex) := by
  rw [costForUsage_eq chosen]
  have exact_nonneg : ∀ (tokens : Int) {rate : Option Decimal},
      (∀ found, rate = some found → crate.isSignNegative found = false) →
      0 ≤ exactCost value tokens rate := fun tokens rate positive =>
    exactCost_nonneg fun found there => rounds.positive found (positive found there)
  cases component rounds counts.input valid.input with
  | aborted comes past =>
    rw [comes, Outcome.aborted_bind]
    exact .aborted (past _)
  | missing comes asked none_there fits =>
    rw [comes, Outcome.missing_bind]
    exact .missing (fits _) (.head _) asked none_there
  | priced input comes inputPriced inputFits =>
    rw [comes, Outcome.found_bind]
    cases component rounds counts.cacheRead valid.cacheRead with
    | aborted comes past =>
      rw [comes, Outcome.aborted_bind]
      exact .aborted fun all => past _ ((inputFits _).mp all)
    | missing comes asked none_there fits =>
      rw [comes, Outcome.missing_bind]
      exact .missing ((inputFits _).mpr (fits _)) (.tail _ (.head _)) asked none_there
    | priced cacheRead comes cacheReadPriced cacheReadFits =>
      rw [comes, Outcome.found_bind]
      obtain ⟨sum, summed, sumWithin, sumSmall⟩ := add_priced rounds inputPriced cacheReadPriced
        (exact_nonneg _ valid.input) (exact_nonneg _ valid.cacheRead)
      rw [summed, Outcome.orAbort_some, Outcome.found_bind]
      cases component rounds counts.cacheCreation valid.cacheWrite with
      | aborted comes past =>
        rw [comes, Outcome.aborted_bind]
        exact .aborted fun all => past _ ((cacheReadFits _).mp ((inputFits _).mp all))
      | missing comes asked none_there fits =>
        rw [comes, Outcome.missing_bind]
        exact .missing ((inputFits _).mpr ((cacheReadFits _).mpr (fits _)))
          (.tail _ (.tail _ (.head _))) asked none_there
      | priced cacheWrite comes cacheWritePriced cacheWriteFits =>
        obtain ⟨total, totaled, totalWithin⟩ := add_summed rounds sumWithin sumSmall cacheWritePriced
          (add_nonneg (exact_nonneg _ valid.input) (exact_nonneg _ valid.cacheRead))
          (exact_nonneg _ valid.cacheWrite)
        rw [comes, Outcome.found_bind, totaled, Outcome.orAbort_some, Outcome.found_bind]
        cases component rounds counts.output valid.output with
        | aborted comes past =>
          rw [comes, Outcome.aborted_bind]
          exact .aborted fun all =>
            past _ ((cacheWriteFits _).mp ((cacheReadFits _).mp ((inputFits _).mp all)))
        | missing comes asked none_there fits =>
          rw [comes, Outcome.missing_bind]
          exact .missing ((inputFits _).mpr ((cacheReadFits _).mpr ((cacheWriteFits _).mpr (fits _))))
            (.tail _ (.tail _ (.tail _ (.head _)))) asked none_there
        | priced output comes outputPriced outputFits =>
          rw [comes, Outcome.found_bind]
          exact .found ((inputFits _).mpr ((cacheReadFits _).mpr ((cacheWriteFits _).mpr
            ((outputFits _).mpr trivial)))) totalWithin outputPriced.within

/-- The number of the tier is the last one whose threshold is below the total. -/
def PriceCard.Highest (card : PriceCard Decimal) (usage : Usage) (number : Int) : Prop :=
  0 ≤ number ∧ ∀ (index : Nat) tier, card.tiers[index]? = some tier →
    (tier.overTotalInputTokens < totalInputTokens usage ↔ (index : Int) < number)

/-- What an evaluation is to give: the highest tier, and the cost at its rates if none is missing. -/
def Evaluated (crate : DecimalCrate Decimal) (value : Decimal → ℚ) (price : PriceVersion Decimal)
    (usage : Usage) : Prop :=
  ∃ evaluation, evaluatePrice crate usage true (some price) = some evaluation ∧
    ∃ number rates, evaluation.tierIndex = some number ∧ price.card.Highest usage number ∧
      price.card.ratesForTier number = some rates ∧
      ((∀ needed ∈ components usage rates, 0 < needed.1 → needed.2.isSome = true) →
        ∃ cost, evaluation.cost = some cost ∧
          Within decimalPrecision 13 (value cost.inputUsd) (exactInput value usage rates) ∧
          Within decimalPrecision 3 (value cost.outputUsd) (exactCost value usage.outputTokens rates.output))

/-- The total is above no tier without a number, and no product overflows. -/
structure Evaluable (value : Decimal → ℚ) (card : PriceCard Decimal) (usage : Usage) : Prop where
  numbered : ∀ tier, card.tiers[tierLimit]? = some tier → totalInputTokens usage ≤ tier.overTotalInputTokens
  fits : ProductsFit value (components usage (card.chosenRates usage))

theorem highest_of_numbered {card : PriceCard Decimal} (valid : card.Valid crate) {usage : Usage}
    (unreached : ∀ tier, card.tiers[tierLimit]? = some tier →
      totalInputTokens usage ≤ tier.overTotalInputTokens) :
    card.Highest usage (card.tierIndexForUsage usage) := by
  cases last : card.tiersBelow usage with
  | none =>
    rw [PriceCard.tierIndexForUsage_none last]
    refine ⟨le_rfl, fun index tier here => iff_of_false (fun below => ?_) (by omega)⟩
    have fails := rposition_eq_none_iff.mp last tier (List.mem_of_getElem? here)
    rw [decide_eq_true below] at fails
    cases fails
  | some place =>
    obtain ⟨found, there, reached⟩ := PriceCard.overThreshold_of_tiersBelow last
    rw [PriceCard.tierIndexForUsage_numbered last (PriceCard.tiersBelow_lt valid unreached last)]
    refine ⟨by omega, fun index tier here => ⟨fun below => ?_, fun before => ?_⟩⟩
    · by_contra after
      have fails := (rposition_eq_some last).2 index tier (by omega) here
      rw [decide_eq_true below] at fails
      cases fails
    · rcases Nat.lt_or_ge index place with earlier | later
      · exact (valid.tiers.lt here there earlier).trans reached
      · obtain rfl : index = place := by omega
        rw [here] at there
        cases there
        exact reached

theorem tierIndexForUsage_le (card : PriceCard Decimal) (usage : Usage) :
    card.tierIndexForUsage usage ≤ tierLimit := by
  cases last : card.tiersBelow usage with
  | none =>
    rw [PriceCard.tierIndexForUsage_none last]
    exact Int.natCast_nonneg _
  | some index =>
    have below := Int.bmod_lt (x := wrapI32 index + 1) (m := 2 ^ 32) (by decide)
    rw [PriceCard.tierIndexForUsage_some last, tierNumber, wrapI32]
    unfold tierLimit
    omega

theorem chosenRates_valid {card : PriceCard Decimal} (valid : card.Valid crate) (usage : Usage) :
    (card.chosenRates usage).Valid crate := by
  unfold PriceCard.chosenRates
  split
  · rename_i tier here
    obtain ⟨index, -, there⟩ := Option.bind_eq_some_iff.mp here
    exact (valid.tiers.get there).2.2.2
  · exact valid.base

theorem evaluatePrice_eq_some {price : PriceVersion Decimal} {usage : Usage}
    {evaluation : PricingEvaluation Decimal} :
    evaluatePrice crate usage true (some price) = some evaluation ↔
      evaluation.tierIndex = some (price.card.tierIndexForUsage usage) ∧
        match price.card.costForUsage crate usage (price.card.tierIndexForUsage usage) with
        | .aborted => False
        | .missing => evaluation.cost = none ∧ evaluation.status = .unpriced
        | .found cost => evaluation.cost = some cost ∧ evaluation.status = .priced := by
  obtain ⟨tierIndex, cost, status⟩ := evaluation
  rw [evaluatePrice, if_neg (by decide)]
  dsimp only
  cases price.card.costForUsage crate usage (price.card.tierIndexForUsage usage) with
  | aborted => simp
  | missing => simp [eq_comm]
  | found cost => simp [eq_comm]

/-- A price is evaluated as it is to be exactly if the tier has a number and no product overflows. -/
theorem evaluated_iff (rounds : crate.Rounds value) {json : Json} {card : PriceCard Decimal}
    (read : PriceCard.fromJson crate json = .ok card) (id : Int) {usage : Usage} (counts : CountsFit usage) :
    Evaluated crate value ⟨id, card⟩ usage ↔ Evaluable value card usage := by
  have valid := PriceCard.fromJson_valid read
  have rates_valid := chosenRates_valid valid usage
  constructor
  · rintro ⟨evaluation, evaluated, number, rates, at_number, highest, -, -⟩
    obtain ⟨at_index, computed⟩ := evaluatePrice_eq_some.mp evaluated
    obtain rfl : card.tierIndexForUsage usage = number := Option.some.inj (at_index.symm.trans at_number)
    have numbered : ∀ tier, card.tiers[tierLimit]? = some tier →
        totalInputTokens usage ≤ tier.overTotalInputTokens := by
      intro tier here
      by_contra below
      have counted := (highest.2 tierLimit tier here).mp (not_le.mp below)
      exact absurd counted (not_lt.mpr (tierIndexForUsage_le card usage))
    refine ⟨numbered, ?_⟩
    have costed := costForUsage_costed rounds (PriceCard.ratesForTier_chosen valid numbered) rates_valid counts
    generalize card.costForUsage crate usage (card.tierIndexForUsage usage) = outcome at costed computed
    cases costed with
    | aborted past => exact computed.elim
    | missing fits => exact fits
    | found fits => exact fits
  · intro evaluable
    have chosen := PriceCard.ratesForTier_chosen valid evaluable.numbered
    have highest := highest_of_numbered valid evaluable.numbered
    have costed := costForUsage_costed rounds chosen rates_valid counts
    cases computed : card.costForUsage crate usage (card.tierIndexForUsage usage) with
    | aborted =>
      rw [computed] at costed
      cases costed with
      | aborted past => exact absurd evaluable.fits past
    | missing =>
      rw [computed] at costed
      cases costed with
      | missing fits there asked none_there =>
        refine ⟨⟨some (card.tierIndexForUsage usage), none, .unpriced⟩,
          evaluatePrice_eq_some.mpr ⟨rfl, ?_⟩, _, _, rfl, highest, chosen, fun present => ?_⟩
        · rw [computed]
          exact ⟨rfl, rfl⟩
        · have rated := present _ there asked
          rw [none_there] at rated
          cases rated
    | found cost =>
      rw [computed] at costed
      cases costed with
      | found fits input output =>
        refine ⟨⟨some (card.tierIndexForUsage usage), some cost, .priced⟩,
          evaluatePrice_eq_some.mpr ⟨rfl, ?_⟩, _, _, rfl, highest, chosen, fun present => ?_⟩
        · rw [computed]
          exact ⟨rfl, rfl⟩
        · exact ⟨cost, rfl, input, output⟩

end Costs

abbrev Bounded := { x : ℚ // 0 ≤ x ∧ x ≤ maxDecimal }

def nearest (x : ℚ) : Bounded :=
  ⟨max 0 (min x maxDecimal), le_max_left _ _, max_le (by norm_num [maxDecimal]) (min_le_right _ _)⟩

def fitting (x : ℚ) : Option Bounded := if x < decimalLimit then some (nearest x) else none

def ratCrate : DecimalCrate Bounded where
  zero := nearest 0
  ofI64 := fun n => nearest n
  isSignNegative := fun _ => false
  fromStr := fun text => (parseDigits text.toList).bind fun n => fitting n
  normalized := fun rate => String.ofList (Nat.toDigits 10 rate.val.num.toNat)
  mul := fun a b => fitting (a.val * b.val)
  add := fun a b => fitting (a.val + b.val)
  div := fun a b => fitting (a.val / b.val)

theorem nearest_of_le {x : ℚ} (positive : 0 ≤ x) (fits : x ≤ maxDecimal) : (nearest x).val = x := by
  show max 0 (min x maxDecimal) = x
  rw [min_eq_left fits, max_eq_right positive]

theorem fitting_rounded {x : ℚ} (positive : 0 ≤ x) :
    Rounded Subtype.val decimalLimit decimalPrecision (fitting x) x := by
  unfold fitting
  split
  · rename_i fits
    refine ⟨fits, (nearest x).property.1, ?_⟩
    rcases le_total x maxDecimal with small | large
    · rw [nearest_of_le positive small, sub_self, abs_zero]
      have nonneg := decimalPrecision_nonneg
      positivity
    · show |max 0 (min x maxDecimal) - x| ≤ 1 * decimalPrecision * max 1 x
      rw [min_eq_right large, max_eq_right (by norm_num [maxDecimal]), max_eq_right, abs_le]
      · unfold decimalLimit at fits
        unfold maxDecimal at *
        norm_num [decimalPrecision]
        constructor
        · linarith
        · linarith
      · unfold maxDecimal at large
        linarith
  · exact not_lt.mp ‹_›

theorem ratCrate_rounds : ratCrate.Rounds Subtype.val where
  zero := nearest_of_le le_rfl (by norm_num [maxDecimal])
  ofI64 := fun n positive fits => by
    have most : (n : ℚ) ≤ ((i64Max : Int) : ℚ) := by exact_mod_cast fits
    refine nearest_of_le (by exact_mod_cast positive) (most.trans ?_)
    norm_num [i64Max, maxDecimal]
  positive := fun d _ => d.property.1
  bounded := fun d => d.property.2
  mul := fun _ _ a b => fitting_rounded (mul_nonneg a b)
  add := fun _ _ a b => fitting_rounded (add_nonneg a b)
  div := fun _ _ a b => fitting_rounded (div_nonneg a b.le)

def flatJson (rate : String) : Json := .object [("input_cost_per_token", .string rate)]

def flatCard (rate : Nat) : PriceCard Bounded := ⟨⟨some (nearest rate), none, none, none⟩, []⟩

theorem flatCard_read {text : String} {rate : Nat} (digits : parseDigits text.toList = some rate)
    (fits : (rate : ℚ) < decimalLimit) :
    PriceCard.fromJson ratCrate (flatJson text) = .ok (flatCard rate) := by
  have fitted : ratCrate.fromStr text = some (nearest rate) := by
    show ((parseDigits text.toList).bind fun n => fitting n) = some (nearest rate)
    rw [digits, Option.bind_some, fitting, if_pos fits]
  have parsed : parseOptionalRate ratCrate (some (.string text)) "input_cost_per_token" =
      .ok (some (nearest rate)) :=
    bind_eq_ok.mpr ⟨text, rfl, bind_eq_ok.mpr ⟨_, okOr_eq_ok.mpr fitted, rfl⟩⟩
  have legacy : ¬ (((flatJson text).get "schema_version").isSome = true ∨
      ((flatJson text).get "base").isSome = true) := by
    rintro (version | base)
    · cases version
    · cases base
  refine (if_neg legacy).trans ?_
  refine bind_eq_ok.mpr ⟨_, rfl, ?_⟩
  refine bind_eq_ok.mpr ⟨none, rfl, ?_⟩
  refine bind_eq_ok.mpr ⟨_, parsed, ?_⟩
  refine bind_eq_ok.mpr ⟨none, rfl, ?_⟩
  exact bind_eq_ok.mpr ⟨none, rfl, rfl⟩

theorem flatCard_evaluated : Evaluated ratCrate Subtype.val ⟨1, flatCard 2⟩ ⟨1000000, 0, 0, 0, 0⟩ := by
  have read : PriceCard.fromJson ratCrate (flatJson "2") = .ok (flatCard 2) :=
    flatCard_read (by decide +kernel) (by norm_num [decimalLimit, maxDecimal])
  have counts : CountsFit ⟨1000000, 0, 0, 0, 0⟩ := ⟨by decide, by decide, by decide, by decide⟩
  refine (evaluated_iff ratCrate_rounds read 1 counts).mpr ⟨fun tier here => ?_, ?_⟩
  · simp [flatCard] at here
  · have rate : (nearest (2 : Nat)).val = 2 := nearest_of_le (by norm_num) (by norm_num [maxDecimal])
    refine ⟨?_, .inr (.inr (.inr trivial))⟩
    rw [rate]
    norm_num [pricedTokens, decimalLimit, maxDecimal]

/-- The largest rate aborts as soon as two tokens are priced at it. -/
theorem flatCard_aborts :
    PriceCard.fromJson ratCrate (flatJson "79228162514264337593543950335") =
        .ok (flatCard 79228162514264337593543950335) ∧
      evaluatePrice ratCrate ⟨2, 0, 0, 0, 0⟩ true
        (some ⟨1, flatCard 79228162514264337593543950335⟩) = none := by
  refine ⟨flatCard_read (by decide +kernel) (by norm_num [decimalLimit, maxDecimal]), ?_⟩
  have rate : (nearest (79228162514264337593543950335 : Nat)).val = 79228162514264337593543950335 :=
    nearest_of_le (by norm_num) (by norm_num [maxDecimal])
  have aborted : componentCost ratCrate 2 (some (nearest (79228162514264337593543950335 : Nat))) = .aborted := by
    refine componentCost_overflows ratCrate_rounds (by decide) (by decide) ?_ ?_
    · rw [rate]
      norm_num
    · rw [rate]
      norm_num [pricedTokens, decimalLimit, maxDecimal]
  have chosen : (flatCard 79228162514264337593543950335).ratesForTier
      ((flatCard 79228162514264337593543950335).tierIndexForUsage ⟨2, 0, 0, 0, 0⟩) =
        some (flatCard 79228162514264337593543950335).base := rfl
  have costs : (flatCard 79228162514264337593543950335).costForUsage ratCrate ⟨2, 0, 0, 0, 0⟩
      ((flatCard 79228162514264337593543950335).tierIndexForUsage ⟨2, 0, 0, 0, 0⟩) = .aborted := by
    rw [costForUsage_eq chosen]
    show componentCost ratCrate 2 (some (nearest (79228162514264337593543950335 : Nat))) >>= _ = _
    rw [aborted]
    rfl
  rw [evaluatePrice, if_neg (by decide)]
  dsimp only
  rw [costs]

end CodexGate.Pricing
