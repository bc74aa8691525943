import CodexGate.Foundation.Decimals
import CodexGate.Pricing.Evaluation

namespace CodexGate.Pricing

open Foundation

variable {Decimal : Type}

/-- The column `price_data_json` under each id of `model_prices`. -/
abbrev PriceTable := HashMap Int Json

section Versions

variable (crate : DecimalCrate Decimal) (stored : PriceTable)

def listPriceVersions : List Int → Except String (List (PriceVersion Decimal))
  | [] => .ok []
  | id :: rest =>
    match stored.lookup id with
    | none => listPriceVersions rest
    | some json => do
      let card ← PriceCard.fromJson crate json
      let versions ← listPriceVersions rest
      .ok (⟨id, card⟩ :: versions)

def versionIds (ids : List Int) : List Int := (ids.mergeSort (· ≤ ·)).dedup

def findVersion (versions : List (PriceVersion Decimal)) (id : Int) : Option (PriceVersion Decimal) :=
  versions.find? fun version => version.id = id

def storedCard (id : Int) : Option (PriceCard Decimal) :=
  (stored.lookup id).bind fun json => (PriceCard.fromJson crate json).toOption

end Versions

section Listed

variable {crate : DecimalCrate Decimal} {stored : PriceTable} {ids : List Int}
  {versions : List (PriceVersion Decimal)}

theorem mem_versionIds {id : Int} : id ∈ versionIds ids ↔ id ∈ ids := by
  rw [versionIds, List.mem_dedup, List.mem_mergeSort]

theorem findVersion_listed (listed : listPriceVersions crate stored ids = .ok versions) (id : Int) :
    (findVersion versions id).map (·.card) = if id ∈ ids then storedCard crate stored id else none := by
  induction ids generalizing versions with
  | nil =>
    cases listed
    rfl
  | cons first rest ih =>
    rw [listPriceVersions] at listed
    split at listed
    · rename_i missing
      rw [ih listed]
      by_cases here : id = first
      · subst here
        simp [storedCard, missing]
      · simp [here]
    · rename_i json found
      obtain ⟨card, read, listed⟩ := bind_eq_ok.mp listed
      obtain ⟨others, listed', same⟩ := bind_eq_ok.mp listed
      cases same
      rw [findVersion, List.find?_cons]
      by_cases here : first = id
      · subst here
        simp [storedCard, found, read, Except.toOption]
      · have others_eq := ih listed'
        simp only [here, decide_false, List.mem_cons, Ne.symm here, false_or]
        exact others_eq

theorem storedCard_valid {id : Int} {card : PriceCard Decimal}
    (found : storedCard crate stored id = some card) : card.Valid crate := by
  obtain ⟨json, -, read⟩ := Option.bind_eq_some_iff.mp found
  cases parsed : PriceCard.fromJson crate json with
  | error message =>
    rw [parsed] at read
    cases read
  | ok other =>
    rw [parsed] at read
    cases read
    exact PriceCard.fromJson_valid parsed

end Listed

def PriceRates.covers (rates : PriceRates Decimal) (usage : Usage) : Bool :=
  (usage.inputTokens ≤ 0 || rates.input.isSome) && (usage.outputTokens ≤ 0 || rates.output.isSome) &&
    (usage.cacheReadInputTokens ≤ 0 || rates.cacheRead.isSome) &&
    (usage.cacheCreationInputTokens ≤ 0 || rates.cacheWrite.isSome)

def PriceCard.canPrice (card : PriceCard Decimal) (usage : Usage) (tierIndex : Int) : Bool :=
  (card.ratesForTier tierIndex).any fun rates => rates.covers usage

structure SameKinds (usage other : Usage) : Prop where
  input : 0 < usage.inputTokens ↔ 0 < other.inputTokens
  output : 0 < usage.outputTokens ↔ 0 < other.outputTokens
  cacheRead : 0 < usage.cacheReadInputTokens ↔ 0 < other.cacheReadInputTokens
  cacheCreation : 0 < usage.cacheCreationInputTokens ↔ 0 < other.cacheCreationInputTokens

theorem covers_congr {rates : PriceRates Decimal} {usage other : Usage} (same : SameKinds usage other) :
    rates.covers usage = rates.covers other := by
  have input := same.input
  have output := same.output
  have cacheRead := same.cacheRead
  have cacheCreation := same.cacheCreation
  simp only [← not_le, not_iff_not] at input output cacheRead cacheCreation
  simp only [PriceRates.covers, input, output, cacheRead, cacheCreation]

theorem canPrice_congr {card : PriceCard Decimal} {usage other : Usage} (same : SameKinds usage other)
    (tierIndex : Int) : card.canPrice usage tierIndex = card.canPrice other tierIndex := by
  simp only [PriceCard.canPrice, covers_congr same]

namespace Outcome

variable {α β : Type} {first : Outcome α} {next : α → Outcome β}

theorem bind_eq_found {result : β} :
    first >>= next = .found result ↔ ∃ value, first = .found value ∧ next value = .found result := by
  cases first <;> simp

theorem bind_eq_missing :
    first >>= next = .missing ↔ first = .missing ∨ ∃ value, first = .found value ∧ next value = .missing := by
  cases first <;> simp

theorem orAbort_ne_missing {value : Option α} : orAbort value ≠ .missing := by
  cases value <;> simp [orAbort]

end Outcome

section Cost

variable {crate : DecimalCrate Decimal}

theorem componentCost_found {tokens : Int} {rate : Option Decimal} {cost : Decimal}
    (found : componentCost crate tokens rate = .found cost) : tokens ≤ 0 ∨ rate.isSome = true := by
  rcases lt_or_ge 0 tokens with asked | none
  · right
    cases rate with
    | none => rw [componentCost_missing asked] at found; cases found
    | some rate => rfl
  · exact .inl none

theorem componentCost_eq_missing {tokens : Int} {rate : Option Decimal}
    (missing : componentCost crate tokens rate = .missing) : 0 < tokens ∧ rate = none := by
  unfold componentCost at missing
  dsimp only at missing
  split at missing
  · cases missing
  · rename_i asked
    cases rate with
    | none => exact ⟨by omega, rfl⟩
    | some rate =>
      rcases Outcome.bind_eq_missing.mp missing with unread | ⟨_, -, rest⟩
      · cases unread
      · rcases Outcome.bind_eq_missing.mp rest with unmultiplied | ⟨_, -, undivided⟩
        · exact absurd unmultiplied Outcome.orAbort_ne_missing
        · exact absurd undivided Outcome.orAbort_ne_missing

theorem costForUsage_found {card : PriceCard Decimal} {usage : Usage} {tierIndex : Int}
    {cost : PricedCost Decimal} (found : card.costForUsage crate usage tierIndex = .found cost) :
    card.canPrice usage tierIndex = true := by
  obtain ⟨rates, tier, found⟩ := Outcome.bind_eq_found.mp found
  obtain ⟨input, inputFound, found⟩ := Outcome.bind_eq_found.mp found
  obtain ⟨cacheRead, cacheReadFound, found⟩ := Outcome.bind_eq_found.mp found
  obtain ⟨_, -, found⟩ := Outcome.bind_eq_found.mp found
  obtain ⟨cacheWrite, cacheWriteFound, found⟩ := Outcome.bind_eq_found.mp found
  obtain ⟨_, -, found⟩ := Outcome.bind_eq_found.mp found
  obtain ⟨output, outputFound, -⟩ := Outcome.bind_eq_found.mp found
  have here : card.ratesForTier tierIndex = some rates := by
    cases looked : card.ratesForTier tierIndex with
    | none => rw [looked] at tier; cases tier
    | some other => rw [looked] at tier; cases tier; rfl
  simp only [PriceCard.canPrice, here, Option.any_some, PriceRates.covers, Bool.and_eq_true,
    Bool.or_eq_true, decide_eq_true_eq]
  exact ⟨⟨⟨componentCost_found inputFound, componentCost_found outputFound⟩,
    componentCost_found cacheReadFound⟩, componentCost_found cacheWriteFound⟩

theorem costForUsage_missing {card : PriceCard Decimal} {usage : Usage} {tierIndex : Int}
    (missing : card.costForUsage crate usage tierIndex = .missing) :
    card.canPrice usage tierIndex = false := by
  rw [← Bool.not_eq_true]
  intro priced
  cases here : card.ratesForTier tierIndex with
  | none => simp [PriceCard.canPrice, here] at priced
  | some rates =>
    simp only [PriceCard.canPrice, here, Option.any_some, PriceRates.covers, Bool.and_eq_true,
      Bool.or_eq_true, decide_eq_true_eq] at priced
    obtain ⟨⟨⟨input, output⟩, cacheRead⟩, cacheWrite⟩ := priced
    have covered : ∀ {tokens : Int} {rate : Option Decimal}, tokens ≤ 0 ∨ rate.isSome = true →
        componentCost crate tokens rate ≠ .missing := by
      intro tokens rate covers missing
      obtain ⟨asked, none⟩ := componentCost_eq_missing missing
      rcases covers with unasked | some
      · omega
      · rw [none] at some
        cases some
    unfold PriceCard.costForUsage at missing
    rw [here, Outcome.orMissing_some, Outcome.found_bind] at missing
    rcases Outcome.bind_eq_missing.mp missing with none | ⟨_, -, missing⟩
    · exact covered input none
    rcases Outcome.bind_eq_missing.mp missing with none | ⟨_, -, missing⟩
    · exact covered cacheRead none
    rcases Outcome.bind_eq_missing.mp missing with none | ⟨_, -, missing⟩
    · exact Outcome.orAbort_ne_missing none
    rcases Outcome.bind_eq_missing.mp missing with none | ⟨_, -, missing⟩
    · exact covered cacheWrite none
    rcases Outcome.bind_eq_missing.mp missing with none | ⟨_, -, missing⟩
    · exact Outcome.orAbort_ne_missing none
    rcases Outcome.bind_eq_missing.mp missing with none | ⟨_, -, missing⟩
    · exact covered output none
    · cases missing

end Cost

def Exactly (crate : DecimalCrate Decimal) (value : Decimal → ℚ) (result : Option Decimal) (x : ℚ) : Prop :=
  ∃ decimal, result = some decimal ∧ crate.isSignNegative decimal = false ∧ value decimal = x

structure DecimalCrate.Exact (crate : DecimalCrate Decimal) (value : Decimal → ℚ) : Prop where
  nonneg : ∀ d, crate.isSignNegative d = false → 0 ≤ value d
  zero : Exactly crate value (some crate.zero) 0
  ofI64 : ∀ n : Int, 0 ≤ n → n ≤ i64Max → Exactly crate value (some (crate.ofI64 n)) n
  mul : ∀ a b, crate.isSignNegative a = false → crate.isSignNegative b = false →
    Exactly crate value (crate.mul a b) (value a * value b)
  add : ∀ a b, crate.isSignNegative a = false → crate.isSignNegative b = false →
    Exactly crate value (crate.add a b) (value a + value b)
  perMillion : ∀ a, crate.isSignNegative a = false →
    Exactly crate value (crate.div a (crate.ofI64 tokensPerMillion)) (value a / 1000000)

def usageCost (value : Decimal → ℚ) (rates : PriceRates Decimal) (usage : Usage) : ℚ :=
  exactCost value usage.inputTokens rates.input + exactCost value usage.cacheReadInputTokens rates.cacheRead +
    exactCost value usage.cacheCreationInputTokens rates.cacheWrite +
    exactCost value usage.outputTokens rates.output

section Exactness

variable {crate : DecimalCrate Decimal} {value : Decimal → ℚ}

theorem componentCost_exact (exactly : crate.Exact value) {tokens : Int} (counted : tokens ≤ i64Max)
    {rate : Option Decimal} (valid : ∀ found, rate = some found → crate.isSignNegative found = false)
    (covered : tokens ≤ 0 ∨ rate.isSome = true) :
    ∃ cost, componentCost crate tokens rate = .found cost ∧ crate.isSignNegative cost = false ∧
      value cost = exactCost value tokens rate := by
  by_cases free : max tokens 0 = 0
  · obtain ⟨zero, isZero, sign, same⟩ := exactly.zero
    cases isZero
    refine ⟨crate.zero, if_pos free, sign, ?_⟩
    rw [same, exactCost, pricedTokens, free]
    simp
  · obtain ⟨found, rfl⟩ := Option.isSome_iff_exists.mp (covered.resolve_left (by omega))
    obtain ⟨count, isCount, countSign, countValue⟩ := exactly.ofI64 (max tokens 0) (by omega) (by omega)
    cases isCount
    obtain ⟨product, multiplied, productSign, productValue⟩ :=
      exactly.mul (crate.ofI64 (max tokens 0)) found countSign (valid found rfl)
    obtain ⟨cost, divided, sign, costValue⟩ := exactly.perMillion product productSign
    refine ⟨cost, ?_, sign, ?_⟩
    · rw [componentCost, if_neg free, Outcome.orMissing_some, Outcome.found_bind, multiplied,
        Outcome.orAbort_some, Outcome.found_bind, divided]
      rfl
    · rw [costValue, productValue, countValue]
      rfl

theorem costForUsage_exact (exactly : crate.Exact value) {card : PriceCard Decimal} {usage : Usage}
    {tierIndex : Int} {rates : PriceRates Decimal} (tier : card.ratesForTier tierIndex = some rates)
    (valid : rates.Valid crate) (counts : CountsFit usage) (covered : rates.covers usage = true) :
    ∃ cost, card.costForUsage crate usage tierIndex = .found cost ∧
      crate.isSignNegative cost.inputUsd = false ∧ crate.isSignNegative cost.outputUsd = false ∧
      value cost.inputUsd + value cost.outputUsd = usageCost value rates usage := by
  simp only [PriceRates.covers, Bool.and_eq_true, Bool.or_eq_true, decide_eq_true_eq] at covered
  obtain ⟨⟨⟨inputCovered, outputCovered⟩, readCovered⟩, writeCovered⟩ := covered
  obtain ⟨input, inputFound, inputSign, inputValue⟩ :=
    componentCost_exact exactly counts.input valid.input inputCovered
  obtain ⟨cacheRead, readFound, readSign, readValue⟩ :=
    componentCost_exact exactly counts.cacheRead valid.cacheRead readCovered
  obtain ⟨cacheWrite, writeFound, writeSign, writeValue⟩ :=
    componentCost_exact exactly counts.cacheCreation valid.cacheWrite writeCovered
  obtain ⟨output, outputFound, outputSign, outputValue⟩ :=
    componentCost_exact exactly counts.output valid.output outputCovered
  obtain ⟨both, added, bothSign, bothValue⟩ := exactly.add input cacheRead inputSign readSign
  obtain ⟨all, added', allSign, allValue⟩ := exactly.add both cacheWrite bothSign writeSign
  refine ⟨⟨all, output⟩, ?_, allSign, outputSign, ?_⟩
  · simp only [PriceCard.costForUsage, tier, Outcome.orMissing_some, Outcome.found_bind, inputFound,
      readFound, added, Outcome.orAbort_some, writeFound, added', outputFound]
    rfl
  · rw [allValue, bothValue, inputValue, readValue, writeValue, outputValue]
    rfl

theorem ratesForTier_valid {card : PriceCard Decimal} (valid : card.Valid crate) {tierIndex : Int}
    {rates : PriceRates Decimal} (tier : card.ratesForTier tierIndex = some rates) : rates.Valid crate := by
  unfold PriceCard.ratesForTier at tier
  split at tier
  · cases tier
    exact valid.base
  · split at tier
    · obtain ⟨found, here, rfl⟩ := Option.map_eq_some_iff.mp tier
      exact (valid.tiers.get here).2.2.2
    · cases tier

theorem componentCost_decided (exactly : crate.Exact value) {tokens : Int} (counted : tokens ≤ i64Max)
    {rate : Option Decimal} (valid : ∀ found, rate = some found → crate.isSignNegative found = false) :
    componentCost crate tokens rate = .missing ∨
      ∃ cost, componentCost crate tokens rate = .found cost ∧ crate.isSignNegative cost = false := by
  by_cases covered : tokens ≤ 0 ∨ rate.isSome = true
  · obtain ⟨cost, found, sign, -⟩ := componentCost_exact exactly counted valid covered
    exact .inr ⟨cost, found, sign⟩
  · simp only [not_or, Bool.not_eq_true, Option.isSome_eq_false_iff, Option.isNone_iff_eq_none] at covered
    obtain ⟨asked, rfl⟩ := covered
    exact .inl (componentCost_missing (by omega))

theorem costForUsage_uncovered (exactly : crate.Exact value) {card : PriceCard Decimal} (valid : card.Valid crate)
    {usage : Usage} (counts : CountsFit usage) {tierIndex : Int}
    (uncovered : card.canPrice usage tierIndex = false) :
    card.costForUsage crate usage tierIndex = .missing := by
  cases tier : card.ratesForTier tierIndex with
  | none => simp [PriceCard.costForUsage, tier, Outcome.orMissing]
  | some rates =>
    have ratesValid := ratesForTier_valid valid tier
    have notFound : ∀ cost, card.costForUsage crate usage tierIndex ≠ .found cost := by
      intro cost found
      rw [costForUsage_found found] at uncovered
      cases uncovered
    unfold PriceCard.costForUsage at notFound ⊢
    rw [tier, Outcome.orMissing_some, Outcome.found_bind] at notFound ⊢
    rcases componentCost_decided exactly counts.input ratesValid.input with none | ⟨input, found, inputSign⟩
    · rw [none, Outcome.missing_bind]
    rw [found, Outcome.found_bind] at notFound ⊢
    rcases componentCost_decided exactly counts.cacheRead ratesValid.cacheRead with none | ⟨read, found, readSign⟩
    · rw [none, Outcome.missing_bind]
    obtain ⟨both, added, bothSign, -⟩ := exactly.add input read inputSign readSign
    rw [found, Outcome.found_bind, added, Outcome.orAbort_some, Outcome.found_bind] at notFound ⊢
    rcases componentCost_decided exactly counts.cacheCreation ratesValid.cacheWrite with
      none | ⟨write, found, writeSign⟩
    · rw [none, Outcome.missing_bind]
    obtain ⟨all, added', -, -⟩ := exactly.add both write bothSign writeSign
    rw [found, Outcome.found_bind, added', Outcome.orAbort_some, Outcome.found_bind] at notFound ⊢
    rcases componentCost_decided exactly counts.output ratesValid.output with none | ⟨output, found, -⟩
    · rw [none, Outcome.missing_bind]
    · rw [found] at notFound
      exact absurd rfl (notFound ⟨all, output⟩)

end Exactness

def plainCrate : DecimalCrate PlainDecimal where
  zero := ⟨0, 0⟩
  ofI64 := fun n => ⟨n.toNat, 0⟩
  isSignNegative := fun _ => false
  fromStr := PlainDecimal.parse
  normalized := fun rate => rate.normalize.print
  mul := fun a b => some (a.mul b)
  add := fun a b => some (a.add b)
  div := fun a b => if b = ⟨1000000, 0⟩ then some (a.shift 6) else none

theorem plainCrate_faithful : plainCrate.Faithful PlainDecimal.value := by
  intro rate _
  refine ⟨rate.normalize, ?_, rfl, rate.value_normalize⟩
  exact rate.normalize.parse_print

theorem plainCrate_exact : plainCrate.Exact PlainDecimal.value where
  nonneg d _ := d.value_nonneg
  zero := ⟨_, rfl, rfl, by simp [plainCrate, PlainDecimal.value]⟩
  ofI64 n positive _ := by
    refine ⟨_, rfl, rfl, ?_⟩
    show ((n.toNat : Nat) : ℚ) / 10 ^ 0 = n
    have cast : ((n.toNat : Nat) : Int) = n := Int.toNat_of_nonneg positive
    rw [pow_zero, div_one]
    exact_mod_cast cast
  mul a b _ _ := ⟨_, rfl, rfl, a.value_mul b⟩
  add a b _ _ := ⟨_, rfl, rfl, a.value_add b⟩
  perMillion a _ := by
    refine ⟨a.shift 6, rfl, rfl, ?_⟩
    rw [PlainDecimal.value_shift]
    norm_num

end CodexGate.Pricing
