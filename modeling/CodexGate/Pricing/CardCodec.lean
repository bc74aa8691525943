import CodexGate.Pricing.Card

namespace CodexGate.Pricing

open Foundation

variable {Decimal : Type}

/-- What a rate is printed as reads back as an equal rate. -/
def DecimalCrate.Faithful {V : Type} (crate : DecimalCrate Decimal) (value : Decimal → V) : Prop :=
  ∀ rate, crate.isSignNegative rate = false →
    ∃ again, crate.fromStr (crate.normalized rate) = some again ∧
      crate.isSignNegative again = false ∧ value again = value rate

section Equality

variable {V : Type} (value : Decimal → V)

structure PriceRates.Same (rates other : PriceRates Decimal) : Prop where
  input : rates.input.map value = other.input.map value
  output : rates.output.map value = other.output.map value
  cacheRead : rates.cacheRead.map value = other.cacheRead.map value
  cacheWrite : rates.cacheWrite.map value = other.cacheWrite.map value

structure ContextPriceTier.Same (tier other : ContextPriceTier Decimal) : Prop where
  threshold : tier.overTotalInputTokens = other.overTotalInputTokens
  rates : tier.rates.Same value other.rates

structure PriceCard.Same (card other : PriceCard Decimal) : Prop where
  base : card.base.Same value other.base
  tiers : List.Forall₂ (ContextPriceTier.Same value) card.tiers other.tiers

end Equality

section Accepted

variable (crate : DecimalCrate Decimal)

structure PriceRates.Valid (rates : PriceRates Decimal) : Prop where
  input : ∀ rate, rates.input = some rate → crate.isSignNegative rate = false
  output : ∀ rate, rates.output = some rate → crate.isSignNegative rate = false
  cacheRead : ∀ rate, rates.cacheRead = some rate → crate.isSignNegative rate = false
  cacheWrite : ∀ rate, rates.cacheWrite = some rate → crate.isSignNegative rate = false

/-- Tiers over a threshold: the thresholds rise from there on, up to the last `i64`. -/
def TiersFrom : Int → List (ContextPriceTier Decimal) → Prop
  | _, [] => True
  | previous, tier :: rest =>
    (0 < tier.overTotalInputTokens ∧ previous < tier.overTotalInputTokens ∧
        tier.overTotalInputTokens ≤ i64Max) ∧
      tier.rates.Valid crate ∧ TiersFrom tier.overTotalInputTokens rest

structure PriceCard.Valid (card : PriceCard Decimal) : Prop where
  base : card.base.Valid crate
  tiers : TiersFrom crate 0 card.tiers

variable {crate}

theorem parseOptionalRate_valid {value : Option Json} {path : String} {parsed : Option Decimal}
    (read : parseOptionalRate crate value path = .ok parsed) (rate : Decimal) (found : parsed = some rate) :
    crate.isSignNegative rate = false := by
  subst found
  unfold parseOptionalRate at read
  split at read
  · cases read
  · cases read
  · obtain ⟨text, -, read⟩ := bind_eq_ok.mp read
    obtain ⟨decimal, -, read⟩ := bind_eq_ok.mp read
    obtain ⟨positive, kept⟩ := refused_eq_ok.mp read
    cases kept
    simpa using positive

theorem parseRequiredRate_valid {object : Json} {key path : String} {parsed : Option Decimal}
    (read : parseRequiredRate crate object key path = .ok parsed) (rate : Decimal)
    (found : parsed = some rate) : crate.isSignNegative rate = false := by
  obtain ⟨value, -, read⟩ := bind_eq_ok.mp read
  exact parseOptionalRate_valid read rate found

theorem parseCompleteRates_valid {value : Json} {path : String} {rates : PriceRates Decimal}
    (read : parseCompleteRates crate value path = .ok rates) : rates.Valid crate := by
  obtain ⟨-, -, read⟩ := bind_eq_ok.mp read
  obtain ⟨input, inputRead, read⟩ := bind_eq_ok.mp read
  obtain ⟨output, outputRead, read⟩ := bind_eq_ok.mp read
  obtain ⟨cacheRead, cacheReadRead, read⟩ := bind_eq_ok.mp read
  obtain ⟨cacheWrite, cacheWriteRead, read⟩ := bind_eq_ok.mp read
  cases read
  exact ⟨parseRequiredRate_valid inputRead, parseRequiredRate_valid outputRead,
    parseRequiredRate_valid cacheReadRead, parseRequiredRate_valid cacheWriteRead⟩

theorem parseTiers_from {index : Nat} {previous : Int} {values : List Json}
    {tiers : List (ContextPriceTier Decimal)}
    (read : parseTiers crate index previous values = .ok tiers) : TiersFrom crate previous tiers := by
  induction values generalizing index previous tiers with
  | nil =>
    cases read
    exact trivial
  | cons value rest ih =>
    obtain ⟨-, -, read⟩ := bind_eq_ok.mp read
    obtain ⟨threshold, asked, read⟩ := bind_eq_ok.mp read
    obtain ⟨positive, read⟩ := refused_eq_ok.mp read
    obtain ⟨rising, read⟩ := refused_eq_ok.mp read
    obtain ⟨ratesValue, -, read⟩ := bind_eq_ok.mp read
    obtain ⟨rates, ratesRead, read⟩ := bind_eq_ok.mp read
    obtain ⟨later, laterRead, read⟩ := bind_eq_ok.mp read
    cases read
    obtain ⟨member, -, number⟩ := Option.bind_eq_some_iff.mp (okOr_eq_ok.mp asked)
    have fits := Json.asI64_fits number
    refine ⟨⟨?_, ?_, fits.2⟩, parseCompleteRates_valid ratesRead, ih laterRead⟩
    · show 0 < threshold
      omega
    · show previous < threshold
      omega

theorem PriceCard.fromJson_valid {value : Json} {card : PriceCard Decimal}
    (read : PriceCard.fromJson crate value = .ok card) : card.Valid crate := by
  unfold PriceCard.fromJson at read
  split at read
  · obtain ⟨-, -, read⟩ := bind_eq_ok.mp read
    obtain ⟨version, -, read⟩ := bind_eq_ok.mp read
    obtain ⟨-, read⟩ := refused_eq_ok.mp read
    obtain ⟨-, read⟩ := refused_eq_ok.mp read
    obtain ⟨baseValue, -, read⟩ := bind_eq_ok.mp read
    obtain ⟨base, baseRead, read⟩ := bind_eq_ok.mp read
    obtain ⟨tierValues, -, read⟩ := bind_eq_ok.mp read
    obtain ⟨items, -, read⟩ := bind_eq_ok.mp read
    obtain ⟨tiers, tiersRead, read⟩ := bind_eq_ok.mp read
    cases read
    exact ⟨parseCompleteRates_valid baseRead, parseTiers_from tiersRead⟩
  · obtain ⟨-, -, read⟩ := bind_eq_ok.mp read
    obtain ⟨cacheWrite, cacheWriteRead, read⟩ := bind_eq_ok.mp read
    obtain ⟨input, inputRead, read⟩ := bind_eq_ok.mp read
    obtain ⟨output, outputRead, read⟩ := bind_eq_ok.mp read
    obtain ⟨cacheRead, cacheReadRead, read⟩ := bind_eq_ok.mp read
    obtain ⟨-, read⟩ := refused_eq_ok.mp read
    cases read
    refine ⟨⟨parseOptionalRate_valid inputRead, parseOptionalRate_valid outputRead,
      parseOptionalRate_valid cacheReadRead, parseOptionalRate_valid cacheWriteRead⟩, trivial⟩

variable {V : Type} {value : Decimal → V}

theorem parseOptionalRate_rateToJson (faithful : crate.Faithful value) {rate : Option Decimal}
    (valid : ∀ found, rate = some found → crate.isSignNegative found = false) (path : String) :
    ∃ again, parseOptionalRate crate (some (rateToJson crate rate)) path = .ok again ∧
      again.map value = rate.map value := by
  cases rate with
  | none => exact ⟨none, rfl, rfl⟩
  | some found =>
    obtain ⟨again, back, positive, same⟩ := faithful found (valid found rfl)
    refine ⟨some again, ?_, congrArg some same⟩
    have written : parseOptionalRate crate (some (rateToJson crate (some found))) path =
        (do
          let parsed ← okOr s!"{path} must be a valid decimal" (crate.fromStr (crate.normalized found))
          if crate.isSignNegative parsed then .error s!"{path} must be greater than or equal to 0"
          else .ok (some parsed)) := rfl
    rw [written, back]
    exact if_neg (by simp [positive])

theorem parseRequiredRate_rateToJson (faithful : crate.Faithful value) {rate : Option Decimal}
    (valid : ∀ found, rate = some found → crate.isSignNegative found = false) {object : Json}
    {key : String} (written : object.get key = some (rateToJson crate rate)) (path : String) :
    ∃ again, parseRequiredRate crate object key path = .ok again ∧ again.map value = rate.map value := by
  obtain ⟨again, back, same⟩ := parseOptionalRate_rateToJson faithful valid s!"{path}.{key}"
  exact ⟨again, bind_eq_ok.mpr ⟨_, okOr_eq_ok.mpr written, back⟩, same⟩

theorem parseCompleteRates_ratesToJson (faithful : crate.Faithful value) {rates : PriceRates Decimal}
    (valid : rates.Valid crate) (path : String) :
    ∃ again, parseCompleteRates crate (ratesToJson crate rates) path = .ok again ∧
      again.Same value rates := by
  have object : ∀ key written, [("cache_read", rateToJson crate rates.cacheRead),
      ("cache_write", rateToJson crate rates.cacheWrite), ("input", rateToJson crate rates.input),
      ("output", rateToJson crate rates.output)].lookup key = some written →
      (ratesToJson crate rates).get key = some written := fun _ _ found => found
  obtain ⟨input, inputBack, inputSame⟩ :=
    parseRequiredRate_rateToJson faithful valid.input (object "input" _ rfl) path
  obtain ⟨output, outputBack, outputSame⟩ :=
    parseRequiredRate_rateToJson faithful valid.output (object "output" _ rfl) path
  obtain ⟨cacheRead, cacheReadBack, cacheReadSame⟩ :=
    parseRequiredRate_rateToJson faithful valid.cacheRead (object "cache_read" _ rfl) path
  obtain ⟨cacheWrite, cacheWriteBack, cacheWriteSame⟩ :=
    parseRequiredRate_rateToJson faithful valid.cacheWrite (object "cache_write" _ rfl) path
  refine ⟨⟨input, output, cacheRead, cacheWrite⟩, ?_, inputSame, outputSame, cacheReadSame, cacheWriteSame⟩
  refine bind_eq_ok.mpr ⟨_, rfl, ?_⟩
  refine bind_eq_ok.mpr ⟨input, inputBack, ?_⟩
  refine bind_eq_ok.mpr ⟨output, outputBack, ?_⟩
  refine bind_eq_ok.mpr ⟨cacheRead, cacheReadBack, ?_⟩
  exact bind_eq_ok.mpr ⟨cacheWrite, cacheWriteBack, rfl⟩

theorem parseTiers_tierToJson (faithful : crate.Faithful value)
    {tiers : List (ContextPriceTier Decimal)} {previous : Int} (rising : TiersFrom crate previous tiers)
    (index : Nat) :
    ∃ again, parseTiers crate index previous (tiers.map (tierToJson crate)) = .ok again ∧
      List.Forall₂ (ContextPriceTier.Same value) again tiers := by
  induction tiers generalizing index previous with
  | nil => exact ⟨[], rfl, .nil⟩
  | cons tier rest ih =>
    obtain ⟨⟨positive, above, fits⟩, valid, later⟩ := rising
    obtain ⟨rates, ratesBack, ratesSame⟩ := parseCompleteRates_ratesToJson faithful valid
      s!"tiers[{index}].rates"
    obtain ⟨tiers, tiersBack, tiersSame⟩ := ih later (index + 1)
    have low : i64Min ≤ tier.overTotalInputTokens := by
      unfold i64Min
      omega
    refine ⟨⟨tier.overTotalInputTokens, rates⟩ :: tiers, ?_, .cons ⟨rfl, ratesSame⟩ tiersSame⟩
    refine bind_eq_ok.mpr ⟨_, rfl, ?_⟩
    refine bind_eq_ok.mpr ⟨_, okOr_eq_ok.mpr (Json.asI64_ofInt low fits), ?_⟩
    refine refused_eq_ok.mpr ⟨by omega, refused_eq_ok.mpr ⟨by omega, ?_⟩⟩
    refine bind_eq_ok.mpr ⟨_, rfl, ?_⟩
    refine bind_eq_ok.mpr ⟨rates, ratesBack, ?_⟩
    exact bind_eq_ok.mpr ⟨tiers, tiersBack, rfl⟩

theorem PriceCard.fromJson_toJson (faithful : crate.Faithful value) {card : PriceCard Decimal}
    (valid : card.Valid crate) :
    ∃ again, PriceCard.fromJson crate (card.toJson crate) = .ok again ∧ again.Same value card := by
  obtain ⟨base, baseBack, baseSame⟩ := parseCompleteRates_ratesToJson faithful valid.base "base"
  obtain ⟨tiers, tiersBack, tiersSame⟩ := parseTiers_tierToJson faithful valid.tiers 0
  refine ⟨⟨base, tiers⟩, ?_, baseSame, tiersSame⟩
  have version : ((card.toJson crate).get "schema_version").bind Json.asU64 = some priceSchemaVersion := by
    show (Json.ofNat 2).asU64 = some 2
    decide +kernel
  refine (if_pos (.inl rfl)).trans ?_
  refine bind_eq_ok.mpr ⟨_, rfl, ?_⟩
  refine bind_eq_ok.mpr ⟨_, okOr_eq_ok.mpr version, ?_⟩
  refine refused_eq_ok.mpr ⟨not_not_intro rfl, refused_eq_ok.mpr ⟨not_not_intro rfl, ?_⟩⟩
  refine bind_eq_ok.mpr ⟨_, rfl, ?_⟩
  refine bind_eq_ok.mpr ⟨base, baseBack, ?_⟩
  refine bind_eq_ok.mpr ⟨_, rfl, ?_⟩
  refine bind_eq_ok.mpr ⟨_, rfl, ?_⟩
  exact bind_eq_ok.mpr ⟨tiers, tiersBack, rfl⟩

end Accepted

section Lookup

variable {α : Type} {passes : α → Bool} {items : List α}

theorem rposition_eq_none_iff : rposition passes items = none ↔ ∀ item ∈ items, passes item = false := by
  induction items with
  | nil => simp [rposition]
  | cons first rest ih =>
    rw [rposition, List.forall_mem_cons, ← ih]
    cases rposition passes rest with
    | some place => simp
    | none => simp

theorem rposition_eq_some {index : Nat} (found : rposition passes items = some index) :
    (∃ item, items[index]? = some item ∧ passes item = true) ∧
      ∀ later item, index < later → items[later]? = some item → passes item = false := by
  induction items generalizing index with
  | nil => cases found
  | cons first rest ih =>
    unfold rposition at found
    cases inside : rposition passes rest with
    | some place =>
      rw [inside] at found
      cases found
      obtain ⟨here, after⟩ := ih inside
      refine ⟨here, fun later item above there => ?_⟩
      cases later with
      | zero => omega
      | succ later => exact after later item (by omega) there
    | none =>
      rw [inside] at found
      dsimp only at found
      split at found
      · rename_i passed
        cases found
        refine ⟨⟨first, rfl, passed⟩, fun later item above there => ?_⟩
        cases later with
        | zero => omega
        | succ later => exact rposition_eq_none_iff.mp inside item (List.mem_of_getElem? there)
      · cases found

theorem rposition_unique {index : Nat} {item : α} (here : items[index]? = some item)
    (passed : passes item = true)
    (after : ∀ later other, index < later → items[later]? = some other → passes other = false) :
    rposition passes items = some index := by
  cases found : rposition passes items with
  | none =>
    have fails := rposition_eq_none_iff.mp found item (List.mem_of_getElem? here)
    rw [passed] at fails
    cases fails
  | some place =>
    obtain ⟨⟨other, there, passed'⟩, after'⟩ := rposition_eq_some found
    rcases Nat.lt_trichotomy index place with below | same | above
    · have fails := after place other below there
      rw [passed'] at fails
      cases fails
    · rw [same]
    · have fails := after' index item above here
      rw [passed] at fails
      cases fails

end Lookup

theorem TiersFrom.get {crate : DecimalCrate Decimal} {previous : Int}
    {tiers : List (ContextPriceTier Decimal)} (rising : TiersFrom crate previous tiers) {index : Nat}
    {tier : ContextPriceTier Decimal} (here : tiers[index]? = some tier) :
    0 < tier.overTotalInputTokens ∧ previous < tier.overTotalInputTokens ∧
      tier.overTotalInputTokens ≤ i64Max ∧ tier.rates.Valid crate := by
  induction tiers generalizing previous index with
  | nil => simp at here
  | cons first rest ih =>
    obtain ⟨⟨positive, above, fits⟩, valid, later⟩ := rising
    cases index with
    | zero =>
      cases here
      exact ⟨positive, above, fits, valid⟩
    | succ index =>
      obtain ⟨positive, beyond, fits, valid⟩ := ih later here
      exact ⟨positive, by omega, fits, valid⟩

theorem TiersFrom.lt {crate : DecimalCrate Decimal} {previous : Int}
    {tiers : List (ContextPriceTier Decimal)} (rising : TiersFrom crate previous tiers)
    {index later : Nat} {tier other : ContextPriceTier Decimal} (here : tiers[index]? = some tier)
    (there : tiers[later]? = some other) (before : index < later) :
    tier.overTotalInputTokens < other.overTotalInputTokens := by
  induction tiers generalizing previous index later with
  | nil => simp at here
  | cons first rest ih =>
    cases later with
    | zero => omega
    | succ later =>
      cases index with
      | zero =>
        cases here
        exact (rising.2.2.get there).2.1
      | succ index => exact ih rising.2.2 here there (by omega)

def tierLimit : Nat := 2 ^ 31 - 1

theorem wrapI32_of_fits {n : Int} (low : -2 ^ 31 ≤ n) (high : n < 2 ^ 31) : wrapI32 n = n := by
  exact Int.bmod_eq_of_le_mul_two (by omega) (by omega)

theorem totalInputTokens_range (usage : Usage) :
    0 ≤ totalInputTokens usage ∧ totalInputTokens usage ≤ i64Max := by
  have positive : ∀ n : Int, 0 ≤ n → 0 ≤ clampI64 n := by
    intro n
    simp only [clampI64, i64Max, i64Min]
    omega
  have first := positive (max usage.inputTokens 0 + max usage.cacheReadInputTokens 0) (by omega)
  rw [totalInputTokens, saturatingAddI64, saturatingAddI64]
  exact ⟨positive _ (by omega), clampI64_le _⟩

namespace PriceCard

variable {card : PriceCard Decimal} {usage : Usage}

def tiersBelow (card : PriceCard Decimal) (usage : Usage) : Option Nat :=
  rposition (fun tier => tier.overTotalInputTokens < totalInputTokens usage) card.tiers

theorem tierIndexForUsage_none (none_below : card.tiersBelow usage = none) :
    card.tierIndexForUsage usage = 0 := by
  unfold tiersBelow at none_below
  rw [tierIndexForUsage, none_below]
  rfl

theorem tierIndexForUsage_some {index : Nat} (last : card.tiersBelow usage = some index) :
    card.tierIndexForUsage usage = tierNumber index := by
  unfold tiersBelow at last
  unfold tierIndexForUsage
  dsimp only
  rw [last, Option.map_some, Option.getD_some]

theorem tierNumber_of_lt {index : Nat} (numbered : index < tierLimit) : tierNumber index = index + 1 := by
  unfold tierLimit at numbered
  have small : wrapI32 index = index := wrapI32_of_fits (by omega) (by omega)
  rw [tierNumber, small, wrapI32_of_fits (by omega) (by omega)]

theorem tierIndexForUsage_numbered {index : Nat} (last : card.tiersBelow usage = some index)
    (numbered : index < tierLimit) : card.tierIndexForUsage usage = index + 1 :=
  (tierIndexForUsage_some last).trans (tierNumber_of_lt numbered)

theorem tierIndexForUsage_limit (last : card.tiersBelow usage = some tierLimit) :
    card.ratesForTier (card.tierIndexForUsage usage) = none := by
  have wrapped : tierNumber tierLimit = -2 ^ 31 := by decide
  rw [tierIndexForUsage_some last, wrapped]
  rfl

theorem ratesForTier_succ (card : PriceCard Decimal) (index : Nat) :
    card.ratesForTier (index + 1) = card.tiers[index]?.map (·.rates) := by
  have place : ((index : Int) + 1).toNat - 1 = index := by omega
  rw [ratesForTier, if_neg (by omega), if_pos (by omega), place]

def Numbered (card : PriceCard Decimal) : Prop :=
  ∀ tier, card.tiers[tierLimit]? = some tier → tier.overTotalInputTokens = i64Max

theorem Numbered.unreached (numbered : card.Numbered) (usage : Usage) (tier : ContextPriceTier Decimal)
    (here : card.tiers[tierLimit]? = some tier) : totalInputTokens usage ≤ tier.overTotalInputTokens := by
  rw [numbered tier here]
  exact (totalInputTokens_range usage).2

theorem overThreshold_of_tiersBelow {index : Nat} (last : card.tiersBelow usage = some index) :
    ∃ tier, card.tiers[index]? = some tier ∧ tier.overTotalInputTokens < totalInputTokens usage := by
  obtain ⟨⟨tier, here, below⟩, -⟩ := rposition_eq_some last
  exact ⟨tier, here, of_decide_eq_true below⟩

theorem tiersBelow_lt {crate : DecimalCrate Decimal} (valid : card.Valid crate)
    (unreached : ∀ tier, card.tiers[tierLimit]? = some tier →
      totalInputTokens usage ≤ tier.overTotalInputTokens)
    {index : Nat} (last : card.tiersBelow usage = some index) : index < tierLimit := by
  obtain ⟨tier, here, below⟩ := overThreshold_of_tiersBelow last
  by_contra beyond
  obtain ⟨inside, -⟩ := List.getElem?_eq_some_iff.mp here
  have limit := List.getElem?_eq_getElem (l := card.tiers) (i := tierLimit) (by omega)
  have above := unreached _ limit
  rcases Nat.eq_or_lt_of_not_lt beyond with same | after
  · rw [same] at here
    have first : tier = card.tiers[tierLimit] := Option.some.inj (here.symm.trans limit)
    rw [first] at below
    omega
  · have rises := valid.tiers.lt limit here after
    omega

structure Codec {V : Type} (crate : DecimalCrate Decimal) (value : Decimal → V)
    (card : PriceCard Decimal) : Prop where
  back : ∃ again, fromJson crate (card.toJson crate) = .ok again ∧ again.Same value card
  increasing : (0 :: card.tiers.map (·.overTotalInputTokens)).Pairwise (· < ·)
  monotone : ∀ usage more, totalInputTokens usage ≤ totalInputTokens more →
    card.tierIndexForUsage usage ≤ card.tierIndexForUsage more
  served : ∀ usage, (card.ratesForTier (card.tierIndexForUsage usage)).isSome = true

theorem TiersFrom.pairwise {crate : DecimalCrate Decimal} {previous : Int}
    {tiers : List (ContextPriceTier Decimal)} (rising : TiersFrom crate previous tiers) :
    (previous :: tiers.map (·.overTotalInputTokens)).Pairwise (· < ·) := by
  induction tiers generalizing previous with
  | nil => exact List.pairwise_singleton _ _
  | cons tier rest ih =>
    obtain ⟨⟨-, above, -⟩, -, later⟩ := rising
    have pairwise := ih later
    refine List.pairwise_cons.mpr ⟨fun threshold there => ?_, pairwise⟩
    rcases List.mem_cons.mp there with rfl | inside
    · exact above
    · exact Int.lt_trans above (List.rel_of_pairwise_cons pairwise inside)

theorem tierIndexForUsage_mono {crate : DecimalCrate Decimal} (valid : card.Valid crate)
    (numbered : card.Numbered) {more : Usage} (le : totalInputTokens usage ≤ totalInputTokens more) :
    card.tierIndexForUsage usage ≤ card.tierIndexForUsage more := by
  cases last : card.tiersBelow usage with
  | none =>
    rw [tierIndexForUsage_none last]
    cases last' : card.tiersBelow more with
    | none => exact Int.le_of_eq (tierIndexForUsage_none last').symm
    | some index =>
      rw [tierIndexForUsage_numbered last' (tiersBelow_lt valid (numbered.unreached more) last')]
      omega
  | some index =>
    obtain ⟨tier, here, below⟩ := overThreshold_of_tiersBelow last
    have passes : decide (tier.overTotalInputTokens < totalInputTokens more) = true :=
      decide_eq_true (Int.lt_of_lt_of_le below le)
    rw [tierIndexForUsage_numbered last (tiersBelow_lt valid (numbered.unreached usage) last)]
    cases last' : card.tiersBelow more with
    | none =>
      have fails := rposition_eq_none_iff.mp last' tier (List.mem_of_getElem? here)
      rw [passes] at fails
      cases fails
    | some index' =>
      rw [tierIndexForUsage_numbered last' (tiersBelow_lt valid (numbered.unreached more) last')]
      by_contra less
      have fails := (rposition_eq_some last').2 index tier (by omega) here
      rw [passes] at fails
      cases fails

def chosenRates (card : PriceCard Decimal) (usage : Usage) : PriceRates Decimal :=
  match (card.tiersBelow usage).bind fun index => card.tiers[index]? with
  | some tier => tier.rates
  | none => card.base

theorem ratesForTier_chosen {crate : DecimalCrate Decimal} (valid : card.Valid crate)
    (unreached : ∀ tier, card.tiers[tierLimit]? = some tier →
      totalInputTokens usage ≤ tier.overTotalInputTokens) :
    card.ratesForTier (card.tierIndexForUsage usage) = some (card.chosenRates usage) := by
  unfold chosenRates
  cases last : card.tiersBelow usage with
  | none =>
    rw [tierIndexForUsage_none last]
    rfl
  | some index =>
    obtain ⟨tier, here, -⟩ := overThreshold_of_tiersBelow last
    rw [tierIndexForUsage_numbered last (tiersBelow_lt valid unreached last), ratesForTier_succ,
      Option.bind_some, here]
    rfl

theorem tiersBelow_limit {crate : DecimalCrate Decimal} (valid : card.Valid crate)
    {tier : ContextPriceTier Decimal} (here : card.tiers[tierLimit]? = some tier)
    (below : tier.overTotalInputTokens < i64Max) :
    card.tiersBelow ⟨tier.overTotalInputTokens + 1, 0, 0, 0, 0⟩ = some tierLimit := by
  obtain ⟨positive, -, fits, -⟩ := valid.tiers.get here
  have total : totalInputTokens ⟨tier.overTotalInputTokens + 1, 0, 0, 0, 0⟩ =
      tier.overTotalInputTokens + 1 := by
    simp only [totalInputTokens, saturatingAddI64, clampI64, i64Max, i64Min] at below ⊢
    omega
  rw [tiersBelow, total]
  refine rposition_unique here (decide_eq_true (by omega)) fun later other after there => ?_
  have rises := valid.tiers.lt here there after
  exact decide_eq_false (by omega)

end PriceCard

def wholeCrate : DecimalCrate Nat where
  zero := 0
  ofI64 := Int.toNat
  isSignNegative := fun _ => false
  fromStr := fun text => parseDigits text.toList
  normalized := fun rate => String.ofList (Nat.toDigits 10 rate)
  mul := fun a b => if a * b < 2 ^ 96 then some (a * b) else none
  add := fun a b => if a + b < 2 ^ 96 then some (a + b) else none
  div := fun a b => if b ∣ a then some (a / b) else none

theorem wholeCrate_faithful : wholeCrate.Faithful id := by
  intro rate positive
  refine ⟨rate, ?_, rfl, rfl⟩
  show parseDigits (String.ofList (Nat.toDigits 10 rate)).toList = some rate
  rw [String.toList_ofList]
  exact Json.parseDigits_toDigits rate

def tieredJson : Json :=
  .object [("base", .object [("input", .string "2"), ("output", .string "15"), ("cache_read", .null),
      ("cache_write", .number "3")]),
    ("schema_version", .number "2"),
    ("tiers", .array [.object [("over_total_input_tokens", .number "272000"),
      ("rates", .object [("input", .string "5"), ("output", .string "22"), ("cache_read", .null),
        ("cache_write", .null)])]]),
    ("unit", .string "usd_per_million_tokens")]

def tieredCard : PriceCard Nat :=
  ⟨⟨some 2, some 15, none, some 3⟩, [⟨272000, ⟨some 5, some 22, none, none⟩⟩]⟩

def freeRates : PriceRates Nat := ⟨none, none, none, none⟩

def countedTiers (start n : Nat) : List (ContextPriceTier Nat) :=
  (List.range' start n).map fun threshold : Nat => ⟨threshold, freeRates⟩

def countedCard (n : Nat) : PriceCard Nat := ⟨freeRates, countedTiers 1 n⟩

theorem freeRates_valid : freeRates.Valid wholeCrate :=
  ⟨fun _ _ => rfl, fun _ _ => rfl, fun _ _ => rfl, fun _ _ => rfl⟩

theorem countedTiers_from (n : Nat) {start : Nat} {previous : Int} (positive : 0 < start)
    (above : previous < start) (fits : ((start + n : Nat) : Int) ≤ i64Max) :
    TiersFrom wholeCrate previous (countedTiers start n) := by
  induction n generalizing start previous with
  | zero => exact trivial
  | succ n ih =>
    rw [countedTiers, List.range'_succ, List.map_cons]
    refine ⟨⟨?_, above, ?_⟩, freeRates_valid,
      ih (Nat.succ_pos start) (Int.ofNat_lt.mpr (Nat.lt_succ_self start)) (by omega)⟩
    · show (0 : Int) < (start : Int)
      omega
    · show (start : Int) ≤ i64Max
      omega

theorem PriceCard.Same.thresholds {V : Type} {value : Decimal → V} {card other : PriceCard Decimal}
    (same : card.Same value other) :
    card.tiers.map (·.overTotalInputTokens) = other.tiers.map (·.overTotalInputTokens) := by
  have tiers := same.tiers
  generalize card.tiers = left, other.tiers = right at tiers ⊢
  induction tiers with
  | nil => rfl
  | cons first rest ih => rw [List.map_cons, List.map_cons, first.threshold, ih]

theorem countedCard_unserved_of {n : Nat} (many : tierLimit < n) (fits : ((1 + n : Nat) : Int) ≤ i64Max) :
    ∃ card, PriceCard.fromJson wholeCrate ((countedCard n).toJson wholeCrate) = .ok card ∧
      ∃ usage, card.ratesForTier (card.tierIndexForUsage usage) = none := by
  have valid : (countedCard n).Valid wholeCrate :=
    ⟨freeRates_valid, countedTiers_from n (by omega) (by omega) fits⟩
  obtain ⟨card, read, same⟩ := PriceCard.fromJson_toJson wholeCrate_faithful valid
  refine ⟨card, read, ?_⟩
  have thresholds := congrArg (fun thresholds => thresholds[tierLimit]?) same.thresholds
  simp only [countedCard, countedTiers, List.getElem?_map, List.getElem?_range' many, Option.map_some] at thresholds
  obtain ⟨tier, here, threshold⟩ := Option.map_eq_some_iff.mp thresholds
  have below : tier.overTotalInputTokens < i64Max := by
    rw [threshold]
    omega
  exact ⟨_, PriceCard.tierIndexForUsage_limit
    (PriceCard.tiersBelow_limit (PriceCard.fromJson_valid read) here below)⟩

end CodexGate.Pricing
