import CodexGate.Pricing.Catalog
import CodexGate.Pricing.Coverage

namespace CodexGate.Pricing

open Foundation
open Foundation.Thresholds

variable {Decimal : Type}

theorem eachKind_eq_ok {ε α : Type} {ask : TokenKind → Except ε α} {values : TokenKind → α} :
    eachKind ask = .ok values ↔ ∀ kind, ask kind = .ok (values kind) := by
  constructor
  · intro asked
    obtain ⟨input, first, asked⟩ := bind_eq_ok.mp asked
    obtain ⟨output, second, asked⟩ := bind_eq_ok.mp asked
    obtain ⟨cacheRead, third, asked⟩ := bind_eq_ok.mp asked
    obtain ⟨cacheWrite, fourth, asked⟩ := bind_eq_ok.mp asked
    cases asked
    intro kind
    cases kind
    · exact first
    · exact second
    · exact third
    · exact fourth
  · intro each
    refine bind_eq_ok.mpr ⟨_, each .input, ?_⟩
    refine bind_eq_ok.mpr ⟨_, each .output, ?_⟩
    refine bind_eq_ok.mpr ⟨_, each .cacheRead, ?_⟩
    refine bind_eq_ok.mpr ⟨_, each .cacheWrite, ?_⟩
    congr 1
    funext kind
    cases kind <;> rfl

@[simp] theorem rate_rates (values : TokenKind → Option Decimal) (kind : TokenKind) :
    (rates values).rate kind = values kind := by
  cases kind <;> rfl

theorem TokenKind.mem_all (kind : TokenKind) : kind ∈ TokenKind.all := by
  cases kind <;> simp [TokenKind.all]

def contextStart (kind : TokenKind) : List Char := (kind.litellmRate ++ "_above_").toList

def contextEnd : List Char := "_tokens".toList

theorem contextThreshold_eq_some {kind : TokenKind} {key : String} {threshold : List Char} :
    contextThreshold kind key = some threshold ↔
      key.toList = contextStart kind ++ (threshold ++ contextEnd) := by
  unfold contextThreshold contextStart contextEnd
  rw [Option.bind_eq_some_iff]
  constructor
  · rintro ⟨suffix, starts, ends⟩
    obtain ⟨start, whole, same⟩ := List.dropPrefix?_eq_some_iff.mp starts
    obtain ⟨ending, rfl, last⟩ := List.dropSuffix?_eq_some_iff.mp ends
    rw [whole, eq_of_beq same, eq_of_beq last]
  · intro whole
    refine ⟨threshold ++ "_tokens".toList, ?_, ?_⟩
    · exact List.dropPrefix?_eq_some_iff.mpr ⟨_, whole, beq_self_eq_true _⟩
    · exact List.dropSuffix?_eq_some_iff.mpr ⟨_, rfl, beq_self_eq_true _⟩

theorem contextStart_apart {kind other : TokenKind} (starts : contextStart kind <+: contextStart other) :
    kind = other := by
  cases kind <;> cases other <;> first | rfl | exact absurd starts (by decide)

theorem contextThreshold_kind {kind other : TokenKind} {key : String} {threshold otherThreshold : List Char}
    (found : contextThreshold kind key = some threshold)
    (also : contextThreshold other key = some otherThreshold) : kind = other := by
  rw [contextThreshold_eq_some] at found also
  have first : contextStart kind <+: key.toList := ⟨_, found.symm⟩
  have second : contextStart other <+: key.toList := ⟨_, also.symm⟩
  rcases List.prefix_or_prefix_of_prefix first second with starts | starts
  · exact contextStart_apart starts
  · exact (contextStart_apart starts).symm

theorem litellmRate_no_context (kind other : TokenKind) :
    contextThreshold kind other.litellmRate = none := by
  cases kind <;> cases other <;> decide

def digitsValue (digits : List Char) : Int := Nat.ofDigitChars 10 digits 0

inductive ContextField (kind : TokenKind) : String → Int → Prop
  | tokens {digits : List Char} (written : digits ≠ []) (all : digits.all Char.isDigit = true) :
    ContextField kind (kind.litellmRate ++ "_above_" ++ String.ofList digits ++ "_tokens")
      (digitsValue digits)
  | thousands {digits : List Char} (written : digits ≠ []) (all : digits.all Char.isDigit = true) :
    ContextField kind (kind.litellmRate ++ "_above_" ++ String.ofList digits ++ "k_tokens")
      (digitsValue digits * 1000)

theorem thresholdDigits_of_digits {digits : List Char} (all : digits.all Char.isDigit = true) :
    thresholdDigits digits = (digits, 1) := by
  rw [thresholdDigits, if_neg]
  intro last
  have digit := List.all_eq_true.mp all 'k' (List.mem_of_getLast? last)
  exact absurd digit (by decide)

theorem thresholdDigits_thousands (digits : List Char) :
    thresholdDigits (digits ++ ['k']) = (digits, 1000) := by
  simp [thresholdDigits]

theorem thresholdDigits_append (threshold : List Char) :
    (thresholdDigits threshold).2 = 1 ∧ threshold = (thresholdDigits threshold).1 ∨
      (thresholdDigits threshold).2 = 1000 ∧ threshold = (thresholdDigits threshold).1 ++ ['k'] := by
  unfold thresholdDigits
  split
  · rename_i last
    right
    exact ⟨rfl, (List.dropLast_append_getLast? 'k' last).symm⟩
  · left
    exact ⟨rfl, rfl⟩

theorem tokensName_toList (kind : TokenKind) (digits : List Char) :
    (kind.litellmRate ++ "_above_" ++ String.ofList digits ++ "_tokens").toList =
      contextStart kind ++ (digits ++ contextEnd) := by
  rw [String.toList_append, String.toList_append, String.toList_ofList, List.append_assoc]
  rfl

theorem thousandsName_toList (kind : TokenKind) (digits : List Char) :
    (kind.litellmRate ++ "_above_" ++ String.ofList digits ++ "k_tokens").toList =
      contextStart kind ++ (digits ++ ['k'] ++ contextEnd) := by
  have ending : "k_tokens".toList = ['k'] ++ contextEnd := rfl
  rw [String.toList_append, String.toList_append, String.toList_ofList, ending, List.append_assoc,
    List.append_assoc]
  rfl

theorem contextField_iff {kind : TokenKind} {key : String} {above : Int} :
    ContextField kind key above ↔ ∃ threshold, contextThreshold kind key = some threshold ∧
      (thresholdDigits threshold).1 ≠ [] ∧ (thresholdDigits threshold).1.all Char.isDigit = true ∧
      above = digitsValue (thresholdDigits threshold).1 * (thresholdDigits threshold).2 := by
  constructor
  · rintro (⟨written, all⟩ | ⟨written, all⟩)
    · rename_i digits
      refine ⟨digits, contextThreshold_eq_some.mpr (tokensName_toList kind digits), ?_⟩
      rw [thresholdDigits_of_digits all, Int.mul_one]
      exact ⟨written, all, rfl⟩
    · rename_i digits
      refine ⟨digits ++ ['k'], contextThreshold_eq_some.mpr (thousandsName_toList kind digits), ?_⟩
      rw [thresholdDigits_thousands]
      exact ⟨written, all, rfl⟩
  · rintro ⟨threshold, named, written, all, rfl⟩
    rw [contextThreshold_eq_some] at named
    rcases thresholdDigits_append threshold with ⟨one, split⟩ | ⟨thousand, split⟩
    · have built : key = kind.litellmRate ++ "_above_" ++
          String.ofList (thresholdDigits threshold).1 ++ "_tokens" := by
        apply String.toList_injective
        rw [tokensName_toList, ← split, named]
      rw [one, Int.mul_one, built]
      exact .tokens written all
    · have built : key = kind.litellmRate ++ "_above_" ++
          String.ofList (thresholdDigits threshold).1 ++ "k_tokens" := by
        apply String.toList_injective
        rw [thousandsName_toList, ← split, named]
      rw [thousand, built]
      exact .thousands written all

theorem ContextField.unique {kind other : TokenKind} {key : String} {above otherAbove : Int}
    (field : ContextField kind key above) (also : ContextField other key otherAbove) :
    kind = other ∧ above = otherAbove := by
  obtain ⟨threshold, named, -, -, rfl⟩ := contextField_iff.mp field
  obtain ⟨threshold', named', -, -, rfl⟩ := contextField_iff.mp also
  obtain rfl := contextThreshold_kind named named'
  rw [named] at named'
  cases named'
  exact ⟨rfl, rfl⟩

theorem signedDigits_of_digits {digits : List Char} (all : digits.all Char.isDigit = true) :
    signedDigits digits = (parseDigits digits).map Int.ofNat := by
  cases digits with
  | nil => rfl
  | cons c rest =>
    have digit : c.isDigit = true := by
      simp only [List.all_cons, Bool.and_eq_true] at all
      exact all.1
    have minus : c ≠ '-' := by
      rintro rfl
      exact absurd digit (by decide)
    have plus : c ≠ '+' := by
      rintro rfl
      exact absurd digit (by decide)
    rw [signedDigits.eq_2 _ (by simpa using minus), unsignedDigits.eq_2 _ (by simpa using plus)]

theorem readThreshold_eq_some {digits : List Char} {multiplier above : Int}
    (read : readThreshold digits multiplier = some above) :
    ∃ number, signedDigits digits = some number ∧ above = number * multiplier ∧ 0 < above ∧ above ≤ i64Max := by
  obtain ⟨multiplied, positive⟩ := Option.filter_eq_some_iff.mp read
  obtain ⟨number, parsed, checked⟩ := Option.bind_eq_some_iff.mp multiplied
  have positive : 0 < above := by simpa using positive
  rw [parseI64, Option.filter_eq_some_iff, String.toList_ofList] at parsed
  unfold checkedMulI64 at checked
  split at checked
  · rename_i fits
    cases checked
    exact ⟨number, parsed.1, rfl, positive, fits.2⟩
  · cases checked

theorem readThreshold_digits {digits : List Char} {multiplier above : Int}
    (all : digits.all Char.isDigit = true) (read : readThreshold digits multiplier = some above) :
    digits ≠ [] ∧ above = digitsValue digits * multiplier := by
  obtain ⟨number, parsed, rfl, -, -⟩ := readThreshold_eq_some read
  rw [signedDigits_of_digits all, parseDigits] at parsed
  split at parsed
  · rename_i written
    cases parsed
    exact ⟨written.1, rfl⟩
  · cases parsed

section Fields

variable {crates : CatalogCrates Decimal}

def SettingOf (crates : CatalogCrates Decimal) (key : String) (value : Json) (kinds : List TokenKind) :
    Option (Setting TokenKind Decimal) → Prop
  | none => ∀ kind ∈ kinds, ∀ above, ¬ ContextField kind key above
  | some setting => ContextField setting.kind key setting.above ∧
      perMillion crates value = .ok setting.value ∧ 0 < setting.above ∧ setting.above ≤ i64Max

theorem litellmSetting_spec {key : String} {value : Json} {kinds : List TokenKind}
    {found : Option (Setting TokenKind Decimal)}
    (read : litellmSetting crates key value kinds = .ok found) : SettingOf crates key value kinds found := by
  induction kinds with
  | nil =>
    cases read
    exact fun kind member => absurd member List.not_mem_nil
  | cons kind kinds ih =>
    -- A field that is no context price of a kind is tried for the others.
    have passed : (∀ above, ¬ ContextField kind key above) →
        litellmSetting crates key value kinds = .ok found → SettingOf crates key value (kind :: kinds) found := by
      intro unnamed read
      have rest := ih read
      cases found with
      | some setting => exact rest
      | none =>
        intro other member
        rcases List.mem_cons.mp member with rfl | later
        · exact unnamed
        · exact rest other later
    rw [litellmSetting] at read
    split at read
    · rename_i missing
      apply passed _ read
      intro above field
      obtain ⟨threshold, named, -⟩ := contextField_iff.mp field
      rw [missing] at named
      cases named
    · rename_i threshold named
      dsimp only at read
      split at read
      · rename_i all
        obtain ⟨above, asked, read⟩ := bind_eq_ok.mp read
        obtain ⟨rate, priced, read⟩ := bind_eq_ok.mp read
        cases read
        rw [okOr_eq_ok] at asked
        obtain ⟨written, is⟩ := readThreshold_digits all asked
        obtain ⟨-, -, -, positive, fits⟩ := readThreshold_eq_some asked
        exact ⟨contextField_iff.mpr ⟨threshold, named, written, all, is⟩, priced, positive, fits⟩
      · rename_i others
        apply passed _ read
        intro above field
        obtain ⟨threshold', named', -, all, -⟩ := contextField_iff.mp field
        rw [named] at named'
        cases named'
        exact others all

def contextSetting (crates : CatalogCrates Decimal) (field : String × Json) :
    Except String (Option (Setting TokenKind Decimal)) :=
  if isLitellmRate field.1 || field.2.isNull then .ok none
  else litellmSetting crates field.1 field.2 TokenKind.all

theorem isLitellmRate_iff {key : String} : isLitellmRate key = true ↔ ∃ kind : TokenKind, kind.litellmRate = key := by
  rw [isLitellmRate, List.contains_iff_mem, List.mem_map]
  constructor
  · rintro ⟨kind, -, rfl⟩
    exact ⟨kind, rfl⟩
  · rintro ⟨kind, rfl⟩
    exact ⟨kind, kind.mem_all, rfl⟩

theorem ContextField.not_rate {kind : TokenKind} {key : String} {above : Int}
    (field : ContextField kind key above) : isLitellmRate key = false := by
  rw [← Bool.not_eq_true, isLitellmRate_iff]
  rintro ⟨other, rfl⟩
  obtain ⟨threshold, named, -⟩ := contextField_iff.mp field
  rw [litellmRate_no_context] at named
  cases named

theorem contextSetting_some {field : String × Json} {setting : Setting TokenKind Decimal}
    (read : contextSetting crates field = .ok (some setting)) :
    field.2.isNull = false ∧ ContextField setting.kind field.1 setting.above ∧
      perMillion crates field.2 = .ok setting.value ∧ 0 < setting.above ∧ setting.above ≤ i64Max := by
  unfold contextSetting at read
  split at read
  · cases read
  · rename_i kept
    simp only [Bool.or_eq_true, not_or, Bool.not_eq_true] at kept
    exact ⟨kept.2, litellmSetting_spec read⟩

theorem contextSetting_none {field : String × Json} (read : contextSetting crates field = .ok none)
    (used : field.2.isNull = false) (kind : TokenKind) (above : Int) : ¬ ContextField kind field.1 above := by
  intro named
  unfold contextSetting at read
  rw [used, named.not_rate] at read
  have spec : SettingOf crates field.1 field.2 TokenKind.all none := litellmSetting_spec read
  exact spec kind kind.mem_all above named

theorem litellmField_ok (state : Table TokenKind Decimal × Bool) (field : String × Json)
    (table : Table TokenKind Decimal) :
    (∃ next, litellmField crates state field = .ok next ∧ next.1 = table) ↔
      ∃ setting, contextSetting crates field = .ok setting ∧
        table = setting.toList.foldl set state.1 := by
  unfold litellmField contextSetting
  by_cases skipped : (isLitellmRate field.1 || field.2.isNull) = true
  · simp [skipped, eq_comm]
  · simp only [skipped, if_false, Bool.false_eq_true, bind_eq_ok]
    constructor
    · rintro ⟨next, ⟨setting, read, kept⟩, rfl⟩
      refine ⟨setting, read, ?_⟩
      cases setting <;> cases kept <;> rfl
    · rintro ⟨setting, read, rfl⟩
      cases setting
      · exact ⟨_, ⟨none, read, rfl⟩, rfl⟩
      · exact ⟨_, ⟨_, read, rfl⟩, rfl⟩

end Fields

def cardOf (values : TokenKind → Option Decimal) (settings : List (Setting TokenKind Decimal)) :
    PriceCard Decimal :=
  ⟨rates values, (inherit values (tableOf settings)).map contextTier⟩

namespace PriceCard

variable {card : PriceCard Decimal} {usage : Usage}

theorem ratesForTier_of_few (few : card.tiers.length ≤ tierLimit) :
    card.ratesForTier (card.tierIndexForUsage usage) = some (card.chosenRates usage) := by
  unfold chosenRates
  cases last : card.tiersBelow usage with
  | none =>
    rw [tierIndexForUsage_none last]
    rfl
  | some index =>
    obtain ⟨tier, here, -⟩ := overThreshold_of_tiersBelow last
    obtain ⟨inside, -⟩ := List.getElem?_eq_some_iff.mp here
    rw [tierIndexForUsage_numbered last (by omega), ratesForTier_succ, Option.bind_some, here]
    rfl

end PriceCard

section Cards

variable {values : TokenKind → Option Decimal} {settings : List (Setting TokenKind Decimal)}

theorem cardOf_thresholds :
    (cardOf values settings).tiers.map (·.overTotalInputTokens) = (tableOf settings).map (·.1) := by
  rw [← inherit_keys values, cardOf, List.map_map]
  rfl

theorem chosen_inForce {table : Table TokenKind Decimal} (increasing : SortedMaps.Increasing table)
    (base : TokenKind → Option Decimal) (usage : Usage) :
    PriceCard.chosenRates ⟨rates base, table.map contextTier⟩ usage =
      rates (inForce base table (totalInputTokens usage)) := by
  unfold PriceCard.chosenRates PriceCard.tiersBelow
  induction table generalizing base with
  | nil => rfl
  | cons first rest ih =>
    have later := ih increasing.tail first.2
    rw [List.map_cons, rposition, inForce]
    by_cases below : first.1 < totalInputTokens usage
    · rw [if_pos below, ← later]
      cases found : rposition (fun tier => decide (tier.overTotalInputTokens < totalInputTokens usage))
          (rest.map contextTier) with
      | some index =>
        obtain ⟨⟨tier, here, -⟩, -⟩ := rposition_eq_some found
        simp only [Option.bind_some, List.getElem?_cons_succ, here]
      | none => simp [contextTier, below]
    · have above : rposition (fun tier => decide (tier.overTotalInputTokens < totalInputTokens usage))
          (rest.map contextTier) = none := by
        rw [rposition_eq_none_iff]
        intro tier member
        obtain ⟨entry, there, rfl⟩ := List.mem_map.mp member
        have rises := increasing.head there
        exact decide_eq_false (by simp only [contextTier]; omega)
      rw [above, if_neg below]
      simp [contextTier, below]

theorem cardOf_chosen (usage : Usage) (kind : TokenKind) :
    Holds (values kind) (fun threshold => lastAt threshold kind settings) (totalInputTokens usage)
      (((cardOf values settings).chosenRates usage).rate kind) := by
  have increasing := increasing_tableOf settings
  have holds := inForce_holds increasing values (totalInputTokens usage) kind
  simp only [valueAt_tableOf] at holds
  rw [cardOf, chosen_inForce (inherit_increasing increasing values), rate_rates]
  exact holds

end Cards

def downloadLimit : Nat := 64 * 1024 * 1024

def IsUsed (fields : List (String × Json)) (field : String × Json) : Prop :=
  field ∈ fields ∧ field.2.isNull = false

def Unambiguous (fields : List (String × Json)) : Prop :=
  ∀ kind above field other, IsUsed fields field → IsUsed fields other →
    ContextField kind field.1 above → ContextField kind other.1 above → field.1 = other.1

/-- The field that counts for a total: the context price with the largest threshold below it, or the
base price. -/
inductive InForce (fields : List (String × Json)) (kind : TokenKind) (total : Int) (value : Json) : Prop
  | above {key : String} {threshold : Int} (used : IsUsed fields (key, value))
    (named : ContextField kind key threshold) (below : threshold < total)
    (largest : ∀ field, IsUsed fields field → ∀ other, ContextField kind field.1 other →
      other < total → other ≤ threshold)
  | base (used : IsUsed fields (kind.litellmRate, value))
    (unreached : ∀ field, IsUsed fields field → ∀ other, ContextField kind field.1 other → total ≤ other)

section Litellm

variable {crates : CatalogCrates Decimal} {fields : List (String × Json)}

theorem litellmCard_ok {card : PriceCard Decimal} :
    (∃ leftOut, litellmCard crates (.object fields) = .ok (card, leftOut)) ↔
      ∃ values, (∀ kind, litellmValue crates fields kind = .ok (values kind)) ∧ unpriced values = false ∧
        (∀ field ∈ fields, ∃ setting, contextSetting crates field = .ok setting) ∧
        card = cardOf values (readSettings (contextSetting crates) fields) := by
  have looped := fun table => @foldlM_settings _ _ _ _ _ _ (contextSetting crates) (litellmField crates)
    Prod.fst litellmField_ok fields ([], false) table
  constructor
  · rintro ⟨leftOut, read⟩
    obtain ⟨members, object, read⟩ := bind_eq_ok.mp read
    cases object
    obtain ⟨values, based, read⟩ := bind_eq_ok.mp read
    obtain ⟨priced, read⟩ := refused_eq_ok.mp read
    obtain ⟨⟨tiers, flag⟩, tiered, read⟩ := bind_eq_ok.mp read
    cases read
    obtain ⟨settings, rfl⟩ := (looped tiers).mp ⟨_, tiered, rfl⟩
    exact ⟨values, eachKind_eq_ok.mp based, by simpa using priced, settings, rfl⟩
  · rintro ⟨values, based, priced, settings, rfl⟩
    obtain ⟨⟨tiers, flag⟩, tiered, same⟩ := (looped _).mpr ⟨settings, rfl⟩
    refine ⟨flag, bind_eq_ok.mpr ⟨fields, rfl, bind_eq_ok.mpr ⟨values, eachKind_eq_ok.mpr based, ?_⟩⟩⟩
    refine refused_eq_ok.mpr ⟨by simp [priced], bind_eq_ok.mpr ⟨_, tiered, ?_⟩⟩
    cases same
    rfl

theorem lastAt_fields
    (settings : ∀ field ∈ fields, ∃ setting, contextSetting crates field = .ok setting)
    (ordered : SortedMaps.Increasing fields) (unambiguous : Unambiguous fields) {kind : TokenKind}
    {key : String} {threshold : Int} {value : Json} (used : IsUsed fields (key, value))
    (named : ContextField kind key threshold) :
    ∃ rate, lastAt threshold kind (readSettings (contextSetting crates) fields) = some rate ∧
      perMillion crates value = .ok rate := by
  obtain ⟨setting, read⟩ := settings _ used.1
  cases setting with
  | none => exact absurd named (contextSetting_none read used.2 kind threshold)
  | some setting =>
    obtain ⟨-, field, priced, -⟩ := contextSetting_some read
    obtain ⟨rfl, rfl⟩ := field.unique named
    refine ⟨setting.value, ?_, priced⟩
    apply lastAt_of_mem (mem_readSettings.mpr ⟨_, used.1, read⟩)
    intro other member above same
    obtain ⟨⟨otherKey, otherValue⟩, inside, read'⟩ := mem_readSettings.mp member
    obtain ⟨used', field', priced', -⟩ := contextSetting_some read'
    rw [above, same] at field'
    have keys : key = otherKey := unambiguous _ _ _ _ used ⟨inside, used'⟩ field field'
    subst keys
    have values : otherValue = value := by
      have equal := List.inj_on_of_nodup_map ordered.nodup inside used.1 rfl
      exact congrArg Prod.snd equal
    rw [values] at priced'
    exact Except.ok.inj (priced'.symm.trans priced)

/-- The rate for a total is a million times the price in force, and there is none without one. -/
structure RateExact (crates : CatalogCrates Decimal) (value : Decimal → ℚ) (fields : List (String × Json))
    (kind : TokenKind) (total : Int) (rate : Option Decimal) : Prop where
  priced : ∀ found, rate = some found → ∃ field price, InForce fields kind total field ∧
    decimal crates field = .ok price ∧ value found = 1000000 * value price
  complete : ∀ field, InForce fields kind total field → rate.isSome = true

theorem perMillion_exact {value : Decimal → ℚ}
    (times : ∀ price rate, crates.mul price (crates.ofI64 1000000) = some rate →
      value rate = 1000000 * value price)
    {field : Json} {rate : Decimal} (read : perMillion crates field = .ok rate) :
    ∃ price, decimal crates field = .ok price ∧ value rate = 1000000 * value price := by
  obtain ⟨price, parsed, multiplied⟩ := bind_eq_ok.mp read
  exact ⟨price, parsed, times price rate (okOr_eq_ok.mp multiplied)⟩

theorem litellmValue_spec {kind : TokenKind} {rate : Option Decimal}
    (ordered : SortedMaps.Increasing fields) (read : litellmValue crates fields kind = .ok rate) :
    (∀ found, rate = some found → ∃ value, IsUsed fields (kind.litellmRate, value) ∧
        perMillion crates value = .ok found) ∧
      ∀ value, IsUsed fields (kind.litellmRate, value) → rate.isSome = true := by
  have looked : ∀ value, (kind.litellmRate, value) ∈ fields ↔ fields.lookup kind.litellmRate = some value := by
    intro value
    constructor
    · intro member
      exact ordered.lookup_of_mem member
    · exact SortedMaps.mem_of_lookup
  unfold litellmValue at read
  cases here : (fields.lookup kind.litellmRate).filter (!·.isNull) with
  | none =>
    rw [here] at read
    cases read
    refine ⟨nofun, fun value used => ?_⟩
    have kept : (fields.lookup kind.litellmRate).filter (!·.isNull) = some value := by
      rw [(looked value).mp used.1]
      simp [used.2]
    rw [here] at kept
    cases kept
  | some value =>
    rw [here, asked] at read
    obtain ⟨found, used⟩ := Option.filter_eq_some_iff.mp here
    cases priced : perMillion crates value with
    | error message =>
      rw [priced] at read
      cases read
    | ok price =>
      rw [priced] at read
      cases read
      refine ⟨fun rate same => ?_, fun _ _ => rfl⟩
      cases same
      exact ⟨value, ⟨(looked value).mpr found, by simpa using used⟩, priced⟩

theorem litellmCard_rate {value : Decimal → ℚ}
    (times : ∀ price rate, crates.mul price (crates.ofI64 1000000) = some rate →
      value rate = 1000000 * value price)
    (ordered : SortedMaps.Increasing fields) (unambiguous : Unambiguous fields)
    (settings : ∀ field ∈ fields, ∃ setting, contextSetting crates field = .ok setting)
    {kind : TokenKind} {base rate : Option Decimal} {total : Int}
    (based : litellmValue crates fields kind = .ok base)
    (holds : Holds base
      (fun threshold => lastAt threshold kind (readSettings (contextSetting crates) fields)) total rate) :
    RateExact crates value fields kind total rate := by
  obtain ⟨priced, complete⟩ := litellmValue_spec ordered based
  rcases holds with ⟨threshold, below, set, some, above⟩ | ⟨none, rfl⟩
  · -- A field above the threshold would have set something there.
    have largest : ∀ field, IsUsed fields field → ∀ other, ContextField kind field.1 other →
        other < total → other ≤ threshold := by
      intro field used other named lower
      by_contra beyond
      obtain ⟨rate, last, -⟩ := lastAt_fields settings ordered unambiguous used named
      cases last.symm.trans (above other (by omega) lower)
    constructor
    · rintro found rfl
      obtain ⟨field, member, read⟩ := mem_readSettings.mp (lastAt_eq_some set)
      obtain ⟨used, named, read, -⟩ := contextSetting_some read
      obtain ⟨price, parsed, exactly⟩ := perMillion_exact times read
      exact ⟨field.2, price, .above ⟨member, used⟩ named below largest, parsed, exactly⟩
    · intro field _
      exact Option.isSome_iff_ne_none.mpr some
  · have unreached : ∀ field, IsUsed fields field → ∀ other, ContextField kind field.1 other →
        total ≤ other := by
      intro field used other named
      by_contra lower
      obtain ⟨rate, last, -⟩ := lastAt_fields settings ordered unambiguous used named
      cases last.symm.trans (none other (by omega))
    constructor
    · intro found same
      obtain ⟨field, used, read⟩ := priced found same
      obtain ⟨price, parsed, exactly⟩ := perMillion_exact times read
      exact ⟨field, price, .base used unreached, parsed, exactly⟩
    · rintro field (⟨used, named, below, -⟩ | ⟨used, -⟩)
      · exact absurd (unreached _ used _ named) (by omega)
      · exact complete field used

theorem litellmCard_few {card : PriceCard Decimal} {leftOut : Bool}
    (read : litellmCard crates (.object fields) = .ok (card, leftOut)) :
    card.tiers.length ≤ fields.length := by
  obtain ⟨values, -, -, -, rfl⟩ := litellmCard_ok.mp ⟨_, read⟩
  have tiers := congrArg List.length
    (@cardOf_thresholds _ values (readSettings (contextSetting crates) fields))
  rw [List.length_map, List.length_map] at tiers
  rw [tiers]
  exact (length_tableOf_le _).trans (List.length_filterMap_le _ _)

end Litellm

def plainCatalog (root : Json) (doc : List (String × Toml)) : CatalogCrates PlainDecimal :=
  { plainCrate with
    fromScientific := fun _ => .error "Invalid decimal: unknown character"
    hash := fun _ => "v1"
    fromSlice := fun _ => .ok root
    printJson := fun _ => "null"
    parseToml := fun _ => .ok doc
    printToml := fun _ => "" }

theorem plainCatalog_times (root : Json) (doc : List (String × Toml)) (price rate : PlainDecimal)
    (multiplied : (plainCatalog root doc).mul price ((plainCatalog root doc).ofI64 1000000) = some rate) :
    rate.value = 1000000 * price.value := by
  cases multiplied
  rw [PlainDecimal.value_mul, mul_comm]
  congr 1
  simp [plainCatalog, plainCrate, PlainDecimal.value]

def tieredRow : List (String × Json) :=
  [("input_cost_per_token", .number "0.000002"),
    ("input_cost_per_token_above_200k_tokens", .number "0.000004"),
    ("output_cost_per_token_above_300000_tokens", .string "0.00001")]

theorem tieredRow_unambiguous : Unambiguous tieredRow := by
  have input : ContextField .input "input_cost_per_token_above_200k_tokens" 200000 :=
    contextField_iff.mpr ⟨['2', '0', '0', 'k'], by decide, by decide, by decide, by decide⟩
  have output : ContextField .output "output_cost_per_token_above_300000_tokens" 300000 :=
    contextField_iff.mpr ⟨['3', '0', '0', '0', '0', '0'], by decide, by decide, by decide, by decide⟩
  have base : ∀ kind above, ¬ ContextField kind "input_cost_per_token" above := by
    intro kind above field
    exact absurd field.not_rate (by decide)
  rintro kind above field other ⟨member, -⟩ ⟨member', -⟩ named named'
  simp only [tieredRow, List.mem_cons, List.not_mem_nil, or_false] at member member'
  rcases member with rfl | rfl | rfl
  · exact absurd named (base _ _)
  · rcases member' with rfl | rfl | rfl
    · exact absurd named' (base _ _)
    · rfl
    · cases (named.unique input).1.symm.trans (named'.unique output).1
  · rcases member' with rfl | rfl | rfl
    · exact absurd named' (base _ _)
    · cases (named'.unique input).1.symm.trans (named.unique output).1
    · rfl

end CodexGate.Pricing
