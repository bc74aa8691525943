import CodexGate.Foundation.Json
import CodexGate.Types

namespace CodexGate.Pricing

open Foundation

/-- What is used of the decimals of `rust_decimal`. An operation that aborts has no result. -/
structure DecimalCrate (Decimal : Type) where
  zero : Decimal
  ofI64 : Int → Decimal
  isSignNegative : Decimal → Bool
  fromStr : String → Option Decimal
  /-- `normalize().to_string()` -/
  normalized : Decimal → String
  mul : Decimal → Decimal → Option Decimal
  add : Decimal → Decimal → Option Decimal
  div : Decimal → Decimal → Option Decimal

variable {Decimal : Type}

def tokensPerMillion : Int := 1000000
def priceSchemaVersion : Nat := 2
def priceUnit : String := "usd_per_million_tokens"

structure PriceRates (Decimal : Type) where
  input : Option Decimal
  output : Option Decimal
  cacheRead : Option Decimal
  cacheWrite : Option Decimal

structure ContextPriceTier (Decimal : Type) where
  overTotalInputTokens : Int
  rates : PriceRates Decimal

structure PriceCard (Decimal : Type) where
  base : PriceRates Decimal
  tiers : List (ContextPriceTier Decimal)

def PriceRates.isDefault (rates : PriceRates Decimal) : Bool :=
  rates.input.isNone && rates.output.isNone && rates.cacheRead.isNone && rates.cacheWrite.isNone

def rateText : Json → Option String
  | .string text | .number text => some text
  | _ => none

section Parsing

variable (crate : DecimalCrate Decimal)

def parseOptionalRate (value : Option Json) (path : String) : Except String (Option Decimal) :=
  match value with
  | none | some .null => .ok none
  | some value => do
    let text ← okOr s!"{path} must be a decimal string, number, or null" (rateText value)
    let parsed ← okOr s!"{path} must be a valid decimal" (crate.fromStr text)
    if crate.isSignNegative parsed then .error s!"{path} must be greater than or equal to 0"
    else .ok (some parsed)

def parseRequiredRate (object : Json) (key path : String) : Except String (Option Decimal) := do
  let value ← okOr s!"{path}.{key} is required" (object.get key)
  parseOptionalRate crate (some value) s!"{path}.{key}"

def parseCompleteRates (value : Json) (path : String) : Except String (PriceRates Decimal) := do
  let _ ← okOr s!"{path} must be an object" value.asObject
  let input ← parseRequiredRate crate value "input" path
  let output ← parseRequiredRate crate value "output" path
  let cacheRead ← parseRequiredRate crate value "cache_read" path
  let cacheWrite ← parseRequiredRate crate value "cache_write" path
  .ok ⟨input, output, cacheRead, cacheWrite⟩

def parseTiers (index : Nat) (previousThreshold : Int) :
    List Json → Except String (List (ContextPriceTier Decimal))
  | [] => .ok []
  | tier :: rest => do
    let _ ← okOr s!"tiers[{index}] must be an object" tier.asObject
    let threshold ← okOr s!"tiers[{index}].over_total_input_tokens must be an integer"
      ((tier.get "over_total_input_tokens").bind Json.asI64)
    if threshold ≤ 0 then .error s!"tiers[{index}].over_total_input_tokens must be greater than 0"
    else if threshold ≤ previousThreshold then
      .error "tier thresholds must be unique and strictly increasing"
    else do
      let value ← okOr s!"tiers[{index}].rates is required" (tier.get "rates")
      let rates ← parseCompleteRates crate value s!"tiers[{index}].rates"
      let tiers ← parseTiers (index + 1) threshold rest
      .ok (⟨threshold, rates⟩ :: tiers)

namespace PriceCard

def fromV2Json (value : Json) : Except String (PriceCard Decimal) := do
  let _ ← okOr "price_data must be an object" value.asObject
  let schemaVersion ← okOr "schema_version must be 2" ((value.get "schema_version").bind Json.asU64)
  if schemaVersion ≠ priceSchemaVersion then
    .error s!"unsupported price schema_version: {schemaVersion}"
  else if (value.get "unit").bind Json.asStr ≠ some priceUnit then .error s!"unit must be {priceUnit}"
  else do
    let base ← okOr "base is required" (value.get "base")
    let base ← parseCompleteRates crate base "base"
    let tiers ← okOr "tiers is required" (value.get "tiers")
    let tiers ← okOr "tiers must be an array" tiers.asArray
    let tiers ← parseTiers crate 0 0 tiers
    .ok ⟨base, tiers⟩

/-- A primary rate for cache writes that is `null` does not fall back. -/
def fromLegacyJson (value : Json) : Except String (PriceCard Decimal) := do
  let _ ← okOr "price_data must be an object" value.asObject
  let cacheWriteKey :=
    if (value.get "cache_creation_input_token_cost").isSome then "cache_creation_input_token_cost"
    else "cache_creation_input_token_cost_above_1hr"
  let cacheWrite ← parseOptionalRate crate (value.get cacheWriteKey) cacheWriteKey
  let input ← parseOptionalRate crate (value.get "input_cost_per_token") "input_cost_per_token"
  let output ← parseOptionalRate crate (value.get "output_cost_per_token") "output_cost_per_token"
  let cacheRead ← parseOptionalRate crate (value.get "cache_read_input_token_cost")
    "cache_read_input_token_cost"
  let base : PriceRates Decimal := ⟨input, output, cacheRead, cacheWrite⟩
  if base.isDefault then .error "price_data must contain at least one price rate"
  else .ok ⟨base, []⟩

def fromJson (value : Json) : Except String (PriceCard Decimal) :=
  if (value.get "schema_version").isSome ∨ (value.get "base").isSome then fromV2Json crate value
  else fromLegacyJson crate value

end PriceCard

def rateToJson (rate : Option Decimal) : Json :=
  match rate with
  | some value => .string (crate.normalized value)
  | none => .null

def ratesToJson (rates : PriceRates Decimal) : Json :=
  .object [("cache_read", rateToJson crate rates.cacheRead),
    ("cache_write", rateToJson crate rates.cacheWrite),
    ("input", rateToJson crate rates.input),
    ("output", rateToJson crate rates.output)]

def tierToJson (tier : ContextPriceTier Decimal) : Json :=
  .object [("over_total_input_tokens", .ofInt tier.overTotalInputTokens),
    ("rates", ratesToJson crate tier.rates)]

def PriceCard.toJson (card : PriceCard Decimal) : Json :=
  .object [("base", ratesToJson crate card.base),
    ("schema_version", .ofNat priceSchemaVersion),
    ("tiers", .array (card.tiers.map (tierToJson crate))),
    ("unit", .string priceUnit)]

end Parsing

def totalInputTokens (usage : Usage) : Int :=
  saturatingAddI64
    (saturatingAddI64 (max usage.inputTokens 0) (max usage.cacheReadInputTokens 0))
    (max usage.cacheCreationInputTokens 0)

/-- `Iterator::rposition`, the index of the last item that passes. -/
def rposition {α : Type} (passes : α → Bool) : List α → Option Nat
  | [] => none
  | item :: rest =>
    match rposition passes rest with
    | some index => some (index + 1)
    | none => if passes item then some 0 else none

def tierNumber (index : Nat) : Int := wrapI32 (wrapI32 index + 1)

namespace PriceCard

def tierIndexForUsage (card : PriceCard Decimal) (usage : Usage) : Int :=
  let total := totalInputTokens usage
  ((rposition (fun tier => tier.overTotalInputTokens < total) card.tiers).map tierNumber).getD 0

def ratesForTier (card : PriceCard Decimal) (tierIndex : Int) : Option (PriceRates Decimal) :=
  if tierIndex = 0 then some card.base
  else if 0 < tierIndex then card.tiers[tierIndex.toNat - 1]?.map (·.rates)
  else none

end PriceCard

end CodexGate.Pricing
