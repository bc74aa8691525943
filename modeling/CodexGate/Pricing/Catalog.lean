import CodexGate.Foundation.Groups
import CodexGate.Foundation.Text
import CodexGate.Foundation.Thresholds
import CodexGate.Pricing.Card
import CodexGate.Pricing.Model

namespace CodexGate.Pricing

open Foundation
open Foundation.Thresholds

variable {Decimal : Type}

inductive TokenKind
  | input
  | output
  | cacheRead
  | cacheWrite
  deriving DecidableEq

namespace TokenKind

def all : List TokenKind := [.input, .output, .cacheRead, .cacheWrite]

def charge : TokenKind → String
  | input => "prompt"
  | output => "completion"
  | cacheRead => "cache_read"
  | cacheWrite => "cache_write"

def litellmRate : TokenKind → String
  | input => "input_cost_per_token"
  | output => "output_cost_per_token"
  | cacheRead => "cache_read_input_token_cost"
  | cacheWrite => "cache_creation_input_token_cost"

end TokenKind

def PriceRates.rate (rates : PriceRates Decimal) : TokenKind → Option Decimal
  | .input => rates.input
  | .output => rates.output
  | .cacheRead => rates.cacheRead
  | .cacheWrite => rates.cacheWrite

def rates (values : TokenKind → Option Decimal) : PriceRates Decimal where
  input := values .input
  output := values .output
  cacheRead := values .cacheRead
  cacheWrite := values .cacheWrite

/-- A document of `toml_edit`; `printed` is what a value prints as without its decor. -/
inductive Toml
  | string (text : String)
  | scalar (printed : String)
  | inline (members : List (String × Toml)) (printed : String)
  | table (members : List (String × Toml))
  | tables (items : List (List (String × Toml)))

namespace Toml

def asStr : Toml → Option String
  | string text => some text
  | _ => none

def asTable : Toml → Option (List (String × Toml))
  | table members => some members
  | _ => none

def asTableLike : Toml → Option (List (String × Toml))
  | table members | inline members _ => some members
  | _ => none

def get (item : Toml) (key : String) : Option Toml := item.asTableLike.bind (·.lookup key)

def rateText : Toml → Option String
  | string text => some text
  | scalar printed | inline _ printed => some (String.ofList (printed.toList.filter (· ≠ '_')))
  | table _ | tables _ => none

end Toml

structure CatalogCrates (Decimal : Type) extends DecimalCrate Decimal where
  fromScientific : String → Except String Decimal
  hash : List UInt8 → String
  fromSlice : List UInt8 → Except String Json
  printJson : Json → String
  /-- The tables of a document. -/
  parseToml : List UInt8 → Except String (List (String × Toml))
  printToml : Toml → String

structure CatalogRecord extends CatalogModel Json where
  displayName : String
  brand : String
  aliases : List String
  quoteProvider : String
  sourceVersion : String
  adaptation : String
  metadata : Json

def CatalogRecord.rename (model : CatalogRecord) (name : String) : CatalogRecord :=
  { model with modelName := name }

abbrev ParsedCatalog := String × List CatalogRecord × Nat

def indexJson (value : Json) (key : String) : Json := .ofOption (value.get key)

def eachKind {ε α : Type} (ask : TokenKind → Except ε α) : Except ε (TokenKind → α) := do
  let input ← ask .input
  let output ← ask .output
  let cacheRead ← ask .cacheRead
  let cacheWrite ← ask .cacheWrite
  .ok fun
    | .input => input
    | .output => output
    | .cacheRead => cacheRead
    | .cacheWrite => cacheWrite

/-- `transpose` of a fallible answer about something that may be missing. -/
def asked {ε α β : Type} (ask : α → Except ε β) : Option α → Except ε (Option β)
  | none => .ok none
  | some value => (ask value).map some

section Parsing

variable (crates : CatalogCrates Decimal)

def decimalOf (text : String) : Except String Decimal := do
  let read ← match crates.fromStr text with
    | some read => .ok read
    | none => crates.fromScientific text
  if crates.isSignNegative read then .error "negative price" else .ok read

def decimal (value : Json) : Except String Decimal :=
  decimalOf crates (match value with
    | .string text | .number text => text
    | other => crates.printJson other)

def chargeValue (charges : Json) (kind : TokenKind) : Except String (Option Decimal) :=
  match charges.get kind.charge with
  | none => .ok none
  | some value =>
    if (indexJson value "unit").asStr = some "per_M_tokens" then
      (decimal crates (indexJson value "price")).map some
    else .ok none

def chargeSkipped (charges : Json) (kind : TokenKind) : Bool :=
  (charges.get kind.charge).any fun value => (indexJson value "unit").asStr ≠ some "per_M_tokens"

def checkedSubI64 (a b : Int) : Option Int :=
  if i64Min ≤ a - b ∧ a - b ≤ i64Max then some (a - b) else none

def trackFactor (track : Json) : Except String Decimal := do
  let factor ← asked (decimal crates) (track.get "factor")
  .ok (factor.getD (crates.ofI64 1))

def trackValue (track : Json) (factor : Decimal) (values : TokenKind → Option Decimal)
    (kind : TokenKind) : Except String (Option Decimal) := do
  let own ← asked (decimal crates) ((indexJson track "charge_factors").get kind.charge)
  asked (fun value => okOr "price overflow" (crates.mul value (own.getD factor))) (values kind)

def trackThreshold (trigger : Json) : Except String Int := do
  let inclusive := (match indexJson trigger "inclusive" with
    | .bool inclusive => inclusive
    | _ => false)
  let threshold ← okOr "invalid context threshold"
    ((indexJson trigger "threshold").asI64.bind (checkedSubI64 · (if inclusive then 1 else 0)))
  if threshold ≤ 0 then .error "invalid context threshold" else .ok threshold

def quoteTrack (values : TokenKind → Option Decimal) (state : Table TokenKind Decimal × Bool)
    (track : Json) : Except String (Table TokenKind Decimal × Bool) := do
  let triggers ← okOr "invalid track triggers" (indexJson track "triggers").asArray
  match triggers with
  | [] => .ok state
  | [trigger] =>
    if (indexJson trigger "kind").asStr ≠ some "input_tokens_above" then .ok (state.1, true)
    else do
      let threshold ← trackThreshold trigger
      let factor ← trackFactor crates track
      let tierValues ← eachKind (trackValue crates track factor values)
      if (state.1.lookup threshold).isSome then .error "ambiguous context tiers"
      else .ok (SortedMaps.insert threshold tierValues state.1, state.2)
  | _ => .ok (state.1, true)

def contextTier (entry : Int × (TokenKind → Option Decimal)) : ContextPriceTier Decimal where
  overTotalInputTokens := entry.1
  rates := rates entry.2

def unpriced (values : TokenKind → Option Decimal) : Bool :=
  TokenKind.all.all fun kind => (values kind).isNone

def quote (p : Json) : Except String (PriceCard Decimal × Bool) := do
  let members ← okOr "missing charges" (indexJson p "charges").asObject
  let charges := indexJson p "charges"
  let others := members.any fun member => !(TokenKind.all.map TokenKind.charge).contains member.1
  let values ← eachKind (chargeValue crates charges)
  if unpriced values then .error "no supported token prices"
  else do
    let tracks := (indexJson p "tracks").asArray.getD []
    let (tiers, leftOut) ← tracks.foldlM (quoteTrack crates values)
      ([], others || TokenKind.all.any (chargeSkipped charges))
    .ok (⟨rates values, tiers.map contextTier⟩, leftOut)

def perMillionOf (text : String) : Except String Decimal := do
  let price ← decimalOf crates text
  okOr "price overflow" (crates.mul price (crates.ofI64 1000000))

def perMillion (value : Json) : Except String Decimal := do
  let price ← decimal crates value
  okOr "price overflow" (crates.mul price (crates.ofI64 1000000))

def contextThreshold (kind : TokenKind) (key : String) : Option (List Char) :=
  (key.toList.dropPrefix? (kind.litellmRate ++ "_above_").toList).bind
    (List.dropSuffix? · "_tokens".toList)

def thresholdDigits (threshold : List Char) : List Char × Int :=
  if threshold.getLast? = some 'k' then (threshold.dropLast, 1000) else (threshold, 1)

def checkedMulI64 (a b : Int) : Option Int :=
  if i64Min ≤ a * b ∧ a * b ≤ i64Max then some (a * b) else none

def readThreshold (digits : List Char) (multiplier : Int) : Option Int :=
  ((parseI64 (String.ofList digits)).bind (checkedMulI64 · multiplier)).filter (0 < ·)

def litellmSetting (key : String) (value : Json) :
    List TokenKind → Except String (Option (Setting TokenKind Decimal))
  | [] => .ok none
  | kind :: kinds =>
    match contextThreshold kind key with
    | none => litellmSetting key value kinds
    | some threshold =>
      let (digits, multiplier) := thresholdDigits threshold
      -- Prices qualified by a duration are no context tiers.
      if digits.all Char.isDigit then do
        let above ← okOr "invalid LiteLLM context threshold" (readThreshold digits multiplier)
        let rate ← perMillion crates value
        .ok (some ⟨above, kind, rate⟩)
      else litellmSetting key value kinds

def isLitellmRate (key : String) : Bool := (TokenKind.all.map TokenKind.litellmRate).contains key

def litellmField (state : Table TokenKind Decimal × Bool) (field : String × Json) :
    Except String (Table TokenKind Decimal × Bool) :=
  if isLitellmRate field.1 || field.2.isNull then .ok state
  else do
    let setting ← litellmSetting crates field.1 field.2 TokenKind.all
    match setting with
    | some setting => .ok (set state.1 setting, state.2)
    | none => .ok (state.1, state.2 || contains field.1 "cost")

def litellmValue (fields : List (String × Json)) (kind : TokenKind) : Except String (Option Decimal) :=
  asked (perMillion crates) ((fields.lookup kind.litellmRate).filter (!·.isNull))

def litellmCard (row : Json) : Except String (PriceCard Decimal × Bool) := do
  let fields ← okOr "invalid LiteLLM model" row.asObject
  let values ← eachKind (litellmValue crates fields)
  if unpriced values then .error "no supported token prices"
  else do
    let (tiers, leftOut) ← fields.foldlM (litellmField crates) ([], false)
    .ok (⟨rates values, (inherit values tiers).map contextTier⟩, leftOut)

def legacyRate (item : Toml) : Except String Decimal := do
  let text ← okOr "invalid TOML price" item.rateText
  perMillionOf crates text

def legacyField (tiers : Table TokenKind Decimal) (field : String × Toml) (kind : TokenKind) :
    Except String (Table TokenKind Decimal) :=
  match contextThreshold kind field.1 with
  | none => .ok tiers
  | some threshold => do
    let (digits, multiplier) := thresholdDigits threshold
    let above ← okOr "invalid legacy context threshold" (readThreshold digits multiplier)
    let rate ← legacyRate crates field.2
    .ok (set tiers ⟨above, kind, rate⟩)

def legacyCard (item : Toml) : Except String (PriceCard Decimal) := do
  let values ← eachKind fun kind => asked (legacyRate crates) (item.get kind.litellmRate)
  if unpriced values then .error "no prices"
  else do
    let fields ← okOr "invalid model table" item.asTableLike
    let tiers ← fields.foldlM
      (fun tiers field => TokenKind.all.foldlM (fun tiers kind => legacyField crates tiers field kind) tiers) []
    .ok ⟨rates values, (inherit values tiers).map contextTier⟩

abbrev Parsing := List CatalogRecord × Nat

def selectOffer (offers : List Json) : Option (Json × PriceCard Decimal × Bool) :=
  [true, false].findSome? fun official =>
    (offers.filter fun p => (match indexJson p "official" with
      | .bool stated => stated
      | _ => false) = official).findSome? fun p => (quote crates p).toOption.map fun q => (p, q)

def strings (value : Json) : List String := (value.asArray.getD []).filterMap Json.asStr

def rowName (row : Json) : Option String := (indexJson row "model_name").asStr.filter (· ≠ "")

def tableRecord (version name : String) (row : Json) : CatalogRecord × Nat :=
  let offers := (indexJson row "pricing").asArray.getD []
  let listed : CatalogRecord :=
    { modelName := name
      displayName := (indexJson row "display_name").asStr.getD name
      brand := (indexJson row "vendor").asStr.getD ""
      aliases := strings (indexJson row "aliases")
      priceData := none
      quoteProvider := ""
      sourceVersion := version
      adaptation := "unsupported"
      metadata := .object [("pricing", .array offers)] }
  match selectOffer crates offers with
  | some (p, card, leftOut) =>
    ({ listed with
        priceData := some (card.toJson crates.toDecimalCrate)
        quoteProvider := (indexJson p "provider").asStr.getD ""
        adaptation := if leftOut then "partial" else "supported"
        metadata := .object [("charges", indexJson p "charges"), ("source", indexJson p "source"),
          ("tracks", indexJson p "tracks"), ("warnings", indexJson p "warnings")] }, 0)
  | none => (listed, 1)

def tableRow (version : String) (state : Parsing) (row : Json) : Parsing :=
  match rowName row with
  | none => (state.1, state.2 + 1)
  | some name =>
    let (read, failed) := tableRecord crates version name row
    (state.1 ++ [read], state.2 + failed)

def litellmRecord (version name : String) (row : Json) : CatalogRecord × Nat :=
  let listed : CatalogRecord :=
    { modelName := name
      displayName := (indexJson row "display_name").asStr.getD name
      brand := ""
      aliases := []
      priceData := none
      quoteProvider := (indexJson row "litellm_provider").asStr.getD ""
      sourceVersion := version
      adaptation := "unsupported"
      metadata := row }
  match litellmCard crates row with
  | .ok (card, leftOut) =>
    ({ listed with
        priceData := some (card.toJson crates.toDecimalCrate)
        adaptation := if leftOut then "partial" else "supported" }, 0)
  | .error _ => (listed, 1)

def litellmRow (version : String) (state : Parsing) (row : String × Json) : Parsing :=
  if row.1 = "sample_spec" then state
  else if row.1 = "" ∨ row.2.asObject.isNone then (state.1, state.2 + 1)
  else
    let (read, failed) := litellmRecord crates version row.1 row.2
    (state.1 ++ [read], state.2 + failed)

def legacyRecord (version name : String) (item : Toml) : CatalogRecord × Nat :=
  let listed : CatalogRecord :=
    { modelName := name
      displayName := ((item.get "display_name").bind Toml.asStr).getD name
      brand := ""
      aliases := []
      priceData := none
      quoteProvider := ((item.get "litellm_provider").bind Toml.asStr).getD "legacy"
      sourceVersion := version
      adaptation := "unsupported"
      metadata := .object [("legacy_toml", .string (crates.printToml item))] }
  match legacyCard crates item with
  | .ok card =>
    ({ listed with
        priceData := some (card.toJson crates.toDecimalCrate)
        adaptation := "partial" }, 0)
  | .error _ => (listed, 1)

def legacyRow (version : String) (state : Parsing) (row : String × Toml) : Parsing :=
  if row.1 = "metadata" then state
  else
    let (read, failed) := legacyRecord crates version row.1 row.2
    (state.1 ++ [read], state.2 + failed)

end Parsing

def keptModels (models : List CatalogRecord) : List CatalogRecord :=
  (orderedGroups (·.modelName) models).filterMap fun group =>
    match group.2 with
    | [model] => some model
    | _ => none

def sharedRows (models : List CatalogRecord) : Nat :=
  ((orderedGroups (·.modelName) models).map fun group =>
    if group.2.length = 1 then 0 else group.2.length).sum

def aliasClaims (canonical : List String) (kept : List CatalogRecord) : List (String × Nat) :=
  kept.zipIdx.flatMap fun (model, index) =>
    (model.aliases.filter fun name => name ≠ "" && !canonical.contains name).map fun name => (name, index)

def aliasModels (canonical : List String) (kept : List CatalogRecord) : List CatalogRecord :=
  (orderedGroups (·.1) (aliasClaims canonical kept)).filterMap fun group =>
    match (group.2.map (·.2)).dedup with
    | [index] => kept[index]?.map fun model => model.rename group.1
    | _ => none

def finalize (version : String) (models : List CatalogRecord) (failed : Nat) :
    Except String ParsedCatalog :=
  let kept := keptModels models
  if kept.all (·.priceData.isNone) then .error "catalog contains no valid token prices"
  else
    .ok (version, kept ++ aliasModels (models.map (·.modelName)) kept, failed + sharedRows models)

section Documents

variable (crates : CatalogCrates Decimal)

def parseTable (root : Json) (hash : String) : Except String ParsedCatalog :=
  if (indexJson root "schema").asStr ≠ some "cchp.pricing-table/v1" ∨
      (indexJson root "currency").asStr ≠ some "USD" then
    .error "unsupported pricing schema or currency"
  else do
    let version := (indexJson root "version").asStr.getD hash
    let rows ← okOr "models must be an array" (indexJson root "models").asArray
    let (models, failed) := rows.foldl (tableRow crates version) ([], 0)
    finalize version models failed

def parseLitellm (root : Json) (version : String) : Except String ParsedCatalog := do
  let rows ← okOr "LiteLLM catalog must be an object" root.asObject
  let (models, failed) := rows.foldl (litellmRow crates version) ([], 0)
  finalize version models failed

def legacyVersion (doc : List (String × Toml)) (hash : String) : String :=
  (((doc.lookup "metadata").bind (·.get "version")).bind Toml.asStr).getD hash

def legacyModels (doc : List (String × Toml)) : List (String × Toml) :=
  ((doc.lookup "models").bind Toml.asTable).getD doc

def parseToml (bytes : List UInt8) (hash : String) : Except String ParsedCatalog := do
  let doc ← crates.parseToml bytes
  let version := legacyVersion doc hash
  let (models, failed) := (legacyModels doc).foldl (legacyRow crates version) ([], 0)
  finalize version models failed

def isAsciiWhitespace (byte : UInt8) : Bool := byte ∈ [9, 10, 12, 13, 32]

def startsObject (bytes : List UInt8) : Bool :=
  bytes.find? (fun byte => !isAsciiWhitespace byte) = some 123

def parse (bytes : List UInt8) : Except String ParsedCatalog :=
  let hash := crates.hash bytes
  if startsObject bytes then do
    let root ← crates.fromSlice bytes
    if (root.get "schema").isNone then parseLitellm crates root hash else parseTable crates root hash
  else parseToml crates bytes hash

end Documents

end CodexGate.Pricing
