import CodexGate.Pricing.CatalogNames
import Mathlib.Data.List.Sort

namespace CodexGate.Pricing

open Foundation
open Foundation.Thresholds

variable {Decimal : Type}

inductive FlatValue
  | string (text : String)
  | number (text : String)

namespace FlatValue

def text : FlatValue → String
  | string text | number text => text

def json : FlatValue → Json
  | string text => .string text
  | number text => .number text

def toml : FlatValue → Toml
  | string text => .string text
  | number text => .scalar text

def IsPlain : FlatValue → Prop
  | string _ => True
  | number text => text.toList.head?.any Char.isDigit = true ∧
      ∀ c ∈ text.toList, c.isDigit = true ∨ c ∈ ['.', 'e', 'E', '+', '-']

end FlatValue

abbrev FlatRow := List (String × FlatValue)

namespace FlatRow

def jsonFields (row : FlatRow) : List (String × Json) :=
  (SortedMaps.inKeyOrder row).map fun field => (field.1, field.2.json)

def tomlFields (row : FlatRow) : List (String × Toml) := row.map fun field => (field.1, field.2.toml)

def json (row : FlatRow) : Json := .object row.jsonFields

def toml (row : FlatRow) : Toml := .table row.tomlFields

structure WellFormed (row : FlatRow) : Prop where
  distinct : (row.map Prod.fst).Nodup
  plain : ∀ field ∈ row, field.2.IsPlain

end FlatRow

structure FlatTable where
  rows : List (String × FlatRow)
  distinct : (rows.map Prod.fst).Nodup
  formed : ∀ row ∈ rows, row.2.WellFormed
  named : ∀ row ∈ rows, row.1 ∉ ["", "sample_spec", "metadata", "models", "schema"]

namespace FlatTable

def json (table : FlatTable) : Json :=
  .object ((SortedMaps.inKeyOrder table.rows).map fun row => (row.1, row.2.json))

def toml (table : FlatTable) : List (String × Toml) := table.rows.map fun row => (row.1, row.2.toml)

end FlatTable

def contextOf (key : String) : Option (TokenKind × List Char) :=
  TokenKind.all.findSome? fun kind => (contextThreshold kind key).map fun threshold => (kind, threshold)

theorem contextOf_eq_some {key : String} {kind : TokenKind} {threshold : List Char} :
    contextOf key = some (kind, threshold) ↔ contextThreshold kind key = some threshold := by
  constructor
  · intro found
    obtain ⟨other, -, same⟩ := List.exists_of_findSome?_eq_some found
    obtain ⟨_, named, same⟩ := Option.map_eq_some_iff.mp same
    cases same
    exact named
  · intro named
    cases found : contextOf key with
    | none =>
      have missing := List.findSome?_eq_none_iff.mp found kind kind.mem_all
      simp [named] at missing
    | some pair =>
      obtain ⟨other, -, same⟩ := List.exists_of_findSome?_eq_some found
      obtain ⟨_, also, same⟩ := Option.map_eq_some_iff.mp same
      obtain rfl := contextThreshold_kind named also
      rw [named] at also
      cases also
      rw [← same]

theorem contextOf_eq_none {key : String} :
    contextOf key = none ↔ ∀ kind, contextThreshold kind key = none := by
  rw [contextOf, List.findSome?_eq_none_iff]
  simp [TokenKind.mem_all]

def Qualified (key : String) : Prop :=
  ∃ kind threshold, contextThreshold kind key = some threshold ∧
    (thresholdDigits threshold).1.all Char.isDigit = false

instance (key : String) : Decidable (Qualified key) :=
  decidable_of_iff ((contextOf key).any fun named => !(thresholdDigits named.2).1.all Char.isDigit) <| by
    simp only [Option.any_eq_true, Bool.not_eq_true', Prod.exists, contextOf_eq_some]
    rfl

section Fields

variable (crates : CatalogCrates Decimal)

def legacySetting (field : String × Toml) : Except String (Option (Setting TokenKind Decimal)) :=
  match contextOf field.1 with
  | none => .ok none
  | some (kind, threshold) => do
    let above ← okOr "invalid legacy context threshold"
      (readThreshold (thresholdDigits threshold).1 (thresholdDigits threshold).2)
    let rate ← legacyRate crates field.2
    .ok (some ⟨above, kind, rate⟩)

variable {crates}

theorem legacyField_other {tiers : Table TokenKind Decimal} {field : String × Toml} {kind : TokenKind}
    (other : contextThreshold kind field.1 = none) : legacyField crates tiers field kind = .ok tiers := by
  rw [legacyField, other]

theorem legacyField_named {tiers : Table TokenKind Decimal} {field : String × Toml} {kind : TokenKind}
    {threshold : List Char} (named : contextThreshold kind field.1 = some threshold) :
    legacyField crates tiers field kind = (legacySetting crates field).map fun setting =>
      setting.toList.foldl set tiers := by
  rw [legacyField, named, legacySetting, contextOf_eq_some.mpr named]
  dsimp only
  cases okOr "invalid legacy context threshold"
      (readThreshold (thresholdDigits threshold).1 (thresholdDigits threshold).2) with
  | error message => rfl
  | ok above =>
    cases legacyRate crates field.2 with
    | error message => rfl
    | ok rate => rfl

theorem legacyKinds (tiers : Table TokenKind Decimal) (field : String × Toml) :
    TokenKind.all.foldlM (fun tiers kind => legacyField crates tiers field kind) tiers =
      (legacySetting crates field).map fun setting => setting.toList.foldl set tiers := by
  cases found : contextOf field.1 with
  | none =>
    have other := contextOf_eq_none.mp found
    simp only [TokenKind.all, List.foldlM_cons, List.foldlM_nil, legacyField_other (other _), legacySetting,
      found]
    rfl
  | some pair =>
    obtain ⟨kind, threshold⟩ := pair
    have named := contextOf_eq_some.mp found
    have each : ∀ tiers kind', legacyField crates tiers field kind' =
        if kind' = kind then (legacySetting crates field).map fun setting => setting.toList.foldl set tiers
        else .ok tiers := by
      intro tiers kind'
      split
      · rename_i same
        rw [same, legacyField_named named]
      · rename_i apart
        apply legacyField_other
        by_contra also
        obtain ⟨threshold', also⟩ := Option.ne_none_iff_exists'.mp also
        exact apart (contextThreshold_kind also named)
    simp only [TokenKind.all, List.foldlM_cons, List.foldlM_nil, each]
    cases legacySetting crates field with
    | error message => cases kind <;> rfl
    | ok setting => cases kind <;> rfl

theorem perMillion_json (value : FlatValue) :
    perMillion crates value.json = perMillionOf crates value.text := by
  cases value <;> rfl

theorem legacyRate_toml {value : FlatValue} (plain : value.IsPlain) :
    legacyRate crates value.toml = perMillionOf crates value.text := by
  cases value with
  | string text => rfl
  | number text =>
    have kept : text.toList.filter (· ≠ '_') = text.toList := by
      rw [List.filter_eq_self]
      intro c member
      rcases plain.2 c member with digit | sign
      · exact decide_eq_true (by rintro rfl; exact absurd digit (by decide))
      · exact decide_eq_true (by rintro rfl; exact absurd sign (by decide))
    show perMillionOf crates (String.ofList (text.toList.filter (· ≠ '_'))) = _
    rw [kept, String.ofList_toList]
    rfl

theorem json_isNull (value : FlatValue) : value.json.isNull = false := by
  cases value <;> rfl

theorem contextSetting_json (key : String) (value : FlatValue) :
    contextSetting crates (key, value.json) =
      match contextOf key with
      | none => .ok none
      | some (kind, threshold) =>
        if (thresholdDigits threshold).1.all Char.isDigit then do
          let above ← okOr "invalid LiteLLM context threshold"
            (readThreshold (thresholdDigits threshold).1 (thresholdDigits threshold).2)
          let rate ← perMillionOf crates value.text
          .ok (some ⟨above, kind, rate⟩)
        else .ok none := by
  unfold contextSetting
  rw [json_isNull, Bool.or_false]
  cases found : contextOf key with
  | none =>
    have other := contextOf_eq_none.mp found
    simp [litellmSetting, TokenKind.all, other]
  | some pair =>
    obtain ⟨kind, threshold⟩ := pair
    have named := contextOf_eq_some.mp found
    have base : isLitellmRate key = false := by
      rw [← Bool.not_eq_true, isLitellmRate_iff]
      rintro ⟨other, rfl⟩
      rw [litellmRate_no_context] at named
      cases named
    have each : ∀ other, contextThreshold other key = if other = kind then some threshold else none := by
      intro other
      split
      · rename_i same
        rw [same, named]
      · rename_i apart
        by_contra also
        obtain ⟨threshold', also⟩ := Option.ne_none_iff_exists'.mp also
        exact apart (contextThreshold_kind also named)
    rw [base]
    cases kind <;> simp [litellmSetting, TokenKind.all, each, perMillion_json]

theorem contextSetting_qualified {key : String} (qualified : Qualified key) (value : FlatValue) :
    contextSetting crates (key, value.json) = .ok none := by
  obtain ⟨kind, threshold, named, other⟩ := qualified
  rw [contextSetting_json, contextOf_eq_some.mpr named]
  simp [other]

theorem contextSetting_legacy {key : String} (plainKey : ¬ Qualified key) {value : FlatValue}
    (plain : value.IsPlain) :
    (contextSetting crates (key, value.json)).toOption = (legacySetting crates (key, value.toml)).toOption := by
  rw [contextSetting_json, legacySetting]
  cases found : contextOf key with
  | none => rfl
  | some pair =>
    obtain ⟨kind, threshold⟩ := pair
    have digits : (thresholdDigits threshold).1.all Char.isDigit = true := by
      by_contra other
      exact plainKey ⟨kind, threshold, contextOf_eq_some.mp found, by simpa using other⟩
    dsimp only
    rw [if_pos digits, legacyRate_toml plain]
    cases readThreshold (thresholdDigits threshold).1 (thresholdDigits threshold).2 with
    | none => rfl
    | some above => rfl

end Fields

section Rows

variable (crates : CatalogCrates Decimal) (row : FlatRow)

def baseRate (kind : TokenKind) : Except String (Option Decimal) :=
  asked (perMillionOf crates) ((row.lookup kind.litellmRate).map FlatValue.text)

def plainSettings : List (Setting TokenKind Decimal) :=
  readSettings (contextSetting crates) row.jsonFields

def legacySettings : List (Setting TokenKind Decimal) :=
  readSettings (legacySetting crates) row.tomlFields

structure Readable : Prop where
  base : ∀ kind, ∃ rate, baseRate crates row kind = .ok rate
  priced : ∃ kind : TokenKind, (row.lookup kind.litellmRate).isSome = true
  context : ∀ field ∈ row, ∃ setting, contextSetting crates (field.1, field.2.json) = .ok setting

def QualifiedRead : Prop :=
  ∀ field ∈ row, Qualified field.1 → ∃ setting, legacySetting crates (field.1, field.2.toml) = .ok setting

/-- With the qualified prices, and in the order of the table, there are no more thresholds, and no rate
is printed differently. -/
structure Idle : Prop where
  thresholds : ∀ setting ∈ legacySettings crates row, ∃ plain ∈ plainSettings crates row,
    plain.above = setting.above
  rates : ∀ kind base total rate legacy, baseRate crates row kind = .ok base →
    Holds base (fun threshold => lastAt threshold kind (plainSettings crates row)) total rate →
    Holds base (fun threshold => lastAt threshold kind (legacySettings crates row)) total legacy →
    rate.map crates.normalized = legacy.map crates.normalized

/-- A row whose prices are not read at all, or in which the qualified ones make no difference. -/
def Alike : Prop := Readable crates row → QualifiedRead crates row ∧ Idle crates row

variable {crates row}

theorem lookup_fields {β γ : Type} (written : β → γ) (fields : List (String × β)) (key : String) :
    (fields.map fun field => (field.1, written field.2)).lookup key = (fields.lookup key).map written := by
  induction fields with
  | nil => rfl
  | cons field rest ih =>
    rw [List.map_cons, List.lookup_cons, List.lookup_cons, ih]
    split <;> rfl

theorem jsonFields_lookup (distinct : (row.map Prod.fst).Nodup) (key : String) :
    row.jsonFields.lookup key = (row.lookup key).map FlatValue.json := by
  have ordered := SortedMaps.inKeyOrder_increasing distinct
  have same : (SortedMaps.inKeyOrder row).lookup key = row.lookup key := by
    apply Option.ext
    intro value
    constructor
    · intro found
      have member := SortedMaps.mem_inKeyOrder.mp (SortedMaps.mem_of_lookup found)
      exact SortedMaps.lookup_of_nodup distinct member
    · intro found
      exact ordered.lookup_of_mem (SortedMaps.mem_inKeyOrder.mpr (SortedMaps.mem_of_lookup found))
  rw [FlatRow.jsonFields, lookup_fields, same]

theorem litellmValue_json (distinct : (row.map Prod.fst).Nodup) (kind : TokenKind) :
    litellmValue crates row.jsonFields kind = baseRate crates row kind := by
  rw [litellmValue, jsonFields_lookup distinct, baseRate]
  cases row.lookup kind.litellmRate with
  | none => rfl
  | some value =>
    have kept : Option.filter (fun v => !v.isNull) (some value.json) = some value.json := by
      rw [Option.filter_some, json_isNull]
      rfl
    rw [Option.map_some, Option.map_some, kept, asked, asked, perMillion_json]

theorem legacyValue_toml (plain : ∀ field ∈ row, field.2.IsPlain) (kind : TokenKind) :
    asked (legacyRate crates) (row.toml.get kind.litellmRate) = baseRate crates row kind := by
  have looked : row.toml.get kind.litellmRate = (row.lookup kind.litellmRate).map FlatValue.toml :=
    lookup_fields FlatValue.toml row kind.litellmRate
  rw [looked, baseRate]
  cases found : row.lookup kind.litellmRate with
  | none => rfl
  | some value =>
    have member := SortedMaps.mem_of_lookup found
    simp [asked, legacyRate_toml (plain _ member)]

theorem unpriced_eq {values : TokenKind → Option Decimal}
    (based : ∀ kind, baseRate crates row kind = .ok (values kind)) :
    unpriced values = false ↔ ∃ kind : TokenKind, (row.lookup kind.litellmRate).isSome = true := by
  have each : ∀ kind, (values kind).isSome = (row.lookup kind.litellmRate).isSome := by
    intro kind
    have here := based kind
    unfold baseRate at here
    cases found : row.lookup kind.litellmRate with
    | none =>
      rw [found, Option.map_none, asked] at here
      rw [← Except.ok.inj here]
      rfl
    | some value =>
      rw [found, Option.map_some, asked] at here
      cases read : perMillionOf crates value.text with
      | error message =>
        rw [read] at here
        cases here
      | ok rate =>
        rw [read] at here
        rw [← Except.ok.inj here]
        rfl
  have some : unpriced values = false ↔ ∃ kind, (values kind).isSome = true := by
    simp only [unpriced, List.all_eq_false, TokenKind.mem_all, true_and, Bool.not_eq_true,
      Option.isNone_eq_false_iff]
  rw [some]
  simp only [each]

theorem litellmCard_row (distinct : (row.map Prod.fst).Nodup) {card : PriceCard Decimal} :
    (∃ leftOut, litellmCard crates row.json = .ok (card, leftOut)) ↔
      Readable crates row ∧ ∃ values, (∀ kind, baseRate crates row kind = .ok (values kind)) ∧
        card = cardOf values (plainSettings crates row) := by
  have fields : (∀ field ∈ row.jsonFields, ∃ setting, contextSetting crates field = .ok setting) ↔
      ∀ field ∈ row, ∃ setting, contextSetting crates (field.1, field.2.json) = .ok setting := by
    simp only [FlatRow.jsonFields, List.forall_mem_map, SortedMaps.mem_inKeyOrder]
  rw [FlatRow.json, litellmCard_ok]
  simp only [litellmValue_json distinct, fields]
  constructor
  · rintro ⟨values, based, priced, settings, same⟩
    exact ⟨⟨fun kind => ⟨_, based kind⟩, (unpriced_eq based).mp priced, settings⟩, values, based, same⟩
  · rintro ⟨readable, values, based, same⟩
    exact ⟨values, based, (unpriced_eq based).mpr readable.priced, readable.context, same⟩

theorem legacyCard_ok {item : Toml} {members : List (String × Toml)} (isTable : item.asTableLike = some members)
    {card : PriceCard Decimal} :
    legacyCard crates item = .ok card ↔
      ∃ values, (∀ kind, asked (legacyRate crates) (item.get kind.litellmRate) =
          .ok (values kind)) ∧ unpriced values = false ∧
        (∀ field ∈ members, ∃ setting, legacySetting crates field = .ok setting) ∧
        card = cardOf values (readSettings (legacySetting crates) members) := by
  have each : ∀ (state : Table TokenKind Decimal) (field : String × Toml) (table : Table TokenKind Decimal),
      (∃ next, TokenKind.all.foldlM (fun tiers kind => legacyField crates tiers field kind) state = .ok next ∧
        id next = table) ↔ ∃ setting, legacySetting crates field = .ok setting ∧
          table = setting.toList.foldl set (id state) := by
    intro state field table
    rw [legacyKinds]
    cases legacySetting crates field <;> simp [Except.map, eq_comm]
  have looped := fun table => @foldlM_settings _ _ _ _ _ _ (legacySetting crates) _ id each members [] table
  constructor
  · intro read
    obtain ⟨values, based, read⟩ := bind_eq_ok.mp read
    obtain ⟨priced, read⟩ := refused_eq_ok.mp read
    obtain ⟨fields, found, read⟩ := bind_eq_ok.mp read
    rw [isTable] at found
    cases found
    obtain ⟨tiers, tiered, read⟩ := bind_eq_ok.mp read
    cases read
    obtain ⟨settings, rfl⟩ := (looped tiers).mp ⟨tiers, tiered, rfl⟩
    exact ⟨values, eachKind_eq_ok.mp based, by simpa using priced, settings, rfl⟩
  · rintro ⟨values, based, priced, settings, rfl⟩
    obtain ⟨tiers, tiered, same⟩ := (looped _).mpr ⟨settings, rfl⟩
    refine bind_eq_ok.mpr ⟨values, eachKind_eq_ok.mpr based, refused_eq_ok.mpr ⟨by simp [priced], ?_⟩⟩
    refine bind_eq_ok.mpr ⟨members, okOr_eq_ok.mpr isTable, bind_eq_ok.mpr ⟨tiers, tiered, ?_⟩⟩
    cases same
    rfl

theorem legacyCard_row (formed : row.WellFormed) {card : PriceCard Decimal} :
    legacyCard crates row.toml = .ok card ↔
      (Readable crates row ∧ QualifiedRead crates row) ∧
        ∃ values, (∀ kind, baseRate crates row kind = .ok (values kind)) ∧
          card = cardOf values (legacySettings crates row) := by
  -- What is not qualified is read by both loops or by neither.
  have fields : (∀ field ∈ row.tomlFields, ∃ setting, legacySetting crates field = .ok setting) ↔
      (∀ field ∈ row, ∃ setting, contextSetting crates (field.1, field.2.json) = .ok setting) ∧
        QualifiedRead crates row := by
    have option : ∀ {α : Type} {x : Except String α}, (∃ value, x = .ok value) ↔ x.toOption.isSome = true := by
      intro α x
      cases x <;> simp [Except.toOption]
    simp only [FlatRow.tomlFields, List.forall_mem_map]
    constructor
    · intro all
      refine ⟨fun field member => ?_, fun field member _ => all field member⟩
      by_cases qualified : Qualified field.1
      · exact ⟨none, contextSetting_qualified qualified field.2⟩
      · rw [option, contextSetting_legacy qualified (formed.plain field member), ← option]
        exact all field member
    · rintro ⟨plain, others⟩ field member
      by_cases qualified : Qualified field.1
      · exact others field member qualified
      · rw [option, ← contextSetting_legacy qualified (formed.plain field member), ← option]
        exact plain field member
  have based : ∀ kind, asked (legacyRate crates) ((Toml.table row.tomlFields).get kind.litellmRate) =
      baseRate crates row kind := legacyValue_toml formed.plain
  rw [FlatRow.toml, legacyCard_ok rfl]
  simp only [based, fields]
  constructor
  · rintro ⟨values, based, priced, ⟨settings, others⟩, same⟩
    exact ⟨⟨⟨fun kind => ⟨_, based kind⟩, (unpriced_eq based).mp priced, settings⟩, others⟩, values, based, same⟩
  · rintro ⟨⟨readable, others⟩, values, based, same⟩
    exact ⟨values, based, (unpriced_eq based).mpr readable.priced, ⟨readable.context, others⟩, same⟩

end Rows

section Printed

variable {crate : DecimalCrate Decimal}

theorem rateToJson_inj {rate other : Option Decimal} :
    rateToJson crate rate = rateToJson crate other ↔ rate.map crate.normalized = other.map crate.normalized := by
  cases rate <;> cases other <;> simp [rateToJson]

theorem ratesToJson_inj {values other : TokenKind → Option Decimal} :
    ratesToJson crate (rates values) = ratesToJson crate (rates other) ↔
      ∀ kind, (values kind).map crate.normalized = (other kind).map crate.normalized := by
  simp only [ratesToJson, rates, Json.object.injEq, List.cons.injEq, Prod.mk.injEq, true_and, and_true,
    rateToJson_inj]
  constructor
  · rintro ⟨cacheRead, cacheWrite, input, output⟩ kind
    cases kind
    · exact input
    · exact output
    · exact cacheRead
    · exact cacheWrite
  · exact fun each => ⟨each .cacheRead, each .cacheWrite, each .input, each .output⟩

theorem ofInt_inj {n m : Int} : Json.ofInt n = Json.ofInt m ↔ n = m := by
  constructor
  · intro same
    have text : toString n = toString m := Json.number.inj same
    have read := Json.signedDigits_toString n
    rw [text, Json.signedDigits_toString] at read
    exact (Option.some.inj read).symm
  · exact congrArg Json.ofInt

theorem tierToJson_inj {entry other : Int × (TokenKind → Option Decimal)} :
    tierToJson crate (contextTier entry) = tierToJson crate (contextTier other) ↔
      entry.1 = other.1 ∧
        ∀ kind, (entry.2 kind).map crate.normalized = (other.2 kind).map crate.normalized := by
  simp only [tierToJson, contextTier, Json.object.injEq, List.cons.injEq, Prod.mk.injEq, true_and, and_true,
    ofInt_inj, ratesToJson_inj]

variable {values : TokenKind → Option Decimal} {settings others : List (Setting TokenKind Decimal)}

theorem tableOf_keys_eq :
    (tableOf settings).map (·.1) = (tableOf others).map (·.1) ↔
      ∀ threshold, (∃ setting ∈ settings, setting.above = threshold) ↔
        ∃ setting ∈ others, setting.above = threshold := by
  simp only [← mem_tableOf_keys]
  constructor
  · intro same threshold
    rw [same]
  · intro same
    have left := List.pairwise_map.mpr (increasing_tableOf settings)
    have right := List.pairwise_map.mpr (increasing_tableOf others)
    exact left.eq_of_mem_iff right same

theorem cardOf_toJson_eq :
    (cardOf values settings).toJson crate = (cardOf values others).toJson crate ↔
      (∀ threshold, (∃ setting ∈ settings, setting.above = threshold) ↔
        ∃ setting ∈ others, setting.above = threshold) ∧
      ∀ total kind rate other,
        Holds (values kind) (fun threshold => lastAt threshold kind settings) total rate →
        Holds (values kind) (fun threshold => lastAt threshold kind others) total other →
        rate.map crate.normalized = other.map crate.normalized := by
  have left := increasing_tableOf settings
  have right := increasing_tableOf others
  have printed : (cardOf values settings).toJson crate = (cardOf values others).toJson crate ↔
      List.Forall₂ (fun entry other => entry.1 = other.1 ∧
          ∀ kind, (entry.2 kind).map crate.normalized = (other.2 kind).map crate.normalized)
        (inherit values (tableOf settings)) (inherit values (tableOf others)) := by
    simp only [PriceCard.toJson, cardOf, Json.object.injEq, List.cons.injEq, Prod.mk.injEq, true_and, and_true,
      Json.array.injEq, List.map_map, ← tierToJson_inj]
    rw [← List.forall₂_eq_eq_eq, List.forall₂_map_left_iff, List.forall₂_map_right_iff]
    rfl
  rw [printed, forall₂_inForce (Option.map crate.normalized) (inherit_increasing left values)
    (inherit_increasing right values) (fun _ => rfl), inherit_keys, inherit_keys, tableOf_keys_eq]
  apply and_congr_right
  intro _
  constructor
  · intro same total kind rate other holds also
    have first := inForce_holds left values total kind
    have second := inForce_holds right values total kind
    simp only [valueAt_tableOf] at first second
    rw [holds.unique first, also.unique second]
    exact same total kind
  · intro same total kind
    have first := inForce_holds left values total kind
    have second := inForce_holds right values total kind
    simp only [valueAt_tableOf] at first second
    exact same total kind _ _ first second

end Printed

section Agreement

variable {crates : CatalogCrates Decimal} {row : FlatRow}

def litellmPrice (crates : CatalogCrates Decimal) (row : FlatRow) : Option Json :=
  (litellmCard crates row.json).toOption.map fun read => read.1.toJson crates.toDecimalCrate

def legacyPrice (crates : CatalogCrates Decimal) (row : FlatRow) : Option Json :=
  (legacyCard crates row.toml).toOption.map (PriceCard.toJson crates.toDecimalCrate)

theorem plain_mem_legacy (plain : ∀ field ∈ row, field.2.IsPlain) {setting : Setting TokenKind Decimal}
    (member : setting ∈ plainSettings crates row) : setting ∈ legacySettings crates row := by
  obtain ⟨json, inside, read⟩ := mem_readSettings.mp member
  obtain ⟨field, there, rfl⟩ := List.mem_map.mp inside
  have there := SortedMaps.mem_inKeyOrder.mp there
  refine mem_readSettings.mpr ⟨(field.1, field.2.toml), List.mem_map_of_mem there, ?_⟩
  have unqualified : ¬ Qualified field.1 := by
    intro qualified
    rw [contextSetting_qualified qualified] at read
    cases read
  have same := @contextSetting_legacy _ crates _ unqualified _ (plain field there)
  rw [read] at same
  cases found : legacySetting crates (field.1, field.2.toml) with
  | error message =>
    rw [found] at same
    cases same
  | ok other =>
    rw [found] at same
    rw [Option.some.inj same]

theorem idle_iff (formed : row.WellFormed) {values : TokenKind → Option Decimal}
    (based : ∀ kind, baseRate crates row kind = .ok (values kind)) :
    (cardOf values (plainSettings crates row)).toJson crates.toDecimalCrate =
        (cardOf values (legacySettings crates row)).toJson crates.toDecimalCrate ↔ Idle crates row := by
  rw [cardOf_toJson_eq]
  constructor
  · rintro ⟨thresholds, rates⟩
    constructor
    · exact fun setting member => (thresholds setting.above).mpr ⟨setting, member, rfl⟩
    · intro kind base total rate legacy isBase holds also
      rw [based kind] at isBase
      rw [← Except.ok.inj isBase] at holds also
      exact rates total kind rate legacy holds also
  · intro idle
    refine ⟨fun threshold => ⟨?_, ?_⟩, ?_⟩
    · rintro ⟨setting, member, same⟩
      exact ⟨setting, plain_mem_legacy formed.plain member, same⟩
    · rintro ⟨setting, member, rfl⟩
      exact idle.thresholds setting member
    · intro total kind rate other holds also
      exact idle.rates kind _ total rate other (based kind) holds also

theorem prices_eq_iff (formed : row.WellFormed) :
    litellmPrice crates row = legacyPrice crates row ↔ Alike crates row := by
  unfold litellmPrice legacyPrice
  cases json : litellmCard crates row.json with
  | error message =>
    have unread : ¬ Readable crates row := by
      intro readable
      choose values based using readable.base
      obtain ⟨leftOut, read⟩ := (litellmCard_row formed.distinct).mpr ⟨readable, values, based, rfl⟩
      rw [json] at read
      cases read
    cases toml : legacyCard crates row.toml with
    | error other => exact ⟨fun _ readable => absurd readable unread, fun _ => rfl⟩
    | ok card => exact absurd ((legacyCard_row formed).mp toml).1.1 unread
  | ok read =>
    obtain ⟨card, leftOut⟩ := read
    obtain ⟨readable, values, based, rfl⟩ := (litellmCard_row formed.distinct).mp ⟨leftOut, json⟩
    cases toml : legacyCard crates row.toml with
    | error message =>
      constructor
      · intro same
        cases same
      · intro alike
        have read := (legacyCard_row formed).mpr ⟨⟨readable, (alike readable).1⟩, values, based, rfl⟩
        rw [toml] at read
        cases read
    | ok other =>
      obtain ⟨⟨-, qualified⟩, values', based', rfl⟩ := (legacyCard_row formed).mp toml
      have same : values' = values := by
        funext kind
        exact Except.ok.inj ((based' kind).symm.trans (based kind))
      subst same
      simp only [Except.toOption, Option.map_some, Option.some.injEq, idle_iff formed based]
      exact ⟨fun idle _ => ⟨qualified, idle⟩, fun alike => (alike readable).2⟩

def pricesOf (models : List CatalogRecord) : List (String × Option Json) :=
  models.map fun model => (model.modelName, model.priceData)

def SameCatalog : Except String ParsedCatalog → Except String ParsedCatalog → Prop
  | .ok first, .ok second => pricesOf first.2.1 = pricesOf second.2.1
  | .error _, .error _ => True
  | _, _ => False

structure Plain (models : List CatalogRecord) : Prop where
  distinct : (models.map (·.modelName)).Nodup
  noAlias : ∀ model ∈ models, model.aliases = []

namespace Plain

variable {models : List CatalogRecord} (plain : Plain models)

include plain

theorem mem_kept {model : CatalogRecord} : model ∈ keptModels models ↔ model ∈ models := by
  rw [mem_keptModels, rowsOf, filter_eq_singleton plain.distinct.of_map]
  constructor
  · exact fun alone => alone.1
  · intro member
    refine ⟨member, by simp, fun other there same => ?_⟩
    exact List.inj_on_of_nodup_map plain.distinct there member (of_decide_eq_true same)

theorem aliases_nil (canonical : List String) : aliasModels canonical (keptModels models) = [] := by
  rw [List.eq_nil_iff_forall_not_mem]
  intro model member
  obtain ⟨owner, kept, -, claims, -⟩ := (mem_aliasModels keptModels_nodup.of_map).mp member
  rw [plain.noAlias owner (plain.mem_kept.mp kept)] at claims
  exact List.not_mem_nil claims

theorem finalize_eq (version : String) (failed : Nat) :
    finalize version models failed =
      if models.all (·.priceData.isNone) then .error "catalog contains no valid token prices"
      else .ok (version, keptModels models, failed + sharedRows models) := by
  have priced : (keptModels models).all (·.priceData.isNone) = models.all (·.priceData.isNone) := by
    rw [Bool.eq_iff_iff, List.all_eq_true, List.all_eq_true]
    simp only [plain.mem_kept]
  rw [finalize, priced, plain.aliases_nil, List.append_nil]

theorem mem_prices {price : String × Option Json} :
    price ∈ pricesOf (keptModels models) ↔ price ∈ pricesOf models := by
  simp only [pricesOf, List.mem_map, plain.mem_kept]

end Plain

theorem pricesOf_increasing (models : List CatalogRecord) :
    SortedMaps.Increasing (pricesOf (keptModels models)) :=
  List.pairwise_map.mpr keptModels_increasing

theorem sameCatalog_iff {rows : List (String × FlatRow)} (distinct : (rows.map Prod.fst).Nodup)
    {first second : List CatalogRecord} (firstPlain : Plain first) (secondPlain : Plain second)
    {firstPrice secondPrice : FlatRow → Option Json}
    (firstPrices : ∀ price, price ∈ pricesOf first ↔ ∃ row ∈ rows, price = (row.1, firstPrice row.2))
    (secondPrices : ∀ price, price ∈ pricesOf second ↔ ∃ row ∈ rows, price = (row.1, secondPrice row.2))
    (version otherVersion : String) (failed otherFailed : Nat) :
    SameCatalog (finalize version first failed) (finalize otherVersion second otherFailed) ↔
      ∀ row ∈ rows, firstPrice row.2 = secondPrice row.2 := by
  have none : ∀ {models : List CatalogRecord} {price : FlatRow → Option Json},
      (∀ p, p ∈ pricesOf models ↔ ∃ row ∈ rows, p = (row.1, price row.2)) →
      (models.all (·.priceData.isNone) = true ↔ ∀ row ∈ rows, price row.2 = none) := by
    intro models price prices
    have each : models.all (·.priceData.isNone) = true ↔ ∀ p ∈ pricesOf models, p.2 = Option.none := by
      simp [pricesOf]
    rw [each]
    constructor
    · exact fun all row member => all _ ((prices _).mpr ⟨row, member, rfl⟩)
    · intro all p member
      obtain ⟨row, there, rfl⟩ := (prices p).mp member
      exact all row there
  rw [firstPlain.finalize_eq, secondPlain.finalize_eq]
  by_cases firstNone : first.all (·.priceData.isNone) = true
  · by_cases secondNone : second.all (·.priceData.isNone) = true
    · rw [if_pos firstNone, if_pos secondNone]
      refine ⟨fun _ row member => ?_, fun _ => trivial⟩
      rw [(none firstPrices).mp firstNone row member, (none secondPrices).mp secondNone row member]
    · rw [if_pos firstNone, if_neg secondNone]
      refine ⟨False.elim, fun same => secondNone ((none secondPrices).mpr fun row member => ?_)⟩
      rw [← same row member, (none firstPrices).mp firstNone row member]
  · by_cases secondNone : second.all (·.priceData.isNone) = true
    · rw [if_neg firstNone, if_pos secondNone]
      refine ⟨False.elim, fun same => firstNone ((none firstPrices).mpr fun row member => ?_)⟩
      rw [same row member, (none secondPrices).mp secondNone row member]
    · rw [if_neg firstNone, if_neg secondNone]
      show pricesOf (keptModels first) = pricesOf (keptModels second) ↔ _
      constructor
      · intro same row member
        have here := firstPlain.mem_prices.mpr ((firstPrices _).mpr ⟨row, member, rfl⟩)
        rw [same, secondPlain.mem_prices, secondPrices] at here
        obtain ⟨other, there, equal⟩ := here
        obtain ⟨keys, prices⟩ := Prod.mk.inj equal
        have rows_eq : row = other := List.inj_on_of_nodup_map distinct member there keys
        rw [prices, rows_eq]
      · intro same
        apply (pricesOf_increasing first).eq_of_mem_iff (pricesOf_increasing second)
        intro price
        rw [firstPlain.mem_prices, secondPlain.mem_prices, firstPrices, secondPrices]
        constructor
        · rintro ⟨row, member, rfl⟩
          exact ⟨row, member, by rw [same row member]⟩
        · rintro ⟨row, member, rfl⟩
          exact ⟨row, member, by rw [same row member]⟩

variable {table : FlatTable}

theorem litellmRecord_price (version name : String) (row : FlatRow) :
    (litellmRecord crates version name row.json).1.modelName = name ∧
      (litellmRecord crates version name row.json).1.priceData = litellmPrice crates row := by
  unfold litellmRecord litellmPrice
  cases litellmCard crates row.json <;> exact ⟨rfl, rfl⟩

theorem legacyRecord_price (version name : String) (row : FlatRow) :
    (legacyRecord crates version name row.toml).1.modelName = name ∧
      (legacyRecord crates version name row.toml).1.priceData = legacyPrice crates row := by
  unfold legacyRecord legacyPrice
  cases legacyCard crates row.toml <;> exact ⟨rfl, rfl⟩

def jsonModels (crates : CatalogCrates Decimal) (version : String) (table : FlatTable) : List CatalogRecord :=
  (SortedMaps.inKeyOrder table.rows).map fun row => (litellmRecord crates version row.1 row.2.json).1

def tomlModels (crates : CatalogCrates Decimal) (version : String) (table : FlatTable) : List CatalogRecord :=
  table.rows.map fun row => (legacyRecord crates version row.1 row.2.toml).1

theorem jsonModels_eq (version : String) :
    modelsOf (litellmRows crates version
      ((SortedMaps.inKeyOrder table.rows).map fun row => (row.1, row.2.json))) =
        jsonModels crates version table := by
  have named : ∀ row ∈ SortedMaps.inKeyOrder table.rows, row.1 ≠ "sample_spec" ∧ row.1 ≠ "" := by
    intro row member
    have names := table.named row (SortedMaps.mem_inKeyOrder.mp member)
    simp only [List.mem_cons, not_or] at names
    exact ⟨names.2.1, names.1⟩
  rw [modelsOf, litellmRows, List.filterMap_map, List.filterMap_filter, List.filterMap_map, jsonModels,
    ← List.filterMap_eq_map]
  apply List.filterMap_congr
  intro row member
  simp [(named row member).1, (named row member).2, FlatRow.json, Json.asObject]

theorem tomlModels_eq (version : String) :
    modelsOf (legacyRows crates version table.toml) = tomlModels crates version table := by
  have named : ∀ row ∈ table.rows, row.1 ≠ "metadata" := by
    intro row member
    have names := table.named row member
    simp only [List.mem_cons, not_or] at names
    exact names.2.2.1
  rw [modelsOf, legacyRows, FlatTable.toml, List.filterMap_map, List.filterMap_filter, List.filterMap_map,
    tomlModels, ← List.filterMap_eq_map]
  apply List.filterMap_congr
  intro row member
  simp [named row member]

theorem jsonModels_plain (version : String) : Plain (jsonModels crates version table) := by
  constructor
  · have names : (jsonModels crates version table).map (·.modelName) =
        (SortedMaps.inKeyOrder table.rows).map Prod.fst := by
      simp [jsonModels, Function.comp_def, litellmRecord_price]
    rw [names]
    exact ((SortedMaps.inKeyOrder_perm _).map _).nodup_iff.mpr table.distinct
  · intro model member
    obtain ⟨row, -, rfl⟩ := List.mem_map.mp member
    exact litellmRecord_aliases _ _ _

theorem tomlModels_plain (version : String) : Plain (tomlModels crates version table) := by
  constructor
  · have names : (tomlModels crates version table).map (·.modelName) = table.rows.map Prod.fst := by
      simp [tomlModels, Function.comp_def, legacyRecord_price]
    rw [names]
    exact table.distinct
  · intro model member
    obtain ⟨row, -, rfl⟩ := List.mem_map.mp member
    exact legacyRecord_aliases _ _ _

theorem parse_json {bytes : List UInt8} (object : startsObject bytes = true)
    (read : crates.fromSlice bytes = .ok table.json) :
    ∃ failed, parse crates bytes =
      finalize (crates.hash bytes) (jsonModels crates (crates.hash bytes) table) failed := by
  have schema : (table.json.get "schema").isNone = true := by
    rw [Option.isNone_iff_eq_none]
    show List.lookup _ _ = none
    rw [List.lookup_eq_none_iff]
    intro member there
    obtain ⟨row, inside, rfl⟩ := List.mem_map.mp there
    have names := table.named row (SortedMaps.mem_inKeyOrder.mp inside)
    simp only [List.mem_cons, not_or] at names
    simpa using Ne.symm names.2.2.2.2.1
  have models := @litellmRow_models _ crates (crates.hash bytes)
    ((SortedMaps.inKeyOrder table.rows).map fun row => (row.1, row.2.json))
  rw [jsonModels_eq] at models
  refine ⟨(((SortedMaps.inKeyOrder table.rows).map fun row => (row.1, row.2.json)).foldl
    (litellmRow crates (crates.hash bytes)) ([], 0)).2, ?_⟩
  rw [← models]
  unfold parse
  dsimp only
  rw [if_pos object, read]
  show (if (table.json.get "schema").isNone then _ else _) = _
  rw [if_pos schema]
  rfl

theorem parse_toml {bytes : List UInt8} (text : startsObject bytes = false)
    (read : crates.parseToml bytes = .ok table.toml) :
    ∃ failed, parse crates bytes =
      finalize (crates.hash bytes) (tomlModels crates (crates.hash bytes) table) failed := by
  have missing : ∀ name ∈ ["metadata", "models"], table.toml.lookup name = none := by
    intro name member
    rw [List.lookup_eq_none_iff]
    intro entry there
    obtain ⟨row, inside, rfl⟩ := List.mem_map.mp there
    have names := table.named row inside
    have apart : name ≠ row.1 := by
      rintro rfl
      simp only [List.mem_cons, List.not_mem_nil, or_false] at member names
      tauto
    simpa using apart
  have version : legacyVersion table.toml (crates.hash bytes) = crates.hash bytes := by
    rw [legacyVersion, missing "metadata" (by simp)]
    rfl
  have listed : legacyModels table.toml = table.toml := by
    rw [legacyModels, missing "models" (by simp)]
    rfl
  have models := @legacyRow_models _ crates (crates.hash bytes) table.toml
  rw [tomlModels_eq] at models
  refine ⟨(table.toml.foldl (legacyRow crates (crates.hash bytes)) ([], 0)).2, ?_⟩
  rw [← models]
  unfold parse parseToml
  dsimp only
  rw [text, read]
  show finalize (legacyVersion _ _) _ _ = _
  rw [version, listed]

theorem jsonModels_prices (version : String) (price : String × Option Json) :
    price ∈ pricesOf (jsonModels crates version table) ↔
      ∃ row ∈ table.rows, price = (row.1, litellmPrice crates row.2) := by
  simp only [pricesOf, jsonModels, List.map_map, List.mem_map, Function.comp_def, litellmRecord_price,
    SortedMaps.mem_inKeyOrder, eq_comm]

theorem tomlModels_prices (version : String) (price : String × Option Json) :
    price ∈ pricesOf (tomlModels crates version table) ↔
      ∃ row ∈ table.rows, price = (row.1, legacyPrice crates row.2) := by
  simp only [pricesOf, tomlModels, List.map_map, List.mem_map, Function.comp_def, legacyRecord_price, eq_comm]

theorem sameCatalog_prices {json toml : List UInt8} (jsonObject : startsObject json = true)
    (jsonRead : crates.fromSlice json = .ok table.json) (tomlText : startsObject toml = false)
    (tomlRead : crates.parseToml toml = .ok table.toml) :
    SameCatalog (parse crates json) (parse crates toml) ↔
      ∀ row ∈ table.rows, litellmPrice crates row.2 = legacyPrice crates row.2 := by
  obtain ⟨failed, jsonParsed⟩ := parse_json jsonObject jsonRead
  obtain ⟨otherFailed, tomlParsed⟩ := parse_toml tomlText tomlRead
  rw [jsonParsed, tomlParsed]
  exact sameCatalog_iff table.distinct (jsonModels_plain _) (tomlModels_plain _) (jsonModels_prices _)
    (tomlModels_prices _) _ _ _ _

theorem alike_of_unqualified (ordered : SortedMaps.Increasing row) (plain : ∀ field ∈ row, field.2.IsPlain)
    (unqualified : ∀ field ∈ row, ¬ Qualified field.1) : Alike crates row := by
  have same : plainSettings crates row = legacySettings crates row := by
    unfold plainSettings legacySettings readSettings FlatRow.jsonFields FlatRow.tomlFields
    rw [SortedMaps.inKeyOrder_of_increasing ordered, List.filterMap_map, List.filterMap_map]
    apply List.filterMap_congr
    intro field member
    exact congrArg Option.join (contextSetting_legacy (unqualified field member) (plain field member))
  intro _
  refine ⟨fun field member qualified => absurd qualified (unqualified field member), ?_, ?_⟩
  · intro setting member
    rw [← same] at member
    exact ⟨setting, member, rfl⟩
  · intro kind base total rate legacy _ holds also
    rw [← same] at also
    rw [holds.unique also]

end Agreement

def oneRow (row : FlatRow) (formed : row.WellFormed) : FlatTable where
  rows := [("m", row)]
  distinct := List.nodup_singleton _
  formed := by simpa using formed
  named := by simp

def contextRow : FlatRow :=
  [("input_cost_per_token", .number "0.000002"), ("input_cost_per_token_above_200k_tokens", .number "4e-6")]

def durationRow : FlatRow :=
  [("cache_creation_input_token_cost_above_1hr_above_200k_tokens", .number "9e-6"),
    ("input_cost_per_token", .number "0.000002")]

theorem contextRow_formed : contextRow.WellFormed where
  distinct := by decide
  plain := by simp [contextRow, FlatValue.IsPlain]

theorem durationRow_formed : durationRow.WellFormed where
  distinct := by decide
  plain := by simp [durationRow, FlatValue.IsPlain]

def contextTable : FlatTable := oneRow contextRow contextRow_formed

def durationTable : FlatTable := oneRow durationRow durationRow_formed

def tableReader (table : FlatTable) : CatalogCrates PlainDecimal :=
  { plainCatalog table.json table.toml with
    fromScientific := fun text =>
      -- A mantissa of digits and a negative exponent.
      match text.splitOn "e-" with
      | [mantissa, exponent] =>
        match parseDigits mantissa.toList, parseDigits exponent.toList with
        | some mantissa, some exponent => .ok ⟨mantissa, exponent⟩
        | _, _ => .error "Invalid decimal: unknown character"
      | _ => .error "Invalid decimal: unknown character" }

def contextJson : String :=
  "\x7b\"m\": \x7b\"input_cost_per_token\": 0.000002, " ++
    "\"input_cost_per_token_above_200k_tokens\": 4e-6\x7d\x7d"

def contextToml : String :=
  "[\"m\"]\ninput_cost_per_token = 0.000002\ninput_cost_per_token_above_200k_tokens = 4e-6\n"

def durationJson : String :=
  "\x7b\"m\": \x7b\"cache_creation_input_token_cost_above_1hr_above_200k_tokens\": 9e-6, " ++
    "\"input_cost_per_token\": 0.000002\x7d\x7d"

def durationToml : String :=
  "[\"m\"]\ncache_creation_input_token_cost_above_1hr_above_200k_tokens = 9e-6\n" ++
    "input_cost_per_token = 0.000002\n"

end CodexGate.Pricing
