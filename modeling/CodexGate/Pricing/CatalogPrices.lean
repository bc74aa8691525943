import CodexGate.Pricing.Dialects

namespace CodexGate.Pricing

open Foundation
open Foundation.Thresholds

variable {Decimal : Type}

/-- What is made of decimals that are not negative is not negative. -/
structure DecimalCrate.KeepsSign (crate : DecimalCrate Decimal) : Prop where
  ofI64 : ∀ n : Int, 0 ≤ n → crate.isSignNegative (crate.ofI64 n) = false
  mul : ∀ a b product, crate.isSignNegative a = false → crate.isSignNegative b = false →
    crate.mul a b = some product → crate.isSignNegative product = false

section Valid

variable {crates : CatalogCrates Decimal}

def NoneNegative (crate : DecimalCrate Decimal) (values : TokenKind → Option Decimal) : Prop :=
  ∀ kind rate, values kind = some rate → crate.isSignNegative rate = false

theorem NoneNegative.rates {crate : DecimalCrate Decimal} {values : TokenKind → Option Decimal}
    (positive : NoneNegative crate values) : (rates values).Valid crate :=
  ⟨positive .input, positive .output, positive .cacheRead, positive .cacheWrite⟩

structure TierValid (crate : DecimalCrate Decimal) (entry : Int × (TokenKind → Option Decimal)) : Prop where
  positive : 0 < entry.1
  fits : entry.1 ≤ i64Max
  rates : NoneNegative crate entry.2

theorem tiersFrom_contextTier {crate : DecimalCrate Decimal} {table : Table TokenKind Decimal}
    (increasing : SortedMaps.Increasing table) (each : ∀ entry ∈ table, TierValid crate entry)
    {previous : Int} (above : ∀ entry ∈ table, previous < entry.1) :
    TiersFrom crate previous (table.map contextTier) := by
  induction table generalizing previous with
  | nil => exact trivial
  | cons entry rest ih =>
    have valid := each entry List.mem_cons_self
    refine ⟨⟨valid.positive, above entry List.mem_cons_self, valid.fits⟩, valid.rates.rates, ?_⟩
    apply ih increasing.tail
    · exact fun later member => each later (List.mem_cons_of_mem _ member)
    · exact fun later member => increasing.head member

theorem card_valid {crate : DecimalCrate Decimal} {values : TokenKind → Option Decimal}
    {table : Table TokenKind Decimal} (base : NoneNegative crate values)
    (increasing : SortedMaps.Increasing table) (each : ∀ entry ∈ table, TierValid crate entry) :
    PriceCard.Valid crate ⟨rates values, table.map contextTier⟩ :=
  ⟨base.rates, tiersFrom_contextTier increasing each fun entry member => (each entry member).positive⟩

theorem cardOf_valid {crate : DecimalCrate Decimal} {values : TokenKind → Option Decimal}
    {settings : List (Setting TokenKind Decimal)} (base : NoneNegative crate values)
    (each : ∀ setting ∈ settings, 0 < setting.above ∧ setting.above ≤ i64Max ∧
      crate.isSignNegative setting.value = false) :
    (cardOf values settings).Valid crate := by
  have increasing := increasing_tableOf settings
  apply card_valid base (inherit_increasing increasing values)
  intro entry member
  obtain ⟨threshold, held⟩ := entry
  have key : threshold ∈ (tableOf settings).map (·.1) := by
    rw [← inherit_keys values]
    exact List.mem_map_of_mem member
  obtain ⟨setting, there, rfl⟩ := (mem_tableOf_keys settings threshold).mp key
  refine ⟨(each setting there).1, (each setting there).2.1, ?_⟩
  intro kind rate here
  rcases inherit_holds increasing member kind with ⟨other, -, found, -, -⟩ | ⟨-, same⟩
  · simp only [valueAt_tableOf] at found
    exact (each _ (lastAt_eq_some (found.trans here))).2.2
  · exact base kind rate (same.symm.trans here)

theorem asked_eq_ok {ε α β : Type} {ask : α → Except ε β} {value : Option α} {found : β}
    (answered : asked ask value = .ok (some found)) : ∃ there, value = some there ∧ ask there = .ok found := by
  cases value with
  | none => cases answered
  | some there =>
    refine ⟨there, rfl, ?_⟩
    unfold asked at answered
    dsimp only at answered
    cases read : ask there with
    | error message =>
      rw [read] at answered
      cases answered
    | ok other =>
      rw [read] at answered
      cases answered
      rfl

theorem decimalOf_positive {text : String} {read : Decimal} (parsed : decimalOf crates text = .ok read) :
    crates.isSignNegative read = false := by
  unfold decimalOf at parsed
  dsimp only at parsed
  split at parsed
  · obtain ⟨positive, parsed⟩ := refused_eq_ok.mp parsed
    cases parsed
    simpa using positive
  · obtain ⟨number, -, parsed⟩ := bind_eq_ok.mp parsed
    obtain ⟨positive, parsed⟩ := refused_eq_ok.mp parsed
    cases parsed
    simpa using positive

theorem decimal_positive {value : Json} {read : Decimal} (parsed : decimal crates value = .ok read) :
    crates.isSignNegative read = false := decimalOf_positive parsed

theorem legacySetting_some {field : String × Toml} {setting : Setting TokenKind Decimal}
    (read : legacySetting crates field = .ok (some setting)) :
    0 < setting.above ∧ setting.above ≤ i64Max ∧ legacyRate crates field.2 = .ok setting.value := by
  unfold legacySetting at read
  split at read
  · cases read
  · obtain ⟨above, threshold, read⟩ := bind_eq_ok.mp read
    obtain ⟨rate, priced, read⟩ := bind_eq_ok.mp read
    cases read
    obtain ⟨-, -, -, positive, fits⟩ := readThreshold_eq_some (okOr_eq_ok.mp threshold)
    exact ⟨positive, fits, priced⟩

theorem checkedSubI64_le {a b difference : Int} (checked : checkedSubI64 a b = some difference) :
    difference ≤ i64Max := by
  unfold checkedSubI64 at checked
  split at checked
  · rename_i fits
    cases checked
    exact fits.2
  · cases checked

theorem trackThreshold_ok {trigger : Json} {threshold : Int} (read : trackThreshold trigger = .ok threshold) :
    0 < threshold ∧ threshold ≤ i64Max := by
  obtain ⟨above, checked, read⟩ := bind_eq_ok.mp read
  obtain ⟨positive, read⟩ := refused_eq_ok.mp read
  cases read
  obtain ⟨stated, -, checked⟩ := Option.bind_eq_some_iff.mp (okOr_eq_ok.mp checked)
  exact ⟨by omega, checkedSubI64_le checked⟩

structure TracksValid (crate : DecimalCrate Decimal) (table : Table TokenKind Decimal) : Prop where
  increasing : SortedMaps.Increasing table
  each : ∀ entry ∈ table, TierValid crate entry

variable (signs : crates.KeepsSign)

include signs

theorem perMillionOf_positive {text : String} {rate : Decimal} (read : perMillionOf crates text = .ok rate) :
    crates.isSignNegative rate = false := by
  obtain ⟨price, parsed, multiplied⟩ := bind_eq_ok.mp read
  exact signs.mul price _ rate (decimalOf_positive parsed) (signs.ofI64 _ (by omega)) (okOr_eq_ok.mp multiplied)

theorem perMillion_positive {value : Json} {rate : Decimal} (read : perMillion crates value = .ok rate) :
    crates.isSignNegative rate = false := by
  obtain ⟨price, parsed, multiplied⟩ := bind_eq_ok.mp read
  exact signs.mul price _ rate (decimal_positive parsed) (signs.ofI64 _ (by omega)) (okOr_eq_ok.mp multiplied)

theorem legacyRate_positive {item : Toml} {rate : Decimal} (read : legacyRate crates item = .ok rate) :
    crates.isSignNegative rate = false := by
  obtain ⟨text, -, read⟩ := bind_eq_ok.mp read
  exact perMillionOf_positive signs read

theorem litellmCard_valid {row : Json} {card : PriceCard Decimal} {leftOut : Bool}
    (read : litellmCard crates row = .ok (card, leftOut)) : card.Valid crates.toDecimalCrate := by
  have object : ∃ fields, row = .object fields := by
    obtain ⟨fields, isObject, -⟩ := bind_eq_ok.mp read
    cases row with
    | object fields => exact ⟨fields, rfl⟩
    | _ => cases isObject
  obtain ⟨fields, rfl⟩ := object
  obtain ⟨values, based, -, -, rfl⟩ := litellmCard_ok.mp ⟨leftOut, read⟩
  apply cardOf_valid
  · intro kind rate found
    have asked := based kind
    rw [found] at asked
    obtain ⟨value, -, asked⟩ := asked_eq_ok asked
    exact perMillion_positive signs asked
  · intro setting member
    obtain ⟨field, -, set⟩ := mem_readSettings.mp member
    obtain ⟨-, -, value, positive, fits⟩ := contextSetting_some set
    exact ⟨positive, fits, perMillion_positive signs value⟩

theorem legacyCard_valid {item : Toml} {card : PriceCard Decimal} (read : legacyCard crates item = .ok card) :
    card.Valid crates.toDecimalCrate := by
  obtain ⟨fields, isTable⟩ : ∃ fields, item.asTableLike = some fields := by
    obtain ⟨_, _, table⟩ := bind_eq_ok.mp read
    obtain ⟨_, table⟩ := refused_eq_ok.mp table
    obtain ⟨fields, isTable, _⟩ := bind_eq_ok.mp table
    exact ⟨fields, okOr_eq_ok.mp isTable⟩
  obtain ⟨values, based, -, -, rfl⟩ := (legacyCard_ok isTable).mp read
  apply cardOf_valid
  · intro kind rate found
    have asked := based kind
    rw [found] at asked
    obtain ⟨value, -, asked⟩ := asked_eq_ok asked
    exact legacyRate_positive signs asked
  · intro setting member
    obtain ⟨field, -, set⟩ := mem_readSettings.mp member
    obtain ⟨positive, fits, value⟩ := legacySetting_some set
    exact ⟨positive, fits, legacyRate_positive signs value⟩

theorem trackValue_positive {track : Json} {factor : Decimal} {values : TokenKind → Option Decimal}
    (base : NoneNegative crates.toDecimalCrate values) (positive : crates.isSignNegative factor = false)
    {kind : TokenKind} {rate : Decimal} (read : trackValue crates track factor values kind = .ok (some rate)) :
    crates.isSignNegative rate = false := by
  obtain ⟨own, factored, read⟩ := bind_eq_ok.mp read
  obtain ⟨value, here, read⟩ := asked_eq_ok read
  refine signs.mul _ _ _ (base kind value here) ?_ (okOr_eq_ok.mp read)
  cases own with
  | none => exact positive
  | some own =>
    obtain ⟨there, -, read⟩ := asked_eq_ok factored
    exact decimal_positive read

theorem trackFactor_positive {track : Json} {factor : Decimal} (read : trackFactor crates track = .ok factor) :
    crates.isSignNegative factor = false := by
  obtain ⟨stated, factored, read⟩ := bind_eq_ok.mp read
  cases read
  cases stated with
  | none => exact signs.ofI64 1 (by omega)
  | some stated =>
    obtain ⟨there, -, read⟩ := asked_eq_ok factored
    exact decimal_positive read

theorem quoteTrack_valid {values : TokenKind → Option Decimal}
    (base : NoneNegative crates.toDecimalCrate values) {state next : Table TokenKind Decimal × Bool}
    {track : Json} (read : quoteTrack crates values state track = .ok next)
    (valid : TracksValid crates.toDecimalCrate state.1) : TracksValid crates.toDecimalCrate next.1 := by
  obtain ⟨triggers, -, read⟩ := bind_eq_ok.mp read
  split at read
  · cases read
    exact valid
  · split at read
    · cases read
      exact valid
    · obtain ⟨threshold, above, read⟩ := bind_eq_ok.mp read
      obtain ⟨factor, factored, read⟩ := bind_eq_ok.mp read
      obtain ⟨tier, tiered, read⟩ := bind_eq_ok.mp read
      obtain ⟨-, read⟩ := refused_eq_ok.mp read
      cases read
      obtain ⟨positive, fits⟩ := trackThreshold_ok above
      refine ⟨valid.increasing.insert _ _, fun entry member => ?_⟩
      rcases SortedMaps.mem_insert member with rfl | old
      · refine ⟨positive, fits, fun kind rate found => ?_⟩
        have asked := eachKind_eq_ok.mp tiered kind
        dsimp only at found
        rw [found] at asked
        exact trackValue_positive signs base (trackFactor_positive signs factored) asked
      · exact valid.each entry old
  · cases read
    exact valid

theorem quoteTracks_valid {values : TokenKind → Option Decimal}
    (base : NoneNegative crates.toDecimalCrate values) {tracks : List Json}
    {state final : Table TokenKind Decimal × Bool}
    (read : tracks.foldlM (quoteTrack crates values) state = .ok final)
    (valid : TracksValid crates.toDecimalCrate state.1) : TracksValid crates.toDecimalCrate final.1 := by
  induction tracks generalizing state with
  | nil =>
    cases read
    exact valid
  | cons track rest ih =>
    obtain ⟨next, first, later⟩ := bind_eq_ok.mp read
    exact ih later (quoteTrack_valid signs base first valid)

theorem quote_valid {p : Json} {card : PriceCard Decimal} {leftOut : Bool}
    (read : quote crates p = .ok (card, leftOut)) : card.Valid crates.toDecimalCrate := by
  obtain ⟨members, -, read⟩ := bind_eq_ok.mp read
  obtain ⟨values, based, read⟩ := bind_eq_ok.mp read
  obtain ⟨-, read⟩ := refused_eq_ok.mp read
  obtain ⟨⟨tiers, dropped⟩, tracked, read⟩ := bind_eq_ok.mp read
  cases read
  have base : NoneNegative crates.toDecimalCrate values := by
    intro kind rate found
    have charged := eachKind_eq_ok.mp based kind
    rw [found] at charged
    unfold chargeValue at charged
    split at charged
    · cases charged
    · split at charged
      · rename_i value _ _
        cases parsed : decimal crates (indexJson value "price") with
        | error message => rw [parsed] at charged; cases charged
        | ok price =>
          rw [parsed] at charged
          cases charged
          exact decimal_positive parsed
      · cases charged
  have valid := quoteTracks_valid signs base tracked ⟨.nil, nofun⟩
  exact card_valid base valid.increasing valid.each

def Written (crate : DecimalCrate Decimal) (model : CatalogRecord) : Prop :=
  ∀ json, model.priceData = some json → ∃ card : PriceCard Decimal, card.Valid crate ∧ json = card.toJson crate

theorem tableRecord_written (version name : String) (row : Json) :
    Written crates.toDecimalCrate (tableRecord crates version name row).1 := by
  intro json priced
  unfold tableRecord at priced
  dsimp only at priced
  split at priced
  · rename_i p card leftOut selected
    cases priced
    unfold selectOffer at selected
    obtain ⟨official, -, offered⟩ := List.exists_of_findSome?_eq_some selected
    obtain ⟨offer, -, quoted⟩ := List.exists_of_findSome?_eq_some offered
    obtain ⟨q, read, same⟩ := Option.map_eq_some_iff.mp quoted
    cases same
    cases found : quote crates p with
    | error message => rw [found] at read; cases read
    | ok q =>
      rw [found] at read
      cases read
      exact ⟨card, quote_valid signs found, rfl⟩
  · cases priced

theorem litellmRecord_written (version name : String) (row : Json) :
    Written crates.toDecimalCrate (litellmRecord crates version name row).1 := by
  intro json priced
  unfold litellmRecord at priced
  dsimp only at priced
  split at priced
  · rename_i card leftOut read
    cases priced
    exact ⟨card, litellmCard_valid signs read, rfl⟩
  · cases priced

theorem legacyRecord_written (version name : String) (item : Toml) :
    Written crates.toDecimalCrate (legacyRecord crates version name item).1 := by
  intro json priced
  unfold legacyRecord at priced
  dsimp only at priced
  split at priced
  · rename_i card read
    cases priced
    exact ⟨card, legacyCard_valid signs read, rfl⟩
  · cases priced

theorem documentRows_written (bytes : List UInt8) :
    ∀ row ∈ documentRows crates bytes, ∀ model, row.model = some model → Written crates.toDecimalCrate model := by
  intro row member model modelled
  unfold documentRows at member
  dsimp only at member
  split at member
  · split at member
    · cases member
    · split at member
      · obtain ⟨field, -, rfl⟩ := List.mem_map.mp member
        dsimp only at modelled
        split at modelled
        · cases modelled
        · cases modelled
          exact litellmRecord_written signs _ _ _
      · obtain ⟨row, -, rfl⟩ := List.mem_map.mp member
        obtain ⟨name, -, rfl⟩ := Option.map_eq_some_iff.mp modelled
        exact tableRecord_written signs _ _ _
  · split at member
    · cases member
    · obtain ⟨field, -, rfl⟩ := List.mem_map.mp member
      cases modelled
      exact legacyRecord_written signs _ _ _

theorem parse_written {bytes : List UInt8} {catalog : ParsedCatalog} (parsed : parse crates bytes = .ok catalog) :
    ∀ model ∈ catalog.2.1, Written crates.toDecimalCrate model := by
  obtain ⟨version, models, failed⟩ := catalog
  intro model member
  rw [parse_models parsed] at member
  have kept : ∀ owner ∈ keptModels (modelsOf (documentRows crates bytes)),
      Written crates.toDecimalCrate owner := by
    intro owner there
    obtain ⟨row, inside, modelled⟩ := mem_modelsOf.mp (kept_mem there)
    exact documentRows_written signs bytes row inside owner modelled
  rcases List.mem_append.mp member with own | named
  · exact kept model own
  · have distinct : (keptModels (modelsOf (documentRows crates bytes))).Nodup := keptModels_nodup.of_map
    obtain ⟨owner, there, same, -⟩ := (mem_aliasModels distinct).mp named
    rw [same]
    exact kept owner there

end Valid

end CodexGate.Pricing
