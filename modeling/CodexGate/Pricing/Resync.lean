import CodexGate.Pricing.CatalogPrices
import CodexGate.Pricing.SyncJobs

namespace CodexGate.Pricing

open Foundation

variable {Decimal : Type}

theorem find?_map_of_fixed {α : Type} {p : α → Bool} {f : α → α} {items : List α}
    (same : ∀ item ∈ items, p (f item) = p item) (fixed : ∀ item ∈ items, p item = true → f item = item) :
    (items.map f).find? p = items.find? p := by
  induction items with
  | nil => rfl
  | cons item rest ih =>
    rw [List.forall_mem_cons] at same fixed
    rw [List.map_cons, List.find?_cons, List.find?_cons, same.1, ih same.2 fixed.2]
    cases passes : p item with
    | false => rfl
    | true => rw [fixed.1 passes]

namespace SyncTables

def Indexed (prices : List StoredPrice) : Prop := (storedVersioning 0).Indexed prices

theorem Indexed.eq_of_id {prices : List StoredPrice} (indexed : Indexed prices) {row other : StoredPrice}
    (member : row ∈ prices) (there : other ∈ prices) (same : row.id = other.id) : row = other :=
  Versioning.Indexed.eq_of_key indexed member there same

theorem Indexed.eq_of_scope {prices : List StoredPrice} (indexed : Indexed prices) {row other : StoredPrice}
    (member : row ∈ prices) (there : other ∈ prices) (active : row.active = true)
    (otherActive : other.active = true) (same : row.scope = other.scope) : row = other := by
  have apart : prices.Pairwise fun row other =>
      row.active = true → other.active = true → row.scope = other.scope → row = other :=
    indexed.imp fun compatible active otherActive same => absurd ⟨active, otherActive, same⟩ compatible.2
  refine apart.forall_of_forall_of_flip (fun _ _ _ _ _ => rfl) ?_ member there active otherActive same
  exact indexed.imp fun compatible active otherActive same =>
    absurd ⟨otherActive, active, same.symm⟩ compatible.2

theorem isGlobal_iff {row : StoredPrice} {modelName : String} :
    row.isGlobal modelName = true ↔ row.providerId = none ∧ row.modelName = modelName := by
  simp [PriceRow.isGlobal]

theorem scope_of_global {row : StoredPrice} {modelName : String} (isGlobal : row.isGlobal modelName = true) :
    row.scope = (-1, modelName) := by
  obtain ⟨everywhere, named⟩ := isGlobal_iff.mp isGlobal
  simp [PriceRow.scope, everywhere, named]

theorem currentPrice_spec {prices : List StoredPrice} {modelName : String} {row : StoredPrice}
    (current : currentPrice prices modelName = some row) :
    row ∈ prices ∧ row.active = true ∧ row.isGlobal modelName = true := by
  have passes := List.find?_some current
  rw [Bool.and_eq_true] at passes
  exact ⟨List.mem_of_find?_eq_some current, passes⟩

section Loop

variable {crates : PriceCrates Decimal} {call : Application} {prices : List StoredPrice}

def ReadsAs (crates : PriceCrates Decimal) (text : String) (card : Json) : Prop :=
  ∃ old, parseModelPriceData crates text = .ok old ∧ old.toJson crates.toDecimalCrate = card

def Readable (crates : PriceCrates Decimal) (prices : List StoredPrice) : Prop :=
  ∀ row ∈ prices, row.active = true → ∃ old, parseModelPriceData crates row.price = .ok old

/-- Nothing is left to do for a price of the catalogue. -/
inductive Settled (crates : PriceCrates Decimal) (selected : List String) (modelName : String) (card : Json)
    (row : StoredPrice) : Prop
  | manual (own : row.source = .manual) (unselected : modelName ∉ selected)
  | cloud (synced : row.source = .cloud) (same : ReadsAs crates row.price card)

structure Stepped (crates : PriceCrates Decimal) (selected : List String) (modelName : String) (card : Json)
    (before after : List StoredPrice) : Prop where
  indexed : Indexed after
  settled : ∃ row, currentPrice after modelName = some row ∧ Settled crates selected modelName card row
  others : ∀ other, other ≠ modelName → currentPrice after other = currentPrice before other
  readable : Readable crates before → Readable crates after

theorem deactivated_same (call : Application) (id : Int) (row : StoredPrice) :
    (storedVersioning call.nowMs).Same row
      (if row.id = id && row.active then row.deactivate call.nowMs else row) := by
  split
  · exact .inr rfl
  · exact .inl rfl

theorem deactivated_indexed (indexed : Indexed prices) (id : Int) : Indexed (deactivated call prices id) :=
  Versioning.Indexed.map (v := storedVersioning call.nowMs) indexed (deactivated_same call id)

theorem currentPrice_deactivated (indexed : Indexed prices) {modelName other : String} {row : StoredPrice}
    (current : currentPrice prices modelName = some row) (apart : other ≠ modelName) :
    currentPrice (deactivated call prices row.id) other = currentPrice prices other := by
  obtain ⟨member, -, isGlobal⟩ := currentPrice_spec current
  have named := (isGlobal_iff.mp isGlobal).2
  have foreign : ∀ found ∈ prices, found.id = row.id → found.isGlobal other = false := by
    intro found there same
    rw [indexed.eq_of_id there member same, ← Bool.not_eq_true, isGlobal_iff, named]
    exact fun both => apart both.2.symm
  apply find?_map_of_fixed
  · intro found there
    split
    · rename_i here
      rw [Bool.and_eq_true, decide_eq_true_eq] at here
      rw [foreign found there here.1, Bool.and_false]
      rfl
    · rfl
  · intro found there passes
    rw [Bool.and_eq_true] at passes
    split
    · rename_i here
      rw [Bool.and_eq_true, decide_eq_true_eq] at here
      rw [foreign found there here.1] at passes
      cases passes.2
    · rfl

theorem deactivated_readable (readable : Readable crates prices) (id : Int) :
    Readable crates (deactivated call prices id) := by
  intro row member active
  obtain ⟨before, there, rfl⟩ := List.mem_map.mp member
  split at active
  · cases active
  · split
    · rename_i kept here
      exact absurd here kept
    · exact readable before there active

theorem insertPrice_stepped (indexed : Indexed prices) {progress next : Progress}
    (here : progress.1.prices = prices) {modelName : String} {card : Json}
    (again : ReadsAs crates (crates.printJson card) card)
    (inserted : insertPrice crates call progress modelName card = .ok next) :
    Stepped crates call.selected modelName card prices next.1.prices ∧ next.1.catalog = progress.1.catalog := by
  subst here
  obtain ⟨free, inserted⟩ := refused_eq_ok.mp inserted
  cases inserted
  rw [Bool.not_eq_true, refused, List.any_eq_false] at free
  set row : StoredPrice :=
    { id := call.newId progress.1.prices
      providerId := none
      modelName := modelName
      price := crates.printJson card
      active := true
      source := .cloud
      sourceVersion := some call.job.sourceVersion
      createdAtMs := call.nowMs
      updatedAtMs := call.nowMs } with isRow
  have compatible : ∀ other ∈ progress.1.prices, (storedVersioning 0).Compatible other row := by
    intro other member
    have passes := free other member
    simp only [Bool.or_eq_true, decide_eq_true_eq, Bool.and_eq_true, not_or] at passes
    exact ⟨passes.1, fun ⟨active, also, same⟩ => passes.2 ⟨⟨active, also⟩, same⟩⟩
  have none_before : currentPrice progress.1.prices modelName = none := by
    cases found : currentPrice progress.1.prices modelName with
    | none => rfl
    | some other =>
      obtain ⟨member, active, isGlobal⟩ := currentPrice_spec found
      exact absurd ⟨active, rfl, scope_of_global isGlobal⟩ (compatible other member).2
  refine ⟨⟨Versioning.Indexed.insert indexed compatible, ⟨row, ?_, .cloud rfl again⟩, ?_, ?_⟩, rfl⟩
  · unfold currentPrice at none_before ⊢
    rw [List.find?_append, none_before]
    simp [isRow, PriceRow.isGlobal]
  · intro other apart
    unfold currentPrice
    rw [List.find?_append]
    simp [isRow, PriceRow.isGlobal, apart.symm]
  · intro readable other member active
    rcases List.mem_append.mp member with old | new
    · exact readable other old active
    · obtain ⟨price, read, -⟩ := again
      rw [List.mem_singleton.mp new]
      exact ⟨price, read⟩

theorem Stepped.after {modelName : String} {card : Json} {before middle after : List StoredPrice}
    (next : Stepped crates call.selected modelName card middle after)
    (others : ∀ other, other ≠ modelName → currentPrice middle other = currentPrice before other)
    (readable : Readable crates before → Readable crates middle) :
    Stepped crates call.selected modelName card before after where
  indexed := next.indexed
  settled := next.settled
  others other apart := (next.others other apart).trans (others other apart)
  readable before := next.readable (readable before)

theorem applyPrice_stepped {progress next : Progress} (indexed : Indexed progress.1.prices)
    {modelName : String} {card : Json} (again : ReadsAs crates (crates.printJson card) card)
    (applied : applyPrice crates call progress modelName card
      (currentPrice progress.1.prices modelName) = .ok next) :
    Stepped crates call.selected modelName card progress.1.prices next.1.prices ∧
      next.1.catalog = progress.1.catalog := by
  obtain ⟨tables, counts⟩ := progress
  unfold applyPrice at applied
  dsimp only at applied indexed ⊢
  split at applied
  · exact insertPrice_stepped indexed rfl again applied
  · rename_i row current
    split at applied
    · rename_i preserved
      cases applied
      exact ⟨⟨indexed, ⟨row, current, .manual preserved.1 preserved.2⟩, fun _ _ => rfl, id⟩, rfl⟩
    · obtain ⟨old, read, applied⟩ := bind_eq_ok.mp applied
      split at applied
      · rename_i same
        cases applied
        exact ⟨⟨indexed, ⟨row, current, .cloud same.2 ⟨old, read, same.1⟩⟩, fun _ _ => rfl, id⟩, rfl⟩
      · obtain ⟨-, applied⟩ := refused_eq_ok.mp applied
        obtain ⟨stepped, catalog⟩ :=
          insertPrice_stepped (deactivated_indexed indexed row.id) rfl again applied
        refine ⟨stepped.after ?_ ?_, catalog⟩
        · exact fun other apart => currentPrice_deactivated indexed current apart
        · exact fun readable => deactivated_readable readable row.id

end Loop

section Run

variable {crates : PriceCrates Decimal} {call : Application} {models : List CatalogRecord}

def AllSettled (crates : PriceCrates Decimal) (selected : List String) (models : List CatalogRecord)
    (prices : List StoredPrice) : Prop :=
  ∀ model ∈ models, ∀ card, model.priceData = some card → ∃ row,
    currentPrice prices model.modelName = some row ∧ Settled crates selected model.modelName card row

def PrintsBack (crates : PriceCrates Decimal) (models : List CatalogRecord) : Prop :=
  ∀ model ∈ models, ∀ card, model.priceData = some card → ReadsAs crates (crates.printJson card) card

theorem applyModel_stepped {progress next : Progress} (indexed : Indexed progress.1.prices)
    {model : CatalogRecord}
    (again : ∀ card, model.priceData = some card → ReadsAs crates (crates.printJson card) card)
    (applied : applyModel crates call progress model = .ok next) :
    Indexed next.1.prices ∧
      (∀ card, model.priceData = some card → ∃ row, currentPrice next.1.prices model.modelName = some row ∧
        Settled crates call.selected model.modelName card row) ∧
      (∀ other, other ≠ model.modelName → currentPrice next.1.prices other = currentPrice progress.1.prices other) ∧
      (Readable crates progress.1.prices → Readable crates next.1.prices) ∧
      next.1.catalog = recorded call.job.sourceVersion progress.1.catalog model := by
  unfold applyModel at applied
  dsimp only at applied
  split at applied
  · rename_i unpriced
    cases applied
    exact ⟨indexed, fun card priced => absurd (unpriced.symm.trans priced) nofun, fun _ _ => rfl, id, rfl⟩
  · rename_i card priced
    obtain ⟨-, applied⟩ := refused_eq_ok.mp applied
    let recording : Progress :=
      ({ progress.1 with catalog := recorded call.job.sourceVersion progress.1.catalog model }, progress.2)
    have here : Indexed recording.1.prices := indexed
    obtain ⟨stepped, catalog⟩ := applyPrice_stepped here (again card priced) applied
    refine ⟨stepped.indexed, fun other also => ?_, stepped.others, stepped.readable, catalog⟩
    rw [priced] at also
    cases also
    exact stepped.settled

theorem applyModels_settled {progress next : Progress} (indexed : Indexed progress.1.prices)
    (distinct : (models.map (·.modelName)).Nodup) (again : PrintsBack crates models)
    (applied : models.foldlM (applyModel crates call) progress = .ok next) :
    Indexed next.1.prices ∧ AllSettled crates call.selected models next.1.prices ∧
      (∀ other ∉ models.map (·.modelName), currentPrice next.1.prices other = currentPrice progress.1.prices other) ∧
      (Readable crates progress.1.prices → Readable crates next.1.prices) ∧
      next.1.catalog = models.foldl (recorded call.job.sourceVersion) progress.1.catalog := by
  induction models generalizing progress with
  | nil =>
    cases applied
    exact ⟨indexed, nofun, fun _ _ => rfl, id, rfl⟩
  | cons model rest ih =>
    obtain ⟨middle, first, later⟩ := bind_eq_ok.mp applied
    obtain ⟨fresh, distinct⟩ := List.nodup_cons.mp distinct
    obtain ⟨here, others⟩ := List.forall_mem_cons.mp again
    obtain ⟨indexed, settled, kept, readable, catalog⟩ := applyModel_stepped indexed here first
    obtain ⟨indexed, restSettled, restKept, restReadable, restCatalog⟩ := ih indexed distinct others later
    refine ⟨indexed, List.forall_mem_cons.mpr ⟨?_, restSettled⟩, ?_, restReadable ∘ readable, ?_⟩
    · intro card priced
      rw [restKept _ fresh]
      exact settled card priced
    · intro other missing
      rw [List.map_cons, List.mem_cons, not_or] at missing
      exact (restKept other missing.2).trans (kept other missing.1)
    · rw [restCatalog, catalog]
      rfl

theorem applyModels_idle {selected : List String} {prices : List StoredPrice}
    (fewer : ∀ modelName ∈ call.selected, modelName ∈ selected) (settled : AllSettled crates selected models prices)
    (expected : ∀ model ∈ models, call.job.expected.lookup model.modelName =
      (currentPrice prices model.modelName).map (·.id))
    {progress : Progress} (here : progress.1.prices = prices) :
    ∃ next, models.foldlM (applyModel crates call) progress = .ok next ∧ next.1.prices = prices ∧
      next.1.catalog = models.foldl (recorded call.job.sourceVersion) progress.1.catalog := by
  induction models generalizing progress with
  | nil => exact ⟨progress, rfl, here, rfl⟩
  | cons model rest ih =>
    obtain ⟨first, settled⟩ := List.forall_mem_cons.mp settled
    obtain ⟨known, expected⟩ := List.forall_mem_cons.mp expected
    have step : ∃ next, applyModel crates call progress model = .ok next ∧ next.1.prices = prices ∧
        next.1.catalog = recorded call.job.sourceVersion progress.1.catalog model := by
      unfold applyModel
      dsimp only
      cases priced : model.priceData with
      | none => exact ⟨_, rfl, here, rfl⟩
      | some card =>
        obtain ⟨row, current, done⟩ := first card priced
        dsimp only
        rw [here, known, if_neg (fun differs => differs rfl), current]
        unfold applyPrice
        dsimp only
        cases done with
        | manual own unselected =>
          rw [if_pos ⟨own, fun asked => unselected (fewer _ asked)⟩]
          exact ⟨_, rfl, rfl, rfl⟩
        | cloud synced same =>
          obtain ⟨old, read, same⟩ := same
          rw [if_neg (fun manual => by rw [synced] at manual; cases manual.1), read]
          exact ⟨_, if_pos ⟨same, synced⟩, rfl, rfl⟩
    obtain ⟨middle, applied, same, catalog⟩ := step
    obtain ⟨next, later, sameLater, catalogLater⟩ := ih settled expected same
    refine ⟨next, bind_eq_ok.mpr ⟨middle, applied, later⟩, sameLater, ?_⟩
    rw [catalogLater, catalog]
    rfl

theorem foldl_recorded (version : String) (models : List CatalogRecord)
    (catalog : String → Option StoredRecord) (modelName : String) :
    models.foldl (recorded version) catalog modelName =
      (models.foldl (recorded version) (fun _ => none) modelName).or (catalog modelName) := by
  induction models using List.reverseRecOn with
  | nil => rfl
  | append_singleton rest model ih =>
    rw [List.foldl_append, List.foldl_append]
    by_cases here : modelName = model.modelName
    · subst here
      simp [recorded]
    · simp [recorded, here, ih]

theorem recorded_again (version : String) (models : List CatalogRecord)
    (catalog : String → Option StoredRecord) :
    models.foldl (recorded version) (withdraw (models.foldl (recorded version) (withdraw catalog))) =
      models.foldl (recorded version) (withdraw catalog) := by
  funext modelName
  rw [foldl_recorded, foldl_recorded version models (withdraw catalog)]
  cases found : models.foldl (recorded version) (fun _ => none) modelName with
  | some stored => rfl
  | none =>
    rw [Option.none_or, Option.none_or, withdraw, foldl_recorded, found, Option.none_or, withdraw]
    cases catalog modelName <;> rfl

end Run

section Listing

variable {crates : PriceCrates Decimal} {prices : List StoredPrice} {listed : List (ModelPrice Decimal)}

theorem exists_of_mapM {ε α β : Type} {f : α → Except ε β} {items : List α} {results : List β}
    (read : items.mapM f = .ok results) :
    (∀ result ∈ results, ∃ item ∈ items, f item = .ok result) ∧
      ∀ item ∈ items, ∃ result ∈ results, f item = .ok result := by
  induction items generalizing results with
  | nil =>
    cases read
    exact ⟨nofun, nofun⟩
  | cons item rest ih =>
    rw [List.mapM_cons] at read
    obtain ⟨result, first, later⟩ := bind_eq_ok.mp read
    obtain ⟨others, rest, same⟩ := bind_eq_ok.mp later
    cases same
    obtain ⟨back, forth⟩ := ih rest
    constructor
    · refine List.forall_mem_cons.mpr ⟨⟨item, List.mem_cons_self, first⟩, fun other member => ?_⟩
      obtain ⟨source, there, read⟩ := back other member
      exact ⟨source, List.mem_cons_of_mem _ there, read⟩
    · refine List.forall_mem_cons.mpr ⟨⟨result, List.mem_cons_self, first⟩, fun other member => ?_⟩
      obtain ⟨made, there, read⟩ := forth other member
      exact ⟨made, List.mem_cons_of_mem _ there, read⟩

theorem mapM_of_each {ε α β : Type} {f : α → Except ε β} {items : List α}
    (each : ∀ item ∈ items, ∃ result, f item = .ok result) : ∃ results, items.mapM f = .ok results := by
  induction items with
  | nil => exact ⟨[], rfl⟩
  | cons item rest ih =>
    obtain ⟨⟨result, first⟩, others⟩ := List.forall_mem_cons.mp each
    obtain ⟨results, later⟩ := ih others
    refine ⟨result :: results, ?_⟩
    rw [List.mapM_cons]
    exact bind_eq_ok.mpr ⟨result, first, bind_eq_ok.mpr ⟨results, later, rfl⟩⟩

theorem firstOfEach_sublist (rows : List StoredPrice) : (firstOfEach rows).Sublist rows := by
  induction rows with
  | nil => exact .slnil
  | cons row rest ih => exact (List.filter_sublist.trans ih).cons_cons row

theorem mem_listed (indexed : Indexed prices) {row : StoredPrice} :
    row ∈ firstOfEach ((prices.filter (·.active)).mergeSort latestFirst) ↔ row ∈ prices ∧ row.active = true := by
  have perm := List.mergeSort_perm (prices.filter (·.active)) latestFirst
  have active : ∀ {other}, other ∈ (prices.filter (·.active)).mergeSort latestFirst ↔
      other ∈ prices ∧ other.active = true := by
    intro other
    rw [perm.mem_iff, List.mem_filter]
  -- The indexes leave nothing for the check of what has been seen.
  have whole : ∀ rows : List StoredPrice, rows.Pairwise (fun row other => row.sameScope other = false) →
      firstOfEach rows = rows := by
    intro rows apart
    induction rows with
    | nil => rfl
    | cons row rest ih =>
      obtain ⟨here, later⟩ := List.pairwise_cons.mp apart
      rw [firstOfEach, ih later, List.filter_eq_self.mpr]
      intro other member
      rw [here other member]
      rfl
  rw [whole, active]
  have distinct : ((prices.filter (·.active)).mergeSort latestFirst).Nodup := by
    refine perm.nodup_iff.mpr (List.Nodup.filter _ ?_)
    exact List.Pairwise.imp (fun compatible same => compatible.1 (congrArg _ same)) indexed
  refine distinct.imp_of_mem ?_
  intro row other member there differs
  obtain ⟨inside, isActive⟩ := active.mp member
  obtain ⟨otherInside, otherActive⟩ := active.mp there
  rw [← Bool.not_eq_true, StoredPrice.sameScope, Bool.and_eq_true, decide_eq_true_eq, decide_eq_true_eq]
  rintro ⟨provider, named⟩
  refine differs (indexed.eq_of_scope inside otherInside isActive otherActive ?_)
  simp [PriceRow.scope, provider, named]

theorem modelPrice_eq_ok {row : StoredPrice} {price : ModelPrice Decimal} :
    modelPrice crates row = .ok price ↔ ∃ card, parseModelPriceData crates row.price = .ok card ∧
      price = ⟨row.id, row.providerId, row.modelName, card, row.createdAtMs, row.updatedAtMs⟩ := by
  rw [modelPrice, bind_eq_ok]
  simp [eq_comm]

theorem listed_row (listing : listLatestModelPrices crates prices = .ok listed) {price : ModelPrice Decimal}
    (member : price ∈ listed) :
    ∃ row ∈ prices, row.active = true ∧ price.id = row.id ∧ price.providerId = row.providerId ∧
      price.modelName = row.modelName := by
  obtain ⟨row, there, read⟩ := (exists_of_mapM listing).1 price member
  have active := (firstOfEach_sublist _).subset there
  rw [(List.mergeSort_perm _ _).mem_iff, List.mem_filter] at active
  obtain ⟨card, -, rfl⟩ := modelPrice_eq_ok.mp read
  exact ⟨row, active.1, active.2, rfl, rfl, rfl⟩

theorem listed_of_readable (indexed : Indexed prices) :
    (∃ listed, listLatestModelPrices crates prices = .ok listed) ↔ Readable crates prices := by
  constructor
  · rintro ⟨listed, listing⟩ row member active
    obtain ⟨price, -, read⟩ := (exists_of_mapM listing).2 row ((mem_listed indexed).mpr ⟨member, active⟩)
    obtain ⟨card, parsed, -⟩ := modelPrice_eq_ok.mp read
    exact ⟨card, parsed⟩
  · intro readable
    apply mapM_of_each
    intro row member
    obtain ⟨inside, active⟩ := (mem_listed indexed).mp member
    obtain ⟨card, parsed⟩ := readable row inside active
    exact ⟨_, modelPrice_eq_ok.mpr ⟨card, parsed, rfl⟩⟩

theorem listedPrice_spec {modelName : String} {price : ModelPrice Decimal}
    (found : listedPrice listed modelName = some price) :
    price ∈ listed ∧ price.providerId = none ∧ price.modelName = modelName := by
  have member := List.mem_reverse.mp (List.mem_of_find?_eq_some found)
  obtain ⟨inside, everywhere⟩ := List.mem_filter.mp member
  have named := List.find?_some found
  exact ⟨inside, Option.isNone_iff_eq_none.mp everywhere, of_decide_eq_true named⟩

theorem priceSource_listed (listing : listLatestModelPrices crates prices = .ok listed) {modelName : String}
    {price : ModelPrice Decimal} (found : listedPrice listed modelName = some price) :
    ∃ source, priceSource prices price.id = some source := by
  obtain ⟨row, member, active, id, -⟩ := listed_row listing (listedPrice_spec found).1
  apply Option.isSome_iff_exists.mp
  rw [priceSource, Option.isSome_map, List.find?_isSome]
  exact ⟨row, member, by simp [active, id]⟩

theorem listedPrice_id (indexed : Indexed prices) (listing : listLatestModelPrices crates prices = .ok listed)
    (modelName : String) :
    (listedPrice listed modelName).map (·.id) = (currentPrice prices modelName).map (·.id) := by
  cases current : currentPrice prices modelName with
  | none =>
    cases found : listedPrice listed modelName with
    | none => rfl
    | some price =>
      obtain ⟨member, everywhere, named⟩ := listedPrice_spec found
      obtain ⟨row, inside, active, -, provider, name⟩ := listed_row listing member
      have missed := List.find?_eq_none.mp current row inside
      rw [active, Bool.true_and, isGlobal_iff, ← provider, ← name] at missed
      exact absurd ⟨everywhere, named⟩ missed
  | some row =>
    obtain ⟨inside, active, isGlobal⟩ := currentPrice_spec current
    obtain ⟨everywhere, named⟩ := isGlobal_iff.mp isGlobal
    obtain ⟨price, member, read⟩ := (exists_of_mapM listing).2 row ((mem_listed indexed).mpr ⟨inside, active⟩)
    obtain ⟨card, -, rfl⟩ := modelPrice_eq_ok.mp read
    cases found : listedPrice listed modelName with
    | none =>
      have missed := List.find?_eq_none.mp found _ (List.mem_reverse.mpr (List.mem_filter.mpr
        ⟨member, by simp [everywhere]⟩))
      exact absurd (by simp [named]) missed
    | some other =>
      obtain ⟨there, otherEverywhere, otherNamed⟩ := listedPrice_spec found
      obtain ⟨otherRow, otherInside, otherActive, id, provider, name⟩ := listed_row listing there
      have same : otherRow = row := by
        apply indexed.eq_of_scope otherInside inside otherActive active
        rw [scope_of_global isGlobal, scope_of_global]
        exact isGlobal_iff.mpr ⟨provider.symm.trans otherEverywhere, name.symm.trans otherNamed⟩
      rw [Option.map_some, Option.map_some, id, same]

end Listing

section Prepared

variable {crates : PriceCrates Decimal} {tables : SyncTables} {listed : List (ModelPrice Decimal)}

structure Prepares (listed : List (ModelPrice Decimal)) (job prepared : SyncJob) : Prop where
  models : prepared.models = job.models
  sourceVersion : prepared.sourceVersion = job.sourceVersion
  catalogGeneration : prepared.catalogGeneration = job.catalogGeneration
  expected : ∀ modelName, prepared.expected.lookup modelName = job.expected.lookup modelName ∨
    prepared.expected.lookup modelName = (listedPrice listed modelName).map (·.id)

theorem prepareModel_prepares (listing : listLatestModelPrices crates tables.prices = .ok listed)
    (job : SyncJob) (model : CatalogRecord) :
    ∃ next, prepareModel crates tables listed job model = .ok next ∧ Prepares listed job next ∧
      ∀ price, listedPrice listed model.modelName = some price →
        next.expected.lookup model.modelName = some price.id := by
  unfold prepareModel
  dsimp only
  cases current : listedPrice listed model.modelName with
  | none =>
    have unchanged : ∀ next : SyncJob, next.models = job.models → next.sourceVersion = job.sourceVersion →
        next.catalogGeneration = job.catalogGeneration → next.expected = job.expected →
        Prepares listed job next := fun next models version generation expected =>
      ⟨models, version, generation, fun modelName => .inl (by rw [expected])⟩
    cases model.priceData with
    | none => exact ⟨_, rfl, unchanged _ rfl rfl rfl rfl, nofun⟩
    | some card => exact ⟨_, rfl, unchanged _ rfl rfl rfl rfl, nofun⟩
  | some price =>
    have inserted : ∀ next : SyncJob, next.models = job.models → next.sourceVersion = job.sourceVersion →
        next.catalogGeneration = job.catalogGeneration →
        next.expected = job.expected.insert model.modelName price.id →
        Prepares listed job next ∧ ∀ other, some price = some other →
          next.expected.lookup model.modelName = some other.id := by
      intro next models version generation expected
      refine ⟨⟨models, version, generation, fun modelName => ?_⟩, fun other same => ?_⟩
      · by_cases here : modelName = model.modelName
        · subst here
          right
          rw [expected, AList.lookup_insert, current, Option.map_some]
        · left
          rw [expected, AList.lookup_insert_ne here]
      · cases same
        rw [expected, AList.lookup_insert]
    obtain ⟨source, known⟩ := priceSource_listed listing current
    cases model.priceData with
    | none => exact ⟨_, rfl, inserted _ rfl rfl rfl rfl⟩
    | some card =>
      dsimp only
      rw [known]
      by_cases own : source = .manual
      · exact ⟨_, if_pos own, inserted _ rfl rfl rfl rfl⟩
      · by_cases same : price.price.toJson crates.toDecimalCrate = card
        · exact ⟨_, (if_neg own).trans (if_pos same), inserted _ rfl rfl rfl rfl⟩
        · exact ⟨_, (if_neg own).trans (if_neg same), inserted _ rfl rfl rfl rfl⟩

theorem prepareModels_prepares (listing : listLatestModelPrices crates tables.prices = .ok listed)
    (models : List CatalogRecord) (job : SyncJob) :
    ∃ next, models.foldlM (prepareModel crates tables listed) job = .ok next ∧ Prepares listed job next ∧
      ∀ model ∈ models, ∀ price, listedPrice listed model.modelName = some price →
        next.expected.lookup model.modelName = some price.id := by
  induction models generalizing job with
  | nil => exact ⟨job, rfl, ⟨rfl, rfl, rfl, fun _ => .inl rfl⟩, nofun⟩
  | cons model rest ih =>
    obtain ⟨middle, first, kept, here⟩ := prepareModel_prepares listing job model
    obtain ⟨next, later, keptLater, others⟩ := ih middle
    refine ⟨next, bind_eq_ok.mpr ⟨middle, first, later⟩, ?_, ?_⟩
    · refine ⟨keptLater.models.trans kept.models, keptLater.sourceVersion.trans kept.sourceVersion,
        keptLater.catalogGeneration.trans kept.catalogGeneration, fun modelName => ?_⟩
      rcases keptLater.expected modelName with same | known
      · rw [same]
        exact kept.expected modelName
      · exact .inr known
    · refine List.forall_mem_cons.mpr ⟨fun price found => ?_, others⟩
      rcases keptLater.expected model.modelName with same | known
      · rw [same]
        exact here price found
      · rw [known, found, Option.map_some]

theorem prepareSync_spec (listing : listLatestModelPrices crates tables.prices = .ok listed) (job : SyncJob)
    (fresh : job.expected = ∅) :
    ∃ prepared, prepareSync crates tables job = .ok prepared ∧ prepared.models = job.models ∧
      prepared.sourceVersion = job.sourceVersion ∧
      prepared.catalogGeneration = tables.control.catalogGeneration ∧
      ∀ model ∈ job.models, prepared.expected.lookup model.modelName =
        (listedPrice listed model.modelName).map (·.id) := by
  obtain ⟨prepared, looped, kept, expected⟩ := prepareModels_prepares listing job.models
    { job with catalogGeneration := tables.control.catalogGeneration }
  refine ⟨prepared, bind_eq_ok.mpr ⟨listed, listing, looped⟩, kept.models, kept.sourceVersion,
    kept.catalogGeneration, fun model member => ?_⟩
  cases found : listedPrice listed model.modelName with
  | some price => exact expected model member price found
  | none =>
    rcases kept.expected model.modelName with same | known
    · rw [same]
      dsimp only
      rw [fresh]
      rfl
    · rw [known, found]

end Prepared

section Again

variable {crates : PriceCrates Decimal} {catalog : ParsedCatalog}

theorem card_same_toJson {crate : DecimalCrate Decimal} {card other : PriceCard Decimal}
    (same : card.Same crate.normalized other) : card.toJson crate = other.toJson crate := by
  have rates : ∀ {left right : PriceRates Decimal}, left.Same crate.normalized right →
      ratesToJson crate left = ratesToJson crate right := by
    intro left right same
    rw [ratesToJson, rateToJson_inj.mpr same.cacheRead, rateToJson_inj.mpr same.cacheWrite,
      rateToJson_inj.mpr same.input, rateToJson_inj.mpr same.output]
    rfl
  have tiers : card.tiers.map (tierToJson crate) = other.tiers.map (tierToJson crate) := by
    have each := same.tiers
    generalize card.tiers = left, other.tiers = right at each
    induction each with
    | nil => rfl
    | cons tier _ ih => rw [List.map_cons, List.map_cons, ih, tierToJson, tierToJson, tier.threshold, rates tier.rates]
  rw [PriceCard.toJson, PriceCard.toJson, rates same.base, tiers]

theorem printsBack (faithful : crates.Faithful crates.normalized) (signs : crates.KeepsSign)
    {bytes : List UInt8} (parsed : parse crates.toCatalogCrates bytes = .ok catalog)
    (printed : ∀ model ∈ catalog.2.1, ∀ card, model.priceData = some card →
      crates.readJson (crates.printJson card) = .ok card) :
    PrintsBack crates catalog.2.1 := by
  intro model member json priced
  obtain ⟨card, valid, rfl⟩ := parse_written signs parsed model member json priced
  obtain ⟨again, back, same⟩ := PriceCard.fromJson_toJson faithful valid
  refine ⟨again, ?_, card_same_toJson same⟩
  rw [parseModelPriceData, printed model member _ priced]
  exact back

theorem parse_distinct {bytes : List UInt8} (parsed : parse crates.toCatalogCrates bytes = .ok catalog) :
    (catalog.2.1.map (·.modelName)).Nodup := by
  obtain ⟨version, models, failed⟩ := catalog
  dsimp only
  rw [parse_models parsed]
  exact finalModels_nodup

theorem applySync_eq_ok {tables : SyncTables} {call : Application} {result : Progress} :
    applySync crates tables call = .ok result ↔
      tables.control.heldBy call.owner call.nowMs = true ∧
        tables.control.catalogGeneration = call.job.catalogGeneration ∧
        ∃ applied, call.job.models.foldlM (applyModel crates call)
          ({ tables with
              control := { tables.control with leaseUntilMs := call.nowMs + syncLeaseMs }
              catalog := withdraw tables.catalog }, { failed := call.job.counts.failed }) = .ok applied ∧
          result =
            ({ applied.1 with
                missing := applied.1.missingAt call.job.sourceVersion
                control := applied.1.control.advance call.nowMs call.job.sourceVersion }, applied.2) := by
  rw [applySync, refused_eq_ok, refused_eq_ok, bind_eq_ok, Bool.not_eq_false, not_not]
  simp only [Except.ok.injEq, eq_comm]

/-- Another run with the same catalogue changes nothing. -/
theorem applySync_again (faithful : crates.Faithful crates.normalized) (signs : crates.KeepsSign)
    {bytes : List UInt8} (parsed : parse crates.toCatalogCrates bytes = .ok catalog)
    (printed : ∀ model ∈ catalog.2.1, ∀ card, model.priceData = some card →
      crates.readJson (crates.printJson card) = .ok card)
    {before tables later : SyncTables} {id : String} {kind : JobKind} {sourceUrl : String} {startMs : Int}
    {call : Application} {counts : Counts} (indexed : Indexed tables.prices)
    (prepared : prepareSync crates before ((SyncJob.started id kind sourceUrl startMs).withCatalog catalog) =
      .ok call.job)
    (applied : applySync crates tables call = .ok (later, counts))
    {middle last : SyncTables} (read : middle.prices = later.prices)
    (prices : last.prices = later.prices) (entries : last.catalog = later.catalog)
    (generation : last.control.catalogGeneration = middle.control.catalogGeneration)
    (id' : String) (kind' : JobKind) (sourceUrl' : String) (startMs' : Int) :
    (before.prices = tables.prices → ∃ job, prepareSync crates middle
      ((SyncJob.started id' kind' sourceUrl' startMs').withCatalog catalog) = .ok job) ∧
    ∀ again : Application, prepareSync crates middle
        ((SyncJob.started id' kind' sourceUrl' startMs').withCatalog catalog) = .ok again.job →
      (∀ modelName ∈ again.selected, modelName ∈ call.selected) →
      last.control.heldBy again.owner again.nowMs = true →
      ∃ final counts', applySync crates last again = .ok (final, counts') ∧
        final.prices = last.prices ∧ final.catalog = last.catalog := by
  have again := printsBack faithful signs parsed printed
  have distinct := parse_distinct parsed
  -- What the first job holds.
  obtain ⟨listed, listing, -⟩ := bind_eq_ok.mp prepared
  obtain ⟨job, first, models, version, -, -⟩ := prepareSync_spec listing
    ((SyncJob.started id kind sourceUrl startMs).withCatalog catalog) rfl
  rw [first] at prepared
  cases prepared
  obtain ⟨-, -, progress, looped, same⟩ := applySync_eq_ok.mp applied
  obtain ⟨laterIndexed, settled, -, readable, recording⟩ :=
    applyModels_settled indexed (by rw [models]; exact distinct) (by rw [models]; exact again) looped
  cases same
  dsimp only at read prices entries
  rw [models] at settled recording
  constructor
  · intro unchanged
    rw [unchanged] at listing
    have now := readable ((listed_of_readable indexed).mp ⟨listed, listing⟩)
    rw [← read] at now laterIndexed
    obtain ⟨relisted, relisting⟩ := (listed_of_readable laterIndexed).mpr now
    obtain ⟨job, ready, -⟩ := prepareSync_spec relisting
      ((SyncJob.started id' kind' sourceUrl' startMs').withCatalog catalog) rfl
    exact ⟨job, ready⟩
  · intro again ready fewer held
    obtain ⟨relisted, relisting, -⟩ := bind_eq_ok.mp ready
    obtain ⟨job, second, models', version', generation', expected⟩ := prepareSync_spec relisting
      ((SyncJob.started id' kind' sourceUrl' startMs').withCatalog catalog) rfl
    rw [second] at ready
    cases ready
    rw [read] at relisting
    have known : ∀ model ∈ catalog.2.1, again.job.expected.lookup model.modelName =
        (currentPrice progress.1.prices model.modelName).map (·.id) := by
      intro model member
      rw [expected model member]
      exact listedPrice_id laterIndexed relisting model.modelName
    let started : Progress :=
      ({ last with
          control := { last.control with leaseUntilMs := again.nowMs + syncLeaseMs }
          catalog := withdraw last.catalog }, { failed := again.job.counts.failed })
    have here : started.1.prices = progress.1.prices := prices
    obtain ⟨final, looped', sameFinal, recording'⟩ := applyModels_idle fewer settled known here
    refine ⟨_, _, applySync_eq_ok.mpr ⟨held, generation.trans generation'.symm, final, ?_, rfl⟩, ?_, ?_⟩
    · rw [models']
      exact looped'
    · exact sameFinal.trans prices.symm
    · have withdrawn : started.1.catalog = withdraw last.catalog := rfl
      dsimp only at recording ⊢
      rw [recording', withdrawn, entries, recording, version, version']
      exact recorded_again _ _ _

end Again

end SyncTables

def freshRow : Json := .object [("model_name", .string "m"), ("pricing", .array [offer])]

def storedJson (input : String) : Json :=
  .object [("base", .object [("cache_read", .null), ("cache_write", .null), ("input", .string input),
      ("output", .null)]),
    ("schema_version", .number "2"), ("tiers", .array []), ("unit", .string "usd_per_million_tokens")]

def storedText (input : String) : String :=
  "\x7b\"base\":\x7b\"cache_read\":null,\"cache_write\":null,\"input\":\"" ++ input ++
    "\",\"output\":null\x7d,\"schema_version\":2,\"tiers\":[],\"unit\":\"usd_per_million_tokens\"\x7d"

def storeCrates : PriceCrates PlainDecimal where
  toCatalogCrates := { tableCrates [freshRow] with printJson := fun _ => storedText "1" }
  readJson text :=
    if text = storedText "1" then .ok (storedJson "1")
    else if text = storedText "2" then .ok (storedJson "2")
    else .error "expected value"

def freshText : String :=
  "\x7b\"currency\": \"USD\", \"schema\": \"cchp.pricing-table/v1\", \"version\": \"v1\", \"models\": [" ++
    "\x7b\"model_name\": \"m\", \"pricing\": [\x7b\"charges\": \x7b\"prompt\": " ++
    "\x7b\"price\": \"1\", \"unit\": \"per_M_tokens\"\x7d\x7d\x7d]\x7d]\x7d"

def freshModel : CatalogRecord := (tableRecord storeCrates.toCatalogCrates "v1" "m" freshRow).1

theorem freshModel_price : freshModel.priceData = some (storedJson "1") := by decide +kernel

theorem freshText_parsed : ∃ failed,
    parse storeCrates.toCatalogCrates (utf8Bytes freshText) = .ok ("v1", [freshModel], failed) := by
  have object : startsObject (utf8Bytes freshText) = true := by decide +kernel
  have read : storeCrates.fromSlice (utf8Bytes freshText) = .ok (namedTable [freshRow]) := rfl
  have rows : documentRows storeCrates.toCatalogCrates (utf8Bytes freshText) = [⟨some freshModel, []⟩] := by
    rw [documentRows_table object read]
    rfl
  have named : freshModel.modelName = "m" := tableRecord_name _ _ _ _
  have unclaimed : freshModel.aliases = [] := tableRecord_aliases _ _ _
  have final : finalModels [⟨some freshModel, []⟩] = [freshModel] := by
    simp [finalModels, modelsOf, keptModels, aliasModels, aliasClaims, orderedGroups, groupRows, rowsOf, unclaimed]
  obtain ⟨failed, parsed⟩ := parse_table object read
    ⟨freshModel, by simp [rows, idRows, rowsOf, modelsOf], by rw [freshModel_price]; rfl⟩
  rw [rows, final] at parsed
  exact ⟨failed, parsed⟩

theorem storedText_printed (card : Json) :
    storeCrates.readJson (storeCrates.printJson card) = .ok (storedJson "1") := by
  simp only [storeCrates, if_true]

theorem plainCrate_printed : plainCrate.Faithful plainCrate.normalized := by
  intro rate _
  refine ⟨rate.normalize, rate.normalize.parse_print, rfl, ?_⟩
  have same := PlainDecimal.normalize_eq_of_value rate.value_normalize
  exact congrArg PlainDecimal.print same

theorem plainCrate_keepsSign : plainCrate.KeepsSign := ⟨fun _ _ => rfl, fun _ _ _ _ _ _ => rfl⟩

theorem storedText_read : parseModelPriceData storeCrates (storedText "2") =
    .ok ⟨⟨some ⟨2, 0⟩, none, none, none⟩, []⟩ := by
  have differs : storedText "2" ≠ storedText "1" := by decide
  have read : storeCrates.readJson (storedText "2") = .ok (storedJson "2") := by
    simp only [storeCrates, differs, if_false, if_true]
  rw [parseModelPriceData, read]
  rfl

namespace SyncTables

def ownPrice : StoredPrice where
  id := 7
  providerId := none
  modelName := "m"
  price := storedText "2"
  active := true
  source := .manual
  sourceVersion := none
  createdAtMs := 1
  updatedAtMs := 1

def ownTables : SyncTables where
  prices := [ownPrice]
  control :=
    { owner := some "first"
      leaseUntilMs := 300000
      lastSuccessMs := none
      lastAttemptMs := none
      lastJobId := none
      catalogVersion := none
      catalogGeneration := 0 }
  catalog := fun _ => none
  missing := fun _ => none
  providerModels := []

/-- The second run finds the price of the first one, which had replaced the one of an admin. -/
theorem ownTables_again : ∃ catalog job counts later,
    parse storeCrates.toCatalogCrates (utf8Bytes freshText) = .ok catalog ∧
      prepareSync storeCrates ownTables ((SyncJob.started "a" .preview "u" 1).withCatalog catalog) = .ok job ∧
      applySync storeCrates ownTables ⟨job, ["m"], "first", 2, fun _ => 8⟩ = .ok (later, counts) ∧
      later.prices.length = 2 ∧
      ∃ again final counts', prepareSync storeCrates later
          ((SyncJob.started "b" .automatic "u" 3).withCatalog catalog) = .ok again ∧
        applySync storeCrates later ⟨again, [], "first", 4, fun _ => 9⟩ = .ok (final, counts') ∧
        final.prices = later.prices ∧ final.catalog = later.catalog := by
  obtain ⟨failed, parsed⟩ := freshText_parsed
  have named : freshModel.modelName = "m" := tableRecord_name _ _ _ _
  have indexed : Indexed ownTables.prices := List.pairwise_singleton _ _
  have readable : Readable storeCrates ownTables.prices := by
    intro row member _
    rw [List.mem_singleton.mp member]
    exact ⟨_, storedText_read⟩
  obtain ⟨listed, listing⟩ := (listed_of_readable indexed).mpr readable
  obtain ⟨job, prepared, models, version, generation, expected⟩ := prepareSync_spec listing
    ((SyncJob.started "a" .preview "u" 1).withCatalog ("v1", [freshModel], failed)) rfl
  have current : currentPrice ownTables.prices "m" = some ownPrice := rfl
  have known : job.expected.lookup "m" = some 7 := by
    have here := expected freshModel List.mem_cons_self
    rw [listedPrice_id indexed listing, named, current] at here
    exact here
  have read : parseModelPriceData storeCrates ownPrice.price = .ok ⟨⟨some ⟨2, 0⟩, none, none, none⟩, []⟩ :=
    storedText_read
  let call : Application := ⟨job, ["m"], "first", 2, fun _ => 8⟩
  let started : Progress :=
    ({ ownTables with
        control := { ownTables.control with leaseUntilMs := 2 + syncLeaseMs }
        catalog := withdraw ownTables.catalog }, { failed := job.counts.failed })
  have stepped : ∃ next, applyModel storeCrates call started freshModel = .ok next ∧
      next.1.prices.length = 2 ∧ next.1.control = started.1.control := by
    unfold applyModel
    dsimp only
    rw [freshModel_price, named]
    dsimp only
    rw [current, known, if_neg (fun differs => differs rfl)]
    unfold applyPrice
    dsimp only
    rw [if_neg (fun preserved => preserved.2 List.mem_cons_self), read]
    exact ⟨_, rfl, rfl, rfl⟩
  obtain ⟨next, applied, length, control⟩ := stepped
  have looped : job.models.foldlM (applyModel storeCrates call) started = .ok next := by
    rw [models]
    exact bind_eq_ok.mpr ⟨next, applied, rfl⟩
  have committed := applySync_eq_ok.mpr ⟨rfl, generation.symm, next, looped, rfl⟩
  refine ⟨_, job, _, _, parsed, prepared, committed, length, ?_⟩
  have price : ∀ model ∈ [freshModel], ∀ card, model.priceData = some card →
      storeCrates.readJson (storeCrates.printJson card) = .ok card := by
    intro model member card priced
    rw [List.mem_singleton.mp member, freshModel_price] at priced
    cases priced
    exact storedText_printed _
  have again := applySync_again plainCrate_printed plainCrate_keepsSign parsed price indexed prepared committed
    rfl rfl rfl rfl "b" .automatic "u" 3
  obtain ⟨second, prepared'⟩ := again.1 rfl
  have held : ∀ sourceVersion, (next.1.control.advance 2 sourceVersion).heldBy "first" 4 = true := by
    intro sourceVersion
    rw [control]
    rfl
  obtain ⟨final, counts, final_eq, same⟩ := again.2 ⟨second, [], "first", 4, fun _ => 9⟩ prepared' nofun (held _)
  exact ⟨second, final, counts, prepared', final_eq, same⟩

end SyncTables

end CodexGate.Pricing
