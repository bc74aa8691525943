import CodexGate.Pricing.Catalog

namespace CodexGate.Pricing

open Foundation

variable {Decimal : Type}

structure PriceCrates (Decimal : Type) extends CatalogCrates Decimal where
  readJson : String → Except String Json

structure StoredPrice extends PriceRow String where
  createdAtMs : Int
  updatedAtMs : Int
  deriving DecidableEq

def StoredPrice.deactivate (nowMs : Int) (row : StoredPrice) : StoredPrice :=
  { row with
    active := false
    updatedAtMs := nowMs }

def storedVersioning (nowMs : Int) : Versioning StoredPrice Int (Int × String) where
  key row := row.id
  scope row := row.scope
  active row := row.active
  retire := StoredPrice.deactivate nowMs
  key_retire _ := rfl
  scope_retire _ := rfl
  active_retire _ := rfl
  retire_retire _ := rfl

structure StoredRecord where
  record : CatalogRecord
  sourceVersion : String
  isPresent : Bool

structure SyncTables where
  prices : List StoredPrice
  control : SyncControl
  catalog : String → Option StoredRecord
  missing : String → Option String
  providerModels : List ProviderModel

inductive JobStatus
  | running
  | preview
  | applied
  | failed
  deriving DecidableEq

inductive JobKind
  | preview
  | automatic
  | apply
  deriving DecidableEq

structure SyncJob where
  id : String
  status : JobStatus
  kind : JobKind
  sourceUrl : String
  sourceVersion : String
  createdAtMs : Int
  finishedAtMs : Option Int
  error : Option String
  counts : Counts
  conflicts : List (Conflict Json)
  models : List CatalogRecord
  expected : HashMap String Int
  catalogGeneration : Int

namespace SyncJob

def started (id : String) (kind : JobKind) (sourceUrl : String) (nowMs : Int) : SyncJob where
  id := id
  status := .running
  kind := kind
  sourceUrl := sourceUrl
  sourceVersion := ""
  createdAtMs := nowMs
  finishedAtMs := none
  error := none
  counts := {}
  conflicts := []
  models := []
  expected := ∅
  catalogGeneration := 0

def withCatalog (job : SyncJob) (catalog : ParsedCatalog) : SyncJob :=
  { job with
    sourceVersion := catalog.1
    models := catalog.2.1
    counts := { job.counts with failed := catalog.2.2 } }

end SyncJob

structure ModelPrice (Decimal : Type) where
  id : Int
  providerId : Option Int
  modelName : String
  price : PriceCard Decimal
  createdAtMs : Int
  updatedAtMs : Int

def providerBefore : Option Int → Option Int → Bool
  | none, _ => true
  | some _, none => false
  | some first, some second => first ≤ second

def latestFirst (row other : StoredPrice) : Bool :=
  if row.providerId ≠ other.providerId then providerBefore row.providerId other.providerId
  else if row.modelName ≠ other.modelName then row.modelName < other.modelName
  else if row.createdAtMs ≠ other.createdAtMs then other.createdAtMs < row.createdAtMs
  else other.id ≤ row.id

def StoredPrice.sameScope (row other : StoredPrice) : Bool :=
  other.providerId = row.providerId && other.modelName = row.modelName

def firstOfEach : List StoredPrice → List StoredPrice
  | [] => []
  | row :: rest => row :: (firstOfEach rest).filter fun other => !row.sameScope other

section Store

variable (crates : PriceCrates Decimal)

def parseModelPriceData (text : String) : Except String (PriceCard Decimal) := do
  let value ← (crates.readJson text).mapError ("invalid price_data_json: " ++ ·)
  PriceCard.fromJson crates.toDecimalCrate value

def modelPrice (row : StoredPrice) : Except String (ModelPrice Decimal) := do
  let price ← parseModelPriceData crates row.price
  .ok
    { id := row.id
      providerId := row.providerId
      modelName := row.modelName
      price := price
      createdAtMs := row.createdAtMs
      updatedAtMs := row.updatedAtMs }

def listLatestModelPrices (prices : List StoredPrice) : Except String (List (ModelPrice Decimal)) :=
  (firstOfEach ((prices.filter (·.active)).mergeSort latestFirst)).mapM (modelPrice crates)

def listedPrice (listed : List (ModelPrice Decimal)) (modelName : String) : Option (ModelPrice Decimal) :=
  (listed.filter fun price => price.providerId.isNone).reverse.find? fun price => price.modelName = modelName

def priceSource (prices : List StoredPrice) (id : Int) : Option PriceSource :=
  (prices.find? fun row => row.active && row.id = id).map (·.source)

end Store

namespace SyncTables

section Prepare

variable (crates : PriceCrates Decimal)

def prepareModel (tables : SyncTables) (listed : List (ModelPrice Decimal)) (job : SyncJob)
    (model : CatalogRecord) : Except String SyncJob :=
  let current := listedPrice listed model.modelName
  let job := match current with
    | some price => { job with expected := job.expected.insert model.modelName price.id }
    | none => job
  match model.priceData, current with
  | none, _ => .ok job
  | some _, none => .ok { job with counts := { job.counts with added := job.counts.added + 1 } }
  | some card, some price => do
    let source ← okOr "local prices changed during preview" (priceSource tables.prices price.id)
    if source = .manual then
      .ok
        { job with
          counts := { job.counts with manualPreserved := job.counts.manualPreserved + 1 }
          conflicts := job.conflicts ++
            [{ modelName := model.modelName
               localId := price.id
               localPrice := price.price.toJson crates.toDecimalCrate
               cloudPrice := card }] }
    else if price.price.toJson crates.toDecimalCrate = card then
      .ok { job with counts := { job.counts with unchanged := job.counts.unchanged + 1 } }
    else .ok { job with counts := { job.counts with updated := job.counts.updated + 1 } }

def prepareSync (tables : SyncTables) (job : SyncJob) : Except String SyncJob := do
  let job := { job with catalogGeneration := tables.control.catalogGeneration }
  let listed ← listLatestModelPrices crates tables.prices
  job.models.foldlM (prepareModel crates tables listed) job

end Prepare

def currentPrice (prices : List StoredPrice) (modelName : String) : Option StoredPrice :=
  prices.find? fun row => row.active && row.isGlobal modelName

def refused (prices : List StoredPrice) (row : StoredPrice) : Bool :=
  prices.any fun other => other.id = row.id || other.active && row.active && other.scope = row.scope

def withdraw (catalog : String → Option StoredRecord) (modelName : String) : Option StoredRecord :=
  (catalog modelName).map fun stored => { stored with isPresent := false }

def recorded (sourceVersion : String) (catalog : String → Option StoredRecord) (model : CatalogRecord) :
    String → Option StoredRecord :=
  Function.update catalog model.modelName
    (some { record := model, sourceVersion := sourceVersion, isPresent := true })

def missingAt (tables : SyncTables) (sourceVersion model : String) : Option String :=
  let isMissing := tables.providerModels.any fun pm => pm.upstreamModel = model &&
    !tables.prices.any fun row => row.active && row.modelName = pm.upstreamModel &&
      (row.providerId.isNone || row.providerId = some pm.providerId)
  if isMissing then some sourceVersion else none

section Apply

variable (crates : PriceCrates Decimal)

structure Application where
  job : SyncJob
  selected : List String
  owner : String
  nowMs : Int
  newId : List StoredPrice → Int

abbrev Progress := SyncTables × Counts

def insertPrice (call : Application) (progress : Progress) (modelName : String) (card : Json) :
    Except String Progress :=
  let row : StoredPrice :=
    { id := call.newId progress.1.prices
      providerId := none
      modelName := modelName
      price := crates.printJson card
      active := true
      source := .cloud
      sourceVersion := some call.job.sourceVersion
      createdAtMs := call.nowMs
      updatedAtMs := call.nowMs }
  if refused progress.1.prices row then .error "unique constraint violation"
  else .ok ({ progress.1 with prices := progress.1.prices ++ [row] }, progress.2)

def deactivated (call : Application) (prices : List StoredPrice) (id : Int) : List StoredPrice :=
  prices.map fun row => if row.id = id && row.active then row.deactivate call.nowMs else row

def applyPrice (call : Application) (progress : Progress) (modelName : String) (card : Json)
    (current : Option StoredPrice) : Except String Progress :=
  let (tables, counts) := progress
  match current with
  | none =>
    insertPrice crates call (tables, { counts with added := counts.added + 1 }) modelName card
  | some row =>
    if row.source = .manual ∧ modelName ∉ call.selected then
      .ok (tables, { counts with manualPreserved := counts.manualPreserved + 1 })
    else do
      let old ← parseModelPriceData crates row.price
      if old.toJson crates.toDecimalCrate = card ∧ row.source = .cloud then
        .ok (tables, { counts with unchanged := counts.unchanged + 1 })
      else if tables.prices.countP (fun other => other.id = row.id && other.active) ≠ 1 then
        .error "price changed during apply"
      else
        insertPrice crates call
          ({ tables with prices := deactivated call tables.prices row.id },
            { counts with updated := counts.updated + 1 }) modelName card

def applyModel (call : Application) (progress : Progress) (model : CatalogRecord) :
    Except String Progress :=
  let tables :=
    { progress.1 with catalog := recorded call.job.sourceVersion progress.1.catalog model }
  match model.priceData with
  | none => .ok (tables, progress.2)
  | some card =>
    let current := currentPrice tables.prices model.modelName
    if current.map (·.id) ≠ call.job.expected.lookup model.modelName then
      .error ("price changed since preview: " ++ model.modelName)
    else applyPrice crates call (tables, progress.2) model.modelName card current

def applySync (tables : SyncTables) (call : Application) : Except String Progress :=
  if tables.control.heldBy call.owner call.nowMs = false then .error "sync lease expired"
  else if tables.control.catalogGeneration ≠ call.job.catalogGeneration then
    .error "catalog changed since preview; create a new preview"
  else do
    let fenced := { tables.control with leaseUntilMs := call.nowMs + syncLeaseMs }
    let started := { tables with control := fenced, catalog := withdraw tables.catalog }
    let (applied, counts) ← call.job.models.foldlM (applyModel crates call)
      (started, { failed := call.job.counts.failed })
    .ok
      ({ applied with
          missing := applied.missingAt call.job.sourceVersion
          control := applied.control.advance call.nowMs call.job.sourceVersion }, counts)

end Apply

end SyncTables

end CodexGate.Pricing
