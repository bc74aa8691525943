import CodexGate.Foundation.Execution
import CodexGate.Foundation.Machine
import CodexGate.Foundation.Versions

namespace CodexGate.Pricing

open Foundation

def syncLeaseMs : Int := 300000

inductive PriceSource
  | manual
  | cloud
  deriving DecidableEq

/-- A row of `model_prices`; `Card` is a normalized price card. -/
structure PriceRow (Card : Type) where
  id : Int
  providerId : Option Int
  modelName : String
  price : Card
  active : Bool
  source : PriceSource
  sourceVersion : Option String
  deriving DecidableEq

namespace PriceRow

variable {Card : Type}

def scope (row : PriceRow Card) : Int × String := (row.providerId.getD (-1), row.modelName)

def deactivate (row : PriceRow Card) : PriceRow Card := { row with active := false }

def isGlobal (row : PriceRow Card) (modelName : String) : Bool :=
  row.providerId.isNone && row.modelName = modelName

end PriceRow

def versioning (Card : Type) : Versioning (PriceRow Card) Int (Int × String) where
  key := PriceRow.id
  scope := PriceRow.scope
  active := PriceRow.active
  retire := PriceRow.deactivate
  key_retire := fun _ => rfl
  scope_retire := fun _ => rfl
  active_retire := fun _ => rfl
  retire_retire := fun _ => rfl

structure SyncControl where
  owner : Option String
  leaseUntilMs : Int
  lastSuccessMs : Option Int
  lastAttemptMs : Option Int
  lastJobId : Option String
  catalogVersion : Option String
  catalogGeneration : Int
  deriving DecidableEq

namespace SyncControl

def lease (control : SyncControl) (owner jobId : String) (nowMs : Int) : SyncControl :=
  if control.leaseUntilMs ≤ nowMs then
    { control with
      owner := some owner
      lastJobId := some jobId
      leaseUntilMs := nowMs + syncLeaseMs
      lastAttemptMs := some nowMs }
  else control

def heldBy (control : SyncControl) (owner : String) (nowMs : Int) : Bool :=
  control.owner = some owner && nowMs < control.leaseUntilMs

def renew (control : SyncControl) (owner : String) (nowMs : Int) : SyncControl :=
  if control.heldBy owner nowMs then { control with leaseUntilMs := nowMs + syncLeaseMs }
  else control

def release (control : SyncControl) (owner : String) : SyncControl :=
  if control.owner = some owner then { control with owner := none, leaseUntilMs := 0 } else control

def advance (control : SyncControl) (nowMs : Int) (sourceVersion : String) : SyncControl :=
  { control with
    lastSuccessMs := some nowMs
    catalogVersion := some sourceVersion
    catalogGeneration := control.catalogGeneration + 1 }

end SyncControl

structure CatalogModel (Card : Type) where
  modelName : String
  priceData : Option Card

structure CatalogEntry (Card : Type) where
  model : CatalogModel Card
  sourceVersion : String
  isPresent : Bool

structure Counts where
  added : Nat := 0
  updated : Nat := 0
  unchanged : Nat := 0
  manualPreserved : Nat := 0
  failed : Nat := 0
  deriving DecidableEq

structure Conflict (Card : Type) where
  modelName : String
  localId : Int
  localPrice : Card
  cloudPrice : Card

structure Job (Card : Type) where
  id : String
  sourceVersion : String
  counts : Counts
  conflicts : List (Conflict Card)
  models : List (CatalogModel Card)
  expected : HashMap String Int
  catalogGeneration : Int

structure ProviderModel where
  providerId : Int
  upstreamModel : String

structure PriceDb (Card : Type) where
  prices : List (PriceRow Card)
  control : SyncControl
  catalog : String → Option (CatalogEntry Card)
  missing : String → Option String
  providerModels : List ProviderModel

variable {Card : Type}

def globalPrice (prices : List (PriceRow Card)) (modelName : String) : Option (PriceRow Card) :=
  prices.find? fun row => row.active && row.isGlobal modelName

def PriceDb.missingAt (db : PriceDb Card) (sourceVersion model : String) : Option String :=
  let isMissing := db.providerModels.any fun pm => pm.upstreamModel = model &&
    !db.prices.any fun row => row.active && row.modelName = pm.upstreamModel &&
      (row.providerId.isNone || row.providerId = some pm.providerId)
  if isMissing then some sourceVersion else none

inductive Write (Card : Type)
  | price (change : Change (PriceRow Card) Int)
  | fence (leaseUntilMs : Int)
  | withdraw
  | catalog (entry : CatalogEntry Card)
  | missing (rows : String → Option String)
  | advance (nowMs : Int) (sourceVersion : String)

namespace Write

def apply (db : PriceDb Card) : Write Card → PriceDb Card
  | .price change => { db with prices := (versioning Card).apply db.prices change }
  | .fence leaseUntilMs =>
    { db with control := { db.control with leaseUntilMs := leaseUntilMs } }
  | .withdraw =>
    { db with
      catalog := fun model => (db.catalog model).map fun entry => { entry with isPresent := false } }
  | .catalog entry =>
    { db with catalog := Function.update db.catalog entry.model.modelName (some entry) }
  | .missing rows => { db with missing := rows }
  | .advance nowMs sourceVersion =>
    { db with control := db.control.advance nowMs sourceVersion }

def locksControl : Write Card → Bool
  | .fence _ | .advance .. => true
  | _ => false

def change : Write Card → Option (Change (PriceRow Card) Int)
  | .price change => some change
  | _ => none

end Write

def PriceDb.view (db : PriceDb Card) (writes : List (Write Card)) : PriceDb Card :=
  writes.foldl Write.apply db

def changes (writes : List (Write Card)) : List (Change (PriceRow Card) Int) :=
  writes.filterMap Write.change

def inserted (writes : List (Write Card)) : List (PriceRow Card) :=
  (versioning Card).view (changes writes) []

structure ApplyCall (Card : Type) where
  job : Job Card
  selected : List String
  owner : String
  nowMs : Int
  counts : Counts

inductive ApplyPhase (Card : Type)
  | fence
  | check
  | withdraw
  | catalog (models : List (CatalogModel Card))
  | select (modelName : String) (card : Card) (models : List (CatalogModel Card))
  | deactivate (modelName : String) (card : Card) (currentId : Int)
      (models : List (CatalogModel Card))
  | insert (modelName : String) (card : Card) (models : List (CatalogModel Card))
  | clearMissing
  | recordMissing
  | advance
  | commit

inductive AdminPhase (Card : Type)
  | clear (providerId : Option Int) (modelName : String) (price : Card)
  | select (priceId : Int) (replacement : Option Card)
  | deactivate (row : PriceRow Card) (replacement : Option Card)
  | insert (providerId : Option Int) (modelName : String) (price : Card)
  | commit

inductive PreparePhase (Card : Type)
  | readGeneration
  | readPrices
  | readSources (prices : List (PriceRow Card))

inductive Task (Card : Type)
  | prepare (job : Job Card) (phase : PreparePhase Card)
  | apply (call : ApplyCall Card) (phase : ApplyPhase Card)
  | admin (phase : AdminPhase Card)
  | returned (error : Option String)

inductive Next (Card : Type)
  | write (writes : List (Write Card)) (task : Task Card)
  | commit
  | prepared (job : Job Card)
  | ends (error : Option String)

section Prepare

variable [DecidableEq Card]

def prepareModel (prices : List (PriceRow Card)) (sources : List (PriceRow Card)) (job : Job Card)
    (model : CatalogModel Card) : Except String (Job Card) :=
  let current := globalPrice prices model.modelName
  let job := match current with
    | some price => { job with expected := job.expected.insert model.modelName price.id }
    | none => job
  match model.priceData with
  | none => .ok job
  | some card =>
    match current with
    | some price =>
      match sources.find? (fun row => row.active && row.id = price.id) with
      | none => .error "local prices changed during preview"
      | some source =>
        if source.source = .manual then
          .ok
            { job with
              counts := { job.counts with manualPreserved := job.counts.manualPreserved + 1 }
              conflicts := job.conflicts ++
                [{ modelName := model.modelName
                   localId := price.id
                   localPrice := price.price
                   cloudPrice := card }] }
        else if price.price = card then
          .ok { job with counts := { job.counts with unchanged := job.counts.unchanged + 1 } }
        else .ok { job with counts := { job.counts with updated := job.counts.updated + 1 } }
    | none => .ok { job with counts := { job.counts with added := job.counts.added + 1 } }

def prepareNext (job : Job Card) (view : PriceDb Card) : PreparePhase Card → Next Card
  | .readGeneration =>
    .write [] (.prepare { job with catalogGeneration := view.control.catalogGeneration } .readPrices)
  | .readPrices => .write [] (.prepare job (.readSources (view.prices.filter (·.active))))
  | .readSources prices =>
    match job.models.foldlM (prepareModel prices view.prices) job with
    | .ok job => .prepared job
    | .error message => .ends (some message)

end Prepare

namespace ApplyCall

variable [DecidableEq Card]

def counting (call : ApplyCall Card) (count : Counts → Counts) : ApplyCall Card :=
  { call with counts := count call.counts }

def current (call : ApplyCall Card) (modelName : String) (card : Card)
    (models : List (CatalogModel Card)) (current : Option (PriceRow Card)) : Next Card :=
  if current.map (·.id) ≠ call.job.expected.lookup modelName then
    .ends (some ("price changed since preview: " ++ modelName))
  else
    match current with
    | some row =>
      if row.source = .manual ∧ call.selected.contains modelName = false then
        .write [] (.apply
          (call.counting fun counts =>
            { counts with manualPreserved := counts.manualPreserved + 1 }) (.catalog models))
      else if row.price = card ∧ row.source = .cloud then
        .write [] (.apply
          (call.counting fun counts => { counts with unchanged := counts.unchanged + 1 })
          (.catalog models))
      else .write [] (.apply call (.deactivate modelName card row.id models))
    | none =>
      .write [] (.apply (call.counting fun counts => { counts with added := counts.added + 1 })
        (.insert modelName card models))

def next (call : ApplyCall Card) (view : PriceDb Card) (newId : Int) : ApplyPhase Card → Next Card
  | .fence =>
    if view.control.heldBy call.owner call.nowMs then
      .write [.fence (call.nowMs + syncLeaseMs)] (.apply call .check)
    else .ends (some "sync lease expired")
  | .check =>
    if view.control.catalogGeneration = call.job.catalogGeneration then
      .write [] (.apply
        (call.counting fun _ => { failed := call.job.counts.failed }) .withdraw)
    else .ends (some "catalog changed since preview; create a new preview")
  | .withdraw => .write [.withdraw] (.apply call (.catalog call.job.models))
  | .catalog [] => .write [] (.apply call .clearMissing)
  | .catalog (model :: models) =>
    .write
      [.catalog { model := model, sourceVersion := call.job.sourceVersion, isPresent := true }]
      (.apply call (match model.priceData with
        | some card => .select model.modelName card models
        | none => .catalog models))
  | .select modelName card models =>
    call.current modelName card models (globalPrice view.prices modelName)
  | .deactivate modelName card currentId models =>
    if view.prices.any (fun row => row.id = currentId && row.active) then
      .write [.price (.retire currentId)] (.apply
        (call.counting fun counts => { counts with updated := counts.updated + 1 })
        (.insert modelName card models))
    else .ends (some "price changed during apply")
  | .insert modelName card models =>
    .write
      [.price (.insert
        { id := newId
          providerId := none
          modelName := modelName
          price := card
          active := true
          source := .cloud
          sourceVersion := some call.job.sourceVersion })]
      (.apply call (.catalog models))
  | .clearMissing => .write [.missing fun _ => none] (.apply call .recordMissing)
  | .recordMissing =>
    .write [.missing (view.missingAt call.job.sourceVersion)] (.apply call .advance)
  | .advance => .write [.advance call.nowMs call.job.sourceVersion] (.apply call .commit)
  | .commit => .commit

end ApplyCall

def adminNext (view : PriceDb Card) (newId : Int) : AdminPhase Card → Next Card
  | .clear providerId modelName price =>
    let matched := view.prices.filter fun row =>
      row.active && row.modelName = modelName && row.providerId = providerId
    .write (matched.map fun row => .price (.retire row.id))
      (.admin (.insert providerId modelName price))
  | .select priceId replacement =>
    match view.prices.find? (fun row => row.id = priceId && row.active) with
    | some row => .write [] (.admin (.deactivate row replacement))
    | none => .ends none
  | .deactivate row replacement =>
    .write [.price (.retire row.id)] (.admin (match replacement with
      | some price => .insert row.providerId row.modelName price
      | none => .commit))
  | .insert providerId modelName price =>
    .write
      [.price (.insert
        { id := newId
          providerId := providerId
          modelName := modelName
          price := price
          active := true
          source := .manual
          sourceVersion := none })]
      (.admin .commit)
  | .commit => .commit

def Task.next [DecidableEq Card] (view : PriceDb Card) (newId : Int) :
    Task Card → Option (Next Card)
  | .prepare job phase => some (prepareNext job view phase)
  | .apply call phase => some (call.next view newId phase)
  | .admin phase => some (adminNext view newId phase)
  | .returned _ => none

structure Call (Card : Type) where
  writes : List (Write Card)
  task : Task Card

structure SyncStore (Card : Type) where
  clockMs : Int
  db : PriceDb Card
  calls : HashMap Nat (Call Card)
  /-- The jobs that `prepare_sync` has returned. -/
  jobs : List (Job Card)

namespace SyncStore

def enter (store : SyncStore Card) (id : Nat) (call : Call Card) : SyncStore Card :=
  { store with calls := store.calls.insert id call }

def finish (store : SyncStore Card) (id : Nat) (error : Option String) : SyncStore Card :=
  store.enter id { writes := [], task := .returned error }

def others (store : SyncStore Card) (id : Nat) : List (Call Card) :=
  (store.calls.entries.filter (·.1 ≠ id)).map (·.2)

def setControl (store : SyncStore Card) (control : SyncControl) : SyncStore Card :=
  { store with db := { store.db with control := control } }

def controlLocked (store : SyncStore Card) : Bool :=
  (store.calls.entries.map (·.2)).any (·.writes.any Write.locksControl)

end SyncStore

def clashes (row other : PriceRow Card) : Bool :=
  row.id = other.id || row.active && other.active && row.scope = other.scope

/-- The statement waits: another open transaction has updated the row, or inserted one that the
primary key or the unique index does not let stand beside it. -/
def Write.waitsFor (other : Call Card) : Write Card → Bool
  | .price (.retire id) => (changes other.writes).any fun
    | .retire otherId => otherId = id
    | .insert _ => false
  | .price (.insert row) => (inserted other.writes).any (clashes row)
  | .fence _ | .advance .. => other.writes.any Write.locksControl
  | .withdraw | .catalog _ | .missing _ => false

def Write.violates (view : PriceDb Card) : Write Card → Bool
  | .price (.insert row) => view.prices.any (clashes row)
  | _ => false

section Steps

variable [DecidableEq Card]

def SyncStore.runCall (store : SyncStore Card) (id : Nat) (newId : Int) (call : Call Card) :
    Option (SyncStore Card) :=
  let view := store.db.view call.writes
  match call.task.next view newId with
  | some (.write writes task) =>
    if (store.others id).any (fun other => writes.any (Write.waitsFor other)) then none
    else if writes.any (Write.violates view) then
      some (store.finish id (some "unique constraint violation"))
    else some (store.enter id { writes := call.writes ++ writes, task := task })
  | some .commit => some ({ store with db := view }.finish id none)
  | some (.prepared job) => some ({ store with jobs := store.jobs ++ [job] }.finish id none)
  | some (.ends error) => some (store.finish id error)
  | none => none

inductive SyncAction (Card : Type)
  | tick (nowMs : Int)
  /-- The inventory of the providers changes. -/
  | inventory (providerModels : List ProviderModel)
  | lease (owner jobId : String) (nowMs : Int)
  | renew (owner : String) (nowMs : Int)
  | release (owner : String)
  | prepare (id : Nat) (job : Job Card)
  | apply (id : Nat) (job : Nat) (selected : List String) (owner : String)
  | admin (id : Nat) (phase : AdminPhase Card)
  /-- The call runs its next statement; `newId` is the id that the database gives to a new row. -/
  | run (id : Nat) (newId : Int)
  /-- A statement fails, or the process ends: the transaction is rolled back. -/
  | fail (id : Nat) (message : String)

def AdminPhase.starts : AdminPhase Card → Bool
  | .clear .. | .select .. => true
  | .deactivate .. | .insert .. | .commit => false

def syncStep (store : SyncStore Card) : SyncAction Card → Option (SyncStore Card)
  | .tick nowMs => if store.clockMs ≤ nowMs then some { store with clockMs := nowMs } else none
  | .inventory providerModels =>
    some { store with db := { store.db with providerModels := providerModels } }
  | .lease owner jobId nowMs =>
    if nowMs ≤ store.clockMs ∧ store.controlLocked = false then
      some (store.setControl (store.db.control.lease owner jobId nowMs))
    else none
  | .renew owner nowMs =>
    if nowMs ≤ store.clockMs ∧ store.controlLocked = false then
      some (store.setControl (store.db.control.renew owner nowMs))
    else none
  | .release owner =>
    if store.controlLocked = false then
      some (store.setControl (store.db.control.release owner))
    else none
  | .prepare id job =>
    if (store.calls.lookup id).isNone ∧ job.conflicts.isEmpty ∧ job.expected.keys.isEmpty then
      some (store.enter id { writes := [], task := .prepare job .readGeneration })
    else none
  | .apply id job selected owner =>
    match store.calls.lookup id, store.jobs[job]? with
    | none, some job =>
      let call : ApplyCall Card :=
        { job := job, selected := selected, owner := owner, nowMs := store.clockMs, counts := {} }
      some (store.enter id { writes := [], task := .apply call .fence })
    | _, _ => none
  | .admin id phase =>
    if (store.calls.lookup id).isNone ∧ phase.starts then
      some (store.enter id { writes := [], task := .admin phase })
    else none
  | .run id newId => (store.calls.lookup id).bind (store.runCall id newId)
  | .fail id message =>
    match store.calls.lookup id with
    | some { writes := _, task := .returned _ } => none
    | some _ => some (store.finish id (some message))
    | none => none

end Steps

end CodexGate.Pricing
