import CodexGate.Foundation.Text
import CodexGate.Migration.Reruns

namespace CodexGate.Migration

open Foundation

structure RowsOnly (before after : Db) : Prop where
  shape : after.shape = before.shape
  version : after.view .upstreamMigrations [.version] = before.view .upstreamMigrations [.version]
  control : after.view .priceSyncControl [.id] = before.view .priceSyncControl [.id]

namespace RowsOnly

variable {before after last : Db} {name : TableName}

theorem refl (db : Db) : RowsOnly db db := ⟨rfl, rfl, rfl⟩

theorem trans (first : RowsOnly before after) (second : RowsOnly after last) : RowsOnly before last :=
  ⟨second.shape.trans first.shape, second.version.trans first.version,
    second.control.trans first.control⟩

theorem alter {change : Table → Table} (kept : ∀ table, (change table).toShape = table.toShape)
    (own : name ≠ .upstreamMigrations ∧ name ≠ .priceSyncControl) (db : Db) :
    RowsOnly db (db.alter name change) where
  shape := shape_alter_of_kept db kept
  version := view_alter_of_ne db change _ own.1.symm
  control := view_alter_of_ne db change _ own.2.symm

end RowsOnly

namespace Row

def putAll (row : Row) (values : List (ColumnName × Value)) : Row :=
  values.foldl (fun reached entry => reached.put entry.1 entry.2) row

def hasId (id : Int) (row : Row) : Bool := row.get .id = .integer id

end Row

namespace Db

def updateWhere (name : TableName) (chosen : Row → Bool) (values : List (ColumnName × Value))
    (db : Db) : Db :=
  db.mapRows name fun row => if chosen row then row.putAll values else row

def deleteWhere (name : TableName) (chosen : Row → Bool) (db : Db) : Db :=
  db.alter name fun table => { table with rows := table.rows.filter fun row => !chosen row }

/-- A row with the next id. The insert fails where it breaks a constraint, and in Postgres the id is
then used up. -/
def insertNew (gaps : Bool) (name : TableName) (refused : Bool) (values : List (ColumnName × Value))
    (db : Db) : Db :=
  let id := db.sequences name + 1
  let used := Function.update db.sequences name id
  if refused then
    if gaps then { db with sequences := used } else db
  else { db.insert name [.of ((.id, .integer id) :: values)] with sequences := used }

def taken (name : TableName) (column : ColumnName) (value : Value) (id : Int) (db : Db) : Bool :=
  (db.rows name).any fun row => row.get column = value && !row.hasId id

def hasId (name : TableName) (id : Int) (db : Db) : Bool := [.integer id] ∈ db.view name [.id]

end Db

section Operations

variable (gaps : Bool) (now : Int) (db : Db)

def stamped (values : List (ColumnName × Value)) : List (ColumnName × Value) :=
  values ++ [(.createdAtMs, .integer now), (.updatedAtMs, .integer now)]

def insertModelAlias (name : String) (enabled : Bool) (mode : String) : Db :=
  db.insertNew gaps .modelAliases (findAlias (.text name) db).isSome <| stamped now
    [(.name, .text name), (.enabled, .flag enabled), (.mode, .text mode)]

def updateModelAlias (id : Int) (name : String) (enabled : Bool) (mode : String) : Db :=
  if db.taken .modelAliases .name (.text name) id then db
  else
    db.updateWhere .modelAliases (Row.hasId id)
      [(.name, .text name), (.enabled, .flag enabled), (.mode, .text mode),
        (.updatedAtMs, .integer now)]

def deleteModelAlias (id : Int) : Db :=
  (db.deleteWhere .modelAliases (Row.hasId id)).deleteWhere .modelAliasTargets fun row =>
    row.get .aliasId = .integer id

def insertModelAliasTarget (aliasId providerId : Int) (upstreamModel : String) (enabled : Bool)
    (priority weight : Int) : Db :=
  db.insertNew gaps .modelAliasTargets
    (!db.hasId .modelAliases aliasId || !db.hasId .upstreamProviders providerId) <| stamped now
      [(.aliasId, .integer aliasId), (.providerId, .integer providerId),
        (.upstreamModel, .text upstreamModel), (.enabled, .flag enabled),
        (.priority, .integer priority), (.weight, .integer weight)]

def updateModelAliasTarget (id providerId : Int) (upstreamModel : String) (enabled : Bool)
    (priority weight : Int) : Db :=
  if db.hasId .upstreamProviders providerId then
    db.updateWhere .modelAliasTargets (Row.hasId id)
      [(.providerId, .integer providerId), (.upstreamModel, .text upstreamModel),
        (.enabled, .flag enabled), (.priority, .integer priority), (.weight, .integer weight),
        (.updatedAtMs, .integer now)]
  else db

def deleteModelAliasTarget (id : Int) : Db := db.deleteWhere .modelAliasTargets (Row.hasId id)

def aliasValue (aliasName : Option String) : Value :=
  match aliasName.map trim with
  | none | some "" => .null
  | some name => .text name

def setProviderModel (id : Int) (column : ColumnName) (value : Option Value) : Db :=
  value.elim db fun value =>
    db.updateWhere .providerModels (Row.hasId id) [(column, value), (.updatedAtMs, .integer now)]

def updateProviderModel (id : Int) (aliasName : Option (Option String))
    (enabled responsesViaChatEnabled : Option Bool) : Db :=
  let value := aliasName.map aliasValue
  if value.any fun value => value ≠ .null && db.taken .providerModels .aliasName value id then db
  else
    let aliased := setProviderModel now db id .aliasName value
    let switched := setProviderModel now aliased id .enabled (enabled.map .flag)
    setProviderModel now switched id .responsesViaChatEnabled (responsesViaChatEnabled.map .flag)

def deleteProviderModel (id : Int) : Db := db.deleteWhere .providerModels (Row.hasId id)

def insertProviderGroup (name normalizedName : String) : Db :=
  db.insertNew gaps .providerGroups
    ([.text normalizedName] ∈ db.view .providerGroups [.normalizedName]) <| stamped now
      [(.name, .text name), (.normalizedName, .text normalizedName), (.isDefault, .flag false)]

def notDefault (id : Int) (row : Row) : Bool := row.hasId id && row.get .isDefault = .flag false

def updateProviderGroup (id : Int) (name normalizedName : String) : Db :=
  if db.taken .providerGroups .normalizedName (.text normalizedName) id then db
  else
    db.updateWhere .providerGroups (notDefault id)
      [(.name, .text name), (.normalizedName, .text normalizedName), (.updatedAtMs, .integer now)]

def deleteProviderGroup (id : Int) : Db :=
  if [.integer id] ∈ db.view .providerGroupProviders [.groupId] ∨
      [.integer id] ∈ db.view .providerGroupApiKeys [.groupId] then db
  else db.deleteWhere .providerGroups (notDefault id)

def refreshCompatAuthorizations : Db :=
  let missing := (db.rows .apiKeys).filter fun key =>
    [key.get .id] ∉ db.view .apiKeyAuthorization [.apiKeyId]
  let authorized := db.insert .apiKeyAuthorization <| missing.map fun key =>
    .of [(.apiKeyId, key.get .id), (.direct, .flag false)]
  let indirect (id : Value) : Bool :=
    [id, .flag false] ∈ authorized.view .apiKeyAuthorization [.apiKeyId, .direct]
  let pairs := (db.rows .providerGroupApiKeys).flatMap fun key =>
    ((db.rows .providerGroupProviders).filter fun provider =>
      provider.get .groupId = key.get .groupId && indirect (key.get .apiKeyId)).map fun provider =>
        (key.get .apiKeyId, provider.get .providerId)
  (authorized.deleteWhere .apiKeyAllowedProviders fun row => indirect (row.get .apiKeyId)).insert
    .apiKeyAllowedProviders <| pairs.dedup.map fun pair =>
      .of [(.apiKeyId, pair.1), (.providerId, pair.2)]

def replaceOwned (owners others members : TableName) (column : ColumnName) (owner : Int)
    (ids : List Int) (rows : List Row) : Option Db :=
  if ids.Nodup ∧ (∀ id ∈ ids, db.hasId others id) ∧ (ids = [] ∨ db.hasId owners owner) then
    some <| (db.deleteWhere members fun row => row.get column = .integer owner).insert members rows
  else none

def replaceProviderGroupMemberships (providerId : Int) (groups : List (Int × Option Int)) : Db :=
  let rows := groups.map fun group =>
    .of <| stamped now
      [(.groupId, .integer group.1), (.providerId, .integer providerId),
        (.priorityOverride, group.2.elim .null .integer)]
  (replaceOwned db .upstreamProviders .providerGroups .providerGroupProviders .providerId providerId
    (groups.map Prod.fst) rows).elim db refreshCompatAuthorizations

def replaceApiKeyProviderGroups (apiKeyId : Int) (groupIds : List Int) : Db :=
  let rows := groupIds.map fun id =>
    .of [(.groupId, .integer id), (.apiKeyId, .integer apiKeyId), (.createdAtMs, .integer now)]
  (replaceOwned db .apiKeys .providerGroups .providerGroupApiKeys .apiKeyId apiKeyId groupIds
    rows).elim db refreshCompatAuthorizations

def addPrice (providerId : Value) (modelName : Value) (priceDataJson : String) : Db :=
  db.insertNew gaps .modelPrices false <| stamped now
    [(.providerId, providerId), (.modelName, modelName), (.priceDataJson, .text priceDataJson),
      (.active, .flag true), (.source, .text "manual")]

def isActive (row : Row) : Bool := row.get .active = .flag true

def insertModelPrice (providerId : Option Int) (modelName priceDataJson : String) : Db :=
  let scope := providerId.elim .null Value.integer
  addPrice gaps now
    (db.updateWhere .modelPrices
      (fun row => isActive row && row.get .modelName = .text modelName && row.get .providerId = scope)
      [(.active, .flag false), (.updatedAtMs, .integer now)])
    scope (.text modelName) priceDataJson

def activePrice (priceId : Int) : Option Row :=
  (db.rows .modelPrices).find? fun row => row.hasId priceId && isActive row

def deactivateModelPrice (priceId : Int) : Db :=
  match activePrice db priceId with
  | none => db
  | some _ =>
    db.updateWhere .modelPrices (Row.hasId priceId)
      [(.active, .flag false), (.updatedAtMs, .integer now)]

def updateModelPrice (priceId : Int) (priceDataJson : String) : Db :=
  match activePrice db priceId with
  | none => db
  | some current =>
    addPrice gaps now (deactivateModelPrice now db priceId) (current.get .providerId)
      (current.get .modelName) priceDataJson

def replaceAllowedProviders (apiKeyId : Int) (providerIds : List Int) : Db :=
  let marked :=
    if [.integer apiKeyId] ∈ db.view .apiKeyAuthorization [.apiKeyId] then
      db.updateWhere .apiKeyAuthorization (fun row => row.get .apiKeyId = .integer apiKeyId)
        [(.direct, .flag true)]
    else
      db.insert .apiKeyAuthorization [.of [(.apiKeyId, .integer apiKeyId), (.direct, .flag true)]]
  let rows := providerIds.map fun id =>
    .of [(.apiKeyId, .integer apiKeyId), (.providerId, .integer id)]
  if db.hasId .apiKeys apiKeyId then
    (replaceOwned marked .apiKeys .upstreamProviders .apiKeyAllowedProviders .apiKeyId apiKeyId
      providerIds rows).getD db
  else db

def saveRoutePolicy (modelName data : String) : Db :=
  if [.text modelName] ∈ db.view .modelRoutePolicies [.modelName] then
    db.updateWhere .modelRoutePolicies (fun row => row.get .modelName = .text modelName)
      [(.dataJson, .text data)]
  else db.insert .modelRoutePolicies [.of [(.modelName, .text modelName), (.dataJson, .text data)]]

def deleteRoutePolicy (modelName : String) : Db :=
  db.deleteWhere .modelRoutePolicies fun row =>
    row.get .modelName = .text modelName && modelName ≠ "*"

end Operations

inductive AdminChange (gaps : Bool) : Db → Db → Prop
  | insertModelAlias (now db name enabled mode) :
    AdminChange gaps db (insertModelAlias gaps now db name enabled mode)
  | updateModelAlias (now db id name enabled mode) :
    AdminChange gaps db (updateModelAlias now db id name enabled mode)
  | deleteModelAlias (db id) : AdminChange gaps db (deleteModelAlias db id)
  | insertModelAliasTarget (now db aliasId providerId upstreamModel enabled priority weight) :
    AdminChange gaps db
      (insertModelAliasTarget gaps now db aliasId providerId upstreamModel enabled priority weight)
  | updateModelAliasTarget (now db id providerId upstreamModel enabled priority weight) :
    AdminChange gaps db
      (updateModelAliasTarget now db id providerId upstreamModel enabled priority weight)
  | deleteModelAliasTarget (db id) : AdminChange gaps db (deleteModelAliasTarget db id)
  | updateProviderModel (now db id aliasName enabled responsesViaChatEnabled) :
    AdminChange gaps db (updateProviderModel now db id aliasName enabled responsesViaChatEnabled)
  | deleteProviderModel (db id) : AdminChange gaps db (deleteProviderModel db id)
  | insertProviderGroup (now db name normalizedName) :
    AdminChange gaps db (insertProviderGroup gaps now db name normalizedName)
  | updateProviderGroup (now db id name normalizedName) :
    AdminChange gaps db (updateProviderGroup now db id name normalizedName)
  | deleteProviderGroup (db id) : AdminChange gaps db (deleteProviderGroup db id)
  | replaceProviderGroupMemberships (now db providerId groups) :
    AdminChange gaps db (replaceProviderGroupMemberships now db providerId groups)
  | replaceApiKeyProviderGroups (now db apiKeyId groupIds) :
    AdminChange gaps db (replaceApiKeyProviderGroups now db apiKeyId groupIds)
  | insertModelPrice (now db providerId modelName priceDataJson) :
    AdminChange gaps db (insertModelPrice gaps now db providerId modelName priceDataJson)
  | updateModelPrice (now db priceId priceDataJson) :
    AdminChange gaps db (updateModelPrice gaps now db priceId priceDataJson)
  | deactivateModelPrice (now db priceId) : AdminChange gaps db (deactivateModelPrice now db priceId)
  | replaceAllowedProviders (db apiKeyId providerIds) :
    AdminChange gaps db (replaceAllowedProviders db apiKeyId providerIds)
  | saveRoutePolicy (db modelName data) : AdminChange gaps db (saveRoutePolicy db modelName data)
  | deleteRoutePolicy (db modelName) : AdminChange gaps db (deleteRoutePolicy db modelName)

namespace RowsOnly

variable {name : TableName} (own : name ≠ .upstreamMigrations ∧ name ≠ .priceSyncControl) (db : Db)
include own

theorem insert (added : List Row) : RowsOnly db (db.insert name added) :=
  alter (by exact fun _ => rfl) own db

theorem updateWhere (chosen : Row → Bool) (values : List (ColumnName × Value)) :
    RowsOnly db (db.updateWhere name chosen values) :=
  alter (by exact fun _ => rfl) own db

theorem deleteWhere (chosen : Row → Bool) : RowsOnly db (db.deleteWhere name chosen) :=
  alter (by exact fun _ => rfl) own db

theorem insertNew (gaps refused : Bool) (values : List (ColumnName × Value)) :
    RowsOnly db (db.insertNew gaps name refused values) := by
  unfold Db.insertNew
  split
  · split
    · exact ⟨rfl, rfl, rfl⟩
    · exact refl db
  · have inserted := insert own db [.of ((.id, .integer (db.sequences name + 1)) :: values)]
    exact ⟨inserted.shape, inserted.version, inserted.control⟩

theorem replaceOwned {owners others : TableName} {column : ColumnName} {owner : Int} {ids : List Int}
    {rows : List Row} {after : Db}
    (replaced : replaceOwned db owners others name column owner ids rows = some after) :
    RowsOnly db after := by
  unfold Migration.replaceOwned at replaced
  split at replaced
  · cases replaced
    exact (deleteWhere own db _).trans (insert own _ rows)
  · cases replaced

omit own

theorem refreshCompatAuthorizations : RowsOnly db (refreshCompatAuthorizations db) := by
  have keys : TableName.apiKeyAuthorization ≠ .upstreamMigrations ∧
      TableName.apiKeyAuthorization ≠ .priceSyncControl := by decide
  have own : TableName.apiKeyAllowedProviders ≠ .upstreamMigrations ∧
      TableName.apiKeyAllowedProviders ≠ .priceSyncControl := by decide
  exact (insert keys db _).trans ((deleteWhere own _ _).trans (insert own _ _))

theorem setProviderModel (now id : Int) (column : ColumnName) (value : Option Value) :
    RowsOnly db (setProviderModel now db id column value) := by
  unfold Migration.setProviderModel
  cases value with
  | none => exact refl db
  | some value => exact updateWhere (by decide) db _ _

theorem deactivateModelPrice (now priceId : Int) : RowsOnly db (deactivateModelPrice now db priceId) := by
  unfold Migration.deactivateModelPrice
  split
  · exact refl db
  · exact updateWhere (by decide) db _ _

end RowsOnly

theorem adminChange_rowsOnly {gaps : Bool} {before after : Db} (change : AdminChange gaps before after) :
    RowsOnly before after := by
  have prices : TableName.modelPrices ≠ .upstreamMigrations ∧ TableName.modelPrices ≠ .priceSyncControl :=
    by decide
  cases change with
  | insertModelAlias => exact .insertNew (by decide) before gaps _ _
  | updateModelAlias =>
    unfold updateModelAlias
    split
    · exact .refl before
    · exact .updateWhere (by decide) before _ _
  | deleteModelAlias =>
    exact (RowsOnly.deleteWhere (by decide) before _).trans (.deleteWhere (by decide) _ _)
  | insertModelAliasTarget => exact .insertNew (by decide) before gaps _ _
  | updateModelAliasTarget =>
    unfold updateModelAliasTarget
    split
    · exact .updateWhere (by decide) before _ _
    · exact .refl before
  | deleteModelAliasTarget => exact .deleteWhere (by decide) before _
  | updateProviderModel now _ id =>
    unfold updateProviderModel
    dsimp only
    split
    · exact .refl before
    · exact (RowsOnly.setProviderModel before now id _ _).trans
        ((RowsOnly.setProviderModel _ now id _ _).trans (.setProviderModel _ now id _ _))
  | deleteProviderModel => exact .deleteWhere (by decide) before _
  | insertProviderGroup => exact .insertNew (by decide) before gaps _ _
  | updateProviderGroup =>
    unfold updateProviderGroup
    split
    · exact .refl before
    · exact .updateWhere (by decide) before _ _
  | deleteProviderGroup =>
    unfold deleteProviderGroup
    split
    · exact .refl before
    · exact .deleteWhere (by decide) before _
  | replaceProviderGroupMemberships =>
    unfold replaceProviderGroupMemberships
    dsimp only
    cases replaced : replaceOwned before _ _ _ _ _ _ _ with
    | none => exact .refl before
    | some after =>
      exact (RowsOnly.replaceOwned (by decide) before replaced).trans (.refreshCompatAuthorizations after)
  | replaceApiKeyProviderGroups =>
    unfold replaceApiKeyProviderGroups
    dsimp only
    cases replaced : replaceOwned before _ _ _ _ _ _ _ with
    | none => exact .refl before
    | some after =>
      exact (RowsOnly.replaceOwned (by decide) before replaced).trans (.refreshCompatAuthorizations after)
  | insertModelPrice =>
    unfold insertModelPrice
    exact (RowsOnly.updateWhere prices before _ _).trans (.insertNew prices _ gaps _ _)
  | updateModelPrice now _ priceId =>
    unfold updateModelPrice
    split
    · exact .refl before
    · exact (RowsOnly.deactivateModelPrice before now priceId).trans (.insertNew prices _ gaps _ _)
  | deactivateModelPrice now _ priceId => exact .deactivateModelPrice before now priceId
  | replaceAllowedProviders =>
    unfold replaceAllowedProviders
    dsimp only
    split
    · cases replaced : replaceOwned _ _ _ _ _ _ _ _ with
      | none => exact .refl before
      | some after =>
        refine RowsOnly.trans ?_ (.replaceOwned (by decide) _ replaced)
        split
        · exact .updateWhere (by decide) before _ _
        · exact .insert (by decide) before _
    · exact .refl before
  | saveRoutePolicy =>
    unfold saveRoutePolicy
    split
    · exact .updateWhere (by decide) before _ _
    · exact .insert (by decide) before _
  | deleteRoutePolicy => exact .deleteWhere (by decide) before _

end CodexGate.Migration
