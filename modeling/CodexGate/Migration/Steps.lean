import CodexGate.Foundation.Scripts
import CodexGate.Migration.Schema
import Mathlib.Data.List.Dedup

namespace CodexGate.Migration

open Foundation

def createTable (name : TableName) (db : Db) : Db :=
  if (db.tables name).isSome then db
  else
    { db with
      tables := Function.update db.tables name (some { toShape := currentShape name, rows := [] }) }

def createIndex (index : IndexName) (db : Db) : Db :=
  { db with indexes := Function.update db.indexes index true }

def addColumn (name : TableName) (column : ColumnName) (fill : Value) (db : Db) : Db :=
  db.alter name fun table =>
    { table with
      columns := table.columns ++ [column]
      rows := table.rows.map fun row => row.put column fill }

def dropColumn (name : TableName) (column : ColumnName) (db : Db) : Db :=
  db.alter name fun table =>
    { table with
      columns := table.columns.filter fun other => other ≠ column
      rows := table.rows.map fun row => row.put column .null }

def dropReference (name : TableName) (column : ColumnName) (db : Db) : Db :=
  db.alter name fun table =>
    { table with
      references := table.references.filter fun reference =>
        reference ≠ (column, TableName.upstreamProviders) }

def setPrimaryKey (name : TableName) (columns : List ColumnName) (db : Db) : Db :=
  db.alter name fun table => { table with primaryKey := columns }

/-- A table that is made anew where it is not as it should be. The columns of the new one are copied,
`fill` in place of the required ones that the old one does not have. -/
structure Rebuild where
  table : TableName
  shape : Shape
  obsolete : List ColumnName
  required : List ColumnName
  keyed : List ColumnName
  unreferenced : List ColumnName
  fill : ColumnName → Value
  indexes : List IndexName
  fresh : (∀ column ∈ obsolete, column ∉ shape.columns) ∧
    (∀ column ∈ required, column ∈ shape.columns) ∧
    (∀ column ∈ keyed, column ∈ shape.primaryKey) ∧
    ∀ column ∈ unreferenced, (column, TableName.upstreamProviders) ∉ shape.references

namespace Rebuild

def stale (rebuild : Rebuild) (shape : Shape) : Bool :=
  (rebuild.obsolete.any fun column => column ∈ shape.columns) ||
    (rebuild.required.any fun column => column ∉ shape.columns) ||
    (rebuild.keyed.any fun column => column ∉ shape.primaryKey) ||
    (rebuild.unreferenced.any fun column =>
      (column, TableName.upstreamProviders) ∈ shape.references)

def copied (rebuild : Rebuild) (columns : List ColumnName) (row : Row) : Row :=
  .of <| rebuild.shape.columns.map fun column =>
    (column, if column ∈ rebuild.required ∧ column ∉ columns then rebuild.fill column
      else row.get column)

def apply (rebuild : Rebuild) (db : Db) : Db :=
  { db.alter rebuild.table fun table =>
      { toShape := rebuild.shape, rows := table.rows.map (rebuild.copied table.columns) } with
    indexes := fun index =>
      if index.table = rebuild.table then index ∈ rebuild.indexes else db.indexes index }

def block (rebuild : Rebuild) : Block Db := fun db =>
  if (db.shape rebuild.table).any rebuild.stale then [rebuild.apply] else []

end Rebuild

def defaultGroups (db : Db) : List Row :=
  (db.rows .providerGroups).filter fun row => row.get .normalizedName = .text "default"

def insertDefaultGroup (db : Db) : Db :=
  if defaultGroups db = [] then
    let id := db.sequences .providerGroups + 1
    { db.insert .providerGroups
        [.of [(.id, .integer id), (.name, .text "default"), (.normalizedName, .text "default"),
            (.isDefault, .flag true), (.createdAtMs, .integer 0), (.updatedAtMs, .integer 0)]] with
      sequences := Function.update db.sequences .providerGroups id }
  else db

def markDefaultGroup (db : Db) : Db :=
  db.mapRows .providerGroups fun row =>
    if row.get .normalizedName = .text "default" then row.put .isDefault (.flag true) else row

def upsertDefaultGroup (db : Db) : Db :=
  if defaultGroups db = [] then insertDefaultGroup db
  else
    { markDefaultGroup db with
      sequences := Function.update db.sequences .providerGroups
        (db.sequences .providerGroups + 1) }

def ungrouped (owners members : TableName) (column : ColumnName) (db : Db) : List Row :=
  (db.rows owners).filter fun row => [row.get .id] ∉ db.view members [column]

def groupProviders (db : Db) : Db :=
  db.insert .providerGroupProviders <| (defaultGroups db).flatMap fun group =>
    (ungrouped .upstreamProviders .providerGroupProviders .providerId db).map fun provider =>
      .of [(.groupId, group.get .id), (.providerId, provider.get .id), (.priorityOverride, .null),
          (.createdAtMs, .integer 0), (.updatedAtMs, .integer 0)]

def groupApiKeys (db : Db) : Db :=
  db.insert .providerGroupApiKeys <| (defaultGroups db).flatMap fun group =>
    (ungrouped .apiKeys .providerGroupApiKeys .apiKeyId db).map fun key =>
      .of [(.groupId, group.get .id), (.apiKeyId, key.get .id), (.createdAtMs, .integer 0)]

def aliased (row : Row) : Bool := row.get .aliasName ≠ .null ∧ row.get .aliasName ≠ .text ""

def findAlias (name : Value) (db : Db) : Option Row :=
  (db.rows .modelAliases).find? fun row => row.get .name = name

/-- Where `gaps`, an insert that a conflict skips uses up an id. -/
def insertAlias (gaps : Bool) (model : Row) (db : Db) : Db :=
  let id := db.sequences .modelAliases + 1
  let used := Function.update db.sequences .modelAliases id
  match findAlias (model.get .aliasName) db with
  | some _ => if gaps then { db with sequences := used } else db
  | none =>
    { db.insert .modelAliases
        [.of [(.id, .integer id), (.name, model.get .aliasName), (.enabled, .flag true),
            (.mode, .text "ordered"), (.createdAtMs, model.get .createdAtMs),
            (.updatedAtMs, model.get .updatedAtMs)]] with
      sequences := used }

def insertTarget (model : Row) (db : Db) : Db :=
  match findAlias (model.get .aliasName) db with
  | none => db
  | some found =>
    let target := [found.get .id, model.get .providerId, model.get .upstreamModel]
    if target ∈ db.view .modelAliasTargets [.aliasId, .providerId, .upstreamModel] then db
    else
      let id := db.sequences .modelAliasTargets + 1
      { db.insert .modelAliasTargets
          [.of [(.id, .integer id), (.aliasId, found.get .id), (.providerId, model.get .providerId),
              (.upstreamModel, model.get .upstreamModel), (.enabled, model.get .enabled),
              (.priority, .integer 100), (.weight, .integer 1),
              (.createdAtMs, model.get .createdAtMs), (.updatedAtMs, model.get .updatedAtMs)]] with
        sequences := Function.update db.sequences .modelAliasTargets id }

def migrateProviderModelAliases (gaps : Bool) : Block Db := fun db =>
  ((db.rows .providerModels).filter aliased).flatMap fun model =>
    [insertAlias gaps model, insertTarget model]

def number : Value → Int
  | .integer value => value
  | _ => 0

/-- A row of the same scope that is newer, with a greater id among those made at one time. -/
def newer (row other : Row) : Bool :=
  other.get .modelName = row.get .modelName ∧ other.get .providerId = row.get .providerId ∧
    (number (row.get .createdAtMs) < number (other.get .createdAtMs) ∨
      (number (other.get .createdAtMs) = number (row.get .createdAtMs) ∧
        number (row.get .id) < number (other.get .id)))

def activateLatest (db : Db) : Db :=
  let prices := db.rows .modelPrices
  let latest := (prices.filter fun row => !prices.any (newer row)).map fun row => row.get .id
  db.mapRows .modelPrices fun row =>
    if row.get .id ∈ latest then row.put .active (.flag true) else row

def ensureModelPricesActive : Block Db := fun db =>
  if db.columnExists .modelPrices .active then []
  else [addColumn .modelPrices .active (.flag false), activateLatest]

def insertPriceSyncControl (db : Db) : Db :=
  if [.integer 1] ∈ db.view .priceSyncControl [.id] then db
  else
    db.insert .priceSyncControl
      [.of [(.id, .integer 1), (.owner, .null), (.leaseUntilMs, .integer 0), (.lastSuccessMs, .null),
          (.lastAttemptMs, .null), (.lastJobId, .null), (.catalogVersion, .null),
          (.catalogGeneration, .integer 0)]]

structure MigratedPolicy where
  modelName : Value
  mode : String
  /-- the provider, the priority and the weight of each target -/
  targets : List (List Value)

/-- What the migrations take from elsewhere: how the database gives out ids, the encoding of a policy
and the text of the report. -/
structure MigrationEnv where
  gaps : Bool
  policyText : MigratedPolicy → String
  report : Db → String

def plainEnv : MigrationEnv where
  gaps := false
  policyText _ := ""
  report _ := ""

section UpstreamConfig

variable (env : MigrationEnv)

def upstreamTables : List TableName :=
  [.upstreamMigrations, .apiKeyAuthorization, .apiKeyAllowedProviders, .modelRoutePolicies,
    .upstreamRequestOptions, .upstreamSyncState]

def insertAuthorizations (db : Db) : Db :=
  db.insert .apiKeyAuthorization <| (db.rows .apiKeys).map fun key =>
    .of [(.apiKeyId, key.get .id), (.direct, .flag false)]

def insertAllowed (db : Db) : Db :=
  let pairs := (db.rows .providerGroupApiKeys).flatMap fun key =>
    ((db.rows .providerGroupProviders).filter fun provider =>
      provider.get .groupId = key.get .groupId).map fun provider =>
        (key.get .apiKeyId, provider.get .providerId)
  db.insert .apiKeyAllowedProviders <| pairs.dedup.map fun pair =>
    .of [(.apiKeyId, pair.1), (.providerId, pair.2)]

def inOrder (row other : Row) : Bool :=
  number (row.get .priority) < number (other.get .priority) ∨
    (number (row.get .priority) = number (other.get .priority) ∧
      number (row.get .id) ≤ number (other.get .id))

def defaultPolicy (db : Db) : MigratedPolicy :=
  let targets := ((db.rows .upstreamProviders).mergeSort inOrder).map fun row =>
    [row.get .id, row.get .priority, row.get .weight]
  { modelName := .text "*", mode := if targets = [] then "ordered" else "weighted", targets }

def routePolicy (db : Db) (route : Row) : Option MigratedPolicy :=
  let ids := ((db.rows .modelRouteProviders).filter fun row =>
    row.get .routeId = route.get .id).map fun row => row.get .providerId
  if route.get .enabled = .flag true ∧ ids ≠ [] then
    let policy := defaultPolicy db
    some { policy with
      modelName := route.get .modelName
      targets := policy.targets.filter fun target => target.head?.any fun id => id ∈ ids }
  else none

def insertPolicies (db : Db) : Db :=
  let policies := defaultPolicy db :: (db.rows .modelRoutes).filterMap (routePolicy db)
  db.insert .modelRoutePolicies <| policies.map fun policy =>
    .of [(.modelName, policy.modelName), (.dataJson, .text (env.policyText policy))]

def freezeWeights (db : Db) : Db :=
  let weighted := ((db.rows .modelAliases).filter fun row => row.get .mode = .text "weighted").map
    fun row => row.get .id
  db.mapRows .modelAliasTargets fun row =>
    if row.get .aliasId ∈ weighted then
      match (db.rows .upstreamProviders).find? fun provider =>
          provider.get .id = row.get .providerId with
      | none => row.put .weight .null
      | some provider =>
        row.put .weight
          (.integer (min (number (row.get .weight) * number (provider.get .weight)) 2147483647))
    else row

/-- One transaction, which after the first time finds the row of its version. The report is about
what the tables held before the weights. -/
def migrateUpstreamConfig (db : Db) : Db :=
  let made := upstreamTables.foldl (fun reached name => createTable name reached) db
  if [.integer 1] ∈ made.view .upstreamMigrations [.version] then made
  else
    let filled := insertPolicies env (insertAllowed (insertAuthorizations made))
    (freezeWeights filled).insert .upstreamMigrations
      [.of [(.version, .integer 1), (.reportJson, .text (env.report filled))]]

end UpstreamConfig

end CodexGate.Migration
