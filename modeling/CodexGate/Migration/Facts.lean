import CodexGate.Migration.Scripts

namespace CodexGate.Migration

open Foundation

section Db

variable (db : Db) {name other : TableName}

theorem shape_alter_self (change : Table → Table) :
    (db.alter name change).shape name = (db.tables name).map fun table => (change table).toShape := by
  simp [Db.shape, Db.alter, Function.comp_def]

theorem shape_alter_of_ne (change : Table → Table) (apart : other ≠ name) :
    (db.alter name change).shape other = db.shape other := by
  simp [Db.shape, Db.alter, apart]

theorem shape_alter_of_kept {change : Table → Table}
    (kept : ∀ table, (change table).toShape = table.toShape) :
    (db.alter name change).shape = db.shape := by
  funext other
  by_cases same : other = name
  · rw [same, shape_alter_self, Db.shape]
    congr 1
    funext table
    exact kept table
  · exact shape_alter_of_ne db change same

theorem rows_alter_self (change : Table → Table) :
    (db.alter name change).rows name = (db.tables name).elim [] fun table => (change table).rows := by
  simp only [Db.rows, Db.alter, Function.update_self]
  cases db.tables name <;> rfl

theorem rows_alter_of_ne (change : Table → Table) (apart : other ≠ name) :
    (db.alter name change).rows other = db.rows other := by
  simp [Db.rows, Db.alter, apart]

theorem rows_mapRows (change : Row → Row) :
    (db.mapRows name change).rows name = (db.rows name).map change := by
  rw [Db.mapRows, rows_alter_self, Db.rows]
  cases db.tables name <;> rfl

theorem rows_insert (added : List Row) {table : Table} (there : db.tables name = some table) :
    (db.insert name added).rows name = db.rows name ++ added := by
  rw [Db.insert, rows_alter_self, Db.rows, there]
  rfl

theorem view_alter_of_ne (change : Table → Table) (columns : List ColumnName) (apart : other ≠ name) :
    (db.alter name change).view other columns = db.view other columns := by
  rw [Db.view, Db.view, rows_alter_of_ne db change apart]

theorem view_alter_of_kept (change : Row → Row) {altered : Table → Table} {columns : List ColumnName}
    (rows : ∀ table, (altered table).rows = table.rows.map change)
    (kept : ∀ column ∈ columns, ∀ row, (change row).get column = row.get column) :
    (db.alter name altered).view other columns = db.view other columns := by
  by_cases same : other = name
  · have each : ∀ row, columns.map (change row).get = columns.map row.get :=
      fun row => List.map_congr_left fun column there => kept column there row
    rw [same, Db.view, Db.view, rows_alter_self, Db.rows]
    cases db.tables name with
    | none => rfl
    | some table =>
      simp only [Option.elim_some, rows, List.map_map]
      exact List.map_congr_left fun row _ => each row
  · exact view_alter_of_ne db altered columns same

theorem insert_nil : db.insert name [] = db := by
  have same : (db.tables name).map (fun table : Table => { table with rows := table.rows ++ [] }) =
      db.tables name := by
    cases db.tables name <;> simp
  rw [Db.insert, Db.alter, same, Function.update_eq_self]

theorem alter_id {change : Table → Table}
    (same : ∀ table, db.tables name = some table → change table = table) :
    db.alter name change = db := by
  have kept : (db.tables name).map change = db.tables name := by
    cases there : db.tables name with
    | none => rfl
    | some table => rw [Option.map_some, same table there]
  rw [Db.alter, kept, Function.update_eq_self]

end Db

/-- What a step of the migrations leaves behind, and what a later one may rely on. -/
inductive Fact
  | table (name : TableName)
  | column (name : TableName) (column : ColumnName)
  | noColumn (name : TableName) (column : ColumnName)
  | keyed (name : TableName) (column : ColumnName)
  | unreferenced (name : TableName) (column : ColumnName)
  | index (index : IndexName)
  | defaultGroup
  | defaultMarked
  | providersGrouped
  | keysGrouped
  | aliased
  | controlled
  | versioned
  deriving DecidableEq

def aliasId (name : Value) (db : Db) : Option Value := (findAlias name db).map fun row => row.get .id

def AliasMade (db : Db) (name provider model : Value) : Prop :=
  ∃ id, aliasId name db = some id ∧
    [id, provider, model] ∈ db.view .modelAliasTargets [.aliasId, .providerId, .upstreamModel]

def Fact.Holds (db : Db) : Fact → Prop
  | table name => (db.tables name).isSome = true
  | column name held => db.columnExists name held = true
  | noColumn name held => db.columnExists name held = false
  | keyed name held => ∀ shape, db.shape name = some shape → held ∈ shape.primaryKey
  | unreferenced name held => ∀ shape, db.shape name = some shape →
    (held, TableName.upstreamProviders) ∉ shape.references
  | index made => db.indexes made = true
  | defaultGroup => [.text "default"] ∈ db.view .providerGroups [.normalizedName]
  | defaultMarked => ∀ marked, [.text "default", marked] ∈
      db.view .providerGroups [.normalizedName, .isDefault] → marked = .flag true
  | providersGrouped => ∀ id, [id] ∈ db.view .upstreamProviders [.id] →
    [id] ∈ db.view .providerGroupProviders [.providerId]
  | keysGrouped => ∀ id, [id] ∈ db.view .apiKeys [.id] →
    [id] ∈ db.view .providerGroupApiKeys [.apiKeyId]
  | aliased => ∀ name provider model,
    [name, provider, model] ∈ db.view .providerModels [.aliasName, .providerId, .upstreamModel] →
      name ≠ .null → name ≠ .text "" → AliasMade db name provider model
  | controlled => [.integer 1] ∈ db.view .priceSyncControl [.id]
  | versioned => [.integer 1] ∈ db.view .upstreamMigrations [.version]

def Fact.reads : Fact → List (TableName × ColumnName)
  | defaultGroup => [(.providerGroups, .normalizedName)]
  | defaultMarked => [(.providerGroups, .normalizedName), (.providerGroups, .isDefault)]
  | providersGrouped => [(.upstreamProviders, .id), (.providerGroupProviders, .providerId)]
  | keysGrouped => [(.apiKeys, .id), (.providerGroupApiKeys, .apiKeyId)]
  | aliased =>
    [(.providerModels, .aliasName), (.providerModels, .providerId), (.providerModels, .upstreamModel),
      (.modelAliases, .name), (.modelAliases, .id), (.modelAliasTargets, .aliasId),
      (.modelAliasTargets, .providerId), (.modelAliasTargets, .upstreamModel)]
  | controlled => [(.priceSyncControl, .id)]
  | versioned => [(.upstreamMigrations, .version)]
  | table _ | column _ _ | noColumn _ _ | keyed _ _ | unreferenced _ _ | index _ => []

def Step.touches : Step → TableName → ColumnName → Bool
  | createTable _, _, _ | createIndex _, _, _ | dropReference _ _, _, _ => false
  | statsHourlyPrimaryKey, _, _ => false
  | addColumn name column _, other, read | dropColumn name column, other, read =>
    other = name && read = column
  | rebuild anew, other, _ => other = anew.table
  | insertDefaultGroup, other, _ | upsertDefaultGroup, other, _ => other = .providerGroups
  | markDefaultGroup, other, read => other = .providerGroups && read = .isDefault
  | groupProviders, other, _ => other = .providerGroupProviders
  | groupApiKeys, other, _ => other = .providerGroupApiKeys
  | providerModelAliases, other, _ => other = .modelAliases || other = .modelAliasTargets
  | modelPricesActive, other, read => other = .modelPrices && read = .active
  | priceSyncControl, other, _ => other = .priceSyncControl
  | upstreamConfig, other, read =>
    other = .apiKeyAuthorization || other = .apiKeyAllowedProviders || other = .modelRoutePolicies ||
      other = .upstreamMigrations || (other = .modelAliasTargets && read = .weight)

def Step.reshapes (property : Shape → Bool) : Step → TableName → Bool
  | createTable made, name => name = made && !property (currentShape made)
  | rebuild anew, name => name = anew.table && !property anew.shape
  | upstreamConfig, name => decide (name ∈ upstreamTables) && !property (currentShape name)
  | _, _ => false

def Step.breaks (step : Step) : Fact → Bool
  | .table _ => false
  | .column name column =>
    match step with
    | dropColumn dropped other => name = dropped && column = other
    | rebuild anew => name = anew.table && decide (column ∉ anew.shape.columns)
    | _ => false
  | .noColumn name column =>
    step.reshapes (fun shape => column ∉ shape.columns) name ||
      match step with
      | addColumn extended other _ => name = extended && column = other
      | modelPricesActive => name = .modelPrices && column = .active
      | _ => false
  | .keyed name column =>
    step.reshapes (fun shape => column ∈ shape.primaryKey) name ||
      match step with
      | statsHourlyPrimaryKey => decide (name = .statsHourly)
      | _ => false
  | .unreferenced name column =>
    step.reshapes (fun shape => (column, TableName.upstreamProviders) ∉ shape.references) name
  | .index index =>
    match step with
    | rebuild anew => index.table = anew.table && decide (index ∉ anew.indexes)
    | _ => false
  | fact => fact.reads.any fun read => step.touches read.1 read.2

def contract : Contract Step Fact where
  needs
    | .addColumn name _ _ => [.table name]
    | .rebuild anew => [.table anew.table]
    | .insertDefaultGroup | .upsertDefaultGroup => [.table .providerGroups]
    | .groupProviders => [.defaultGroup, .table .providerGroupProviders]
    | .groupApiKeys => [.defaultGroup, .table .providerGroupApiKeys]
    | .providerModelAliases => [.table .modelAliases, .table .modelAliasTargets]
    | .modelPricesActive => [.table .modelPrices]
    | .priceSyncControl => [.table .priceSyncControl]
    | _ => []
  facts
    | .createTable name => [.table name]
    | .createIndex index => [.index index]
    | .addColumn name column _ => [.column name column]
    | .dropColumn name column => [.noColumn name column]
    | .dropReference name column => [.unreferenced name column]
    | .rebuild anew =>
      anew.obsolete.map (.noColumn anew.table) ++ anew.required.map (.column anew.table) ++
        anew.keyed.map (.keyed anew.table) ++ anew.unreferenced.map (.unreferenced anew.table)
    | .statsHourlyPrimaryKey =>
      [.keyed .statsHourly .priceVersionId, .keyed .statsHourly .priceTierIndex]
    | .insertDefaultGroup => [.defaultGroup]
    | .markDefaultGroup => [.defaultMarked]
    | .upsertDefaultGroup => [.defaultGroup, .defaultMarked]
    | .groupProviders => [.providersGrouped]
    | .groupApiKeys => [.keysGrouped]
    | .providerModelAliases => [.aliased]
    | .modelPricesActive => [.column .modelPrices .active]
    | .priceSyncControl => [.controlled]
    | .upstreamConfig => upstreamTables.map .table ++ [.versioned]
  breaks := Step.breaks

set_option maxRecDepth 100000 in
theorem sqlite_checked :
    contract.check [] (sqliteBeforeLogs ++ sqliteAfterLogs ++ priceSync ++ [.upstreamConfig]) = true := by
  decide +kernel

set_option maxRecDepth 100000 in
theorem postgres_checked : contract.check [] (migrate .postgres) = true := by
  decide +kernel

end CodexGate.Migration
