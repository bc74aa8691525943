import CodexGate.Migration.Statements

namespace CodexGate.Migration

open Foundation

theorem mem_view {db : Db} {name : TableName} {columns : List ColumnName} {values : List Value} :
    values ∈ db.view name columns ↔ ∃ row ∈ db.rows name, columns.map row.get = values :=
  List.mem_map

section Runs

variable (env : MigrationEnv) (db : Db)

theorem run_addColumn (name : TableName) (column : ColumnName) (fill : Value) :
    (blocks env (.addColumn name column fill)).run db =
      if db.columnExists name column then db else addColumn name column fill db :=
  run_unless (fun db : Db => db.columnExists name column) [addColumn name column fill] db

theorem run_dropColumn (name : TableName) (column : ColumnName) :
    (blocks env (.dropColumn name column)).run db =
      if db.columnExists name column then dropColumn name column db else db :=
  run_when (fun db : Db => db.columnExists name column) [dropColumn name column] db

theorem run_rebuild (anew : Rebuild) :
    (blocks env (.rebuild anew)).run db =
      if (db.shape anew.table).any anew.stale then anew.apply db else db :=
  run_when (fun db : Db => (db.shape anew.table).any anew.stale) [anew.apply] db

theorem run_modelPricesActive :
    (blocks env .modelPricesActive).run db =
      if db.columnExists .modelPrices .active then db
      else activateLatest (addColumn .modelPrices .active (.flag false) db) :=
  run_unless (fun db : Db => db.columnExists .modelPrices .active)
    [addColumn .modelPrices .active (.flag false), activateLatest] db

end Runs

section Shapes

variable {db : Db} {name : TableName} {column : ColumnName}

theorem shape_isSome : (db.shape name).isSome = (db.tables name).isSome := by
  rw [Db.shape, Option.isSome_map]

theorem createTable_there : ((createTable name db).tables name).isSome = true := by
  unfold createTable
  split
  · assumption
  · simp

theorem columnExists_addColumn (fill : Value) (table : (db.tables name).isSome = true) :
    (addColumn name column fill db).columnExists name column = true := by
  obtain ⟨held, there⟩ := Option.isSome_iff_exists.mp table
  simp [Db.columnExists, addColumn, shape_alter_self, there]

theorem columnExists_dropColumn : (dropColumn name column db).columnExists name column = false := by
  rw [Db.columnExists, dropColumn, shape_alter_self]
  cases db.tables name <;> simp

theorem unreferenced_dropReference :
    (Fact.unreferenced name column).Holds (dropReference name column db) := by
  intro shape reached
  rw [dropReference, shape_alter_self, Option.map_eq_some_iff] at reached
  obtain ⟨table, -, rfl⟩ := reached
  simp

theorem stale_eq_false_iff {anew : Rebuild} {shape : Shape} :
    anew.stale shape = false ↔
      (∀ column ∈ anew.obsolete, column ∉ shape.columns) ∧
      (∀ column ∈ anew.required, column ∈ shape.columns) ∧
      (∀ column ∈ anew.keyed, column ∈ shape.primaryKey) ∧
      ∀ column ∈ anew.unreferenced, (column, TableName.upstreamProviders) ∉ shape.references := by
  simp only [Rebuild.stale, Bool.or_eq_false_iff, List.any_eq_false, decide_eq_true_eq, not_not,
    and_assoc]

theorem shape_rebuilt (env : MigrationEnv) (anew : Rebuild) {shape : Shape}
    (reached : ((blocks env (.rebuild anew)).run db).shape anew.table = some shape) :
    anew.stale shape = false := by
  rw [run_rebuild] at reached
  split at reached
  · have moved : (anew.apply db).shape anew.table = (db.tables anew.table).map fun _ => anew.shape :=
      shape_alter_self db _
    rw [moved, Option.map_eq_some_iff] at reached
    obtain ⟨table, -, rfl⟩ := reached
    exact stale_eq_false_iff.mpr anew.fresh
  · rename_i current
    rw [reached, Option.any_some] at current
    exact eq_false_of_ne_true current

end Shapes

theorem run_view (env : MigrationEnv) {step : Step} (db : Db) {name : TableName}
    {columns : List ColumnName} (some_read : columns ≠ [])
    (apart : ∀ read ∈ columns, step.touches name read = false) :
    ((blocks env step).run db).view name columns = db.view name columns :=
  execute_keeps (p := fun state : Db => state.view name columns = db.view name columns)
    (fun _ member state same => (statement_view member state some_read apart).trans same) rfl

theorem view_insert {db : Db} {name : TableName} (added : List Row) (columns : List ColumnName)
    (table : (db.tables name).isSome = true) :
    (db.insert name added).view name columns =
      db.view name columns ++ added.map fun row => columns.map row.get := by
  obtain ⟨held, there⟩ := Option.isSome_iff_exists.mp table
  rw [Db.view, rows_insert db added there, List.map_append, Db.view]

section Groups

variable {db : Db}

theorem mem_defaultGroups {row : Row} :
    row ∈ defaultGroups db ↔
      row ∈ db.rows .providerGroups ∧ row.get .normalizedName = .text "default" := by
  simp [defaultGroups]

theorem defaultGroup_iff : Fact.defaultGroup.Holds db ↔ defaultGroups db ≠ [] := by
  rw [Fact.Holds, mem_view]
  constructor
  · rintro ⟨row, there, named⟩
    have member := mem_defaultGroups.mpr ⟨there, by simpa using named⟩
    exact List.ne_nil_of_mem member
  · intro some_group
    obtain ⟨row, there⟩ := List.exists_mem_of_ne_nil _ some_group
    obtain ⟨member, named⟩ := mem_defaultGroups.mp there
    exact ⟨row, member, by simp [named]⟩

theorem insertDefaultGroup_gives (table : (db.tables .providerGroups).isSome = true) :
    Fact.defaultGroup.Holds (insertDefaultGroup db) := by
  unfold insertDefaultGroup
  split
  · rw [Fact.Holds]
    dsimp only
    rw [view_sequences, view_insert _ _ table]
    exact List.mem_append_right _ (List.mem_singleton.mpr rfl)
  · rename_i found
    exact defaultGroup_iff.mpr found

theorem markDefaultGroup_gives : Fact.defaultMarked.Holds (markDefaultGroup db) := by
  intro marked there
  obtain ⟨row, member, values⟩ := mem_view.mp there
  rw [markDefaultGroup, rows_mapRows, List.mem_map] at member
  obtain ⟨before, -, rfl⟩ := member
  split at values
  · have isDefault : (before.put .isDefault (.flag true)).get .isDefault = marked := by
      simpa using (List.cons.inj (List.cons.inj values).2).1
    rw [← isDefault, Row.get_put_self]
  · rename_i named
    exact absurd (List.cons.inj values).1 named

theorem markDefaultGroup_keeps (there : Fact.defaultGroup.Holds db) :
    Fact.defaultGroup.Holds (markDefaultGroup db) := by
  rw [Fact.Holds, view_markDefaultGroup db (by simp)]
  exact there

theorem insertDefaultGroup_marks (missing : defaultGroups db = []) :
    Fact.defaultMarked.Holds (insertDefaultGroup db) := by
  intro marked there
  rw [insertDefaultGroup, if_pos missing] at there
  dsimp only at there
  rw [view_sequences] at there
  cases table : db.tables .providerGroups with
  | none => simp [Db.view, Db.rows, Db.insert, Db.alter, table] at there
  | some held =>
    rw [view_insert _ _ (by rw [table]; rfl), List.mem_append] at there
    rcases there with before | new
    · obtain ⟨row, member, values⟩ := mem_view.mp before
      have named : row.get .normalizedName = .text "default" := (List.cons.inj values).1
      have found := mem_defaultGroups.mpr ⟨member, named⟩
      rw [missing] at found
      cases found
    · have last := (List.cons.inj (List.mem_singleton.mp new)).2
      exact (List.cons.inj last).1

theorem upsertDefaultGroup_gives (table : (db.tables .providerGroups).isSome = true) :
    Fact.defaultGroup.Holds (upsertDefaultGroup db) ∧
      Fact.defaultMarked.Holds (upsertDefaultGroup db) := by
  unfold upsertDefaultGroup
  split
  · rename_i missing
    exact ⟨insertDefaultGroup_gives table, insertDefaultGroup_marks missing⟩
  · rename_i found
    exact ⟨markDefaultGroup_keeps (defaultGroup_iff.mpr found), markDefaultGroup_gives⟩

theorem mem_view_grouped {owners members : TableName} {column : ColumnName} {id : Value}
    (there : [id] ∈ db.view owners [.id]) :
    [id] ∈ db.view members [column] ∨ ∃ owner ∈ ungrouped owners members column db,
      owner.get .id = id := by
  by_cases grouped : [id] ∈ db.view members [column]
  · exact .inl grouped
  · obtain ⟨owner, member, values⟩ := mem_view.mp there
    have named : owner.get .id = id := (List.cons.inj values).1
    refine .inr ⟨owner, ?_, named⟩
    simp only [ungrouped, List.mem_filter, decide_eq_true_eq]
    rw [named]
    exact ⟨member, grouped⟩

theorem grouping_gives {owners members : TableName} {column : ColumnName} {made : Row → Row → Row}
    (group : Fact.defaultGroup.Holds db) (table : (db.tables members).isSome = true)
    (apart : owners ≠ members) (fills : ∀ group owner, (made group owner).get column = owner.get .id)
    (id : Value) :
    let grouped := db.insert members <| (defaultGroups db).flatMap fun group =>
      (ungrouped owners members column db).map (made group)
    [id] ∈ grouped.view owners [.id] → [id] ∈ grouped.view members [column] := by
  intro grouped there
  rw [view_insert _ _ table, List.mem_append]
  have before : [id] ∈ db.view owners [.id] := by
    rw [← view_alter_of_ne db _ _ apart]
    exact there
  rcases mem_view_grouped before with old | ⟨owner, alone, rfl⟩
  · exact .inl old
  · obtain ⟨group, found⟩ := List.exists_mem_of_ne_nil _ (defaultGroup_iff.mp group)
    refine .inr (List.mem_map.mpr ⟨made group owner, ?_, ?_⟩)
    · exact List.mem_flatMap.mpr ⟨group, found, List.mem_map_of_mem alone⟩
    · rw [List.map_singleton, fills]

theorem insertPriceSyncControl_gives (table : (db.tables .priceSyncControl).isSome = true) :
    Fact.controlled.Holds (insertPriceSyncControl db) := by
  unfold insertPriceSyncControl
  split
  · assumption
  · rw [Fact.Holds, view_insert _ _ table]
    exact List.mem_append_right _ (List.mem_singleton.mpr rfl)

theorem createTables_there {made : List TableName} {name : TableName} (member : name ∈ made) :
    ((made.foldl (fun reached name => createTable name reached) db).tables name).isSome = true := by
  rw [← shape_isSome, shape_createTables]
  split
  · rfl
  · rename_i held
    exact Option.isSome_iff_ne_none.mpr fun missing => held ⟨member, missing⟩

theorem migrateUpstreamConfig_there (env : MigrationEnv) {name : TableName}
    (member : name ∈ upstreamTables) :
    ((migrateUpstreamConfig env db).tables name).isSome = true := by
  rw [← shape_isSome, shape_migrateUpstreamConfig, shape_isSome]
  exact createTables_there member

theorem migrateUpstreamConfig_gives (env : MigrationEnv) :
    Fact.versioned.Holds (migrateUpstreamConfig env db) := by
  unfold migrateUpstreamConfig
  dsimp only
  split
  · assumption
  · have shape : ((freezeWeights (insertPolicies env (insertAllowed (insertAuthorizations
        (upstreamTables.foldl (fun reached name => createTable name reached) db))))).tables
          .upstreamMigrations).isSome = true := by
      rw [← shape_isSome, freezeWeights, shape_mapRows, insertPolicies, shape_insert, insertAllowed,
        shape_insert, insertAuthorizations, shape_insert, shape_isSome]
      exact createTables_there (by decide)
    rw [Fact.Holds, view_insert _ _ shape]
    exact List.mem_append_right _ (List.mem_singleton.mpr rfl)

end Groups

section Aliases

variable {db : Db} (gaps : Bool) (model : Row)

theorem findAlias_isSome {name : Value} : (findAlias name db).isSome = (aliasId name db).isSome := by
  rw [aliasId, Option.isSome_map]

theorem findAlias_insertAlias {name : Value} {found : Row} (there : findAlias name db = some found) :
    findAlias name (insertAlias gaps model db) = some found := by
  unfold insertAlias
  split
  · split
    · exact there
    · exact there
  · cases table : db.tables .modelAliases with
    | none => simp [findAlias, Db.rows, table] at there
    | some held =>
      change ((db.insert .modelAliases _).rows .modelAliases).find? _ = some found
      rw [rows_insert db _ table, List.find?_append]
      rw [findAlias] at there
      rw [there, Option.some_or]

theorem insertAlias_found (table : (db.tables .modelAliases).isSome = true) :
    (findAlias (model.get .aliasName) (insertAlias gaps model db)).isSome = true := by
  cases found : findAlias (model.get .aliasName) db with
  | some row => rw [findAlias_insertAlias gaps model found, Option.isSome_some]
  | none =>
    obtain ⟨held, there⟩ := Option.isSome_iff_exists.mp table
    simp only [insertAlias, found]
    change (((db.insert .modelAliases _).rows .modelAliases).find? _).isSome = true
    rw [rows_insert db _ there, List.find?_append, Option.isSome_or, Bool.or_eq_true]
    right
    exact List.find?_isSome.mpr ⟨_, List.mem_singleton_self _, decide_eq_true rfl⟩

theorem AliasMade.insertAlias {name provider upstream : Value}
    (made : AliasMade db name provider upstream) :
    AliasMade (insertAlias gaps model db) name provider upstream := by
  obtain ⟨id, found, target⟩ := made
  obtain ⟨row, there, rfl⟩ := Option.map_eq_some_iff.mp found
  refine ⟨row.get .id, ?_, ?_⟩
  · rw [aliasId, findAlias_insertAlias gaps model there, Option.map_some]
  · rw [view_insertAlias db gaps model (by decide)]
    exact target

theorem aliasId_insertTarget (name : Value) :
    aliasId name (insertTarget model db) = aliasId name db :=
  aliasId_of_view name (view_insertTarget db model (by decide))

theorem mem_view_insertTarget {target : List Value} {columns : List ColumnName}
    (there : target ∈ db.view .modelAliasTargets columns) :
    target ∈ (insertTarget model db).view .modelAliasTargets columns := by
  unfold insertTarget
  split
  · exact there
  · dsimp only
    split
    · exact there
    · obtain ⟨row, member, -⟩ := mem_view.mp there
      cases table : db.tables .modelAliasTargets with
      | none => simp [Db.rows, table] at member
      | some held =>
        rw [view_sequences, view_insert _ _ (by rw [table]; rfl)]
        exact List.mem_append_left _ there

theorem AliasMade.insertTarget {name provider upstream : Value}
    (made : AliasMade db name provider upstream) :
    AliasMade (insertTarget model db) name provider upstream := by
  obtain ⟨id, found, target⟩ := made
  refine ⟨id, ?_, mem_view_insertTarget model target⟩
  rw [aliasId_insertTarget]
  exact found

theorem insertTarget_made (table : (db.tables .modelAliasTargets).isSome = true)
    (found : (findAlias (model.get .aliasName) db).isSome = true) :
    AliasMade (insertTarget model db) (model.get .aliasName) (model.get .providerId)
      (model.get .upstreamModel) := by
  obtain ⟨row, there⟩ := Option.isSome_iff_exists.mp found
  refine ⟨row.get .id, ?_, ?_⟩
  · rw [aliasId_insertTarget, aliasId, there, Option.map_some]
  · simp only [Migration.insertTarget, there]
    split
    · assumption
    · rw [view_sequences, view_insert _ _ table]
      exact List.mem_append_right _ (List.mem_singleton.mpr rfl)

theorem tables_insertAlias (name : TableName) :
    ((insertAlias gaps model db).tables name).isSome = (db.tables name).isSome := by
  rw [← shape_isSome, shape_insertAlias, shape_isSome]

theorem tables_insertTarget (name : TableName) :
    ((insertTarget model db).tables name).isSome = (db.tables name).isSome := by
  rw [← shape_isSome, shape_insertTarget, shape_isSome]

theorem aliases_made (models : List Row) (aliases : (db.tables .modelAliases).isSome = true)
    (targets : (db.tables .modelAliasTargets).isSome = true) :
    let after := execute (models.flatMap fun model => [insertAlias gaps model, insertTarget model]) db
    (∀ name provider upstream, AliasMade db name provider upstream →
        AliasMade after name provider upstream) ∧
      ∀ model ∈ models,
        AliasMade after (model.get .aliasName) (model.get .providerId) (model.get .upstreamModel) := by
  induction models generalizing db with
  | nil => exact ⟨fun _ _ _ made => made, fun _ there => absurd there List.not_mem_nil⟩
  | cons model rest ih =>
    intro after
    have aliases' : ((insertTarget model (insertAlias gaps model db)).tables .modelAliases).isSome =
        true :=
      (tables_insertTarget model .modelAliases).trans
        ((tables_insertAlias gaps model .modelAliases).trans aliases)
    have targets' := (tables_insertAlias gaps model .modelAliasTargets).trans targets
    have rest_made := ih aliases' ((tables_insertTarget model .modelAliasTargets).trans targets')
    have here := insertTarget_made model targets' (insertAlias_found gaps model aliases)
    constructor
    · intro name provider upstream made
      exact rest_made.1 _ _ _ ((made.insertAlias gaps model).insertTarget model)
    · intro other there
      rcases List.mem_cons.mp there with rfl | later
      · exact rest_made.1 _ _ _ here
      · exact rest_made.2 other later

end Aliases

theorem migrateProviderModelAliases_gives (env : MigrationEnv) {db : Db}
    (aliases : (db.tables .modelAliases).isSome = true)
    (targets : (db.tables .modelAliasTargets).isSome = true) :
    Fact.aliased.Holds ((blocks env .providerModelAliases).run db) := by
  intro name provider upstream there filled named
  rw [run_view env db (List.cons_ne_nil _ _) (by simp [Step.touches])] at there
  obtain ⟨row, member, values⟩ := mem_view.mp there
  obtain ⟨rfl, rest⟩ := List.cons.inj values
  obtain ⟨rfl, last⟩ := List.cons.inj rest
  obtain ⟨rfl, -⟩ := List.cons.inj last
  apply (aliases_made env.gaps _ aliases targets).2 row
  simp [member, aliased, filled, named]

theorem run_table (env : MigrationEnv) (step : Step) {db : Db} {name : TableName}
    (there : (Fact.table name).Holds db) : (Fact.table name).Holds ((blocks env step).run db) :=
  execute_keeps (p := fun state : Db => (Fact.table name).Holds state)
    (fun _ member _ before => statement_keeps member rfl before) there

theorem rebuild_gives (env : MigrationEnv) (anew : Rebuild) {db : Db}
    (table : (Fact.table anew.table).Holds db) :
    ∀ fact ∈ contract.facts (.rebuild anew), fact.Holds ((blocks env (.rebuild anew)).run db) := by
  have held := run_table env (.rebuild anew) table
  rw [Fact.Holds, ← shape_isSome] at held
  obtain ⟨shape, reached⟩ := Option.isSome_iff_exists.mp held
  obtain ⟨obsolete, required, keyed, unreferenced⟩ := stale_eq_false_iff.mp (shape_rebuilt env anew reached)
  have exists_iff : ∀ column, ((blocks env (.rebuild anew)).run db).columnExists anew.table column =
      decide (column ∈ shape.columns) := by
    intro column
    rw [Db.columnExists, reached, Option.any_some]
  intro fact there
  simp only [contract, List.mem_append, List.mem_map] at there
  rcases there with ((⟨column, member, rfl⟩ | ⟨column, member, rfl⟩) | ⟨column, member, rfl⟩) |
    ⟨column, member, rfl⟩
  · exact (exists_iff column).trans (decide_eq_false (obsolete column member))
  · exact (exists_iff column).trans (decide_eq_true (required column member))
  · rintro other same
    obtain rfl := Option.some.inj (reached.symm.trans same)
    exact keyed column member
  · rintro other same
    obtain rfl := Option.some.inj (reached.symm.trans same)
    exact unreferenced column member

theorem run_swapStatsHourlyKey (db : Db) :
    swapStatsHourlyKey.run db =
      if (db.shape .statsHourly).any fun shape =>
          .priceVersionId ∉ shape.primaryKey ∨ .priceTierIndex ∉ shape.primaryKey then
        setPrimaryKey .statsHourly (currentShape .statsHourly).primaryKey
          (setPrimaryKey .statsHourly [] db)
      else db := by
  rw [Block.run, swapStatsHourlyKey]
  split <;> rfl

theorem swapStatsHourlyKey_gives (db : Db) {column : ColumnName}
    (member : column ∈ [ColumnName.priceVersionId, .priceTierIndex]) :
    (Fact.keyed .statsHourly column).Holds (swapStatsHourlyKey.run db) := by
  intro shape reached
  rw [run_swapStatsHourlyKey] at reached
  split at reached
  · rw [setPrimaryKey, shape_alter_self, Option.map_eq_some_iff] at reached
    obtain ⟨table, -, rfl⟩ := reached
    have inside : ∀ column ∈ [ColumnName.priceVersionId, .priceTierIndex],
        column ∈ (currentShape .statsHourly).primaryKey := by decide
    exact inside column member
  · rename_i current
    rw [reached, Option.any_some] at current
    simp only [decide_eq_true_eq, not_or, not_not] at current
    rcases List.mem_cons.mp member with rfl | last
    · exact current.1
    · rw [List.mem_singleton.mp last]
      exact current.2

theorem step_gives (env : MigrationEnv) (step : Step) (db : Db)
    (needed : ∀ fact ∈ contract.needs step, fact.Holds db) :
    ∀ fact ∈ contract.facts step, fact.Holds ((blocks env step).run db) := by
  cases step with
  | createTable name =>
    rintro _ (_ | ⟨_, ⟨⟩⟩)
    exact createTable_there
  | createIndex index =>
    rintro _ (_ | ⟨_, ⟨⟩⟩)
    exact Function.update_self index true db.indexes
  | addColumn name column fill =>
    rintro _ (_ | ⟨_, ⟨⟩⟩)
    rw [run_addColumn]
    split
    · assumption
    · exact columnExists_addColumn fill (needed (.table name) List.mem_cons_self)
  | dropColumn name column =>
    rintro _ (_ | ⟨_, ⟨⟩⟩)
    rw [run_dropColumn]
    split
    · exact columnExists_dropColumn
    · rename_i missing
      exact eq_false_of_ne_true missing
  | dropReference name column =>
    rintro _ (_ | ⟨_, ⟨⟩⟩)
    exact unreferenced_dropReference
  | rebuild anew => exact rebuild_gives env anew (needed (.table anew.table) List.mem_cons_self)
  | statsHourlyPrimaryKey =>
    intro fact there
    rcases List.mem_cons.mp there with rfl | last
    · exact swapStatsHourlyKey_gives db (by decide)
    · rw [List.mem_singleton.mp last]
      exact swapStatsHourlyKey_gives db (by decide)
  | insertDefaultGroup =>
    rintro _ (_ | ⟨_, ⟨⟩⟩)
    exact insertDefaultGroup_gives (needed (.table .providerGroups) List.mem_cons_self)
  | markDefaultGroup =>
    rintro _ (_ | ⟨_, ⟨⟩⟩)
    exact markDefaultGroup_gives
  | upsertDefaultGroup =>
    have both := upsertDefaultGroup_gives (needed (.table .providerGroups) List.mem_cons_self)
    rintro _ (_ | ⟨_, _ | ⟨_, ⟨⟩⟩⟩)
    · exact both.1
    · exact both.2
  | groupProviders =>
    rintro _ (_ | ⟨_, ⟨⟩⟩)
    exact grouping_gives (needed .defaultGroup (by simp [contract]))
      (needed (.table .providerGroupProviders) (by simp [contract])) (by decide) (fun _ _ => rfl)
  | groupApiKeys =>
    rintro _ (_ | ⟨_, ⟨⟩⟩)
    exact grouping_gives (needed .defaultGroup (by simp [contract]))
      (needed (.table .providerGroupApiKeys) (by simp [contract])) (by decide) (fun _ _ => rfl)
  | providerModelAliases =>
    rintro _ (_ | ⟨_, ⟨⟩⟩)
    exact migrateProviderModelAliases_gives env (needed (.table .modelAliases) (by simp [contract]))
      (needed (.table .modelAliasTargets) (by simp [contract]))
  | modelPricesActive =>
    rintro _ (_ | ⟨_, ⟨⟩⟩)
    rw [run_modelPricesActive]
    split
    · assumption
    · have added : (addColumn .modelPrices .active (.flag false) db).columnExists .modelPrices .active =
          true :=
        columnExists_addColumn (.flag false) (needed (.table .modelPrices) List.mem_cons_self)
      rw [Fact.Holds, Db.columnExists, activateLatest, shape_mapRows]
      exact added
  | priceSyncControl =>
    rintro _ (_ | ⟨_, ⟨⟩⟩)
    exact insertPriceSyncControl_gives (needed (.table .priceSyncControl) List.mem_cons_self)
  | upstreamConfig =>
    intro fact there
    rcases List.mem_append.mp there with table | version
    · obtain ⟨name, member, rfl⟩ := List.mem_map.mp table
      exact migrateUpstreamConfig_there env member
    · rw [List.mem_singleton.mp version]
      exact migrateUpstreamConfig_gives env

theorem contract_sound (env : MigrationEnv) :
    contract.Sound (blocks env) fun fact db => fact.Holds db where
  gives := step_gives env
  keeps _ fact _ _ kept held :=
    execute_keeps (p := fun state : Db => fact.Holds state)
      (fun _ member _ before => statement_keeps (List.mem_of_mem_take member) kept before) held

end CodexGate.Migration
