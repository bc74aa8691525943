import CodexGate.Migration.Guarantees

namespace CodexGate.Migration

open Foundation

def Alike (db other : Db) : Prop := db.tables = other.tables ∧ db.indexes = other.indexes

namespace Alike

variable {db other last : Db}

theorem refl (db : Db) : Alike db db := ⟨rfl, rfl⟩

theorem trans (first : Alike db other) (second : Alike other last) : Alike db last :=
  ⟨first.1.trans second.1, first.2.trans second.2⟩

theorem view (alike : Alike db other) (name : TableName) (columns : List ColumnName) :
    db.view name columns = other.view name columns := by
  rw [Db.view, Db.rows, alike.1]
  rfl

theorem holds (alike : Alike db other) (fact : Fact) : fact.Holds db ↔ fact.Holds other := by
  obtain ⟨tables, indexes, sequences⟩ := db
  obtain ⟨tables', indexes', sequences'⟩ := other
  obtain ⟨rfl, rfl⟩ := alike
  cases fact <;> exact Iff.rfl

end Alike

/-- Databases that differ at most in the ids that these tables have given out. -/
structure AlikeBut (names : List TableName) (db other : Db) : Prop where
  tables : db.tables = other.tables
  indexes : db.indexes = other.indexes
  sequences : ∀ name, name ∉ names → db.sequences name = other.sequences name

namespace AlikeBut

variable {names more : List TableName} {db other last : Db}

theorem refl (names : List TableName) (db : Db) : AlikeBut names db db := ⟨rfl, rfl, fun _ _ => rfl⟩

theorem trans (first : AlikeBut names db other) (second : AlikeBut names other last) :
    AlikeBut names db last :=
  ⟨first.tables.trans second.tables, first.indexes.trans second.indexes,
    fun name apart => (first.sequences name apart).trans (second.sequences name apart)⟩

theorem of_eq (same : db = other) : AlikeBut names db other := by
  rw [same]
  exact refl names other

theorem alike (alike : AlikeBut names db other) : Alike db other := ⟨alike.tables, alike.indexes⟩

theorem of_bumped {name : TableName} (there : name ∈ names) (id : Int) (db : Db) :
    AlikeBut names { db with sequences := Function.update db.sequences name id } db := by
  refine ⟨rfl, rfl, fun other apart => ?_⟩
  have elsewhere : other ≠ name := by
    rintro rfl
    exact apart there
  exact Function.update_of_ne elsewhere id db.sequences

end AlikeBut

section Settled

variable {db : Db} {name : TableName}

theorem mapRows_id {change : Row → Row} (same : ∀ row ∈ db.rows name, change row = row) :
    db.mapRows name change = db := by
  apply alter_id
  intro table there
  have rows : db.rows name = table.rows := by
    rw [Db.rows, there]
    rfl
  rw [rows] at same
  rw [List.map_congr_left same, List.map_id']

theorem createTable_settled (there : (db.tables name).isSome = true) : createTable name db = db := by
  rw [createTable, if_pos there]

theorem createTables_settled {made : List TableName}
    (there : ∀ name ∈ made, (db.tables name).isSome = true) :
    made.foldl (fun reached name => createTable name reached) db = db := by
  induction made with
  | nil => rfl
  | cons first rest ih =>
    rw [List.foldl_cons, createTable_settled (there first List.mem_cons_self)]
    exact ih fun later member => there later (List.mem_cons_of_mem first member)

theorem createIndex_settled {index : IndexName} (made : db.indexes index = true) :
    createIndex index db = db := by
  have same : Function.update db.indexes index true = db.indexes := by
    rw [← made, Function.update_eq_self]
  rw [createIndex, same]

theorem dropReference_settled {column : ColumnName}
    (unreferenced : (Fact.unreferenced name column).Holds db) : dropReference name column db = db := by
  apply alter_id
  intro table there
  have free := unreferenced table.toShape (by rw [Db.shape, there, Option.map_some])
  have kept : (table.references.filter fun reference =>
      reference ≠ (column, TableName.upstreamProviders)) = table.references := by
    rw [List.filter_eq_self]
    rintro reference member
    refine decide_eq_true fun same => free ?_
    rw [← same]
    exact member
  rw [kept]

theorem markDefaultGroup_settled (marked : Fact.defaultMarked.Holds db) : markDefaultGroup db = db := by
  apply mapRows_id
  intro row member
  split
  · rename_i named
    apply Row.put_get
    exact marked _ (mem_view.mpr ⟨row, member, by simp [named]⟩)
  · rfl

theorem ungrouped_eq_nil {owners members : TableName} {column : ColumnName}
    (grouped : ∀ id, [id] ∈ db.view owners [.id] → [id] ∈ db.view members [column]) :
    ungrouped owners members column db = [] := by
  rw [ungrouped, List.filter_eq_nil_iff]
  intro row member
  have there := grouped (row.get .id) (mem_view.mpr ⟨row, member, rfl⟩)
  simp [there]

theorem grouping_settled {owners members : TableName} {column : ColumnName} (made : Row → Row → Row)
    (grouped : ∀ id, [id] ∈ db.view owners [.id] → [id] ∈ db.view members [column]) :
    (db.insert members <| (defaultGroups db).flatMap fun group =>
      (ungrouped owners members column db).map (made group)) = db := by
  have none_added : ((defaultGroups db).flatMap fun group =>
      (ungrouped owners members column db).map (made group)) = [] := by
    rw [ungrouped_eq_nil grouped]
    exact List.flatMap_eq_nil_iff.mpr fun _ _ => rfl
  rw [none_added, insert_nil]

theorem insertAlias_settled (gaps : Bool) {model : Row}
    (there : (findAlias (model.get .aliasName) db).isSome = true) :
    AlikeBut [.modelAliases] (insertAlias gaps model db) db := by
  obtain ⟨row, found⟩ := Option.isSome_iff_exists.mp there
  simp only [insertAlias, found]
  split
  · exact .of_bumped List.mem_cons_self _ db
  · exact .refl _ db

theorem insertTarget_settled {model : Row}
    (made : AliasMade db (model.get .aliasName) (model.get .providerId) (model.get .upstreamModel)) :
    insertTarget model db = db := by
  obtain ⟨id, found, target⟩ := made
  obtain ⟨row, there, rfl⟩ := Option.map_eq_some_iff.mp found
  simp only [insertTarget, there]
  rw [if_pos target]

theorem migrateProviderModelAliases_settled (env : MigrationEnv) (made : Fact.aliased.Holds db) :
    AlikeBut [.modelAliases] ((blocks env .providerModelAliases).run db) db := by
  refine execute_keeps (p := fun state => AlikeBut [.modelAliases] state db) ?_ (.refl _ db)
  intro statement member state alike
  simp only [blocks, migrateProviderModelAliases, List.mem_flatMap, List.mem_filter, List.mem_cons,
    List.not_mem_nil, or_false] at member
  obtain ⟨model, ⟨there, filled⟩, statement_eq⟩ := member
  simp only [aliased, decide_eq_true_eq] at filled
  have held : AliasMade state (model.get .aliasName) (model.get .providerId)
      (model.get .upstreamModel) :=
    ((alike.alike.holds .aliased).mpr made) _ _ _
      (by rw [alike.alike.view]; exact mem_view.mpr ⟨model, there, rfl⟩) filled.1 filled.2
  rcases statement_eq with rfl | rfl
  · have found : (findAlias (model.get .aliasName) state).isSome = true := by
      obtain ⟨id, found, -⟩ := held
      rw [findAlias_isSome, found, Option.isSome_some]
    exact (insertAlias_settled env.gaps found).trans alike
  · rw [insertTarget_settled held]
    exact alike

theorem migrateUpstreamConfig_settled (env : MigrationEnv)
    (there : ∀ name ∈ upstreamTables, (db.tables name).isSome = true)
    (versioned : Fact.versioned.Holds db) : migrateUpstreamConfig env db = db := by
  rw [migrateUpstreamConfig, createTables_settled there]
  exact if_pos versioned

end Settled

theorem rebuild_settled (env : MigrationEnv) (anew : Rebuild) {db : Db}
    (held : ∀ fact ∈ contract.facts (.rebuild anew), fact.Holds db) :
    (blocks env (.rebuild anew)).run db = db := by
  rw [run_rebuild, if_neg]
  cases reached : db.shape anew.table with
  | none => exact Bool.false_ne_true
  | some shape =>
    have exists_iff : ∀ column, db.columnExists anew.table column = decide (column ∈ shape.columns) := by
      intro column
      rw [Db.columnExists, reached, Option.any_some]
    rw [Option.any_some]
    refine ne_true_of_eq_false (stale_eq_false_iff.mpr ⟨?_, ?_, ?_, ?_⟩)
    · intro column member
      have gone := held (.noColumn anew.table column) (by simp [contract, member])
      exact of_decide_eq_false ((exists_iff column).symm.trans gone)
    · intro column member
      have there := held (.column anew.table column) (by simp [contract, member])
      exact of_decide_eq_true ((exists_iff column).symm.trans there)
    · intro column member
      exact held (.keyed anew.table column) (by simp [contract, member]) shape reached
    · intro column member
      exact held (.unreferenced anew.table column) (by simp [contract, member]) shape reached

def Step.bumps : Step → List TableName
  | .upsertDefaultGroup => [.providerGroups]
  | .providerModelAliases => [.modelAliases]
  | _ => []

theorem step_settled (env : MigrationEnv) (step : Step) {db : Db}
    (held : ∀ fact ∈ contract.facts step, fact.Holds db) :
    AlikeBut step.bumps ((blocks env step).run db) db := by
  cases step with
  | createTable name =>
    exact .of_eq (createTable_settled (held (.table name) List.mem_cons_self))
  | createIndex index =>
    exact .of_eq (createIndex_settled (held (.index index) List.mem_cons_self))
  | addColumn name column fill =>
    have there : db.columnExists name column = true := held (.column name column) List.mem_cons_self
    rw [run_addColumn, if_pos there]
    exact .refl _ db
  | dropColumn name column =>
    have gone := held (.noColumn name column) List.mem_cons_self
    rw [run_dropColumn, if_neg (ne_true_of_eq_false gone)]
    exact .refl _ db
  | dropReference name column =>
    exact .of_eq (dropReference_settled (held (.unreferenced name column) List.mem_cons_self))
  | rebuild anew => exact .of_eq (rebuild_settled env anew held)
  | statsHourlyPrimaryKey =>
    have version := held (.keyed .statsHourly .priceVersionId) (by simp [contract])
    have tier := held (.keyed .statsHourly .priceTierIndex) (by simp [contract])
    change AlikeBut _ (swapStatsHourlyKey.run db) db
    rw [run_swapStatsHourlyKey, if_neg]
    · exact .refl _ db
    · cases reached : db.shape .statsHourly with
      | none => exact Bool.false_ne_true
      | some shape => simp [version shape reached, tier shape reached]
  | insertDefaultGroup =>
    have found := defaultGroup_iff.mp (held .defaultGroup List.mem_cons_self)
    exact .of_eq (if_neg found)
  | markDefaultGroup =>
    exact .of_eq (markDefaultGroup_settled (held .defaultMarked List.mem_cons_self))
  | upsertDefaultGroup =>
    have found := defaultGroup_iff.mp (held .defaultGroup (by simp [contract]))
    have marked := markDefaultGroup_settled (held .defaultMarked (by simp [contract]))
    change AlikeBut _ (upsertDefaultGroup db) db
    rw [upsertDefaultGroup, if_neg found, marked]
    exact .of_bumped List.mem_cons_self _ db
  | groupProviders =>
    exact .of_eq (grouping_settled _ (held .providersGrouped List.mem_cons_self))
  | groupApiKeys => exact .of_eq (grouping_settled _ (held .keysGrouped List.mem_cons_self))
  | providerModelAliases =>
    exact migrateProviderModelAliases_settled env (held .aliased List.mem_cons_self)
  | modelPricesActive =>
    have there : db.columnExists .modelPrices .active = true :=
      held (.column .modelPrices .active) List.mem_cons_self
    rw [run_modelPricesActive, if_pos there]
    exact .refl _ db
  | priceSyncControl => exact .of_eq (if_pos (held .controlled List.mem_cons_self))
  | upstreamConfig =>
    have tables : ∀ name ∈ upstreamTables, (db.tables name).isSome = true := by
      intro name member
      exact held (.table name) (List.mem_append_left _ (List.mem_map_of_mem member))
    exact .of_eq (migrateUpstreamConfig_settled env tables
      (held .versioned (List.mem_append_right _ (List.mem_singleton.mpr rfl))))

theorem runAll_settled (env : MigrationEnv) {script : List Step} {db : Db}
    (held : ∀ step ∈ script, ∀ fact ∈ contract.facts step, fact.Holds db) :
    Alike (runAll (blocks env) script db) db :=
  runAll_again Alike.refl Alike.trans fun step member _ alike =>
    (step_settled env step fun fact there => (alike.holds fact).mpr (held step member fact there)).alike

theorem rerun_alike (env : MigrationEnv) {script : List Step} (checked : contract.check [] script = true)
    (db : Db) :
    Alike (runAll (blocks env) script (runAll (blocks env) script db)) (runAll (blocks env) script db) := by
  have held : ∀ fact ∈ [] ++ script.flatMap contract.facts,
      fact.Holds (runAll (blocks env) script db) :=
    (contract_sound env).established checked fun _ there => absurd there List.not_mem_nil
  apply runAll_settled
  intro step member fact there
  exact held fact (List.mem_flatMap.mpr ⟨step, member, there⟩)

end CodexGate.Migration
