import CodexGate.Migration.Facts

namespace CodexGate.Migration

open Foundation

section Views

variable (db : Db) {name : TableName} {columns : List ColumnName}

theorem view_createTable (made : TableName) :
    (createTable made db).view name columns = db.view name columns := by
  unfold createTable
  split
  · rfl
  · rename_i missing
    have gone : db.tables made = none := Option.not_isSome_iff_eq_none.mp missing
    by_cases same : name = made
    · simp [Db.view, Db.rows, same, gone]
    · simp [Db.view, Db.rows, same]

theorem view_createTables (made : List TableName) :
    (made.foldl (fun reached name => createTable name reached) db).view name columns =
      db.view name columns := by
  induction made generalizing db with
  | nil => rfl
  | cons first rest ih => rw [List.foldl_cons, ih, view_createTable]

theorem view_of_put {changed : TableName} {column : ColumnName} {change : Row → Row}
    {altered : Table → Table} (rows : ∀ table, (altered table).rows = table.rows.map change)
    (puts : ∀ row, change row = row ∨ ∃ value, change row = row.put column value)
    (apart : ∀ read ∈ columns, ¬ (name = changed ∧ read = column)) :
    (db.alter changed altered).view name columns = db.view name columns := by
  by_cases same : name = changed
  · rw [same]
    apply view_alter_of_kept db change rows
    intro read there row
    rcases puts row with still | ⟨value, put⟩
    · rw [still]
    · rw [put]
      exact Row.get_put_of_ne row value fun equal => apart read there ⟨same, equal⟩
  · exact view_alter_of_ne db _ columns same

theorem view_addColumn {extended : TableName} {column : ColumnName} {fill : Value}
    (apart : ∀ read ∈ columns, ¬ (name = extended ∧ read = column)) :
    (addColumn extended column fill db).view name columns = db.view name columns :=
  view_of_put db (fun _ => rfl) (fun _ => .inr ⟨fill, rfl⟩) apart

theorem view_dropColumn {narrowed : TableName} {column : ColumnName}
    (apart : ∀ read ∈ columns, ¬ (name = narrowed ∧ read = column)) :
    (dropColumn narrowed column db).view name columns = db.view name columns :=
  view_of_put db (fun _ => rfl) (fun _ => .inr ⟨.null, rfl⟩) apart

theorem view_kept_rows {altered : TableName} {change : Table → Table}
    (kept : ∀ table, (change table).rows = table.rows) :
    (db.alter altered change).view name columns = db.view name columns :=
  view_alter_of_kept db id (fun table => by rw [kept, List.map_id]) fun _ _ _ => rfl

theorem markDefaultGroup_puts (row : Row) :
    (if row.get .normalizedName = .text "default" then row.put .isDefault (.flag true) else row) = row ∨
      ∃ value, (if row.get .normalizedName = .text "default" then row.put .isDefault (.flag true)
        else row) = row.put .isDefault value := by
  split
  · exact .inr ⟨_, rfl⟩
  · exact .inl rfl

theorem view_markDefaultGroup
    (apart : ∀ read ∈ columns, ¬ (name = .providerGroups ∧ read = .isDefault)) :
    (markDefaultGroup db).view name columns = db.view name columns :=
  view_of_put db (fun _ => rfl) markDefaultGroup_puts apart

theorem view_freezeWeights (apart : ∀ read ∈ columns, ¬ (name = .modelAliasTargets ∧ read = .weight)) :
    (freezeWeights db).view name columns = db.view name columns := by
  apply view_of_put db (fun _ => rfl) _ apart
  intro row
  split
  · split
    · exact .inr ⟨_, rfl⟩
    · exact .inr ⟨_, rfl⟩
  · exact .inl rfl

theorem view_activateLatest (apart : ∀ read ∈ columns, ¬ (name = .modelPrices ∧ read = .active)) :
    (activateLatest db).view name columns = db.view name columns := by
  apply view_of_put db (fun _ => rfl) _ apart
  intro row
  split
  · exact .inr ⟨_, rfl⟩
  · exact .inl rfl

theorem view_sequences (sequences : TableName → Int) :
    ({ db with sequences } : Db).view name columns = db.view name columns := rfl

theorem view_insertAlias (gaps : Bool) (model : Row) (apart : name ≠ .modelAliases) :
    (insertAlias gaps model db).view name columns = db.view name columns := by
  unfold insertAlias
  split
  · split <;> rfl
  · exact view_alter_of_ne db _ columns apart

theorem view_insertTarget (model : Row) (apart : name ≠ .modelAliasTargets) :
    (insertTarget model db).view name columns = db.view name columns := by
  unfold insertTarget
  split
  · rfl
  · dsimp only
    split
    · rfl
    · exact view_alter_of_ne db _ columns apart

theorem view_migrateUpstreamConfig (env : MigrationEnv)
    (apart : ∀ read ∈ columns, Step.upstreamConfig.touches name read = false) (some_read : columns ≠ []) :
    (migrateUpstreamConfig env db).view name columns = db.view name columns := by
  obtain ⟨first, there⟩ := List.exists_mem_of_ne_nil columns some_read
  have first_apart := apart first there
  simp only [Step.touches, Bool.or_eq_false_iff, decide_eq_false_iff_not] at first_apart
  have weight_apart : ∀ read ∈ columns, ¬ (name = .modelAliasTargets ∧ read = .weight) := by
    intro read there both
    have read_apart := apart read there
    simp [Step.touches, both.1, both.2] at read_apart
  unfold migrateUpstreamConfig
  dsimp only
  split
  · exact view_createTables db upstreamTables
  · rw [Db.insert, view_alter_of_ne _ _ columns first_apart.1.2, view_freezeWeights _ weight_apart,
      insertPolicies, Db.insert, view_alter_of_ne _ _ columns first_apart.1.1.2, insertAllowed,
      Db.insert, view_alter_of_ne _ _ columns first_apart.1.1.1.2, insertAuthorizations, Db.insert,
      view_alter_of_ne _ _ columns first_apart.1.1.1.1, view_createTables]

end Views

theorem statement_view {env : MigrationEnv} {step : Step} {state : Db} {statement : Db → Db}
    (made : statement ∈ blocks env step state) (db : Db) {name : TableName}
    {columns : List ColumnName} (some_read : columns ≠ [])
    (apart : ∀ read ∈ columns, step.touches name read = false) :
    (statement db).view name columns = db.view name columns := by
  obtain ⟨first, there⟩ := List.exists_mem_of_ne_nil columns some_read
  have first_apart := apart first there
  cases step with
  | createTable created =>
    rw [List.mem_singleton.mp made]
    exact view_createTable db created
  | createIndex index =>
    rw [List.mem_singleton.mp made]
    rfl
  | addColumn extended column fill =>
    simp only [blocks, List.mem_ite_nil_left, List.mem_singleton] at made
    rw [made.2]
    apply view_addColumn
    intro read there both
    simpa [Step.touches, both.1, both.2] using apart read there
  | dropColumn narrowed column =>
    simp only [blocks, List.mem_ite_nil_right, List.mem_singleton] at made
    rw [made.2]
    apply view_dropColumn
    intro read there both
    simpa [Step.touches, both.1, both.2] using apart read there
  | dropReference changed column =>
    rw [List.mem_singleton.mp made]
    exact view_kept_rows db fun _ => rfl
  | rebuild anew =>
    simp only [blocks, Rebuild.block, List.mem_ite_nil_right, List.mem_singleton] at made
    rw [made.2]
    exact view_alter_of_ne db _ columns (of_decide_eq_false first_apart)
  | statsHourlyPrimaryKey =>
    simp only [blocks, swapStatsHourlyKey, List.mem_ite_nil_right, List.mem_cons, List.not_mem_nil,
      or_false] at made
    rcases made.2 with rfl | rfl
    · exact view_kept_rows db fun _ => rfl
    · exact view_kept_rows db fun _ => rfl
  | insertDefaultGroup =>
    rw [List.mem_singleton.mp made]
    unfold insertDefaultGroup
    split
    · exact view_alter_of_ne db _ columns (of_decide_eq_false first_apart)
    · rfl
  | markDefaultGroup =>
    rw [List.mem_singleton.mp made]
    apply view_markDefaultGroup
    intro read there both
    simpa [Step.touches, both.1, both.2] using apart read there
  | upsertDefaultGroup =>
    have elsewhere : name ≠ .providerGroups := of_decide_eq_false first_apart
    rw [List.mem_singleton.mp made]
    unfold upsertDefaultGroup insertDefaultGroup
    split
    · exact view_alter_of_ne db _ columns elsewhere
    · exact view_markDefaultGroup db fun _ _ both => elsewhere both.1
  | groupProviders =>
    rw [List.mem_singleton.mp made]
    exact view_alter_of_ne db _ columns (of_decide_eq_false first_apart)
  | groupApiKeys =>
    rw [List.mem_singleton.mp made]
    exact view_alter_of_ne db _ columns (of_decide_eq_false first_apart)
  | providerModelAliases =>
    simp only [Step.touches, Bool.or_eq_false_iff, decide_eq_false_iff_not] at first_apart
    simp only [blocks, migrateProviderModelAliases, List.mem_flatMap, List.mem_cons,
      List.not_mem_nil, or_false] at made
    obtain ⟨model, -, rfl | rfl⟩ := made
    · exact view_insertAlias db env.gaps model first_apart.1
    · exact view_insertTarget db model first_apart.2
  | modelPricesActive =>
    have active_apart : ∀ read ∈ columns, ¬ (name = .modelPrices ∧ read = .active) := by
      intro read there both
      simpa [Step.touches, both.1, both.2] using apart read there
    simp only [blocks, ensureModelPricesActive, List.mem_ite_nil_left, List.mem_cons,
      List.not_mem_nil, or_false] at made
    rcases made.2 with rfl | rfl
    · exact view_addColumn db active_apart
    · exact view_activateLatest db active_apart
  | priceSyncControl =>
    rw [List.mem_singleton.mp made]
    unfold insertPriceSyncControl
    split
    · rfl
    · exact view_alter_of_ne db _ columns (of_decide_eq_false first_apart)
  | upstreamConfig =>
    rw [List.mem_singleton.mp made]
    exact view_migrateUpstreamConfig db env apart some_read

inductive ShapeMove (step : Step) (name : TableName) : Option Shape → Option Shape → Prop
  | kept (shape : Option Shape) : ShapeMove step name shape shape
  | made (by_step : step = .createTable name ∨ (step = .upstreamConfig ∧ name ∈ upstreamTables)) :
    ShapeMove step name none (some (currentShape name))
  | anew (rebuild : Rebuild) (shape : Shape) (by_step : step = .rebuild rebuild)
    (here : name = rebuild.table) : ShapeMove step name (some shape) (some rebuild.shape)
  | extended (shape : Shape) (column : ColumnName)
    (by_step : (∃ fill, step = .addColumn name column fill) ∨
      (step = .modelPricesActive ∧ name = .modelPrices ∧ column = .active)) :
    ShapeMove step name (some shape) (some { shape with columns := shape.columns ++ [column] })
  | narrowed (shape : Shape) (column : ColumnName) (by_step : step = .dropColumn name column) :
    ShapeMove step name (some shape)
      (some { shape with columns := shape.columns.filter fun other => other ≠ column })
  | unbound (shape : Shape) (column : ColumnName) (by_step : step = .dropReference name column) :
    ShapeMove step name (some shape)
      (some { shape with
        references := shape.references.filter fun reference =>
          reference ≠ (column, TableName.upstreamProviders) })
  | rekeyed (shape : Shape) (key : List ColumnName) (by_step : step = .statsHourlyPrimaryKey)
    (here : name = .statsHourly) : ShapeMove step name (some shape) (some { shape with primaryKey := key })

section Shapes

variable (db : Db) {step : Step} {name : TableName}

theorem move_alter {altered : TableName} {change : Table → Table}
    (moves : ∀ table : Table, name = altered →
      ShapeMove step name (some table.toShape) (some (change table).toShape)) :
    ShapeMove step name (db.shape name) ((db.alter altered change).shape name) := by
  by_cases same : name = altered
  · subst same
    rw [shape_alter_self, Db.shape]
    cases db.tables name with
    | none => exact .kept none
    | some table => exact moves table rfl
  · rw [shape_alter_of_ne db change same]
    exact .kept _

theorem move_rows {altered : TableName} {change : Table → Table}
    (kept : ∀ table, (change table).toShape = table.toShape) :
    ShapeMove step name (db.shape name) ((db.alter altered change).shape name) := by
  rw [shape_alter_of_kept db kept]
  exact .kept _

theorem shape_insert (altered : TableName) (added : List Row) :
    (db.insert altered added).shape = db.shape :=
  shape_alter_of_kept db fun _ => rfl

theorem shape_mapRows (altered : TableName) (change : Row → Row) :
    (db.mapRows altered change).shape = db.shape :=
  shape_alter_of_kept db fun _ => rfl

theorem shape_createTable (made : TableName) :
    (createTable made db).shape name =
      if name = made ∧ db.shape name = none then some (currentShape made) else db.shape name := by
  unfold createTable
  by_cases same : name = made
  · subst same
    cases there : db.tables name with
    | none => simp [Db.shape, there]
    | some table => simp [Db.shape, there]
  · have apart : ¬ (name = made ∧ db.shape name = none) := fun both => same both.1
    rw [if_neg apart]
    split
    · rfl
    · simp [Db.shape, same]

theorem shape_createTables (made : List TableName) :
    (made.foldl (fun reached name => createTable name reached) db).shape name =
      if name ∈ made ∧ db.shape name = none then some (currentShape name) else db.shape name := by
  induction made generalizing db with
  | nil => simp
  | cons first rest ih =>
    rw [List.foldl_cons, ih, shape_createTable]
    by_cases here : name = first
    · subst here
      cases there : db.shape name <;> simp
    · simp [here]

theorem shape_migrateUpstreamConfig (env : MigrationEnv) :
    (migrateUpstreamConfig env db).shape =
      (upstreamTables.foldl (fun reached name => createTable name reached) db).shape := by
  unfold migrateUpstreamConfig
  dsimp only
  split
  · rfl
  · rw [shape_insert, freezeWeights, shape_mapRows, insertPolicies, shape_insert, insertAllowed,
      shape_insert, insertAuthorizations, shape_insert]

theorem shape_insertAlias (gaps : Bool) (model : Row) : (insertAlias gaps model db).shape = db.shape := by
  unfold insertAlias
  split
  · split <;> rfl
  · exact shape_insert db _ _

theorem shape_insertTarget (model : Row) : (insertTarget model db).shape = db.shape := by
  unfold insertTarget
  split
  · rfl
  · dsimp only
    split
    · rfl
    · exact shape_insert db _ _

theorem shape_insertDefaultGroup : (insertDefaultGroup db).shape = db.shape := by
  unfold insertDefaultGroup
  split
  · exact shape_insert db _ _
  · rfl

theorem shape_upsertDefaultGroup : (upsertDefaultGroup db).shape = db.shape := by
  unfold upsertDefaultGroup
  split
  · exact shape_insertDefaultGroup db
  · exact shape_mapRows db _ _

end Shapes

theorem statement_shape {env : MigrationEnv} {step : Step} {state : Db} {statement : Db → Db}
    (made : statement ∈ blocks env step state) (db : Db) (name : TableName) :
    ShapeMove step name (db.shape name) ((statement db).shape name) := by
  cases step with
  | createTable created =>
    rw [List.mem_singleton.mp made, shape_createTable]
    split
    · rename_i both
      rw [both.2, ← both.1]
      exact .made (.inl (by rw [both.1]))
    · exact .kept _
  | createIndex index =>
    rw [List.mem_singleton.mp made]
    exact .kept _
  | addColumn extended column fill =>
    simp only [blocks, List.mem_ite_nil_left, List.mem_singleton] at made
    rw [made.2]
    apply move_alter
    intro table here
    exact .extended _ column (.inl ⟨fill, by rw [here]⟩)
  | dropColumn narrowed column =>
    simp only [blocks, List.mem_ite_nil_right, List.mem_singleton] at made
    rw [made.2]
    apply move_alter
    intro table here
    exact .narrowed _ column (by rw [here])
  | dropReference changed column =>
    rw [List.mem_singleton.mp made]
    apply move_alter
    intro table here
    exact .unbound _ column (by rw [here])
  | rebuild anew =>
    simp only [blocks, Rebuild.block, List.mem_ite_nil_right, List.mem_singleton] at made
    rw [made.2]
    apply move_alter db
    intro table here
    exact .anew anew _ rfl here
  | statsHourlyPrimaryKey =>
    simp only [blocks, swapStatsHourlyKey, List.mem_ite_nil_right, List.mem_cons, List.not_mem_nil,
      or_false] at made
    rcases made.2 with rfl | rfl
    · exact move_alter db fun table here => .rekeyed _ _ rfl here
    · exact move_alter db fun table here => .rekeyed _ _ rfl here
  | insertDefaultGroup =>
    rw [List.mem_singleton.mp made, shape_insertDefaultGroup]
    exact .kept _
  | markDefaultGroup =>
    rw [List.mem_singleton.mp made]
    exact move_rows db fun _ => rfl
  | upsertDefaultGroup =>
    rw [List.mem_singleton.mp made, shape_upsertDefaultGroup]
    exact .kept _
  | groupProviders =>
    rw [List.mem_singleton.mp made]
    exact move_rows db fun _ => rfl
  | groupApiKeys =>
    rw [List.mem_singleton.mp made]
    exact move_rows db fun _ => rfl
  | providerModelAliases =>
    simp only [blocks, migrateProviderModelAliases, List.mem_flatMap, List.mem_cons,
      List.not_mem_nil, or_false] at made
    obtain ⟨model, -, rfl | rfl⟩ := made
    · rw [shape_insertAlias]
      exact .kept _
    · rw [shape_insertTarget]
      exact .kept _
  | modelPricesActive =>
    simp only [blocks, ensureModelPricesActive, List.mem_ite_nil_left, List.mem_cons,
      List.not_mem_nil, or_false] at made
    rcases made.2 with rfl | rfl
    · exact move_alter db fun table here => .extended _ _ (.inr ⟨rfl, here, rfl⟩)
    · exact move_rows db fun _ => rfl
  | priceSyncControl =>
    rw [List.mem_singleton.mp made]
    unfold insertPriceSyncControl
    split
    · exact .kept _
    · exact move_rows db fun _ => rfl
  | upstreamConfig =>
    rw [List.mem_singleton.mp made, shape_migrateUpstreamConfig, shape_createTables]
    split
    · rename_i both
      rw [both.2]
      exact .made (.inr ⟨rfl, both.1⟩)
    · exact .kept _

section Indexes

variable (db : Db)

theorem indexes_createTables (made : List TableName) :
    (made.foldl (fun reached name => createTable name reached) db).indexes = db.indexes := by
  induction made generalizing db with
  | nil => rfl
  | cons first rest ih =>
    rw [List.foldl_cons, ih, createTable]
    split <;> rfl

theorem indexes_migrateUpstreamConfig (env : MigrationEnv) :
    (migrateUpstreamConfig env db).indexes = db.indexes := by
  have made := indexes_createTables db upstreamTables
  unfold migrateUpstreamConfig
  dsimp only
  split <;> exact made

theorem indexes_insertAlias (gaps : Bool) (model : Row) :
    (insertAlias gaps model db).indexes = db.indexes := by
  unfold insertAlias
  split
  · split <;> rfl
  · rfl

theorem indexes_insertTarget (model : Row) : (insertTarget model db).indexes = db.indexes := by
  unfold insertTarget
  split
  · rfl
  · dsimp only
    split <;> rfl

theorem indexes_insertDefaultGroup : (insertDefaultGroup db).indexes = db.indexes := by
  unfold insertDefaultGroup
  split <;> rfl

theorem indexes_upsertDefaultGroup : (upsertDefaultGroup db).indexes = db.indexes := by
  unfold upsertDefaultGroup
  split
  · exact indexes_insertDefaultGroup db
  · rfl

end Indexes

theorem statement_indexes {env : MigrationEnv} {step : Step} {state : Db} {statement : Db → Db}
    (made : statement ∈ blocks env step state) (db : Db) {index : IndexName}
    (kept : step.breaks (.index index) = false) (there : db.indexes index = true) :
    (statement db).indexes index = true := by
  cases step with
  | createIndex created =>
    rw [List.mem_singleton.mp made]
    by_cases same : index = created
    · simp [createIndex, same]
    · simpa [createIndex, same] using there
  | rebuild anew =>
    simp only [blocks, Rebuild.block, List.mem_ite_nil_right, List.mem_singleton] at made
    rw [made.2]
    simp only [Step.breaks, Bool.and_eq_false_iff, decide_eq_false_iff_not, not_not] at kept
    by_cases here : index.table = anew.table
    · have again : index ∈ anew.indexes := kept.resolve_left fun apart => apart here
      simp [Rebuild.apply, here, again]
    · simpa [Rebuild.apply, here] using there
  | createTable created =>
    rw [List.mem_singleton.mp made]
    unfold createTable
    split <;> exact there
  | addColumn extended column fill =>
    simp only [blocks, List.mem_ite_nil_left, List.mem_singleton] at made
    rw [made.2]
    exact there
  | dropColumn narrowed column =>
    simp only [blocks, List.mem_ite_nil_right, List.mem_singleton] at made
    rw [made.2]
    exact there
  | statsHourlyPrimaryKey =>
    simp only [blocks, swapStatsHourlyKey, List.mem_ite_nil_right, List.mem_cons, List.not_mem_nil,
      or_false] at made
    rcases made.2 with rfl | rfl <;> exact there
  | modelPricesActive =>
    simp only [blocks, ensureModelPricesActive, List.mem_ite_nil_left, List.mem_cons,
      List.not_mem_nil, or_false] at made
    rcases made.2 with rfl | rfl <;> exact there
  | providerModelAliases =>
    simp only [blocks, migrateProviderModelAliases, List.mem_flatMap, List.mem_cons,
      List.not_mem_nil, or_false] at made
    obtain ⟨model, -, rfl | rfl⟩ := made
    · rw [indexes_insertAlias]
      exact there
    · rw [indexes_insertTarget]
      exact there
  | upstreamConfig =>
    rw [List.mem_singleton.mp made, indexes_migrateUpstreamConfig]
    exact there
  | dropReference changed column =>
    rw [List.mem_singleton.mp made]
    exact there
  | insertDefaultGroup =>
    rw [List.mem_singleton.mp made, indexes_insertDefaultGroup]
    exact there
  | upsertDefaultGroup =>
    rw [List.mem_singleton.mp made, indexes_upsertDefaultGroup]
    exact there
  | priceSyncControl =>
    rw [List.mem_singleton.mp made]
    unfold insertPriceSyncControl
    split <;> exact there
  | markDefaultGroup | groupProviders | groupApiKeys =>
    rw [List.mem_singleton.mp made]
    exact there

section Kept

variable {step : Step} {name : TableName} {read : ColumnName} {before after : Option Shape}

theorem ShapeMove.table (move : ShapeMove step name before after) (there : before.isSome = true) :
    after.isSome = true := by
  cases move with
  | kept shape => exact there
  | made by_step => rfl
  | anew rebuild shape by_step here => rfl
  | extended shape column by_step => rfl
  | narrowed shape column by_step => rfl
  | unbound shape column by_step => rfl
  | rekeyed shape key by_step here => rfl

theorem ShapeMove.column (move : ShapeMove step name before after)
    (kept : step.breaks (.column name read) = false)
    (there : before.any (fun shape => read ∈ shape.columns) = true) :
    after.any (fun shape => read ∈ shape.columns) = true := by
  cases move with
  | kept shape => exact there
  | made by_step => cases there
  | anew rebuild shape by_step here =>
    subst by_step here
    simpa [Step.breaks] using kept
  | extended shape added by_step =>
    simp only [Option.any_some, decide_eq_true_eq, List.mem_append] at there ⊢
    exact .inl there
  | narrowed shape dropped by_step =>
    subst by_step
    have apart : read ≠ dropped := by simpa [Step.breaks] using kept
    simp only [Option.any_some, decide_eq_true_eq, List.mem_filter, ne_eq] at there ⊢
    exact ⟨there, apart⟩
  | unbound shape column by_step => exact there
  | rekeyed shape key by_step here => exact there

theorem reshapes_made {property : Shape → Bool}
    (by_step : step = .createTable name ∨ (step = .upstreamConfig ∧ name ∈ upstreamTables))
    (kept : step.reshapes property name = false) : property (currentShape name) = true := by
  rcases by_step with rfl | ⟨rfl, there⟩
  · simpa [Step.reshapes] using kept
  · simpa [Step.reshapes, there] using kept

theorem ShapeMove.noColumn (move : ShapeMove step name before after)
    (kept : step.breaks (.noColumn name read) = false)
    (missing : before.any (fun shape => read ∈ shape.columns) = false) :
    after.any (fun shape => read ∈ shape.columns) = false := by
  have parts := Bool.or_eq_false_iff.mp kept
  cases move with
  | kept shape => exact missing
  | made by_step => simpa using reshapes_made by_step parts.1
  | anew rebuild shape by_step here =>
    subst by_step here
    simpa [Step.reshapes] using parts.1
  | extended shape added by_step =>
    have apart : read ≠ added := by
      rcases by_step with ⟨fill, rfl⟩ | ⟨rfl, rfl, rfl⟩
      · simpa using parts.2
      · simpa using parts.2
    simp only [Option.any_some, decide_eq_false_iff_not, List.mem_append, List.mem_singleton,
      not_or] at missing ⊢
    exact ⟨missing, apart⟩
  | narrowed shape dropped by_step =>
    simp only [Option.any_some, decide_eq_false_iff_not, List.mem_filter, not_and] at missing ⊢
    exact fun there => absurd there missing
  | unbound shape column by_step => exact missing
  | rekeyed shape key by_step here => exact missing

theorem ShapeMove.keyed (move : ShapeMove step name before after)
    (kept : step.breaks (.keyed name read) = false)
    (held : ∀ shape, before = some shape → read ∈ shape.primaryKey) :
    ∀ shape, after = some shape → read ∈ shape.primaryKey := by
  have parts := Bool.or_eq_false_iff.mp kept
  cases move with
  | kept shape => exact held
  | made by_step =>
    rintro shape ⟨⟩
    simpa using reshapes_made by_step parts.1
  | anew rebuild shape by_step here =>
    subst by_step here
    rintro shape ⟨⟩
    simpa [Step.reshapes] using parts.1
  | extended shape added by_step =>
    rintro other ⟨⟩
    exact held shape rfl
  | narrowed shape dropped by_step =>
    rintro other ⟨⟩
    exact held shape rfl
  | unbound shape column by_step =>
    rintro other ⟨⟩
    exact held shape rfl
  | rekeyed shape key by_step here =>
    subst by_step here
    simp at parts

theorem ShapeMove.unreferenced (move : ShapeMove step name before after)
    (kept : step.breaks (.unreferenced name read) = false)
    (held : ∀ shape, before = some shape →
      (read, TableName.upstreamProviders) ∉ shape.references) :
    ∀ shape, after = some shape → (read, TableName.upstreamProviders) ∉ shape.references := by
  cases move with
  | kept shape => exact held
  | made by_step =>
    rintro shape ⟨⟩
    have still : step.reshapes (fun shape => (read, .upstreamProviders) ∉ shape.references) name =
        false := kept
    simpa using reshapes_made by_step still
  | anew rebuild shape by_step here =>
    subst by_step here
    rintro shape ⟨⟩
    simpa [Step.breaks, Step.reshapes] using kept
  | extended shape added by_step =>
    rintro other ⟨⟩
    exact held shape rfl
  | narrowed shape dropped by_step =>
    rintro other ⟨⟩
    exact held shape rfl
  | unbound shape dropped by_step =>
    rintro other ⟨⟩ there
    exact held shape rfl (List.mem_of_mem_filter there)
  | rekeyed shape key by_step here =>
    rintro other ⟨⟩
    exact held shape rfl

end Kept

theorem aliasId_of_view {db other : Db} (name : Value)
    (same : db.view .modelAliases [.name, .id] = other.view .modelAliases [.name, .id]) :
    aliasId name db = aliasId name other := by
  have reads : ∀ db : Db, aliasId name db =
      ((db.view .modelAliases [.name, .id]).find? fun read => read.head? = some name).bind
        fun read => read[1]? := by
    intro db
    rw [Db.view, List.find?_map, aliasId, findAlias]
    have test : (fun read : List Value => decide (read.head? = some name)) ∘
        (fun row : Row => [ColumnName.name, ColumnName.id].map row.get) =
          fun row => decide (row.get .name = name) := by
      funext row
      simp
    rw [test]
    cases (db.rows .modelAliases).find? fun row => row.get .name = name <;> rfl
  rw [reads, reads, same]

theorem holds_of_reads {fact : Fact} (rows : fact.reads ≠ []) {db other : Db}
    (same : ∀ name columns, columns ≠ [] → (∀ column ∈ columns, (name, column) ∈ fact.reads) →
      other.view name columns = db.view name columns) (held : fact.Holds db) : fact.Holds other := by
  cases fact with
  | table name | column name column | noColumn name column | keyed name column
  | unreferenced name column | index index => exact absurd rfl rows
  | defaultGroup =>
    rw [Fact.Holds, same .providerGroups [.normalizedName] (List.cons_ne_nil _ _) (by decide)]
    exact held
  | defaultMarked =>
    rw [Fact.Holds,
      same .providerGroups [.normalizedName, .isDefault] (List.cons_ne_nil _ _) (by decide)]
    exact held
  | providersGrouped =>
    rw [Fact.Holds, same .upstreamProviders [.id] (List.cons_ne_nil _ _) (by decide),
      same .providerGroupProviders [.providerId] (List.cons_ne_nil _ _) (by decide)]
    exact held
  | keysGrouped =>
    rw [Fact.Holds, same .apiKeys [.id] (List.cons_ne_nil _ _) (by decide),
      same .providerGroupApiKeys [.apiKeyId] (List.cons_ne_nil _ _) (by decide)]
    exact held
  | aliased =>
    have aliases := same .modelAliases [.name, .id] (List.cons_ne_nil _ _) (by decide)
    have targets := same .modelAliasTargets [.aliasId, .providerId, .upstreamModel]
      (List.cons_ne_nil _ _) (by decide)
    rw [Fact.Holds, same .providerModels [.aliasName, .providerId, .upstreamModel]
      (List.cons_ne_nil _ _) (by decide)]
    intro name provider model there filled named
    obtain ⟨id, found, target⟩ := held name provider model there filled named
    exact ⟨id, (aliasId_of_view name aliases).trans found, targets ▸ target⟩
  | controlled =>
    rw [Fact.Holds, same .priceSyncControl [.id] (List.cons_ne_nil _ _) (by decide)]
    exact held
  | versioned =>
    rw [Fact.Holds, same .upstreamMigrations [.version] (List.cons_ne_nil _ _) (by decide)]
    exact held

theorem statement_keeps {env : MigrationEnv} {step : Step} {fact : Fact} {state : Db}
    {statement : Db → Db} (made : statement ∈ blocks env step state)
    (kept : step.breaks fact = false) {db : Db} (held : fact.Holds db) : fact.Holds (statement db) := by
  have moves := statement_shape made db
  have reads_same : ∀ name columns, columns ≠ [] →
      (∀ read ∈ columns, step.touches name read = false) →
        (statement db).view name columns = db.view name columns :=
    fun name columns some_read apart => statement_view made db some_read apart
  cases fact with
  | table name =>
    have tables : ∀ db : Db, (db.tables name).isSome = (db.shape name).isSome := fun db => by
      rw [Db.shape, Option.isSome_map]
    rw [Fact.Holds, tables] at held ⊢
    exact (moves name).table held
  | column name column => exact (moves name).column kept held
  | noColumn name column => exact (moves name).noColumn kept held
  | keyed name column => exact (moves name).keyed kept held
  | unreferenced name column => exact (moves name).unreferenced kept held
  | index index => exact statement_indexes made db kept held
  | defaultGroup | defaultMarked | providersGrouped | keysGrouped | aliased | controlled | versioned =>
    refine holds_of_reads (by decide) (fun name columns some_read inside => ?_) held
    refine reads_same name columns some_read fun read there => ?_
    exact eq_false_of_ne_true (List.any_eq_false.mp kept (name, read) (inside read there))

end CodexGate.Migration
