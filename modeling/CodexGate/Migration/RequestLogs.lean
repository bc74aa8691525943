import CodexGate.Migration.Reruns

namespace CodexGate.Migration

open Foundation

def requestLogInsertColumns : List ColumnName := [
  .id, .timeMs, .apiKeyId, .providerId, .endpointId, .upstreamKeyId, .apiFormat, .upstreamApiFormat,
  .model, .httpStatus, .errorType, .errorMessage, .inputTokens, .outputTokens,
  .cacheReadInputTokens, .cacheCreationInputTokens, .reasoningOutputTokens, .usageObserved,
  .priceVersionId, .priceTierIndex, .tStreamMs, .tFirstByteMs, .tFirstTokenMs, .durationMs,
  .spanKind, .transport, .parentId, .wsSessionId, .routingTraceJson, .requestedServiceTier,
  .upstreamServiceTier, .serviceTier, .ttftSource, .requestedReasoningEffort,
  .upstreamReasoningEffort, .createdAtMs]

def requestLogSelectColumns : List ColumnName := [
  .id, .timeMs, .apiKeyId, .providerId, .endpointId, .upstreamKeyId, .apiFormat, .upstreamApiFormat,
  .model, .httpStatus, .errorType, .errorMessage, .inputTokens, .outputTokens,
  .cacheReadInputTokens, .cacheCreationInputTokens, .reasoningOutputTokens, .usageObserved,
  .priceVersionId, .priceTierIndex, .tStreamMs, .tFirstByteMs, .tFirstTokenMs, .durationMs,
  .spanKind, .transport, .parentId, .wsSessionId, .routingTraceJson, .ttftSource,
  .requestedReasoningEffort, .upstreamReasoningEffort, .requestedServiceTier,
  .upstreamServiceTier, .serviceTier, .createdAtMs]

def optionalColumns : List ColumnName := [
  .reasoningOutputTokens, .usageObserved, .spanKind, .transport, .parentId, .wsSessionId,
  .routingTraceJson, .upstreamApiFormat, .priceVersionId, .priceTierIndex, .ttftSource,
  .requestedReasoningEffort, .upstreamReasoningEffort, .requestedServiceTier,
  .upstreamServiceTier, .serviceTier]

def firstColumns : List ColumnName :=
  requestLogInsertColumns.filter fun column => column ∉ optionalColumns

/-- A database of any version: its request logs have any of the optional columns and any others. -/
def Older (db : Db) : Prop :=
  ∀ shape, db.shape .requestLogs = some shape → ∀ column ∈ firstColumns, column ∈ shape.columns

structure Reached (env : MigrationEnv) (db after : Db) : Prop where
  columns : ∀ column ∈ requestLogInsertColumns ++ requestLogSelectColumns,
    after.columnExists .requestLogs column = true
  rows : ∀ columns, columns ≠ [] → (∀ column ∈ columns, db.columnExists .requestLogs column = true ∧
    after.columnExists .requestLogs column = true) →
      after.view .requestLogs columns = db.view .requestLogs columns
  settled : Alike (runAll (blocks env) migrateSqlite after) after

def Step.keepsLogs : Step → Bool
  | .dropColumn name _ | .dropReference name _ => name ≠ .requestLogs
  | .rebuild anew => anew.table ≠ .requestLogs
  | .addColumn name column _ =>
    name ≠ .requestLogs || column ∉ [.costTotalUsd, .priceVersionId, .priceTierIndex]
  | _ => true

theorem before_keepsLogs : ∀ step ∈ sqliteBeforeLogs, step.keepsLogs = true := by decide +kernel

def sqliteLater : List Step := sqliteAfterLogs ++ priceSync ++ [.upstreamConfig]

theorem migrate_sqlite :
    migrate .sqlite = sqliteBeforeLogs ++ .rebuild requestLogsForPricing :: sqliteLater := by
  simp only [migrate, migrateSqlite, sqliteLater, List.append_assoc, List.cons_append]

theorem after_later {step : Step} (there : step ∈ sqliteAfterLogs) : step ∈ sqliteLater :=
  List.mem_append_left _ (List.mem_append_left _ there)

theorem later_keepsLogs : ∀ step ∈ sqliteLater, step.keepsLogs = true := by decide +kernel

section Steps

variable {env : MigrationEnv} {step : Step} {state : Db} {statement : Db → Db}

def staleLogs (db : Db) : Bool := (db.shape .requestLogs).any requestLogsForPricing.stale

theorem stale_eq (shape : Shape) :
    requestLogsForPricing.stale shape =
      (decide (.costTotalUsd ∈ shape.columns) || decide (.priceVersionId ∉ shape.columns) ||
        decide (.priceTierIndex ∉ shape.columns)) := by
  simp [Rebuild.stale, requestLogsForPricing, Bool.or_assoc]

theorem stale_extended {shape : Shape} {column : ColumnName}
    (other : column ∉ [.costTotalUsd, .priceVersionId, .priceTierIndex]) :
    requestLogsForPricing.stale { shape with columns := shape.columns ++ [column] } =
      requestLogsForPricing.stale shape := by
  simp only [List.mem_cons, List.not_mem_nil, or_false, not_or] at other
  obtain ⟨cost, version, tier⟩ := other
  rw [stale_eq, stale_eq]
  simp only [List.mem_append, List.mem_singleton, Ne.symm cost, Ne.symm version, Ne.symm tier, or_false]

theorem logs_move (made : statement ∈ blocks env step state) (keeps : step.keepsLogs = true) (db : Db) :
    (statement db).shape .requestLogs = db.shape .requestLogs ∨
      (db.shape .requestLogs = none ∧
        (statement db).shape .requestLogs = some (currentShape .requestLogs)) ∨
      ∃ shape column, column ∉ [ColumnName.costTotalUsd, .priceVersionId, .priceTierIndex] ∧
        db.shape .requestLogs = some shape ∧
        (statement db).shape .requestLogs = some { shape with columns := shape.columns ++ [column] } := by
  have move := statement_shape made db .requestLogs
  generalize db.shape .requestLogs = before at move
  generalize (statement db).shape .requestLogs = after at move
  cases move with
  | kept => exact .inl rfl
  | made => exact .inr (.inl ⟨rfl, rfl⟩)
  | anew anew shape by_step here =>
    subst by_step
    simp [Step.keepsLogs, here] at keeps
  | extended shape column by_step =>
    rcases by_step with ⟨fill, rfl⟩ | ⟨-, other, -⟩
    · refine .inr (.inr ⟨shape, column, ?_, rfl, rfl⟩)
      simpa [Step.keepsLogs] using keeps
    · cases other
  | narrowed shape column by_step =>
    subst by_step
    simp [Step.keepsLogs] at keeps
  | unbound shape column by_step =>
    subst by_step
    simp [Step.keepsLogs] at keeps
  | rekeyed shape key by_step here => cases here

theorem staleLogs_statement (made : statement ∈ blocks env step state) (keeps : step.keepsLogs = true)
    (db : Db) : staleLogs (statement db) = staleLogs db := by
  unfold staleLogs
  rcases logs_move made keeps db with same | ⟨before, after⟩ | ⟨shape, column, other, before, after⟩
  · rw [same]
  · rw [before, after]
    decide
  · rw [before, after, Option.any_some, Option.any_some, stale_extended other]

theorem older_statement (made : statement ∈ blocks env step state) (keeps : step.keepsLogs = true)
    {db : Db} (older : Older db) : Older (statement db) := by
  intro found there column first
  rcases logs_move made keeps db with same | ⟨-, after⟩ | ⟨shape, added, -, before, after⟩
  · rw [same] at there
    exact older found there column first
  · rw [after] at there
    cases there
    exact (by decide : ∀ column ∈ firstColumns, column ∈ (currentShape .requestLogs).columns) column first
  · rw [after] at there
    cases there
    exact List.mem_append_left _ (older shape before column first)

theorem columnExists_statement (made : statement ∈ blocks env step state) (keeps : step.keepsLogs = true)
    {db : Db} {column : ColumnName} (there : db.columnExists .requestLogs column = true) :
    (statement db).columnExists .requestLogs column = true := by
  unfold Db.columnExists at there ⊢
  rcases logs_move made keeps db with same | ⟨before, -⟩ | ⟨shape, added, -, before, after⟩
  · rw [same]
    exact there
  · rw [before] at there
    cases there
  · rw [before, Option.any_some, decide_eq_true_eq] at there
    rw [after, Option.any_some, decide_eq_true_eq]
    exact List.mem_append_left _ there

theorem touches_logs (keeps : step.keepsLogs = true) :
    (∃ column fill, step = .addColumn .requestLogs column fill) ∨
      ∀ read, step.touches .requestLogs read = false := by
  cases step with
  | addColumn name column fill =>
    by_cases here : name = .requestLogs
    · subst here
      exact .inl ⟨column, fill, rfl⟩
    · exact .inr fun read => by simp [Step.touches, Ne.symm here]
  | rebuild anew =>
    refine .inr fun read => ?_
    simp only [Step.keepsLogs, decide_eq_true_eq] at keeps
    simp [Step.touches, Ne.symm keeps]
  | dropColumn name column =>
    refine .inr fun read => ?_
    simp only [Step.keepsLogs, decide_eq_true_eq] at keeps
    simp [Step.touches, Ne.symm keeps]
  | _ => exact .inr fun read => by simp [Step.touches]

end Steps

section Scripts

variable (env : MigrationEnv) {script : List Step} {db : Db}

variable (keeps : ∀ step ∈ script, step.keepsLogs = true)
include keeps

theorem staleLogs_runAll : staleLogs (runAll (blocks env) script db) = staleLogs db :=
  runAll_keeps (p := fun reached => staleLogs reached = staleLogs db)
    (fun step there _ _ made _ same => (staleLogs_statement made (keeps step there) _).trans same) rfl

theorem older_runAll (older : Older db) : Older (runAll (blocks env) script db) :=
  runAll_keeps (fun step there _ _ made _ before => older_statement made (keeps step there) before) older

theorem columnExists_runAll {column : ColumnName} (there : db.columnExists .requestLogs column = true) :
    (runAll (blocks env) script db).columnExists .requestLogs column = true :=
  runAll_keeps (p := fun reached => reached.columnExists .requestLogs column = true)
    (fun step inside _ _ made _ before => columnExists_statement made (keeps step inside) before) there

theorem view_runAll {columns : List ColumnName} (some_read : columns ≠ [])
    (there : ∀ column ∈ columns, db.columnExists .requestLogs column = true) :
    (runAll (blocks env) script db).view .requestLogs columns = db.view .requestLogs columns := by
  induction script generalizing db with
  | nil => rfl
  | cons step rest ih =>
    have rest_keeps := fun later inside => keeps later (List.mem_cons_of_mem step inside)
    have after : ∀ column ∈ columns,
        ((blocks env step).run db).columnExists .requestLogs column = true := fun column member =>
      @columnExists_runAll env [step] db (fun _ inside => by
        rw [List.mem_singleton.mp inside]
        exact keeps step List.mem_cons_self) column (there column member)
    refine (ih rest_keeps after).trans ?_
    rcases touches_logs (keeps step List.mem_cons_self) with ⟨column, fill, rfl⟩ | apart
    · by_cases held : db.columnExists .requestLogs column = true
      · rw [run_addColumn, if_pos held]
      · refine run_view env db some_read fun read member => ?_
        have other : read ≠ column := by
          rintro rfl
          exact held (there read member)
        simp [Step.touches, other]
    · exact run_view env db some_read fun read _ => apart read

end Scripts

section Runs

variable (env : MigrationEnv) {db : Db}

theorem others_keepLogs : ∀ step ∈ sqliteBeforeLogs ++ sqliteAfterLogs, step.keepsLogs = true := by
  intro step there
  rcases List.mem_append.mp there with before | after
  · exact before_keepsLogs step before
  · exact later_keepsLogs step (after_later after)

theorem others_checked : contract.check [] (sqliteBeforeLogs ++ sqliteAfterLogs) = true := by
  have parts := sqlite_checked
  rw [List.append_assoc] at parts
  exact (Contract.check_append parts).1

theorem run_logs :
    (blocks env (.rebuild requestLogsForPricing)).run db =
      if staleLogs db then requestLogsForPricing.apply db else db :=
  run_rebuild env db requestLogsForPricing

theorem run_without_rebuild (later : List Step) (current : staleLogs db = false) :
    runAll (blocks env) (sqliteBeforeLogs ++ .rebuild requestLogsForPricing :: later) db =
      runAll (blocks env) (sqliteBeforeLogs ++ later) db := by
  have before : staleLogs (runAll (blocks env) sqliteBeforeLogs db) = false := by
    rw [staleLogs_runAll env before_keepsLogs]
    exact current
  rw [runAll_append, runAll_cons, run_logs, before, if_neg Bool.false_ne_true, runAll_append]

theorem others_established :
    ∀ fact ∈ (sqliteBeforeLogs ++ sqliteAfterLogs).flatMap contract.facts,
      fact.Holds (runAll (blocks env) (sqliteBeforeLogs ++ sqliteAfterLogs) db) := fun fact there =>
  (contract_sound env).established others_checked (fun _ none => absurd none List.not_mem_nil) fact
    (List.mem_append_right _ there)

theorem named_column {column : ColumnName}
    (named : column ∈ requestLogInsertColumns ++ requestLogSelectColumns) :
    column ∈ firstColumns ∨ column ∈ requestLogsForPricing.required ∨
      .column .requestLogs column ∈ (sqliteBeforeLogs ++ sqliteAfterLogs).flatMap contract.facts := by
  revert column
  decide +kernel

theorem named_columnExists (older : Older db) (current : staleLogs db = false) {column : ColumnName}
    (named : column ∈ requestLogInsertColumns ++ requestLogSelectColumns) :
    (runAll (blocks env) (sqliteBeforeLogs ++ sqliteAfterLogs) db).columnExists .requestLogs column =
      true := by
  have known := @others_established env db
  have older_after := older_runAll env others_keepLogs older
  have current_after : staleLogs (runAll (blocks env) (sqliteBeforeLogs ++ sqliteAfterLogs) db) = false := by
    rw [staleLogs_runAll env others_keepLogs]
    exact current
  generalize runAll (blocks env) (sqliteBeforeLogs ++ sqliteAfterLogs) db = after at *
  have table : (after.tables .requestLogs).isSome = true :=
    known (.table .requestLogs) (by decide +kernel)
  rw [← shape_isSome] at table
  obtain ⟨shape, there⟩ := Option.isSome_iff_exists.mp table
  have held : column ∈ shape.columns → after.columnExists .requestLogs column = true := by
    intro member
    rw [Db.columnExists, there, Option.any_some]
    exact decide_eq_true member
  rcases named_column named with first | price | fact
  · exact held (older_after shape there column first)
  · rw [staleLogs, there, Option.any_some] at current_after
    exact held ((stale_eq_false_iff.mp current_after).2.1 column price)
  · exact known (.column .requestLogs column) fact

theorem reached_of_current (older : Older db) (current : staleLogs db = false) :
    Reached env db (runAll (blocks env) migrateSqlite db) := by
  rw [migrateSqlite, run_without_rebuild env _ current]
  constructor
  · exact fun column named => named_columnExists env older current named
  · exact fun columns some_read there => view_runAll env others_keepLogs some_read
      fun column member => (there column member).1
  · have again : staleLogs (runAll (blocks env) (sqliteBeforeLogs ++ sqliteAfterLogs) db) = false := by
      rw [staleLogs_runAll env others_keepLogs]
      exact current
    rw [migrateSqlite, run_without_rebuild env _ again]
    exact rerun_alike env others_checked db

theorem applied_noColumn {column : ColumnName} (anew : Rebuild) (dropped : column ∉ anew.shape.columns) :
    (Fact.noColumn anew.table column).Holds (anew.apply db) := by
  have moved : (anew.apply db).shape anew.table = (db.tables anew.table).map fun _ => anew.shape :=
    shape_alter_self db _
  rw [Fact.Holds, Db.columnExists, moved]
  cases db.tables anew.table with
  | none => rfl
  | some table => exact decide_eq_false dropped

theorem later_keepsMissing :
    ∀ step ∈ sqliteLater, step.breaks (.noColumn .requestLogs .routingTraceJson) = false := by
  decide +kernel

theorem routingTrace_missing {later : List Step} (included : ∀ step ∈ later, step ∈ sqliteLater)
    (stale : staleLogs db = true) :
    (runAll (blocks env) (sqliteBeforeLogs ++ .rebuild requestLogsForPricing :: later) db).columnExists
      .requestLogs .routingTraceJson = false := by
  have before : staleLogs (runAll (blocks env) sqliteBeforeLogs db) = true := by
    rw [staleLogs_runAll env before_keepsLogs]
    exact stale
  rw [runAll_append, runAll_cons, run_logs, if_pos before]
  have kept : ∀ step ∈ later,
      contract.breaks step (.noColumn .requestLogs .routingTraceJson) = false :=
    fun step there => later_keepsMissing step (included step there)
  exact (contract_sound env).keeps_runAll kept (applied_noColumn _ (by decide))

/-- One run is enough for the request logs if and only if it does not make them anew. -/
theorem migrateSqlite_reached_iff (older : Older db) :
    Reached env db (runAll (blocks env) migrateSqlite db) ↔ staleLogs db = false := by
  constructor
  · intro reached
    by_contra stale
    have missing := routingTrace_missing env (fun _ => after_later) (eq_true_of_ne_false stale)
    have there := reached.columns .routingTraceJson (by decide)
    rw [migrateSqlite, missing] at there
    cases there
  · exact reached_of_current env older

end Runs

def logsOnly (columns : List ColumnName) : Db where
  tables name :=
    if name = .requestLogs then
      some
        { columns
          primaryKey := [.id]
          references := []
          rows := [.of [(.id, .text "a"), (.model, .text "gpt"), (.durationMs, .integer 40)]] }
    else none
  indexes _ := false
  sequences _ := 0

theorem older_logsOnly {columns : List ColumnName} (first : ∀ column ∈ firstColumns, column ∈ columns) :
    Older (logsOnly columns) := by
  intro shape there column member
  cases there
  exact first column member

theorem priced_logs_reached :
    Reached plainEnv (logsOnly (firstColumns ++ [.priceVersionId, .priceTierIndex]))
      (runAll (blocks plainEnv) migrateSqlite
        (logsOnly (firstColumns ++ [.priceVersionId, .priceTierIndex]))) :=
  (migrateSqlite_reached_iff plainEnv
    (older_logsOnly fun _ there => List.mem_append_left _ there)).mpr (by decide)

def costLogs : List ColumnName :=
  firstColumns ++
    [.reasoningOutputTokens, .usageObserved, .costInUsd, .costOutUsd, .costTotalUsd]

theorem cost_logs_not_reached :
    Older (logsOnly costLogs) ∧
      ¬ Reached plainEnv (logsOnly costLogs)
        (runAll (blocks plainEnv) migrateSqlite (logsOnly costLogs)) := by
  refine ⟨older_logsOnly fun _ there => List.mem_append_left _ there, fun reached => ?_⟩
  have there := reached.columns .routingTraceJson (by decide)
  have stale : staleLogs (logsOnly costLogs) = true := by decide
  rw [migrateSqlite, routingTrace_missing plainEnv (fun _ => after_later) stale] at there
  cases there

end CodexGate.Migration
