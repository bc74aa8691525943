import CodexGate.Migration.AdminChanges

namespace CodexGate.Migration

open Foundation

def Fact.elsewhere : Fact → Bool
  | .table name | .column name _ | .noColumn name _ | .keyed name _ | .unreferenced name _ =>
    name ≠ .requestLogs
  | .index _ => false
  | _ => true

def SameElsewhere (db other : Db) : Prop := ∀ name, name ≠ .requestLogs → db.tables name = other.tables name

namespace SameElsewhere

variable {db other last : Db}

theorem refl (db : Db) : SameElsewhere db db := fun _ _ => rfl

theorem trans (first : SameElsewhere db other) (second : SameElsewhere other last) :
    SameElsewhere db last :=
  fun name apart => (first name apart).trans (second name apart)

theorem alter {change : Table → Table} (db : Db) : SameElsewhere (db.alter .requestLogs change) db := by
  intro name apart
  show Function.update db.tables .requestLogs _ name = db.tables name
  exact Function.update_of_ne apart _ _

theorem holds (same : SameElsewhere other db) {fact : Fact} (elsewhere : fact.elsewhere = true)
    (held : fact.Holds db) : fact.Holds other := by
  have shapes : ∀ name, name ≠ .requestLogs → other.shape name = db.shape name := by
    intro name apart
    rw [Db.shape, Db.shape, same name apart]
  cases fact with
  | table name =>
    rw [Fact.Holds, same name (of_decide_eq_true elsewhere)]
    exact held
  | column name column | noColumn name column =>
    rw [Fact.Holds, Db.columnExists, shapes name (of_decide_eq_true elsewhere)]
    exact held
  | keyed name column | unreferenced name column =>
    rw [Fact.Holds, shapes name (of_decide_eq_true elsewhere)]
    exact held
  | index index => cases elsewhere
  | defaultGroup | defaultMarked | providersGrouped | keysGrouped | aliased | controlled | versioned =>
    refine holds_of_reads (by decide) (fun name columns some_read inside => ?_) held
    obtain ⟨column, there⟩ := List.exists_mem_of_ne_nil columns some_read
    have apart : name ≠ .requestLogs := by
      rintro rfl
      simpa [Fact.reads] using inside column there
    rw [Db.view, Db.view, Db.rows, Db.rows, same name apart]

end SameElsewhere

def Step.onLogs : Step → Bool
  | .createTable name | .addColumn name _ _ | .dropColumn name _ => name = .requestLogs
  | .rebuild anew => anew.table = .requestLogs
  | .createIndex _ => true
  | _ => false

theorem onLogs_same (env : MigrationEnv) {step : Step} (onLogs : step.onLogs = true) (db : Db) :
    SameElsewhere ((blocks env step).run db) db := by
  cases step with
  | createTable name =>
    have here : name = .requestLogs := of_decide_eq_true onLogs
    subst here
    change SameElsewhere (createTable .requestLogs db) db
    unfold createTable
    split
    · exact .refl db
    · exact fun name apart => Function.update_of_ne apart _ _
  | addColumn name column fill =>
    have here : name = .requestLogs := of_decide_eq_true onLogs
    subst here
    rw [run_addColumn]
    split
    · exact .refl db
    · exact .alter db
  | dropColumn name column =>
    have here : name = .requestLogs := of_decide_eq_true onLogs
    subst here
    rw [run_dropColumn]
    split
    · exact .alter db
    · exact .refl db
  | rebuild anew =>
    have here : anew.table = .requestLogs := of_decide_eq_true onLogs
    rw [run_rebuild]
    split
    · unfold Rebuild.apply
      rw [here]
      exact SameElsewhere.alter db
    · exact .refl db
  | createIndex index => exact .refl db
  | _ => cases onLogs

def lasting : Contract Step Fact :=
  contract.restrict fun fact => fact.elsewhere || fact = .table .requestLogs

set_option maxRecDepth 100000 in
theorem lasting_checked (engine : Engine) : lasting.check [] (migrate engine) = true := by
  cases engine <;> decide +kernel

theorem migrate_elsewhere (engine : Engine) :
    ∀ step ∈ migrate engine, step.onLogs = true ∨
      ∀ fact ∈ contract.facts step, fact.elsewhere = true := by
  cases engine <;> decide +kernel

def Fact.ofSchema : Fact → Bool
  | .defaultGroup | .defaultMarked | .providersGrouped | .keysGrouped | .aliased => false
  | _ => true

theorem RowsOnly.holds {before after : Db} (change : RowsOnly before after) {fact : Fact}
    (schema : fact.ofSchema = true) (elsewhere : fact.elsewhere = true) (held : fact.Holds before) :
    fact.Holds after := by
  cases fact with
  | table name =>
    rw [Fact.Holds, ← shape_isSome, change.shape, shape_isSome]
    exact held
  | column name column | noColumn name column =>
    rw [Fact.Holds, Db.columnExists, change.shape]
    exact held
  | keyed name column | unreferenced name column =>
    rw [Fact.Holds, change.shape]
    exact held
  | index index => cases elsewhere
  | controlled =>
    rw [Fact.Holds, change.control]
    exact held
  | versioned =>
    rw [Fact.Holds, change.version]
    exact held
  | defaultGroup | defaultMarked | providersGrouped | keysGrouped | aliased => cases schema

inductive Managed (env : MigrationEnv) (engine : Engine) : Db → Prop
  | migrated (db : Db) : Managed env engine (runAll (blocks env) (migrate engine) db)
  | changed {before after : Db} (managed : Managed env engine before)
    (change : RowsOnly before after) : Managed env engine after

/-- Nothing is left for the data migrations: every alias of a provider model is an alias with the model
among its targets, every provider and key is in a group, and the default group is there and marked. -/
structure Settled (db : Db) : Prop where
  aliased : Fact.aliased.Holds db
  providers : Fact.providersGrouped.Holds db
  keys : Fact.keysGrouped.Holds db
  group : Fact.defaultGroup.Holds db
  marked : Fact.defaultMarked.Holds db

def settings : List TableName := [
  .modelAliases, .modelAliasTargets, .modelPrices, .providerGroups, .providerGroupProviders,
  .providerGroupApiKeys, .apiKeyAuthorization, .apiKeyAllowedProviders, .modelRoutes,
  .modelRouteProviders, .modelRoutePolicies]

def SettingsKept (before after : Db) : Prop := ∀ name ∈ settings, after.tables name = before.tables name

section Restart

variable {env : MigrationEnv} {engine : Engine} {db : Db}

theorem migrated_holds (env : MigrationEnv) (engine : Engine) (db : Db) {step : Step}
    (there : step ∈ migrate engine) {fact : Fact} (member : fact ∈ contract.facts step)
    (elsewhere : fact.elsewhere = true) : fact.Holds (runAll (blocks env) (migrate engine) db) := by
  have kept : fact ∈ lasting.facts step := by
    refine List.mem_filter.mpr ⟨member, ?_⟩
    rw [elsewhere, Bool.true_or]
  exact ((contract_sound env).restrict _).established (lasting_checked engine)
    (fun _ none => absurd none List.not_mem_nil) fact (List.mem_flatMap.mpr ⟨step, there, kept⟩)

theorem Managed.holds (managed : Managed env engine db) {step : Step} (there : step ∈ migrate engine)
    {fact : Fact} (member : fact ∈ contract.facts step) (elsewhere : fact.elsewhere = true)
    (schema : fact.ofSchema = true) : fact.Holds db := by
  induction managed with
  | migrated start => exact migrated_holds env engine start there member elsewhere
  | changed _ change ih => exact change.holds schema elsewhere ih

theorem Settled.holds (settled : Settled db) {fact : Fact} (rows : fact.ofSchema = false) :
    fact.Holds db := by
  cases fact with
  | aliased => exact settled.aliased
  | providersGrouped => exact settled.providers
  | keysGrouped => exact settled.keys
  | defaultGroup => exact settled.group
  | defaultMarked => exact settled.marked
  | _ => cases rows

theorem restart_same (managed : Managed env engine db) (settled : Settled db) :
    SameElsewhere (runAll (blocks env) (migrate engine) db) db := by
  refine runAll_again SameElsewhere.refl SameElsewhere.trans fun step there other same => ?_
  rcases migrate_elsewhere engine step there with onLogs | elsewhere
  · exact onLogs_same env onLogs other
  · have held : ∀ fact ∈ contract.facts step, fact.Holds other := by
      intro fact member
      apply same.holds (elsewhere fact member)
      cases schema : fact.ofSchema with
      | true => exact managed.holds there member (elsewhere fact member) schema
      | false => exact settled.holds schema
    have alike := step_settled env step held
    exact fun name _ => congrFun alike.tables name

theorem reads_settings (engine : Engine) {fact : Fact} (rows : fact.ofSchema = false) :
    ∀ read ∈ fact.reads, read.1 ∈ settings ∨
      ∀ step ∈ migrate engine, step.touches read.1 read.2 = false := by
  cases fact with
  | aliased | providersGrouped | keysGrouped | defaultGroup | defaultMarked =>
    cases engine <;> decide +kernel
  | _ => cases rows

theorem restart_holds (env : MigrationEnv) (engine : Engine) (db : Db) {fact : Fact}
    (rows : fact.ofSchema = false) : fact.Holds (runAll (blocks env) (migrate engine) db) := by
  have made : ∃ step ∈ migrate engine, fact ∈ contract.facts step := by
    cases fact with
    | aliased | providersGrouped | keysGrouped | defaultGroup | defaultMarked =>
      cases engine <;> decide +kernel
    | _ => cases rows
  obtain ⟨step, there, member⟩ := made
  refine migrated_holds env engine db there member ?_
  cases fact with
  | aliased | providersGrouped | keysGrouped | defaultGroup | defaultMarked => rfl
  | _ => cases rows

theorem holds_of_kept (kept : SettingsKept db (runAll (blocks env) (migrate engine) db)) {fact : Fact}
    (rows : fact.ofSchema = false) : fact.Holds db := by
  have reads : fact.reads ≠ [] := by
    cases fact with
    | aliased | providersGrouped | keysGrouped | defaultGroup | defaultMarked => exact List.cons_ne_nil _ _
    | _ => cases rows
  refine holds_of_reads reads (fun name columns some_read inside => ?_) (restart_holds env engine db rows)
  by_cases setting : name ∈ settings
  · rw [Db.view, Db.view, Db.rows, Db.rows, kept name setting]
  · have untouched : ∀ column ∈ columns, ∀ step ∈ migrate engine, step.touches name column = false :=
      fun column there => (reads_settings engine rows (name, column) (inside column there)).resolve_left setting
    symm
    exact runAll_keeps (p := fun reached : Db => reached.view name columns = db.view name columns)
      (fun step there _ _ made reached same =>
        (statement_view made reached some_read fun column read => untouched column read step there).trans
          same) rfl

/-- A restart leaves the settings if and only if the data migrations have nothing left to do. -/
theorem restart_keeps_iff (managed : Managed env engine db) :
    SettingsKept db (runAll (blocks env) (migrate engine) db) ↔ Settled db := by
  constructor
  · intro kept
    constructor
    · exact holds_of_kept kept (by rfl)
    · exact holds_of_kept kept (by rfl)
    · exact holds_of_kept kept (by rfl)
    · exact holds_of_kept kept (by rfl)
    · exact holds_of_kept kept (by rfl)
  · intro settled name there
    refine restart_same managed settled name ?_
    rintro rfl
    simp [settings] at there

theorem migrated_settled (env : MigrationEnv) (engine : Engine) (db : Db) :
    Settled (runAll (blocks env) (migrate engine) db) :=
  ⟨restart_holds env engine db rfl, restart_holds env engine db rfl, restart_holds env engine db rfl,
    restart_holds env engine db rfl, restart_holds env engine db rfl⟩

theorem settled_alter (settled : Settled db) {name : TableName} (change : Table → Table)
    (apart : name ∈ [TableName.modelPrices, .apiKeyAuthorization, .apiKeyAllowedProviders, .modelRoutes,
      .modelRouteProviders, .modelRoutePolicies]) : Settled (db.alter name change) := by
  have other : ∀ fact : Fact, fact.ofSchema = false → ∀ read ∈ fact.reads, read.1 ≠ name := by
    intro fact rows
    cases fact with
    | aliased | providersGrouped | keysGrouped | defaultGroup | defaultMarked =>
      revert name
      decide
    | _ => cases rows
  have held : ∀ fact : Fact, fact.ofSchema = false → fact.Holds (db.alter name change) := by
    intro fact rows
    have reads : fact.reads ≠ [] := by
      cases fact with
      | aliased | providersGrouped | keysGrouped | defaultGroup | defaultMarked =>
        exact List.cons_ne_nil _ _
      | _ => cases rows
    refine holds_of_reads reads (fun read columns some_read inside => ?_) (settled.holds rows)
    obtain ⟨column, there⟩ := List.exists_mem_of_ne_nil columns some_read
    exact view_alter_of_ne db change columns (other fact rows _ (inside column there))
  exact ⟨held _ rfl, held _ rfl, held _ rfl, held _ rfl, held _ rfl⟩

theorem settled_deleteRoutePolicy (settled : Settled db) (modelName : String) :
    Settled (deleteRoutePolicy db modelName) := by
  unfold deleteRoutePolicy Db.deleteWhere
  exact settled_alter settled _ (by decide)

end Restart

def aliasedModels : Db where
  tables name :=
    if name = .providerModels then
      some
        { toShape := currentShape .providerModels
          rows := [.of [(.id, .integer 1), (.providerId, .integer 1), (.upstreamModel, .text "m"),
            (.aliasName, .text "fast"), (.enabled, .flag true)]] }
    else none
  indexes _ := false
  sequences _ := 0

def migratedModels : Db := runAll (blocks plainEnv) (migrate .sqlite) aliasedModels

theorem migratedModels_managed : Managed plainEnv .sqlite migratedModels := .migrated aliasedModels

theorem deleted_route_stays :
    SettingsKept (deleteRoutePolicy migratedModels "m")
      (runAll (blocks plainEnv) (migrate .sqlite) (deleteRoutePolicy migratedModels "m")) :=
  (restart_keeps_iff (migratedModels_managed.changed
    (adminChange_rowsOnly (AdminChange.deleteRoutePolicy _ "m" : AdminChange false _ _)))).mpr
    (settled_deleteRoutePolicy (migrated_settled plainEnv .sqlite aliasedModels) "m")

theorem deleted_alias_returns :
    Managed plainEnv .sqlite (deleteModelAlias migratedModels 1) ∧
      ¬ SettingsKept (deleteModelAlias migratedModels 1)
        (runAll (blocks plainEnv) (migrate .sqlite) (deleteModelAlias migratedModels 1)) := by
  constructor
  · exact migratedModels_managed.changed (adminChange_rowsOnly (AdminChange.deleteModelAlias _ 1 : AdminChange false _ _))
  · intro kept
    have before : (deleteModelAlias migratedModels 1).view .modelAliases [.name] = [] := by
      decide +kernel
    have after : (runAll (blocks plainEnv) (migrate .sqlite)
        (deleteModelAlias migratedModels 1)).view .modelAliases [.name] = [[.text "fast"]] := by
      decide +kernel
    rw [Db.view, Db.rows, kept .modelAliases (by decide)] at after
    rw [Db.view, Db.rows, after] at before
    cases before

end CodexGate.Migration
