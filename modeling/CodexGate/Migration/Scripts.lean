import CodexGate.Migration.Steps

namespace CodexGate.Migration

open Foundation

inductive Step
  | createTable (name : TableName)
  | createIndex (index : IndexName)
  | addColumn (name : TableName) (column : ColumnName) (fill : Value)
  | dropColumn (name : TableName) (column : ColumnName)
  | dropReference (name : TableName) (column : ColumnName)
  | rebuild (table : Rebuild)
  | statsHourlyPrimaryKey
  | insertDefaultGroup
  | markDefaultGroup
  | upsertDefaultGroup
  | groupProviders
  | groupApiKeys
  | providerModelAliases
  | modelPricesActive
  | priceSyncControl
  | upstreamConfig

/-- The key is replaced where the price columns are not in it, in two statements. -/
def swapStatsHourlyKey : Block Db := fun db =>
  if (db.shape .statsHourly).any fun shape =>
      .priceVersionId ∉ shape.primaryKey ∨ .priceTierIndex ∉ shape.primaryKey then
    [setPrimaryKey .statsHourly [],
      setPrimaryKey .statsHourly (currentShape .statsHourly).primaryKey]
  else []

def blocks (env : MigrationEnv) : Step → Block Db
  | .createTable name => fun _ => [createTable name]
  | .createIndex index => fun _ => [createIndex index]
  | .addColumn name column fill => fun db =>
    if db.columnExists name column then [] else [addColumn name column fill]
  | .dropColumn name column => fun db =>
    if db.columnExists name column then [dropColumn name column] else []
  | .dropReference name column => fun _ => [dropReference name column]
  | .rebuild rebuild => rebuild.block
  | .statsHourlyPrimaryKey => swapStatsHourlyKey
  | .insertDefaultGroup => fun _ => [insertDefaultGroup]
  | .markDefaultGroup => fun _ => [markDefaultGroup]
  | .upsertDefaultGroup => fun _ => [upsertDefaultGroup]
  | .groupProviders => fun _ => [groupProviders]
  | .groupApiKeys => fun _ => [groupApiKeys]
  | .providerModelAliases => migrateProviderModelAliases env.gaps
  | .modelPricesActive => ensureModelPricesActive
  | .priceSyncControl => fun _ => [insertPriceSyncControl]
  | .upstreamConfig => fun _ => [migrateUpstreamConfig env]

def modelPricesWithoutProviderFk : Rebuild where
  table := .modelPrices
  shape :=
    { columns := [.id, .providerId, .modelName, .priceDataJson, .createdAtMs, .updatedAtMs]
      primaryKey := [.id]
      references := [] }
  obsolete := []
  required := []
  keyed := []
  unreferenced := [.providerId]
  fill := fun _ => .null
  indexes := [.modelPricesModelCreated, .modelPricesProviderModelCreated]
  fresh := by decide

def statsDailyWithoutCost : Rebuild where
  table := .statsDaily
  shape := currentShape .statsDaily
  obsolete := [.costTotalUsd]
  required := []
  keyed := []
  unreferenced := []
  fill := fun _ => .null
  indexes := []
  fresh := by decide

def statsHourlyForPricing : Rebuild where
  table := .statsHourly
  shape := currentShape .statsHourly
  obsolete := [.costTotalUsd]
  required := [.priceVersionId, .priceTierIndex]
  keyed := [.priceVersionId, .priceTierIndex]
  unreferenced := []
  fill := fun column => if column = .priceVersionId then .integer 0 else .integer (-1)
  indexes := [.statsHourlyBucket, .statsHourlyModelBucket]
  fresh := by decide

def requestLogsForPricing : Rebuild where
  table := .requestLogs
  shape :=
    { columns := [
        .id, .timeMs, .apiKeyId, .providerId, .endpointId, .upstreamKeyId, .apiFormat, .model,
        .httpStatus, .errorType, .errorMessage, .inputTokens, .outputTokens,
        .cacheReadInputTokens, .cacheCreationInputTokens, .reasoningOutputTokens, .usageObserved,
        .priceVersionId, .priceTierIndex, .tStreamMs, .tFirstByteMs, .tFirstTokenMs, .durationMs,
        .spanKind, .transport, .parentId, .wsSessionId, .createdAtMs]
      primaryKey := [.id]
      references := [] }
  obsolete := [.costTotalUsd]
  required := [.priceVersionId, .priceTierIndex]
  keyed := []
  unreferenced := []
  fill := fun _ => .null
  indexes := [.requestLogsTime, .requestLogsApiKeyTime, .requestLogsParentTime]
  fresh := by decide

def statsEventsForPricing : Rebuild where
  table := .statsEvents
  shape := currentShape .statsEvents
  obsolete := [.costTotalUsd]
  required := [.priceVersionId, .priceTierIndex]
  keyed := []
  unreferenced := []
  fill := fun _ => .null
  indexes := [.statsEventsTime]
  fresh := by decide

/-! The parts of the scripts; those that both engines share differ in how they ask whether a
column is there. -/

inductive Engine
  | sqlite
  | postgres
  deriving DecidableEq

def sqliteOnly (engine : Engine) (steps : List Step) : List Step :=
  match engine with
  | .sqlite => steps
  | .postgres => []

def coreTables (engine : Engine) : List Step := [
  .createTable .apiKeys, .createIndex .apiKeysKeyHash, .createTable .upstreamProviders,
  .createTable .providerGroups, .createTable .providerGroupProviders,
  .createIndex .providerGroupProvidersProvider, .createTable .providerGroupApiKeys,
  .createIndex .providerGroupApiKeysApiKey, .createTable .upstreamEndpoints,
  .createIndex .upstreamEndpointsProvider, .createTable .upstreamKeys,
  .createIndex .upstreamKeysProvider, .createTable .providerModels] ++
  sqliteOnly engine [.createIndex .providerModelsProviderModel] ++ [
  .createIndex .providerModelsProvider, .createIndex .providerModelsAliasUnique,
  .createTable .upstreamKeyModels] ++
  sqliteOnly engine [.createIndex .upstreamKeyModelsKeyModel] ++ [
  .createIndex .upstreamKeyModelsKey,
  .createTable .gatewayModelPolicies, .createTable .modelRoutes,
  .createTable .modelRouteProviders, .createIndex .modelRouteProvidersRoute,
  .createTable .modelAliases, .createTable .modelAliasTargets,
  .createIndex .modelAliasTargetsAlias, .createIndex .modelAliasTargetsProvider,
  .createTable .modelPrices, .createIndex .modelPricesModelCreated,
  .createIndex .modelPricesProviderModelCreated, .createTable .statsDaily,
  .createTable .statsHourly, .createIndex .statsHourlyBucket,
  .createIndex .statsHourlyModelBucket, .createTable .runtimeSettings,
  .createTable .consolePreferences, .createTable .requestLogs, .createIndex .requestLogsTime,
  .createIndex .requestLogsApiKeyTime, .createTable .statsEvents, .createIndex .statsEventsTime]

def tokenUsageColumns : List Step := [
  .addColumn .requestLogs .reasoningOutputTokens (.integer 0),
  .addColumn .requestLogs .usageObserved (.flag false),
  .addColumn .statsDaily .reasoningOutputTokens (.integer 0),
  .addColumn .statsDaily .usageObservedRequests (.integer 0)]

def upstreamProviderColumns : List Step := [
  .addColumn .upstreamProviders .websocketEnabled (.flag false),
  .addColumn .upstreamProviders .betaFeatures (.text "[]"),
  .addColumn .upstreamProviders .requestOverridesJson (.text "\x7b\"headers\":[],\"body\":[]\x7d"),
  .addColumn .upstreamProviders .keySelectionStrategy (.text "round_robin"),
  .addColumn .upstreamProviders .maxAttempts (.integer 2),
  .addColumn .upstreamProviders .maxConcurrency .null,
  .addColumn .upstreamProviders .circuitBreakerEnabled (.flag true),
  .addColumn .upstreamProviders .circuitBreakerFailureThreshold (.integer 3),
  .addColumn .upstreamProviders .circuitBreakerOpenMs (.integer 30000),
  .addColumn .upstreamProviders .circuitBreakerHalfOpenSuccessThreshold (.integer 2)]

def defaultProviderGroup : Engine → List Step
  | .sqlite => [.insertDefaultGroup, .markDefaultGroup, .groupProviders, .groupApiKeys]
  | .postgres => [.upsertDefaultGroup, .groupProviders, .groupApiKeys]

def requestLogSpanColumns : List Step := [
  .addColumn .requestLogs .spanKind (.text "request"),
  .addColumn .requestLogs .transport (.text "http"), .addColumn .requestLogs .parentId .null,
  .addColumn .requestLogs .wsSessionId .null, .addColumn .requestLogs .routingTraceJson .null,
  .createIndex .requestLogsParentTime]

def responsesViaChatColumns : List Step := [
  .addColumn .providerModels .available (.flag true),
  .addColumn .providerModels .responsesViaChatEnabled (.flag false),
  .addColumn .requestLogs .upstreamApiFormat .null]

def codexOauth : List Step := [
  .createTable .codexOauthAccounts, .createIndex .codexOauthAccountsProvider,
  .createIndex .codexOauthAccountsRefreshLease]

def modelPricesProviderScope : List Step := [
  .addColumn .modelPrices .providerId .null, .createIndex .modelPricesProviderModelCreated]

def modelPricesActive : List Step := [
  .modelPricesActive, .createIndex .modelPricesActiveScope,
  .createIndex .modelPricesOneActiveScope]

def notification : List Step := [
  .createTable .notificationChannels, .createTable .notificationRules,
  .createIndex .notificationRulesDue, .createTable .notificationRuleChannels,
  .createIndex .notificationRuleChannelsChannel, .createTable .notificationAlertStates,
  .createTable .notificationRuns, .createIndex .notificationRunsUniqueRuleEvent,
  .createIndex .notificationRunsCreated, .createTable .notificationDeliveries,
  .createIndex .notificationDeliveriesDue, .createIndex .notificationDeliveriesCreated,
  .createIndex .statsEventsProviderTime, .createIndex .statsEventsApiKeyTime,
  .addColumn .notificationDeliveries .lastHttpStatus .null,
  .addColumn .notificationDeliveries .lastRequestBody .null,
  .addColumn .notificationDeliveries .lastResponseBody .null]

def requestLogTraceColumns : List Step := [
  .addColumn .requestLogs .ttftSource .null,
  .addColumn .requestLogs .requestedReasoningEffort .null,
  .addColumn .requestLogs .upstreamReasoningEffort .null,
  .addColumn .requestLogs .requestedServiceTier .null,
  .addColumn .requestLogs .upstreamServiceTier .null,
  .addColumn .requestLogs .serviceTier .null]

def sqliteBeforeLogs : List Step :=
  coreTables .sqlite ++ tokenUsageColumns ++ upstreamProviderColumns ++
    defaultProviderGroup .sqlite ++ requestLogSpanColumns ++ responsesViaChatColumns ++
    codexOauth ++ modelPricesProviderScope ++ [.providerModelAliases] ++ [
    .addColumn .statsEvents .reasoningOutputTokens (.integer 0),
    .addColumn .statsEvents .usageObserved (.flag false),
    .addColumn .statsHourly .reasoningOutputTokens (.integer 0),
    .addColumn .statsHourly .usageObservedRequests (.integer 0),
    .rebuild modelPricesWithoutProviderFk, .rebuild statsDailyWithoutCost,
    .rebuild statsHourlyForPricing]

def sqliteAfterLogs : List Step :=
  [.rebuild statsEventsForPricing] ++ modelPricesActive ++ responsesViaChatColumns ++
    notification ++ requestLogTraceColumns

def migrateSqlite : List Step :=
  sqliteBeforeLogs ++ .rebuild requestLogsForPricing :: sqliteAfterLogs

def postgresPricingStorage : List Step := [
  .dropReference .modelPrices .providerId,
  .addColumn .requestLogs .priceVersionId .null, .addColumn .requestLogs .priceTierIndex .null,
  .dropColumn .requestLogs .costInUsd, .dropColumn .requestLogs .costOutUsd,
  .dropColumn .requestLogs .costTotalUsd, .addColumn .statsEvents .priceVersionId .null,
  .addColumn .statsEvents .priceTierIndex .null, .dropColumn .statsEvents .costTotalUsd,
  .dropColumn .statsDaily .costInUsd, .dropColumn .statsDaily .costOutUsd,
  .dropColumn .statsDaily .costTotalUsd,
  .addColumn .statsHourly .priceVersionId (.integer 0),
  .addColumn .statsHourly .priceTierIndex (.integer (-1)),
  .dropColumn .statsHourly .costInUsd, .dropColumn .statsHourly .costOutUsd,
  .dropColumn .statsHourly .costTotalUsd,
  .statsHourlyPrimaryKey]

def migratePostgres : List Step :=
  coreTables .postgres ++ tokenUsageColumns ++ upstreamProviderColumns ++
    defaultProviderGroup .postgres ++ requestLogSpanColumns ++ responsesViaChatColumns ++
    codexOauth ++ modelPricesProviderScope ++ [.providerModelAliases] ++
    postgresPricingStorage ++ modelPricesActive ++ notification ++ requestLogTraceColumns

def priceSync : List Step := [
  .addColumn .modelPrices .source (.text "manual"),
  .addColumn .modelPrices .sourceVersion .null, .createTable .cloudModelCatalog,
  .createTable .priceSyncMissing, .createTable .priceSyncJobs, .createTable .priceSyncControl,
  .priceSyncControl]

def migrate : Engine → List Step
  | .sqlite => migrateSqlite ++ priceSync ++ [.upstreamConfig]
  | .postgres => migratePostgres ++ priceSync ++ [.upstreamConfig]

end CodexGate.Migration
