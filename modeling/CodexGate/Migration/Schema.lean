import Mathlib.Data.List.Basic
import Mathlib.Logic.Function.Basic

namespace CodexGate.Migration

inductive TableName
  | apiKeys | upstreamProviders | providerGroups | providerGroupProviders | providerGroupApiKeys
  | upstreamEndpoints | upstreamKeys | providerModels | upstreamKeyModels | gatewayModelPolicies
  | modelRoutes | modelRouteProviders | modelAliases | modelAliasTargets | modelPrices
  | statsDaily | statsHourly | runtimeSettings | consolePreferences | requestLogs | statsEvents
  | codexOauthAccounts | notificationChannels | notificationRules | notificationRuleChannels
  | notificationAlertStates | notificationRuns | notificationDeliveries | cloudModelCatalog
  | priceSyncMissing | priceSyncJobs | priceSyncControl | upstreamMigrations | apiKeyAuthorization
  | apiKeyAllowedProviders | modelRoutePolicies | upstreamRequestOptions | upstreamSyncState
  deriving DecidableEq

/-- The last ones are those of older versions and those that are only ever added to a table. -/
inductive ColumnName
  | id | keyHash | name | enabled | expiresAtMs | logEnabled | createdAtMs | updatedAtMs
  | providerType | priority | weight | supportsIncludeUsage | websocketEnabled | betaFeatures
  | requestOverridesJson | keySelectionStrategy | maxAttempts | maxConcurrency
  | circuitBreakerEnabled | circuitBreakerFailureThreshold | circuitBreakerOpenMs
  | circuitBreakerHalfOpenSuccessThreshold | normalizedName | isDefault | groupId | providerId
  | priorityOverride | apiKeyId | baseUrl | secretEnc | upstreamModel | aliasName | available
  | responsesViaChatEnabled | upstreamKeyId | modelName | routeId | mode | aliasId | priceDataJson
  | active | date | requestSuccess | requestFailed | inputTokens | outputTokens
  | cacheReadInputTokens | cacheCreationInputTokens | reasoningOutputTokens
  | usageObservedRequests | waitTimeMs | bucketMs | endpointId | apiFormat | model
  | priceVersionId | priceTierIndex | latencyLt500ms | latencyLt1000ms | latencyLt2000ms
  | latencyLt5000ms | latencyLt15000ms | latencyGte15000ms | key | valueJson | timeMs
  | upstreamApiFormat | httpStatus | errorType | errorMessage | usageObserved | tStreamMs
  | tFirstByteMs | tFirstTokenMs | durationMs | spanKind | transport | parentId | wsSessionId
  | routingTraceJson | accountHash | credentialsEnc | planType | tokenExpiresAtMs
  | lastRefreshAtMs | authStatus | lastError | quotaJson | quotaCheckedAtMs | refreshLeaseOwner
  | refreshLeaseUntilMs | kind | configEnc | configJson | nextRunAtMs | lastWindowEndMs
  | leaseOwner | leaseUntilMs | ruleId | channelId | state | breachCount | recoveryCount
  | openedAtMs | lastNotifiedAtMs | lastValueJson | ruleName | eventType | scheduledForMs
  | windowFromMs | windowToMs | payloadJson | status | completedAtMs | runId | channelName
  | channelKind | attempts | nextAttemptAtMs | lastAttemptAtMs | deliveredAtMs | lastErrorCode
  | lastErrorMessage | lastHttpStatus | lastRequestBody | lastResponseBody | dataJson
  | sourceVersion | present | owner | lastSuccessMs | lastAttemptMs | lastJobId | catalogVersion
  | catalogGeneration | version | reportJson | direct | timeoutMs | endpointFailover | error
  | costInUsd | costOutUsd | costTotalUsd | source | ttftSource | requestedReasoningEffort
  | upstreamReasoningEffort | requestedServiceTier | upstreamServiceTier | serviceTier
  deriving DecidableEq

instance : LawfulBEq (ColumnName × TableName) := inferInstance

inductive IndexName
  | apiKeysKeyHash | providerGroupProvidersProvider | providerGroupApiKeysApiKey
  | upstreamEndpointsProvider | upstreamKeysProvider | providerModelsProviderModel
  | providerModelsProvider | providerModelsAliasUnique | upstreamKeyModelsKeyModel
  | upstreamKeyModelsKey | modelRouteProvidersRoute | modelAliasTargetsAlias
  | modelAliasTargetsProvider | modelPricesModelCreated | modelPricesProviderModelCreated
  | statsHourlyBucket | statsHourlyModelBucket | requestLogsTime | requestLogsApiKeyTime
  | statsEventsTime | codexOauthAccountsProvider | codexOauthAccountsRefreshLease
  | notificationRulesDue | notificationRuleChannelsChannel | notificationRunsUniqueRuleEvent
  | notificationRunsCreated | notificationDeliveriesDue | notificationDeliveriesCreated
  | statsEventsProviderTime | statsEventsApiKeyTime | requestLogsParentTime
  | modelPricesActiveScope | modelPricesOneActiveScope
  deriving DecidableEq

def IndexName.table : IndexName → TableName
  | apiKeysKeyHash => .apiKeys
  | providerGroupProvidersProvider => .providerGroupProviders
  | providerGroupApiKeysApiKey => .providerGroupApiKeys
  | upstreamEndpointsProvider => .upstreamEndpoints
  | upstreamKeysProvider => .upstreamKeys
  | providerModelsProviderModel | providerModelsProvider | providerModelsAliasUnique =>
    .providerModels
  | upstreamKeyModelsKeyModel | upstreamKeyModelsKey => .upstreamKeyModels
  | modelRouteProvidersRoute => .modelRouteProviders
  | modelAliasTargetsAlias | modelAliasTargetsProvider => .modelAliasTargets
  | modelPricesModelCreated | modelPricesProviderModelCreated | modelPricesActiveScope
  | modelPricesOneActiveScope => .modelPrices
  | statsHourlyBucket | statsHourlyModelBucket => .statsHourly
  | requestLogsTime | requestLogsApiKeyTime | requestLogsParentTime => .requestLogs
  | statsEventsTime | statsEventsProviderTime | statsEventsApiKeyTime => .statsEvents
  | codexOauthAccountsProvider | codexOauthAccountsRefreshLease => .codexOauthAccounts
  | notificationRulesDue => .notificationRules
  | notificationRuleChannelsChannel => .notificationRuleChannels
  | notificationRunsUniqueRuleEvent | notificationRunsCreated => .notificationRuns
  | notificationDeliveriesDue | notificationDeliveriesCreated => .notificationDeliveries

inductive Value
  | null
  | flag (value : Bool)
  | integer (value : Int)
  | real (bits : UInt64)
  | text (value : String)
  deriving DecidableEq

instance : LawfulBEq (List Value) := inferInstance

/-- A column that the table does not have reads as `NULL`. -/
@[ext]
structure Row where
  get : ColumnName → Value

namespace Row

def of (entries : List (ColumnName × Value)) : Row where
  get column := (entries.lookup column).getD .null

def put (row : Row) (column : ColumnName) (value : Value) : Row where
  get := Function.update row.get column value

theorem get_put_self (row : Row) (column : ColumnName) (value : Value) :
    (row.put column value).get column = value := by
  show Function.update row.get column value column = value
  exact Function.update_self column value row.get

theorem get_put_of_ne (row : Row) {column other : ColumnName} (value : Value)
    (apart : other ≠ column) : (row.put column value).get other = row.get other := by
  show Function.update row.get column value other = row.get other
  exact Function.update_of_ne apart value row.get

theorem put_get (row : Row) {column : ColumnName} {value : Value} (same : row.get column = value) :
    row.put column value = row := by
  ext other
  rw [put, ← same, Function.update_eq_self]

end Row

structure Shape where
  columns : List ColumnName
  primaryKey : List ColumnName
  references : List (ColumnName × TableName)
  deriving DecidableEq

structure Table extends Shape where
  rows : List Row

/-- `sequences` are the last ids that the tables have given out. -/
structure Db where
  tables : TableName → Option Table
  indexes : IndexName → Bool
  sequences : TableName → Int

namespace Db

variable (db : Db)

def shape (name : TableName) : Option Shape := (db.tables name).map Table.toShape

def rows (name : TableName) : List Row := (db.tables name).elim [] Table.rows

def view (name : TableName) (columns : List ColumnName) : List (List Value) :=
  (db.rows name).map fun row => columns.map row.get

def columnExists (name : TableName) (column : ColumnName) : Bool :=
  (db.shape name).any fun shape => column ∈ shape.columns

def alter (name : TableName) (change : Table → Table) : Db :=
  { db with tables := Function.update db.tables name ((db.tables name).map change) }

def mapRows (name : TableName) (change : Row → Row) : Db :=
  db.alter name fun table => { table with rows := table.rows.map change }

def insert (name : TableName) (added : List Row) : Db :=
  db.alter name fun table => { table with rows := table.rows ++ added }

end Db

def currentShape : TableName → Shape
  | .apiKeys =>
    { columns := [
        .id, .keyHash, .name, .enabled, .expiresAtMs, .logEnabled, .createdAtMs, .updatedAtMs]
      primaryKey := [.id]
      references := [] }
  | .upstreamProviders =>
    { columns := [
        .id, .name, .providerType, .enabled, .priority, .weight, .supportsIncludeUsage,
        .websocketEnabled, .betaFeatures, .requestOverridesJson, .keySelectionStrategy,
        .maxAttempts, .maxConcurrency, .circuitBreakerEnabled, .circuitBreakerFailureThreshold,
        .circuitBreakerOpenMs, .circuitBreakerHalfOpenSuccessThreshold, .createdAtMs, .updatedAtMs]
      primaryKey := [.id]
      references := [] }
  | .providerGroups =>
    { columns := [.id, .name, .normalizedName, .isDefault, .createdAtMs, .updatedAtMs]
      primaryKey := [.id]
      references := [] }
  | .providerGroupProviders =>
    { columns := [.groupId, .providerId, .priorityOverride, .createdAtMs, .updatedAtMs]
      primaryKey := [.groupId, .providerId]
      references := [(.groupId, .providerGroups), (.providerId, .upstreamProviders)] }
  | .providerGroupApiKeys =>
    { columns := [.groupId, .apiKeyId, .createdAtMs]
      primaryKey := [.groupId, .apiKeyId]
      references := [(.groupId, .providerGroups), (.apiKeyId, .apiKeys)] }
  | .upstreamEndpoints =>
    { columns := [
        .id, .providerId, .name, .baseUrl, .enabled, .priority, .weight, .createdAtMs,
        .updatedAtMs]
      primaryKey := [.id]
      references := [(.providerId, .upstreamProviders)] }
  | .upstreamKeys =>
    { columns := [
        .id, .providerId, .name, .secretEnc, .enabled, .priority, .weight, .createdAtMs,
        .updatedAtMs]
      primaryKey := [.id]
      references := [(.providerId, .upstreamProviders)] }
  | .providerModels =>
    { columns := [
        .id, .providerId, .upstreamModel, .aliasName, .enabled, .available,
        .responsesViaChatEnabled, .createdAtMs, .updatedAtMs]
      primaryKey := [.id]
      references := [(.providerId, .upstreamProviders)] }
  | .upstreamKeyModels =>
    { columns := [.id, .upstreamKeyId, .modelName, .enabled, .createdAtMs, .updatedAtMs]
      primaryKey := [.id]
      references := [(.upstreamKeyId, .upstreamKeys)] }
  | .gatewayModelPolicies =>
    { columns := [.modelName, .enabled, .createdAtMs, .updatedAtMs]
      primaryKey := [.modelName]
      references := [] }
  | .modelRoutes =>
    { columns := [.id, .modelName, .enabled, .createdAtMs, .updatedAtMs]
      primaryKey := [.id]
      references := [] }
  | .modelRouteProviders =>
    { columns := [.routeId, .providerId]
      primaryKey := [.routeId, .providerId]
      references := [(.routeId, .modelRoutes), (.providerId, .upstreamProviders)] }
  | .modelAliases =>
    { columns := [.id, .name, .enabled, .mode, .createdAtMs, .updatedAtMs]
      primaryKey := [.id]
      references := [] }
  | .modelAliasTargets =>
    { columns := [
        .id, .aliasId, .providerId, .upstreamModel, .enabled, .priority, .weight, .createdAtMs,
        .updatedAtMs]
      primaryKey := [.id]
      references := [(.aliasId, .modelAliases), (.providerId, .upstreamProviders)] }
  | .modelPrices =>
    { columns := [
        .id, .providerId, .modelName, .priceDataJson, .active, .createdAtMs, .updatedAtMs]
      primaryKey := [.id]
      references := [] }
  | .statsDaily =>
    { columns := [
        .date, .apiKeyId, .requestSuccess, .requestFailed, .inputTokens, .outputTokens,
        .cacheReadInputTokens, .cacheCreationInputTokens, .reasoningOutputTokens,
        .usageObservedRequests, .waitTimeMs, .updatedAtMs]
      primaryKey := [.date, .apiKeyId]
      references := [] }
  | .statsHourly =>
    { columns := [
        .bucketMs, .apiKeyId, .providerId, .endpointId, .upstreamKeyId, .apiFormat, .model,
        .priceVersionId, .priceTierIndex, .requestSuccess, .requestFailed, .inputTokens,
        .outputTokens, .cacheReadInputTokens, .cacheCreationInputTokens, .reasoningOutputTokens,
        .usageObservedRequests, .waitTimeMs, .latencyLt500ms, .latencyLt1000ms, .latencyLt2000ms,
        .latencyLt5000ms, .latencyLt15000ms, .latencyGte15000ms, .updatedAtMs]
      primaryKey := [
        .bucketMs, .apiKeyId, .providerId, .endpointId, .upstreamKeyId, .apiFormat, .model,
        .priceVersionId, .priceTierIndex]
      references := [] }
  | .runtimeSettings =>
    { columns := [.key, .valueJson, .updatedAtMs]
      primaryKey := [.key]
      references := [] }
  | .consolePreferences =>
    { columns := [.key, .valueJson, .updatedAtMs]
      primaryKey := [.key]
      references := [] }
  | .requestLogs =>
    { columns := [
        .id, .timeMs, .apiKeyId, .providerId, .endpointId, .upstreamKeyId, .apiFormat,
        .upstreamApiFormat, .model, .httpStatus, .errorType, .errorMessage, .inputTokens,
        .outputTokens, .cacheReadInputTokens, .cacheCreationInputTokens, .reasoningOutputTokens,
        .usageObserved, .priceVersionId, .priceTierIndex, .tStreamMs, .tFirstByteMs,
        .tFirstTokenMs, .durationMs, .spanKind, .transport, .parentId, .wsSessionId,
        .routingTraceJson, .createdAtMs]
      primaryKey := [.id]
      references := [] }
  | .statsEvents =>
    { columns := [
        .id, .timeMs, .apiKeyId, .providerId, .endpointId, .upstreamKeyId, .apiFormat, .model,
        .httpStatus, .errorType, .inputTokens, .outputTokens, .cacheReadInputTokens,
        .cacheCreationInputTokens, .reasoningOutputTokens, .usageObserved, .priceVersionId,
        .priceTierIndex, .durationMs, .createdAtMs]
      primaryKey := [.id]
      references := [] }
  | .codexOauthAccounts =>
    { columns := [
        .upstreamKeyId, .providerId, .accountHash, .credentialsEnc, .planType, .tokenExpiresAtMs,
        .lastRefreshAtMs, .authStatus, .lastError, .quotaJson, .quotaCheckedAtMs,
        .refreshLeaseOwner, .refreshLeaseUntilMs, .createdAtMs, .updatedAtMs]
      primaryKey := [.upstreamKeyId]
      references := [(.upstreamKeyId, .upstreamKeys), (.providerId, .upstreamProviders)] }
  | .notificationChannels =>
    { columns := [.id, .name, .kind, .enabled, .configEnc, .createdAtMs, .updatedAtMs]
      primaryKey := [.id]
      references := [] }
  | .notificationRules =>
    { columns := [
        .id, .name, .kind, .enabled, .configJson, .nextRunAtMs, .lastWindowEndMs, .leaseOwner,
        .leaseUntilMs, .createdAtMs, .updatedAtMs]
      primaryKey := [.id]
      references := [] }
  | .notificationRuleChannels =>
    { columns := [.ruleId, .channelId, .createdAtMs]
      primaryKey := [.ruleId, .channelId]
      references := [(.ruleId, .notificationRules), (.channelId, .notificationChannels)] }
  | .notificationAlertStates =>
    { columns := [
        .ruleId, .state, .breachCount, .recoveryCount, .openedAtMs, .lastNotifiedAtMs,
        .lastValueJson, .updatedAtMs]
      primaryKey := [.ruleId]
      references := [(.ruleId, .notificationRules)] }
  | .notificationRuns =>
    { columns := [
        .id, .ruleId, .ruleName, .eventType, .scheduledForMs, .windowFromMs, .windowToMs,
        .payloadJson, .status, .createdAtMs, .completedAtMs]
      primaryKey := [.id]
      references := [(.ruleId, .notificationRules)] }
  | .notificationDeliveries =>
    { columns := [
        .id, .runId, .channelId, .channelName, .channelKind, .status, .attempts, .nextAttemptAtMs,
        .lastAttemptAtMs, .deliveredAtMs, .leaseOwner, .leaseUntilMs, .lastErrorCode,
        .lastErrorMessage, .lastHttpStatus, .lastRequestBody, .lastResponseBody, .createdAtMs,
        .updatedAtMs]
      primaryKey := [.id]
      references := [(.runId, .notificationRuns), (.channelId, .notificationChannels)] }
  | .cloudModelCatalog =>
    { columns := [.modelName, .dataJson, .sourceVersion, .present]
      primaryKey := [.modelName]
      references := [] }
  | .priceSyncMissing =>
    { columns := [.modelName, .sourceVersion]
      primaryKey := [.modelName]
      references := [] }
  | .priceSyncJobs =>
    { columns := [.id, .dataJson, .createdAtMs]
      primaryKey := [.id]
      references := [] }
  | .priceSyncControl =>
    { columns := [
        .id, .owner, .leaseUntilMs, .lastSuccessMs, .lastAttemptMs, .lastJobId, .catalogVersion,
        .catalogGeneration]
      primaryKey := [.id]
      references := [] }
  | .upstreamMigrations =>
    { columns := [.version, .reportJson]
      primaryKey := [.version]
      references := [] }
  | .apiKeyAuthorization =>
    { columns := [.apiKeyId, .direct]
      primaryKey := [.apiKeyId]
      references := [(.apiKeyId, .apiKeys)] }
  | .apiKeyAllowedProviders =>
    { columns := [.apiKeyId, .providerId]
      primaryKey := [.apiKeyId, .providerId]
      references := [(.apiKeyId, .apiKeys), (.providerId, .upstreamProviders)] }
  | .modelRoutePolicies =>
    { columns := [.modelName, .dataJson]
      primaryKey := [.modelName]
      references := [] }
  | .upstreamRequestOptions =>
    { columns := [.providerId, .timeoutMs, .endpointFailover]
      primaryKey := [.providerId]
      references := [(.providerId, .upstreamProviders)] }
  | .upstreamSyncState =>
    { columns := [.providerId, .lastAttemptMs, .lastSuccessMs, .error]
      primaryKey := [.providerId]
      references := [(.providerId, .upstreamProviders)] }

end CodexGate.Migration
