import CodexGate.Foundation.Json
import CodexGate.Foundation.Text

namespace CodexGate.Settings

open Foundation

inductive EndpointSelectorStrategy
  | weighted
  | latency
  deriving DecidableEq

def EndpointSelectorStrategy.parse (raw : String) : Option EndpointSelectorStrategy :=
  let name := toAsciiLowercase (trim raw)
  if name ∈ ["weighted", "weight", "random"] then some .weighted
  else if name ∈ ["latency", "lowest_latency", "least_latency"] then some .latency
  else none

structure SyncConfig where
  enabled : Bool
  sourceUrl : String
  intervalMinutes : Nat
  deriving DecidableEq

def defaultSource : String :=
  "https://raw.githubusercontent.com/BerriAI/litellm/main/model_prices_and_context_window.json"

def SyncConfig.default : SyncConfig := ⟨true, defaultSource, 30⟩

/-- The parts of a `url::Url` that are read. -/
structure Url where
  scheme : String
  hostStr : Option String
  username : String
  password : Option String

/-- What the crates answer that read the configuration of the price synchronisation: a URL, and the
text of an error of `serde_json`. -/
structure Crates where
  parseUrl : String → Except String Url
  describe : Json → String

def asBool : Json → Option Bool
  | .bool value => some value
  | _ => none

def asU32 (value : Json) : Option Nat := value.asU64.filter fun n => n ≤ u32Max

namespace SyncConfig

def fieldOr {α : Type} (read : Json → Option α) (default : α) : Option Json → Option α
  | some value => read value
  | none => some default

def fromValue : Json → Option SyncConfig
  | .object members =>
    if members.all fun member => member.1 ∈ ["enabled", "source_url", "interval_minutes"] then do
      let enabled ← fieldOr asBool default.enabled (members.lookup "enabled")
      let sourceUrl ← fieldOr Json.asStr default.sourceUrl (members.lookup "source_url")
      let intervalMinutes ← fieldOr asU32 default.intervalMinutes (members.lookup "interval_minutes")
      some ⟨enabled, sourceUrl, intervalMinutes⟩
    else none
  | .array items =>
    if items.length ≤ 3 then do
      let enabled ← fieldOr asBool default.enabled items[0]?
      let sourceUrl ← fieldOr Json.asStr default.sourceUrl items[1]?
      let intervalMinutes ← fieldOr asU32 default.intervalMinutes items[2]?
      some ⟨enabled, sourceUrl, intervalMinutes⟩
    else none
  | _ => none

def validate (crates : Crates) (config : SyncConfig) : Except String Unit := do
  let url ← crates.parseUrl config.sourceUrl
  if url.scheme ∉ ["http", "https"] ∨ url.hostStr.isNone ∨ url.username ≠ "" ∨ url.password.isSome then
    throw "source_url must be an HTTP(S) URL without credentials"
  if ¬(5 ≤ config.intervalMinutes ∧ config.intervalMinutes ≤ 10080) then
    throw "interval_minutes must be between 5 and 10080"

end SyncConfig

structure Config where
  priceSync : SyncConfig
  injectIncludeUsage : Bool
  endpointSelectorStrategy : EndpointSelectorStrategy
  usageCaptureBytes : Nat
  usageCaptureTailBytes : Nat
  requestLogRetentionDays : Nat
  statsDailyRetentionDays : Nat

structure RuntimeSettingsSnapshot where
  priceSync : SyncConfig
  injectIncludeUsage : Bool
  encryptedContentRecovery : Bool
  endpointSelectorStrategy : EndpointSelectorStrategy
  usageCaptureBytes : Nat
  usageCaptureTailBytes : Nat
  requestLogRetentionDays : Nat
  statsDailyRetentionDays : Nat
  deriving DecidableEq

inductive SettingKey
  | encryptedContentRecovery
  | endpointSelectorStrategy
  | injectIncludeUsage
  | priceSync
  | requestLogRetentionDays
  | statsDailyRetentionDays
  | usageCaptureBytes
  | usageCaptureTailBytes
  deriving DecidableEq

namespace SettingKey

def name : SettingKey → String
  | encryptedContentRecovery => "encrypted_content_recovery"
  | endpointSelectorStrategy => "endpoint_selector_strategy"
  | injectIncludeUsage => "inject_include_usage"
  | priceSync => "price_sync"
  | requestLogRetentionDays => "request_log_retention_days"
  | statsDailyRetentionDays => "stats_daily_retention_days"
  | usageCaptureBytes => "usage_capture_bytes"
  | usageCaptureTailBytes => "usage_capture_tail_bytes"

def all : List SettingKey :=
  [encryptedContentRecovery, endpointSelectorStrategy, injectIncludeUsage, priceSync,
    requestLogRetentionDays, statsDailyRetentionDays, usageCaptureBytes, usageCaptureTailBytes]

example : (all.map name).Pairwise (· < ·) := by decide

end SettingKey

inductive RuntimeSettingSpec
  | editable (key : SettingKey)
  | requiresRestart

def specFor (key : String) : Option RuntimeSettingSpec :=
  if key ∈ ["db_max_connections", "max_request_bytes"] then some .requiresRestart
  else (SettingKey.all.find? fun setting => setting.name = key).map .editable

def orError {α : Type} (message : String) : Option α → Except String α
  | some value => .ok value
  | none => .error message

def jsonUsize (value : Json) (key : SettingKey) : Except String Nat :=
  orError (key.name ++ " must be a positive integer") value.asU64

def jsonU32 (value : Json) (key : SettingKey) : Except String Nat := do
  let raw ← orError (key.name ++ " must be a positive integer") value.asU64
  if raw ≤ u32Max then .ok raw else .error (key.name ++ " is too large")

namespace RuntimeSettingsSnapshot

def fromConfig (config : Config) : RuntimeSettingsSnapshot where
  priceSync := config.priceSync
  injectIncludeUsage := config.injectIncludeUsage
  encryptedContentRecovery := false
  endpointSelectorStrategy := config.endpointSelectorStrategy
  usageCaptureBytes := config.usageCaptureBytes
  usageCaptureTailBytes := config.usageCaptureTailBytes
  requestLogRetentionDays := config.requestLogRetentionDays
  statsDailyRetentionDays := config.statsDailyRetentionDays

def applyValue (crates : Crates) (snapshot : RuntimeSettingsSnapshot) (key : SettingKey)
    (value : Json) : Except String RuntimeSettingsSnapshot :=
  match key with
  | .encryptedContentRecovery => do
    let flag ← orError "encrypted_content_recovery must be boolean" (asBool value)
    .ok { snapshot with encryptedContentRecovery := flag }
  | .priceSync => do
    let config ← orError (crates.describe value) (SyncConfig.fromValue value)
    config.validate crates
    .ok { snapshot with priceSync := config }
  | .injectIncludeUsage => do
    let flag ← orError "inject_include_usage must be boolean" (asBool value)
    .ok { snapshot with injectIncludeUsage := flag }
  | .endpointSelectorStrategy => do
    let raw ← orError "endpoint_selector_strategy must be string" value.asStr
    let strategy ← orError "invalid endpoint_selector_strategy" (EndpointSelectorStrategy.parse raw)
    .ok { snapshot with endpointSelectorStrategy := strategy }
  | .usageCaptureBytes => do
    let bytes ← jsonUsize value key
    .ok { snapshot with
      usageCaptureBytes := max bytes 1
      usageCaptureTailBytes := min snapshot.usageCaptureTailBytes (max bytes 1) }
  | .usageCaptureTailBytes => do
    let bytes ← jsonUsize value key
    .ok { snapshot with usageCaptureTailBytes := min bytes snapshot.usageCaptureBytes }
  | .requestLogRetentionDays => do
    let days ← jsonU32 value key
    .ok { snapshot with requestLogRetentionDays := days }
  | .statsDailyRetentionDays => do
    let days ← jsonU32 value key
    .ok { snapshot with statsDailyRetentionDays := days }

end RuntimeSettingsSnapshot

/-- The rows of `runtime_settings`; `load` refuses a database with rows for other keys. -/
abbrev StoredSettings := SettingKey → Option Json

def applyRow (crates : Crates) (stored : StoredSettings) (snapshot : RuntimeSettingsSnapshot)
    (key : SettingKey) : Except String RuntimeSettingsSnapshot :=
  match stored key with
  | some value => snapshot.applyValue crates key value
  | none => .ok snapshot

def load (crates : Crates) (config : Config) (stored : StoredSettings) :
    Except String RuntimeSettingsSnapshot :=
  SettingKey.all.foldlM (applyRow crates stored) (.fromConfig config)

end CodexGate.Settings
