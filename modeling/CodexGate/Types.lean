import CodexGate.Foundation.Machine

namespace CodexGate

open Foundation

structure UpstreamProvider where
  id : Int
  providerType : String
  enabled : Bool
  maxConcurrency : Option I32
  circuitBreakerEnabled : Bool
  circuitBreakerFailureThreshold : I32
  circuitBreakerOpenMs : Int
  circuitBreakerHalfOpenSuccessThreshold : I32
  deriving DecidableEq

structure UpstreamKey where
  id : Int
  providerId : Int
  enabled : Bool
  deriving DecidableEq

structure UpstreamEndpoint where
  id : Int
  providerId : Int
  enabled : Bool
  deriving DecidableEq

structure ModelRoute where
  modelName : String
  enabled : Bool
  providerIds : List Int

structure ModelAlias where
  id : Int
  name : String
  enabled : Bool
  mode : String

structure ModelAliasTarget where
  id : Int
  aliasId : Int
  providerId : Int
  upstreamModel : String
  enabled : Bool
  priority : I32
  weight : I32

structure Usage where
  inputTokens : Int
  outputTokens : Int
  cacheReadInputTokens : Int
  cacheCreationInputTokens : Int
  reasoningOutputTokens : Int
  deriving DecidableEq

inductive ApiFormat
  | chatCompletions
  | responses
  deriving DecidableEq

end CodexGate
