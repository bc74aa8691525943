import CodexGate.Provider.Model
import CodexGate.Provider.Quota

namespace CodexGate

open Health Provider

/-- The two counters of `Metrics` that an upstream attempt moves. -/
structure Metrics where
  providerBreakerOpenTotal : Nat
  providerBreakerProbeTotal : Nat

/-- The runtime books of `AppState` that routing and reservations share. -/
structure SharedState where
  endpointHealth : RuntimeHealthBook
  upstreamKeyHealth : RuntimeHealthBook
  providerRuntime : ProviderRuntimeBook
  quota : QuotaBook
  metrics : Metrics

def Metrics.recordProviderBreakerOpen (metrics : Metrics) : Metrics :=
  { metrics with providerBreakerOpenTotal := (metrics.providerBreakerOpenTotal + 1) % 2 ^ 64 }

def Metrics.recordProviderBreakerProbe (metrics : Metrics) : Metrics :=
  { metrics with providerBreakerProbeTotal := (metrics.providerBreakerProbeTotal + 1) % 2 ^ 64 }

end CodexGate
