import CodexGate.Routing.Availability

namespace CodexGate.Routing

open Foundation Health Provider

section Circuits

variable {nowMs later : Int}

theorem circuit_opened_deadline (openUntilMs : Option Int) (nowMs : Int) :
    (if circuitKind openUntilMs nowMs = .opened then openUntilMs else none) =
      openUntilMs.filter (nowMs < ·) := by
  cases openUntilMs with
  | none => simp
  | some untilMs => by_cases ahead : nowMs < untilMs <;> simp [circuitKind, Option.filter, ahead]

theorem circuit_admits_iff (openUntilMs : Option Int) (free : Bool) (nowMs : Int) :
    (match circuitKind openUntilMs nowMs with
      | .closed => true
      | .opened => false
      | .halfOpen => free) = true ↔
      (openUntilMs.isSome = true → free = true) ∧ Passed openUntilMs nowMs := by
  cases openUntilMs with
  | none => simp [circuitKind]
  | some untilMs =>
    by_cases ahead : nowMs < untilMs
    · simp [circuitKind, ahead]
    · simp [circuitKind, ahead, Int.not_lt.mp ahead]

def ProbeFree (book : RuntimeHealthBook) (id : Int) : Prop :=
  ∀ state ∈ book.byId.lookup id, state.openUntilMs.isSome = true → state.probeOwner = none

instance (book : RuntimeHealthBook) (id : Int) : Decidable (ProbeFree book id) :=
  inferInstanceAs (Decidable (∀ state ∈ book.byId.lookup id, _))

theorem health_later_iff (book : RuntimeHealthBook) (id : Int) (order : nowMs ≤ later) :
    (book.snapshot id later).available = true ↔
      ProbeFree book id ∧ Passed (book.snapshot id nowMs).openUntilMs later := by
  unfold RuntimeHealthBook.snapshot ProbeFree
  cases book.byId.lookup id with
  | none => simp
  | some state =>
    have deadline : (state.toView nowMs).openUntilMs =
        state.openUntilMs.filter (nowMs < ·) := by
      rw [← circuit_opened_deadline]
      unfold RuntimeHealthState.toView RuntimeHealthState.stateKind
      cases circuitKind state.openUntilMs nowMs <;> rfl
    have admits := circuit_admits_iff state.openUntilMs state.probeOwner.isNone later
    rw [Option.isNone_iff_eq_none] at admits
    rw [deadline, passed_filter order]
    simp only [Option.mem_def, Option.some.injEq, forall_eq']
    exact admits

def Vacant (book : ProviderRuntimeBook) (provider : UpstreamProvider) : Prop :=
  ∀ state ∈ book.byProvider.lookup provider.id,
    provider.maxConcurrency.all (fun limit => state.inFlight < concurrencyLimit limit) = true ∧
      (provider.circuitBreakerEnabled = true → state.openUntilMs.isSome = true →
        state.probeOwner = none)

theorem provider_later_iff (book : ProviderRuntimeBook) (provider : UpstreamProvider)
    (order : nowMs ≤ later) :
    (book.snapshot provider later).available = true ↔
      provider.enabled = true ∧ Vacant book provider ∧
        Passed (book.snapshot provider nowMs).openUntilMs later := by
  unfold ProviderRuntimeBook.snapshot Vacant
  cases book.byProvider.lookup provider.id with
  | none => simp
  | some state =>
    simp only [ProviderRuntimeState.toView, ProviderRuntimeState.circuitState, Option.mem_def,
      Option.some.injEq, forall_eq', Bool.and_eq_true, and_assoc]
    by_cases breaker : provider.circuitBreakerEnabled = true
    · have admits := circuit_admits_iff state.openUntilMs state.probeOwner.isNone later
      rw [Option.isNone_iff_eq_none] at admits
      simp only [breaker, if_true, circuit_opened_deadline, passed_filter order, forall_const]
      exact and_congr_right fun _ => and_congr_right fun _ => admits
    · simp [breaker]

end Circuits

section Codex

variable {snap : UpstreamSnapshot} {key : UpstreamKey} {nowMs later : Int}

namespace CodexQuotaSnapshot

def resets (quota : CodexQuotaSnapshot) : List Int :=
  (quota.windows.filter (·.remainingPercent ≤ 0.0)).filterMap (·.resetAtMs)

theorem blockedUntilMs_eq (quota : CodexQuotaSnapshot) (nowMs : Int) :
    quota.blockedUntilMs nowMs = (quota.resets.filter (· > nowMs)).max? := by
  have fold : ∀ (moments : List Int) (first : Int),
      moments.foldl (fun current reset => some (current.elim reset (max · reset))) (some first) =
        some (moments.foldl max first) := by
    intro moments
    induction moments with
    | nil => intro first; rfl
    | cons moment moments ih => intro first; exact ih (max first moment)
  unfold blockedUntilMs resets
  dsimp only
  cases List.filter _ _ with
  | nil => rfl
  | cons first moments => exact (fold moments first).trans List.max?_cons'.symm

theorem blockedUntilMs_later_iff (quota : CodexQuotaSnapshot) (order : nowMs ≤ later) :
    (quota.blockedUntilMs later).isNone = true ↔ Passed (quota.blockedUntilMs nowMs) later := by
  rw [blockedUntilMs_eq, blockedUntilMs_eq, passed_max, Option.isNone_iff_eq_none,
    List.max?_eq_none_iff, List.filter_eq_nil_iff]
  constructor
  · intro past reset member
    have passed := past reset (List.mem_filter.mp member).1
    simpa using passed
  · intro past reset member ahead
    have ahead : later < reset := by simpa using ahead
    have passed := past reset (List.mem_filter.mpr ⟨member, by simpa using order.trans_lt ahead⟩)
    exact absurd passed (not_le.mpr ahead)

end CodexQuotaSnapshot

/-- What the stored quota of a key says, whatever the type of its provider. -/
def codexBlockedUntilMs (snap : UpstreamSnapshot) (key : UpstreamKey) (nowMs : Int) : Option Int :=
  ((snap.codexOauthByKey.lookup key.id).bind (·.quota)).bind (·.blockedUntilMs nowMs)

def CodexActive (snap : UpstreamSnapshot) (key : UpstreamKey) : Prop :=
  ∃ oauthAccount ∈ snap.codexOauthByKey.lookup key.id,
    oauthAccount.authStatus = authStatusActive ∧
      ∀ quota ∈ oauthAccount.quota, quota.isExhaustedWithoutReset = false

theorem codexRejection_later_iff (order : nowMs ≤ later) :
    codexRejection snap key later = none ↔
      CodexActive snap key ∧ Passed (codexBlockedUntilMs snap key nowMs) later := by
  unfold codexRejection codexBlockedUntilMs CodexActive
  cases snap.codexOauthByKey.lookup key.id with
  | none => simp
  | some oauthAccount =>
    by_cases active : oauthAccount.authStatus = authStatusActive
    · cases quota : oauthAccount.quota with
      | none => simp [active, quota, CodexOAuthRoutingAccount.isRoutable]
      | some window =>
        have passed := window.blockedUntilMs_later_iff order
        simp [active, quota, CodexOAuthRoutingAccount.isRoutable, ← passed, and_comm]
    · simp [active]

end Codex

section Accounts

variable {state : SharedState} {snap : UpstreamSnapshot} {provider : UpstreamProvider}
  {key : UpstreamKey} {model : Option String} {nowMs later : Int}

def enabledEndpoints (snap : UpstreamSnapshot) (provider : UpstreamProvider) :
    List UpstreamEndpoint :=
  ((snap.endpointsByProvider.lookup provider.id).getD []).filter (·.enabled)

def enabledKeys (snap : UpstreamSnapshot) (provider : UpstreamProvider) : List UpstreamKey :=
  ((snap.keysByProvider.lookup provider.id).getD []).filter (·.enabled)

theorem endpoint_available_iff :
    ((snap.endpointsByProvider.lookup provider.id).any fun endpoints =>
      endpoints.any fun endpoint => endpoint.enabled &&
        (state.endpointHealth.snapshot endpoint.id nowMs).available) = true ↔
      ∃ endpoint ∈ enabledEndpoints snap provider,
        (state.endpointHealth.snapshot endpoint.id nowMs).available = true := by
  unfold enabledEndpoints
  cases snap.endpointsByProvider.lookup provider.id with
  | none => simp
  | some endpoints => simp [List.mem_filter, and_assoc]

theorem account_available_iff : (account state snap provider key model false nowMs).1.available =
    true ↔ provider.enabled = true ∧ key.enabled = true ∧
      (provider.providerType = codexProviderType → codexRejection snap key nowMs = none) ∧
      (state.quota.isAvailable key.id nowMs).1 = true ∧
      accountModelAvailable snap provider key model = true ∧
      (state.providerRuntime.snapshot provider nowMs).available = true ∧
      (state.upstreamKeyHealth.snapshot key.id nowMs).available = true ∧
      ∃ endpoint ∈ enabledEndpoints snap provider,
        (state.endpointHealth.snapshot endpoint.id nowMs).available = true := by
  rw [← endpoint_available_iff]
  unfold account
  by_cases providerEnabled : provider.enabled = true
  case neg => simp [providerEnabled, RoutingAvailability.unavailable]
  by_cases keyEnabled : key.enabled = true
  case neg => simp [providerEnabled, keyEnabled, RoutingAvailability.unavailable]
  simp only [providerEnabled, keyEnabled, Bool.not_true, Bool.false_eq_true, if_false, true_and]
  split
  · rename_i reason rejected
    split at rejected
    · rename_i codex
      simp [codex, rejected, RoutingAvailability.unavailable]
    · cases rejected
  rename_i accepted
  have codex : provider.providerType = codexProviderType → codexRejection snap key nowMs = none := by
    intro codex
    simpa [codex] using accepted
  have opened : (state.providerRuntime.snapshot provider nowMs).available = true →
      (state.providerRuntime.snapshot provider nowMs).state ≠ .opened := snapshot_available_not_open
  have refused : ∀ reason, (RoutingAvailability.unavailable reason).available = false :=
    fun _ => rfl
  have admitted : RoutingAvailability.isAvailable.available = true := rfl
  grind

structure Steady (state : SharedState) (snap : UpstreamSnapshot) (provider : UpstreamProvider)
    (key : UpstreamKey) (model : Option String) : Prop where
  providerEnabled : provider.enabled = true
  vacant : Vacant state.providerRuntime provider
  active : provider.providerType = codexProviderType → CodexActive snap key
  modelAvailable : accountModelAvailable snap provider key model = true
  probeFree : ProbeFree state.upstreamKeyHealth key.id

/-- The deadlines of a key that lift a refusal by themselves, its Codex quota apart. -/
def timedBlocks (state : SharedState) (provider : UpstreamProvider) (key : UpstreamKey)
    (nowMs : Int) : List (Option Int) :=
  let quota := (state.quota.snapshot key.id nowMs).1
  [(state.providerRuntime.snapshot provider nowMs).openUntilMs,
    (state.upstreamKeyHealth.snapshot key.id nowMs).openUntilMs,
    quota.cooldownUntilMs, quota.blockedUntilMs]

theorem account_later_iff (order : nowMs ≤ later) :
    (account state snap provider key model false later).1.available = true ↔
      key.enabled = true ∧ Steady state snap provider key model ∧
        (∀ deadline ∈ timedBlocks state provider key nowMs, Passed deadline later) ∧
        (provider.providerType = codexProviderType →
          Passed (codexBlockedUntilMs snap key nowMs) later) ∧
        ∃ endpoint ∈ enabledEndpoints snap provider, ProbeFree state.endpointHealth endpoint.id ∧
          Passed (state.endpointHealth.snapshot endpoint.id nowMs).openUntilMs later := by
  rw [account_available_iff]
  simp only [health_later_iff _ _ order, provider_later_iff _ _ order,
    codexRejection_later_iff order, QuotaBook.isAvailable_later_iff _ _ order]
  constructor
  · rintro ⟨enabled, keyEnabled, codex, ⟨cooldown, blocked⟩, allowed, ⟨_, vacant, opened⟩,
      ⟨probeFree, health⟩, endpoint⟩
    refine ⟨keyEnabled, ⟨enabled, vacant, fun is => (codex is).1, allowed, probeFree⟩, ?_,
      fun is => (codex is).2, endpoint⟩
    simp [timedBlocks, cooldown, blocked, opened, health]
  · rintro ⟨keyEnabled, steady, blocks, codex, endpoint⟩
    simp only [timedBlocks, List.forall_mem_cons] at blocks
    obtain ⟨opened, health, cooldown, blocked, -⟩ := blocks
    exact ⟨steady.providerEnabled, keyEnabled, fun is => ⟨steady.active is, codex is⟩,
      ⟨cooldown, blocked⟩, steady.modelAvailable,
      ⟨steady.providerEnabled, steady.vacant, opened⟩, ⟨steady.probeFree, health⟩, endpoint⟩

theorem account_lasts {time later : Int}
    (available : (account state snap provider key model false time).1.available = true)
    (order : time ≤ later) :
    (account state snap provider key model false later).1.available = true := by
  obtain ⟨enabled, steady, blocks, codex, endpoint, member, free, passed⟩ :=
    (account_later_iff (le_refl time)).mp available
  exact (account_later_iff order).mpr ⟨enabled, steady,
    fun deadline member => (blocks deadline member).mono order, fun is => (codex is).mono order,
    endpoint, member, free, passed.mono order⟩

end Accounts

end CodexGate.Routing
