import CodexGate.Routing.Recovery
import Mathlib.Algebra.Order.Ring.Int

namespace CodexGate.Routing

open Foundation Health Provider

def keyRetryAt (state : SharedState) (snap : UpstreamSnapshot) (runtime : ProviderRuntimeView)
    (endpointAt : Int) (key : UpstreamKey) (nowMs : Int) : Option Int × SharedState :=
  let health := state.upstreamKeyHealth.snapshot key.id nowMs
  let (quota, book) := state.quota.snapshot key.id nowMs
  (latest [runtime.openUntilMs, health.openUntilMs, quota.cooldownUntilMs, quota.blockedUntilMs,
      codexBlockedUntilMs snap key nowMs, some endpointAt],
    { state with quota := book })

def keysRetryAt (snap : UpstreamSnapshot) (runtime : ProviderRuntimeView) (endpointAt nowMs : Int) :
    SharedState → List UpstreamKey → List Int × SharedState
  | state, [] => ([], state)
  | state, key :: keys =>
    let (untilMs, state) := keyRetryAt state snap runtime endpointAt key nowMs
    let (moments, state) := keysRetryAt snap runtime endpointAt nowMs state keys
    (untilMs.toList ++ moments, state)

def providerRetryAt (state : SharedState) (snap : UpstreamSnapshot) (provider : UpstreamProvider)
    (model : Option String) (nowMs : Int) : Option Int × SharedState :=
  let runtime := state.providerRuntime.snapshot provider nowMs
  match snap.endpointsByProvider.lookup provider.id with
  | none => (none, state)
  | some endpoints =>
    match ((endpoints.filter (·.enabled)).map fun item =>
        (state.endpointHealth.snapshot item.id nowMs).openUntilMs.getD nowMs).min? with
    | none => (none, state)
    | some endpointAt =>
      match snap.keysByProvider.lookup provider.id with
      | none => (none, state)
      | some keys =>
        let (moments, state) := keysRetryAt snap runtime endpointAt nowMs state
          (keys.filter fun key => key.enabled && model.all (snap.keyAllowsModel key.id))
        (moments.min?.filter (nowMs < ·), state)

section Retry

variable {state : SharedState} {snap : UpstreamSnapshot} {provider : UpstreamProvider}
  {model : Option String} {nowMs : Int}

def Reread (nowMs : Int) (state after : SharedState) : Prop :=
  ∃ quota, state.quota.SameFrom nowMs quota ∧ after = { state with quota := quota }

theorem Reread.refl (nowMs : Int) (state : SharedState) : Reread nowMs state state :=
  ⟨state.quota, QuotaBook.SameFrom.refl nowMs state.quota, rfl⟩

theorem Reread.account {after : SharedState} (reread : Reread nowMs state after)
    {key : UpstreamKey} {later : Int} (order : nowMs ≤ later) :
    (account after snap provider key model false later).1.available = true ↔
      (account state snap provider key model false later).1.available = true := by
  obtain ⟨quota, same, rfl⟩ := reread
  rw [account_available_iff, account_available_iff, same.isAvailable key.id order]

def keyDeadlines (state : SharedState) (snap : UpstreamSnapshot) (provider : UpstreamProvider)
    (endpointAt : Int) (nowMs : Int) (key : UpstreamKey) : List (Option Int) :=
  timedBlocks state provider key nowMs ++ [codexBlockedUntilMs snap key nowMs, some endpointAt]

theorem keysRetryAt_eq (snap : UpstreamSnapshot) (provider : UpstreamProvider) (endpointAt : Int)
    (keys : List UpstreamKey) {current : SharedState} (reread : Reread nowMs state current) :
    (keysRetryAt snap (state.providerRuntime.snapshot provider nowMs) endpointAt nowMs current
        keys).1 =
      keys.filterMap (fun key => latest (keyDeadlines state snap provider endpointAt nowMs key)) ∧
      Reread nowMs state (keysRetryAt snap (state.providerRuntime.snapshot provider nowMs)
        endpointAt nowMs current keys).2 := by
  induction keys generalizing current with
  | nil => exact ⟨rfl, reread⟩
  | cons key keys ih =>
    obtain ⟨quota, same, rfl⟩ := reread
    have moved : Reread nowMs state { state with quota := (quota.snapshot key.id nowMs).2 } :=
      ⟨_, same.trans (quota.snapshot_sameFrom key.id nowMs), rfl⟩
    obtain ⟨moments, last⟩ := ih moved
    refine ⟨?_, last⟩
    simp only [keysRetryAt, keyRetryAt, same.snapshot key.id]
    rw [moments, List.filterMap_cons]
    change (latest (keyDeadlines state snap provider endpointAt nowMs key)).toList ++ _ = _
    cases latest (keyDeadlines state snap provider endpointAt nowMs key) <;> rfl

def consideredKeys (snap : UpstreamSnapshot) (provider : UpstreamProvider) (model : Option String) :
    List UpstreamKey :=
  ((snap.keysByProvider.lookup provider.id).getD []).filter fun key =>
    key.enabled && model.all (snap.keyAllowsModel key.id)

def endpointMoments (state : SharedState) (snap : UpstreamSnapshot) (provider : UpstreamProvider)
    (nowMs : Int) : List Int :=
  (enabledEndpoints snap provider).map fun item =>
    (state.endpointHealth.snapshot item.id nowMs).openUntilMs.getD nowMs

def retryMoments (state : SharedState) (snap : UpstreamSnapshot) (provider : UpstreamProvider)
    (model : Option String) (nowMs : Int) : List Int :=
  match (endpointMoments state snap provider nowMs).min? with
  | none => []
  | some endpointAt => (consideredKeys snap provider model).filterMap fun key =>
      latest (keyDeadlines state snap provider endpointAt nowMs key)

theorem providerRetryAt_eq : (providerRetryAt state snap provider model nowMs).1 =
      (retryMoments state snap provider model nowMs).min?.filter (nowMs < ·) ∧
    Reread nowMs state (providerRetryAt state snap provider model nowMs).2 := by
  unfold providerRetryAt retryMoments endpointMoments enabledEndpoints consideredKeys
  cases snap.endpointsByProvider.lookup provider.id with
  | none => exact ⟨rfl, Reread.refl nowMs state⟩
  | some endpoints =>
    simp only [Option.getD_some]
    split
    · exact ⟨rfl, Reread.refl nowMs state⟩
    rename_i endpointAt _
    cases snap.keysByProvider.lookup provider.id with
    | none => exact ⟨rfl, Reread.refl nowMs state⟩
    | some keys =>
      obtain ⟨moments, reread⟩ := keysRetryAt_eq snap provider endpointAt
        (keys.filter fun key => key.enabled && model.all (snap.keyAllowsModel key.id))
        (Reread.refl nowMs state)
      refine ⟨?_, reread⟩
      simp only [Option.getD_some]
      rw [moments]

def Lifted (state : SharedState) (snap : UpstreamSnapshot) (provider : UpstreamProvider)
    (nowMs : Int) (key : UpstreamKey) (endpoint : UpstreamEndpoint) (time : Int) : Prop :=
  (∀ deadline ∈ timedBlocks state provider key nowMs, Passed deadline time) ∧
    Passed (codexBlockedUntilMs snap key nowMs) time ∧
    Passed (state.endpointHealth.snapshot endpoint.id nowMs).openUntilMs time

theorem bounded_mem (endpointAt : Int) (key : UpstreamKey) :
    some endpointAt ∈ keyDeadlines state snap provider endpointAt nowMs key := by
  simp [keyDeadlines]

theorem endpointMoments_min_none
    (none : (endpointMoments state snap provider nowMs).min? = .none) :
    enabledEndpoints snap provider = [] := by
  rwa [List.min?_eq_none_iff, endpointMoments, List.map_eq_nil_iff] at none

theorem endpointAt_le_iff {endpointAt time : Int} (order : nowMs ≤ time)
    (found : (endpointMoments state snap provider nowMs).min? = some endpointAt) :
    endpointAt ≤ time ↔ ∃ endpoint ∈ enabledEndpoints snap provider,
      Passed (state.endpointHealth.snapshot endpoint.id nowMs).openUntilMs time := by
  have passed_iff : ∀ deadline : Option Int, deadline.getD nowMs ≤ time ↔ Passed deadline time := by
    intro deadline
    cases deadline with
    | none => simp [order]
    | some moment => simp
  obtain ⟨⟨first, member, reached⟩, least⟩ := isLeast_reached found
  constructor
  · intro before
    obtain ⟨endpoint, enabled, rfl⟩ := List.mem_map.mp member
    exact ⟨endpoint, enabled, (passed_iff _).mp (reached.trans before)⟩
  · rintro ⟨endpoint, enabled, passed⟩
    exact least ⟨_, List.mem_map.mpr ⟨endpoint, enabled, rfl⟩, (passed_iff _).mpr passed⟩

theorem retryMoments_eq_nil_iff : retryMoments state snap provider model nowMs = [] ↔
    consideredKeys snap provider model = [] ∨ enabledEndpoints snap provider = [] := by
  unfold retryMoments
  split
  · rename_i none
    simp [endpointMoments_min_none none]
  · rename_i endpointAt found
    have nonempty : enabledEndpoints snap provider ≠ [] := by
      intro empty
      simp [endpointMoments, empty] at found
    simp only [nonempty, or_false, List.filterMap_eq_nil_iff]
    refine ⟨fun all => List.eq_nil_iff_forall_not_mem.mpr fun key member => ?_, fun empty => ?_⟩
    · obtain ⟨last, isLast⟩ := latest_isSome (bounded_mem endpointAt key)
      rw [all key member] at isLast
      cases isLast
    · simp [empty]

theorem reached_iff {time : Int} (order : nowMs ≤ time) :
    (∃ moment ∈ retryMoments state snap provider model nowMs, moment ≤ time) ↔
      ∃ key ∈ consideredKeys snap provider model, ∃ endpoint ∈ enabledEndpoints snap provider,
        Lifted state snap provider nowMs key endpoint time := by
  unfold retryMoments
  split
  · rename_i none
    simp [endpointMoments_min_none none]
  · rename_i endpointAt found
    have moment_iff : ∀ key,
        (∃ moment ∈ latest (keyDeadlines state snap provider endpointAt nowMs key), moment ≤ time) ↔
          ∃ endpoint ∈ enabledEndpoints snap provider,
            Lifted state snap provider nowMs key endpoint time := by
      intro key
      rw [latest_reached_iff (bounded_mem endpointAt key), keyDeadlines, List.forall_mem_append,
        List.forall_mem_cons, List.forall_mem_singleton, passed_some, endpointAt_le_iff order found]
      constructor
      · rintro ⟨blocks, codex, endpoint, enabled, passed⟩
        exact ⟨endpoint, enabled, blocks, codex, passed⟩
      · rintro ⟨endpoint, enabled, blocks, codex, passed⟩
        exact ⟨blocks, codex, endpoint, enabled, passed⟩
    constructor
    · rintro ⟨moment, member, reached⟩
      obtain ⟨key, considered, isLast⟩ := List.mem_filterMap.mp member
      exact ⟨key, considered, (moment_iff key).mp ⟨moment, isLast, reached⟩⟩
    · rintro ⟨key, considered, lifted⟩
      obtain ⟨moment, isLast, reached⟩ := (moment_iff key).mpr lifted
      exact ⟨moment, List.mem_filterMap.mpr ⟨key, considered, isLast⟩, reached⟩

def AdmitsSome (state : SharedState) (snap : UpstreamSnapshot) (provider : UpstreamProvider)
    (model : Option String) (time : Int) : Prop :=
  ∃ key ∈ enabledKeys snap provider,
    (account state snap provider key model false time).1.available = true

/-- The least time after now at which some key is admitted if nothing happens before. -/
def RetryExact (state : SharedState) (snap : UpstreamSnapshot) (provider : UpstreamProvider)
    (model : Option String) (nowMs : Int) (answer : Option Int) : Prop :=
  FirstAfter nowMs (AdmitsSome state snap provider model) answer

theorem AdmitsSome.lasts {time later : Int} (admits : AdmitsSome state snap provider model time)
    (order : time ≤ later) : AdmitsSome state snap provider model later := by
  obtain ⟨key, member, available⟩ := admits
  exact ⟨key, member, account_lasts available order⟩

theorem Reread.admitsSome {after : SharedState} (reread : Reread nowMs state after) {later : Int}
    (order : nowMs ≤ later) : AdmitsSome after snap provider model later ↔
      AdmitsSome state snap provider model later :=
  exists_congr fun _ => and_congr_right fun _ => reread.account order

structure Waiting (state : SharedState) (snap : UpstreamSnapshot) (provider : UpstreamProvider)
    (model : Option String) (key : UpstreamKey) (endpoint : UpstreamEndpoint) : Prop where
  keyEnabled : key ∈ enabledKeys snap provider
  steady : Steady state snap provider key model
  endpointEnabled : endpoint ∈ enabledEndpoints snap provider
  endpointFree : ProbeFree state.endpointHealth endpoint.id

def Recovered (state : SharedState) (snap : UpstreamSnapshot) (provider : UpstreamProvider)
    (nowMs : Int) (key : UpstreamKey) (endpoint : UpstreamEndpoint) (time : Int) : Prop :=
  (∀ deadline ∈ timedBlocks state provider key nowMs, Passed deadline time) ∧
    (provider.providerType = codexProviderType → Passed (codexBlockedUntilMs snap key nowMs) time) ∧
    Passed (state.endpointHealth.snapshot endpoint.id nowMs).openUntilMs time

/-- When something waits: no key or endpoint that waits for more than time is free of deadlines
    before something that waits is, nor does a stored Codex quota hold back a key of another
    provider. When nothing waits: some key and endpoint have no deadline to be mistaken for one. -/
def DeadlinesTell (state : SharedState) (snap : UpstreamSnapshot) (provider : UpstreamProvider)
    (model : Option String) (nowMs : Int) : Prop :=
  (∃ key endpoint, Waiting state snap provider model key endpoint) ∧
      (∀ key ∈ consideredKeys snap provider model, ∀ endpoint ∈ enabledEndpoints snap provider,
        ¬Waiting state snap provider model key endpoint → ∀ time, nowMs ≤ time →
          Lifted state snap provider nowMs key endpoint time →
            ∃ key endpoint, Waiting state snap provider model key endpoint ∧
              Recovered state snap provider nowMs key endpoint time) ∧
      (provider.providerType ≠ codexProviderType → ∀ key endpoint,
        Waiting state snap provider model key endpoint → ∀ time, nowMs ≤ time →
          Recovered state snap provider nowMs key endpoint time →
            ∃ key ∈ consideredKeys snap provider model,
              ∃ endpoint ∈ enabledEndpoints snap provider,
                Lifted state snap provider nowMs key endpoint time) ∨
    (∀ key endpoint, ¬Waiting state snap provider model key endpoint) ∧
      ((consideredKeys snap provider model = [] ∨ enabledEndpoints snap provider = []) ∨
        ∃ key ∈ consideredKeys snap provider model, ∃ endpoint ∈ enabledEndpoints snap provider,
          Lifted state snap provider nowMs key endpoint nowMs)

theorem admitted_later_iff {time : Int} (order : nowMs ≤ time) :
    AdmitsSome state snap provider model time ↔
      ∃ key endpoint, Waiting state snap provider model key endpoint ∧
        Recovered state snap provider nowMs key endpoint time := by
  constructor
  · rintro ⟨key, member, available⟩
    obtain ⟨_, steady, blocks, codex, endpoint, enabled, free, passed⟩ :=
      (account_later_iff order).mp available
    exact ⟨key, endpoint, ⟨member, steady, enabled, free⟩, blocks, codex, passed⟩
  · rintro ⟨key, endpoint, waiting, blocks, codex, passed⟩
    have enabled : key.enabled = true := (List.mem_filter.mp waiting.keyEnabled).2
    exact ⟨key, waiting.keyEnabled, (account_later_iff order).mpr ⟨enabled, waiting.steady, blocks,
      codex, endpoint, waiting.endpointEnabled, waiting.endpointFree, passed⟩⟩

theorem waiting_recovers {key : UpstreamKey} {endpoint : UpstreamEndpoint} :
    ∃ time, nowMs < time ∧ Recovered state snap provider nowMs key endpoint time := by
  obtain ⟨time, later, passed⟩ := exists_passed nowMs
    (timedBlocks state provider key nowMs ++ [codexBlockedUntilMs snap key nowMs,
      (state.endpointHealth.snapshot endpoint.id nowMs).openUntilMs])
  rw [List.forall_mem_append, List.forall_mem_cons, List.forall_mem_singleton] at passed
  exact ⟨time, later, passed.1, fun _ => passed.2.1, passed.2.2⟩

theorem Waiting.considered {key : UpstreamKey} {endpoint : UpstreamEndpoint}
    (waiting : Waiting state snap provider model key endpoint) :
    key ∈ consideredKeys snap provider model := by
  obtain ⟨member, enabled⟩ := List.mem_filter.mp waiting.keyEnabled
  refine List.mem_filter.mpr ⟨member, ?_⟩
  rw [enabled, Bool.true_and]
  cases model with
  | none => rfl
  | some name =>
    have allowed := waiting.steady.modelAvailable
    simp only [accountModelAvailable, accountAllows, Bool.and_eq_true] at allowed
    exact allowed.1.1.1

theorem some_later_iff : (∃ time, nowMs < time ∧ AdmitsSome state snap provider model time) ↔
      ∃ key endpoint, Waiting state snap provider model key endpoint := by
  constructor
  · rintro ⟨time, later, admitted⟩
    obtain ⟨key, endpoint, waiting, _⟩ := (admitted_later_iff later.le).mp admitted
    exact ⟨key, endpoint, waiting⟩
  · rintro ⟨key, endpoint, waiting⟩
    obtain ⟨time, later, recovered⟩ := waiting_recovers
    exact ⟨time, later, (admitted_later_iff later.le).mpr ⟨key, endpoint, waiting, recovered⟩⟩

/-- The answer is exact just when the deadlines alone tell which key recovers first. -/
theorem providerRetryAt_exact_iff (state : SharedState) (snap : UpstreamSnapshot)
    (provider : UpstreamProvider) (model : Option String) (nowMs : Int)
    (refused : ∀ key ∈ enabledKeys snap provider,
      (account state snap provider key model false nowMs).1.available = false) :
    RetryExact (providerRetryAt state snap provider model nowMs).2 snap provider model nowMs
        (providerRetryAt state snap provider model nowMs).1 ↔
      DeadlinesTell state snap provider model nowMs := by
  obtain ⟨answer, reread⟩ := @providerRetryAt_eq state snap provider model nowMs
  have notYet : ¬AdmitsSome state snap provider model nowMs := by
    rintro ⟨key, member, available⟩
    rw [refused key member] at available
    cases available
  rw [answer, RetryExact, firstAfter_congr _ fun time later => reread.admitsSome later.le,
    firstAfter_min_iff AdmitsSome.lasts notYet, DeadlinesTell, some_later_iff,
    retryMoments_eq_nil_iff, reached_iff (le_refl nowMs)]
  refine or_congr (and_congr_right fun _ => ?_) (and_congr_left fun _ => ?_)
  · constructor
    · intro agree
      refine ⟨fun key considered endpoint enabled _ time order lifted => ?_,
        fun _ key endpoint waiting time order recovered => ?_⟩
      · exact (admitted_later_iff order).mp ((agree time order).mp
          ((reached_iff order).mpr ⟨key, considered, endpoint, enabled, lifted⟩))
      · exact (reached_iff order).mp ((agree time order).mpr
          ((admitted_later_iff order).mpr ⟨key, endpoint, waiting, recovered⟩))
    · rintro ⟨early, late⟩ time order
      rw [reached_iff order, admitted_later_iff order]
      constructor
      · rintro ⟨key, considered, endpoint, enabled, lifted⟩
        by_cases waiting : Waiting state snap provider model key endpoint
        · exact ⟨key, endpoint, waiting, lifted.1, fun _ => lifted.2.1, lifted.2.2⟩
        · exact early key considered endpoint enabled waiting time order lifted
      · rintro ⟨key, endpoint, waiting, recovered⟩
        by_cases codex : provider.providerType = codexProviderType
        · exact ⟨key, waiting.considered, endpoint, waiting.endpointEnabled, recovered.1,
            recovered.2.1 codex, recovered.2.2⟩
        · exact late codex key endpoint waiting time order recovered
  · simpa only [not_exists, not_and] using not_congr (@some_later_iff state snap provider model nowMs)

def pausedSnapshot (keys : List UpstreamKey) : UpstreamSnapshot :=
  { UpstreamSnapshot.empty with
    providers := [movedProvider]
    keysByProvider := (∅ : HashMap Int (List UpstreamKey)).insert 1 keys
    endpointsByProvider := (∅ : HashMap Int (List UpstreamEndpoint)).insert 1 [⟨5, 1, true⟩] }

/-- Key 7 has failed at 0 and is being probed since 40000; key 8 has failed at 45000. -/
def pausedState : SharedState :=
  { idleState with
    upstreamKeyHealth := (((RuntimeHealthBook.new 3 30000).finishFailure 7 ⟨1, none⟩ (some 500)
      none none 0).tryBeginAttempt 7 40000).2.finishFailure 8 ⟨1, none⟩ (some 500) none none 45000 }

theorem pausedKey_waits : Waiting pausedState (pausedSnapshot [⟨8, 1, true⟩]) movedProvider (some "m")
    ⟨8, 1, true⟩ ⟨5, 1, true⟩ where
  keyEnabled := List.mem_singleton.mpr rfl
  steady := {
    providerEnabled := rfl
    vacant := by
      intro state found
      cases found
    active := fun isCodex => absurd isCodex (by decide)
    modelAvailable := rfl
    probeFree := by decide }
  endpointEnabled := List.mem_singleton.mpr rfl
  endpointFree := by
    intro state found
    cases found

/-- The only key waits for the end of its cooldown, and the answer is that moment. -/
theorem providerRetryAt_exact_iff_alone :
    RetryExact (providerRetryAt pausedState (pausedSnapshot [⟨8, 1, true⟩]) movedProvider (some "m")
        50000).2 (pausedSnapshot [⟨8, 1, true⟩]) movedProvider (some "m") 50000
      (providerRetryAt pausedState (pausedSnapshot [⟨8, 1, true⟩]) movedProvider (some "m") 50000).1 := by
  refine (providerRetryAt_exact_iff _ _ _ _ _ ?_).mpr (Or.inl ⟨⟨_, _, pausedKey_waits⟩, ?_, ?_⟩)
  · intro key member
    cases List.mem_singleton.mp member
    rfl
  · intro key considered endpoint enabled blocked
    cases List.mem_singleton.mp considered
    cases List.mem_singleton.mp enabled
    exact absurd pausedKey_waits blocked
  · intro _ key endpoint waiting time _ recovered
    exact ⟨key, waiting.considered, endpoint, waiting.endpointEnabled, recovered.1, passed_none time,
      recovered.2.2⟩

/-- The key being probed hides the end of the cooldown of the other one. -/
theorem providerRetryAt_hides_recovery :
    (∀ key ∈ enabledKeys (pausedSnapshot [⟨7, 1, true⟩, ⟨8, 1, true⟩]) movedProvider,
      (account pausedState (pausedSnapshot [⟨7, 1, true⟩, ⟨8, 1, true⟩]) movedProvider key (some "m")
        false 50000).1.available = false) ∧
    (providerRetryAt pausedState (pausedSnapshot [⟨7, 1, true⟩, ⟨8, 1, true⟩]) movedProvider
      (some "m") 50000).1 = none ∧
    ¬RetryExact (providerRetryAt pausedState (pausedSnapshot [⟨7, 1, true⟩, ⟨8, 1, true⟩])
        movedProvider (some "m") 50000).2 (pausedSnapshot [⟨7, 1, true⟩, ⟨8, 1, true⟩]) movedProvider
      (some "m") 50000 (providerRetryAt pausedState
        (pausedSnapshot [⟨7, 1, true⟩, ⟨8, 1, true⟩]) movedProvider (some "m") 50000).1 := by
  have nothing : (providerRetryAt pausedState (pausedSnapshot [⟨7, 1, true⟩, ⟨8, 1, true⟩])
      movedProvider (some "m") 50000).1 = none := rfl
  refine ⟨?_, nothing, ?_⟩
  · intro key member
    rcases List.mem_cons.mp member with same | member
    · cases same
      rfl
    · cases List.mem_singleton.mp member
      rfl
  · intro told
    rw [nothing] at told
    exact told 75000 (by decide) ⟨⟨8, 1, true⟩, List.mem_cons_of_mem _ List.mem_cons_self, rfl⟩

end Retry

end CodexGate.Routing
