import CodexGate.Admin.Model
import CodexGate.Foundation.Merges

namespace CodexGate.Admin

open Foundation Foundation.Merges Routing

/-! The handlers that patch a provider, an upstream key or an API key, with the two statements of
each edit apart: another request can write between them. -/

structure UpstreamKeyRow where
  providerId : Nat
  name : String
  secret : String
  enabled : Bool
  priority : I32
  weight : I32
  updatedAtMs : Int

structure PatchKeyReq where
  name : Option String
  secret : Option String
  enabled : Option Bool
  priority : Option I32
  weight : Option I32

/-- `create_api_key` and `update_api_key` trim the names that they store. -/
abbrev StoredApiKey := { row : ApiKeyRow // trim row.name = row.name }

/-- A row of `upstream_providers` with its row of `upstream_request_options`, if there is one. -/
structure StoredProvider (Overrides : Type) where
  row : ProviderRow Overrides
  options : Option (Option Nat × Bool)

structure Others (Overrides : Type) where
  store : AdminStore Overrides
  now : Int

inductive ProviderField
  | name
  | providerType
  | enabled
  | priority
  | weight
  | supportsIncludeUsage
  | websocketEnabled
  | betaFeatures
  | requestOverrides
  | keySelectionStrategy
  | maxAttempts
  | maxConcurrency
  | circuitBreakerEnabled
  | circuitBreakerFailureThreshold
  | circuitBreakerOpenMs
  | circuitBreakerHalfOpenSuccessThreshold
  | requestTimeoutMs
  | endpointFailover
  deriving DecidableEq

inductive KeyField
  | name
  | secret
  | enabled
  | priority
  | weight
  deriving DecidableEq

inductive ApiKeyField
  | name
  | enabled
  | expiresAtMs
  | logEnabled
  deriving DecidableEq

section Fields

variable (Overrides : Type)

def ProviderField.Value : ProviderField → Type
  | name | providerType | keySelectionStrategy => String
  | enabled | supportsIncludeUsage | websocketEnabled | circuitBreakerEnabled | endpointFailover => Bool
  | priority | weight => I32
  | betaFeatures => List String
  | requestOverrides => Overrides
  | maxAttempts | circuitBreakerFailureThreshold | circuitBreakerOpenMs
  | circuitBreakerHalfOpenSuccessThreshold => Int
  | maxConcurrency => Option Int
  | requestTimeoutMs => Option Nat

def KeyField.Value : KeyField → Type
  | name | secret => String
  | enabled => Bool
  | priority | weight => I32

def ApiKeyField.Value : ApiKeyField → Type
  | name => String
  | enabled | logEnabled => Bool
  | expiresAtMs => Option Int

def providerFields : Fields (StoredProvider Overrides) ProviderField where
  Value := ProviderField.Value Overrides
  get stored
    | .name => stored.row.name
    | .providerType => stored.row.providerType
    | .enabled => stored.row.enabled
    | .priority => stored.row.priority
    | .weight => stored.row.weight
    | .supportsIncludeUsage => stored.row.supportsIncludeUsage
    | .websocketEnabled => stored.row.websocketEnabled
    | .betaFeatures => stored.row.betaFeatures
    | .requestOverrides => stored.row.requestOverrides
    | .keySelectionStrategy => stored.row.keySelectionStrategy
    | .maxAttempts => stored.row.maxAttempts
    | .maxConcurrency => stored.row.maxConcurrency
    | .circuitBreakerEnabled => stored.row.circuitBreakerEnabled
    | .circuitBreakerFailureThreshold => stored.row.circuitBreakerFailureThreshold
    | .circuitBreakerOpenMs => stored.row.circuitBreakerOpenMs
    | .circuitBreakerHalfOpenSuccessThreshold => stored.row.circuitBreakerHalfOpenSuccessThreshold
    | .requestTimeoutMs => (stored.options.getD (none, true)).1
    | .endpointFailover => (stored.options.getD (none, true)).2

def keyFields : Fields UpstreamKeyRow KeyField where
  Value := KeyField.Value
  get row
    | .name => row.name
    | .secret => row.secret
    | .enabled => row.enabled
    | .priority => row.priority
    | .weight => row.weight

def apiKeyFields : Fields StoredApiKey ApiKeyField where
  Value := ApiKeyField.Value
  get row
    | .name => row.1.name
    | .enabled => row.1.enabled
    | .expiresAtMs => row.1.expiresAtMs
    | .logEnabled => row.1.logEnabled

end Fields

variable {Overrides : Type}

def PatchProviderReq.names (patch : PatchProviderReq Overrides) : (providerFields Overrides).Naming
  | .name => patch.name.map trim
  | .providerType => patch.providerType.map trim
  | .enabled => patch.enabled
  | .priority => patch.priority
  | .weight => patch.weight
  | .supportsIncludeUsage => patch.supportsIncludeUsage
  | .websocketEnabled => patch.websocketEnabled
  | .betaFeatures => patch.betaFeatures.map normalizeBetaFeatures
  | .requestOverrides => patch.requestOverrides
  | .keySelectionStrategy => patch.keySelectionStrategy.map trim
  | .maxAttempts => (patch.maxRetries.map (· + 1)).or patch.maxAttempts
  | .maxConcurrency => patch.maxConcurrency
  | .circuitBreakerEnabled => patch.circuitBreakerEnabled
  | .circuitBreakerFailureThreshold => patch.circuitBreakerFailureThreshold
  | .circuitBreakerOpenMs => patch.circuitBreakerOpenMs
  | .circuitBreakerHalfOpenSuccessThreshold => patch.circuitBreakerHalfOpenSuccessThreshold
  | .requestTimeoutMs => patch.requestTimeoutMs
  | .endpointFailover => patch.endpointFailover

def PatchKeyReq.names (patch : PatchKeyReq) : keyFields.Naming
  | .name => patch.name.map trim
  | .secret => patch.secret.map trim
  | .enabled => patch.enabled
  | .priority => patch.priority
  | .weight => patch.weight

def PatchApiKeyReq.names (patch : PatchApiKeyReq) : apiKeyFields.Naming
  | .name => patch.name.map trim
  | .enabled => patch.enabled
  | .expiresAtMs => patch.expiresAtMs
  | .logEnabled => patch.logEnabled

def Returns {α ε : Type} (P : α → Prop) (checked : Except ε α) : Prop := ∀ r, checked = .ok r → P r

section Returns

variable {α β ε : Type} {P : α → Prop}

theorem Returns.bind_of {Q : β → Prop} {check : Except ε β} {rest : β → Except ε α}
    (first : Returns Q check) (returns : ∀ b, Q b → Returns P (rest b)) :
    Returns P (check >>= rest) := by
  intro r returned
  cases checked : check with
  | error refusal =>
    rw [checked] at returned
    cases returned
  | ok b =>
    rw [checked] at returned
    exact returns b (first b checked) r returned

theorem Returns.bind {check : Except ε β} {rest : β → Except ε α}
    (returns : ∀ b, Returns P (rest b)) : Returns P (check >>= rest) :=
  Returns.bind_of (Q := fun _ => True) (fun _ _ => trivial) fun b _ => returns b

theorem Returns.pure {r : α} (holds : P r) : Returns P (pure r : Except ε α) := by
  rintro r' ⟨⟩
  exact holds

end Returns

def patchedKey (others : Others Overrides) (current : UpstreamKeyRow) (patch : PatchKeyReq) :
    Except Answer UpstreamKeyRow := do
  let codex := (others.store.providers.lookup current.providerId).any fun provider =>
    provider.providerType = codexProviderType
  refuseIf (codex ∧ patch.secret.isSome) 400
    "Codex OAuth credentials can only be updated by signing in again"
  refuseIf (patch.name.any fun name => trim name = "") 400 "name is empty"
  refuseIf (patch.secret.any fun secret => trim secret = "") 400 "secret is empty"
  pure { current with
    name := (patch.name.map trim).getD current.name
    secret := (patch.secret.map trim).getD current.secret
    enabled := patch.enabled.getD current.enabled
    priority := patch.priority.getD current.priority
    weight := patch.weight.getD current.weight
    updatedAtMs := others.now }

theorem patchedKey_row (others : Others Overrides) (current : UpstreamKeyRow) (patch : PatchKeyReq) :
    Returns (· = { current with
      name := (patch.name.map trim).getD current.name
      secret := (patch.secret.map trim).getD current.secret
      enabled := patch.enabled.getD current.enabled
      priority := patch.priority.getD current.priority
      weight := patch.weight.getD current.weight
      updatedAtMs := others.now }) (patchedKey others current patch) :=
  Returns.bind fun _ => Returns.bind fun _ => Returns.bind fun _ => Returns.pure rfl

def updateUpstreamKey (row stored : UpstreamKeyRow) : UpstreamKeyRow :=
  { row with providerId := stored.providerId }

def keyEdit (patch : PatchKeyReq) : Edit keyFields patch.names (Others Overrides) Answer where
  sets := [.name, .secret, .enabled, .priority, .weight]
  prepare others current := patchedKey others current patch
  save := updateUpstreamKey
  merges := by
    intro others copy row prepared stored field
    rw [patchedKey_row others copy patch row prepared]
    cases field <;> rfl

def updateKey (patch : PatchKeyReq) : Request patch.names (Others Overrides) DbStep Answer where
  first := keyEdit patch
  rest := []
  total := fun _ member => absurd member List.not_mem_nil
  covers := by
    intro field _
    refine ⟨_, List.mem_cons_self, ?_⟩
    cases field <;> simp [Part.sets, keyEdit]

def rowFields : List ProviderField :=
  [.name, .providerType, .enabled, .priority, .weight, .supportsIncludeUsage, .websocketEnabled,
    .betaFeatures, .requestOverrides, .keySelectionStrategy, .maxAttempts, .maxConcurrency,
    .circuitBreakerEnabled, .circuitBreakerFailureThreshold, .circuitBreakerOpenMs,
    .circuitBreakerHalfOpenSuccessThreshold]

section Provider

variable (validateOverrides : Overrides → Except String Unit)

theorem patchedProvider_row (current : ProviderRow Overrides) (patch : PatchProviderReq Overrides)
    (now : Int) (options : Option (Option Nat × Bool)) (stored : StoredProvider Overrides) :
    Returns (fun row => ∀ field, (providerFields Overrides).get { stored with row } field =
      if field ∈ rowFields then
        (patch.names field).getD ((providerFields Overrides).get { row := current, options } field)
      else (providerFields Overrides).get stored field)
      (patchedProvider validateOverrides current patch now) := by
  unfold patchedProvider
  refine Returns.bind fun _ => Returns.bind fun _ => Returns.bind fun _ => Returns.bind fun _ => ?_
  dsimp only
  split
  · exact Returns.bind fun _ => Returns.bind fun _ => Returns.pure fun field => by cases field <;> rfl
  · exact Returns.bind fun _ => Returns.pure fun field => by cases field <;> rfl
  · exact Returns.bind fun _ => Returns.pure fun field => by cases field <;> rfl

theorem checkedProvider_row {P : ProviderRow Overrides → Prop} {store : AdminStore Overrides}
    {id : Nat} {current : ProviderRow Overrides} (found : store.providers.lookup id = some current)
    {fails : DbStep → Bool} {modern : Bool} {patch : PatchProviderReq Overrides} {now : Int}
    (patched : Returns P (patchedProvider validateOverrides current patch now)) :
    Returns P (checkedProvider validateOverrides fails store id modern patch now) := by
  unfold checkedProvider
  refine Returns.bind fun _ => Returns.bind fun _ => Returns.bind fun _ => Returns.bind fun _ =>
    Returns.bind fun _ => ?_
  rw [found]
  refine Returns.bind_of patched fun row holds => Returns.bind fun _ => ?_
  split
  · exact Returns.pure holds
  · exact Returns.bind fun _ => Returns.bind fun _ => Returns.pure holds

def providerEdit (id : Nat) (modern : Bool) (patch : PatchProviderReq Overrides) :
    Edit (providerFields Overrides) patch.names (Others Overrides) Answer where
  sets := rowFields
  prepare others current := do
    let store := { others.store with
      providers := others.store.providers.insert id current.row }
    let row ← checkedProvider validateOverrides (fun _ => false) store id modern patch others.now
    pure { current with row }
  save prepared stored := { stored with row := prepared.row }
  merges := by
    intro others current prepared checked stored field
    have found := AList.lookup_insert (s := others.store.providers) (a := id) (b := current.row)
    have row := patchedProvider_row validateOverrides current.row patch others.now current.options
      stored
    refine Returns.bind_of (P := fun prepared => (providerFields Overrides).get
      { stored with row := prepared.row } field = _) (checkedProvider_row validateOverrides found row)
      (fun _ holds => Returns.pure (holds field)) prepared checked

/-- The edit of `upstream_request_options`, where a missing row stands for the defaults. -/
def optionsEdit (patch : PatchProviderReq Overrides) :
    Edit (providerFields Overrides) patch.names (Others Overrides) Answer where
  sets := [.requestTimeoutMs, .endpointFailover]
  prepare _ current :=
    let (timeout, failover) := current.options.getD (none, true)
    .ok { current with
      options := some (patch.requestTimeoutMs.getD timeout, patch.endpointFailover.getD failover) }
  save prepared stored := { stored with options := prepared.options }
  merges := by
    intro others copy row prepared stored field
    cases prepared
    cases field <;> rfl

def providerRest (patch : PatchProviderReq Overrides) :
    List (Part patch.names (Others Overrides) DbStep Answer) :=
  (if patch.groups.isSome then
      [.aside .replaceProviderGroupMemberships, .aside .refreshMemberships] else []) ++
    (if patch.priority.isSome || patch.weight.isSome then
      [.aside .updateDefaultRouteTarget, .aside .refreshRouteTarget] else []) ++
    if patch.requestTimeoutMs.isSome || patch.endpointFailover.isSome then
      [.edit (optionsEdit patch)] else []

theorem providerRest_cases {patch : PatchProviderReq Overrides}
    {part : Part patch.names (Others Overrides) DbStep Answer} (member : part ∈ providerRest patch) :
    (∃ statement, part = .aside statement) ∨ part = .edit (optionsEdit patch) := by
  rcases List.mem_append.mp member with member | member
  · rcases List.mem_append.mp member with member | member
    · split at member
      · rcases List.mem_pair.mp member with same | same
        · exact .inl ⟨_, same⟩
        · exact .inl ⟨_, same⟩
      · cases member
    · split at member
      · rcases List.mem_pair.mp member with same | same
        · exact .inl ⟨_, same⟩
        · exact .inl ⟨_, same⟩
      · cases member
  · split at member
    · exact .inr (List.mem_singleton.mp member)
    · cases member

theorem optionsEdit_mem {patch : PatchProviderReq Overrides}
    (named : patch.requestTimeoutMs.isSome ∨ patch.endpointFailover.isSome) :
    Part.edit (optionsEdit patch) ∈ providerRest patch := by
  have asked : (patch.requestTimeoutMs.isSome || patch.endpointFailover.isSome) = true := by
    simpa using named
  unfold providerRest
  rw [if_pos asked]
  exact List.mem_append_right _ List.mem_cons_self

def updateProvider (id : Nat) (modern : Bool) (patch : PatchProviderReq Overrides) :
    Request patch.names (Others Overrides) DbStep Answer where
  first := providerEdit validateOverrides id modern patch
  rest := providerRest patch
  total := by
    intro part member
    rcases providerRest_cases member with ⟨statement, rfl⟩ | rfl
    · trivial
    · intro others copy
      exact ⟨_, rfl⟩
  covers := by
    intro field named
    by_cases row : field ∈ rowFields
    · exact ⟨_, List.mem_cons_self, row⟩
    · refine ⟨.edit (optionsEdit patch), List.mem_cons_of_mem _ (optionsEdit_mem ?_), ?_⟩
      · cases field <;> first
          | exact absurd (by decide) row
          | exact .inl (Option.isSome_iff_ne_none.mpr named)
          | exact .inr (Option.isSome_iff_ne_none.mpr named)
      · cases field <;> first
          | exact absurd (by decide) row
          | simp [Part.sets, optionsEdit]

end Provider

theorem checkedApiKey_row {store : AdminStore Overrides} {id : Nat} {current : ApiKeyRow}
    (found : store.apiKeys.lookup id = some current) (fails : DbStep → Bool)
    (patch : PatchApiKeyReq) (now : Int) :
    Returns (· = {
      name := trim (patch.name.getD current.name)
      enabled := patch.enabled.getD current.enabled
      expiresAtMs := patch.expiresAtMs.getD current.expiresAtMs
      logEnabled := patch.logEnabled.getD current.logEnabled
      updatedAtMs := now }) (checkedApiKey fails store id patch now) := by
  unfold checkedApiKey
  rw [found]
  dsimp only
  -- Every branch makes the same row at its end.
  apply Returns.bind
  intro _
  repeat' first | exact Returns.pure rfl | refine Returns.bind fun _ => ?_ | split

def apiKeyEdit (id : Nat) (patch : PatchApiKeyReq) :
    Edit apiKeyFields patch.names (Others Overrides) Answer where
  sets := [.name, .enabled, .expiresAtMs, .logEnabled]
  prepare others current :=
    let store := { others.store with apiKeys := others.store.apiKeys.insert id current.1 }
    match checked : checkedApiKey (fun _ => false) store id patch others.now with
    | .error refusal => .error refusal
    | .ok row => .ok ⟨row, by
        rw [checkedApiKey_row (AList.lookup_insert _) _ patch others.now row checked]
        exact trim_trim _⟩
  save row _ := row
  merges := by
    intro others copy row prepared stored field
    dsimp only at prepared
    split at prepared
    · cases prepared
    next made checked =>
      have found := AList.lookup_insert (s := others.store.apiKeys) (a := id) (b := copy.1)
      have is := checkedApiKey_row found _ patch others.now made checked
      have name : made.name = (patch.name.map trim).getD copy.1.name := by
        rw [is]
        cases patch.name with
        | none => exact copy.2
        | some name => rfl
      cases prepared
      cases field with
      | name => exact name
      | enabled => exact congrArg ApiKeyRow.enabled is
      | expiresAtMs => exact congrArg ApiKeyRow.expiresAtMs is
      | logEnabled => exact congrArg ApiKeyRow.logEnabled is

def updateApiKey (id : Nat) (patch : PatchApiKeyReq) :
    Request patch.names (Others Overrides) DbStep Answer where
  first := apiKeyEdit id patch
  rest :=
    (if patch.providerGroupIds.isSome then
        [.aside .replaceApiKeyProviderGroups, .aside .refreshApiKeyGroups] else []) ++
      if patch.allowedProviderIds.isSome then [.aside .replaceAllowedProviders] else []
  total := by
    intro part member
    rcases List.mem_append.mp member with member | member
    · split at member
      · rcases List.mem_pair.mp member with rfl | rfl <;> trivial
      · cases member
    · split at member
      · rw [List.mem_singleton.mp member]
        trivial
      · cases member
  covers := by
    intro field _
    refine ⟨_, List.mem_cons_self, ?_⟩
    cases field <;> simp [Part.sets, apiKeyEdit]

inductive Resource
  | provider
  | key
  | apiKey

namespace Resource

variable (Overrides)

abbrev Stored : Resource → Type
  | provider => StoredProvider Overrides
  | key => UpstreamKeyRow
  | apiKey => StoredApiKey

/-- What a request says; one to a provider is also of the upstream API, or it is not. -/
abbrev Patch : Resource → Type
  | provider => Bool × PatchProviderReq Overrides
  | key => PatchKeyReq
  | apiKey => PatchApiKeyReq

abbrev Field : Resource → Type
  | provider => ProviderField
  | key => KeyField
  | apiKey => ApiKeyField

instance : (resource : Resource) → DecidableEq resource.Field
  | provider => inferInstanceAs (DecidableEq ProviderField)
  | key => inferInstanceAs (DecidableEq KeyField)
  | apiKey => inferInstanceAs (DecidableEq ApiKeyField)

abbrev fields : (resource : Resource) → Fields (resource.Stored Overrides) resource.Field
  | provider => providerFields Overrides
  | key => keyFields
  | apiKey => apiKeyFields

variable {Overrides}

abbrev names : (resource : Resource) → resource.Patch Overrides → (resource.fields Overrides).Naming
  | provider, patch => patch.2.names
  | key, patch => patch.names
  | apiKey, patch => patch.names

abbrev update (validateOverrides : Overrides → Except String Unit) (id : Nat) :
    (resource : Resource) → (patch : resource.Patch Overrides) →
      Request (resource.names patch) (Others Overrides) DbStep Answer
  | provider, patch => updateProvider validateOverrides id patch.1 patch.2
  | key, patch => updateKey patch
  | apiKey, patch => updateApiKey id patch

end Resource

/-- Requests to one row lose nothing where none writes back a field that it does not name and that
has changed since it read the row, and none fails once it has written. -/
theorem concurrentUpdates_merged {ι : Type} [DecidableEq ι]
    (validateOverrides : Overrides → Except String Unit) (id : Nat) (resource : Resource)
    (initial : resource.Stored Overrides) (patches : ι → resource.Patch Overrides)
    {history : List (Transition (Editing (fun i => resource.names (patches i)) (Others Overrides)
      DbStep Answer) (ι × Act (Others Overrides) Answer))}
    {state : Editing (fun i => resource.names (patches i)) (Others Overrides) DbStep Answer}
    (run : Editing.Run initial (fun i => resource.update validateOverrides id (patches i))
      history state)
    (heeds : ∀ taken ∈ history, Editing.Heeds taken)
    (ended : ∀ i, (state.requests i).Ended) : Editing.Merged initial state :=
  (run.accounted heeds).merged ended

section Overlap

def someKey : UpstreamKeyRow where
  providerId := 1
  name := "key"
  secret := "sk-old"
  enabled := true
  priority := i32 0
  weight := i32 1
  updatedAtMs := 0

def disableOrRename : Bool → PatchKeyReq
  | true => { name := none, secret := some "sk-new", enabled := some false, priority := none,
              weight := none }
  | false => { name := some "renamed", secret := none, enabled := none, priority := none,
               weight := none }

def nobodyElse : Others Unit where
  store :=
    { auth := { keys := ∅, groups := ∅, providers := ∅, keyGroups := ∅, providerGroups := ∅,
                recorded := ∅, direct := ∅, allowed := ∅ }
      providers := ∅, requestOptions := ∅, apiKeys := ∅, routes := ∅, policies := ∅ }
  now := 1

abbrev KeyEditing :=
  Editing (fun i => (disableOrRename i).names) (Others Unit) DbStep Answer

abbrev KeyRun : List (Transition KeyEditing (Bool × Act (Others Unit) Answer)) → KeyEditing → Prop :=
  Editing.Run someKey fun i => Resource.update (fun _ => .ok ()) 1 .key (disableOrRename i)

theorem run_disableOrRename : KeyRun [] (Editing.start someKey fun i => updateKey (disableOrRename i)) :=
  .start

theorem concurrentUpdates_merged_inTurn : ∃ history state, KeyRun history state ∧
    Editing.Merged someKey state ∧ state.stored.enabled = false ∧ state.stored.name = "renamed" := by
  have run := (((run_disableOrRename.act (true, .read) rfl).act (true, .write nobodyElse) rfl).act
    (false, .read) rfl).act (false, .write nobodyElse) rfl
  refine ⟨_, _, run, ?_, rfl, rfl⟩
  apply concurrentUpdates_merged (fun _ => .ok ()) 1 .key someKey disableOrRename run
  · refine List.forall_mem_cons.mpr ⟨?_, List.forall_mem_cons.mpr ⟨trivial,
      List.forall_mem_cons.mpr ⟨?_, List.forall_mem_cons.mpr ⟨trivial, by simp⟩⟩⟩⟩
    · intro row prepared field _ _
      cases field <;> rfl
    · intro row prepared field _ _
      cases field <;> rfl
  · intro i
    cases i <;> trivial

/-- Both requests read the key before either writes it, and the one that renames it writes last. -/
theorem concurrentUpdates_lost : ∃ history state, KeyRun history state ∧
    (∀ i, (state.requests i).Succeeded) ∧ ¬ Editing.Merged someKey state ∧
      state.stored.enabled = true ∧ state.stored.secret = "sk-old" := by
  have run := (((run_disableOrRename.act (false, .read) rfl).act (true, .read) rfl).act
    (true, .write nobodyElse) rfl).act (false, .write nobodyElse) rfl
  refine ⟨_, _, run, ?_, ?_, rfl, rfl⟩
  · intro i
    cases i <;> rfl
  · intro merged
    obtain ⟨i, _, gives⟩ := merged.named .enabled ⟨true, rfl, by decide⟩
    cases i <;> cases gives

end Overlap

end CodexGate.Admin
