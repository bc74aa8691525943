import CodexGate.Foundation.Execution
import CodexGate.Settings.Runtime
import Mathlib.Logic.Function.Basic

namespace CodexGate.Settings

open Foundation

/-- A call of `update` that has taken its snapshot; its row is stored or still to be stored. -/
structure Update where
  key : SettingKey
  value : Json
  next : RuntimeSettingsSnapshot
  stored : Bool

structure RuntimeSettings (ι : Type) where
  stored : StoredSettings
  current : RuntimeSettingsSnapshot
  calls : ι → Option Update

inductive UpdateAction
  | begin (key : String) (value : Json)
  | store (fails : Bool)
  | publish

structure SettingsAction (ι : Type) where
  who : ι
  act : UpdateAction

namespace RuntimeSettings

variable {ι : Type} [DecidableEq ι] (crates : Crates) (settings : RuntimeSettings ι)

def setCall (who : ι) (call : Option Update) : RuntimeSettings ι :=
  { settings with calls := Function.update settings.calls who call }

def begin (who : ι) (key : String) (value : Json) : RuntimeSettings ι :=
  match specFor key with
  | some (.editable key) =>
    match settings.current.applyValue crates key value with
    | .ok next => settings.setCall who (some ⟨key, value, next, false⟩)
    | .error _ => settings
  | _ => settings

def upsertRuntimeSetting (key : SettingKey) (value : Json) : RuntimeSettings ι :=
  { settings with stored := Function.update settings.stored key (some value) }

def stepOf (who : ι) : Option Update → UpdateAction → Option (RuntimeSettings ι)
  | none, .begin key value => some (settings.begin crates who key value)
  | some ⟨key, value, next, false⟩, .store fails =>
    if fails then some (settings.setCall who none)
    else some ((settings.upsertRuntimeSetting key value).setCall who (some ⟨key, value, next, true⟩))
  | some ⟨_, _, next, true⟩, .publish => some { settings.setCall who none with current := next }
  | _, _ => none

def step (action : SettingsAction ι) : Option (RuntimeSettings ι) :=
  settings.stepOf crates action.who (settings.calls action.who) action.act

abbrev Run (start : RuntimeSettings ι) :=
  Execution (fun before action after => step crates before action = some after) start

abbrev Move (ι : Type) := Transition (RuntimeSettings ι) (SettingsAction ι)

def Quiet : Prop := ∀ who, settings.calls who = none

def loadedFrom (stored : StoredSettings) (current : RuntimeSettingsSnapshot) : RuntimeSettings ι :=
  ⟨stored, current, fun _ => none⟩

end RuntimeSettings

section Load

variable (crates : Crates) (config : Config) (stored : StoredSettings)

def wantedTail : Nat :=
  ((stored .usageCaptureTailBytes).bind Json.asU64).getD config.usageCaptureTailBytes

def storedBytes : Option Nat :=
  ((stored .usageCaptureBytes).bind Json.asU64).map fun bytes => max bytes 1

def loaded : RuntimeSettingsSnapshot where
  priceSync := ((stored .priceSync).bind SyncConfig.fromValue).getD config.priceSync
  injectIncludeUsage := ((stored .injectIncludeUsage).bind asBool).getD config.injectIncludeUsage
  encryptedContentRecovery := ((stored .encryptedContentRecovery).bind asBool).getD false
  endpointSelectorStrategy :=
    (((stored .endpointSelectorStrategy).bind Json.asStr).bind EndpointSelectorStrategy.parse).getD
      config.endpointSelectorStrategy
  usageCaptureBytes := (storedBytes stored).getD config.usageCaptureBytes
  usageCaptureTailBytes :=
    if (storedBytes stored).isNone ∧ (stored .usageCaptureTailBytes).isNone then
      config.usageCaptureTailBytes
    else min (wantedTail config stored) ((storedBytes stored).getD config.usageCaptureBytes)
  requestLogRetentionDays :=
    ((stored .requestLogRetentionDays).bind asU32).getD config.requestLogRetentionDays
  statsDailyRetentionDays :=
    ((stored .statsDailyRetentionDays).bind asU32).getD config.statsDailyRetentionDays

def Accepts (key : SettingKey) (value : Json) : Prop :=
  ∃ snapshot next, RuntimeSettingsSnapshot.applyValue crates snapshot key value = .ok next

variable {crates config stored}

theorem orError_ok {α : Type} {message : String} {found : Option α} {value : α} :
    orError message found = .ok value ↔ found = some value := by
  cases found <;> simp [orError]

theorem jsonU32_ok {value : Json} {key : SettingKey} {days : Nat} :
    jsonU32 value key = .ok days ↔ asU32 value = some days := by
  unfold jsonU32 asU32
  cases value.asU64 with
  | none => simp [orError, bind, Except.bind]
  | some raw =>
    simp only [orError, bind, Except.bind, Option.filter_some]
    by_cases small : raw ≤ u32Max
    · simp [small]
    · simp [small]

theorem bind_ok {α β : Type} {found : Except String α} {next : α → Except String β} {result : β} :
    (found >>= next) = .ok result ↔ ∃ value, found = .ok value ∧ next value = .ok result := by
  cases found <;> simp [bind, Except.bind]

theorem Accepts.applied {key : SettingKey} {value : Json} (accepts : Accepts crates key value)
    (snapshot : RuntimeSettingsSnapshot) :
    ∃ next, snapshot.applyValue crates key value = .ok next := by
  obtain ⟨before, after, applied⟩ := accepts
  cases key with
  | encryptedContentRecovery | injectIncludeUsage | requestLogRetentionDays |
    statsDailyRetentionDays | usageCaptureBytes | usageCaptureTailBytes =>
    obtain ⟨read, found, -⟩ := bind_ok.mp applied
    exact ⟨_, bind_ok.mpr ⟨read, found, rfl⟩⟩
  | priceSync | endpointSelectorStrategy =>
    obtain ⟨read, found, rest⟩ := bind_ok.mp applied
    obtain ⟨again, valid, -⟩ := bind_ok.mp rest
    exact ⟨_, bind_ok.mpr ⟨read, found, bind_ok.mpr ⟨again, valid, rfl⟩⟩⟩

theorem loaded_tail (config : Config) (stored : StoredSettings) :
    (loaded config stored).usageCaptureTailBytes = wantedTail config stored ∨
      (loaded config stored).usageCaptureTailBytes =
        min (wantedTail config stored) (loaded config stored).usageCaptureBytes := by
  by_cases unset : (storedBytes stored).isNone ∧ (stored .usageCaptureTailBytes).isNone
  · left
    have no_tail := Option.isNone_iff_eq_none.mp unset.2
    show (if _ then _ else _) = _
    rw [if_pos unset, wantedTail, no_tail]
    rfl
  · right
    show (if _ then _ else _) = _
    rw [if_neg unset]
    rfl

theorem loaded_bytes {value : Json} {bytes : Nat} (read : value.asU64 = some bytes) :
    loaded config (Function.update stored .usageCaptureBytes (some value)) =
      { loaded config stored with
        usageCaptureBytes := max bytes 1
        usageCaptureTailBytes := min (wantedTail config stored) (max bytes 1) } := by
  simp [loaded, storedBytes, wantedTail, read]

theorem applyValue_loaded {key : SettingKey} {value : Json} {next : RuntimeSettingsSnapshot}
    (applied : (loaded config stored).applyValue crates key value = .ok next)
    (uncut : key = .usageCaptureBytes →
      next.usageCaptureBytes ≤ (loaded config stored).usageCaptureBytes ∨
        (loaded config stored).usageCaptureTailBytes = wantedTail config stored) :
    next = loaded config (Function.update stored key (some value)) := by
  cases key with
  | encryptedContentRecovery | injectIncludeUsage =>
    obtain ⟨read, found, same⟩ := bind_ok.mp applied
    cases same
    simp [loaded, storedBytes, wantedTail, orError_ok.mp found]
  | requestLogRetentionDays | statsDailyRetentionDays =>
    obtain ⟨read, found, same⟩ := bind_ok.mp applied
    cases same
    simp [loaded, storedBytes, wantedTail, jsonU32_ok.mp found]
  | priceSync =>
    obtain ⟨read, found, rest⟩ := bind_ok.mp applied
    obtain ⟨-, -, same⟩ := bind_ok.mp rest
    cases same
    simp [loaded, storedBytes, wantedTail, orError_ok.mp found]
  | endpointSelectorStrategy =>
    obtain ⟨read, found, rest⟩ := bind_ok.mp applied
    obtain ⟨strategy, parsed, same⟩ := bind_ok.mp rest
    cases same
    simp [loaded, storedBytes, wantedTail, orError_ok.mp found, orError_ok.mp parsed]
  | usageCaptureTailBytes =>
    obtain ⟨read, found, same⟩ := bind_ok.mp applied
    cases same
    simp [loaded, storedBytes, wantedTail, orError_ok.mp found]
  | usageCaptureBytes =>
    obtain ⟨read, found, same⟩ := bind_ok.mp applied
    cases same
    rw [loaded_bytes (orError_ok.mp found)]
    have cut := loaded_tail config stored
    have uncut := uncut rfl
    congr 1
    dsimp only at uncut
    omega

def onlyRows (keys : List SettingKey) (stored : StoredSettings) : StoredSettings :=
  fun key => if key ∈ keys then stored key else none

def InOrder (a b : SettingKey) : Prop :=
  a ≠ b ∧ ¬(a = .usageCaptureTailBytes ∧ b = .usageCaptureBytes)

instance (a b : SettingKey) : Decidable (InOrder a b) := inferInstanceAs (Decidable (_ ∧ _))

theorem applyRow_loaded {done : List SettingKey} {key : SettingKey}
    (accepted : ∀ value, stored key = some value → Accepts crates key value)
    (order : ∀ earlier ∈ done, InOrder earlier key) :
    applyRow crates stored (loaded config (onlyRows done stored)) key =
      .ok (loaded config (onlyRows (done ++ [key]) stored)) := by
  have fresh : key ∉ done := fun again => (order key again).1 rfl
  unfold applyRow
  cases found : stored key with
  | none =>
    have same : onlyRows (done ++ [key]) stored = onlyRows done stored := by
      funext other
      by_cases this_key : other = key
      · simp [onlyRows, this_key, found]
      · simp [onlyRows, this_key]
    rw [same]
  | some value =>
    obtain ⟨next, applied⟩ := (accepted value found).applied (loaded config (onlyRows done stored))
    have added : Function.update (onlyRows done stored) key (some value) =
        onlyRows (done ++ [key]) stored := by
      funext other
      by_cases this_key : other = key
      · simp [onlyRows, this_key, found]
      · simp [onlyRows, this_key]
    show RuntimeSettingsSnapshot.applyValue crates _ key value = _
    rw [applied, ← added, applyValue_loaded applied]
    intro is_bytes
    subst is_bytes
    right
    have no_tail : .usageCaptureTailBytes ∉ done := fun before => (order _ before).2 ⟨rfl, rfl⟩
    simp [loaded, storedBytes, wantedTail, onlyRows, fresh, no_tail]

theorem foldlM_loaded
    (accepted : ∀ key value, stored key = some value → Accepts crates key value)
    (rest done : List SettingKey) (order : (done ++ rest).Pairwise InOrder) :
    rest.foldlM (applyRow crates stored) (loaded config (onlyRows done stored)) =
      .ok (loaded config (onlyRows (done ++ rest) stored)) := by
  induction rest generalizing done with
  | nil =>
    rw [List.append_nil]
    rfl
  | cons key rest ih =>
    have before : ∀ earlier ∈ done, InOrder earlier key := by
      intro earlier member
      exact (List.pairwise_append.mp order).2.2 earlier member key List.mem_cons_self
    rw [List.foldlM_cons, applyRow_loaded (accepted key) before]
    have rest_order : ((done ++ [key]) ++ rest).Pairwise InOrder := by
      rw [List.append_assoc]
      exact order
    have step := ih (done ++ [key]) rest_order
    rw [List.append_assoc] at step
    exact step

theorem load_loaded (accepted : ∀ key value, stored key = some value → Accepts crates key value) :
    load crates config stored = .ok (loaded config stored) := by
  have nothing : RuntimeSettingsSnapshot.fromConfig config = loaded config (onlyRows [] stored) := by
    simp [RuntimeSettingsSnapshot.fromConfig, loaded, storedBytes, onlyRows]
  have everything : onlyRows ([] ++ SettingKey.all) stored = stored := by
    funext key
    cases key <;> rfl
  have order : ([] ++ SettingKey.all).Pairwise InOrder := by decide
  unfold load
  rw [nothing, foldlM_loaded accepted SettingKey.all [] order, everything]

theorem foldlM_accepts {keys : List SettingKey} {before after : RuntimeSettingsSnapshot}
    (read : keys.foldlM (applyRow crates stored) before = .ok after) :
    ∀ key ∈ keys, ∀ value, stored key = some value → Accepts crates key value := by
  induction keys generalizing before with
  | nil =>
    intro key member
    cases member
  | cons first keys ih =>
    obtain ⟨next, applied, rest⟩ := bind_ok.mp (List.foldlM_cons.symm.trans read)
    intro key member value found
    rcases List.mem_cons.mp member with rfl | member
    · have taken : RuntimeSettingsSnapshot.applyValue crates before key value = .ok next := by
        rw [← applied, applyRow, found]
      exact ⟨before, next, taken⟩
    · exact ih rest key member value found

theorem load_ok {current : RuntimeSettingsSnapshot} (read : load crates config stored = .ok current) :
    current = loaded config stored ∧
      ∀ key value, stored key = some value → Accepts crates key value := by
  have accepted : ∀ key value, stored key = some value → Accepts crates key value := by
    intro key value found
    have member : key ∈ SettingKey.all := by cases key <;> decide
    exact foldlM_accepts read key member value found
  have again : load crates config stored = .ok (loaded config stored) := load_loaded accepted
  rw [read] at again
  exact ⟨Except.ok.inj again, accepted⟩

end Load

end CodexGate.Settings
