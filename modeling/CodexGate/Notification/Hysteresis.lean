import CodexGate.Notification.Alerts

namespace CodexGate.Notification

open Foundation

def streak {α : Type} (read : α → Option Bool) (wanted : Bool) : List α → Nat
  | [] => 0
  | item :: earlier =>
    match read item with
    | none => streak read wanted earlier
    | some found => if found = wanted then streak read wanted earlier + 1 else 0

section Streaks

variable {α : Type} {read : α → Option Bool} {item : α}

theorem streak_ignored (wanted : Bool) (earlier : List α) (ignored : read item = none) :
    streak read wanted (item :: earlier) = streak read wanted earlier := by
  simp only [streak, ignored]

theorem streak_wanted {wanted : Bool} (earlier : List α) (found : read item = some wanted) :
    streak read wanted (item :: earlier) = streak read wanted earlier + 1 := by
  simp only [streak, found, if_true]

theorem streak_broken {wanted : Bool} (earlier : List α) (found : read item = some !wanted) :
    streak read wanted (item :: earlier) = 0 := by
  cases wanted <;> simp only [streak, found] <;> rfl

end Streaks

inductive AlertScopeKind
  | global
  | provider
  | clientKey
  deriving DecidableEq

structure NotificationError where
  status : Nat
  code : String
  message : String
  field : Option String

def NotificationError.badRequest (code message : String) (field : Option String) : NotificationError :=
  ⟨400, code, message, field⟩

def AlertMetric.isUsage : AlertMetric → Bool
  | .requestCount | .errorRatePercent | .totalTokens | .estimatedCostUsd => true
  | _ => false

variable {F : Type} [LT F] [LE F] [DecidableLT F] [DecidableLE F]

structure ScopedAlertConfig (F : Type) extends ThresholdAlertConfig F where
  scopeKind : AlertScopeKind
  scopeId : Option Int

def validateRuleConfig (isFinite : F → Bool) (config : ScopedAlertConfig F) : Except NotificationError Unit := do
  if !isFinite config.threshold then
    throw (.badRequest "invalid_threshold" "threshold must be finite" (some "threshold"))
  if ¬(5 ≤ config.windowMinutes ∧ config.windowMinutes ≤ 1440) then
    throw (.badRequest "invalid_window_minutes" "window_minutes must be between 5 and 1440"
      (some "window_minutes"))
  if ¬(1 ≤ config.triggerAfter ∧ config.triggerAfter ≤ 10) then
    throw (.badRequest "invalid_trigger_after" "trigger_after must be between 1 and 10"
      (some "trigger_after"))
  if ¬(1 ≤ config.recoverAfter ∧ config.recoverAfter ≤ 10) then
    throw (.badRequest "invalid_recover_after" "recover_after must be between 1 and 10"
      (some "recover_after"))
  if ¬(5 ≤ config.cooldownMinutes ∧ config.cooldownMinutes ≤ 1440) then
    throw (.badRequest "invalid_cooldown_minutes" "cooldown_minutes must be between 5 and 1440"
      (some "cooldown_minutes"))
  match config.scopeKind with
  | .global =>
    if config.scopeId.isSome then
      throw (.badRequest "invalid_scope" "global scope must not include scope_id" (some "scope_id"))
  | .provider | .clientKey =>
    if config.scopeId.getD 0 ≤ 0 then
      throw (.badRequest "invalid_scope" "provider and client_key scopes require a positive scope_id"
        (some "scope_id"))
  if !config.metric.isUsage ∧ config.scopeKind ≠ .global then
    throw (.badRequest "metric_scope_unsupported" "server metrics only support global scope"
      (some "scope_kind"))

structure Counted (config : ThresholdAlertConfig F) : Prop where
  trigger : 1 ≤ config.triggerAfter ∧ config.triggerAfter ≤ 10
  recover : 1 ≤ config.recoverAfter ∧ config.recoverAfter ≤ 10

omit [LT F] [LE F] [DecidableLT F] [DecidableLE F] in
theorem counted_of_valid {isFinite : F → Bool} {config : ScopedAlertConfig F}
    (valid : validateRuleConfig isFinite config = .ok ()) : Counted config.toThresholdAlertConfig := by
  unfold validateRuleConfig at valid
  extract_lets usage scope cooldown recover trigger window at valid
  obtain ⟨-, valid⟩ := refused_eq_ok.mp valid
  obtain ⟨-, valid⟩ := refused_eq_ok.mp valid
  obtain ⟨triggers, valid⟩ := refused_eq_ok.mp valid
  obtain ⟨recovers, -⟩ := refused_eq_ok.mp valid
  exact ⟨not_not.mp triggers, not_not.mp recovers⟩

omit [LT F] [LE F] [DecidableLT F] [DecidableLE F] in
theorem isUsage_of_valid {isFinite : F → Bool} {config : ScopedAlertConfig F}
    (valid : validateRuleConfig isFinite config = .ok ()) (narrow : config.scopeKind ≠ .global) :
    config.metric.isUsage = true ∧ 0 < config.scopeId.getD 0 := by
  unfold validateRuleConfig at valid
  extract_lets usage scope cooldown recover trigger window at valid
  obtain ⟨-, valid⟩ := refused_eq_ok.mp valid
  obtain ⟨-, valid⟩ := refused_eq_ok.mp valid
  obtain ⟨-, valid⟩ := refused_eq_ok.mp valid
  obtain ⟨-, valid⟩ := refused_eq_ok.mp valid
  obtain ⟨-, valid⟩ := refused_eq_ok.mp valid
  have positive : 0 < config.scopeId.getD 0 ∧ usage () = .ok () := by
    simp only [scope] at valid
    cases kind : config.scopeKind with
    | global => exact absurd kind narrow
    | provider | clientKey =>
      rw [kind] at valid
      obtain ⟨positive, valid⟩ := refused_eq_ok.mp valid
      exact ⟨not_le.mp positive, valid⟩
  refine ⟨?_, positive.1⟩
  by_contra other
  have failed := positive.2
  simp only [usage] at failed
  rw [if_pos ⟨by simpa using other, narrow⟩] at failed
  cases failed

section Readings

variable (config : ThresholdAlertConfig F)

def reading (value : Option (MetricValue F)) : Option Bool :=
  value.bind fun value =>
    if config.metric = .errorRatePercent ∧ value.sampleCount < config.minimumRequests then none
    else if config.operator.matches value.value config.threshold then some true
    else if value.complete then some false
    else none

theorem complete_of_reading {value : Option (MetricValue F)} (calm : reading config value = some false) :
    ∃ found, value = some found ∧ found.complete = true := by
  obtain ⟨found, there, read⟩ := Option.bind_eq_some_iff.mp calm
  refine ⟨found, there, ?_⟩
  by_contra incomplete
  rw [if_neg incomplete] at read
  split at read
  · cases read
  · split at read <;> cases read

def remindTransition (state : AlertState) (nowMs : Int) : AlertTransition :=
  let shouldRemind := state.lastNotifiedAtMs.all fun last =>
    (config.cooldownMinutes : Int) * 60000 ≤ saturatingSubI64 nowMs last
  { next :=
      { state := "firing"
        breachCount := state.breachCount
        recoveryCount := 0
        openedAtMs := state.openedAtMs
        lastNotifiedAtMs := if shouldRemind then some nowMs else state.lastNotifiedAtMs }
    eventType := if shouldRemind then some "alert_reminder" else none }

def recoverTransition (state : AlertState) (nowMs : Int) : AlertTransition :=
  let recoveryCount := saturatingAddI64 state.recoveryCount 1
  let recovered := decide ((config.recoverAfter : Int) ≤ recoveryCount)
  { next :=
      { state := if recovered then "normal" else "firing"
        breachCount := if recovered then 0 else state.breachCount
        recoveryCount := if recovered then 0 else recoveryCount
        openedAtMs := if recovered then none else state.openedAtMs
        lastNotifiedAtMs := if recovered && config.sendRecovery then some nowMs else state.lastNotifiedAtMs }
    eventType := if recovered && config.sendRecovery then some "alert_recovered" else none }

def triggerTransition (state : AlertState) (nowMs : Int) : AlertTransition :=
  let breachCount := saturatingAddI64 state.breachCount 1
  let triggered := decide ((config.triggerAfter : Int) ≤ breachCount)
  { next :=
      { state := if triggered then "firing" else "pending"
        breachCount := breachCount
        recoveryCount := 0
        openedAtMs := if triggered then some nowMs else none
        lastNotifiedAtMs := if triggered then some nowMs else none }
    eventType := if triggered then some "alert_triggered" else none }

def calmTransition (state : AlertState) : AlertTransition :=
  { next :=
      { state := "normal"
        breachCount := 0
        recoveryCount := 0
        openedAtMs := none
        lastNotifiedAtMs := state.lastNotifiedAtMs }
    eventType := none }

theorem evaluateAlert_reading (state : AlertState) (value : Option (MetricValue F)) (nowMs : Int) :
    evaluateAlert state config value nowMs =
      match reading config value with
      | none => unchangedTransition state
      | some true =>
        if state.state = "firing" then remindTransition config state nowMs
        else triggerTransition config state nowMs
      | some false =>
        if state.state = "firing" then recoverTransition config state nowMs
        else calmTransition state := by
  cases value with
  | none => rfl
  | some value =>
    unfold evaluateAlert reading
    rw [Option.bind_some]
    by_cases few : config.metric = .errorRatePercent ∧ value.sampleCount < config.minimumRequests
    · simp only [if_pos few]
    · simp only [if_neg few]
      cases config.operator.matches value.value config.threshold with
      | true => rfl
      | false =>
        cases value.complete with
        | true => rfl
        | false => rfl

theorem reading_eq_none_iff (value : Option (MetricValue F)) (nowMs : Int) :
    reading config value = none ↔
      ∀ state, evaluateAlert state config value nowMs = unchangedTransition state := by
  constructor
  · intro ignored state
    rw [evaluateAlert_reading, ignored]
  · intro kept
    cases found : reading config value with
    | none => rfl
    | some breached =>
      cases breached with
      | true =>
        have pending := kept defaultAlertState
        rw [evaluateAlert_reading, found] at pending
        have counted : (1 : Int) = 0 := congrArg (·.next.breachCount) pending
        cases counted
      | false =>
        have calmed := kept { defaultAlertState with breachCount := 1 }
        rw [evaluateAlert_reading, found] at calmed
        have counted : (0 : Int) = 1 := congrArg (·.next.breachCount) calmed
        cases counted

end Readings

structure Sample (F : Type) where
  value : Option (MetricValue F)
  nowMs : Int

section Runs

variable (config : ThresholdAlertConfig F)

def alertState : List (Sample F) → AlertState
  | [] => defaultAlertState
  | sample :: earlier => (evaluateAlert (alertState earlier) config sample.value sample.nowMs).next

def alertEvent (sample : Sample F) (earlier : List (Sample F)) : Option String :=
  (evaluateAlert (alertState config earlier) config sample.value sample.nowMs).eventType

def Firing (samples : List (Sample F)) : Prop := (alertState config samples).state = "firing"

def alertStreak (breached : Bool) (samples : List (Sample F)) : Nat :=
  streak (fun sample : Sample F => reading config sample.value) breached samples

structure Tracks (samples : List (Sample F)) (state : AlertState) : Prop where
  firing : state.state = "firing" →
    state.recoveryCount = alertStreak config false samples ∧
      alertStreak config false samples < config.recoverAfter
  waiting : state.state ≠ "firing" →
    state.breachCount = alertStreak config true samples ∧
      alertStreak config true samples < config.triggerAfter

variable {config}

theorem counted_up {count asked : Nat} {stored : Int} (same : stored = count) (below : count < asked)
    (small : asked ≤ 10) :
    saturatingAddI64 stored 1 = ((count + 1 : Nat) : Int) ∧
      decide ((asked : Int) ≤ ((count + 1 : Nat) : Int)) = decide (count + 1 = asked) := by
  constructor
  · simp only [saturatingAddI64, clampI64, i64Max, i64Min]
    omega
  · rw [decide_eq_decide]
    omega

theorem Tracks.nil (counted : Counted config) : Tracks config [] defaultAlertState where
  firing := fun firing => absurd firing (by decide)
  waiting := fun _ => ⟨rfl, counted.trigger.1⟩

theorem Tracks.evaluate (counted : Counted config) {earlier : List (Sample F)} {state : AlertState}
    (tracks : Tracks config earlier state) (sample : Sample F) :
    Tracks config (sample :: earlier) (evaluateAlert state config sample.value sample.nowMs).next := by
  rw [evaluateAlert_reading]
  cases found : reading config sample.value with
  | none =>
    have same : ∀ breached, alertStreak config breached (sample :: earlier) = alertStreak config breached earlier :=
      fun breached => streak_ignored breached earlier found
    exact ⟨by rw [same]; exact tracks.firing, by rw [same]; exact tracks.waiting⟩
  | some breached =>
    cases breached with
    | true =>
      have longer : alertStreak config true (sample :: earlier) = alertStreak config true earlier + 1 :=
        streak_wanted earlier found
      have broken : alertStreak config false (sample :: earlier) = 0 := streak_broken earlier found
      by_cases firing : state.state = "firing"
      · simp only [if_pos firing, remindTransition]
        refine ⟨fun _ => ?_, fun waiting => absurd rfl waiting⟩
        rw [broken]
        exact ⟨rfl, counted.recover.1⟩
      · obtain ⟨count, below⟩ := tracks.waiting firing
        obtain ⟨up, reached⟩ := counted_up count below counted.trigger.2
        simp only [if_neg firing, triggerTransition, up, reached]
        by_cases triggered : alertStreak config true earlier + 1 = config.triggerAfter
        · refine ⟨fun _ => ?_, fun waiting => absurd (by simp [triggered]) waiting⟩
          rw [broken]
          exact ⟨by simp, counted.recover.1⟩
        · refine ⟨fun fires => absurd fires (by simp [triggered]), fun _ => ?_⟩
          rw [longer]
          exact ⟨rfl, by omega⟩
    | false =>
      have longer : alertStreak config false (sample :: earlier) = alertStreak config false earlier + 1 :=
        streak_wanted earlier found
      have broken : alertStreak config true (sample :: earlier) = 0 := streak_broken earlier found
      by_cases firing : state.state = "firing"
      · obtain ⟨count, below⟩ := tracks.firing firing
        obtain ⟨up, reached⟩ := counted_up count below counted.recover.2
        simp only [if_pos firing, recoverTransition, up, reached]
        by_cases recovered : alertStreak config false earlier + 1 = config.recoverAfter
        · refine ⟨fun fires => absurd fires (by simp [recovered]), fun _ => ?_⟩
          rw [broken]
          exact ⟨by simp [recovered], counted.trigger.1⟩
        · refine ⟨fun _ => ?_, fun waiting => absurd (by simp [recovered]) waiting⟩
          rw [longer]
          exact ⟨by simp [recovered], by omega⟩
      · simp only [if_neg firing, calmTransition]
        refine ⟨fun fires => absurd fires (by simp), fun _ => ?_⟩
        rw [broken]
        exact ⟨rfl, counted.trigger.1⟩

theorem tracks_run (counted : Counted config) (samples : List (Sample F)) :
    Tracks config samples (alertState config samples) := by
  induction samples with
  | nil => exact .nil counted
  | cons sample earlier ih => exact ih.evaluate counted sample

theorem firing_start_iff (counted : Counted config) {earlier : List (Sample F)}
    (waiting : ¬ Firing config earlier) (sample : Sample F) :
    Firing config (sample :: earlier) ↔
      reading config sample.value = some true ∧ alertStreak config true earlier + 1 = config.triggerAfter := by
  obtain ⟨count, below⟩ := (tracks_run counted earlier).waiting waiting
  obtain ⟨up, reached⟩ := counted_up count below counted.trigger.2
  unfold Firing at waiting ⊢
  rw [alertState, evaluateAlert_reading]
  cases reading config sample.value with
  | none => simp [unchangedTransition, waiting]
  | some breached =>
    cases breached with
    | true =>
      simp only [if_neg waiting, triggerTransition, up, reached]
      by_cases triggered : alertStreak config true earlier + 1 = config.triggerAfter
      · simp [triggered]
      · simp [triggered]
    | false => simp [if_neg waiting, calmTransition]

theorem firing_stop_iff (counted : Counted config) {earlier : List (Sample F)}
    (firing : Firing config earlier) (sample : Sample F) :
    ¬ Firing config (sample :: earlier) ↔
      reading config sample.value = some false ∧ alertStreak config false earlier + 1 = config.recoverAfter := by
  obtain ⟨count, below⟩ := (tracks_run counted earlier).firing firing
  obtain ⟨up, reached⟩ := counted_up count below counted.recover.2
  unfold Firing at firing ⊢
  rw [alertState, evaluateAlert_reading]
  cases reading config sample.value with
  | none => simp [unchangedTransition, firing]
  | some breached =>
    cases breached with
    | true => simp [if_pos firing, remindTransition]
    | false =>
      simp only [if_pos firing, recoverTransition, up, reached]
      by_cases recovered : alertStreak config false earlier + 1 = config.recoverAfter
      · simp [recovered]
      · simp [recovered]

def Notifies (event : Option String) : Prop :=
  event = some "alert_triggered" ∨ event = some "alert_reminder"

variable (config) in
/-- The alert has been firing from the start of the recent samples on. -/
def KeepsFiring (recent earlier : List (Sample F)) : Prop :=
  ∀ later, later <:+ recent → Firing config (later ++ earlier)

theorem notified {sample : Sample F} {earlier : List (Sample F)}
    (notifies : Notifies (alertEvent config sample earlier)) :
    (alertState config (sample :: earlier)).lastNotifiedAtMs = some sample.nowMs := by
  rw [alertState]
  unfold Notifies alertEvent at notifies
  rw [evaluateAlert_reading] at notifies ⊢
  cases found : reading config sample.value with
  | none => simp [found, unchangedTransition] at notifies
  | some breached =>
    by_cases firing : (alertState config earlier).state = "firing"
    · cases breached with
      | true =>
        simp only [found, if_pos firing, remindTransition] at notifies ⊢
        split at notifies
        · rename_i reminds
          rw [if_pos reminds]
        · simp at notifies
      | false =>
        simp only [found, if_pos firing, recoverTransition] at notifies
        split at notifies <;> simp at notifies
    · cases breached with
      | true =>
        simp only [found, if_neg firing, triggerTransition] at notifies ⊢
        split at notifies
        · rename_i triggered
          rw [if_pos triggered]
        · simp at notifies
      | false => simp [found, if_neg firing, calmTransition] at notifies

theorem reminded {sample : Sample F} {earlier : List (Sample F)} {lastMs : Int}
    (firing : Firing config earlier)
    (last : (alertState config earlier).lastNotifiedAtMs = some lastMs)
    (notifies : Notifies (alertEvent config sample earlier)) :
    lastMs + config.cooldownMinutes * 60000 ≤ sample.nowMs := by
  unfold Firing at firing
  unfold Notifies alertEvent at notifies
  rw [evaluateAlert_reading] at notifies
  cases found : reading config sample.value with
  | none => simp [found, unchangedTransition] at notifies
  | some breached =>
    cases breached with
    | true =>
      simp only [found, if_pos firing, remindTransition, last, Option.all_some] at notifies
      split at notifies
      · rename_i reminds
        have passed : (config.cooldownMinutes : Int) * 60000 ≤ saturatingSubI64 sample.nowMs lastMs := by
          simpa using reminds
        simp only [saturatingSubI64, clampI64, i64Max, i64Min] at passed
        omega
      · simp at notifies
    | false =>
      simp only [found, if_pos firing, recoverTransition] at notifies
      split at notifies <;> simp at notifies

theorem lastNotified_kept {sample : Sample F} {earlier : List (Sample F)}
    (firing : Firing config earlier) (fires : Firing config (sample :: earlier))
    (silent : ¬ Notifies (alertEvent config sample earlier)) :
    (alertState config (sample :: earlier)).lastNotifiedAtMs =
      (alertState config earlier).lastNotifiedAtMs := by
  unfold Firing at firing fires
  unfold Notifies alertEvent at silent
  rw [alertState, evaluateAlert_reading] at fires ⊢
  rw [evaluateAlert_reading] at silent
  cases found : reading config sample.value with
  | none => rfl
  | some breached =>
    cases breached with
    | true =>
      simp only [found, if_pos firing, remindTransition] at silent ⊢
      split at silent
      · simp at silent
      · rename_i quiet
        rw [if_neg quiet]
    | false =>
      simp only [found, if_pos firing, recoverTransition] at fires ⊢
      split at fires
      · simp at fires
      · rename_i unrecovered
        simp [unrecovered]

theorem lastNotified_since {first : Sample F} {earlier : List (Sample F)}
    (notifies : Notifies (alertEvent config first earlier)) (between : List (Sample F))
    (firing : KeepsFiring config between (first :: earlier)) :
    ∃ lastMs, (alertState config (between ++ first :: earlier)).lastNotifiedAtMs = some lastMs ∧
      first.nowMs ≤ lastMs := by
  induction between with
  | nil => exact ⟨first.nowMs, notified notifies, Int.le_refl _⟩
  | cons sample between ih =>
    obtain ⟨lastMs, last, since⟩ := ih fun later within => firing later (within.trans (List.suffix_cons _ _))
    have before : Firing config (between ++ first :: earlier) := firing between (List.suffix_cons _ _)
    by_cases again : Notifies (alertEvent config sample (between ++ first :: earlier))
    · have cooled := reminded before last again
      exact ⟨sample.nowMs, notified again, by omega⟩
    · have kept := lastNotified_kept before (firing _ (List.suffix_refl _)) again
      exact ⟨lastMs, kept.trans last, since⟩

/-- The alert starts to fire with the last of so many effective breaches in a row and stops with the
last of so many others, whatever is ignored in between, and it is reported at most once a cooldown. -/
theorem alert_hysteresis (isFinite : F → Bool) (config : ScopedAlertConfig F)
    (valid : validateRuleConfig isFinite config = .ok ()) (sample : Sample F) (earlier : List (Sample F)) :
    (reading config.toThresholdAlertConfig sample.value = none ↔
        ∀ state, evaluateAlert state config.toThresholdAlertConfig sample.value sample.nowMs =
          unchangedTransition state) ∧
      (alertEvent config.toThresholdAlertConfig sample earlier = some "alert_triggered" ↔
        ¬ Firing config.toThresholdAlertConfig earlier ∧
          reading config.toThresholdAlertConfig sample.value = some true ∧
          alertStreak config.toThresholdAlertConfig true earlier + 1 = config.triggerAfter) ∧
      (Firing config.toThresholdAlertConfig earlier →
        (¬ Firing config.toThresholdAlertConfig (sample :: earlier) ↔
          reading config.toThresholdAlertConfig sample.value = some false ∧
            alertStreak config.toThresholdAlertConfig false earlier + 1 = config.recoverAfter)) ∧
      (reading config.toThresholdAlertConfig sample.value = some false →
        ∃ found, sample.value = some found ∧ found.complete = true) ∧
      (alertEvent config.toThresholdAlertConfig sample earlier = some "alert_recovered" ↔
        Firing config.toThresholdAlertConfig earlier ∧
          ¬ Firing config.toThresholdAlertConfig (sample :: earlier) ∧ config.sendRecovery = true) ∧
      (Notifies (alertEvent config.toThresholdAlertConfig sample earlier) →
        ∀ between later, KeepsFiring config.toThresholdAlertConfig between (sample :: earlier) →
          Notifies (alertEvent config.toThresholdAlertConfig later (between ++ sample :: earlier)) →
          sample.nowMs + config.cooldownMinutes * 60000 ≤ later.nowMs) := by
  have counted := counted_of_valid valid
  refine ⟨reading_eq_none_iff _ _ _, ?_, fun firing => firing_stop_iff counted firing sample,
    complete_of_reading _, evaluateAlert_recovers _ _ _ _, fun notifies between later firing again => ?_⟩
  · rw [alertEvent, evaluateAlert_triggers]
    exact and_congr_right fun waiting => firing_start_iff counted waiting sample
  · obtain ⟨lastMs, last, since⟩ := lastNotified_since notifies between firing
    have cooled := reminded (firing between (List.suffix_refl _)) last again
    omega

end Runs

def twoBreaches : ScopedAlertConfig Int where
  metric := .cpuUsagePercent
  operator := .gte
  threshold := 80
  minimumRequests := 20
  triggerAfter := 2
  recoverAfter := 2
  cooldownMinutes := 30
  sendRecovery := true
  windowMinutes := 15
  scopeKind := .global
  scopeId := none

/-- A missing value between two breaches is no interruption. -/
theorem alert_hysteresis_twoBreaches :
    alertEvent twoBreaches.toThresholdAlertConfig ⟨some ⟨91, true, 1⟩, 120000⟩
      [⟨none, 60000⟩, ⟨some ⟨90, true, 1⟩, 0⟩] = some "alert_triggered" :=
  (alert_hysteresis (fun _ => true) twoBreaches rfl ⟨some ⟨91, true, 1⟩, 120000⟩
    [⟨none, 60000⟩, ⟨some ⟨90, true, 1⟩, 0⟩]).2.1.mpr ⟨by unfold Firing; decide, rfl, rfl⟩

end CodexGate.Notification
