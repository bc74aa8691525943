import CodexGate.Telemetry.Accounts

namespace CodexGate.Telemetry

open Foundation

def HourlyKey.Concerns (place : HourlyKey) (date key : Int) : Prop :=
  utcDay place.bucketMs = date ∧ (key = 0 ∨ place.apiKeyId = key)

instance (place : HourlyKey) (date key : Int) : Decidable (place.Concerns date key) :=
  inferInstanceAs (Decidable (_ ∧ _))

def Database.hourly (db : Database) (date key : Int) : Counts :=
  total (fun place record => if place.Concerns date key then record.stats.stats.counts else 0)
    db.statsHourly

def TelemetryWorker.pending (worker : TelemetryWorker) (date key : Int) : Counts :=
  total (fun (place : HourlyKey) agg => if place.Concerns date key then agg.stats.counts else 0)
    worker.hourlyStats

def Database.Agrees (db : Database) : Prop :=
  ∀ date key, db.daily date key = db.hourly date key

theorem StatsAgg.counts_plus (stored excluded : StatsAgg) :
    (stored.plus excluded).counts = stored.counts + excluded.counts := by
  funext field
  cases field <;> simp [counts, StatsAgg.field, plus]

theorem hourlyRows_distinct (worker : TelemetryWorker) (nowMs : Int) :
    ((worker.hourlyRows nowMs).map StatsHourlyRow.key).Nodup := by
  rw [TelemetryWorker.hourlyRows, List.map_map]
  exact worker.hourlyStats.nodupKeys

theorem hourly_upsert (worker : TelemetryWorker) (db : Database) (nowMs date key : Int) :
    (db.upsertStatsHourly (worker.hourlyRows nowMs)).hourly date key =
      db.hourly date key + worker.pending date key := by
  apply total_eq_add
  intro place
  cases found : worker.hourlyStats.lookup place with
  | none =>
    have kept : (db.upsertStatsHourly (worker.hourlyRows nowMs)).statsHourly.lookup place =
        db.statsHourly.lookup place := by
      apply lookup_writeRows_of_not_mem
      intro row member same
      obtain ⟨entry, there, row'⟩ := List.mem_map.mp member
      subst row' same
      rw [AList.mem_lookup_iff.mpr there] at found
      cases found
    rw [worth_of_missing found, add_zero]
    exact worth_congr kept
  | some agg =>
    have member : (⟨place, agg, nowMs⟩ : StatsHourlyRow) ∈ worker.hourlyRows nowMs :=
      List.mem_map.mpr ⟨⟨place, agg⟩, AList.mem_lookup_iff.mp found, rfl⟩
    have written := lookup_writeRows_of_mem StatsHourlyRow.upserted db.statsHourly
      (hourlyRows_distinct worker nowMs) member
    rw [worth_of_lookup found, Database.upsertStatsHourly, worth_of_lookup written]
    cases stored : db.statsHourly.lookup place with
    | none =>
      rw [worth_of_missing stored, zero_add]
      rfl
    | some record =>
      rw [worth_of_lookup stored]
      by_cases concerns : place.Concerns date key
      · simp only [if_pos concerns, StatsHourlyRow.upserted, HourlyStatsAgg.plus,
          StatsAgg.counts_plus]
      · simp only [if_neg concerns, add_zero]

theorem pending_empty {worker : TelemetryWorker} (empty : worker.hourlyStats = ∅) (date key : Int) :
    worker.pending date key = 0 := by
  rw [TelemetryWorker.pending, empty]
  rfl

theorem pending_count (worker : TelemetryWorker) {event : TelemetryEvent}
    (counts : event.countsForStats = true) (moment : EventMoment) (date key : Int) :
    (worker.count event moment).pending date key = worker.pending date key +
      if utcDay event.hourlyKey.bucketMs = date then event.countedFor key else 0 := by
  let weight := fun (place : HourlyKey) (agg : HourlyStatsAgg) =>
    if place.Concerns date key then agg.stats.counts else 0
  have replaced := total_replaced weight worker.hourlyStats (worker.count event moment).hourlyStats
    event.hourlyKey fun other apart => worth_insert_of_ne worker.hourlyStats _ apart
  have blank : weight event.hourlyKey .default = 0 := by
    change (if event.hourlyKey.Concerns date key then StatsAgg.default.counts else 0) = 0
    rw [StatsAgg.counts_default, ite_self]
  have adds : ∀ agg, weight event.hourlyKey (agg.add event.ok event event.wait) =
      weight event.hourlyKey agg +
        if event.hourlyKey.Concerns date key then event.counts else 0 := by
    intro agg
    by_cases concerns : event.hourlyKey.Concerns date key
    · simp only [weight, if_pos concerns, HourlyStatsAgg.stats_add, StatsAgg.counts_add]
    · simp only [weight, if_neg concerns, add_zero]
  have added := worth_updateEntry blank adds worker.hourlyStats event.hourlyKey
  have share : (if event.hourlyKey.Concerns date key then event.counts else (0 : Counts)) =
      if utcDay event.hourlyKey.bucketMs = date then event.countedFor key else 0 := by
    by_cases here : utcDay event.hourlyKey.bucketMs = date
    · rw [if_pos here, TelemetryEvent.countedFor]
      exact if_congr ⟨fun concerns => ⟨counts, concerns.2⟩, fun counted => ⟨here, counted.2⟩⟩ rfl rfl
    · rw [if_neg here, if_neg fun concerns => here concerns.1]
  rw [if_pos rfl, share] at added
  have counted : worth weight (worker.count event moment).hourlyStats event.hourlyKey = _ := added
  rw [counted] at replaced
  rw [TelemetryWorker.pending, TelemetryWorker.pending]
  linear_combination replaced

namespace TelemetryWorld

def WritesSucceed : TelemetryAction → Prop
  | .event _ _ => True
  | .flush moment => moment.Succeeds
  | .tick moment => moment.rotation.Succeeds ∧ moment.write.Succeeds

/-- The day of the worker is the day of the events it counts, and it knows what is stored of it. -/
def Aligned (t : Move) : Prop :=
  match t.action with
  | .event event _ => event.countsForStats = true →
    event.apiKeyId ≠ 0 ∧ utcDay event.hourlyKey.bucketMs = t.before.worker.currentDate
  | .flush _ => True
  | .tick moment => t.before.ClosesDay moment ∧
    ((t.before.maybeRotateDay moment).flush moment.write).Retains moment.retention

instance (moment : FlushMoment) : Decidable moment.Succeeds :=
  inferInstanceAs (Decidable (_ ∧ _))

instance (action : TelemetryAction) : Decidable (WritesSucceed action) :=
  match action with
  | .event _ _ => inferInstanceAs (Decidable True)
  | .flush moment => inferInstanceAs (Decidable moment.Succeeds)
  | .tick moment => inferInstanceAs (Decidable (moment.rotation.Succeeds ∧ moment.write.Succeeds))

instance (t : Move) : Decidable (Aligned t) :=
  match t with
  | ⟨before, .event event _, _⟩ => inferInstanceAs (Decidable (event.countsForStats = true →
      event.apiKeyId ≠ 0 ∧ utcDay event.hourlyKey.bucketMs = before.worker.currentDate))
  | ⟨_, .flush _, _⟩ => inferInstanceAs (Decidable True)
  | ⟨before, .tick moment, _⟩ => inferInstanceAs (Decidable (before.ClosesDay moment ∧
      ((before.maybeRotateDay moment).flush moment.write).Retains moment.retention))

structure InStep (world : TelemetryWorld) : Prop where
  balanced : world.Balanced
  agrees : world.db.Agrees
  unsaved : ∀ key, world.held key = world.daily key +
    world.worker.pending world.worker.currentDate key
  elsewhere : ∀ date, date ≠ world.worker.currentDate → ∀ key, world.worker.pending date key = 0
  clean : world.worker.dirty = false → world.worker.hourlyStats = ∅

theorem SameStats.hourly_eq {first second : TelemetryWorld} (same : SameStats first second)
    (date key : Int) : first.db.hourly date key = second.db.hourly date key := by
  rw [Database.hourly, Database.hourly, same.statsHourly]

theorem SameStats.pending_eq {first second : TelemetryWorld} (same : SameStats first second)
    (date key : Int) : first.worker.pending date key = second.worker.pending date key := by
  rw [TelemetryWorker.pending, TelemetryWorker.pending, same.hourlyStats]

theorem InStep.sameStats {world other : TelemetryWorld} (inStep : other.InStep)
    (same : SameStats world other) : world.InStep where
  balanced := inStep.balanced.sameStats same
  agrees date key := by
    rw [same.dailyOf_eq, same.hourly_eq]
    exact inStep.agrees date key
  unsaved key := by
    rw [same.held_eq, same.daily_eq, same.pending_eq, same.currentDate]
    exact inStep.unsaved key
  elsewhere date other key := by
    rw [same.pending_eq]
    rw [same.currentDate] at other
    exact inStep.elsewhere date other key
  clean clean := by
    rw [same.hourlyStats]
    rw [same.dirty] at clean
    exact inStep.clean clean

theorem flush_hourly {world : TelemetryWorld} {moment : FlushMoment} (succeeds : moment.Succeeds)
    (dirty : world.worker.dirty = true) :
    (∀ date key, (world.flush moment).db.hourly date key =
        world.db.hourly date key + world.worker.pending date key) ∧
      (world.flush moment).worker.hourlyStats = ∅ := by
  have same := flush_sameStats world moment
  obtain ⟨taken, whole⟩ := succeeds
  have notFails : ¬moment.dailyFails = true := by simp [taken]
  rw [flushDirty, if_pos dirty, flushStats, flushDaily, if_neg notFails] at same
  dsimp only at same
  split at same
  · next empty =>
    have nothing : world.worker.hourlyStats = ∅ := AList.ext (List.isEmpty_iff.mp empty)
    refine ⟨?_, same.hourlyStats.trans nothing⟩
    intro date key
    rw [same.hourly_eq, pending_empty nothing, add_zero]
    rfl
  · rw [flushHourly, whole] at same
    refine ⟨?_, same.hourlyStats⟩
    intro date key
    rw [same.hourly_eq]
    exact hourly_upsert world.worker world.db moment.nowMs date key

theorem flush_clean {world : TelemetryWorld} (moment : FlushMoment)
    (clean : world.worker.dirty = false) : SameStats (world.flush moment) world := by
  have same := flush_sameStats world moment
  have notDirty : ¬world.worker.dirty = true := by simp [clean]
  rwa [flushDirty, if_neg notDirty] at same

theorem InStep.flush {world : TelemetryWorld} (inStep : world.InStep) {moment : FlushMoment}
    (succeeds : moment.Succeeds) :
    (world.flush moment).InStep ∧ (world.flush moment).worker.hourlyStats = ∅ := by
  by_cases dirty : world.worker.dirty = true
  · obtain ⟨hourly, emptied⟩ := flush_hourly succeeds dirty
    have settled := inStep.balanced.flush_settled succeeds.1
    refine ⟨⟨inStep.balanced.flush moment, ?_, ?_, ?_, fun _ => emptied⟩, emptied⟩
    · intro date key
      rw [hourly]
      by_cases current : date = world.worker.currentDate
      · subst current
        have written := settled key
        rw [flush_held, inStep.unsaved key, daily, flush_currentDate] at written
        rw [written, daily, inStep.agrees]
      · rw [flush_dailyOf_of_ne current, inStep.elsewhere date current, add_zero]
        exact inStep.agrees date key
    · intro key
      rw [settled key, pending_empty emptied, add_zero]
    · intro date _ key
      exact pending_empty emptied date key
  · have clean := Bool.eq_false_of_not_eq_true dirty
    have same := flush_clean moment clean
    exact ⟨inStep.sameStats same, same.hourlyStats.trans (inStep.clean clean)⟩

theorem InStep.rotate {world : TelemetryWorld} (inStep : world.InStep) {moment : TickMoment}
    (succeeds : moment.rotation.Succeeds) (closes : world.ClosesDay moment) :
    (world.maybeRotateDay moment).InStep := by
  obtain ⟨balanced, _⟩ := inStep.balanced.rotate closes
  unfold maybeRotateDay at balanced ⊢
  split
  · exact inStep
  · next changes =>
    rw [if_neg changes] at balanced
    obtain ⟨flushed, emptied⟩ := inStep.flush succeeds
    have nothing : ((world.flush moment.rotation).beginDay moment.nowMs
        moment.listFails).worker.hourlyStats = ∅ := emptied
    have settled := balanced.clean rfl
    refine ⟨balanced, flushed.agrees, ?_, ?_, fun _ => nothing⟩
    · intro key
      rw [settled key, pending_empty nothing, add_zero]
    · intro date _ key
      exact pending_empty nothing date key

theorem InStep.withEvent {world : TelemetryWorld} (inStep : world.InStep) {event : TelemetryEvent}
    (moment : EventMoment) (counts : event.countsForStats = true) (owned : event.apiKeyId ≠ 0)
    (today : utcDay event.hourlyKey.bucketMs = world.worker.currentDate) :
    (world.withEvent event moment).InStep where
  balanced := ⟨withEvent_loaded inStep.balanced.loaded event moment, fun clean => by cases clean⟩
  agrees := inStep.agrees
  unsaved key := by
    have added := pending_count world.worker counts moment world.worker.currentDate key
    rw [if_pos today] at added
    have pending : (world.withEvent event moment).worker.pending
        (world.withEvent event moment).worker.currentDate key = _ := added
    have daily : (world.withEvent event moment).daily key = world.daily key := rfl
    rw [withEvent_held world moment counts owned, inStep.unsaved key, pending, daily]
    ring
  elsewhere date other key := by
    have added := pending_count world.worker counts moment date key
    have apart : utcDay event.hourlyKey.bucketMs ≠ date := by
      intro same
      exact other (same.symm.trans today)
    rw [if_neg apart, inStep.elsewhere date other, add_zero] at added
    exact added
  clean clean := by cases clean

theorem step_inStep {world after : TelemetryWorld} {action : TelemetryAction}
    (taken : world.step action = some after) (writes : WritesSucceed action)
    (aligned : Aligned ⟨world, action, after⟩) (inStep : world.InStep) : after.InStep := by
  cases action with
  | event event moment =>
    by_cases counts : event.countsForStats = true
    · obtain ⟨owned, today⟩ := aligned counts
      exact (inStep.withEvent moment counts owned today).sameStats (onEvent_counted taken counts)
    · exact inStep.sameStats (onEvent_uncounted taken counts)
  | flush moment =>
    cases taken
    exact (inStep.flush writes).1
  | tick moment =>
    cases taken
    obtain ⟨closes, retains⟩ := aligned
    have flushed := (inStep.rotate writes.1 closes).flush writes.2
    exact flushed.1.sameStats (maybeRunRetention_sameStats retains)

/-- Daily and hourly statistics agree, in every run from tables that do in which no write fails and
events are counted in the day of their time. -/
theorem run_agrees {db : Database} {logBatchMax : Nat} {retention : RetentionPolicy} {startMs : Int}
    {history : List Move} {world : TelemetryWorld}
    (run : Run (new db logBatchMax retention startMs) history world) (agrees : db.Agrees)
    (writes : ∀ t ∈ history, WritesSucceed t.action) (aligned : ∀ t ∈ history, Aligned t) :
    world.db.Agrees := by
  have settled := new_settled db logBatchMax retention startMs
  have kept : (∀ t ∈ history, WritesSucceed t.action ∧ Aligned t) → world.InStep := by
    refine run.invariant (P := fun history world =>
      (∀ t ∈ history, WritesSucceed t.action ∧ Aligned t) → world.InStep) ?_ ?_
    · intro _
      refine ⟨⟨settled.loaded, fun _ => settled⟩, agrees, ?_, ?_, fun _ => rfl⟩
      · intro key
        rw [settled key, pending_empty rfl, add_zero]
      · intro date _ key
        exact pending_empty rfl date key
    · intro history before action after kept taken meets
      have inStep := kept fun t member => meets t (List.mem_cons_of_mem _ member)
      obtain ⟨writes, aligned⟩ := meets _ List.mem_cons_self
      exact step_inStep taken writes aligned inStep
  exact (kept fun t member => ⟨writes t member, aligned t member⟩).agrees

theorem emptyDatabase_agrees : emptyDatabase.Agrees := fun _ _ => rfl

theorem run_agrees_midnight :
    ∃ run, replay step firstWorld (midnight false) = some run ∧ run.2.db.Agrees := by
  have replayed : ∃ run, replay step firstWorld (midnight false) = some run ∧
      (∀ t ∈ run.1, WritesSucceed t.action) ∧ ∀ t ∈ run.1, Aligned t :=
    ⟨_, rfl, by decide, by decide⟩
  obtain ⟨⟨history, world⟩, replayed, writes, aligned⟩ := replayed
  exact ⟨(history, world), replayed,
    run_agrees (replay_run replayed) emptyDatabase_agrees writes aligned⟩

def lateEvent : List TelemetryAction :=
  [.flush (flushAt (millisPerDay + 9) false),
    .event (failedRequest 1 (millisPerDay + 5) false "")
      ⟨"event", "log", millisPerDay + 5, false, false⟩]

/-- The two tables put such a request in different days. -/
theorem run_agrees_fails :
    ∃ history, ∃ world, Run firstWorld history world ∧
      (∀ t ∈ history, WritesSucceed t.action) ∧ ¬world.db.Agrees := by
  have replayed : ∃ run, replay step firstWorld lateEvent = some run ∧
      (∀ t ∈ run.1, WritesSucceed t.action) ∧
      run.2.db.daily 0 1 .requestFailed = 1 ∧ run.2.db.hourly 0 1 .requestFailed = 0 :=
    ⟨_, rfl, by decide, by decide, by decide⟩
  obtain ⟨⟨history, world⟩, replayed, writes, daily, hourly⟩ := replayed
  refine ⟨history, world, replay_run replayed, writes, ?_⟩
  intro agrees
  have same := congrFun (agrees 0 1) .requestFailed
  rw [daily, hourly] at same
  exact absurd same (by decide)

end TelemetryWorld

end CodexGate.Telemetry
