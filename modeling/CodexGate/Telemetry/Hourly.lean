import CodexGate.Telemetry.Agreement

namespace CodexGate.Telemetry

open Foundation

inductive HourlyField
  | stats (field : StatsField)
  | latencyLt500ms
  | latencyLt1000ms
  | latencyLt2000ms
  | latencyLt5000ms
  | latencyLt15000ms
  | latencyGte15000ms
  deriving DecidableEq

abbrev HourlyCounts := HourlyField → ZMod (2 ^ 64)

def HourlyStatsAgg.field (agg : HourlyStatsAgg) : HourlyField → Int
  | .stats field => agg.stats.field field
  | .latencyLt500ms => agg.latencyLt500ms
  | .latencyLt1000ms => agg.latencyLt1000ms
  | .latencyLt2000ms => agg.latencyLt2000ms
  | .latencyLt5000ms => agg.latencyLt5000ms
  | .latencyLt15000ms => agg.latencyLt15000ms
  | .latencyGte15000ms => agg.latencyGte15000ms

def HourlyStatsAgg.counts (agg : HourlyStatsAgg) : HourlyCounts :=
  fun field => (agg.field field : ZMod (2 ^ 64))

def TelemetryEvent.latencyField (event : TelemetryEvent) : HourlyField :=
  if event.wait < 500 then .latencyLt500ms
  else if event.wait < 1000 then .latencyLt1000ms
  else if event.wait < 2000 then .latencyLt2000ms
  else if event.wait < 5000 then .latencyLt5000ms
  else if event.wait < 15000 then .latencyLt15000ms
  else .latencyGte15000ms

def TelemetryEvent.hourlyAmount (event : TelemetryEvent) : HourlyField → Int
  | .stats field => event.amount field
  | field => if field = event.latencyField then 1 else 0

def TelemetryEvent.hourlyCounts (event : TelemetryEvent) : HourlyCounts :=
  fun field => (event.hourlyAmount field : ZMod (2 ^ 64))

theorem HourlyStatsAgg.counts_default : HourlyStatsAgg.default.counts = 0 := by
  funext field
  cases field with
  | stats field => exact congrFun StatsAgg.counts_default field
  | _ => exact Int.cast_zero

theorem HourlyStatsAgg.counts_plus (stored excluded : HourlyStatsAgg) :
    (stored.plus excluded).counts = stored.counts + excluded.counts := by
  funext field
  cases field with
  | stats field => exact congrFun (StatsAgg.counts_plus stored.stats excluded.stats) field
  | _ => exact Int.cast_add _ _

theorem bump_true_cast (counter : Int) : (bump true counter : ZMod (2 ^ 64)) = counter + 1 := by
  rw [bump_cast, if_pos rfl, Int.cast_one]

theorem HourlyStatsAgg.counts_add (agg : HourlyStatsAgg) (event : TelemetryEvent) :
    (agg.add event.ok event event.wait).counts = agg.counts + event.hourlyCounts := by
  funext field
  cases field with
  | stats field =>
    have stats := congrFun (StatsAgg.counts_add agg.stats event) field
    have same := congrArg (fun stats => StatsAgg.counts stats field) (agg.stats_add event)
    exact same.trans stats
  | _ =>
    simp only [counts, HourlyStatsAgg.field, add, TelemetryEvent.hourlyCounts,
      TelemetryEvent.hourlyAmount, TelemetryEvent.latencyField, Pi.add_apply]
    split_ifs <;> first | contradiction | simp only [bump_true_cast, Int.cast_one, Int.cast_zero, add_zero]

def Database.hourlyRow (db : Database) (key : HourlyKey) : HourlyCounts :=
  worth (fun _ record => record.stats.counts) db.statsHourly key

def TelemetryWorker.unsaved (worker : TelemetryWorker) (key : HourlyKey) : HourlyCounts :=
  worth (fun _ agg => agg.counts) worker.hourlyStats key

theorem hourlyRow_upsert (worker : TelemetryWorker) (db : Database) (nowMs : Int)
    (stored : HourlyKey → Bool) (key : HourlyKey) :
    (db.upsertStatsHourly ((worker.hourlyRows nowMs).filter fun row => stored row.key)).hourlyRow
      key = db.hourlyRow key + if stored key then worker.unsaved key else 0 := by
  let rows := (worker.hourlyRows nowMs).filter fun row => stored row.key
  have distinct : (rows.map StatsHourlyRow.key).Nodup :=
    (hourlyRows_distinct worker nowMs).sublist (List.filter_sublist.map StatsHourlyRow.key)
  have taken : ∀ row ∈ rows, stored row.key = true ∧
      worker.hourlyStats.lookup row.key = some row.stats := by
    intro row member
    obtain ⟨member, chosen⟩ := List.mem_filter.mp member
    obtain ⟨entry, there, same⟩ := List.mem_map.mp member
    subst same
    exact ⟨chosen, AList.mem_lookup_iff.mpr there⟩
  have untouched : (∀ row ∈ rows, row.key ≠ key) →
      (db.upsertStatsHourly rows).hourlyRow key = db.hourlyRow key := fun elsewhere =>
    worth_congr (lookup_writeRows_of_not_mem elsewhere)
  by_cases chosen : stored key = true
  · rw [if_pos chosen]
    cases found : worker.hourlyStats.lookup key with
    | none =>
      rw [TelemetryWorker.unsaved, worth_of_missing found, add_zero]
      apply untouched
      intro row member same
      rw [← same, (taken row member).2] at found
      cases found
    | some agg =>
      have member : (⟨key, agg, nowMs⟩ : StatsHourlyRow) ∈ rows :=
        List.mem_filter.mpr ⟨List.mem_map.mpr ⟨⟨key, agg⟩, AList.mem_lookup_iff.mp found, rfl⟩, chosen⟩
      have written := lookup_writeRows_of_mem StatsHourlyRow.upserted db.statsHourly distinct member
      rw [TelemetryWorker.unsaved, worth_of_lookup found, Database.hourlyRow,
        Database.upsertStatsHourly, worth_of_lookup written]
      cases kept : db.statsHourly.lookup key with
      | none =>
        rw [Database.hourlyRow, worth_of_missing kept, zero_add]
        rfl
      | some record =>
        rw [Database.hourlyRow, worth_of_lookup kept]
        exact HourlyStatsAgg.counts_plus record.stats agg
  · rw [if_neg chosen, add_zero]
    apply untouched
    intro row member same
    exact chosen (same ▸ (taken row member).1)

theorem unsaved_count (worker : TelemetryWorker) (event : TelemetryEvent) (moment : EventMoment)
    (key : HourlyKey) : (worker.count event moment).unsaved key =
      worker.unsaved key + if key = event.hourlyKey then event.hourlyCounts else 0 := by
  let weight := fun (_ : HourlyKey) agg => HourlyStatsAgg.counts agg
  have blank : weight event.hourlyKey .default = 0 := HourlyStatsAgg.counts_default
  have adds : ∀ agg, weight event.hourlyKey (agg.add event.ok event event.wait) =
      weight event.hourlyKey agg + event.hourlyCounts := fun agg => agg.counts_add event
  exact worth_updateEntry blank adds worker.hourlyStats key

theorem unsaved_empty {worker : TelemetryWorker} (empty : worker.hourlyStats = ∅)
    (key : HourlyKey) : worker.unsaved key = 0 := by
  rw [TelemetryWorker.unsaved, empty]
  exact worth_of_missing (AList.lookup_empty key)

/-- The upsert of the hourly rows stores the one of this key, whether it succeeds or not. -/
def FlushMoment.stores (moment : FlushMoment) (key : HourlyKey) : Bool :=
  moment.hourlyFail.all fun stored => key ∈ stored

/-- An upsert of hourly rows that fails does so at the first of them. -/
def FlushMoment.StoresAllOrNone (moment : FlushMoment) : Prop :=
  moment.hourlyFail = none ∨ moment.hourlyFail = some []

instance (moment : FlushMoment) : Decidable moment.StoresAllOrNone :=
  inferInstanceAs (Decidable (_ ∨ _))

namespace TelemetryWorld

variable (world : TelemetryWorld)

def tally (key : HourlyKey) : HourlyCounts := world.db.hourlyRow key + world.worker.unsaved key

def repeats (moment : FlushMoment) (key : HourlyKey) : HourlyCounts :=
  if world.worker.dirty ∧ moment.hourlyFail ≠ none ∧ moment.stores key then
    world.worker.unsaved key
  else 0

structure SameHourly (first second : TelemetryWorld) : Prop where
  hourlyStats : first.worker.hourlyStats = second.worker.hourlyStats
  statsHourly : first.db.statsHourly = second.db.statsHourly

variable {world}

theorem SameHourly.hourlyRow_eq {first second : TelemetryWorld} (same : SameHourly first second)
    (key : HourlyKey) : first.db.hourlyRow key = second.db.hourlyRow key := by
  rw [Database.hourlyRow, Database.hourlyRow, same.statsHourly]

theorem SameHourly.unsaved_eq {first second : TelemetryWorld} (same : SameHourly first second)
    (key : HourlyKey) : first.worker.unsaved key = second.worker.unsaved key := by
  rw [TelemetryWorker.unsaved, TelemetryWorker.unsaved, same.hourlyStats]

theorem SameHourly.tally_eq {first second : TelemetryWorld} (same : SameHourly first second)
    (key : HourlyKey) : first.tally key = second.tally key := by
  rw [tally, tally, same.hourlyRow_eq, same.unsaved_eq]

theorem SameStats.sameHourly {first second : TelemetryWorld} (same : SameStats first second) :
    SameHourly first second := ⟨same.hourlyStats, same.statsHourly⟩

theorem flushDaily_sameHourly (world : TelemetryWorld) (moment : FlushMoment) :
    SameHourly (world.flushDaily moment) world := by
  unfold flushDaily
  split <;> exact ⟨rfl, rfl⟩

theorem deleteBatches_sameHourly (world : TelemetryWorld) (cutoffDate : Int)
    (failsAt : Option Nat) (index batches : Nat) :
    SameHourly (world.deleteBatches cutoffDate failsAt index batches) world := by
  induction batches generalizing world index with
  | zero => exact ⟨rfl, rfl⟩
  | succ batches ih =>
    unfold deleteBatches
    split
    · exact ⟨rfl, rfl⟩
    dsimp only
    split
    · exact ⟨rfl, rfl⟩
    · have rest := ih { world with
        db := (world.db.deleteStatsDailyBefore cutoffDate world.worker.retention.deleteBatch).1 }
        (index + 1)
      exact ⟨rest.hourlyStats, rest.statsHourly⟩

theorem maybeRunRetention_sameHourly (world : TelemetryWorld) (moment : RetentionMoment) :
    SameHourly (world.maybeRunRetention moment) world := by
  unfold maybeRunRetention
  dsimp only
  split_ifs
  · exact ⟨rfl, rfl⟩
  · have deleted := deleteBatches_sameHourly { world with
      worker := { world.worker with
        nextRetentionRunMs := TelemetryWorker.nextRetention world.worker.retention moment.nowMs } }
      (world.cutoffDate moment) moment.deleteFailsAt 0 4
    exact ⟨deleted.hourlyStats, deleted.statsHourly⟩
  · exact ⟨rfl, rfl⟩

theorem flushStats_hourly (world : TelemetryWorld) (moment : FlushMoment) (key : HourlyKey) :
    (world.flushStats moment).db.hourlyRow key =
        world.db.hourlyRow key + (if moment.stores key then world.worker.unsaved key else 0) ∧
      (world.flushStats moment).worker.unsaved key =
        if moment.hourlyFail = none then 0 else world.worker.unsaved key := by
  have daily := flushDaily_sameHourly world moment
  unfold flushStats
  dsimp only
  split
  · rename_i empty
    have nothing : (world.flushDaily moment).worker.hourlyStats = ∅ :=
      AList.ext (List.isEmpty_iff.mp empty)
    have none_unsaved := unsaved_empty nothing key
    rw [daily.hourlyRow_eq, ← daily.unsaved_eq, none_unsaved, ite_self, ite_self, add_zero]
    exact ⟨rfl, rfl⟩
  · unfold flushHourly
    rw [← daily.hourlyRow_eq, ← daily.unsaved_eq]
    cases failure : moment.hourlyFail with
    | none =>
      have whole := hourlyRow_upsert (world.flushDaily moment).worker (world.flushDaily moment).db
        moment.nowMs (fun _ => true) key
      rw [List.filter_eq_self.mpr fun _ _ => rfl] at whole
      have every : moment.stores key = true := by simp [FlushMoment.stores, failure]
      rw [if_pos every, if_pos rfl]
      exact ⟨whole, unsaved_empty rfl key⟩
    | some stored =>
      have part := hourlyRow_upsert (world.flushDaily moment).worker (world.flushDaily moment).db
        moment.nowMs (fun key => decide (key ∈ stored)) key
      have these : moment.stores key = decide (key ∈ stored) := by
        simp [FlushMoment.stores, failure]
      have fails : ¬some stored = none := Option.some_ne_none stored
      rw [these, if_neg fails]
      exact ⟨part, rfl⟩

theorem flush_tally (world : TelemetryWorld) (moment : FlushMoment) (key : HourlyKey) :
    (world.flush moment).tally key = world.tally key + world.repeats moment key := by
  have same := (flush_sameStats world moment).sameHourly
  rw [same.tally_eq, flushDirty]
  by_cases dirty : world.worker.dirty = true
  · rw [if_pos dirty]
    have flushed := flushStats_hourly { world with
      worker := { world.worker with dirty := false } } moment key
    have kept : ∀ key, TelemetryWorker.unsaved { world.worker with dirty := false } key =
      world.worker.unsaved key := fun _ => rfl
    rw [tally, flushed.1, flushed.2, tally, repeats]
    simp only [kept]
    by_cases whole : moment.hourlyFail = none
    · have every : moment.stores key = true := by simp [FlushMoment.stores, whole]
      rw [if_pos every, if_pos whole, if_neg fun repeated => repeated.2.1 whole]
    · by_cases stored : moment.stores key = true
      · rw [if_pos stored, if_neg whole, if_pos ⟨dirty, whole, stored⟩]
      · rw [if_neg stored, if_neg whole, if_neg fun repeated => stored repeated.2.2, add_zero,
          add_zero]
  · rw [if_neg dirty, repeats, if_neg fun repeated => dirty repeated.1, add_zero]

theorem repeats_none {moment : FlushMoment} (whole : moment.StoresAllOrNone) (key : HourlyKey) :
    world.repeats moment key = 0 := by
  unfold repeats
  apply if_neg
  rintro ⟨-, fails, stored⟩
  rcases whole with none | nothing
  · exact fails none
  · simp [FlushMoment.stores, nothing] at stored

def countedAt (history : List Move) (key : HourlyKey) : HourlyCounts :=
  (history.map fun t => match t.action with
    | .event event _ => if event.countsForStats ∧ key = event.hourlyKey then event.hourlyCounts else 0
    | _ => 0).sum

def Repeats (t : Move) (key : HourlyKey) : HourlyCounts :=
  match t.action with
  | .event .. => 0
  | .flush moment => t.before.repeats moment key
  | .tick moment =>
    (if utcDay moment.nowMs = t.before.worker.currentDate then 0
      else t.before.repeats moment.rotation key) +
    (t.before.maybeRotateDay moment).repeats moment.write key

def FailsWhole : TelemetryAction → Prop
  | .event _ _ => True
  | .flush moment => moment.StoresAllOrNone
  | .tick moment => moment.rotation.StoresAllOrNone ∧ moment.write.StoresAllOrNone

instance (action : TelemetryAction) : Decidable (FailsWhole action) :=
  match action with
  | .event _ _ => inferInstanceAs (Decidable True)
  | .flush moment => inferInstanceAs (Decidable moment.StoresAllOrNone)
  | .tick moment => inferInstanceAs (Decidable (_ ∧ _))

theorem step_tally {world after : TelemetryWorld} {action : TelemetryAction}
    (taken : world.step action = some after) (key : HourlyKey) :
    after.tally key = world.tally key + countedAt [⟨world, action, after⟩] key +
      Repeats ⟨world, action, after⟩ key := by
  cases action with
  | event event moment =>
    by_cases counts : event.countsForStats = true
    · have same := (onEvent_counted taken counts).sameHourly
      have added := unsaved_count world.worker event moment key
      rw [same.tally_eq, tally]
      have stored : (world.withEvent event moment).db.hourlyRow key = world.db.hourlyRow key := rfl
      have unsaved : (world.withEvent event moment).worker.unsaved key = _ := added
      rw [stored, unsaved]
      simp [countedAt, Repeats, counts, tally, add_assoc]
    · have same := (onEvent_uncounted taken counts).sameHourly
      rw [same.tally_eq]
      simp [countedAt, Repeats, counts]
  | flush moment =>
    cases taken
    rw [flush_tally]
    simp [countedAt, Repeats]
  | tick moment =>
    cases taken
    have retained := maybeRunRetention_sameHourly
      ((world.maybeRotateDay moment).flush moment.write) moment.retention
    have rotated : (world.maybeRotateDay moment).tally key = world.tally key +
        if utcDay moment.nowMs = world.worker.currentDate then 0
        else world.repeats moment.rotation key := by
      unfold maybeRotateDay
      split
      · exact (add_zero _).symm
      · exact flush_tally world moment.rotation key
    rw [tick, retained.tally_eq, flush_tally, rotated]
    simp [countedAt, Repeats, add_assoc]

theorem countedAt_cons (t : Move) (history : List Move) (key : HourlyKey) :
    countedAt (t :: history) key = countedAt [t] key + countedAt history key := by
  simp [countedAt]

/-- In every run, what is stored for a key and what is yet to be added to it are the events of the
key and what failed upserts had stored before they failed. -/
theorem run_tally {start : TelemetryWorld} {history : List Move} {world : TelemetryWorld}
    (run : Run start history world) (key : HourlyKey) :
    world.tally key = start.tally key + countedAt history key +
      (history.map fun t => Repeats t key).sum := by
  refine run.invariant (P := fun history world => world.tally key = start.tally key +
    countedAt history key + (history.map fun t => Repeats t key).sum) ?_ ?_
  · simp [countedAt]
  · intro history before action after earlier taken
    rw [step_tally taken, earlier, countedAt_cons _ history, List.map_cons, List.sum_cons]
    ring

theorem repeats_of_failsWhole {t : Move} (whole : FailsWhole t.action) (key : HourlyKey) :
    Repeats t key = 0 := by
  obtain ⟨before, action, after⟩ := t
  cases action with
  | event event moment => rfl
  | flush moment => exact repeats_none whole key
  | tick moment =>
    have first := @repeats_none before moment.rotation whole.1 key
    have second := @repeats_none (before.maybeRotateDay moment) moment.write whole.2 key
    simp only [Repeats, first, second, ite_self, add_zero]

theorem run_tally_whole {db : Database} {logBatchMax : Nat} {retention : RetentionPolicy}
    {startMs : Int} {history : List Move} {world : TelemetryWorld}
    (run : Run (new db logBatchMax retention startMs) history world)
    (whole : ∀ t ∈ history, FailsWhole t.action) (key : HourlyKey) :
    world.tally key = db.hourlyRow key + countedAt history key := by
  have none_repeated : (history.map fun t => Repeats t key).sum = 0 := by
    apply List.sum_eq_zero
    intro amount member
    obtain ⟨t, there, same⟩ := List.mem_map.mp member
    rw [← same]
    exact repeats_of_failsWhole (whole t there) key
  have nothing : (new db logBatchMax retention startMs).worker.unsaved key = 0 :=
    unsaved_empty rfl key
  rw [run_tally run key, none_repeated, add_zero, tally, nothing, add_zero]
  rfl

/-- A flush that stores every hourly row now leaves each event that the run has counted once in the
row of its key. -/
def CountsOnce (start : TelemetryWorld) (history : List Move) (world : TelemetryWorld) : Prop :=
  ∀ moment : FlushMoment, moment.hourlyFail = none → ∀ key,
    (world.flushStats moment).db.hourlyRow key = start.db.hourlyRow key + countedAt history key

/-- Hourly statistics are counted once in every run in which no upsert fails between two rows. -/
theorem run_countsOnce {db : Database} {logBatchMax : Nat} {retention : RetentionPolicy}
    {startMs : Int} {history : List Move} {world : TelemetryWorld}
    (run : Run (new db logBatchMax retention startMs) history world)
    (whole : ∀ t ∈ history, FailsWhole t.action) :
    CountsOnce (new db logBatchMax retention startMs) history world := by
  intro moment taken key
  have every : moment.stores key = true := by simp [FlushMoment.stores, taken]
  have flushed := (flushStats_hourly world moment key).1
  rw [if_pos every] at flushed
  rw [flushed]
  exact run_tally_whole run whole key

def requestOf (apiKeyId : Int) : TelemetryAction :=
  .event (failedRequest apiKeyId 5 false "") ⟨"event", "log", 5, false, false⟩

def failedUpsert (stored : List HourlyKey) : List TelemetryAction :=
  [.flush ⟨6, false, some stored, false, false⟩, requestOf 2, requestOf 1]

theorem run_countsOnce_failed :
    ∃ run, replay step firstWorld (failedUpsert []) = some run ∧
      CountsOnce firstWorld run.1 run.2 := by
  have replayed : ∃ run, replay step firstWorld (failedUpsert []) = some run ∧
      ∀ t ∈ run.1, FailsWhole t.action := ⟨_, rfl, by decide⟩
  obtain ⟨⟨history, world⟩, replayed, whole⟩ := replayed
  exact ⟨(history, world), replayed, run_countsOnce (replay_run replayed) whole⟩

/-- The row of the first key is stored before the upsert fails at that of the second. -/
theorem run_countsOnce_fails :
    ∃ history, ∃ world, Run firstWorld history world ∧ ¬CountsOnce firstWorld history world := by
  let key := (failedRequest 1 5 false "").hourlyKey
  have replayed : ∃ run, replay step firstWorld (failedUpsert [key]) = some run ∧
      (run.2.flushStats (flushAt 7 false)).db.hourlyRow key (.stats .requestFailed) = 2 ∧
      firstWorld.db.hourlyRow key (.stats .requestFailed) +
        countedAt run.1 key (.stats .requestFailed) = 1 :=
    ⟨_, rfl, by decide, by decide⟩
  obtain ⟨⟨history, world⟩, replayed, stored, events⟩ := replayed
  refine ⟨history, world, replay_run replayed, ?_⟩
  intro once
  have same := congrFun (once (flushAt 7 false) rfl key) (.stats .requestFailed)
  rw [Pi.add_apply, stored, events] at same
  exact absurd same (by decide)

end TelemetryWorld

end CodexGate.Telemetry
