import CodexGate.Telemetry.Worker
import Mathlib.Algebra.Ring.Pi
import Mathlib.Tactic.LinearCombination

namespace CodexGate.Telemetry

open Foundation

def Database.daily (db : Database) (date key : Int) : Counts :=
  worth (fun _ record => record.stats.counts) db.statsDaily (date, key)

def Database.dailyTotal (db : Database) (key : Int) : Counts :=
  total (fun place record => if place.2 = key then record.stats.counts else 0) db.statsDaily

def TelemetryWorker.held (worker : TelemetryWorker) (key : Int) : Counts :=
  worth (fun _ agg => agg.counts) worker.statsByKey key

def TelemetryEvent.countedFor (event : TelemetryEvent) (key : Int) : Counts :=
  if event.countsForStats ∧ (key = 0 ∨ event.apiKeyId = key) then event.counts else 0

/-- What an event adds to the total of a key: once to that of its own key, once to that of key 0. -/
def TelemetryEvent.entered (event : TelemetryEvent) (key : Int) : Counts :=
  if event.countsForStats then
    (if key = event.apiKeyId then event.counts else 0) + if key = 0 then event.counts else 0
  else 0

theorem worth_updateEntry {κ ν M : Type} [DecidableEq κ] [AddMonoid M] {weight : κ → ν → M}
    {place : κ} {blank : ν} {change : ν → ν} {added : M} (nothing : weight place blank = 0)
    (adds : ∀ row, weight place (change row) = weight place row + added)
    (table : HashMap κ ν) (key : κ) :
    worth weight (updateEntry table place blank change) key =
      worth weight table key + if key = place then added else 0 := by
  by_cases here : key = place
  · subst here
    rw [updateEntry, worth_insert_self, adds, if_pos rfl]
    cases found : table.lookup key with
    | none => rw [Option.getD_none, nothing, worth_of_missing found]
    | some row => rw [Option.getD_some, worth_of_lookup found]
  · rw [updateEntry, worth_insert_of_ne table _ here, if_neg here, add_zero]

theorem daily_rows_distinct (db : Database) (date : Int) :
    ((db.listStatsDailyByDate date).map StatsDailyRow.apiKeyId).Nodup := by
  have keys : ((db.statsDaily.entries.filter fun entry => entry.1.1 = date).map Sigma.fst).Nodup :=
    List.Nodup.sublist (List.filter_sublist.map Sigma.fst) db.statsDaily.keys_nodup
  have dates : ∀ place ∈ (db.statsDaily.entries.filter fun entry => entry.1.1 = date).map Sigma.fst,
      place.1 = date := by
    intro place member
    obtain ⟨entry, kept, same⟩ := List.mem_map.mp member
    subst same
    exact of_decide_eq_true (List.mem_filter.mp kept).2
  rw [Database.listStatsDailyByDate, List.map_map]
  have apart := List.Nodup.map_on (f := Prod.snd) ?_ keys
  · rwa [List.map_map] at apart
  · intro first left second right same
    exact Prod.ext ((dates first left).trans (dates second right).symm) same

theorem mem_listStatsDailyByDate {db : Database} {date : Int} {row : StatsDailyRow} :
    row ∈ db.listStatsDailyByDate date ↔
      row.date = date ∧
        db.statsDaily.lookup (date, row.apiKeyId) = some ⟨row.stats, row.updatedAtMs⟩ := by
  rw [Database.listStatsDailyByDate, List.mem_map]
  constructor
  · rintro ⟨entry, kept, same⟩
    subst same
    obtain ⟨member, day⟩ := List.mem_filter.mp kept
    have day : entry.1.1 = date := of_decide_eq_true day
    subst day
    exact ⟨rfl, AList.mem_lookup_iff.mpr member⟩
  · rintro ⟨day, found⟩
    refine ⟨⟨(date, row.apiKeyId), ⟨row.stats, row.updatedAtMs⟩⟩, ?_, ?_⟩
    · exact List.mem_filter.mpr ⟨AList.mem_lookup_iff.mp found, decide_eq_true rfl⟩
    · subst day
      rfl

theorem held_load (db : Database) (date key : Int) :
    worth (fun _ agg => StatsAgg.counts agg) (loadStats (db.listStatsDailyByDate date) ∅) key =
      db.daily date key := by
  cases found : db.statsDaily.lookup (date, key) with
  | none =>
    rw [Database.daily, worth_of_missing found, worth_of_missing]
    rw [loadStats, lookup_writeRows_of_not_mem, AList.lookup_empty]
    intro row member same
    subst same
    rw [(mem_listStatsDailyByDate.mp member).2] at found
    cases found
  | some record =>
    have member : (⟨date, key, record.stats, record.updatedAtMs⟩ : StatsDailyRow) ∈
        db.listStatsDailyByDate date := mem_listStatsDailyByDate.mpr ⟨rfl, found⟩
    have loaded := lookup_writeRows_of_mem (fun _ row => StatsDailyRow.stats row) ∅
      (daily_rows_distinct db date) member
    rw [Database.daily, worth_of_lookup found, loadStats, worth_of_lookup loaded]

theorem dailyRows_distinct (worker : TelemetryWorker) (nowMs : Int) :
    ((worker.dailyRows nowMs).map fun row => (row.date, row.apiKeyId)).Nodup := by
  rw [TelemetryWorker.dailyRows, List.map_map]
  have keys : (worker.statsByKey.entries.map Sigma.fst).Nodup := worker.statsByKey.nodupKeys
  have apart := keys.map (f := fun key => (worker.currentDate, key)) fun _ _ same =>
    congrArg Prod.snd same
  rwa [List.map_map] at apart

theorem lookup_upsert_of_held {worker : TelemetryWorker} {key : Int} {agg : StatsAgg}
    (found : worker.statsByKey.lookup key = some agg) (db : Database) (nowMs : Int) :
    (db.upsertStatsDaily (worker.dailyRows nowMs)).statsDaily.lookup (worker.currentDate, key) =
      some ⟨agg, nowMs⟩ := by
  have member : (⟨worker.currentDate, key, agg, nowMs⟩ : StatsDailyRow) ∈ worker.dailyRows nowMs :=
    List.mem_map.mpr ⟨⟨key, agg⟩, AList.mem_lookup_iff.mp found, rfl⟩
  exact lookup_writeRows_of_mem _ db.statsDaily (dailyRows_distinct worker nowMs) member

theorem lookup_upsert_of_not_held {worker : TelemetryWorker} {date key : Int}
    (elsewhere : date ≠ worker.currentDate ∨ worker.statsByKey.lookup key = none) (db : Database)
    (nowMs : Int) :
    (db.upsertStatsDaily (worker.dailyRows nowMs)).statsDaily.lookup (date, key) =
      db.statsDaily.lookup (date, key) := by
  apply lookup_writeRows_of_not_mem
  intro row member same
  obtain ⟨entry, there, row'⟩ := List.mem_map.mp member
  subst row'
  obtain ⟨day, here⟩ := Prod.mk.inj same
  rcases elsewhere with other | missing
  · exact other day.symm
  · subst here
    rw [AList.mem_lookup_iff.mpr there] at missing
    cases missing

namespace TelemetryWorld

variable (world : TelemetryWorld)

def daily (key : Int) : Counts := world.db.daily world.worker.currentDate key

def held (key : Int) : Counts := world.worker.held key

def accounted (key : Int) : Counts := world.db.dailyTotal key + (world.held key - world.daily key)

def Loaded : Prop := ∀ key, world.worker.statsByKey.lookup key = none → world.daily key = 0

def Settled : Prop := ∀ key, world.daily key = world.held key

variable {world}

theorem Settled.loaded (settled : world.Settled) : world.Loaded := by
  intro key missing
  rw [settled key, held, TelemetryWorker.held, worth_of_missing missing]

theorem Settled.accounted (settled : world.Settled) (key : Int) :
    world.accounted key = world.db.dailyTotal key := by
  rw [TelemetryWorld.accounted, settled key, sub_self, add_zero]

structure SameStats (first second : TelemetryWorld) : Prop where
  currentDate : first.worker.currentDate = second.worker.currentDate
  statsByKey : first.worker.statsByKey = second.worker.statsByKey
  hourlyStats : first.worker.hourlyStats = second.worker.hourlyStats
  dirty : first.worker.dirty = second.worker.dirty
  retention : first.worker.retention = second.worker.retention
  statsDaily : first.db.statsDaily = second.db.statsDaily
  statsHourly : first.db.statsHourly = second.db.statsHourly

theorem SameStats.refl (world : TelemetryWorld) : SameStats world world :=
  ⟨rfl, rfl, rfl, rfl, rfl, rfl, rfl⟩

theorem SameStats.trans {first second third : TelemetryWorld} (left : SameStats first second)
    (right : SameStats second third) : SameStats first third where
  currentDate := left.currentDate.trans right.currentDate
  statsByKey := left.statsByKey.trans right.statsByKey
  hourlyStats := left.hourlyStats.trans right.hourlyStats
  dirty := left.dirty.trans right.dirty
  retention := left.retention.trans right.retention
  statsDaily := left.statsDaily.trans right.statsDaily
  statsHourly := left.statsHourly.trans right.statsHourly

section SameStats

variable {first second : TelemetryWorld} (same : SameStats first second)
include same

theorem SameStats.held_eq (key : Int) : first.held key = second.held key := by
  rw [held, held, TelemetryWorker.held, TelemetryWorker.held, same.statsByKey]

theorem SameStats.dailyOf_eq (date key : Int) :
    first.db.daily date key = second.db.daily date key := by
  rw [Database.daily, Database.daily, same.statsDaily]

theorem SameStats.daily_eq (key : Int) : first.daily key = second.daily key := by
  rw [daily, daily, same.currentDate, same.dailyOf_eq]

theorem SameStats.dailyTotal_eq (key : Int) :
    first.db.dailyTotal key = second.db.dailyTotal key := by
  rw [Database.dailyTotal, Database.dailyTotal, same.statsDaily]

theorem SameStats.accounted_eq (key : Int) : first.accounted key = second.accounted key := by
  rw [accounted, accounted, same.dailyTotal_eq, same.held_eq, same.daily_eq]

theorem SameStats.loaded (loaded : second.Loaded) : first.Loaded := by
  intro key missing
  rw [same.statsByKey] at missing
  rw [same.daily_eq]
  exact loaded key missing

theorem SameStats.settled (settled : second.Settled) : first.Settled := by
  intro key
  rw [same.daily_eq, same.held_eq]
  exact settled key

end SameStats

theorem flushLogs_sameStats (world : TelemetryWorld) (fails : Bool) :
    SameStats (world.flushLogs fails) world := by
  unfold flushLogs
  split <;> exact ⟨rfl, rfl, rfl, rfl, rfl, rfl, rfl⟩

theorem flushStatsEvents_sameStats (world : TelemetryWorld) (fails : Bool) :
    SameStats (world.flushStatsEvents fails) world := by
  unfold flushStatsEvents
  split <;> exact ⟨rfl, rfl, rfl, rfl, rfl, rfl, rfl⟩

theorem flush_sameStats (world : TelemetryWorld) (moment : FlushMoment) :
    SameStats (world.flush moment) (world.flushDirty moment) :=
  (flushStatsEvents_sameStats _ _).trans (flushLogs_sameStats _ _)

def WritesDaily (world : TelemetryWorld) (moment : FlushMoment) : Prop :=
  world.worker.dirty = true ∧ moment.dailyFails = false

theorem flushHourly_daily (world : TelemetryWorld) (moment : FlushMoment) :
    (world.flushHourly moment).worker.currentDate = world.worker.currentDate ∧
      (world.flushHourly moment).worker.statsByKey = world.worker.statsByKey ∧
      (world.flushHourly moment).worker.retention = world.worker.retention ∧
      (world.flushHourly moment).db.statsDaily = world.db.statsDaily := by
  unfold flushHourly
  cases moment.hourlyFail <;> exact ⟨rfl, rfl, rfl, rfl⟩

theorem flushStats_daily (world : TelemetryWorld) (moment : FlushMoment) :
    (world.flushStats moment).worker.currentDate = world.worker.currentDate ∧
      (world.flushStats moment).worker.statsByKey = world.worker.statsByKey ∧
      (world.flushStats moment).worker.retention = world.worker.retention ∧
      (world.flushStats moment).db.statsDaily = (world.flushDaily moment).db.statsDaily := by
  have before : (world.flushDaily moment).worker.currentDate = world.worker.currentDate ∧
      (world.flushDaily moment).worker.statsByKey = world.worker.statsByKey ∧
      (world.flushDaily moment).worker.retention = world.worker.retention := by
    unfold flushDaily
    split <;> exact ⟨rfl, rfl, rfl⟩
  have hourly := flushHourly_daily (world.flushDaily moment) moment
  unfold flushStats
  dsimp only
  split
  · exact ⟨before.1, before.2.1, before.2.2, rfl⟩
  · exact ⟨hourly.1.trans before.1, hourly.2.1.trans before.2.1,
      hourly.2.2.1.trans before.2.2, hourly.2.2.2⟩

section Flush

variable (world : TelemetryWorld) (moment : FlushMoment)

theorem flush_currentDate : (world.flush moment).worker.currentDate = world.worker.currentDate := by
  rw [(flush_sameStats world moment).currentDate, flushDirty]
  split
  · exact (flushStats_daily _ moment).1
  · rfl

theorem flush_statsByKey : (world.flush moment).worker.statsByKey = world.worker.statsByKey := by
  rw [(flush_sameStats world moment).statsByKey, flushDirty]
  split
  · exact (flushStats_daily _ moment).2.1
  · rfl

variable {world moment}

theorem flush_statsDaily_of_writes (writes : world.WritesDaily moment) :
    (world.flush moment).db.statsDaily =
      (world.db.upsertStatsDaily (world.worker.dailyRows moment.nowMs)).statsDaily := by
  rw [(flush_sameStats world moment).statsDaily, flushDirty, if_pos writes.1,
    (flushStats_daily _ moment).2.2.2, flushDaily, if_neg (by simp [writes.2])]
  rfl

theorem flush_statsDaily_of_not_writes (idle : ¬world.WritesDaily moment) :
    (world.flush moment).db.statsDaily = world.db.statsDaily := by
  rw [(flush_sameStats world moment).statsDaily, flushDirty]
  split
  · next dirty =>
    have fails : moment.dailyFails = true := by
      by_contra taken
      exact idle ⟨dirty, Bool.eq_false_of_not_eq_true taken⟩
    rw [(flushStats_daily _ moment).2.2.2, flushDaily, if_pos fails]
  · rfl

theorem flush_dirty (clean : (world.flush moment).worker.dirty = false) :
    world.worker.dirty = false ∨ world.WritesDaily moment := by
  by_cases dirty : world.worker.dirty = true
  · right
    refine ⟨dirty, ?_⟩
    by_contra failed
    have fails : moment.dailyFails = true := by rwa [Bool.not_eq_false] at failed
    rw [(flush_sameStats world moment).dirty, flushDirty, if_pos dirty, flushStats, flushDaily,
      if_pos fails] at clean
    dsimp only at clean
    split at clean
    · cases clean
    · unfold flushHourly at clean
      cases failure : moment.hourlyFail <;> rw [failure] at clean <;> cases clean
  · exact .inl (Bool.eq_false_of_not_eq_true dirty)

theorem flush_held (key : Int) : (world.flush moment).held key = world.held key := by
  rw [held, held, TelemetryWorker.held, TelemetryWorker.held, flush_statsByKey]

theorem flush_settled_of_writes (loaded : world.Loaded) (writes : world.WritesDaily moment) :
    (world.flush moment).Settled := by
  intro key
  rw [flush_held, daily, Database.daily, flush_currentDate, flush_statsDaily_of_writes writes]
  cases found : world.worker.statsByKey.lookup key with
  | none =>
    have kept : (world.db.upsertStatsDaily (world.worker.dailyRows moment.nowMs)).statsDaily.lookup
        (world.worker.currentDate, key) = world.db.statsDaily.lookup (world.worker.currentDate, key) :=
      lookup_upsert_of_not_held (.inr found) world.db moment.nowMs
    rw [worth_congr kept, held, TelemetryWorker.held, worth_of_missing found]
    exact loaded key found
  | some agg =>
    have written := lookup_upsert_of_held found world.db moment.nowMs
    rw [worth_of_lookup written, held, TelemetryWorker.held, worth_of_lookup found]

theorem flush_dailyOf_of_not_writes (idle : ¬world.WritesDaily moment) (date key : Int) :
    (world.flush moment).db.daily date key = world.db.daily date key := by
  rw [Database.daily, Database.daily, flush_statsDaily_of_not_writes idle]

theorem flush_dailyOf_of_ne {date : Int} (other : date ≠ world.worker.currentDate) (key : Int) :
    (world.flush moment).db.daily date key = world.db.daily date key := by
  by_cases writes : world.WritesDaily moment
  · rw [Database.daily, Database.daily, flush_statsDaily_of_writes writes]
    exact worth_congr (lookup_upsert_of_not_held (.inl other) world.db moment.nowMs)
  · exact flush_dailyOf_of_not_writes writes date key

theorem flush_loaded (loaded : world.Loaded) : (world.flush moment).Loaded := by
  by_cases writes : world.WritesDaily moment
  · exact (flush_settled_of_writes loaded writes).loaded
  · intro key missing
    rw [flush_statsByKey] at missing
    rw [daily, flush_currentDate, flush_dailyOf_of_not_writes writes]
    exact loaded key missing

theorem flush_settled (settled : world.Settled) : (world.flush moment).Settled := by
  by_cases writes : world.WritesDaily moment
  · exact flush_settled_of_writes settled.loaded writes
  · intro key
    rw [daily, flush_currentDate, flush_dailyOf_of_not_writes writes, flush_held]
    exact settled key

end Flush

theorem dailyTotal_replaced (before after : Database) (date key : Int)
    (others : ∀ other, other ≠ date → after.daily other key = before.daily other key) :
    after.dailyTotal key + before.daily date key = before.dailyTotal key + after.daily date key := by
  have weigh : ∀ (db : Database) place,
      worth (fun (place : Int × Int) (record : DailyRecord) =>
        if place.2 = key then record.stats.counts else (0 : Counts)) db.statsDaily place =
      if place.2 = key then db.daily place.1 key else 0 := by
    intro db place
    by_cases here : place.2 = key
    · subst here
      rw [if_pos rfl, Database.daily, worth, worth]
      simp
    · rw [if_neg here, worth]
      cases db.statsDaily.lookup place with
      | none => rfl
      | some record => exact if_neg here
  have replaced := total_replaced (fun (place : Int × Int) (record : DailyRecord) =>
      if place.2 = key then record.stats.counts else (0 : Counts))
    before.statsDaily after.statsDaily (date, key) (by
      intro place apart
      rw [weigh, weigh]
      split
      · next here =>
        apply others
        intro same
        exact apart (Prod.ext same here)
      · rfl)
  rwa [weigh, weigh, if_pos rfl, if_pos rfl] at replaced

theorem flush_accounted (world : TelemetryWorld) (moment : FlushMoment) (key : Int) :
    (world.flush moment).accounted key = world.accounted key := by
  have replaced := dailyTotal_replaced world.db (world.flush moment).db world.worker.currentDate
    key fun other apart => flush_dailyOf_of_ne apart key
  rw [accounted, accounted, flush_held, daily, flush_currentDate, daily]
  linear_combination replaced

theorem logEvent_sameStats {world after : TelemetryWorld} {event : TelemetryEvent}
    {moment : EventMoment} (logged : world.logEvent event moment = some after) :
    SameStats after world := by
  unfold logEvent at logged
  split at logged
  · obtain ⟨errorMessage, _, same⟩ := Option.map_eq_some_iff.mp logged
    subst same
    dsimp only
    split
    · exact (flushLogs_sameStats _ _).trans ⟨rfl, rfl, rfl, rfl, rfl, rfl, rfl⟩
    · exact ⟨rfl, rfl, rfl, rfl, rfl, rfl, rfl⟩
  · cases logged
    exact .refl world

def withEvent (world : TelemetryWorld) (event : TelemetryEvent) (moment : EventMoment) :
    TelemetryWorld :=
  { world with worker := world.worker.count event moment }

theorem onEvent_counted {world after : TelemetryWorld} {event : TelemetryEvent}
    {moment : EventMoment} (taken : world.onEvent event moment = some after)
    (counts : event.countsForStats = true) : SameStats after (world.withEvent event moment) := by
  refine (logEvent_sameStats taken).trans ?_
  rw [countEvent, if_pos counts]
  dsimp only
  split
  · exact flushStatsEvents_sameStats _ _
  · exact .refl _

theorem onEvent_uncounted {world after : TelemetryWorld} {event : TelemetryEvent}
    {moment : EventMoment} (taken : world.onEvent event moment = some after)
    (ignored : ¬event.countsForStats = true) : SameStats after world := by
  have logged := logEvent_sameStats taken
  rwa [countEvent, if_neg ignored] at logged

theorem withEvent_entered (world : TelemetryWorld) {event : TelemetryEvent} (moment : EventMoment)
    (counts : event.countsForStats = true) (key : Int) :
    (world.withEvent event moment).held key = world.held key + event.entered key := by
  have once : ∀ (stats : HashMap Int StatsAgg) place,
      worth (fun _ agg => StatsAgg.counts agg) (updateEntry stats place .default fun agg =>
        agg.add event.ok event.usage event.usageObserved event.wait) key =
      worth (fun _ agg => StatsAgg.counts agg) stats key +
        if key = place then event.counts else 0 := fun stats place =>
    worth_updateEntry StatsAgg.counts_default (fun agg => agg.counts_add event) stats key
  rw [held, TelemetryWorker.held, withEvent, TelemetryWorker.count, TelemetryEvent.entered,
    if_pos counts, ← add_assoc]
  dsimp only
  rw [once, once]
  rfl

theorem withEvent_held (world : TelemetryWorld) {event : TelemetryEvent} (moment : EventMoment)
    (counts : event.countsForStats = true) (owned : event.apiKeyId ≠ 0) (key : Int) :
    (world.withEvent event moment).held key = world.held key + event.countedFor key := by
  rw [withEvent_entered world moment counts, TelemetryEvent.entered, if_pos counts,
    TelemetryEvent.countedFor]
  congr 1
  by_cases everyKey : key = 0
  · subst everyKey
    rw [if_neg owned.symm, if_pos rfl, if_pos ⟨counts, .inl rfl⟩, zero_add]
  · by_cases own : event.apiKeyId = key
    · rw [if_pos own.symm, if_neg everyKey, if_pos ⟨counts, .inr own⟩, add_zero]
    · rw [if_neg (Ne.symm own), if_neg everyKey, if_neg (by simp [everyKey, own]), add_zero]

theorem updateEntry_missing {κ ν : Type} [DecidableEq κ] {table : HashMap κ ν} {place key : κ}
    {blank : ν} {change : ν → ν}
    (missing : (updateEntry table place blank change).lookup key = none) :
    table.lookup key = none := by
  by_cases here : key = place
  · subst here
    rw [updateEntry, AList.lookup_insert] at missing
    cases missing
  · rwa [updateEntry, AList.lookup_insert_ne here] at missing

theorem withEvent_loaded {world : TelemetryWorld} (loaded : world.Loaded) (event : TelemetryEvent)
    (moment : EventMoment) : (world.withEvent event moment).Loaded := fun key missing =>
  loaded key (updateEntry_missing (updateEntry_missing missing))

theorem beginDay_settled {world : TelemetryWorld} {nowMs : Int} {listFails : Bool}
    (known : listFails = false ∨ ∀ key, world.db.daily (utcDay nowMs) key = 0) :
    (world.beginDay nowMs listFails).Settled := by
  intro key
  change world.db.daily (utcDay nowMs) key = worth (fun _ agg => StatsAgg.counts agg)
    (loadStats (if listFails then [] else world.db.listStatsDailyByDate (utcDay nowMs)) ∅) key
  by_cases fails : listFails = true
  · rw [if_pos fails]
    rcases known with read | nothing
    · rw [fails] at read
      cases read
    · rw [nothing key]
      exact (worth_of_missing (AList.lookup_empty key)).symm
  · rw [if_neg fails, held_load]

theorem new_settled (db : Database) (logBatchMax : Nat) (retention : RetentionPolicy)
    (nowMs : Int) : (new db logBatchMax retention nowMs).Settled := fun key =>
  (held_load db (utcDay nowMs) key).symm

def Retains (world : TelemetryWorld) (moment : RetentionMoment) : Prop :=
  world.worker.retention.statsDailyRetentionDays = 0 ∨
    ∀ place ∈ world.db.statsDaily.keys, world.cutoffDate moment ≤ place.1

instance (world : TelemetryWorld) (moment : RetentionMoment) : Decidable (world.Retains moment) :=
  inferInstanceAs (Decidable (_ ∨ _))

theorem deleteStatsDailyBefore_of_recent {db : Database} {cutoffDate : Int}
    (recent : ∀ place ∈ db.statsDaily.keys, cutoffDate ≤ place.1) (limit : Nat) :
    db.deleteStatsDailyBefore cutoffDate limit = (db, 0) := by
  have none : (db.statsDaily.keys.filter fun place => place.1 < cutoffDate) = [] := by
    rw [List.filter_eq_nil_iff]
    intro place member old
    have young := recent place member
    have before := of_decide_eq_true old
    omega
  simp [Database.deleteStatsDailyBefore, none]

theorem deleteBatches_of_recent {world : TelemetryWorld} {cutoffDate : Int}
    (recent : ∀ place ∈ world.db.statsDaily.keys, cutoffDate ≤ place.1) (failsAt : Option Nat)
    (index batches : Nat) : world.deleteBatches cutoffDate failsAt index batches = world := by
  induction batches generalizing index with
  | zero => rfl
  | succ batches ih =>
    rw [deleteBatches]
    split
    · rfl
    · simp only [deleteStatsDailyBefore_of_recent recent, ih, ite_self]

theorem maybeRunRetention_sameStats {world : TelemetryWorld} {moment : RetentionMoment}
    (retains : world.Retains moment) : SameStats (world.maybeRunRetention moment) world := by
  unfold maybeRunRetention
  dsimp only
  split_ifs with skipped enabled
  · exact .refl world
  · rcases retains with off | recent
    · omega
    · rw [deleteBatches_of_recent]
      · exact ⟨rfl, rfl, rfl, rfl, rfl, rfl, rfl⟩
      · exact recent
  · exact ⟨rfl, rfl, rfl, rfl, rfl, rfl, rfl⟩

end TelemetryWorld

end CodexGate.Telemetry
