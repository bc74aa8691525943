import CodexGate.Telemetry.Books
import CodexGate.Telemetry.Messages
import Mathlib.Tactic.Ring

namespace CodexGate.Telemetry

open Foundation

def FlushMoment.Succeeds (moment : FlushMoment) : Prop :=
  moment.dailyFails = false ∧ moment.hourlyFail = none

namespace TelemetryWorld

abbrev Move := Transition TelemetryWorld TelemetryAction

/-- What the events of a run amount to for a key; key 0 is for all of them. -/
def counted (history : List Move) (key : Int) : Counts :=
  (history.map fun t => match t.action with
    | .event event _ => event.countedFor key
    | _ => 0).sum

/-- A flush that succeeds now leaves every event that the run has counted once in the rows of its
key, and once in the rows of key 0. -/
def CountsEvery (start : TelemetryWorld) (history : List Move) (world : TelemetryWorld) : Prop :=
  ∀ moment : FlushMoment, moment.Succeeds → ∀ key,
    (world.flush moment).db.dailyTotal key = start.db.dailyTotal key + counted history key

def saved (world : TelemetryWorld) : Bool :=
  world.worker.statsByKey.entries.all fun entry =>
    (world.db.statsDaily.lookup (world.worker.currentDate, entry.1)).map DailyRecord.stats =
      some entry.2

def ClosesDay (world : TelemetryWorld) (moment : TickMoment) : Prop :=
  utcDay moment.nowMs = world.worker.currentDate ∨
    (world.worker.dirty = false ∨ moment.rotation.dailyFails = false ∨ world.saved = true) ∧
      (moment.listFails = false ∨
        ∀ place ∈ world.db.statsDaily.keys, place.1 ≠ utcDay moment.nowMs)

def Keeps (t : Move) : Prop :=
  match t.action with
  | .event event _ => event.countsForStats = true → event.apiKeyId ≠ 0
  | .flush _ => True
  | .tick moment => t.before.ClosesDay moment ∧
    ((t.before.maybeRotateDay moment).flush moment.write).Retains moment.retention

instance (world : TelemetryWorld) (moment : TickMoment) : Decidable (world.ClosesDay moment) :=
  inferInstanceAs (Decidable (_ ∨ _))

instance (t : Move) : Decidable (Keeps t) :=
  match t with
  | ⟨_, .event event _, _⟩ =>
    inferInstanceAs (Decidable (event.countsForStats = true → event.apiKeyId ≠ 0))
  | ⟨_, .flush _, _⟩ => inferInstanceAs (Decidable True)
  | ⟨before, .tick moment, _⟩ => inferInstanceAs (Decidable (before.ClosesDay moment ∧
      ((before.maybeRotateDay moment).flush moment.write).Retains moment.retention))

structure Balanced (world : TelemetryWorld) : Prop where
  loaded : world.Loaded
  clean : world.worker.dirty = false → world.Settled

theorem settled_of_saved {world : TelemetryWorld} (loaded : world.Loaded)
    (saved : world.saved = true) : world.Settled := by
  intro key
  cases found : world.worker.statsByKey.lookup key with
  | none => rw [loaded key found, held, TelemetryWorker.held, worth_of_missing found]
  | some agg =>
    have stored := of_decide_eq_true (List.all_eq_true.mp saved ⟨key, agg⟩
      (AList.mem_lookup_iff.mp found))
    obtain ⟨record, there, same⟩ := Option.map_eq_some_iff.mp stored
    rw [daily, Database.daily, worth_of_lookup there, held, TelemetryWorker.held,
      worth_of_lookup found, same]

theorem Balanced.sameStats {world other : TelemetryWorld} (balanced : other.Balanced)
    (same : SameStats world other) : world.Balanced where
  loaded := same.loaded balanced.loaded
  clean clean := same.settled (balanced.clean (same.dirty ▸ clean))

theorem Balanced.flush {world : TelemetryWorld} (balanced : world.Balanced)
    (moment : FlushMoment) : (world.flush moment).Balanced where
  loaded := flush_loaded balanced.loaded
  clean clean := by
    rcases flush_dirty clean with before | writes
    · exact flush_settled (balanced.clean before)
    · exact flush_settled_of_writes balanced.loaded writes

theorem Balanced.flush_settled {world : TelemetryWorld} (balanced : world.Balanced)
    {moment : FlushMoment} (taken : moment.dailyFails = false) : (world.flush moment).Settled := by
  by_cases dirty : world.worker.dirty = true
  · exact flush_settled_of_writes balanced.loaded ⟨dirty, taken⟩
  · exact TelemetryWorld.flush_settled (balanced.clean (Bool.eq_false_of_not_eq_true dirty))

theorem Balanced.rotate {world : TelemetryWorld} (balanced : world.Balanced) {moment : TickMoment}
    (closes : world.ClosesDay moment) :
    (world.maybeRotateDay moment).Balanced ∧
      ∀ key, (world.maybeRotateDay moment).accounted key = world.accounted key := by
  unfold maybeRotateDay
  split
  · exact ⟨balanced, fun _ => rfl⟩
  · next changes =>
    obtain ⟨unsaved, known⟩ := closes.resolve_left changes
    have closed : (world.flush moment.rotation).Settled := by
      rcases unsaved with clean | taken | saved
      · exact TelemetryWorld.flush_settled (balanced.clean clean)
      · exact balanced.flush_settled taken
      · exact TelemetryWorld.flush_settled (settled_of_saved balanced.loaded saved)
    have begun : ((world.flush moment.rotation).beginDay moment.nowMs moment.listFails).Settled := by
      apply beginDay_settled
      rcases known with read | nothing
      · exact .inl read
      · right
        intro key
        rw [flush_dailyOf_of_ne changes]
        apply worth_of_missing
        rw [AList.lookup_eq_none, AList.mem_keys]
        exact fun there => nothing _ there rfl
    refine ⟨⟨begun.loaded, fun _ => begun⟩, ?_⟩
    intro key
    rw [begun.accounted, ← flush_accounted world moment.rotation, closed.accounted]
    rfl

theorem step_balanced {world after : TelemetryWorld} {action : TelemetryAction}
    (taken : world.step action = some after) (keeps : Keeps ⟨world, action, after⟩)
    (balanced : world.Balanced) :
    after.Balanced ∧
      ∀ key, after.accounted key = world.accounted key + counted [⟨world, action, after⟩] key := by
  cases action with
  | event event moment =>
    by_cases counts : event.countsForStats = true
    · have same := onEvent_counted taken counts
      have loaded := withEvent_loaded balanced.loaded event moment
      refine ⟨⟨same.loaded loaded, ?_⟩, ?_⟩
      · intro clean
        rw [same.dirty] at clean
        cases clean
      · intro key
        have held := withEvent_held world moment counts (keeps counts) key
        have daily : (world.withEvent event moment).daily key = world.daily key := rfl
        have stored : (world.withEvent event moment).db.dailyTotal key = world.db.dailyTotal key :=
          rfl
        rw [same.accounted_eq, accounted, accounted, held, daily, stored]
        simp only [counted, List.map_cons, List.map_nil, List.sum_cons, List.sum_nil]
        ring
    · have same := onEvent_uncounted taken counts
      refine ⟨balanced.sameStats same, ?_⟩
      intro key
      rw [same.accounted_eq]
      simp [counted, TelemetryEvent.countedFor, counts]
  | flush moment =>
    cases taken
    refine ⟨balanced.flush moment, ?_⟩
    intro key
    rw [flush_accounted]
    simp [counted]
  | tick moment =>
    cases taken
    obtain ⟨closes, retains⟩ := keeps
    obtain ⟨rotated, kept⟩ := balanced.rotate closes
    have same := maybeRunRetention_sameStats retains
    refine ⟨(rotated.flush moment.write).sameStats same, ?_⟩
    intro key
    have accounts := same.accounted_eq key
    rw [flush_accounted, kept key] at accounts
    have nothing : counted [⟨world, .tick moment, world.tick moment⟩] key = 0 := by simp [counted]
    rw [nothing, add_zero]
    exact accounts

theorem counted_cons (t : Move) (history : List Move) (key : Int) :
    counted (t :: history) key = counted [t] key + counted history key := by
  simp [counted]

/-- Every counted event reaches the daily statistics once, in every run in which nothing is unsaved
when the day changes and retention removes no row. -/
theorem run_countsEvery {db : Database} {logBatchMax : Nat} {retention : RetentionPolicy}
    {startMs : Int} {history : List Move} {world : TelemetryWorld}
    (run : Run (new db logBatchMax retention startMs) history world)
    (keeps : ∀ t ∈ history, Keeps t) :
    CountsEvery (new db logBatchMax retention startMs) history world := by
  have start := new_settled db logBatchMax retention startMs
  have accounts : (∀ t ∈ history, Keeps t) → world.Balanced ∧ ∀ key,
      world.accounted key =
        (new db logBatchMax retention startMs).db.dailyTotal key + counted history key := by
    refine run.invariant (P := fun history world => (∀ t ∈ history, Keeps t) →
      world.Balanced ∧ ∀ key, world.accounted key =
        (new db logBatchMax retention startMs).db.dailyTotal key + counted history key) ?_ ?_
    · intro _
      refine ⟨⟨start.loaded, fun _ => start⟩, ?_⟩
      intro key
      rw [start.accounted]
      simp [counted]
    · intro history before action after kept taken keeps
      obtain ⟨balanced, earlier⟩ := kept fun t member => keeps t (List.mem_cons_of_mem _ member)
      obtain ⟨balanced', added⟩ := step_balanced taken (keeps _ List.mem_cons_self) balanced
      refine ⟨balanced', ?_⟩
      intro key
      rw [added key, earlier key, counted_cons _ history]
      ring
  obtain ⟨balanced, total⟩ := accounts keeps
  intro moment succeeds key
  have settled := balanced.flush_settled succeeds.1
  rw [← total key, ← flush_accounted world moment, settled.accounted]

def flushAt (nowMs : Int) (dailyFails : Bool) : FlushMoment :=
  ⟨nowMs, dailyFails, none, false, false⟩

def midnight (dailyFails : Bool) : List TelemetryAction :=
  [.tick ⟨millisPerDay, flushAt millisPerDay dailyFails, false, flushAt millisPerDay false,
      ⟨millisPerDay, millisPerDay, none⟩⟩,
    .event (failedRequest 1 5 false "") ⟨"event", "log", 5, false, false⟩]

abbrev firstWorld : TelemetryWorld := new emptyDatabase 1024 ⟨0, 0, 0, 1⟩ 0

theorem run_countsEvery_midnight :
    ∃ run, replay step firstWorld (midnight false) = some run ∧
      CountsEvery firstWorld run.1 run.2 := by
  have replayed : ∃ run, replay step firstWorld (midnight false) = some run ∧
      ∀ t ∈ run.1, Keeps t := ⟨_, rfl, by decide⟩
  obtain ⟨⟨history, world⟩, replayed, keeps⟩ := replayed
  exact ⟨(history, world), replayed, run_countsEvery (replay_run replayed) keeps⟩

/-- The rotation clears totals that its own flush has failed to store. -/
theorem run_countsEvery_fails :
    ∃ history, ∃ world, Run firstWorld history world ∧ ¬CountsEvery firstWorld history world := by
  have replayed : ∃ run, replay step firstWorld (midnight true) = some run ∧
      (run.2.flush (flushAt millisPerDay false)).db.dailyTotal 1 .requestFailed = 0 ∧
      firstWorld.db.dailyTotal 1 .requestFailed + counted run.1 1 .requestFailed = 1 :=
    ⟨_, rfl, by decide, by decide⟩
  obtain ⟨⟨history, world⟩, replayed, stored, events⟩ := replayed
  refine ⟨history, world, replay_run replayed, ?_⟩
  intro counts
  have same := congrFun (counts (flushAt millisPerDay false) ⟨rfl, rfl⟩ 1) .requestFailed
  rw [Pi.add_apply, stored, events] at same
  exact absurd same (by decide)

end TelemetryWorld

end CodexGate.Telemetry
