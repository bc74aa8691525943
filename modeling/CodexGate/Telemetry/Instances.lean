import CodexGate.Telemetry.Agreement

namespace CodexGate.Telemetry

open Foundation

structure Instance where
  worker : TelemetryWorker
  rotating : Option Int

structure Fleet (ι : Type) where
  instances : ι → Option Instance
  db : Database

inductive InstanceAction
  | start (logBatchMax : Nat) (retention : RetentionPolicy) (nowMs : Int)
  | event (event : TelemetryEvent) (moment : EventMoment)
  | flush (moment : FlushMoment)
  /-- `maybe_rotate_day` up to its first answer, and the rest of it. -/
  | rotateBegin (nowMs : Int) (moment : FlushMoment)
  | rotateEnd (listFails : Bool)

structure FleetAction (ι : Type) where
  who : ι
  act : InstanceAction

def InstanceAction.isEvent : InstanceAction → Bool
  | .event .. => true
  | _ => false

namespace Fleet

variable {ι : Type} [DecidableEq ι] (fleet : Fleet ι)

def put (i : ι) (world : TelemetryWorld) (rotating : Option Int) : Fleet ι where
  instances := Function.update fleet.instances i (some ⟨world.worker, rotating⟩)
  db := world.db

def stepOf (i : ι) : Option Instance → InstanceAction → Option (Fleet ι)
  | none, .start logBatchMax retention nowMs =>
    some (fleet.put i (.new fleet.db logBatchMax retention nowMs) none)
  | some ⟨worker, none⟩, .event event moment =>
    (TelemetryWorld.onEvent ⟨worker, fleet.db⟩ event moment).map fun world => fleet.put i world none
  | some ⟨worker, none⟩, .flush moment =>
    some (fleet.put i (TelemetryWorld.flush ⟨worker, fleet.db⟩ moment) none)
  | some ⟨worker, none⟩, .rotateBegin nowMs moment =>
    if utcDay nowMs = worker.currentDate then none
    else some (fleet.put i (TelemetryWorld.flush ⟨worker, fleet.db⟩ moment) (some nowMs))
  | some ⟨worker, some nowMs⟩, .rotateEnd listFails =>
    some (fleet.put i (TelemetryWorld.beginDay ⟨worker, fleet.db⟩ nowMs listFails) none)
  | _, _ => none

def step (action : FleetAction ι) : Option (Fleet ι) :=
  fleet.stepOf action.who (fleet.instances action.who) action.act

abbrev Run (start : Fleet ι) :=
  Execution (fun before action after => step before action = some after) start

abbrev Move (ι : Type) := Transition (Fleet ι) (FleetAction ι)

def idle (db : Database) : Fleet ι := ⟨fun _ => none, db⟩

end Fleet

namespace Fleet

variable {ι : Type} [DecidableEq ι]

/-- What an action counts for the row of a date and key: an instance counts an event for the date
that it has at that time. -/
def countedBy (t : Move ι) (date key : Int) : Counts :=
  match t.before.instances t.action.who, t.action.act with
  | some inst, .event event _ =>
    if inst.worker.currentDate = date then event.entered key else 0
  | _, _ => 0

def counted (history : List (Move ι)) (date key : Int) : Counts :=
  (history.map fun t => countedBy t date key).sum

def held (fleet : Fleet ι) (i : ι) (key : Int) : Option StatsAgg :=
  (fleet.instances i).bind fun inst => inst.worker.statsByKey.lookup key

/-- The total of a key as an instance held it when it last read or wrote the rows of its date. -/
def known (i : ι) (key : Int) : List (Move ι) → Option StatsAgg
  | [] => none
  | t :: earlier =>
    if t.action.who = i ∧ t.action.act.isEvent = false then t.after.held i key
    else known i key earlier

/-- An instance has counted something since it last read or wrote the rows of its date. -/
def unflushed (i : ι) : List (Move ι) → Bool
  | [] => false
  | t :: earlier => if t.action.who = i then t.action.act.isEvent else unflushed i earlier

def WritesSucceed : InstanceAction → Prop
  | .flush moment | .rotateBegin _ moment => moment.Succeeds
  | _ => True

/-- Where an instance writes the rows of its date, they are as it last read or wrote them. -/
def Unchanged (earlier : List (Move ι)) (t : Move ι) : Prop :=
  t.action.act.isEvent = false → ∀ inst ∈ t.before.instances t.action.who,
    inst.worker.dirty = true → ∀ key ∈ inst.worker.statsByKey.keys,
      (t.before.db.statsDaily.lookup (inst.worker.currentDate, key)).map DailyRecord.stats =
        known t.action.who key earlier

/-- The row of each date and key counts what all instances have counted for it. -/
def CountsAll (start : Fleet ι) (history : List (Move ι)) (fleet : Fleet ι) : Prop :=
  ∀ date key, fleet.db.daily date key = start.db.daily date key + counted history date key

end Fleet

def countsOf (agg : Option StatsAgg) : Counts := agg.elim 0 StatsAgg.counts

theorem daily_eq_countsOf (db : Database) (date key : Int) :
    db.daily date key = countsOf ((db.statsDaily.lookup (date, key)).map DailyRecord.stats) := by
  rw [Database.daily, worth, countsOf]
  cases db.statsDaily.lookup (date, key) <;> rfl

namespace TelemetryWorld

theorem flush_clean_of_succeeds (world : TelemetryWorld) {moment : FlushMoment}
    (succeeds : moment.Succeeds) : (world.flush moment).worker.dirty = false := by
  have same := flush_sameStats world moment
  rw [same.dirty, flushDirty]
  split
  · have taken : ¬moment.dailyFails = true := by simp [succeeds.1]
    rw [flushStats, flushDaily, if_neg taken]
    dsimp only
    split
    · rfl
    · rw [flushHourly, succeeds.2]
  · rename_i clean
    exact Bool.eq_false_of_not_eq_true clean

theorem flush_adds {world : TelemetryWorld} {moment : FlushMoment} (succeeds : moment.Succeeds)
    {known : Int → Option StatsAgg}
    (clean : world.worker.dirty = false → ∀ key, world.worker.statsByKey.lookup key = known key)
    (grown : ∀ key, world.worker.statsByKey.lookup key = none → known key = none)
    (unchanged : world.worker.dirty = true → ∀ key ∈ world.worker.statsByKey.keys,
      (world.db.statsDaily.lookup (world.worker.currentDate, key)).map DailyRecord.stats = known key)
    (date key : Int) :
    (world.flush moment).db.daily date key = world.db.daily date key +
      if world.worker.currentDate = date then
        countsOf (world.worker.statsByKey.lookup key) - countsOf (known key)
      else 0 := by
  by_cases today : world.worker.currentDate = date
  · subst today
    rw [if_pos rfl]
    by_cases dirty : world.worker.dirty = true
    · have writes : world.WritesDaily moment := ⟨dirty, succeeds.1⟩
      have table := flush_statsDaily_of_writes writes
      cases found : world.worker.statsByKey.lookup key with
      | none =>
        have elsewhere : world.worker.currentDate ≠ world.worker.currentDate ∨
            world.worker.statsByKey.lookup key = none := .inr found
        have kept := lookup_upsert_of_not_held elsewhere world.db moment.nowMs
        rw [grown key found, sub_self, add_zero, daily_eq_countsOf, table, kept,
          ← daily_eq_countsOf]
      | some agg =>
        have present : key ∈ world.worker.statsByKey.keys := by
          rw [← AList.mem_keys, ← AList.lookup_isSome, found]
          rfl
        have written := lookup_upsert_of_held found world.db moment.nowMs
        rw [daily_eq_countsOf, table, written, daily_eq_countsOf world.db,
          unchanged dirty key present]
        exact (add_sub_cancel _ _).symm
    · have idle : ¬world.WritesDaily moment := fun writes => dirty writes.1
      have still := clean (Bool.eq_false_of_not_eq_true dirty) key
      rw [flush_dailyOf_of_not_writes idle, still, sub_self, add_zero]
  · rw [if_neg today, add_zero]
    exact flush_dailyOf_of_ne (Ne.symm today) key

/-- What taking in an event does to the totals of the worker and to the daily rows. -/
structure Enters (event : TelemetryEvent) (before after : TelemetryWorld) : Prop where
  currentDate : after.worker.currentDate = before.worker.currentDate
  statsDaily : after.db.statsDaily = before.db.statsDaily
  entered : ∀ key, after.held key = before.held key + event.entered key
  grown : ∀ key, after.worker.statsByKey.lookup key = none →
    before.worker.statsByKey.lookup key = none
  clean : after.worker.dirty = false →
    before.worker.dirty = false ∧ after.worker.statsByKey = before.worker.statsByKey

theorem onEvent_enters {world after : TelemetryWorld} {event : TelemetryEvent}
    {moment : EventMoment} (taken : world.onEvent event moment = some after) :
    Enters event world after := by
  by_cases counts : event.countsForStats = true
  · have same := onEvent_counted taken counts
    refine ⟨same.currentDate, same.statsDaily, fun key => ?_, fun key missing => ?_, fun clean => ?_⟩
    · rw [same.held_eq, withEvent_entered world moment counts]
    · rw [same.statsByKey] at missing
      exact updateEntry_missing (updateEntry_missing missing)
    · rw [same.dirty] at clean
      cases clean
  · have same := onEvent_uncounted taken counts
    refine ⟨same.currentDate, same.statsDaily, fun key => ?_, fun key missing => ?_, fun clean => ?_⟩
    · rw [same.held_eq, TelemetryEvent.entered, if_neg counts, add_zero]
    · rwa [same.statsByKey] at missing
    · exact ⟨same.dirty ▸ clean, same.statsByKey⟩

end TelemetryWorld

namespace Fleet

variable {ι : Type} [DecidableEq ι]

/-- What an instance has counted for a row since it last read or wrote the rows of its date. -/
def due (fleet : Fleet ι) (history : List (Move ι)) (i : ι) (date key : Int) : Counts :=
  match fleet.instances i with
  | none => 0
  | some inst =>
    if inst.worker.currentDate = date then
      countsOf (inst.worker.statsByKey.lookup key) - countsOf (known i key history)
    else 0

section Own

variable {t : Move ι} {history : List (Move ι)}

theorem known_own (own : t.action.act.isEvent = false) (key : Int) :
    known t.action.who key (t :: history) = t.after.held t.action.who key := by
  rw [known, if_pos ⟨rfl, own⟩]

theorem known_other {i : ι} (other : t.action.who = i → t.action.act.isEvent = true) (key : Int) :
    known i key (t :: history) = known i key history := by
  rw [known, if_neg]
  rintro ⟨same, own⟩
  rw [other same] at own
  cases own

theorem due_own (own : t.action.act.isEvent = false) (date key : Int) :
    due t.after (t :: history) t.action.who date key = 0 := by
  unfold due
  split
  · rfl
  · rename_i inst found
    rw [known_own own, held, found]
    exact if_congr Iff.rfl (sub_self _) rfl |>.trans (ite_self _)

theorem due_other {i : ι} (other : i ≠ t.action.who)
    (same : t.after.instances i = t.before.instances i) (date key : Int) :
    due t.after (t :: history) i date key = due t.before history i date key := by
  unfold due
  rw [same]
  split
  · rfl
  · rw [known_other fun who => absurd who.symm other]

end Own

omit [DecidableEq ι] in
theorem countedBy_own {t : Move ι} (own : t.action.act.isEvent = false) (date key : Int) :
    countedBy t date key = 0 := by
  unfold countedBy
  split
  · rename_i event moment same
    rw [same] at own
    cases own
  · rfl

/-- The invariant of a run in which every write finds the rows as its instance knows them. -/
structure Accounted [Fintype ι] (start : Fleet ι) (history : List (Move ι)) (fleet : Fleet ι) :
    Prop where
  account : ∀ date key, fleet.db.daily date key + ∑ i, due fleet history i date key =
    start.db.daily date key + counted history date key
  clean : ∀ i, ∀ inst ∈ fleet.instances i, inst.worker.dirty = false →
    ∀ key, inst.worker.statsByKey.lookup key = known i key history
  grown : ∀ i, ∀ inst ∈ fleet.instances i, ∀ key,
    inst.worker.statsByKey.lookup key = none → known i key history = none
  calm : ∀ i, ∀ inst ∈ fleet.instances i, inst.rotating.isSome → inst.worker.dirty = false
  flushed : ∀ i, unflushed i history = false → ∀ key, fleet.held i key = known i key history

section Steps

variable [Fintype ι] {start : Fleet ι} {t : Move ι} {history : List (Move ι)}

theorem sum_changed {f g : ι → Counts} (i : ι) (others : ∀ j, j ≠ i → g j = f j) {a b m : Counts}
    (moved : b + g i = a + f i + m) : b + ∑ j, g j = a + ∑ j, f j + m := by
  have rest : ∑ j ∈ Finset.univ.erase i, g j = ∑ j ∈ Finset.univ.erase i, f j :=
    Finset.sum_congr rfl fun j member => others j (Finset.ne_of_mem_erase member)
  rw [← Finset.add_sum_erase _ g (Finset.mem_univ i), ← Finset.add_sum_erase _ f (Finset.mem_univ i),
    rest]
  linear_combination moved

theorem Accounted.settle (kept : Accounted start history t.before)
    (own : t.action.act.isEvent = false)
    (others : ∀ j, j ≠ t.action.who → t.after.instances j = t.before.instances j)
    (stored : ∀ date key, t.after.db.daily date key =
      t.before.db.daily date key + due t.before history t.action.who date key)
    (calm : ∀ inst ∈ t.after.instances t.action.who, inst.rotating.isSome →
      inst.worker.dirty = false) : Accounted start (t :: history) t.after := by
  have uncounted : ∀ date key, counted (t :: history) date key = counted history date key := by
    intro date key
    rw [counted, List.map_cons, List.sum_cons, countedBy_own own, zero_add]
    rfl
  refine ⟨?_, ?_, ?_, ?_, ?_⟩
  · intro date key
    have moved : t.after.db.daily date key + due t.after (t :: history) t.action.who date key =
        t.before.db.daily date key + due t.before history t.action.who date key + 0 := by
      rw [due_own own, stored, add_zero]
    rw [uncounted, ← kept.account date key]
    have sums := sum_changed t.action.who
      (fun j other => due_other other (others j other) date key) moved
    rw [sums, add_zero]
  · intro i inst found clean key
    by_cases same : i = t.action.who
    · subst same
      rw [known_own own, held, found]
      rfl
    · rw [known_other fun who => absurd who.symm same]
      exact kept.clean i inst (others i same ▸ found) clean key
  · intro i inst found key missing
    by_cases same : i = t.action.who
    · subst same
      rw [known_own own, held, found]
      exact missing
    · rw [known_other fun who => absurd who.symm same]
      exact kept.grown i inst (others i same ▸ found) key missing
  · intro i inst found rotates
    by_cases same : i = t.action.who
    · subst same
      exact calm inst found rotates
    · exact kept.calm i inst (others i same ▸ found) rotates
  · intro i idle key
    by_cases same : i = t.action.who
    · subst same
      rw [known_own own]
    · have earlier : unflushed i history = false := by
        rwa [unflushed, if_neg fun who => same who.symm] at idle
      rw [known_other fun who => absurd who.symm same, held, others i same]
      exact kept.flushed i earlier key

omit [Fintype ι] in
theorem put_other {fleet : Fleet ι} {i j : ι} (other : j ≠ i) (world : TelemetryWorld)
    (rotating : Option Int) : (fleet.put i world rotating).instances j = fleet.instances j :=
  Function.update_of_ne other _ _

omit [Fintype ι] in
theorem put_self (fleet : Fleet ι) (i : ι) (world : TelemetryWorld) (rotating : Option Int) :
    (fleet.put i world rotating).instances i = some ⟨world.worker, rotating⟩ :=
  Function.update_self ..

theorem Accounted.enter {before : Fleet ι} (kept : Accounted start history before) {i : ι}
    {worker : TelemetryWorker} (runs : before.instances i = some ⟨worker, none⟩)
    {event : TelemetryEvent} {moment : EventMoment} {world : TelemetryWorld}
    (enters : TelemetryWorld.Enters event ⟨worker, before.db⟩ world) :
    Accounted start (⟨before, ⟨i, .event event moment⟩, before.put i world none⟩ :: history)
      (before.put i world none) := by
  let t : Move ι := ⟨before, ⟨i, .event event moment⟩, before.put i world none⟩
  have arrives : t.action.act.isEvent = true := rfl
  have still : ∀ j key, known j key (t :: history) = known j key history := fun j key =>
    known_other (fun _ => arrives) key
  have others : ∀ j, j ≠ i → t.after.instances j = t.before.instances j := fun j other =>
    put_other other world none
  refine ⟨?_, ?_, ?_, ?_, ?_⟩
  · intro date key
    have stored : t.after.db.daily date key = before.db.daily date key := by
      rw [Database.daily, Database.daily]
      exact congrArg (fun table => worth _ table (date, key)) enters.statsDaily
    have counts : countedBy t date key =
        if worker.currentDate = date then event.entered key else 0 := by
      unfold countedBy
      rw [show t.before.instances t.action.who = some ⟨worker, none⟩ from runs]
    have owed : due t.after (t :: history) i date key =
        due before history i date key + countedBy t date key := by
      have later : t.after.instances i = some ⟨world.worker, none⟩ := put_self ..
      have entered : countsOf (world.worker.statsByKey.lookup key) =
        countsOf (worker.statsByKey.lookup key) + event.entered key := enters.entered key
      have same : world.worker.currentDate = worker.currentDate := enters.currentDate
      unfold due
      rw [later, runs, counts]
      dsimp only
      rw [same, still i key, entered]
      split
      · ring
      · rw [add_zero]
    have moved : t.after.db.daily date key + due t.after (t :: history) i date key =
        before.db.daily date key + due before history i date key + countedBy t date key := by
      rw [stored, owed, add_assoc]
    have sums := sum_changed i (fun j other => due_other other (others j other) date key) moved
    have total : counted (t :: history) date key = countedBy t date key + counted history date key :=
      rfl
    rw [total, sums, kept.account date key]
    ring
  · intro j inst found clean key
    rw [still]
    by_cases same : j = i
    · subst same
      cases (put_self before j world none).symm.trans found
      obtain ⟨was_clean, totals⟩ := enters.clean clean
      dsimp only at totals ⊢
      rw [totals]
      exact kept.clean j _ runs was_clean key
    · exact kept.clean j inst (others j same ▸ found) clean key
  · intro j inst found key missing
    rw [still]
    by_cases same : j = i
    · subst same
      cases (put_self before j world none).symm.trans found
      exact kept.grown j _ runs key (enters.grown key missing)
    · exact kept.grown j inst (others j same ▸ found) key missing
  · intro j inst found rotates
    by_cases same : j = i
    · subst same
      cases (put_self before j world none).symm.trans found
      cases rotates
    · exact kept.calm j inst (others j same ▸ found) rotates
  · intro j idle key
    have other : j ≠ i := by
      rintro rfl
      rw [unflushed, if_pos rfl] at idle
      cases idle
    have earlier : unflushed j history = false := by
      rwa [unflushed, if_neg fun who => other who.symm] at idle
    rw [still, held, others j other]
    exact kept.flushed j earlier key

theorem Accounted.flush {before : Fleet ι} (kept : Accounted start history before) {i : ι}
    {worker : TelemetryWorker} {rotating : Option Int}
    (runs : before.instances i = some ⟨worker, rotating⟩)
    {moment : FlushMoment} (succeeds : moment.Succeeds)
    (unchanged : worker.dirty = true → ∀ key ∈ worker.statsByKey.keys,
      (before.db.statsDaily.lookup (worker.currentDate, key)).map DailyRecord.stats =
        known i key history) (date key : Int) :
    (TelemetryWorld.flush ⟨worker, before.db⟩ moment).db.daily date key =
      before.db.daily date key + due before history i date key := by
  have added := @TelemetryWorld.flush_adds ⟨worker, before.db⟩ moment succeeds
    (fun key => known i key history) (kept.clean i _ runs) (kept.grown i _ runs) unchanged date key
  rw [added, due, runs]

theorem Accounted.next {before after : Fleet ι} (kept : Accounted start history before)
    {action : FleetAction ι} (taken : before.step action = some after)
    (writes : WritesSucceed action.act) (unchanged : Unchanged history ⟨before, action, after⟩) :
    Accounted start (⟨before, action, after⟩ :: history) after := by
  obtain ⟨i, act⟩ := action
  unfold step stepOf at taken
  dsimp only at taken
  split at taken
  · -- it starts
    rename_i absent
    cases taken
    refine kept.settle rfl (fun j other => put_other other _ _) (fun date key => ?_) ?_
    · rw [due, absent, add_zero]
      rfl
    · intro inst found rotates
      cases (put_self before i _ none).symm.trans found
      cases rotates
  · -- it takes an event in
    rename_i worker event moment runs
    obtain ⟨world, entered, same⟩ := Option.map_eq_some_iff.mp taken
    subst same
    exact kept.enter runs (TelemetryWorld.onEvent_enters entered)
  · -- it flushes
    rename_i worker moment runs
    cases taken
    have stored := kept.flush runs writes (unchanged rfl ⟨worker, none⟩ runs)
    refine kept.settle rfl (fun j other => put_other other _ _) stored ?_
    intro inst found rotates
    cases (put_self before i _ none).symm.trans found
    cases rotates
  · -- the rotation begins with a flush
    rename_i worker nowMs moment runs
    split at taken
    · cases taken
    cases taken
    have stored := kept.flush runs writes (unchanged rfl ⟨worker, none⟩ runs)
    refine kept.settle rfl (fun j other => put_other other _ _) stored ?_
    intro inst found rotates
    cases (put_self before i _ (some nowMs)).symm.trans found
    exact TelemetryWorld.flush_clean_of_succeeds _ writes
  · -- the rotation ends with a clean worker
    rename_i worker nowMs listFails runs
    cases taken
    refine kept.settle rfl (fun j other => put_other other _ _) (fun date key => ?_) ?_
    · have clean := kept.calm i ⟨worker, some nowMs⟩ runs rfl
      have nothing := kept.clean i ⟨worker, some nowMs⟩ runs clean key
      rw [due, runs]
      dsimp only at nothing ⊢
      rw [nothing, sub_self, ite_self, add_zero]
      rfl
    · intro inst found rotates
      cases (put_self before i _ none).symm.trans found
      cases rotates
  · cases taken

theorem idle_accounted (db : Database) : Accounted (idle db : Fleet ι) [] (idle db) where
  account date key := by
    have nothing : ∀ i, due (idle db : Fleet ι) [] i date key = 0 := fun _ => rfl
    simp [nothing, counted]
  clean _ _ found := by cases found
  grown _ _ found := by cases found
  calm _ _ found := by cases found
  flushed _ _ _ := rfl

/-- The row of each date and key is the sum over all instances, in every run in which the writes
succeed and each of them finds the rows as its instance last read or wrote them. -/
theorem run_countsAll {db : Database} {fleet : Fleet ι} (run : Run (idle db) history fleet)
    (writes : ∀ t ∈ history, WritesSucceed t.action.act)
    (unchanged : Throughout Unchanged history)
    (flushed : ∀ i, unflushed i history = false) : CountsAll (idle db) history fleet := by
  have accounted : (∀ t ∈ history, WritesSucceed t.action.act) → Throughout Unchanged history →
      Accounted (idle db) history fleet := by
    refine run.invariant (P := fun history fleet =>
      (∀ t ∈ history, WritesSucceed t.action.act) → Throughout Unchanged history →
        Accounted (idle db) history fleet) ?_ ?_
    · intro _ _
      exact idle_accounted db
    · intro history before action after kept taken writes unchanged
      have earlier := kept (fun t member => writes t (List.mem_cons_of_mem _ member)) unchanged.2
      exact earlier.next taken (writes _ List.mem_cons_self) unchanged.1
  have kept := accounted writes unchanged
  intro date key
  have nothing : ∀ i, due fleet history i date key = 0 := by
    intro i
    have still := kept.flushed i (flushed i) key
    unfold due
    split
    · rfl
    · rename_i inst found
      rw [held, found] at still
      rw [← still]
      exact (if_congr Iff.rfl (sub_self _) rfl).trans (ite_self _)
  have total := kept.account date key
  simp only [nothing, Finset.sum_const_zero, add_zero] at total
  exact total

end Steps

instance (act : InstanceAction) : Decidable (WritesSucceed act) :=
  match act with
  | .flush moment | .rotateBegin _ moment => inferInstanceAs (Decidable moment.Succeeds)
  | .start .. | .event .. | .rotateEnd _ => inferInstanceAs (Decidable True)

instance (earlier : List (Move ι)) (t : Move ι) : Decidable (Unchanged earlier t) :=
  inferInstanceAs (Decidable (t.action.act.isEvent = false →
    ∀ inst ∈ t.before.instances t.action.who, inst.worker.dirty = true →
      ∀ key ∈ inst.worker.statsByKey.keys,
        (t.before.db.statsDaily.lookup (inst.worker.currentDate, key)).map DailyRecord.stats =
          known t.action.who key earlier))

def startsUp (i : Bool) : FleetAction Bool := ⟨i, .start 1024 ⟨0, 0, 0, 1⟩ 0⟩

def countsOne (i : Bool) : FleetAction Bool :=
  ⟨i, .event (failedRequest 1 5 false "") ⟨"event", "log", 5, false, false⟩⟩

def stores (i : Bool) : FleetAction Bool := ⟨i, .flush (TelemetryWorld.flushAt 6 false)⟩

abbrev nobody : Fleet Bool := idle TelemetryWorld.emptyDatabase

def inTurn : List (FleetAction Bool) :=
  [stores true, countsOne true, startsUp true, stores false, countsOne false, startsUp false]

theorem run_countsAll_inTurn :
    ∃ run, replay step nobody inTurn = some run ∧ CountsAll nobody run.1 run.2 := by
  have replayed : ∃ run, replay step nobody inTurn = some run ∧
      (∀ t ∈ run.1, WritesSucceed t.action.act) ∧ Throughout Unchanged run.1 ∧
        ∀ i, unflushed i run.1 = false := ⟨_, rfl, by decide, by decide, by decide⟩
  obtain ⟨⟨history, fleet⟩, replayed, writes, unchanged, flushed⟩ := replayed
  exact ⟨(history, fleet), replayed,
    run_countsAll (replay_run replayed) writes unchanged flushed⟩

def atOnce : List (FleetAction Bool) :=
  [stores true, stores false, countsOne true, countsOne false, startsUp true, startsUp false]

/-- The second write of the row does not count what the first has stored. -/
theorem run_countsAll_fails :
    ∃ history, ∃ fleet, Run nobody history fleet ∧
      (∀ t ∈ history, WritesSucceed t.action.act) ∧ (∀ i, unflushed i history = false) ∧
        ¬CountsAll nobody history fleet := by
  have replayed : ∃ run, replay step nobody atOnce = some run ∧
      (∀ t ∈ run.1, WritesSucceed t.action.act) ∧ (∀ i, unflushed i run.1 = false) ∧
        run.2.db.daily 0 1 .requestFailed = 1 ∧
          nobody.db.daily 0 1 .requestFailed + counted run.1 0 1 .requestFailed = 2 :=
    ⟨_, rfl, by decide, by decide, by decide, by decide⟩
  obtain ⟨⟨history, fleet⟩, replayed, writes, flushed, stored, events⟩ := replayed
  refine ⟨history, fleet, replay_run replayed, writes, flushed, ?_⟩
  intro counts
  have same := congrFun (counts 0 1) .requestFailed
  rw [Pi.add_apply, stored, events] at same
  exact absurd same (by decide)

end Fleet

end CodexGate.Telemetry
