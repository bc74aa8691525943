import CodexGate.Foundation.Batches
import CodexGate.Telemetry.Hourly

namespace CodexGate.Telemetry

open Foundation

structure Rejects where
  requestLog : RequestLogRow → Bool
  statsEvent : StatsEventRow → Bool
  statsHourly : HourlyKey → Bool

namespace TelemetryWorld

variable (rejects : Rejects)

def logBox (world : TelemetryWorld) : Outbox RequestLogRow :=
  ⟨world.worker.logBuffer, world.db.requestLogs⟩

def eventBox (world : TelemetryWorld) : Outbox StatsEventRow :=
  ⟨world.worker.statsEventBuffer, world.db.statsEvents⟩

def newLogs : TelemetryAction → List RequestLogRow
  | .event event moment =>
    if event.logEnabled then
      (logMessage event.errorMessage).toList.map fun message => requestLogRow event message moment
    else []
  | _ => []

def newStatsEvents : TelemetryAction → List StatsEventRow
  | .event event moment =>
    if event.countsForStats then [statsEventFromEvent event event.ok moment] else []
  | _ => []

def FailsByContent (world : TelemetryWorld) (moment : FlushMoment) : Prop :=
  moment.dailyFails = false ∧
    moment.logsFail = world.worker.logBuffer.any rejects.requestLog ∧
    moment.statsEventsFail = world.worker.statsEventBuffer.any rejects.statsEvent ∧
    moment.hourlyFail.isSome = world.worker.hourlyStats.keys.any rejects.statsHourly ∧
    ∀ stored ∈ moment.hourlyFail, ∀ key ∈ stored, rejects.statsHourly key = false

def Available (t : Move) : Prop :=
  match t.action with
  | .event _ moment =>
    moment.logsFail = (t.before.logBox.add (newLogs t.action)).buffer.any rejects.requestLog ∧
      moment.statsEventsFail =
        (t.before.eventBox.add (newStatsEvents t.action)).buffer.any rejects.statsEvent
  | .flush moment => FailsByContent rejects t.before moment
  | .tick moment => FailsByContent rejects t.before moment.rotation ∧
    FailsByContent rejects (t.before.maybeRotateDay moment) moment.write

instance (world : TelemetryWorld) (moment : FlushMoment) :
    Decidable (FailsByContent rejects world moment) :=
  inferInstanceAs (Decidable (_ ∧ _ ∧ _ ∧ _ ∧
    ∀ stored ∈ moment.hourlyFail, ∀ key ∈ stored, rejects.statsHourly key = false))

instance (t : Move) : Decidable (Available rejects t) :=
  match t with
  | ⟨before, .event event moment, _⟩ => inferInstanceAs (Decidable
      (moment.logsFail = (before.logBox.add (newLogs (.event event moment))).buffer.any
        rejects.requestLog ∧ moment.statsEventsFail =
          (before.eventBox.add (newStatsEvents (.event event moment))).buffer.any
            rejects.statsEvent))
  | ⟨before, .flush moment, _⟩ =>
    inferInstanceAs (Decidable (FailsByContent rejects before moment))
  | ⟨before, .tick moment, _⟩ =>
    inferInstanceAs (Decidable (FailsByContent rejects before moment.rotation ∧
      FailsByContent rejects (before.maybeRotateDay moment) moment.write))

def CountsAccepted (action : TelemetryAction) : Prop :=
  ∀ event moment, action = .event event moment → event.countsForStats = true →
    rejects.statsHourly event.hourlyKey = false

def logRowsOf : List Move → List RequestLogRow
  | [] => []
  | t :: earlier => logRowsOf earlier ++ newLogs t.action

def logBatches : List Move → List (List RequestLogRow)
  | [] => []
  | t :: earlier =>
    logBatches earlier ++ Outbox.batchOf t.before.logBox (newLogs t.action) t.after.logBox

def statsEventRowsOf : List Move → List StatsEventRow
  | [] => []
  | t :: earlier => statsEventRowsOf earlier ++ newStatsEvents t.action

def statsEventBatches : List Move → List (List StatsEventRow)
  | [] => []
  | t :: earlier => statsEventBatches earlier ++
    Outbox.batchOf t.before.eventBox (newStatsEvents t.action) t.after.eventBox

structure CostsItself (start : TelemetryWorld) (history : List Move) (world : TelemetryWorld) :
    Prop where
  requestLogs : ∀ row ∈ logRowsOf history, rejects.requestLog row = false →
    row ∈ world.db.requestLogs
  statsEvents : ∀ row ∈ statsEventRowsOf history, rejects.statsEvent row = false →
    row ∈ world.db.statsEvents
  statsHourly : ∀ key, rejects.statsHourly key = false →
    world.db.hourlyRow key = start.db.hourlyRow key + countedAt history key

/-- A rejected row of `request_logs` or `stats_events` costs its batch, and the others are stored. -/
structure CostsItsBatch (start : TelemetryWorld) (history : List Move) (world : TelemetryWorld) :
    Prop where
  requestLogs : Outbox.Accounts rejects.requestLog start.db.requestLogs (logBatches history)
    (logRowsOf history) ⟨[], world.db.requestLogs⟩
  statsEvents : Outbox.Accounts rejects.statsEvent start.db.statsEvents (statsEventBatches history)
    (statsEventRowsOf history) ⟨[], world.db.statsEvents⟩
  statsHourly : (∀ t ∈ history, CountsAccepted rejects t.action) →
    ∀ key, world.db.hourlyRow key = start.db.hourlyRow key + countedAt history key

variable {rejects} {world : TelemetryWorld}

theorem flushLogs_boxes {fails : Bool}
    (content : fails = world.worker.logBuffer.any rejects.requestLog) :
    (world.flushLogs fails).logBox = world.logBox.send rejects.requestLog ∧
      (world.flushLogs fails).eventBox = world.eventBox := by
  unfold flushLogs
  split
  · rename_i empty
    have nothing : world.logBox.buffer = [] := List.isEmpty_iff.mp empty
    exact ⟨(Outbox.send_empty nothing).symm, rfl⟩
  · subst content
    refine ⟨?_, rfl⟩
    by_cases dropped : world.worker.logBuffer.any rejects.requestLog = true
    · simp [logBox, Outbox.send, Outbox.clean, dropped]
    · simp [logBox, Outbox.send, Outbox.clean, dropped]

theorem flushStatsEvents_boxes {fails : Bool}
    (content : fails = world.worker.statsEventBuffer.any rejects.statsEvent) :
    (world.flushStatsEvents fails).eventBox = world.eventBox.send rejects.statsEvent ∧
      (world.flushStatsEvents fails).logBox = world.logBox := by
  unfold flushStatsEvents
  split
  · rename_i empty
    have nothing : world.eventBox.buffer = [] := List.isEmpty_iff.mp empty
    exact ⟨(Outbox.send_empty nothing).symm, rfl⟩
  · subst content
    refine ⟨?_, rfl⟩
    by_cases dropped : world.worker.statsEventBuffer.any rejects.statsEvent = true
    · simp [eventBox, Outbox.send, Outbox.clean, dropped]
    · simp [eventBox, Outbox.send, Outbox.clean, dropped]

theorem flushDirty_boxes (world : TelemetryWorld) (moment : FlushMoment) :
    (world.flushDirty moment).logBox = world.logBox ∧
      (world.flushDirty moment).eventBox = world.eventBox := by
  unfold flushDirty
  split
  · unfold flushStats flushDaily flushHourly
    dsimp only
    split_ifs <;> first | exact ⟨rfl, rfl⟩ | cases moment.hourlyFail <;> exact ⟨rfl, rfl⟩
  · exact ⟨rfl, rfl⟩

theorem flush_boxes {moment : FlushMoment} (content : FailsByContent rejects world moment) :
    (world.flush moment).logBox = world.logBox.send rejects.requestLog ∧
      (world.flush moment).eventBox = world.eventBox.send rejects.statsEvent := by
  obtain ⟨-, logs, events, -⟩ := content
  obtain ⟨log_kept, event_kept⟩ := flushDirty_boxes world moment
  have log_buffer : (world.flushDirty moment).worker.logBuffer = world.worker.logBuffer :=
    congrArg Outbox.buffer log_kept
  have event_buffer : (world.flushDirty moment).worker.statsEventBuffer =
    world.worker.statsEventBuffer := congrArg Outbox.buffer event_kept
  rw [← log_buffer] at logs
  have logged := flushLogs_boxes logs
  have between : ((world.flushDirty moment).flushLogs moment.logsFail).worker.statsEventBuffer =
    world.worker.statsEventBuffer := (congrArg Outbox.buffer logged.2).trans event_buffer
  rw [← between] at events
  have sent := flushStatsEvents_boxes events
  refine ⟨?_, ?_⟩
  · rw [flush, sent.2, logged.1, log_kept]
  · rw [flush, sent.1, logged.2, event_kept]

theorem maybeRunRetention_boxes (world : TelemetryWorld) (moment : RetentionMoment) :
    (world.maybeRunRetention moment).logBox = world.logBox ∧
      (world.maybeRunRetention moment).eventBox = world.eventBox := by
  have deleted : ∀ (world : TelemetryWorld) cutoffDate failsAt index batches,
      (world.deleteBatches cutoffDate failsAt index batches).logBox = world.logBox ∧
        (world.deleteBatches cutoffDate failsAt index batches).eventBox = world.eventBox := by
    intro world cutoffDate failsAt index batches
    induction batches generalizing world index with
    | zero => exact ⟨rfl, rfl⟩
    | succ batches ih =>
      unfold deleteBatches
      split
      · exact ⟨rfl, rfl⟩
      dsimp only
      split
      · exact ⟨rfl, rfl⟩
      · exact ih { world with
          db := (world.db.deleteStatsDailyBefore cutoffDate world.worker.retention.deleteBatch).1 }
          (index + 1)
  unfold maybeRunRetention
  dsimp only
  split_ifs
  · exact ⟨rfl, rfl⟩
  · exact deleted { world with
      worker := { world.worker with
        nextRetentionRunMs := TelemetryWorker.nextRetention world.worker.retention moment.nowMs } }
      (world.cutoffDate moment) moment.deleteFailsAt 0 4
  · exact ⟨rfl, rfl⟩

theorem tick_boxes {moment : TickMoment}
    (rotation : FailsByContent rejects world moment.rotation)
    (write : FailsByContent rejects (world.maybeRotateDay moment) moment.write) :
    (world.tick moment).logBox = world.logBox.send rejects.requestLog ∧
      (world.tick moment).eventBox = world.eventBox.send rejects.statsEvent := by
  have retained := maybeRunRetention_boxes ((world.maybeRotateDay moment).flush moment.write)
    moment.retention
  have written := flush_boxes write
  rw [tick, retained.1, retained.2, written.1, written.2]
  unfold maybeRotateDay
  split
  · exact ⟨rfl, rfl⟩
  · have rotated := flush_boxes rotation
    have begun : ((world.flush moment.rotation).beginDay moment.nowMs moment.listFails).logBox =
        world.logBox.send rejects.requestLog := rotated.1
    have begun' : ((world.flush moment.rotation).beginDay moment.nowMs moment.listFails).eventBox =
        world.eventBox.send rejects.statsEvent := rotated.2
    rw [begun, begun', Outbox.send_send, Outbox.send_send]
    exact ⟨rfl, rfl⟩

theorem countEvent_boxes {event : TelemetryEvent} {moment : EventMoment}
    (content : moment.statsEventsFail = (world.eventBox.add
      (newStatsEvents (.event event moment))).buffer.any rejects.statsEvent) :
    (world.countEvent event moment).logBox = world.logBox ∧
      Outbox.Moves rejects.statsEvent world.eventBox (newStatsEvents (.event event moment))
        (world.countEvent event moment).eventBox := by
  unfold countEvent
  split
  · rename_i counts
    have made : newStatsEvents (.event event moment) =
      [statsEventFromEvent event event.ok moment] := if_pos counts
    rw [made] at content ⊢
    dsimp only
    have counted : TelemetryWorld.eventBox { world with worker := world.worker.count event moment } =
      world.eventBox.add [statsEventFromEvent event event.ok moment] := rfl
    split
    · have sent := @flushStatsEvents_boxes rejects
        { world with worker := world.worker.count event moment } _ content
      refine ⟨sent.2, ?_⟩
      rw [sent.1, counted]
      exact .send
    · refine ⟨rfl, ?_⟩
      rw [counted]
      exact .hold
  · rename_i ignored
    have made : newStatsEvents (.event event moment) = [] := if_neg ignored
    rw [made]
    refine ⟨rfl, ?_⟩
    have same : world.eventBox = world.eventBox.add [] := by simp [Outbox.add]
    nth_rewrite 2 [same]
    exact .hold

theorem logEvent_boxes {event : TelemetryEvent} {moment : EventMoment} {after : TelemetryWorld}
    (logged : world.logEvent event moment = some after)
    (content : moment.logsFail = (world.logBox.add
      (newLogs (.event event moment))).buffer.any rejects.requestLog) :
    Outbox.Moves rejects.requestLog world.logBox (newLogs (.event event moment)) after.logBox ∧
      after.eventBox = world.eventBox := by
  unfold logEvent at logged
  split at logged
  · rename_i enabled
    obtain ⟨message, cut, same⟩ := Option.map_eq_some_iff.mp logged
    have made : newLogs (.event event moment) = [requestLogRow event message moment] := by
      rw [newLogs, if_pos enabled, cut, Option.toList_some, List.map_singleton]
    rw [made] at content ⊢
    subst same
    dsimp only
    let waiting : TelemetryWorld := { world with
      worker := { world.worker with
        logBuffer := world.worker.logBuffer ++ [requestLogRow event message moment] } }
    have added : waiting.logBox = world.logBox.add [requestLogRow event message moment] := rfl
    split
    · have sent := @flushLogs_boxes rejects waiting _ content
      refine ⟨?_, sent.2⟩
      have sent_log := sent.1
      rw [added] at sent_log
      exact sent_log ▸ .send
    · exact ⟨.hold, rfl⟩
  · rename_i disabled
    cases logged
    have made : newLogs (.event event moment) = [] := if_neg disabled
    rw [made]
    have same : world.logBox = world.logBox.add [] := by simp [Outbox.add]
    refine ⟨?_, rfl⟩
    nth_rewrite 2 [same]
    exact .hold

theorem step_moves {after : TelemetryWorld} {action : TelemetryAction}
    (taken : world.step action = some after)
    (available : Available rejects ⟨world, action, after⟩) :
    Outbox.Moves rejects.requestLog world.logBox (newLogs action) after.logBox ∧
      Outbox.Moves rejects.statsEvent world.eventBox (newStatsEvents action) after.eventBox := by
  have sends : ∀ {ρ : Type} {rejects : ρ → Bool} {box : Outbox ρ},
      Outbox.Moves rejects box [] (box.send rejects) := by
    intro ρ rejects box
    have same : box.add [] = box := by simp [Outbox.add]
    have sent := @Outbox.Moves.send ρ rejects box []
    rwa [same] at sent
  cases action with
  | event event moment =>
    obtain ⟨logs, events⟩ := available
    obtain ⟨kept, counted⟩ := countEvent_boxes events
    rw [← kept] at logs
    have logged := logEvent_boxes taken logs
    rw [kept] at logged
    rw [logged.2]
    exact ⟨logged.1, counted⟩
  | flush moment =>
    cases taken
    have flushed := flush_boxes available
    rw [flushed.1, flushed.2]
    exact ⟨sends, sends⟩
  | tick moment =>
    cases taken
    have ticked := tick_boxes available.1 available.2
    rw [ticked.1, ticked.2]
    exact ⟨sends, sends⟩

structure Acceptable (rejects : Rejects) (world : TelemetryWorld) : Prop where
  accepted : ∀ key ∈ world.worker.hourlyStats.keys, rejects.statsHourly key = false
  clean : world.worker.dirty = false → world.worker.hourlyStats = ∅

theorem Acceptable.of_empty (empty : world.worker.hourlyStats = ∅) : Acceptable rejects world where
  accepted key member := by
    rw [empty] at member
    cases member
  clean _ := empty

theorem Acceptable.succeeds (acceptable : Acceptable rejects world) {moment : FlushMoment}
    (content : FailsByContent rejects world moment) : moment.Succeeds := by
  refine ⟨content.1, ?_⟩
  have accepted : world.worker.hourlyStats.keys.any rejects.statsHourly = false := by
    rw [List.any_eq_false]
    intro key member rejected
    rw [acceptable.accepted key member] at rejected
    cases rejected
  have stored := content.2.2.2.1
  rw [accepted] at stored
  exact Option.isSome_eq_false_iff.mp stored |> Option.isNone_iff_eq_none.mp

theorem Acceptable.flush (acceptable : Acceptable rejects world) {moment : FlushMoment}
    (succeeds : moment.Succeeds) : (world.flush moment).worker.hourlyStats = ∅ := by
  by_cases dirty : world.worker.dirty = true
  · exact (flush_hourly succeeds dirty).2
  · have clean := Bool.eq_false_of_not_eq_true dirty
    exact (flush_clean moment clean).hourlyStats.trans (acceptable.clean clean)

theorem Acceptable.step {after : TelemetryWorld} {action : TelemetryAction}
    (acceptable : Acceptable rejects world) (taken : world.step action = some after)
    (available : Available rejects ⟨world, action, after⟩)
    (counts : CountsAccepted rejects action) :
    Acceptable rejects after ∧ FailsWhole action := by
  cases action with
  | event event moment =>
    refine ⟨?_, trivial⟩
    by_cases counted : event.countsForStats = true
    · have same := onEvent_counted taken counted
      refine ⟨fun key member => ?_, fun clean => ?_⟩
      · rw [same.hourlyStats] at member
        rcases AList.mem_insert _ |>.mp member with rfl | earlier
        · exact counts event moment rfl counted
        · exact acceptable.accepted key earlier
      · rw [same.dirty] at clean
        cases clean
    · have same := onEvent_uncounted taken counted
      refine ⟨fun key member => ?_, fun clean => ?_⟩
      · rw [same.hourlyStats] at member
        exact acceptable.accepted key member
      · rw [same.hourlyStats]
        exact acceptable.clean (same.dirty ▸ clean)
  | flush moment =>
    cases taken
    have succeeds := acceptable.succeeds available
    exact ⟨.of_empty (acceptable.flush succeeds), .inl succeeds.2⟩
  | tick moment =>
    cases taken
    obtain ⟨rotation, write⟩ := available
    have first := acceptable.succeeds rotation
    have rotated : Acceptable rejects (world.maybeRotateDay moment) := by
      unfold maybeRotateDay
      split
      · exact acceptable
      · exact .of_empty (acceptable.flush first)
    have second := rotated.succeeds write
    have emptied := rotated.flush second
    have retained := maybeRunRetention_sameHourly
      ((world.maybeRotateDay moment).flush moment.write) moment.retention
    exact ⟨.of_empty (retained.hourlyStats.trans emptied), .inl first.2, .inl second.2⟩

theorem run_accounts {start : TelemetryWorld} {history : List Move} (run : Run start history world)
    (no_logs : start.worker.logBuffer = []) (no_events : start.worker.statsEventBuffer = [])
    (available : ∀ t ∈ history, Available rejects t) :
    Outbox.Accounts rejects.requestLog start.db.requestLogs (logBatches history)
        (logRowsOf history) world.logBox ∧
      Outbox.Accounts rejects.statsEvent start.db.statsEvents (statsEventBatches history)
        (statsEventRowsOf history) world.eventBox := by
  refine run.invariant (P := fun history world => (∀ t ∈ history, Available rejects t) →
    Outbox.Accounts rejects.requestLog start.db.requestLogs (logBatches history)
        (logRowsOf history) world.logBox ∧
      Outbox.Accounts rejects.statsEvent start.db.statsEvents (statsEventBatches history)
        (statsEventRowsOf history) world.eventBox) ?_ ?_ available
  · intro _
    refine ⟨⟨?_, ?_⟩, ⟨?_, ?_⟩⟩
    · simpa [logBatches, logRowsOf, logBox] using no_logs
    · simp [logBatches, logBox]
    · simpa [statsEventBatches, statsEventRowsOf, eventBox] using no_events
    · simp [statsEventBatches, eventBox]
  · intro history before action after kept taken available
    obtain ⟨logs, events⟩ := kept fun t member => available t (List.mem_cons_of_mem _ member)
    obtain ⟨log_moves, event_moves⟩ := step_moves taken (available _ List.mem_cons_self)
    exact ⟨logs.moves log_moves, events.moves event_moves⟩

theorem run_acceptable {start : TelemetryWorld} {history : List Move}
    (run : Run start history world) (acceptable : Acceptable rejects start)
    (available : ∀ t ∈ history, Available rejects t)
    (counts : ∀ t ∈ history, CountsAccepted rejects t.action) :
    Acceptable rejects world ∧ ∀ t ∈ history, FailsWhole t.action := by
  refine run.invariant (P := fun history world => (∀ t ∈ history, Available rejects t) →
    (∀ t ∈ history, CountsAccepted rejects t.action) →
      Acceptable rejects world ∧ ∀ t ∈ history, FailsWhole t.action) ?_ ?_ available counts
  · intro _ _
    exact ⟨acceptable, fun _ member => by cases member⟩
  · intro history before action after kept taken available counts
    obtain ⟨earlier, whole⟩ := kept (fun t member => available t (List.mem_cons_of_mem _ member))
      fun t member => counts t (List.mem_cons_of_mem _ member)
    obtain ⟨later, last⟩ := earlier.step taken (available _ List.mem_cons_self)
      (counts _ List.mem_cons_self)
    refine ⟨later, fun t member => ?_⟩
    rcases List.mem_cons.mp member with rfl | member
    · exact last
    · exact whole t member

def nulRejected : Rejects where
  requestLog row := row.errorMessage = some "\x00"
  statsEvent _ := false
  statsHourly _ := false

def logged (message : String) : TelemetryAction :=
  .event (failedRequest 1 5 true message) ⟨"event", message, 5, false, true⟩

def oneBatch : List TelemetryAction :=
  [.flush ⟨6, false, none, false, true⟩, logged "no upstream", logged "\x00"]

end TelemetryWorld

end CodexGate.Telemetry
