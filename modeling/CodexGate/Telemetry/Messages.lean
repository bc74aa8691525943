import CodexGate.Telemetry.Worker

namespace CodexGate.Telemetry

open Foundation

inductive Kept : Option String → Option String → Prop
  | none : Kept none none
  | some {message stored : String} (start : stored.toList <+: message.toList)
    (short : byteLength stored ≤ 512) (whole : byteLength message ≤ 512 → stored = message) :
    Kept (some message) (some stored)

/-- A message that the log can cut: a character ends at byte 512 of a longer one. -/
def Truncatable : Option String → Prop
  | none => True
  | some message => byteLength message ≤ 512 ∨ isCharBoundary message 512

theorem logMessage_kept {message stored : Option String}
    (cut : logMessage message = some stored) : Kept message stored := by
  cases message with
  | none =>
    cases cut
    exact .none
  | some message =>
    simp only [logMessage] at cut
    split at cut
    · next long =>
      rw [truncate, if_pos (by omega)] at cut
      obtain ⟨text, cut, same⟩ := Option.map_eq_some_iff.mp cut
      obtain ⟨taken, ended, same'⟩ := Option.map_eq_some_iff.mp cut
      subst same same'
      obtain ⟨starts, length⟩ := takeBytes_prefix ended
      refine .some ?_ ?_ ?_
      · rwa [String.toList_ofList]
      · rw [byteLength, String.toList_ofList, length]
      · intro short
        omega
    · next short =>
      cases cut
      exact .some (List.prefix_refl _) (by omega) fun _ => rfl

theorem logMessage_isSome_iff (message : Option String) :
    (logMessage message).isSome ↔ Truncatable message := by
  cases message with
  | none => simp [logMessage, Truncatable]
  | some message =>
    simp only [logMessage, Truncatable, isCharBoundary]
    by_cases long : 512 < byteLength message
    · rw [if_pos long, truncate, if_pos (by omega)]
      have notShort : ¬byteLength message ≤ 512 := by omega
      simp [notShort]
    · rw [if_neg long]
      have short : byteLength message ≤ 512 := by omega
      simp [short]

namespace TelemetryWorld

def logRows (world : TelemetryWorld) : List RequestLogRow :=
  world.db.requestLogs ++ world.worker.logBuffer

def TakesIn (world : TelemetryWorld) (event : TelemetryEvent) (moment : EventMoment) : Prop :=
  ∃ after, world.onEvent event moment = some after ∧
    (event.logEnabled → moment.logsFail = false →
      ∃ row, after.logRows = world.logRows ++ [row] ∧ Kept event.errorMessage row.errorMessage)

theorem flushStatsEvents_logRows (world : TelemetryWorld) (fails : Bool) :
    (world.flushStatsEvents fails).logRows = world.logRows := by
  unfold flushStatsEvents
  split <;> rfl

theorem flushLogs_logRows (world : TelemetryWorld) :
    (world.flushLogs false).logRows = world.logRows := by
  unfold flushLogs
  split
  · rfl
  · simp [logRows]

theorem countEvent_logRows (world : TelemetryWorld) (event : TelemetryEvent) (moment : EventMoment) :
    (world.countEvent event moment).logRows = world.logRows := by
  unfold countEvent
  dsimp only
  split_ifs
  · rw [flushStatsEvents_logRows]
    rfl
  · rfl
  · rfl

theorem logEvent_logRows {world after : TelemetryWorld} {event : TelemetryEvent}
    {moment : EventMoment} (logged : world.logEvent event moment = some after)
    (enabled : event.logEnabled) (taken : moment.logsFail = false) :
    ∃ row, after.logRows = world.logRows ++ [row] ∧ Kept event.errorMessage row.errorMessage := by
  rw [logEvent, if_pos enabled] at logged
  obtain ⟨errorMessage, cut, same⟩ := Option.map_eq_some_iff.mp logged
  refine ⟨requestLogRow event errorMessage moment, ?_, logMessage_kept cut⟩
  subst same
  dsimp only
  split
  · rw [taken, flushLogs_logRows]
    simp [logRows]
  · simp [logRows]

theorem onEvent_isSome_iff (world : TelemetryWorld) (event : TelemetryEvent) (moment : EventMoment) :
    (world.onEvent event moment).isSome ↔ (event.logEnabled → Truncatable event.errorMessage) := by
  rw [onEvent, logEvent]
  split
  · next enabled =>
    simp only [Option.isSome_map, logMessage_isSome_iff, enabled, true_imp_iff]
  · next disabled =>
    simp [disabled]

/-- The worker takes an event in, and keeps the start of its error message, exactly when logging is
off or the message can be cut at byte 512. -/
theorem takesIn_iff (world : TelemetryWorld) (event : TelemetryEvent) (moment : EventMoment) :
    world.TakesIn event moment ↔ (event.logEnabled → Truncatable event.errorMessage) := by
  rw [← onEvent_isSome_iff world event moment, Option.isSome_iff_exists]
  constructor
  · rintro ⟨after, taken, _⟩
    exact ⟨after, taken⟩
  · rintro ⟨after, taken⟩
    refine ⟨after, taken, ?_⟩
    intro enabled logsTaken
    have rows := logEvent_logRows taken enabled logsTaken
    rwa [countEvent_logRows] at rows

end TelemetryWorld

def failedRequest (apiKeyId timeMs : Int) (logEnabled : Bool) (message : String) :
    TelemetryEvent where
  id := none
  apiKeyId := apiKeyId
  logEnabled := logEnabled
  providerId := none
  endpointId := none
  upstreamKeyId := none
  apiFormat := "responses"
  upstreamApiFormat := none
  model := none
  httpStatus := some (i32 502)
  errorType := some "upstream_error"
  errorMessage := some message
  tStreamMs := none
  tFirstByteMs := none
  tFirstTokenMs := none
  durationMs := some 20
  usage := ⟨0, 0, 0, 0, 0⟩
  usageObserved := false
  priceVersionId := none
  priceTierIndex := none
  timeMs := timeMs
  spanKind := "request"
  transport := "http"
  parentId := none
  wsSessionId := none
  ttftSource := none
  requestedReasoningEffort := none
  upstreamReasoningEffort := none
  requestedServiceTier := none
  upstreamServiceTier := none
  serviceTier := none
  routingTrace := none

namespace TelemetryWorld

def emptyDatabase : Database := ⟨∅, ∅, [], []⟩

set_option maxRecDepth 8000 in
/-- A message of 513 bytes whose last two bytes are one character. -/
theorem takesIn_fails :
    ¬(new emptyDatabase 1024 ⟨0, 0, 0, 1⟩ 0).TakesIn
      (failedRequest 1 0 true (String.ofList ('a' :: List.replicate 256 'é')))
      ⟨"event", "log", 0, false, false⟩ := by
  rintro ⟨after, taken, _⟩
  have cut := (onEvent_isSome_iff _ _ _).mp (Option.isSome_of_mem taken) rfl
  simp only [failedRequest, Truncatable, byteLength, isCharBoundary, String.toList_ofList] at cut
  rcases cut with short | boundary
  · exact absurd short (by decide)
  · exact absurd boundary (by decide)

end TelemetryWorld

end CodexGate.Telemetry
