import CodexGate.Websocket.Serve

namespace CodexGate.Websocket

open Foundation Metering

def Effect.passed : Effect → Bool
  | .data | .terminal | .usage | .errorFrame _ => true
  | _ => false

structure Passes (before after : WsContext) : Prop where
  budget : after.budget = before.budget
  lastNumber : after.lastNumber = before.lastNumber
  attempts : after.attempts = before.attempts
  pendingTurnLog : after.pendingTurnLog = before.pendingTurnLog
  telemetryPermit : after.telemetryPermit = before.telemetryPermit
  log : ∃ passed, (∀ effect ∈ passed, effect.passed = true) ∧ after.log = before.log ++ passed

namespace Passes

variable {before middle after : WsContext}

theorem of_log (same : after.log = before.log) (budget : after.budget = before.budget)
    (lastNumber : after.lastNumber = before.lastNumber)
    (attempts : after.attempts = before.attempts)
    (pendingTurnLog : after.pendingTurnLog = before.pendingTurnLog)
    (telemetryPermit : after.telemetryPermit = before.telemetryPermit) : Passes before after :=
  ⟨budget, lastNumber, attempts, pendingTurnLog, telemetryPermit, [], by simp, by simp [same]⟩

theorem refl (ctx : WsContext) : Passes ctx ctx := of_log rfl rfl rfl rfl rfl rfl

theorem trans (first : Passes before middle) (second : Passes middle after) :
    Passes before after := by
  obtain ⟨passed, kind, grown⟩ := first.log
  obtain ⟨rest, restKind, grownMore⟩ := second.log
  refine ⟨second.budget.trans first.budget, second.lastNumber.trans first.lastNumber,
    second.attempts.trans first.attempts, second.pendingTurnLog.trans first.pendingTurnLog,
    second.telemetryPermit.trans first.telemetryPermit, passed ++ rest, ?_,
    by rw [grownMore, grown, List.append_assoc]⟩
  intro effect member
  rcases List.mem_append.mp member with member | member
  · exact kind effect member
  · exact restKind effect member

theorem emit (ctx : WsContext) {effect : Effect} (kind : effect.passed = true) :
    Passes ctx (ctx.emit effect) :=
  ⟨rfl, rfl, rfl, rfl, rfl, [effect], by simpa using kind, rfl⟩

theorem look (ctx : WsContext) (hangup : Bool) : Passes ctx (ctx.look hangup) :=
  of_log rfl rfl rfl rfl rfl rfl

theorem sendWsError (ctx : WsContext) (error : WsBridgeError) :
    Passes ctx (ctx.sendWsError error) := emit ctx rfl

theorem sendTurnEvent (ctx : WsContext) {effect : Effect} (kind : effect.passed = true)
    (hangup delivered : Bool) : Passes ctx (ctx.sendTurnEvent effect hangup delivered) := by
  have looked := look ctx hangup
  unfold WsContext.sendTurnEvent
  dsimp only
  split
  · exact looked
  split
  · exact looked.trans (emit _ kind)
  · exact looked.trans (look _ true)

theorem observe (ctx : WsContext) (event : Json) : Passes ctx (ctx.observe event) := by
  have observed : Passes ctx { ctx with observation := ctx.observation.observe event } :=
    of_log rfl rfl rfl rfl rfl rfl
  unfold WsContext.observe
  dsimp only
  split
  · exact observed.trans (emit _ rfl)
  · exact observed

section Events

variable (settings : WsSettings) (target : WsTarget)

theorem prepareEncryptedRecovery (answers : RecoveryAnswers) (event : Json) (emittedEvent : Bool)
    (ctx : WsContext) :
    Passes ctx
      (Websocket.prepareEncryptedRecovery settings target answers event emittedEvent ctx).2 := by
  have looked := look ctx answers.hangup
  unfold Websocket.prepareEncryptedRecovery
  dsimp only
  split
  · exact refl ctx
  split
  · exact refl ctx
  split
  · exact looked
  split
  · exact looked
  split
  · exact looked.trans (of_log rfl rfl rfl rfl rfl rfl)
  · exact looked

theorem forwardMessage (answers : EventAnswers) (reading : Reading) (ctx : WsContext) :
    Passes ctx (Websocket.forwardMessage answers reading ctx).2 :=
  sendTurnEvent ctx rfl answers.hangup answers.delivered

theorem forwardEvent (answers : EventAnswers) (event : Json) (reading : Reading)
    (ctx : WsContext) :
    Passes ctx (Websocket.forwardEvent settings target answers event reading ctx).2 := by
  have observed := observe ctx event
  unfold Websocket.forwardEvent
  dsimp only
  split
  · exact observed.trans (sendTurnEvent _ rfl answers.hangup answers.delivered)
  have prepared := observed.trans (prepareEncryptedRecovery settings target answers.recovery event
    reading.emittedEvent (ctx.observe event))
  split
  · exact prepared.trans (sendTurnEvent _ rfl answers.hangup answers.delivered)
  · exact prepared

theorem forwardEvents (answers : Nat → EventAnswers) (events : List Json) (index : Nat)
    (reading : Reading) (ctx : WsContext) :
    Passes ctx (Websocket.forwardEvents settings target answers index events reading ctx).2 := by
  induction events generalizing index reading ctx with
  | nil => exact refl ctx
  | cons event rest ih =>
    have passed := forwardEvent settings target (answers index) event reading ctx
    unfold Websocket.forwardEvents
    dsimp only
    split
    · exact passed
    · exact passed.trans (ih (index + 1) _ _)

theorem readNative (reads : List NativeRead) (reading : Reading) (ctx : WsContext) :
    Passes ctx (Websocket.readNative settings target reads reading ctx).2 := by
  induction reads generalizing reading ctx with
  | nil => exact refl ctx
  | cons read rest ih =>
    unfold Websocket.readNative
    split
    · rename_i event _
      have passed := forwardEvent settings target read.event event reading ctx
      dsimp only
      split
      · exact passed
      · exact passed.trans (ih _ _)
    · exact (forwardMessage read.event reading ctx).trans (ih _ _)
    · exact (forwardMessage read.event reading ctx).trans (ih _ _)
    · exact ih reading ctx
    · exact ih reading ctx
    · exact refl ctx
    · exact refl ctx
    · exact refl ctx
    · exact refl ctx

theorem finishBody (isSse : Bool) (status : Nat) (answers : Nat → EventAnswers) (body : BridgeBody)
    (reading : Reading) (ctx : WsContext) :
    Passes ctx (Websocket.finishBody settings target isSse status answers body reading ctx).2 :=
  forwardEvents settings target answers _ 0 reading ctx

theorem readBridge (isSse : Bool) (status : Nat) (last : Nat → EventAnswers)
    (reads : List BridgeRead) (body : BridgeBody) (reading : Reading) (ctx : WsContext) :
    Passes ctx
      (Websocket.readBridge settings target isSse status last reads body reading ctx).2 := by
  induction reads generalizing body reading ctx with
  | nil => exact finishBody settings target isSse status last body reading ctx
  | cons read rest ih =>
    unfold Websocket.readBridge
    split
    · exact ih body reading ctx
    · rename_i bytes _
      split
      · have passed := forwardEvents settings target read.event
          (body.sse.pushBytes settings.fromSlice bytes).events 0 reading ctx
        dsimp only
        split
        · exact passed
        · exact passed.trans (ih _ _ _)
      split
      · exact refl ctx
      · exact ih _ reading ctx
    · exact finishBody settings target isSse status read.event body _ ctx
    · exact finishBody settings target isSse status read.event body _ ctx
    · exact finishBody settings target isSse status read.event body _ ctx

end Events

end Passes

def Effect.isRequest : Effect → Bool
  | .request _ => true
  | _ => false

/-- What leaves the record of a turn alone and only adds effects of one kind to its log. -/
structure Grows (kind : Effect → Bool) (before after : WsContext) : Prop where
  pendingTurnLog : after.pendingTurnLog = before.pendingTurnLog
  telemetryPermit : after.telemetryPermit = before.telemetryPermit
  log : ∃ more, (∀ effect ∈ more, kind effect = true) ∧ after.log = before.log ++ more

theorem Passes.grows {before after : WsContext} (passes : Passes before after) :
    Grows Effect.passed before after :=
  ⟨passes.pendingTurnLog, passes.telemetryPermit, passes.log⟩

namespace Grows

variable {kind : Effect → Bool} {before middle after : WsContext}

theorem of_log (same : after.log = before.log)
    (pendingTurnLog : after.pendingTurnLog = before.pendingTurnLog)
    (telemetryPermit : after.telemetryPermit = before.telemetryPermit) : Grows kind before after :=
  ⟨pendingTurnLog, telemetryPermit, [], by simp, by simp [same]⟩

theorem refl (ctx : WsContext) : Grows kind ctx ctx := of_log rfl rfl rfl

theorem trans (first : Grows kind before middle) (second : Grows kind middle after) :
    Grows kind before after := by
  obtain ⟨more, kinds, grown⟩ := first.log
  obtain ⟨rest, restKinds, grownMore⟩ := second.log
  refine ⟨second.pendingTurnLog.trans first.pendingTurnLog,
    second.telemetryPermit.trans first.telemetryPermit, more ++ rest, ?_,
    by rw [grownMore, grown, List.append_assoc]⟩
  intro effect member
  rcases List.mem_append.mp member with member | member
  · exact kinds effect member
  · exact restKinds effect member

theorem mono {wider : Effect → Bool} (grows : Grows kind before after)
    (within : ∀ effect, kind effect = true → wider effect = true) : Grows wider before after := by
  obtain ⟨more, kinds, grown⟩ := grows.log
  exact ⟨grows.pendingTurnLog, grows.telemetryPermit, more,
    fun effect member => within effect (kinds effect member), grown⟩

theorem emit (ctx : WsContext) {effect : Effect} (is : kind effect = true) :
    Grows kind ctx (ctx.emit effect) :=
  ⟨rfl, rfl, [effect], by simpa using is, rfl⟩

theorem begin (ctx : WsContext) (target : WsTarget) (turn : Bool) (answers : BeginAnswers) :
    Grows kind ctx (ctx.beginWsAttempt target turn answers).2 := by
  rcases ctx.beginWsAttempt_cases target turn answers with
    ⟨gone, ⟨_, _, after⟩ | ⟨_, _, after⟩ | ⟨_, _, after⟩⟩ <;>
  · rw [after]
    exact of_log rfl rfl rfl

theorem send (ctx : WsContext) (target : WsTarget) (request : Nat → Request) :
    Grows Effect.isRequest ctx (ctx.send target request) := by
  have noted : Grows Effect.isRequest ctx (ctx.noteWsSend target) := by
    unfold WsContext.noteWsSend
    split
    · exact refl ctx
    · exact of_log rfl rfl rfl
  exact noted.trans (emit _ rfl)

section Connect

variable (target : WsTarget)

theorem replayConnect (answers : ReplayConnectAnswers) (result : ConnectResult) (ctx : WsContext) :
    Grows Effect.isRequest ctx (Websocket.replayConnect target answers result ctx).2 := by
  have begun := @begin Effect.isRequest ctx target false answers.begin
  unfold Websocket.replayConnect
  split
  · split
    · exact refl ctx
    split
    · exact refl ctx
    dsimp only
    split
    · exact begun.trans (send _ target _)
    · exact begun
  · exact refl ctx

theorem settleConnect (capacity : Bool) (result : ConnectResult) (ctx : WsContext) :
    Grows Effect.isRequest ctx (Websocket.settleConnect capacity result ctx).2 := by
  cases result with
  | ok _ => exact of_log rfl rfl rfl
  | error _ => exact refl ctx

theorem connectUpstreamWsOnce (answers : ConnectAnswers) (ctx : WsContext) :
    Grows Effect.isRequest ctx (Websocket.connectUpstreamWsOnce target answers ctx).2 := by
  have begun := @begin Effect.isRequest ctx target false answers.begin
  unfold Websocket.connectUpstreamWsOnce
  split
  · exact refl ctx
  dsimp only
  split
  · exact begun
  split
  · exact begun
  have sent := begun.trans (send (ctx.beginWsAttempt target false answers.begin).2 target
    (.connect target.providerId))
  have replayed := replayConnect target answers.replay answers.result
    (sendConnect target (ctx.beginWsAttempt target false answers.begin).2)
  split
  · rename_i replays
    rw [replays] at replayed
    exact sent.trans replayed
  · rename_i result after replays
    rw [replays] at replayed
    exact (sent.trans replayed).trans (settleConnect answers.capacity result after)

theorem connectOrBridgeUpstream (answers : ConnectAnswers) (ctx : WsContext) :
    Grows Effect.isRequest ctx (Websocket.connectOrBridgeUpstream target answers ctx).2 := by
  unfold Websocket.connectOrBridgeUpstream
  split
  · exact refl ctx
  split
  · exact refl ctx
  split
  · exact refl ctx
  · exact connectUpstreamWsOnce target answers ctx

end Connect

theorem connectTargets (requestedModel : String) (script : Nat → ConnectAnswers)
    (targets : List WsTarget) (index : Nat) (lastError : Option WsBridgeError)
    (providerBudget : WsProviderBudget) (ctx : WsContext) :
    Grows Effect.isRequest ctx
      (Websocket.connectTargets requestedModel script index targets lastError providerBudget
        ctx).ctx := by
  induction targets generalizing index lastError providerBudget ctx with
  | nil => exact refl ctx
  | cons target rest ih =>
    unfold Websocket.connectTargets
    split
    · exact refl ctx
    split
    · exact ih (index + 1) lastError providerBudget ctx
    split
    · exact refl ctx
    · have connected := connectOrBridgeUpstream target (script index) ctx
      dsimp only
      split
      · exact connected
      · exact connected.trans (ih _ _ _ _)

theorem connectSelectedUpstream (requestedModel : String) (answers : SelectionAnswers)
    (providerBudget : WsProviderBudget) (ctx : WsContext) :
    Grows Effect.isRequest ctx
      (Websocket.connectSelectedUpstream requestedModel answers providerBudget ctx).ctx := by
  unfold Websocket.connectSelectedUpstream
  split
  · exact refl ctx
  dsimp only
  split
  · exact refl ctx
  · exact connectTargets requestedModel answers.target _ 0 none providerBudget ctx

end Grows

theorem finishForwardedTurn_cases (target : WsTarget) (transport : TurnTransport)
    (answers : FinishAnswers) (outcome : TurnOutcome) (emittedEvent : Bool) (ctx : WsContext) :
    (finishForwardedTurn target transport answers outcome emittedEvent ctx).2 =
        (ctx.look answers.hangup).recordTurn target transport outcome answers.recordHangup ∧
      (finishForwardedTurn target transport answers outcome emittedEvent ctx).1 ≠
        .retryEncryptedContent ∧
      ((finishForwardedTurn target transport answers outcome emittedEvent ctx).1.isRetry = true →
        emittedEvent = false) ∧
      ((ctx.look answers.hangup).disconnected = false → emittedEvent = false →
        (Reservation.classifyFailureScope (some (outcome.status : Int))
          outcome.origin).isRetryable = true →
        (finishForwardedTurn target transport answers outcome emittedEvent ctx).1.isRetry =
          true) := by
  unfold finishForwardedTurn
  dsimp only
  split
  · rename_i gone
    exact ⟨rfl, nofun, nofun, fun here => absurd gone (by rw [here]; simp)⟩
  split
  · rename_i retries
    simp only [Bool.and_eq_true, Bool.not_eq_true'] at retries
    exact ⟨rfl, nofun, fun _ => retries.1, fun _ _ _ => rfl⟩
  · rename_i stops
    have kept : ¬(emittedEvent = false ∧ (Reservation.classifyFailureScope
        (some (outcome.status : Int)) outcome.origin).isRetryable = true) := by
      simpa using stops
    split
    · exact ⟨rfl, nofun, nofun, fun _ before retryable => absurd ⟨before, retryable⟩ kept⟩
    · exact ⟨rfl, nofun, nofun, fun _ before retryable => absurd ⟨before, retryable⟩ kept⟩

end CodexGate.Websocket
