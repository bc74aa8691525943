import CodexGate.Websocket.Reading

namespace CodexGate.Websocket

open Foundation Metering Reservation

def Effect.isMetric : Effect → Bool
  | .metric _ _ => true
  | _ => false

def Effect.isTelemetry : Effect → Bool
  | .telemetry _ => true
  | _ => false

def SettledOnce (ctx : WsContext) : Prop :=
  ctx.log.countP Effect.isTelemetry = 1 ∧ ctx.log.countP Effect.isMetric = 1

/-- Whether an effect leaves the turn with a record: a setup failure does, and of the attempts that
    are let through each one that is not sent again. -/
def Effect.leavesRecord : Effect → Option Bool
  | .setupFailed => some true
  | .ended ending =>
    if ending.turnedAway then none else some (ending.result != .retryEncryptedContent)
  | _ => none

def verdicts (log : List Effect) : List Bool := log.filterMap Effect.leavesRecord

/-- The turn fails outside its attempts, or an attempt is let through and the last such one is not
    sent again without its encrypted content. -/
def RecordLeft (ctx : WsContext) : Prop := (verdicts ctx.log).getLast? = some true

def Effect.uncounted : Effect → Bool
  | .ended _ | .setupFailed | .metric _ _ | .telemetry _ | .telemetryDropped => false
  | _ => true

section Log

variable {log more : List Effect} (uncounted : ∀ effect ∈ more, effect.uncounted = true)
include uncounted

theorem verdicts_append_uncounted : verdicts (log ++ more) = verdicts log := by
  have nothing : verdicts more = [] := by
    rw [verdicts, List.filterMap_eq_nil_iff]
    intro effect member
    have kind := uncounted effect member
    cases effect <;> first | rfl | cases kind
  rw [verdicts, List.filterMap_append]
  exact (congrArg (verdicts log ++ ·) nothing).trans (List.append_nil _)

theorem dropped_append_uncounted :
    Effect.telemetryDropped ∈ log ++ more ↔ Effect.telemetryDropped ∈ log := by
  rw [List.mem_append]
  constructor
  · rintro (member | member)
    · exact member
    · cases uncounted _ member
  · exact Or.inl

end Log

theorem verdicts_snoc (log : List Effect) (effect : Effect) :
    verdicts (log ++ [effect]) = verdicts log ++ effect.leavesRecord.toList := by
  rw [verdicts, List.filterMap_append]
  cases read : effect.leavesRecord <;> simp [verdicts, read]

theorem verdicts_snoc_silent (log : List Effect) {effect : Effect}
    (silent : effect.leavesRecord = none) : verdicts (log ++ [effect]) = verdicts log := by
  rw [verdicts_snoc, silent, Option.toList_none, List.append_nil]

structure Accounts (ctx : WsContext) : Prop where
  pending : ctx.pendingTurnLog.isSome = true ↔ RecordLeft ctx
  permitted : .telemetryDropped ∉ ctx.log → ∀ pending, ctx.pendingTurnLog = some pending →
    pending.permit = true
  unsettled : ∀ effect ∈ ctx.log, effect.isTelemetry = false ∧ effect.isMetric = false

def PermitHeld (ctx : WsContext) : Prop :=
  .telemetryDropped ∉ ctx.log → ctx.telemetryPermit = true

section Accounts

variable {ctx before middle after : WsContext} {active : ActiveUpstream}

theorem Accounts.of_grows (accounts : Accounts before)
    (grows : Grows Effect.uncounted before after) : Accounts after := by
  obtain ⟨more, uncounted, grown⟩ := grows.log
  constructor
  · rw [grows.pendingTurnLog, RecordLeft, grown, verdicts_append_uncounted uncounted]
    exact accounts.pending
  · rw [grown, dropped_append_uncounted uncounted, grows.pendingTurnLog]
    exact accounts.permitted
  · intro effect member
    rw [grown] at member
    rcases List.mem_append.mp member with member | member
    · exact accounts.unsettled effect member
    · have kind := uncounted effect member
      cases effect <;> first | exact ⟨rfl, rfl⟩ | cases kind

theorem uncounted_of_isRequest (effect : Effect) (is : effect.isRequest = true) :
    effect.uncounted = true := by
  cases effect <;> first | rfl | cases is

theorem uncounted_of_passed (effect : Effect) (is : effect.passed = true) :
    effect.uncounted = true := by
  cases effect <;> first | rfl | cases is

theorem Passes.uncounted (passes : Passes before after) : Grows Effect.uncounted before after :=
  passes.grows.mono uncounted_of_passed

/-- How an attempt ends: it is turned away and nothing is recorded, or it is recorded with the
    permit that was held for it. -/
structure AttemptEnds (before : WsContext) (ended : ForwardResult × WsContext) : Prop where
  ends : ∃ turnedAway fate disconnected more,
    (∀ effect ∈ more, effect.uncounted = true) ∧
    ended.2.log = before.log ++ more ++ [.ended ⟨turnedAway, fate, disconnected, ended.1⟩] ∧
    (turnedAway = true → ended.2.pendingTurnLog = before.pendingTurnLog ∧
      ended.1 ≠ .retryEncryptedContent) ∧
    (turnedAway = false → ∃ pending, ended.2.pendingTurnLog = some pending ∧
      pending.permit = before.telemetryPermit)

theorem AttemptEnds.past {ended : ForwardResult × WsContext} (ends : AttemptEnds middle ended)
    (grows : Grows Effect.uncounted before middle) : AttemptEnds before ended := by
  obtain ⟨more, uncounted, grown⟩ := grows.log
  obtain ⟨turnedAway, fate, disconnected, rest, restUncounted, log, away, recorded⟩ := ends.ends
  refine ⟨turnedAway, fate, disconnected, more ++ rest, ?_, ?_, ?_, ?_⟩
  · intro effect member
    rcases List.mem_append.mp member with member | member
    · exact uncounted effect member
    · exact restUncounted effect member
  · rw [log, grown, ← List.append_assoc]
  · intro is
    rw [← grows.pendingTurnLog]
    exact away is
  · intro is
    rw [← grows.telemetryPermit]
    exact recorded is

theorem turnAway_ends (ctx : WsContext) (error : WsBridgeError) :
    AttemptEnds ctx (turnAway error ctx) :=
  ⟨true, .none, ctx.disconnected, [], by simp, by simp [turnAway, endAttempt],
    fun _ => ⟨rfl, fun goes => by cases goes⟩, fun goes => by cases goes⟩

theorem record_ends (target : WsTarget) (transport : TurnTransport) (outcome : TurnOutcome)
    (hangup : Bool) (fate : Fate) (result : ForwardResult) (ctx : WsContext) :
    AttemptEnds ctx
      (endAttempt false fate result (ctx.recordTurn target transport outcome hangup)) :=
  ⟨false, fate, (ctx.look hangup).disconnected, [.recorded], by simp [Effect.uncounted], rfl, nofun,
    fun _ => ⟨_, rfl, rfl⟩⟩

theorem failAttempt_ends (target : WsTarget) (transport : TurnTransport) (origin : OutcomeOrigin)
    (error : WsBridgeError) (hangup : Bool) (ctx : WsContext) :
    AttemptEnds ctx (failAttempt target transport origin error hangup ctx) :=
  record_ends target transport _ hangup .none _ ctx

theorem finishReading_ends (target : WsTarget) (transport : TurnTransport)
    (answers : FinishAnswers) (reading : Reading) (ctx : WsContext) :
    AttemptEnds ctx (finishReading target transport answers reading ctx) := by
  have looked : Grows Effect.uncounted ctx (ctx.look answers.hangup) := .of_log rfl rfl rfl
  unfold finishReading
  dsimp only
  rw [(finishForwardedTurn_cases _ _ _ _ _ _).1]
  exact (record_ends target transport _ answers.recordHangup reading.fate _ _).past looked

theorem forwardNative_ends (settings : WsSettings) (target : WsTarget) (socket : Option Nat)
    (answers : NativeAnswers) (ctx : WsContext) :
    AttemptEnds ctx (forwardNativeResponseCreate settings target socket answers ctx) := by
  have begun := @Grows.begin Effect.uncounted ctx target true answers.begin
  have sent := begun.trans ((Grows.send (ctx.beginWsAttempt target true answers.begin).2 target
    (.create target.providerId socket)).mono uncounted_of_isRequest)
  unfold forwardNativeResponseCreate
  dsimp only
  split
  · exact (turnAway_ends _ _).past begun
  split
  · exact (failAttempt_ends target .nativeWs _ _ _ _).past begun
  · exact (failAttempt_ends target .nativeWs _ _ _ _).past begun
  split
  · exact (failAttempt_ends target .nativeWs _ _ _ _).past sent
  · have read := Passes.readNative settings target answers.reads {}
      ((ctx.beginWsAttempt target true answers.begin).2.send target
        (.create target.providerId socket))
    exact (finishReading_ends target .nativeWs answers.finish _ _).past (sent.trans read.uncounted)

theorem replayBridge_ends (target : WsTarget) (answers : BridgeReplayAnswers) (hangup : Bool)
    (result : Dispatch.DispatchResult) (ctx : WsContext) :
    (∀ ended, replayBridge target answers hangup result ctx = .inl ended →
        AttemptEnds ctx ended) ∧
      ∀ answered, replayBridge target answers hangup result ctx = .inr answered →
        Grows Effect.uncounted ctx answered.2 := by
  have begun := @Grows.begin Effect.uncounted ctx target false answers.begin
  unfold replayBridge
  split
  · split
    · refine ⟨fun ended is => ?_, fun answered is => by cases is⟩
      cases is
      exact failAttempt_ends target .httpBridge _ _ _ _
    split
    · refine ⟨fun ended is => ?_, fun answered is => by cases is⟩
      cases is
      exact turnAway_ends _ _
    dsimp only
    split
    · refine ⟨fun ended is => ?_, fun answered is => by cases is⟩
      cases is
      exact (turnAway_ends _ _).past begun
    split
    · refine ⟨fun ended is => ?_, fun answered is => by cases is⟩
      cases is
      exact (turnAway_ends _ _).past begun
    · refine ⟨fun ended is => (by cases is), fun answered is => ?_⟩
      cases is
      exact begun.trans ((Grows.send _ target _).mono uncounted_of_isRequest)
  · refine ⟨fun ended is => (by cases is), fun answered is => ?_⟩
    cases is
    exact .refl ctx

theorem readDispatch_ends (settings : WsSettings) (target : WsTarget) (answers : BridgeAnswers)
    (result : Dispatch.DispatchResult) (ctx : WsContext) :
    AttemptEnds ctx (readDispatch settings target answers result ctx) := by
  unfold readDispatch
  split
  · exact failAttempt_ends target .httpBridge _ _ _ _
  · rename_i status
    have read := Passes.readBridge settings target answers.isSse status answers.last answers.reads
      {} {} ctx
    exact (finishReading_ends target .httpBridge answers.finish _ _).past read.uncounted

theorem forwardBridge_ends (settings : WsSettings) (target : WsTarget) (answers : BridgeAnswers)
    (ctx : WsContext) :
    AttemptEnds ctx (forwardHttpBridgeResponseCreate settings target answers ctx) := by
  have begun := @Grows.begin Effect.uncounted ctx target false answers.begin
  have sent : Grows Effect.uncounted ctx
      (sendDispatch target (ctx.beginWsAttempt target false answers.begin).2) :=
    begun.trans ((Grows.send _ target _).mono uncounted_of_isRequest)
  unfold forwardHttpBridgeResponseCreate
  split
  · rename_i fault _
    -- The frame goes out between the record and the end.
    refine ⟨false, .none, (ctx.look answers.failureHangup).disconnected,
      [.recorded, .errorFrame (invalidPayloadError fault.message)], by simp [Effect.uncounted], ?_,
      nofun, fun _ => ⟨_, rfl, rfl⟩⟩
    exact congrArg (· ++ _) (List.append_assoc ctx.log [.recorded] _)
  dsimp only
  split
  · exact (turnAway_ends _ _).past begun
  split
  · exact (failAttempt_ends target .httpBridge _ _ _ _).past begun
  split
  · exact (turnAway_ends _ _).past begun
  have replayed := replayBridge_ends target answers.replay answers.failureHangup answers.result
    (sendDispatch target (ctx.beginWsAttempt target false answers.begin).2)
  split
  · rename_i ended replays
    exact (replayed.1 ended replays).past sent
  · rename_i result after replays
    exact (readDispatch_ends settings target answers result after).past
      (sent.trans (replayed.2 _ replays))

theorem forwardOnce_ends (settings : WsSettings) (active : ActiveUpstream)
    (answers : TransportAnswers) (ctx : WsContext) :
    AttemptEnds ctx (forwardOnce settings active answers ctx) := by
  unfold forwardOnce
  split
  · exact forwardNative_ends settings active.resolved _ answers.native ctx
  · exact forwardBridge_ends settings active.resolved answers.bridge ctx

theorem Accounts.count_eq_zero (accounts : Accounts ctx) :
    ctx.log.countP Effect.isTelemetry = 0 ∧ ctx.log.countP Effect.isMetric = 0 := by
  constructor
  · rw [List.countP_eq_zero]
    intro effect member
    simp [(accounts.unsettled effect member).1]
  · rw [List.countP_eq_zero]
    intro effect member
    simp [(accounts.unsettled effect member).2]

theorem recordLeft_snoc (log : List Effect) {effect : Effect} {left : Bool}
    (leaves : effect.leavesRecord = some left) :
    (verdicts (log ++ [effect])).getLast? = some left := by
  rw [verdicts_snoc, leaves]
  simp

theorem AttemptEnds.frame {ended : ForwardResult × WsContext} (accounts : Accounts ctx)
    (ends : AttemptEnds ctx ended) :
    (.telemetryDropped ∈ ended.2.log ↔ .telemetryDropped ∈ ctx.log) ∧
      ∀ effect ∈ ended.2.log, effect.isTelemetry = false ∧ effect.isMetric = false := by
  obtain ⟨turnedAway, fate, disconnected, more, uncounted, log, -⟩ := ends.ends
  constructor
  · rw [log, List.mem_append, dropped_append_uncounted uncounted]
    constructor
    · rintro (member | member)
      · exact member
      · cases List.mem_singleton.mp member
    · exact Or.inl
  · intro effect member
    rw [log, List.mem_append, List.mem_append] at member
    rcases member with (member | member) | member
    · exact accounts.unsettled effect member
    · have kind := uncounted effect member
      cases effect <;> first | exact ⟨rfl, rfl⟩ | cases kind
    · rw [List.mem_singleton.mp member]
      exact ⟨rfl, rfl⟩

theorem AttemptEnds.accounts {ended : ForwardResult × WsContext} (ends : AttemptEnds ctx ended)
    (accounts : Accounts ctx) (held : PermitHeld ctx) (final : ended.1 ≠ .retryEncryptedContent) :
    Accounts ended.2 := by
  obtain ⟨dropped, unsettled⟩ := ends.frame accounts
  obtain ⟨turnedAway, fate, disconnected, more, uncounted, log, away, recorded⟩ := ends.ends
  cases turnedAway with
  | true =>
    obtain ⟨pending, -⟩ := away rfl
    refine ⟨?_, ?_, unsettled⟩
    · rw [pending, RecordLeft, log, verdicts_snoc_silent _ rfl, verdicts_append_uncounted uncounted]
      exact accounts.pending
    · rw [dropped, pending]
      exact accounts.permitted
  | false =>
    obtain ⟨pending, holds, permit⟩ := recorded rfl
    have leaves : (Effect.ended ⟨false, fate, disconnected, ended.1⟩).leavesRecord = some true := by
      simpa [Effect.leavesRecord] using final
    refine ⟨?_, ?_, unsettled⟩
    · rw [holds, RecordLeft, log]
      exact iff_of_true rfl (recordLeft_snoc _ leaves)
    · intro kept other is
      rw [holds] at is
      cases is
      rw [permit]
      exact held fun drop => kept (dropped.mpr drop)

theorem AttemptEnds.taken {ended : ForwardResult × WsContext} (ends : AttemptEnds ctx ended)
    (accounts : Accounts ctx) (held : PermitHeld ctx) (again : ended.1 = .retryEncryptedContent) :
    Accounts (takeBack ended.2) ∧ PermitHeld (takeBack ended.2) := by
  obtain ⟨dropped, unsettled⟩ := ends.frame accounts
  obtain ⟨turnedAway, fate, disconnected, more, uncounted, log, away, recorded⟩ := ends.ends
  cases turnedAway with
  | true => exact absurd again (away rfl).2
  | false =>
    obtain ⟨pending, holds, permit⟩ := recorded rfl
    have leaves : (Effect.ended ⟨false, fate, disconnected, ended.1⟩).leavesRecord =
        some false := by
      simp [Effect.leavesRecord, again]
    have taken : takeBack ended.2 = { ended.2 with
        observation := {}, pendingTurnLog := none, telemetryPermit := pending.permit } := by
      simp [takeBack, holds]
    rw [taken]
    refine ⟨⟨?_, fun _ _ is => (by cases is), unsettled⟩, ?_⟩
    · have last := recordLeft_snoc (ctx.log ++ more) leaves
      rw [← log] at last
      constructor
      · intro is
        cases is
      · intro left
        cases last.symm.trans left
    · intro kept
      show pending.permit = true
      rw [permit]
      exact held fun drop => kept (dropped.mpr drop)

theorem forwardAttempts_accounts (settings : WsSettings) (active : ActiveUpstream)
    (script : Nat → TransportAnswers) (fuel index : Nat) (accounts : Accounts ctx)
    (held : PermitHeld ctx) :
    Accounts (forwardAttempts settings active script fuel index ctx).2 := by
  induction fuel generalizing index ctx with
  | zero => exact accounts
  | succ fuel ih =>
    have ends := forwardOnce_ends settings active (script index) ctx
    unfold forwardAttempts
    split
    · rename_i rejected forwards
      rw [forwards] at ends
      obtain ⟨taken, still⟩ := ends.taken accounts held rfl
      exact ih (index + 1) taken still
    · rename_i other
      refine ends.accounts accounts held fun again => ?_
      exact other _ (Prod.ext again rfl)

theorem reservePermit_accounts (accounts : Accounts ctx) (permit : Bool) :
    Accounts (ctx.reservePermit permit) ∧ PermitHeld (ctx.reservePermit permit) := by
  unfold WsContext.reservePermit
  split
  · rename_i granted
    exact ⟨⟨accounts.pending, accounts.permitted, accounts.unsettled⟩, fun _ => granted⟩
  · have dropped : Effect.telemetryDropped ∈
        ({ ctx with telemetryPermit := permit }.emit .telemetryDropped).log := by simp
    refine ⟨⟨?_, fun kept => absurd dropped kept, ?_⟩, fun kept => absurd dropped kept⟩
    · rw [RecordLeft, WsContext.emit_log, verdicts_snoc_silent _ rfl]
      exact accounts.pending
    · intro effect member
      rcases List.mem_append.mp member with member | member
      · exact accounts.unsettled effect member
      · rw [List.mem_singleton.mp member]
        exact ⟨rfl, rfl⟩

theorem forwardResponseCreate_accounts (settings : WsSettings) (active : ActiveUpstream)
    (answers : ForwardAnswers) (accounts : Accounts ctx) :
    Accounts (forwardResponseCreate settings active answers ctx).2 := by
  obtain ⟨reserved, held⟩ := reservePermit_accounts accounts answers.permit
  exact forwardAttempts_accounts settings active answers.attempt 2 0 reserved held

/-- The end of a turn: with room for its telemetry it is settled once exactly when it leaves a
    record. -/
def Final (ctx : WsContext) : Prop :=
  .telemetryDropped ∉ ctx.log → (SettledOnce ctx ↔ RecordLeft ctx)

theorem final_of_left (left : RecordLeft ctx)
    (once : .telemetryDropped ∉ ctx.log → SettledOnce ctx) : Final ctx :=
  fun kept => iff_of_true (once kept) left

theorem Accounts.settle (accounts : Accounts ctx) : Final ctx.settle := by
  obtain ⟨noTelemetry, noMetric⟩ := accounts.count_eq_zero
  unfold WsContext.settle
  split
  · rename_i nothing
    intro _
    have unrecorded : ¬RecordLeft ctx := fun left => by
      have holds := accounts.pending.mpr left
      rw [nothing] at holds
      cases holds
    refine iff_of_false (fun once => ?_) unrecorded
    rw [SettledOnce, noTelemetry] at once
    cases once.1
  · rename_i pending holds
    have left : RecordLeft ctx := accounts.pending.mp (by rw [holds]; rfl)
    dsimp only
    split
    · refine final_of_left ?_ fun _ => ?_
      · rw [RecordLeft, WsContext.emit_log, WsContext.emit_log, verdicts_snoc_silent _ rfl,
          verdicts_snoc_silent _ rfl]
        exact left
      · simp [SettledOnce, noTelemetry, noMetric, List.countP_cons, Effect.isTelemetry,
          Effect.isMetric]
    · rename_i refused
      intro kept
      have room : .telemetryDropped ∉ ctx.log := fun drop => kept (by simp [drop])
      exact absurd (accounts.permitted room pending holds) refused

theorem Accounts.failSetup (accounts : Accounts ctx) (error : WsBridgeError) (permit : Bool) :
    Final (ctx.failSetup error permit) := by
  obtain ⟨noTelemetry, noMetric⟩ := accounts.count_eq_zero
  unfold WsContext.failSetup WsContext.recordWsSetupFailedTurn WsContext.sendWsError
  dsimp only
  split
  · refine final_of_left ?_ fun _ => ?_
    · rw [RecordLeft, WsContext.emit_log, WsContext.emit_log, verdicts_snoc_silent _ rfl,
        verdicts_snoc_silent _ rfl, WsContext.emit_log, verdicts_snoc_silent _ rfl]
      exact recordLeft_snoc ctx.log rfl
    · simp [SettledOnce, noTelemetry, noMetric, List.countP_cons, Effect.isTelemetry,
          Effect.isMetric]
  · intro kept
    exact absurd (by simp) kept

theorem serveRounds_final (settings : WsSettings) (requestedModel : String)
    (script : Nat → RoundAnswers) (fuel index : Nat) (active : ActiveUpstream)
    (providerBudget : WsProviderBudget) (accounts : Accounts ctx) :
    Final (serveRounds settings requestedModel script fuel index active providerBudget
      ctx).ctx.settle := by
  induction fuel generalizing index active providerBudget ctx with
  | zero => exact accounts.settle
  | succ fuel ih =>
    unfold serveRounds
    dsimp only
    split
    · dsimp only
      rw [WsContext.failSetup_settle]
      exact accounts.failSetup _ _
    have observed : Accounts { ctx with observation := {} } :=
      accounts.of_grows (.of_log rfl rfl rfl)
    have forwarded := forwardResponseCreate_accounts settings ((script index).refresh active)
      (script index).forward observed
    split
    · rename_i after forwards
      rw [forwards] at forwarded
      exact forwarded.settle
    · rename_i after forwards
      rw [forwards] at forwarded
      exact forwarded.settle
    · rename_i after forwards
      rw [forwards] at forwarded
      exact forwarded.settle
    · rename_i error after forwards
      rw [forwards] at forwarded
      have looked : Accounts (after.look (script index).hangup) :=
        forwarded.of_grows (.of_log rfl rfl rfl)
      split
      · exact looked.settle
      split
      · exact (looked.of_grows (Passes.sendWsError _ error).uncounted).settle
      have selected := looked.of_grows ((Grows.connectSelectedUpstream requestedModel
        (script index).selection
        (providerBudget.seed ((script index).refresh active).resolved.providerId) _).mono
          uncounted_of_isRequest)
      split
      · exact ih (index + 1) _ _ selected
      · exact (selected.of_grows (Passes.sendWsError _ _).uncounted).settle

theorem serveModel_final (settings : WsSettings) (requestedModel : String)
    (answers : TurnAnswers) (active : ActiveUpstream) (providerBudget : WsProviderBudget)
    (accounts : Accounts ctx) :
    Final (serveModel settings requestedModel answers active providerBudget ctx).ctx := by
  unfold serveModel
  split
  · exact accounts.failSetup modelChangedError _
  · exact serveRounds_final settings requestedModel answers.round turnRounds 0 active
      providerBudget accounts

theorem serveTurn_final (settings : WsSettings) (answers : TurnAnswers)
    (active : Option ActiveUpstream) (disconnected : Bool) :
    Final (serveTurn settings answers active disconnected).ctx := by
  have start : Accounts
      { budget := .new answers.timeout answers.startedAt, disconnected := disconnected } :=
    ⟨⟨(fun held => by cases held), fun left => by cases left⟩, (fun _ pending held => by cases held),
      fun effect member => by cases member⟩
  unfold serveTurn
  dsimp only
  split
  · exact start.failSetup missingModelError _
  rename_i requestedModel _
  split
  · exact serveModel_final settings requestedModel answers _ _ start
  · have selected := start.of_grows ((Grows.connectSelectedUpstream requestedModel
      answers.selection [] _).mono uncounted_of_isRequest)
    split
    · exact selected.failSetup _ _
    · exact serveModel_final settings requestedModel answers _ _ selected

/-- In every run of a session, a turn that has room for its telemetry is settled once exactly when
    it fails outside its attempts, or the last attempt that was let through is not sent again. -/
theorem settled_once_iff (settings : WsSettings) (messages : List Incoming) (session : WsSession) :
    ∀ ctx ∈ serveWebsocket settings messages session, .telemetryDropped ∉ ctx.log →
      (SettledOnce ctx ↔ RecordLeft ctx) :=
  serveWebsocket_turns settings (serveTurn_final settings) messages session

def answeredTurn : Incoming :=
  .create false (plainTurn (plainRound (fun _ => answeringSocket completedEvent false) default))

theorem settled_once_iff_answered : ∃ ctx ∈ serveWebsocket plainSettings [answeredTurn] openSession,
    SettledOnce ctx := by
  refine ⟨_, List.mem_cons_self, ?_⟩
  have settled := settled_once_iff plainSettings [answeredTurn] openSession _ List.mem_cons_self
    (by decide)
  exact settled.mpr (by unfold RecordLeft; decide)

def abandonedTurn : Incoming :=
  .create true (plainTurn (plainRound (fun _ => closedSocket) default))

/-- Nothing is recorded of that turn, although there is room for its telemetry. -/
theorem settled_once_abandoned :
    ∃ ctx ∈ serveWebsocket plainSettings [abandonedTurn] openSession,
      .telemetryDropped ∉ ctx.log ∧ ¬SettledOnce ctx := by
  refine ⟨_, List.mem_cons_self, by decide, fun once => ?_⟩
  exact absurd once.1 (by decide)

end Accounts

end CodexGate.Websocket
