import CodexGate.Websocket.Reading

namespace CodexGate.Websocket

open Foundation Metering Reservation

/-- A message has gone downstream, or an event with usage has been observed. -/
def Effect.isOutput : Effect → Bool
  | .data | .terminal | .usage => true
  | _ => false

def Effect.isLast : Effect → Bool
  | .terminal | .errorFrame _ => true
  | _ => false

def Effect.isDownstream : Effect → Bool
  | .data | .terminal | .errorFrame _ => true
  | _ => false

def NoReplay (log : List Effect) : Prop :=
  log.Pairwise fun earlier later => earlier.isOutput = true → later.isRequest = false

def NothingAfterLast (log : List Effect) : Prop :=
  log.Pairwise fun earlier later => earlier.isLast = true → later.isDownstream = false

/-- A terminal event is kept from a connected client exactly by an attempt that is retried. -/
def WithheldIffRetried (log : List Effect) : Prop :=
  ∀ ending, .ended ending ∈ log → ending.disconnected = false → ending.fate ≠ .none →
    (ending.fate = .withheld ↔ ending.result.isRetry = true)

structure OutputKept (log : List Effect) : Prop where
  noReplay : NoReplay log
  last : NothingAfterLast log
  withheld : WithheldIffRetried log

structure Quiet (log : List Effect) : Prop where
  silent : ∀ effect ∈ log, effect.passed = false
  withheld : WithheldIffRetried log

section Log

variable {log more : List Effect} {effect : Effect}

theorem passed_of_isOutput (is : effect.isOutput = true) : effect.passed = true := by
  cases effect <;> first | rfl | cases is

theorem passed_of_isLast (is : effect.isLast = true) : effect.passed = true := by
  cases effect <;> first | rfl | cases is

theorem noReplay_of_silent (silent : ∀ effect ∈ log, effect.passed = false) : NoReplay log := by
  refine List.pairwise_of_forall_mem_list fun earlier member later _ output => ?_
  have out := passed_of_isOutput output
  rw [silent earlier member] at out
  cases out

theorem nothingAfterLast_of_none (noneLast : ∀ effect ∈ log, effect.isLast = false) :
    NothingAfterLast log := by
  refine List.pairwise_of_forall_mem_list fun earlier member later _ last => ?_
  rw [noneLast earlier member] at last
  cases last

theorem noneLast_of_silent (silent : ∀ effect ∈ log, effect.passed = false) :
    ∀ effect ∈ log, effect.isLast = false := by
  intro effect member
  by_contra last
  have out := passed_of_isLast (Bool.not_eq_false _ ▸ last)
  rw [silent effect member] at out
  cases out

theorem Quiet.kept (quiet : Quiet log) : OutputKept log :=
  ⟨noReplay_of_silent quiet.silent,
    nothingAfterLast_of_none (noneLast_of_silent quiet.silent), quiet.withheld⟩

theorem NoReplay.snoc (kept : NoReplay log) (other : effect.isRequest = false) :
    NoReplay (log ++ [effect]) := by
  unfold NoReplay at kept ⊢
  rw [List.pairwise_append]
  refine ⟨kept, List.pairwise_singleton _ _, fun _ _ later newest _ => ?_⟩
  rw [List.mem_singleton.mp newest]
  exact other

theorem NothingAfterLast.snoc (kept : NothingAfterLast log)
    (follows : effect.isDownstream = true → ∀ earlier ∈ log, earlier.isLast = false) :
    NothingAfterLast (log ++ [effect]) := by
  unfold NothingAfterLast at kept ⊢
  rw [List.pairwise_append]
  refine ⟨kept, List.pairwise_singleton _ _, fun earlier member later newest last => ?_⟩
  rw [List.mem_singleton.mp newest]
  by_contra goes
  have none := follows (Bool.not_eq_false _ ▸ goes) earlier member
  rw [none] at last
  cases last

theorem WithheldIffRetried.append (kept : WithheldIffRetried log)
    (new : WithheldIffRetried more) : WithheldIffRetried (log ++ more) := by
  intro ending member
  rcases List.mem_append.mp member with member | member
  · exact kept ending member
  · exact new ending member

theorem withheldIffRetried_of_none (none : ∀ ending, Effect.ended ending ∉ more) :
    WithheldIffRetried more := fun ending member => absurd member (none ending)

theorem Quiet.append (quiet : Quiet log) (silent : ∀ effect ∈ more, effect.passed = false)
    (withheld : WithheldIffRetried more) : Quiet (log ++ more) := by
  refine ⟨fun effect member => ?_, quiet.withheld.append withheld⟩
  rcases List.mem_append.mp member with member | member
  · exact quiet.silent effect member
  · exact silent effect member

theorem Quiet.requests {before after : WsContext} (quiet : Quiet before.log)
    (grows : Grows Effect.isRequest before after) : Quiet after.log := by
  obtain ⟨more, sent, grown⟩ := grows.log
  rw [grown]
  refine quiet.append (fun effect member => ?_) (withheldIffRetried_of_none fun ending member => ?_)
  · have is := sent effect member
    cases effect <;> first | rfl | cases is
  · cases sent _ member

/-- An effect of the records of a turn, which no client sees. -/
def Effect.ofRecord : Effect → Bool
  | .recorded | .setupFailed | .metric _ _ | .telemetry _ | .telemetryDropped => true
  | _ => false

theorem not_ended_of_ofRecord (is : effect.ofRecord = true) (ending : Ending) :
    .ended ending ∉ [effect] := by
  intro member
  rw [← List.mem_singleton.mp member] at is
  cases is

theorem Quiet.emit {ctx : WsContext} (quiet : Quiet ctx.log) (is : effect.ofRecord = true) :
    Quiet (ctx.emit effect).log := by
  refine quiet.append (fun other member => ?_)
    (withheldIffRetried_of_none (not_ended_of_ofRecord is))
  rw [List.mem_singleton.mp member]
  cases effect <;> first | rfl | cases is

theorem OutputKept.emit {ctx : WsContext} (kept : OutputKept ctx.log)
    (is : effect.ofRecord = true) : OutputKept (ctx.emit effect).log := by
  have notRequest : effect.isRequest = false := by cases effect <;> first | rfl | cases is
  have notDown : effect.isDownstream = false := by cases effect <;> first | rfl | cases is
  refine ⟨kept.noReplay.snoc notRequest, kept.last.snoc fun goes => ?_,
    kept.withheld.append (withheldIffRetried_of_none (not_ended_of_ofRecord is))⟩
  rw [notDown] at goes
  cases goes

theorem Quiet.frame (quiet : Quiet log) (error : WsBridgeError) :
    OutputKept (log ++ [.errorFrame error]) :=
  ⟨(noReplay_of_silent quiet.silent).snoc rfl,
    quiet.kept.last.snoc fun _ => noneLast_of_silent quiet.silent,
    quiet.withheld.append (withheldIffRetried_of_none fun ending member => by
      cases List.mem_singleton.mp member)⟩

end Log

/-- A reading that has met no terminal event, of an attempt that started with `retries`. -/
structure Underway (retries : Nat) (reading : Reading) (ctx : WsContext) : Prop where
  fate : reading.fate = .none
  unretried : reading.encryptedRetry = false
  retries : ctx.recoveryRetries = retries
  noReplay : NoReplay ctx.log
  noneLast : ∀ effect ∈ ctx.log, effect.isLast = false
  silent : reading.emittedEvent = false → ∀ effect ∈ ctx.log, effect.passed = false

def retryableTerminal (reading : Reading) : Prop :=
  ∃ terminal, reading.terminal = some terminal ∧
    (classifyFailureScope (some (terminal.1 : Int)) .upstreamEvent).isRetryable = true

/-- A reading at its end: what was withheld is retried, and what was passed on is not. -/
structure Over (retries : Nat) (reading : Reading) (ctx : WsContext) : Prop where
  noReplay : NoReplay ctx.log
  last : NothingAfterLast ctx.log
  silent : reading.emittedEvent = false → ∀ effect ∈ ctx.log, effect.passed = false
  withheld : reading.fate = .withheld → reading.emittedEvent = false ∧
    (reading.encryptedRetry = true ∨ retryableTerminal reading)
  forwarded : reading.fate = .forwarded → reading.emittedEvent = true
  retried : reading.encryptedRetry = true →
    reading.fate = .withheld ∧ retries = 0 ∧ ctx.recoveryRetries = 1

section Reading

variable {settings : WsSettings} {target : WsTarget} {retries : Nat} {reading : Reading}
  {ctx : WsContext}

theorem Underway.isOver (underway : Underway retries reading ctx) : Over retries reading ctx where
  noReplay := underway.noReplay
  last := nothingAfterLast_of_none underway.noneLast
  silent := underway.silent
  withheld is := by rw [underway.fate] at is; cases is
  forwarded is := by rw [underway.fate] at is; cases is
  retried is := by rw [underway.unretried] at is; cases is

theorem Over.conclude (isOver : Over retries reading ctx) (status : TerminalStatus) :
    Over retries { reading with terminal := some (reading.terminal.getD status) } ctx := by
  refine ⟨isOver.noReplay, isOver.last, isOver.silent, fun is => ?_, isOver.forwarded, isOver.retried⟩
  obtain ⟨before, retried | ⟨terminal, found, retryable⟩⟩ := isOver.withheld is
  · exact ⟨before, Or.inl retried⟩
  · exact ⟨before, Or.inr ⟨terminal, by simp [found], retryable⟩⟩

theorem Underway.stop (underway : Underway retries reading ctx) (terminal : Option TerminalStatus) :
    Underway retries { reading with terminal := terminal } ctx :=
  ⟨underway.fate, underway.unretried, underway.retries, underway.noReplay, underway.noneLast,
    underway.silent⟩

theorem sendTurnEvent_log (ctx : WsContext) (effect : Effect) (hangup delivered : Bool) :
    (ctx.sendTurnEvent effect hangup delivered).log = ctx.log ∨
      (ctx.sendTurnEvent effect hangup delivered).log = ctx.log ++ [effect] := by
  unfold WsContext.sendTurnEvent
  dsimp only
  split
  · exact Or.inl rfl
  split
  · exact Or.inr rfl
  · exact Or.inl rfl

theorem sendTurnEvent_retries (ctx : WsContext) (effect : Effect) (hangup delivered : Bool) :
    (ctx.sendTurnEvent effect hangup delivered).recoveryRetries = ctx.recoveryRetries := by
  unfold WsContext.sendTurnEvent
  dsimp only
  split
  · rfl
  split <;> rfl

theorem observe_log (ctx : WsContext) (event : Json) :
    (ctx.observe event).log = if (eventUsage event).isSome then ctx.log ++ [.usage] else ctx.log := by
  unfold WsContext.observe
  dsimp only
  split <;> rfl

theorem observe_retries (ctx : WsContext) (event : Json) :
    (ctx.observe event).recoveryRetries = ctx.recoveryRetries := by
  unfold WsContext.observe
  dsimp only
  split <;> rfl

theorem Underway.emit (underway : Underway retries reading ctx) {effect : Effect}
    (output : effect.isRequest = false) (more : effect.isLast = false) {after : WsContext}
    (grown : after.log = ctx.log ∨ after.log = ctx.log ++ [effect])
    (kept : after.recoveryRetries = ctx.recoveryRetries) :
    Underway retries { reading with emittedEvent := true } after := by
  refine ⟨underway.fate, underway.unretried, kept.trans underway.retries, ?_, ?_, nofun⟩
  · rcases grown with same | grown
    · rw [same]
      exact underway.noReplay
    · rw [grown]
      exact underway.noReplay.snoc output
  · rcases grown with same | grown
    · rw [same]
      exact underway.noneLast
    · intro other member
      rw [grown] at member
      rcases List.mem_append.mp member with member | member
      · exact underway.noneLast other member
      · rw [List.mem_singleton.mp member]
        exact more

theorem Underway.observe (underway : Underway retries reading ctx) (event : Json) :
    Underway retries { reading with emittedEvent := true } (ctx.observe event) := by
  have output : Effect.usage.isRequest = false := rfl
  refine underway.emit output rfl ?_ (observe_retries ctx event)
  rw [observe_log]
  split
  · exact Or.inr rfl
  · exact Or.inl rfl

theorem prepareEncryptedRecovery_log (answers : RecoveryAnswers) (event : Json)
    (emittedEvent : Bool) (ctx : WsContext) :
    (prepareEncryptedRecovery settings target answers event emittedEvent ctx).2.log = ctx.log := by
  unfold prepareEncryptedRecovery
  dsimp only
  split
  · rfl
  split
  · rfl
  split
  · rfl
  split
  · rfl
  split <;> rfl

theorem prepareEncryptedRecovery_retries (answers : RecoveryAnswers) (event : Json)
    (emittedEvent : Bool) (ctx : WsContext)
    (prepared : (prepareEncryptedRecovery settings target answers event emittedEvent ctx).1 =
      true) :
    rejectionWithoutOutput event = true ∧ emittedEvent = false ∧ ctx.recoveryRetries = 0 ∧
      (prepareEncryptedRecovery settings target answers event emittedEvent
        ctx).2.recoveryRetries = 1 := by
  unfold prepareEncryptedRecovery at prepared ⊢
  dsimp only at prepared ⊢
  split at prepared
  · cases prepared
  rename_i rejected
  simp only [Bool.or_eq_true, Bool.not_eq_true', not_or, Bool.not_eq_false] at rejected
  rw [if_neg (by simp [rejected])]
  split at prepared
  · cases prepared
  rename_i before
  rw [if_neg before]
  split at prepared
  · cases prepared
  rename_i stays
  rw [if_neg stays]
  split at prepared
  · cases prepared
  rename_i room
  rw [if_neg room]
  split at prepared
  · rename_i first
    rw [if_pos first]
    simp only [Bool.and_eq_true, decide_eq_true_eq] at first
    have unused : ctx.recoveryRetries = 0 := first.1
    exact ⟨rejected.1.2, by simpa using before, unused, congrArg (· + 1) unused⟩
  · cases prepared

theorem shouldRetry_cases {event : Json} {emittedEvent : Bool}
    (retries : shouldRetryTerminalBeforeEvent event emittedEvent = true) :
    emittedEvent = false ∧ eventUsage event = none ∧
      (classifyFailureScope (some ((terminalStatus event).1 : Int)) .upstreamEvent).isRetryable =
        true := by
  unfold shouldRetryTerminalBeforeEvent at retries
  split at retries
  · cases retries
  rename_i checked
  simp only [Bool.or_eq_true, not_or, Bool.not_eq_true, Option.isSome_eq_false_iff,
    Option.isNone_iff_eq_none] at checked
  exact ⟨checked.1.1, checked.1.2, retries⟩

theorem forwardEvent_underway (underway : Underway retries reading ctx) (answers : EventAnswers)
    {event : Json} (more : isTerminalResponseEvent event = false) :
    Underway retries (forwardEvent settings target answers event reading ctx).1
      (forwardEvent settings target answers event reading ctx).2 := by
  have observed := underway.observe event
  unfold forwardEvent
  dsimp only
  rw [if_pos (by rw [more]; rfl)]
  exact observed.emit (show Effect.data.isRequest = false from rfl) rfl
    (sendTurnEvent_log _ _ _ _) (sendTurnEvent_retries _ _ _ _)

theorem forwardEvent_over (underway : Underway retries reading ctx) (answers : EventAnswers)
    {event : Json} (terminal : isTerminalResponseEvent event = true) :
    Over retries (forwardEvent settings target answers event reading ctx).1
      (forwardEvent settings target answers event reading ctx).2 := by
  have observed := underway.observe event
  have kept := @prepareEncryptedRecovery_log settings target answers.recovery event
    reading.emittedEvent (ctx.observe event)
  have prepared := @prepareEncryptedRecovery_retries settings target answers.recovery event
    reading.emittedEvent (ctx.observe event)
  unfold forwardEvent
  dsimp only
  rw [if_neg (by rw [terminal]; simp)]
  split
  · -- It goes out: whatever was observed, nothing is retried.
    rename_i goes
    simp only [Bool.and_eq_true, Bool.not_eq_true'] at goes
    constructor
    · rcases sendTurnEvent_log (prepareEncryptedRecovery settings target answers.recovery event
        reading.emittedEvent (ctx.observe event)).2 .terminal answers.hangup answers.delivered with
          same | grown
      · rw [same, kept]
        exact observed.noReplay
      · rw [grown, kept]
        exact observed.noReplay.snoc rfl
    · rcases sendTurnEvent_log (prepareEncryptedRecovery settings target answers.recovery event
        reading.emittedEvent (ctx.observe event)).2 .terminal answers.hangup answers.delivered with
          same | grown
      · rw [same, kept]
        exact nothingAfterLast_of_none observed.noneLast
      · rw [grown, kept]
        exact (nothingAfterLast_of_none observed.noneLast).snoc fun _ => observed.noneLast
    · exact nofun
    · exact fun is => by cases is
    · exact fun _ => rfl
    · exact fun is => by rw [goes.1] at is; cases is
  · -- It is withheld: nothing has gone out before it, and it carries no usage.
    rename_i stays
    have retried : (prepareEncryptedRecovery settings target answers.recovery event
        reading.emittedEvent (ctx.observe event)).1 = true ∨
          shouldRetryTerminalBeforeEvent event reading.emittedEvent = true := by
      rw [Bool.and_eq_true, not_and_or] at stays
      simpa using stays
    have before : reading.emittedEvent = false ∧ eventUsage event = none := by
      rcases retried with retry | retry
      · obtain ⟨rejection, before, -⟩ := prepared retry
        exact ⟨before, eventUsage_of_rejectionWithoutOutput rejection⟩
      · obtain ⟨before, unused, -⟩ := shouldRetry_cases retry
        exact ⟨before, unused⟩
    have same : (ctx.observe event).log = ctx.log := by
      rw [observe_log, before.2]
      rfl
    refine ⟨?_, ?_, ?_, fun _ => ⟨before.1, ?_⟩, fun is => (by cases is), fun retry => ?_⟩
    · rw [kept, same]
      exact underway.noReplay
    · rw [kept, same]
      exact nothingAfterLast_of_none underway.noneLast
    · rw [kept, same]
      exact underway.silent
    · rcases retried with retry | retry
      · exact Or.inl retry
      · exact Or.inr ⟨_, rfl, (shouldRetry_cases retry).2.2⟩
    · obtain ⟨-, -, unused, after⟩ := prepared retry
      rw [observe_retries, underway.retries] at unused
      exact ⟨rfl, unused, after⟩

theorem forwardMessage_underway (underway : Underway retries reading ctx)
    (answers : EventAnswers) :
    Underway retries (forwardMessage answers reading ctx).1
      (forwardMessage answers reading ctx).2 :=
  underway.emit (show Effect.data.isRequest = false from rfl) rfl (sendTurnEvent_log _ _ _ _)
    (sendTurnEvent_retries _ _ _ _)

theorem forwardEvents_over (answers : Nat → EventAnswers) (events : List Json) (index : Nat)
    (underway : Underway retries reading ctx) :
    Over retries (forwardEvents settings target answers index events reading ctx).1
        (forwardEvents settings target answers index events reading ctx).2 ∧
      ((forwardEvents settings target answers index events reading ctx).1.terminal = none →
        Underway retries (forwardEvents settings target answers index events reading ctx).1
          (forwardEvents settings target answers index events reading ctx).2) := by
  induction events generalizing index reading ctx with
  | nil => exact ⟨underway.isOver, fun _ => underway⟩
  | cons event rest ih =>
    unfold forwardEvents
    dsimp only
    split
    · rename_i terminal
      refine ⟨forwardEvent_over underway (answers index) terminal, fun open_ended => ?_⟩
      unfold forwardEvent at open_ended
      dsimp only at open_ended
      rw [if_neg (by rw [terminal]; simp)] at open_ended
      split at open_ended <;> cases open_ended
    · rename_i more
      exact ih (index + 1) (forwardEvent_underway underway (answers index) (by simpa using more))

theorem readNative_over (reads : List NativeRead) (underway : Underway retries reading ctx) :
    Over retries (readNative settings target reads reading ctx).1
      (readNative settings target reads reading ctx).2 := by
  induction reads generalizing reading ctx with
  | nil => exact (underway.stop _).isOver
  | cons read rest ih =>
    unfold readNative
    split
    · rename_i event _
      dsimp only
      split
      · rename_i terminal
        exact forwardEvent_over underway read.event terminal
      · rename_i more
        exact ih (forwardEvent_underway underway read.event (by simpa using more))
    · exact ih (forwardMessage_underway underway read.event)
    · exact ih (forwardMessage_underway underway read.event)
    · exact ih underway
    · exact ih underway
    · exact (underway.stop _).isOver
    · exact (underway.stop _).isOver
    · exact (underway.stop _).isOver
    · exact (underway.stop _).isOver

theorem finishBody_over (isSse : Bool) (status : Nat) (answers : Nat → EventAnswers)
    (body : BridgeBody) (underway : Underway retries reading ctx) :
    Over retries (finishBody settings target isSse status answers body reading ctx).1
      (finishBody settings target isSse status answers body reading ctx).2 :=
  (forwardEvents_over answers _ 0 underway).1.conclude _

theorem ends_underway (underway : Underway retries reading ctx) (frame : BridgeFrame) :
    Underway retries (frame.ends reading) ctx := by
  cases frame with
  | failed error => exact underway.stop _
  | timedOut => exact underway.stop _
  | data | trailers | closed => exact underway

theorem readBridge_over (isSse : Bool) (status : Nat) (last : Nat → EventAnswers)
    (reads : List BridgeRead) (body : BridgeBody) (underway : Underway retries reading ctx) :
    Over retries (readBridge settings target isSse status last reads body reading ctx).1
      (readBridge settings target isSse status last reads body reading ctx).2 := by
  induction reads generalizing body reading ctx with
  | nil => exact finishBody_over isSse status last body underway
  | cons read rest ih =>
    unfold readBridge
    split
    · exact ih body underway
    · rename_i bytes _
      split
      · have pushed := @forwardEvents_over settings target retries reading ctx read.event
          (body.sse.pushBytes settings.fromSlice bytes).events 0 underway
        dsimp only
        split
        · exact pushed.1
        · rename_i unended
          exact ih _ (pushed.2 (by simpa using unended))
      split
      · exact (underway.stop _).isOver
      · exact ih _ underway
    · exact finishBody_over isSse status read.event body (ends_underway underway _)
    · exact finishBody_over isSse status read.event body (ends_underway underway _)
    · exact finishBody_over isSse status read.event body (ends_underway underway _)

end Reading

/-- What an attempt that starts with `retries` leaves: one that is retried has put nothing out. -/
structure AttemptKept (retries : Nat) (ended : ForwardResult × WsContext) : Prop where
  kept : OutputKept ended.2.log
  quiet : ended.1.isRetry = true → Quiet ended.2.log
  retried : ended.1 = .retryEncryptedContent → retries = 0 ∧ ended.2.recoveryRetries = 1

section Attempt

variable {settings : WsSettings} {target : WsTarget} {retries : Nat} {reading : Reading}
  {ctx : WsContext}

theorem endAttempt_kept (quiet : Quiet ctx.log) (turnedAway : Bool) {result : ForwardResult}
    (other : result ≠ .retryEncryptedContent) :
    AttemptKept retries (endAttempt turnedAway .none result ctx) := by
  have ended : Quiet (endAttempt turnedAway .none result ctx).2.log := by
    refine quiet.append (by simp [Effect.passed]) fun ending member _ fate => ?_
    cases List.mem_singleton.mp member
    exact absurd rfl fate
  exact ⟨ended.kept, fun _ => ended, fun is => absurd is other⟩

theorem turnAway_kept (quiet : Quiet ctx.log) (error : WsBridgeError) :
    AttemptKept retries (turnAway error ctx) := endAttempt_kept quiet true nofun

theorem Quiet.record (quiet : Quiet ctx.log) (target : WsTarget) (transport : TurnTransport)
    (outcome : TurnOutcome) (hangup : Bool) :
    Quiet (ctx.recordTurn target transport outcome hangup).log :=
  @Quiet.emit .recorded (ctx.look hangup) quiet rfl

theorem failAttempt_kept (quiet : Quiet ctx.log) (target : WsTarget) (transport : TurnTransport)
    (origin : OutcomeOrigin) (error : WsBridgeError) (hangup : Bool) :
    AttemptKept retries (failAttempt target transport origin error hangup ctx) :=
  endAttempt_kept (quiet.record target transport _ hangup) false nofun

theorem finishReading_kept (isOver : Over retries reading ctx)
    (endings : WithheldIffRetried ctx.log) (target : WsTarget) (transport : TurnTransport)
    (answers : FinishAnswers) :
    AttemptKept retries (finishReading target transport answers reading ctx) := by
  let outcome : TurnOutcome := ⟨(reading.terminal.getD (incompleteStatus .default)).1,
    (reading.terminal.getD (incompleteStatus .default)).2.1,
    (reading.terminal.getD (incompleteStatus .default)).2.2, .upstreamEvent⟩
  obtain ⟨recorded, other, before, retries_if⟩ := finishForwardedTurn_cases target transport answers
    outcome reading.emittedEvent ctx
  let finished := finishForwardedTurn target transport answers outcome reading.emittedEvent ctx
  let result := if reading.encryptedRetry then .retryEncryptedContent else finished.1
  have ends : finishReading target transport answers reading ctx =
      endAttempt false reading.fate result finished.2 := rfl
  have unemitted (retry : result.isRetry = true) : reading.emittedEvent = false := by
    by_cases retried : reading.encryptedRetry = true
    · exact (isOver.withheld (isOver.retried retried).1).1
    · refine before ?_
      simpa [result, retried] using retry
  have decided : WithheldIffRetried
      [.recorded, .ended ⟨false, reading.fate, finished.2.disconnected, result⟩] := by
    intro ending member here fate
    simp only [List.mem_cons, reduceCtorEq, Effect.ended.injEq, List.not_mem_nil, or_false,
      false_or] at member
    subst member
    constructor
    · intro withheld
      obtain ⟨silent, retried | ⟨terminal, found, retryable⟩⟩ := isOver.withheld withheld
      · simp [result, retried, ForwardResult.isRetry]
      · by_cases retried : reading.encryptedRetry = true
        · simp [result, retried, ForwardResult.isRetry]
        · have connected : (ctx.look answers.hangup).disconnected = false := by
            have stays : ((ctx.look answers.hangup).recordTurn target transport outcome
              answers.recordHangup).disconnected = false := recorded ▸ here
            exact (Bool.or_eq_false_iff.mp stays).1
          have status : outcome.status = terminal.1 := by simp [outcome, found]
          have again := retries_if connected silent (by rw [status]; exact retryable)
          simpa [result, retried] using again
    · intro retry
      have silent := unemitted retry
      cases is : reading.fate with
      | none => exact absurd is fate
      | withheld => rfl
      | forwarded =>
        rw [isOver.forwarded is] at silent
        cases silent
  have log : (finishReading target transport answers reading ctx).2.log =
      ctx.log ++ [.recorded, .ended ⟨false, reading.fate, finished.2.disconnected, result⟩] := by
    have recordedLog : finished.2.log = ctx.log ++ [.recorded] := by
      show (finishForwardedTurn target transport answers outcome reading.emittedEvent ctx).2.log = _
      rw [recorded]
      rfl
    rw [ends]
    show finished.2.log ++ [_] = _
    rw [recordedLog, List.append_assoc]
    rfl
  refine ⟨?_, ?_, ?_⟩
  · refine ⟨?_, ?_, log ▸ endings.append decided⟩
    · rw [log, List.append_cons]
      exact (isOver.noReplay.snoc rfl).snoc rfl
    · rw [log, List.append_cons]
      have recorded := isOver.last.snoc (show Effect.recorded.isDownstream = true → _ from nofun)
      exact recorded.snoc (fun goes => (by cases goes))
  · intro retry
    rw [log]
    exact ⟨fun effect member => by
      rcases List.mem_append.mp member with member | member
      · exact isOver.silent (unemitted retry) effect member
      · simp only [List.mem_cons, List.not_mem_nil, or_false] at member
        rcases member with rfl | rfl <;> rfl, endings.append decided⟩
  · intro again
    have retried : reading.encryptedRetry = true := by
      by_contra kept
      have is : result = .retryEncryptedContent := again
      simp only [result, kept, if_false] at is
      exact other is
    obtain ⟨-, unused, after⟩ := isOver.retried retried
    refine ⟨unused, ?_⟩
    show finished.2.recoveryRetries = 1
    show (finishForwardedTurn target transport answers outcome reading.emittedEvent
      ctx).2.recoveryRetries = 1
    rw [recorded]
    exact after

theorem Quiet.underway (quiet : Quiet ctx.log) : Underway ctx.recoveryRetries {} ctx :=
  ⟨rfl, rfl, rfl, noReplay_of_silent quiet.silent, noneLast_of_silent quiet.silent,
    fun _ => quiet.silent⟩

theorem begin_retries (ctx : WsContext) (target : WsTarget) (turn : Bool)
    (answers : BeginAnswers) :
    (ctx.beginWsAttempt target turn answers).2.recoveryRetries = ctx.recoveryRetries := by
  rcases ctx.beginWsAttempt_cases target turn answers with
    ⟨gone, ⟨_, _, after⟩ | ⟨_, _, after⟩ | ⟨_, _, after⟩⟩ <;> rw [after]

theorem send_retries (ctx : WsContext) (target : WsTarget) (request : Nat → Request) :
    (ctx.send target request).recoveryRetries = ctx.recoveryRetries := by
  unfold WsContext.send WsContext.noteWsSend
  split <;> rfl

theorem WithheldIffRetried.passes {before after : WsContext}
    (kept : WithheldIffRetried before.log) (passes : Passes before after) :
    WithheldIffRetried after.log := by
  obtain ⟨passed, kinds, grown⟩ := passes.log
  rw [grown]
  exact kept.append (withheldIffRetried_of_none fun ending member => by cases kinds _ member)

theorem forwardNative_kept (settings : WsSettings) (quiet : Quiet ctx.log) (target : WsTarget)
    (socket : Option Nat) (answers : NativeAnswers) :
    AttemptKept ctx.recoveryRetries
      (forwardNativeResponseCreate settings target socket answers ctx) := by
  let begun := (ctx.beginWsAttempt target true answers.begin).2
  have waiting : Quiet begun.log := quiet.requests (.begin ctx target true answers.begin)
  let sent := begun.send target (.create target.providerId socket)
  have created : Quiet sent.log := waiting.requests (.send _ _ _)
  have unused : sent.recoveryRetries = ctx.recoveryRetries :=
    (send_retries _ _ _).trans (begin_retries _ _ _ _)
  unfold forwardNativeResponseCreate
  dsimp only
  split
  · exact turnAway_kept waiting budgetError
  split
  · exact failAttempt_kept waiting target .nativeWs _ _ _
  · exact failAttempt_kept waiting target .nativeWs _ _ _
  split
  · exact failAttempt_kept created target .nativeWs _ _ _
  · have isOver := @readNative_over settings target sent.recoveryRetries {} sent answers.reads
      created.underway
    rw [unused] at isOver
    exact finishReading_kept isOver (created.withheld.passes (.readNative _ _ _ _ _)) target .nativeWs
      answers.finish

theorem replayBridge_kept (quiet : Quiet ctx.log) (target : WsTarget)
    (answers : BridgeReplayAnswers) (hangup : Bool) (result : Dispatch.DispatchResult) :
    (∀ ended, replayBridge target answers hangup result ctx = .inl ended →
        AttemptKept retries ended) ∧
      ∀ answered, replayBridge target answers hangup result ctx = .inr answered →
        Quiet answered.2.log ∧ answered.2.recoveryRetries = ctx.recoveryRetries := by
  have waiting : Quiet (ctx.beginWsAttempt target false answers.begin).2.log :=
    quiet.requests (.begin ctx target false answers.begin)
  unfold replayBridge
  split
  · split
    · refine ⟨fun ended is => ?_, fun answered is => by cases is⟩
      cases is
      exact failAttempt_kept quiet target .httpBridge _ _ _
    split
    · refine ⟨fun ended is => ?_, fun answered is => by cases is⟩
      cases is
      exact turnAway_kept quiet _
    dsimp only
    split
    · refine ⟨fun ended is => ?_, fun answered is => by cases is⟩
      cases is
      exact turnAway_kept waiting _
    split
    · refine ⟨fun ended is => ?_, fun answered is => by cases is⟩
      cases is
      exact turnAway_kept waiting _
    · refine ⟨fun ended is => (by cases is), fun answered is => ?_⟩
      cases is
      exact ⟨waiting.requests (.send _ _ _),
        (send_retries _ _ _).trans (begin_retries _ _ _ _)⟩
  · refine ⟨fun ended is => (by cases is), fun answered is => ?_⟩
    cases is
    exact ⟨quiet, rfl⟩

theorem readDispatch_kept (settings : WsSettings) (quiet : Quiet ctx.log) (target : WsTarget)
    (answers : BridgeAnswers) (result : Dispatch.DispatchResult) :
    AttemptKept ctx.recoveryRetries (readDispatch settings target answers result ctx) := by
  unfold readDispatch
  split
  · exact failAttempt_kept quiet target .httpBridge _ _ _
  · exact finishReading_kept (readBridge_over _ _ _ _ _ quiet.underway)
      (quiet.withheld.passes (.readBridge _ _ _ _ _ _ _ _ _)) target .httpBridge answers.finish

theorem forwardBridge_kept (settings : WsSettings) (quiet : Quiet ctx.log) (target : WsTarget)
    (answers : BridgeAnswers) :
    AttemptKept ctx.recoveryRetries
      (forwardHttpBridgeResponseCreate settings target answers ctx) := by
  let begun := (ctx.beginWsAttempt target false answers.begin).2
  have waiting : Quiet begun.log := quiet.requests (.begin ctx target false answers.begin)
  have dispatched : Quiet (sendDispatch target begun).log := waiting.requests (.send _ _ _)
  have unused : (sendDispatch target begun).recoveryRetries = ctx.recoveryRetries :=
    (send_retries _ _ _).trans (begin_retries _ _ _ _)
  unfold forwardHttpBridgeResponseCreate
  split
  · rename_i fault _
    have framed := (quiet.record target .httpBridge ⟨400, some "invalid_payload",
      some fault.message, .gateway⟩ answers.failureHangup).frame (invalidPayloadError fault.message)
    have unmet : WithheldIffRetried [.ended ⟨false, .none,
        (ctx.look answers.failureHangup).disconnected, .fatal⟩] := by
      intro ending member _ fate
      cases List.mem_singleton.mp member
      exact absurd rfl fate
    exact ⟨⟨framed.noReplay.snoc rfl, framed.last.snoc (fun goes => (by cases goes)),
      framed.withheld.append unmet⟩, (fun goes => by cases goes), fun goes => by cases goes⟩
  dsimp only
  split
  · exact turnAway_kept waiting budgetError
  split
  · exact failAttempt_kept waiting target .httpBridge _ _ _
  split
  · exact turnAway_kept waiting targetUnavailableError
  have replayed := @replayBridge_kept ctx.recoveryRetries (sendDispatch target begun) dispatched
    target answers.replay answers.failureHangup answers.result
  split
  · rename_i ended replays
    exact replayed.1 ended replays
  · rename_i result after replays
    obtain ⟨still, kept⟩ := replayed.2 _ replays
    have read := readDispatch_kept settings still target answers result
    rw [kept, unused] at read
    exact read

theorem forwardOnce_kept (settings : WsSettings) (quiet : Quiet ctx.log) (active : ActiveUpstream)
    (answers : TransportAnswers) :
    AttemptKept ctx.recoveryRetries (forwardOnce settings active answers ctx) := by
  unfold forwardOnce
  split
  · exact forwardNative_kept settings quiet active.resolved _ answers.native
  · exact forwardBridge_kept settings quiet active.resolved answers.bridge

theorem takeBack_log (ctx : WsContext) : (takeBack ctx).log = ctx.log := by
  unfold takeBack
  dsimp only
  split <;> rfl

theorem takeBack_retries (ctx : WsContext) :
    (takeBack ctx).recoveryRetries = ctx.recoveryRetries := by
  unfold takeBack
  dsimp only
  split <;> rfl

theorem forwardAttempts_kept (settings : WsSettings) (active : ActiveUpstream)
    (script : Nat → TransportAnswers) (fuel index : Nat) (quiet : Quiet ctx.log) :
    OutputKept (forwardAttempts settings active script fuel index ctx).2.log ∧
      ((forwardAttempts settings active script fuel index ctx).1.isRetry = true →
        Quiet (forwardAttempts settings active script fuel index ctx).2.log) := by
  induction fuel generalizing index ctx with
  | zero => exact ⟨quiet.kept, fun _ => quiet⟩
  | succ fuel ih =>
    have once := forwardOnce_kept settings quiet active (script index)
    unfold forwardAttempts
    split
    · rename_i after forwards
      rw [forwards] at once
      exact ih (index + 1) (takeBack_log after ▸ once.quiet rfl)
    · exact ⟨once.kept, once.quiet⟩

theorem forwardAttempts_enough (settings : WsSettings) (active : ActiveUpstream)
    (script : Nat → TransportAnswers) (index : Nat) (quiet : Quiet ctx.log) (more : Nat) :
    forwardAttempts settings active script (2 + more) index ctx =
      forwardAttempts settings active script 2 index ctx := by
  -- After a retry the next attempt is the last, whatever fuel is left.
  have last {ctx : WsContext} (quiet : Quiet ctx.log) (used : ctx.recoveryRetries = 1)
      (fuel index : Nat) : forwardAttempts settings active script (fuel + 1) index ctx =
        forwardOnce settings active (script index) ctx := by
    have once := forwardOnce_kept settings quiet active (script index)
    rw [forwardAttempts]
    split
    · rename_i after forwards
      rw [forwards] at once
      have unused := (once.retried rfl).1
      rw [used] at unused
      cases unused
    · rfl
  have once := forwardOnce_kept settings quiet active (script index)
  rw [show 2 + more = (more + 1) + 1 by omega]
  unfold forwardAttempts
  split
  · rename_i after forwards
    rw [forwards] at once
    have used : (takeBack after).recoveryRetries = 1 :=
      (takeBack_retries after).trans (once.retried rfl).2
    have still : Quiet (takeBack after).log := takeBack_log after ▸ once.quiet rfl
    rw [last still used, last still used]
  · rfl

theorem forwardResponseCreate_kept (settings : WsSettings) (quiet : Quiet ctx.log)
    (active : ActiveUpstream) (answers : ForwardAnswers) :
    OutputKept (forwardResponseCreate settings active answers ctx).2.log ∧
      ((forwardResponseCreate settings active answers ctx).1.isRetry = true →
        Quiet (forwardResponseCreate settings active answers ctx).2.log) := by
  refine forwardAttempts_kept settings active answers.attempt 2 0 ?_
  unfold WsContext.reservePermit
  split
  · exact quiet
  · exact @Quiet.emit .telemetryDropped { ctx with telemetryPermit := answers.permit } quiet rfl

end Attempt

section Turn

variable {ctx : WsContext}

theorem Quiet.failSetup (quiet : Quiet ctx.log) (error : WsBridgeError) (permit : Bool) :
    OutputKept (ctx.failSetup error permit).log := by
  have failed : Quiet (ctx.recordWsSetupFailedTurn error permit).log := by
    unfold WsContext.recordWsSetupFailedTurn
    dsimp only
    have emptied : Quiet { ctx with pendingTurnLog := none }.log := quiet
    have metered := (emptied.emit (show Effect.setupFailed.ofRecord = true from rfl)).emit
      (show (Effect.metric error.status (some error.errorType)).ofRecord = true from rfl)
    split
    · exact metered.emit rfl
    · exact metered.emit rfl
  exact failed.frame error

theorem OutputKept.settle (kept : OutputKept ctx.log) : OutputKept ctx.settle.log := by
  unfold WsContext.settle
  split
  · exact kept
  rename_i pending _
  have emptied : OutputKept { ctx with pendingTurnLog := none }.log := kept
  have metered := emptied.emit (show (Effect.metric pending.event.httpStatus
    (if pending.succeeded then none else pending.event.errorType)).ofRecord = true from rfl)
  dsimp only
  split
  · exact metered.emit rfl
  · exact metered

theorem serveRounds_kept (settings : WsSettings) (requestedModel : String)
    (script : Nat → RoundAnswers) (fuel index : Nat) (active : ActiveUpstream)
    (providerBudget : WsProviderBudget) (quiet : Quiet ctx.log) :
    OutputKept (serveRounds settings requestedModel script fuel index active providerBudget
      ctx).ctx.log := by
  induction fuel generalizing index active providerBudget ctx with
  | zero => exact quiet.kept
  | succ fuel ih =>
    have forwarded := @forwardResponseCreate_kept { ctx with observation := {} } settings quiet
      ((script index).refresh active) (script index).forward
    unfold serveRounds
    dsimp only
    split
    · exact quiet.failSetup _ _
    split
    · rename_i after forwards
      rw [forwards] at forwarded
      exact forwarded.1
    · rename_i after forwards
      rw [forwards] at forwarded
      exact forwarded.1
    · rename_i after forwards
      rw [forwards] at forwarded
      exact forwarded.1
    · rename_i error after forwards
      rw [forwards] at forwarded
      have still : Quiet after.log := forwarded.2 rfl
      split
      · exact still.kept
      split
      · exact still.frame error
      have selected : Quiet (connectSelectedUpstream requestedModel (script index).selection
          (providerBudget.seed ((script index).refresh active).resolved.providerId)
          (after.look (script index).hangup)).ctx.log :=
        @Quiet.requests (after.look (script index).hangup) _ still (.connectSelectedUpstream _ _ _ _)
      split
      · exact ih (index + 1) _ _ selected
      · exact selected.frame _

theorem serveModel_kept (settings : WsSettings) (requestedModel : String) (answers : TurnAnswers)
    (active : ActiveUpstream) (providerBudget : WsProviderBudget) (quiet : Quiet ctx.log) :
    OutputKept (serveModel settings requestedModel answers active providerBudget ctx).ctx.log := by
  unfold serveModel
  split
  · exact quiet.failSetup modelChangedError _
  · exact (serveRounds_kept settings requestedModel answers.round turnRounds 0 active
      providerBudget quiet).settle

theorem serveTurn_kept (settings : WsSettings) (answers : TurnAnswers)
    (active : Option ActiveUpstream) (disconnected : Bool) :
    OutputKept (serveTurn settings answers active disconnected).ctx.log := by
  have start : Quiet [] := ⟨(fun effect member => by cases member), fun ending member => by cases member⟩
  unfold serveTurn
  dsimp only
  split
  · exact start.failSetup missingModelError _
  rename_i requestedModel _
  split
  · exact serveModel_kept settings requestedModel answers _ _ start
  · let ctx : WsContext :=
      { budget := .new answers.timeout answers.startedAt, disconnected := disconnected }
    have selected := @Quiet.requests ctx _ start
      (.connectSelectedUpstream requestedModel answers.selection [] ctx)
    split
    · exact selected.failSetup _ _
    · exact serveModel_kept settings requestedModel answers _ _ selected

/-- However much longer they were let run, the failover loop of a turn and the loop of its attempts on
one upstream would come to the same. -/
theorem turn_loops_end (settings : WsSettings) (requestedModel : String) (script : Nat → RoundAnswers)
    {active : ActiveUpstream} {providerBudget : WsProviderBudget}
    (tried : active.resolved.providerId ∈ providerBudget) (quiet : Quiet ctx.log) (more : Nat) :
    serveRounds settings requestedModel script (turnRounds + more) 0 active providerBudget ctx =
        serveRounds settings requestedModel script turnRounds 0 active providerBudget ctx ∧
      ∀ attempt index, forwardAttempts settings active attempt (2 + more) index ctx =
        forwardAttempts settings active attempt 2 index ctx := by
  have some_tried := List.length_pos_of_mem tried
  constructor
  · exact serveRounds_enough settings requestedModel script (by decide) 0 ctx tried
      (by unfold turnRounds; omega) more
  · exact fun attempt index => forwardAttempts_enough settings active attempt index quiet more

theorem turn_loops_end_open : serveRounds plainSettings "gpt" default (turnRounds + 1) 0
      ⟨"gpt", plainTarget 1, .nativeWs none⟩ [1] { budget := .new 9 0, disconnected := false } =
    serveRounds plainSettings "gpt" default turnRounds 0
      ⟨"gpt", plainTarget 1, .nativeWs none⟩ [1] { budget := .new 9 0, disconnected := false } :=
  (turn_loops_end plainSettings "gpt" default (by decide)
    ⟨(fun _ none => by cases none), fun _ none => by cases none⟩ 1).1

def failingTurn : Incoming :=
  .create false (plainTurn (plainRound
    (fun _ => answeringSocket (.object [("type", .string "error"), ("status", .number "503")]) false)
    default))

end Turn

end CodexGate.Websocket
