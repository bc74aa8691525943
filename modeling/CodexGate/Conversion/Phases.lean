import CodexGate.Conversion.Silence

namespace CodexGate.Conversion

open Foundation

namespace ResponseEvent

def isOpening : ResponseEvent → Bool
  | created _ | inProgress _ => true
  | _ => false

def isTerminal : ResponseEvent → Bool
  | completed _ | failed _ => true
  | _ => false

def isBody (event : ResponseEvent) : Bool := !event.isOpening && !event.isTerminal

end ResponseEvent

structure Phase where
  sequence : Int
  created : Bool
  terminal : Bool
  sawDone : Bool

def Phase.sent (phase : Phase) : Phase :=
  { phase with sequence := saturatingAddI64 phase.sequence 1 }

abbrev PhaseProperty := List SentEvent → Phase → Prop

def KeptByBody (P : PhaseProperty) : Prop :=
  ∀ past phase event, P past phase → event.isBody = true →
    P (past ++ [⟨phase.sequence, event⟩]) phase.sent

namespace ChatSseToResponses

def phase (self : ChatSseToResponses) : Phase :=
  ⟨self.sequence, self.created, self.terminal, self.sawDone⟩

def At (P : PhaseProperty) (past : List SentEvent) (self : ChatSseToResponses) : Prop :=
  P past self.phase

section Body

variable {P : PhaseProperty} (kept : KeptByBody P) {past : List SentEvent}
  {self : ChatSseToResponses} (crates : Crates)
include kept

theorem send_kept {event : ResponseEvent} (holds : At P past self) (body : event.isBody = true) :
    (self.send event).Reaches past (At P) :=
  kept _ _ _ holds body

theorem ensureMessage_kept (holds : At P past self) : self.ensureMessage.Reaches past (At P) := by
  unfold ensureMessage
  split
  · exact Emission.reaches_silent holds
  · exact send_kept kept holds rfl

theorem startText_kept (holds : At P past self) : self.startText.Reaches past (At P) := by
  unfold startText
  split
  · exact Emission.reaches_silent holds
  · exact send_kept kept holds rfl

theorem appendText_kept (holds : At P past self) (delta : String) :
    (self.appendText delta).Reaches past (At P) := by
  apply Emission.Reaches.andThen (Emission.Reaches.andThen (ensureMessage_kept kept holds) _)
  · intro past self holds
    exact send_kept kept holds rfl
  · intro past self holds
    exact startText_kept kept holds

theorem announceTool_kept (holds : At P past self) (tool : StreamToolCall) (index : Nat) :
    (announceTool crates self tool index).Reaches past (At P) := by
  unfold announceTool
  split
  · exact Emission.reaches_silent holds
  · exact send_kept kept holds rfl

theorem sendArguments_kept (holds : At P past self) (tool : StreamToolCall) (index : Nat) :
    (sendArguments crates self tool index).Reaches past (At P) := by
  unfold sendArguments
  split
  · exact send_kept kept holds rfl
  · exact Emission.reaches_silent holds

theorem emitTool_kept (holds : At P past self) (index : Nat) (force : Bool) :
    (emitTool crates self index force).Reaches past (At P) := by
  unfold emitTool
  split
  · exact Emission.reaches_silent holds
  · dsimp only
    split
    · exact Emission.reaches_silent holds
    · apply Emission.Reaches.andThen
        (Emission.Reaches.andThen (announceTool_kept kept crates holds _ index) _)
      · intro past self holds
        exact Emission.reaches_silent holds
      · intro past self holds
        exact sendArguments_kept kept crates holds _ index

omit kept in
theorem registerTool_at (holds : At P past self) (index : Nat) :
    At P past (self.registerTool index) := by
  unfold registerTool
  split
  · exact holds
  · exact holds

omit kept in
theorem extendTool_at (holds : At P past self) (delta : ToolDelta) :
    At P past (self.extendTool delta) := by
  unfold extendTool
  split
  · exact holds
  · exact holds

theorem appendToolDelta_kept (holds : At P past self) (delta : Json) :
    (appendToolDelta crates self delta).Reaches past (At P) := by
  apply emitTool_kept kept
  exact extendTool_at (registerTool_at holds _) _

theorem processDelta_kept (holds : At P past self) (delta : Json) :
    (processDelta crates self delta).Reaches past (At P) := by
  have content : (self.processContent delta).Reaches past (At P) := by
    unfold processContent
    split
    · exact appendText_kept kept holds _
    · exact Emission.reaches_silent holds
  apply Emission.Reaches.andThen content
  intro past self holds
  apply Emission.reaches_forEach _ holds
  intro past self delta _ holds
  exact appendToolDelta_kept kept crates holds delta

theorem processChoice_kept (holds : At P past self) (choice : Json) :
    (processChoice crates self choice).Reaches past (At P) := by
  have noted : At P past (self.noteFinishReason choice) := by
    unfold noteFinishReason
    split
    · exact holds
    · exact holds
  unfold processChoice
  dsimp only
  split
  · exact processDelta_kept kept crates noted _
  · exact Emission.reaches_silent noted

omit kept in
theorem noteServiceTier_at (holds : At P past self) (chunk : Json) :
    At P past (self.noteServiceTier chunk) := by
  unfold noteServiceTier
  split
  · exact holds
  · exact holds

omit kept in
theorem noteUsage_at (holds : At P past self) (chunk : Json) :
    At P past (self.noteUsage chunk) := by
  unfold noteUsage
  split
  · exact holds
  · exact holds

theorem processChunk_kept {chunk : Json}
    (started : ((self.noteServiceTier chunk).start crates chunk).Reaches past (At P)) :
    (processChunk crates self chunk).Reaches past (At P) := by
  apply Emission.Reaches.andThen started
  intro past self holds
  have noted := noteUsage_at holds chunk
  dsimp only
  split
  · exact processChoice_kept kept crates noted _
  · exact Emission.reaches_silent noted

theorem completeMessage_kept (holds : At P past self) :
    self.completeMessage.Reaches past (At P) := by
  unfold completeMessage
  split
  · exact Emission.reaches_silent holds
  · next outputIndex _ =>
    have text : (self.sendTextDone outputIndex).Reaches past (At P) := by
      unfold sendTextDone
      split
      · apply Emission.Reaches.andThen (send_kept kept holds rfl)
        intro past self holds
        exact send_kept kept holds rfl
      · exact Emission.reaches_silent holds
    apply Emission.Reaches.andThen text
    intro past self holds
    exact send_kept kept holds rfl

theorem completeTool_kept (holds : At P past self) (index : Nat) :
    (completeTool crates self index).Reaches past (At P) := by
  unfold completeTool
  split
  · exact Emission.reaches_silent holds
  · refine Emission.Reaches.andThen (Q := At P) ?_ ?_
    · exact send_kept kept holds rfl
    · intro past self holds
      exact send_kept kept holds rfl

theorem completeBody_kept (holds : At P past self) :
    (((Emission.forEach (fun self index => emitTool crates self index true) self
      self.toolOrder).andThen completeMessage).andThen fun self =>
        Emission.forEach (completeTool crates) self self.toolOrder).Reaches past (At P) := by
  have forced : (Emission.forEach (fun self index => emitTool crates self index true) self
      self.toolOrder).Reaches past (At P) := by
    apply Emission.reaches_forEach _ holds
    intro past self index _ holds
    exact emitTool_kept kept crates holds index true
  apply Emission.Reaches.andThen (Emission.Reaches.andThen forced _)
  · intro past self holds
    apply Emission.reaches_forEach _ holds
    intro past self index _ holds
    exact completeTool_kept kept crates holds index
  · intro past self holds
    exact completeMessage_kept kept holds

end Body

variable (crates : Crates) {past : List SentEvent} {self : ChatSseToResponses}

theorem start_started {P : PhaseProperty} (started : self.created = true) (holds : At P past self)
    (chunk : Json) : (self.start crates chunk).Reaches past (At P) := by
  rw [start, if_pos started]
  exact Emission.reaches_silent holds

theorem fail_ended (ended : self.terminal = true) (message : String) :
    self.fail message = .silent self := by
  rw [fail, if_pos ended]

theorem complete_ended (ended : self.terminal = true) : complete crates self = .silent self := by
  rw [complete, if_pos ended]

theorem push_ended (ended : self.terminal = true) (bytes : List UInt8) :
    push crates self bytes = .silent self := by
  rw [push, if_pos ended]

theorem push_received (unfinished : self.terminal = false) {bytes : List UInt8}
    {events : List SseEvent} (received : (self.receive bytes).1 = .ok events) :
    push crates self bytes = processEvents crates (self.receive bytes).2 events := by
  rw [push, if_neg (by simp [unfinished])]
  revert received
  rcases self.receive bytes with ⟨result, next⟩
  intro received
  rw [show result = .ok events from received]

theorem push_refused (unfinished : self.terminal = false) {bytes : List UInt8} {message : String}
    (refused : (self.receive bytes).1 = .error message) :
    push crates self bytes = (self.receive bytes).2.fail message := by
  rw [push, if_neg (by simp [unfinished])]
  revert refused
  rcases self.receive bytes with ⟨result, next⟩
  intro refused
  rw [show result = .error message from refused]

theorem finish_unended (unfinished : self.terminal = false) :
    finish crates self =
      (processEvents crates { self with decoder := self.decoder.finish.state }
        self.decoder.finish.events).andThen fun self =>
          if self.terminal then .silent self
          else if self.sawDone then complete crates self
          else self.fail "upstream Chat Completions stream ended before [DONE]" := by
  rw [finish, if_neg (by simp [unfinished])]

theorem processFrame_terminal {self : ChatSseToResponses} (ended : self.terminal = true)
    (frame : Frame) : (processFrame crates self frame).state.terminal = true := by
  have kept : KeptByBody fun _ phase => phase.terminal = true := fun _ _ _ ended _ => ended
  have holds : At (fun _ phase => phase.terminal = true) [] self := ended
  cases frame with
  | done => rwa [processFrame, complete_ended crates (by exact ended)]
  | failure message => rwa [processFrame, fail_ended ended]
  | ignored => exact ended
  | chunk chunk =>
    have noted := noteServiceTier_at holds chunk
    have started : ((self.noteServiceTier chunk).start crates chunk).Reaches []
        (At fun _ phase => phase.terminal = true) := by
      unfold start
      split
      · exact Emission.reaches_silent noted
      · unfold adopt
        dsimp only
        split <;> exact noted
    exact processChunk_kept kept crates started

theorem processEvent_terminal (self : ChatSseToResponses) (event : SseEvent)
    (ended : self.terminal = true) : (processEvent crates self event).state.terminal = true :=
  processFrame_terminal crates ended (frame crates event)

def textChunk : String × Json :=
  ("\x7b\"choices\":[\x7b\"delta\":\x7b\"content\":\"hi\"\x7d\x7d]\x7d",
    .object [("choices", .array [.object [("delta", .object [("content", .string "hi")])]])])

end ChatSseToResponses

end CodexGate.Conversion
