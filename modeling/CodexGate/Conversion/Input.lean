import CodexGate.Conversion.Phases

namespace CodexGate.Conversion

open Foundation

namespace SseDecoder

def withBuffer (buffer : List UInt8) (self : SseDecoder) : SseDecoder := { self with buffer }

theorem processLine_withBuffer (buffer : List UInt8) (self : SseDecoder) (line : List UInt8) :
    (self.withBuffer buffer).processLine line =
      (self.processLine line).mapState (withBuffer buffer) := by
  unfold processLine dispatch withBuffer
  dsimp only
  by_cases empty : line = []
  · rw [if_pos empty, if_pos empty]
    by_cases nothing : self.dataLines = [] ∧ self.eventName = none
    · rw [if_pos nothing, if_pos nothing]
      rfl
    · rw [if_neg nothing, if_neg nothing]
      rfl
  · rw [if_neg empty, if_neg empty]
    split
    · rfl
    · split
      · rfl
      · split <;> rfl

theorem processLines_withBuffer (buffer : List UInt8) (self : SseDecoder)
    (lines : List (List UInt8)) :
    (self.withBuffer buffer).processLines lines =
      (self.processLines lines).mapState (withBuffer buffer) := by
  apply Emission.forEach_mapState (f := withBuffer buffer)
  intro self line
  exact processLine_withBuffer buffer self _

def decoded (bytes : List UInt8) : Emission SseDecoder SseEvent :=
  default.processLines (splitLines newline bytes).1

def after (bytes : List UInt8) : SseDecoder :=
  (decoded bytes).state.withBuffer (splitLines newline bytes).2

def added (bytes more : List UInt8) : Emission SseDecoder SseEvent :=
  (decoded bytes).state.processLines
    (splitLines newline ((splitLines newline bytes).2 ++ more)).1

theorem decoded_append (bytes more : List UInt8) :
    decoded (bytes ++ more) =
      ⟨(decoded bytes).events ++ (added bytes more).events, (added bytes more).state⟩ := by
  rw [decoded, splitLines_append, processLines, Emission.forEach_append]
  rfl

theorem push_after (bytes more : List UInt8) {maxBytes : Nat}
    (fits : (bytes ++ more).length ≤ maxBytes) :
    (after bytes).push more maxBytes = (.ok (added bytes more).events, after (bytes ++ more)) := by
  have rest := splitLines_rest_length newline bytes
  have small : ¬((after bytes).buffer ++ more).length > maxBytes := by
    simp only [after, withBuffer, List.length_append] at *
    omega
  rw [push, if_neg small]
  have buffer : (after bytes).buffer = (splitLines newline bytes).2 := rfl
  dsimp only
  rw [buffer]
  change (Except.ok (((decoded bytes).state.withBuffer _).processLines _).events,
    (((decoded bytes).state.withBuffer _).processLines _).state) = _
  rw [processLines_withBuffer]
  have state : after (bytes ++ more) = (added bytes more).state.withBuffer
      (splitLines newline ((splitLines newline bytes).2 ++ more)).2 := by
    rw [after, decoded_append, splitLines_append]
  rw [state]
  rfl

theorem processLine_events_length (self : SseDecoder) (line : List UInt8) :
    (self.processLine line).events.length ≤ 1 := by
  unfold processLine dispatch
  dsimp only
  split
  · split
    · exact Nat.zero_le 1
    · exact Nat.le_refl 1
  · split
    · exact Nat.zero_le 1
    · split
      · exact Nat.zero_le 1
      · split <;> exact Nat.zero_le 1

theorem added_singleton_length (bytes : List UInt8) (b : UInt8) :
    (added bytes [b]).events.length ≤ 1 := by
  have one := splitLines_singleton newline bytes b
  unfold added processLines
  rcases lines : (splitLines newline ((splitLines newline bytes).2 ++ [b])).1 with
    _ | ⟨line, _ | ⟨next, rest⟩⟩
  · exact Nat.zero_le 1
  · simpa using processLine_events_length _ _
  · rw [lines] at one
    simp at one

end SseDecoder

namespace ChatSseToResponses

structure Input where
  decoder : SseDecoder
  maxBytes : Nat
  totalSeen : Nat

def withInput (input : Input) (self : ChatSseToResponses) : ChatSseToResponses :=
  { self with
    decoder := input.decoder
    maxBytes := input.maxBytes
    totalSeen := input.totalSeen }

def IgnoresInput (method : ChatSseToResponses → Sent) : Prop :=
  ∀ input self, method (self.withInput input) = (method self).mapState (withInput input)

theorem IgnoresInput.andThen {first next : ChatSseToResponses → Sent} (one : IgnoresInput first)
    (other : IgnoresInput next) : IgnoresInput fun self => (first self).andThen next := by
  intro input self
  show (first (self.withInput input)).andThen next = _
  rw [one, Emission.mapState_andThen (other input)]

theorem IgnoresInput.forEach {α : Type} {step : ChatSseToResponses → α → Sent}
    (each : ∀ item, IgnoresInput fun self => step self item) (items : List α) :
    IgnoresInput fun self => Emission.forEach step self items := by
  intro input self
  exact Emission.forEach_mapState (fun self item => each item input self) self items

theorem IgnoresInput.update {update : ChatSseToResponses → ChatSseToResponses}
    {method : ChatSseToResponses → Sent} (ignores : IgnoresInput method)
    (commutes : ∀ input self, update (self.withInput input) = (update self).withInput input) :
    IgnoresInput fun self => method (update self) := by
  intro input self
  show method (update (self.withInput input)) = _
  rw [commutes, ignores]

theorem ensureMessage_ignoresInput : IgnoresInput ensureMessage := by
  intro input self
  unfold ensureMessage withInput
  by_cases present : self.messageIndex.isSome = true
  · rw [if_pos present, if_pos present]
    rfl
  · rw [if_neg present, if_neg present]
    rfl

theorem startText_ignoresInput : IgnoresInput startText := by
  intro input self
  unfold startText withInput
  by_cases started : self.textStarted = true
  · rw [if_pos started, if_pos started]
    rfl
  · rw [if_neg started, if_neg started]
    rfl

theorem appendText_ignoresInput (delta : String) :
    IgnoresInput fun self => self.appendText delta :=
  (ensureMessage_ignoresInput.andThen startText_ignoresInput).andThen fun _ _ => rfl

section Tools

variable (crates : Crates)

theorem announceTool_ignoresInput (tool : StreamToolCall) (index : Nat) :
    IgnoresInput fun self => announceTool crates self tool index := by
  intro input self
  dsimp only
  unfold announceTool
  split
  · rfl
  · rfl

theorem sendArguments_ignoresInput (tool : StreamToolCall) (index : Nat) :
    IgnoresInput fun self => sendArguments crates self tool index := by
  intro input self
  dsimp only
  unfold sendArguments
  split
  · rfl
  · rfl

theorem emitTool_ignoresInput (index : Nat) (force : Bool) :
    IgnoresInput fun self => emitTool crates self index force := by
  intro input self
  have tools : (self.withInput input).tools = self.tools := rfl
  have response : (self.withInput input).responseId = self.responseId := rfl
  dsimp only
  unfold emitTool
  rw [tools, response]
  split
  · rfl
  · dsimp only
    split
    · rfl
    · exact ((announceTool_ignoresInput crates _ index).andThen
        (sendArguments_ignoresInput crates _ index)).andThen (fun _ _ => rfl) input self

theorem registerTool_withInput (index : Nat) (input : Input) (self : ChatSseToResponses) :
    (self.withInput input).registerTool index = (self.registerTool index).withInput input := by
  unfold registerTool
  by_cases known : (self.tools.lookup index).isSome = true
  · rw [if_pos known, if_pos (show ((self.withInput input).tools.lookup index).isSome from known)]
  · rw [if_neg known, if_neg (show ¬((self.withInput input).tools.lookup index).isSome from known)]
    rfl

theorem extendTool_withInput (delta : ToolDelta) (input : Input) (self : ChatSseToResponses) :
    (self.withInput input).extendTool delta = (self.extendTool delta).withInput input := by
  have tools : (self.withInput input).tools = self.tools := rfl
  unfold extendTool
  rw [tools]
  cases self.tools.lookup delta.index <;> rfl

theorem appendToolDelta_ignoresInput (delta : Json) :
    IgnoresInput fun self => appendToolDelta crates self delta := by
  apply IgnoresInput.update (emitTool_ignoresInput crates _ false)
  intro input self
  rw [registerTool_withInput, extendTool_withInput]

theorem processDelta_ignoresInput (delta : Json) :
    IgnoresInput fun self => processDelta crates self delta := by
  have content : IgnoresInput fun self => self.processContent delta := by
    intro input self
    dsimp only
    unfold processContent
    split
    · exact appendText_ignoresInput _ input self
    · rfl
  exact content.andThen (IgnoresInput.forEach (appendToolDelta_ignoresInput crates) _)

theorem processChoice_ignoresInput (choice : Json) :
    IgnoresInput fun self => processChoice crates self choice := by
  have noted : ∀ input self, (withInput input self).noteFinishReason choice =
      (self.noteFinishReason choice).withInput input := by
    intro input self
    unfold noteFinishReason
    cases (choice.get "finish_reason").bind Json.asStr <;> rfl
  intro input self
  dsimp only
  unfold processChoice
  rw [noted]
  dsimp only
  split
  · exact processDelta_ignoresInput crates _ input _
  · rfl

theorem start_ignoresInput (chunk : Json) : IgnoresInput fun self => self.start crates chunk := by
  have adopted : ∀ input self, (withInput input self).adopt crates chunk =
      (self.adopt crates chunk).withInput input := by
    intro input self
    unfold adopt
    cases (chunk.get "id").bind Json.asStr <;> rfl
  intro input self
  dsimp only
  unfold start
  rw [adopted]
  by_cases started : self.created = true
  · rw [if_pos started, if_pos (show (self.withInput input).created = true from started)]
    rfl
  · rw [if_neg started, if_neg (show ¬(self.withInput input).created = true from started)]
    rfl

theorem processChunk_ignoresInput (chunk : Json) :
    IgnoresInput fun self => processChunk crates self chunk := by
  have started : IgnoresInput fun self => (self.noteServiceTier chunk).start crates chunk := by
    apply IgnoresInput.update (start_ignoresInput crates chunk)
    intro input self
    unfold noteServiceTier
    cases Metering.serviceTier chunk <;> rfl
  have noted : ∀ input self, (withInput input self).noteUsage chunk =
      (self.noteUsage chunk).withInput input := by
    intro input self
    unfold noteUsage
    cases (chunk.get "usage").filter fun usage => !usage.isNull <;> rfl
  unfold processChunk
  refine started.andThen fun input self => ?_
  dsimp only
  rw [noted]
  cases firstChoice chunk with
  | none => rfl
  | some choice => exact processChoice_ignoresInput crates choice input _

theorem completeMessage_ignoresInput : IgnoresInput completeMessage := by
  intro input self
  have place : (self.withInput input).messageIndex = self.messageIndex := rfl
  unfold completeMessage
  rw [place]
  split
  · rfl
  · next outputIndex _ =>
    have text : IgnoresInput fun self => self.sendTextDone outputIndex := by
      intro input self
      dsimp only
      unfold sendTextDone
      by_cases started : self.textStarted = true
      · rw [if_pos started, if_pos (show (self.withInput input).textStarted = true from started)]
        rfl
      · rw [if_neg started, if_neg (show ¬(self.withInput input).textStarted = true from started)]
        rfl
    exact text.andThen (fun _ _ => rfl) input self

theorem completeTool_ignoresInput (index : Nat) :
    IgnoresInput fun self => completeTool crates self index := by
  intro input self
  have tools : (self.withInput input).tools = self.tools := rfl
  dsimp only
  unfold completeTool
  rw [tools]
  cases self.tools.lookup index <;> rfl

theorem complete_ignoresInput : IgnoresInput (complete crates) := by
  have body : IgnoresInput fun self =>
      (((Emission.forEach (fun self index => emitTool crates self index true) self
        self.toolOrder).andThen completeMessage).andThen fun self =>
          Emission.forEach (completeTool crates) self self.toolOrder).andThen sendCompleted := by
    have forced : IgnoresInput fun self =>
        Emission.forEach (fun self index => emitTool crates self index true) self
          self.toolOrder := by
      intro input self
      exact IgnoresInput.forEach (fun index => emitTool_ignoresInput crates index true)
        self.toolOrder input self
    have tools : IgnoresInput fun self =>
        Emission.forEach (completeTool crates) self self.toolOrder := by
      intro input self
      exact IgnoresInput.forEach (completeTool_ignoresInput crates) self.toolOrder input self
    exact ((forced.andThen completeMessage_ignoresInput).andThen tools).andThen fun _ _ => rfl
  intro input self
  unfold complete
  by_cases ended : self.terminal = true
  · rw [if_pos ended, if_pos (show (self.withInput input).terminal = true from ended)]
    rfl
  · rw [if_neg ended, if_neg (show ¬(self.withInput input).terminal = true from ended)]
    exact body input self

theorem fail_ignoresInput (message : String) : IgnoresInput fun self => self.fail message := by
  intro input self
  have created : (self.withInput input).created = self.created := rfl
  dsimp only
  unfold fail
  rw [created]
  by_cases ended : self.terminal = true
  · rw [if_pos ended, if_pos (show (self.withInput input).terminal = true from ended)]
    rfl
  · rw [if_neg ended, if_neg (show ¬(self.withInput input).terminal = true from ended)]
    by_cases started : self.created = true
    · rw [if_pos started, if_pos started]
      rfl
    · rw [if_neg started, if_neg started]
      rfl

theorem processEvent_ignoresInput (event : SseEvent) :
    IgnoresInput fun self => processEvent crates self event := by
  intro input self
  dsimp only
  unfold processEvent
  cases frame crates event with
  | done => exact complete_ignoresInput crates input { self with sawDone := true }
  | failure message => exact fail_ignoresInput message input self
  | ignored => rfl
  | chunk chunk => exact processChunk_ignoresInput crates chunk input self

theorem processEvents_ignoresInput (events : List SseEvent) :
    IgnoresInput fun self => processEvents crates self events :=
  IgnoresInput.forEach (processEvent_ignoresInput crates) events

end Tools

end ChatSseToResponses

end CodexGate.Conversion
