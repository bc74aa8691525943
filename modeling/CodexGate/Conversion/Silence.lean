import CodexGate.Conversion.Stream

namespace CodexGate.Conversion.ChatSseToResponses

open Foundation

variable (crates : Crates)

def extendedTool (self : ChatSseToResponses) (delta : ToolDelta) : StreamToolCall :=
  StreamToolCall.extend ((self.tools.lookup delta.index).getD self.freshTool) delta

def takeDelta (self : ChatSseToResponses) (delta : ToolDelta) : ChatSseToResponses :=
  (self.registerTool delta.index).extendTool delta

theorem takeDelta_lookup (self : ChatSseToResponses) (delta : ToolDelta) :
    (self.takeDelta delta).tools.lookup delta.index = some (self.extendedTool delta) := by
  unfold takeDelta extendedTool registerTool
  cases known : self.tools.lookup delta.index with
  | none =>
    simp only [Option.isSome_none, Bool.false_eq_true, if_false, extendTool, AList.lookup_insert,
      storeTool, Option.getD_none]
  | some tool =>
    simp only [Option.isSome_some, if_true, extendTool, known, storeTool, AList.lookup_insert,
      Option.getD_some]

theorem emitTool_known {self : ChatSseToResponses} {index : Nat} {tool : StreamToolCall}
    (known : self.tools.lookup index = some tool) (force : Bool) :
    emitTool crates self index force =
      let tool := nameTool crates self.responseId index force tool
      if tool.name = "" ∨ tool.callId = "" then .silent (self.storeTool index tool)
      else
        ((announceTool crates self tool index).andThen fun self =>
          sendArguments crates self tool index).andThen fun self =>
            .silent (self.storeTool index (StreamToolCall.sent tool)) := by
  simp only [emitTool, known]

def SilentToolDelta (self : ChatSseToResponses) (delta : Json) : Prop :=
  let tool := self.extendedTool (ToolDelta.read delta)
  tool.name = "" ∨ tool.callId = "" ∨
    tool.emitted = true ∧ byteLength tool.arguments ≤ tool.emittedArgumentsLen

theorem appendToolDelta_silent_iff (self : ChatSseToResponses) (delta : Json) :
    (appendToolDelta crates self delta).events = [] ↔ SilentToolDelta self delta := by
  have known := takeDelta_lookup self (ToolDelta.read delta)
  unfold appendToolDelta SilentToolDelta
  change (emitTool crates (self.takeDelta (ToolDelta.read delta)) _ false).events = [] ↔ _
  rw [emitTool_known crates known]
  simp only [nameTool, Bool.false_eq_true, if_false]
  generalize self.extendedTool (ToolDelta.read delta) = tool
  by_cases unnamed : tool.name = "" ∨ tool.callId = ""
  · rw [if_pos unnamed]
    simp only [Emission.silent_events, true_iff]
    rcases unnamed with unnamed | unnamed
    · exact .inl unnamed
    · exact .inr (.inl unnamed)
  · rw [if_neg unnamed]
    rw [not_or] at unnamed
    by_cases out : tool.emitted = true
    · by_cases more : byteLength tool.arguments > tool.emittedArgumentsLen
      · have longer : ¬byteLength tool.arguments ≤ tool.emittedArgumentsLen := by omega
        simp [announceTool, out, sendArguments, more, send, unnamed, longer]
      · have sent : byteLength tool.arguments ≤ tool.emittedArgumentsLen := by omega
        simp [announceTool, out, sendArguments, more, sent]
    · simp [announceTool, out, send, unnamed]

def SilentDelta (self : ChatSseToResponses) (delta : Json) : Prop :=
  (delta.get "content").bind Json.asStr = none ∧
    Emission.Along (appendToolDelta crates) SilentToolDelta self (toolCalls delta)

def SilentChunk (self : ChatSseToResponses) (chunk : Json) : Prop :=
  self.created = true ∧ ∀ choice members, firstChoice chunk = some choice →
    choice.get "delta" = some (.object members) →
    SilentDelta crates (((self.noteServiceTier chunk).noteUsage chunk).noteFinishReason choice)
      (.object members)

theorem noteServiceTier_created (self : ChatSseToResponses) (chunk : Json) :
    (self.noteServiceTier chunk).created = self.created := by
  unfold noteServiceTier
  cases Metering.serviceTier chunk <;> rfl

theorem processDelta_silent_iff (self : ChatSseToResponses) (delta : Json) :
    (processDelta crates self delta).events = [] ↔ SilentDelta crates self delta := by
  unfold processDelta processContent SilentDelta
  cases (delta.get "content").bind Json.asStr with
  | none =>
    simp only [Emission.silent_andThen, true_and]
    exact Emission.forEach_events_eq_nil (appendToolDelta_silent_iff crates) self _
  | some content => simp [appendText, sendText, send]

theorem processChoice_silent_iff (self : ChatSseToResponses) (choice : Json) :
    (processChoice crates self choice).events = [] ↔ ∀ members,
      choice.get "delta" = some (.object members) →
      SilentDelta crates (self.noteFinishReason choice) (.object members) := by
  unfold processChoice
  split
  · next members isObject =>
    rw [processDelta_silent_iff, isObject]
    constructor
    · intro silent others same
      cases same
      exact silent
    · intro silent
      exact silent members rfl
  · next notObject =>
    simp only [Emission.silent_events, true_iff]
    intro members isObject
    exact absurd isObject (notObject members)

theorem startEvents_events_ne_nil (self : ChatSseToResponses) : self.startEvents.events ≠ [] := by
  simp [startEvents, send]

theorem processChunk_silent_iff (self : ChatSseToResponses) (chunk : Json) :
    (processChunk crates self chunk).events = [] ↔ SilentChunk crates self chunk := by
  unfold processChunk SilentChunk start
  rw [noteServiceTier_created]
  by_cases started : self.created = true
  · simp only [started, if_true, Emission.silent_andThen, true_and]
    split
    · next choice chosen =>
      rw [processChoice_silent_iff, chosen]
      constructor
      · intro silent other members same
        cases same
        exact silent members
      · intro silent members
        exact silent choice members rfl
    · next unchosen =>
      simp only [Emission.silent_events, true_iff]
      intro choice members chosen
      rw [unchosen] at chosen
      cases chosen
  · simp only [started, if_false, Emission.andThen_events, List.append_eq_nil_iff,
      startEvents_events_ne_nil, false_and, Bool.false_eq_true]

def SilentFrame (self : ChatSseToResponses) : Frame → Prop
  | .chunk chunk => SilentChunk crates self chunk
  | _ => True

theorem processFrame_silent_iff {self : ChatSseToResponses} (ended : self.terminal = true)
    (frame : Frame) :
    (processFrame crates self frame).events = [] ↔ SilentFrame crates self frame := by
  cases frame with
  | done => simp [processFrame, complete, ended, SilentFrame]
  | failure message => simp [processFrame, fail, ended, SilentFrame]
  | ignored => simp [processFrame, SilentFrame]
  | chunk chunk => exact processChunk_silent_iff crates self chunk

end CodexGate.Conversion.ChatSseToResponses
