import CodexGate.Conversion.Slots

namespace CodexGate.Conversion

open Foundation

def ResponseEvent.place : ResponseEvent → Option Nat
  | outputItemAdded i _ | contentPartAdded _ i | outputTextDelta _ i _ | toolDelta _ _ i _
  | outputTextDone _ i _ | contentPartDone _ i _ | outputItemDone i _ | toolDone _ _ i _ => some i
  | created _ | inProgress _ | completed _ | error _ | failed _ => none

namespace ChatSseToResponses

def Untouched (events : List ResponseEvent) (i : Nat) : Prop :=
  ∀ event ∈ events, event.place ≠ some i

theorem Untouched.append {events more : List ResponseEvent} {i : Nat}
    (first : Untouched events i) (second : Untouched more i) : Untouched (events ++ more) i := by
  intro event member
  rcases List.mem_append.mp member with member | member
  · exact first event member
  · exact second event member

def OnlyAt (events : List ResponseEvent) (i : Nat) : Prop :=
  ∀ event ∈ events, event.place = some i

theorem OnlyAt.untouched {events : List ResponseEvent} {i j : Nat} (only : OnlyAt events i)
    (different : i ≠ j) : Untouched events j := by
  intro event member same
  exact different (Option.some.inj ((only event member).symm.trans same))

theorem OnlyAt.append {events more : List ResponseEvent} {i : Nat} (first : OnlyAt events i)
    (second : OnlyAt more i) : OnlyAt (events ++ more) i := by
  intro event member
  rcases List.mem_append.mp member with member | member
  · exact first event member
  · exact second event member

theorem Slots.tool_ne_message {self : ChatSseToResponses} (slots : Slots self) {i index : Nat}
    {tool : StreamToolCall} (present : self.messageIndex = some i)
    (known : self.tools.lookup index = some tool) : i ≠ tool.outputIndex := by
  intro same
  have owner := slots.unique i .message (.tool index) present (by
    rw [same]
    exact place_of_lookup known)
  cases owner

theorem Slots.tool_ne_tool {self : ChatSseToResponses} (slots : Slots self) {index other : Nat}
    {tool stored : StreamToolCall} (known : self.tools.lookup index = some tool)
    (found : self.tools.lookup other = some stored) (different : other ≠ index) :
    tool.outputIndex ≠ stored.outputIndex := by
  intro same
  have owner := slots.unique tool.outputIndex (.tool index) (.tool other) (place_of_lookup known)
    (by rw [same]; exact place_of_lookup found)
  cases owner
  exact different rfl

theorem Slots.tool_below {self : ChatSseToResponses} (slots : Slots self) {index : Nat}
    {tool : StreamToolCall} (known : self.tools.lookup index = some tool) :
    tool.outputIndex < self.output.length :=
  slots.below _ (.tool index) (place_of_lookup known)

theorem Slots.message_below {self : ChatSseToResponses} (slots : Slots self) {i : Nat}
    (present : self.messageIndex = some i) : i < self.output.length :=
  slots.below _ .message present

section Tools

variable (crates : Crates)

theorem startedText_onlyAt (self : ChatSseToResponses) (content : String) :
    OnlyAt [.outputItemAdded self.output.length self.startedMessage,
      .contentPartAdded self.messageId self.output.length,
      .outputTextDelta self.messageId self.output.length content] self.output.length := by
  simp [OnlyAt, ResponseEvent.place]

theorem announcement_onlyAt (self : ChatSseToResponses) (tool : StreamToolCall) (index : Nat) :
    OnlyAt (announcement crates self tool index) tool.outputIndex := by
  unfold announcement
  split <;> simp [OnlyAt, ResponseEvent.place]

theorem fragment_onlyAt (self : ChatSseToResponses) (tool : StreamToolCall) (index : Nat) :
    OnlyAt (fragment crates self tool index) tool.outputIndex := by
  unfold fragment
  split <;> simp [OnlyAt, ResponseEvent.place]

theorem announcedOutput_getElem (self : ChatSseToResponses) (tool : StreamToolCall) (index : Nat)
    {i : Nat} (different : tool.outputIndex ≠ i) :
    (announcedOutput crates self tool index)[i]? = self.output[i]? := by
  unfold announcedOutput
  split
  · rfl
  · exact List.getElem?_set_ne different

theorem forced_named (responseId : String) (index : Nat) (tool : StreamToolCall) :
    ¬((nameTool crates responseId index true tool).name = "" ∨
      (nameTool crates responseId index true tool).callId = "") := by
  have prefixed : ∀ start rest : String, start ≠ "" → start ++ rest ≠ "" :=
    fun start rest written => append_ne_empty rest written
  rw [nameTool, if_pos rfl, not_or]
  constructor
  · dsimp only
    split
    · exact prefixed "unknown_tool_" _ (by decide)
    · assumption
  · dsimp only
    split
    · exact prefixed "call_" _ (by decide)
    · assumption

theorem nameTool_named (responseId : String) (index : Nat) (force : Bool) {tool : StreamToolCall}
    (name : tool.name ≠ "") (callId : tool.callId ≠ "") :
    nameTool crates responseId index force tool = tool := by
  unfold nameTool
  split
  · rfl
  · rfl

theorem emitTool_frame (self : ChatSseToResponses) (index : Nat) (force : Bool) :
    (emitTool crates self index force).state.context = self.context ∧
      (emitTool crates self index force).state.responseId = self.responseId := by
  cases known : self.tools.lookup index with
  | none => simp only [emitTool, known, Emission.silent_state, and_self]
  | some tool =>
    by_cases unnamed : (nameTool crates self.responseId index force tool).name = "" ∨
        (nameTool crates self.responseId index force tool).callId = ""
    · rw [emitTool_unnamed crates known unnamed]
      exact ⟨rfl, rfl⟩
    · obtain ⟨-, sequence, state⟩ := emitTool_named crates known unnamed
      rw [state]
      exact ⟨rfl, rfl⟩

theorem emitTool_context (self : ChatSseToResponses) (index : Nat) (force : Bool) :
    (emitTool crates self index force).state.context = self.context :=
  (emitTool_frame crates self index force).1

theorem extendedTool_known {self : ChatSseToResponses} {delta : ToolDelta}
    (emitted : (self.extendedTool delta).emitted = true) :
    ∃ tool, self.tools.lookup delta.index = some tool ∧ tool.emitted = true ∧
      self.extendedTool delta = StreamToolCall.extend tool delta := by
  unfold extendedTool at emitted ⊢
  cases known : self.tools.lookup delta.index with
  | none =>
    rw [known] at emitted
    cases emitted
  | some tool =>
    rw [known] at emitted
    exact ⟨tool, rfl, emitted, rfl⟩

theorem takeDelta_known {self : ChatSseToResponses} {delta : ToolDelta} {tool : StreamToolCall}
    (known : self.tools.lookup delta.index = some tool) :
    self.takeDelta delta = self.storeTool delta.index (StreamToolCall.extend tool delta) := by
  rw [takeDelta, registerTool_known known, extendTool, known]

theorem startedTool_identity (context : ConversionContext) (tool : StreamToolCall) (index : Nat) :
    itemIdentity (startedTool crates context tool index) =
      toolIdentity crates context tool.callId tool.name := by
  rw [startedTool, itemIdentity_insert_status, responseToolItem_identity]

theorem completedTool_identity (context : ConversionContext) (tool : StreamToolCall)
    (index : Nat) :
    itemIdentity (completedTool crates context tool index) =
      toolIdentity crates context tool.callId tool.name := by
  rw [completedTool, responseToolItem_identity]

end Tools

end ChatSseToResponses

end CodexGate.Conversion
