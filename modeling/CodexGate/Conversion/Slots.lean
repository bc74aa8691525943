import CodexGate.Conversion.Silence

namespace CodexGate.Conversion.ChatSseToResponses

open Foundation

def told (past : List SentEvent) : List ResponseEvent := past.map SentEvent.event

def Told (P : List ResponseEvent → ChatSseToResponses → Prop) (past : List SentEvent)
    (self : ChatSseToResponses) : Prop :=
  P (told past) self

theorem told_append (past more : List SentEvent) : told (past ++ more) = told past ++ told more :=
  List.map_append

theorem told_send (self : ChatSseToResponses) (event : ResponseEvent) :
    told (self.send event).events = [event] := rfl

def place (self : ChatSseToResponses) (index : Nat) : Option Nat :=
  (self.tools.lookup index).map StreamToolCall.outputIndex

inductive Owner
  | message
  | tool (index : Nat)

def Owns (self : ChatSseToResponses) (i : Nat) : Owner → Prop
  | .message => self.messageIndex = some i
  | .tool index => self.place index = some i

/-- Every place of the output has one owner, and the tools are listed in their order. -/
structure Slots (stream : ChatSseToResponses) : Prop where
  listed : ∀ index, index ∈ stream.toolOrder ↔ stream.place index ≠ none
  below : ∀ i owner, Owns stream i owner → i < stream.output.length
  unique : ∀ i owner other, Owns stream i owner → Owns stream i other → owner = other
  covered : ∀ i, i < stream.output.length → ∃ owner, Owns stream i owner
  text : stream.messageIndex.isSome = stream.textStarted
  started : stream.created = false → stream.messageIndex = none

structure SameSlots (before after : ChatSseToResponses) : Prop where
  order : after.toolOrder = before.toolOrder
  place : ∀ index, after.place index = before.place index
  length : after.output.length = before.output.length
  message : after.messageIndex = before.messageIndex
  text : after.textStarted = before.textStarted
  created : before.created = true → after.created = true

structure SameContent (before after : ChatSseToResponses) : Prop where
  context : after.context = before.context
  output : after.output = before.output
  messageIndex : after.messageIndex = before.messageIndex
  messageId : after.messageId = before.messageId
  text : after.text = before.text
  textStarted : after.textStarted = before.textStarted
  tools : after.tools = before.tools
  toolOrder : after.toolOrder = before.toolOrder
  created : before.created = true → after.created = true

theorem SameContent.sameSlots {before after : ChatSseToResponses}
    (same : SameContent before after) : SameSlots before after := by
  refine ⟨same.toolOrder, fun index => ?_, ?_, same.messageIndex, same.textStarted, same.created⟩
  · rw [place, place, same.tools]
  · rw [same.output]

theorem SameSlots.refl (self : ChatSseToResponses) : SameSlots self self :=
  ⟨rfl, fun _ => rfl, rfl, rfl, rfl, id⟩

theorem SameSlots.owns {self next : ChatSseToResponses} (same : SameSlots self next) {i : Nat}
    {owner : Owner} : Owns next i owner ↔ Owns self i owner := by
  cases owner with
  | message => rw [Owns, Owns, same.message]
  | tool index => rw [Owns, Owns, same.place]

theorem Slots.same {self next : ChatSseToResponses} (slots : Slots self)
    (same : SameSlots self next) : Slots next := by
  constructor
  · intro index
    rw [same.order, same.place]
    exact slots.listed index
  · intro i owner owns
    rw [same.length]
    exact slots.below i owner (same.owns.mp owns)
  · intro i owner other owns owned
    exact slots.unique i owner other (same.owns.mp owns) (same.owns.mp owned)
  · intro i below
    rw [same.length] at below
    obtain ⟨owner, owns⟩ := slots.covered i below
    exact ⟨owner, same.owns.mpr owns⟩
  · rw [same.message, same.text]
    exact slots.text
  · intro unstarted
    rw [same.message]
    apply slots.started
    by_contra started
    rw [same.created (by simpa using started)] at unstarted
    cases unstarted

theorem new_slots (crates : Crates) (context : ConversionContext) (maxBytes : Nat) :
    Slots (new crates context maxBytes) := by
  have empty : ∀ i owner, ¬Owns (new crates context maxBytes) i owner := by
    intro i owner owns
    cases owner with
    | message => cases owns
    | tool index => cases owns
  constructor
  · intro index
    simp [new, place]
  · intro i owner owns
    exact absurd owns (empty i owner)
  · intro i owner other owns
    exact absurd owns (empty i owner)
  · intro i below
    exact absurd below (Nat.not_lt_zero i)
  · rfl
  · exact fun _ => rfl

theorem place_of_lookup {self : ChatSseToResponses} {index : Nat} {tool : StreamToolCall}
    (known : self.tools.lookup index = some tool) : self.place index = some tool.outputIndex := by
  rw [place, known, Option.map_some]

theorem lookup_of_place {self : ChatSseToResponses} {index i : Nat}
    (placed : self.place index = some i) :
    ∃ tool, self.tools.lookup index = some tool ∧ tool.outputIndex = i :=
  Option.map_eq_some_iff.mp placed

theorem storeTool_sameSlots {self : ChatSseToResponses} {index : Nat} {tool stored : StreamToolCall}
    (known : self.tools.lookup index = some tool) (place : stored.outputIndex = tool.outputIndex) :
    SameSlots self (self.storeTool index stored) := by
  refine ⟨rfl, fun other => ?_, rfl, rfl, rfl, id⟩
  by_cases same : other = index
  · subst same
    rw [place_of_lookup known, ← place]
    exact place_of_lookup (AList.lookup_insert _)
  · rw [ChatSseToResponses.place, storeTool, AList.lookup_insert_ne same]
    rfl

theorem storeTool_lookup_self (self : ChatSseToResponses) (index : Nat) (tool : StreamToolCall) :
    (self.storeTool index tool).tools.lookup index = some tool :=
  AList.lookup_insert _

theorem storeTool_lookup_ne (self : ChatSseToResponses) {index other : Nat} (tool : StreamToolCall)
    (different : other ≠ index) :
    (self.storeTool index tool).tools.lookup other = self.tools.lookup other :=
  AList.lookup_insert_ne different

theorem extendTool_sameSlots (self : ChatSseToResponses) (delta : ToolDelta) :
    SameSlots self (self.extendTool delta) := by
  unfold extendTool
  cases known : self.tools.lookup delta.index with
  | none => exact SameSlots.refl self
  | some tool => exact storeTool_sameSlots known rfl

theorem Slots.grow {self next : ChatSseToResponses} (slots : Slots self) {owner : Owner}
    (fresh : ∀ i, ¬Owns self i owner) (length : next.output.length = self.output.length + 1)
    (owned : Owns next self.output.length owner)
    (others : ∀ i other, other ≠ owner → (Owns next i other ↔ Owns self i other))
    (single : ∀ i, Owns next i owner → i = self.output.length)
    (listed : ∀ index, index ∈ next.toolOrder ↔ next.place index ≠ none)
    (text : next.messageIndex.isSome = next.textStarted)
    (started : next.created = false → next.messageIndex = none) : Slots next := by
  refine ⟨listed, ?_, ?_, ?_, text, started⟩
  · intro i other owns
    by_cases same : other = owner
    · subst same
      rw [single i owns, length]
      exact Nat.lt_succ_self _
    · have below := slots.below i other ((others i other same).mp owns)
      omega
  · intro i one other owns taken
    by_cases first : one = owner
    · by_cases second : other = owner
      · rw [first, second]
      · subst first
        have below := slots.below i other ((others i other second).mp taken)
        have last := single i owns
        omega
    · by_cases second : other = owner
      · subst second
        have below := slots.below i one ((others i one first).mp owns)
        have last := single i taken
        omega
      · exact slots.unique i one other ((others i one first).mp owns)
          ((others i other second).mp taken)
  · intro i below
    by_cases last : i = self.output.length
    · subst last
      exact ⟨owner, owned⟩
    · obtain ⟨other, owns⟩ := slots.covered i (by omega)
      have different : other ≠ owner := by
        intro same
        subst same
        exact fresh i owns
      exact ⟨other, (others i other different).mpr owns⟩

theorem registerTool_known {self : ChatSseToResponses} {index : Nat} {tool : StreamToolCall}
    (known : self.tools.lookup index = some tool) : self.registerTool index = self := by
  rw [registerTool, known, Option.isSome_some, if_pos rfl]

theorem registerTool_fresh {self : ChatSseToResponses} {index : Nat}
    (fresh : self.tools.lookup index = none) :
    self.registerTool index =
      { self with
        toolOrder := self.toolOrder ++ [index]
        output := self.output ++ [.null]
        tools := self.tools.insert index self.freshTool } := by
  rw [registerTool, fresh, Option.isSome_none, if_neg (by decide)]

theorem registerTool_slots {self : ChatSseToResponses} (slots : Slots self) (index : Nat) :
    Slots (self.registerTool index) := by
  cases known : self.tools.lookup index with
  | some tool =>
    rw [registerTool_known known]
    exact slots
  | none =>
    rw [registerTool_fresh known]
    have placed : ∀ other, place { self with
        toolOrder := self.toolOrder ++ [index]
        output := self.output ++ [.null]
        tools := self.tools.insert index self.freshTool } other =
        if other = index then some self.output.length else self.place other := by
      intro other
      by_cases same : other = index
      · subst same
        simp [place, freshTool]
      · simp [place, same, AList.lookup_insert_ne]
    have unplaced : self.place index = none := by rw [place, known, Option.map_none]
    refine @Slots.grow self _ slots (.tool index) ?_ ?_ ?_ ?_ ?_ ?_ ?_ slots.started
    · intro i owns
      rw [Owns, unplaced] at owns
      cases owns
    · simp
    · rw [Owns, placed, if_pos rfl]
    · intro i other different
      cases other with
      | message => exact Iff.rfl
      | tool other =>
        have distinct : other ≠ index := fun same => different (by rw [same])
        rw [Owns, Owns, placed, if_neg distinct]
    · intro i owns
      rw [Owns, placed, if_pos rfl] at owns
      exact (Option.some.inj owns).symm
    · intro other
      rw [placed]
      by_cases same : other = index
      · simp [same]
      · have listed := slots.listed other
        simp only [List.mem_append, List.mem_singleton, same, or_false, if_false]
        exact listed
    · exact slots.text

theorem appendText_started {self : ChatSseToResponses} {i : Nat}
    (present : self.messageIndex = some i) (started : self.textStarted = true) (delta : String) :
    self.appendText delta =
      { self with text := self.text ++ delta }.send (.outputTextDelta self.messageId i delta) := by
  have message : self.ensureMessage = .silent self := by
    rw [ensureMessage, present, Option.isSome_some, if_pos rfl]
  have text : self.startText = .silent self := by
    rw [startText, started, if_pos rfl]
  rw [appendText, message, Emission.silent_andThen, text, Emission.silent_andThen, sendText, present]
  rfl

theorem appendText_present {self : ChatSseToResponses} (slots : Slots self) {i : Nat}
    (present : self.messageIndex = some i) (delta : String) :
    self.appendText delta =
      { self with text := self.text ++ delta }.send (.outputTextDelta self.messageId i delta) := by
  apply appendText_started present
  rw [← slots.text, present]
  rfl

theorem appendText_absent {self : ChatSseToResponses} (slots : Slots self)
    (absent : self.messageIndex = none) (delta : String) :
    told (self.appendText delta).events =
        [.outputItemAdded self.output.length self.startedMessage,
          .contentPartAdded self.messageId self.output.length,
          .outputTextDelta self.messageId self.output.length delta] ∧
      ∃ sequence, (self.appendText delta).state =
        { self with
          sequence
          messageIndex := some self.output.length
          output := self.output ++ [self.startedMessage]
          textStarted := true
          text := self.text ++ delta } := by
  have unstarted : self.textStarted = false := by
    rw [← slots.text, absent]
    rfl
  unfold appendText ensureMessage
  rw [absent, Option.isSome_none, if_neg (by decide)]
  simp only [send, startText, sendText, unstarted, Emission.andThen, Bool.false_eq_true, if_false]
  exact ⟨rfl, _, rfl⟩

theorem appendText_slots {self : ChatSseToResponses} (slots : Slots self)
    (started : self.created = true) (delta : String) : Slots (self.appendText delta).state := by
  cases place : self.messageIndex with
  | some i =>
    rw [appendText_present slots place]
    exact slots.same ⟨rfl, fun _ => rfl, rfl, rfl, rfl, id⟩
  | none =>
    obtain ⟨-, sequence, state⟩ := appendText_absent slots place delta
    rw [state]
    refine @Slots.grow self _ slots .message ?_ ?_ ?_ ?_ ?_ ?_ ?_ ?_
    · intro i owns
      rw [Owns, place] at owns
      cases owns
    · simp
    · rfl
    · intro i other different
      cases other with
      | message => exact absurd rfl different
      | tool index => exact Iff.rfl
    · intro i owns
      exact (Option.some.inj owns).symm
    · exact slots.listed
    · rfl
    · intro unstarted
      rw [show self.created = false from unstarted] at started
      cases started

section Tools

variable (crates : Crates)

def announcement (self : ChatSseToResponses) (tool : StreamToolCall) (index : Nat) :
    List ResponseEvent :=
  if tool.emitted then []
  else [.outputItemAdded tool.outputIndex (startedTool crates self.context tool index)]

def fragment (self : ChatSseToResponses) (tool : StreamToolCall) (index : Nat) :
    List ResponseEvent :=
  if byteLength tool.arguments > tool.emittedArgumentsLen then
    [.toolDelta (self.context.isCustom tool.name) (streamToolItemId crates tool index self.context)
      tool.outputIndex (sliceFrom tool.arguments tool.emittedArgumentsLen)]
  else []

def announcedOutput (self : ChatSseToResponses) (tool : StreamToolCall) (index : Nat) :
    List Json :=
  if tool.emitted then self.output
  else self.output.set tool.outputIndex (startedTool crates self.context tool index)

variable {self : ChatSseToResponses} {index : Nat} {tool : StreamToolCall} {force : Bool}
  (known : self.tools.lookup index = some tool)
include known

theorem emitTool_unnamed
    (unnamed : (nameTool crates self.responseId index force tool).name = "" ∨
      (nameTool crates self.responseId index force tool).callId = "") :
    emitTool crates self index force =
      .silent (self.storeTool index (nameTool crates self.responseId index force tool)) := by
  rw [emitTool_known crates known]
  exact if_pos unnamed

theorem emitTool_named
    (named : ¬((nameTool crates self.responseId index force tool).name = "" ∨
      (nameTool crates self.responseId index force tool).callId = "")) :
    told (emitTool crates self index force).events =
        announcement crates self (nameTool crates self.responseId index force tool) index ++
          fragment crates self (nameTool crates self.responseId index force tool) index ∧
      ∃ sequence, (emitTool crates self index force).state =
        { self with
          sequence
          output := announcedOutput crates self
            (nameTool crates self.responseId index force tool) index
          tools := self.tools.insert index
            (StreamToolCall.sent (nameTool crates self.responseId index force tool)) } := by
  rw [emitTool_known crates known]
  dsimp only
  rw [if_neg named]
  generalize nameTool crates self.responseId index force tool = tool
  unfold announcement fragment announcedOutput announceTool sendArguments
  by_cases emitted : tool.emitted = true
  · by_cases more : byteLength tool.arguments > tool.emittedArgumentsLen
    · simp only [emitted, more, if_true, Emission.silent_andThen]
      exact ⟨rfl, _, rfl⟩
    · simp only [emitted, more, if_true, if_false, Emission.silent_andThen]
      exact ⟨rfl, _, rfl⟩
  · by_cases more : byteLength tool.arguments > tool.emittedArgumentsLen
    · simp only [emitted, more, if_true, if_false, Bool.false_eq_true]
      exact ⟨rfl, _, rfl⟩
    · simp only [emitted, more, if_false, Bool.false_eq_true]
      exact ⟨rfl, _, rfl⟩

omit known in
theorem nameTool_outputIndex (responseId : String) (index : Nat) (force : Bool)
    (tool : StreamToolCall) :
    (nameTool crates responseId index force tool).outputIndex = tool.outputIndex := by
  unfold nameTool
  split <;> rfl

omit known in
theorem announcedOutput_length (self : ChatSseToResponses) (tool : StreamToolCall) (index : Nat) :
    (announcedOutput crates self tool index).length = self.output.length := by
  unfold announcedOutput
  split
  · rfl
  · exact List.length_set

end Tools

theorem emitTool_sameSlots (crates : Crates) (self : ChatSseToResponses) (index : Nat)
    (force : Bool) : SameSlots self (emitTool crates self index force).state := by
  cases known : self.tools.lookup index with
  | none =>
    simp only [emitTool, known]
    exact SameSlots.refl self
  | some tool =>
    have index' := nameTool_outputIndex crates self.responseId index force tool
    by_cases unnamed : (nameTool crates self.responseId index force tool).name = "" ∨
        (nameTool crates self.responseId index force tool).callId = ""
    · rw [emitTool_unnamed crates known unnamed]
      exact storeTool_sameSlots known index'
    · obtain ⟨-, sequence, state⟩ := emitTool_named crates known unnamed
      have stored := @storeTool_sameSlots self index tool
        (StreamToolCall.sent (nameTool crates self.responseId index force tool)) known index'
      rw [state]
      exact ⟨rfl, stored.place, announcedOutput_length crates self _ index, rfl, rfl, id⟩

theorem takeDelta_context (self : ChatSseToResponses) (delta : ToolDelta) :
    (self.takeDelta delta).context = self.context := by
  unfold takeDelta extendTool registerTool
  split <;> split <;> rfl

theorem appendToolDelta_named (crates : Crates) {self : ChatSseToResponses} {delta : Json}
    (named : ¬((self.extendedTool (ToolDelta.read delta)).name = "" ∨
      (self.extendedTool (ToolDelta.read delta)).callId = "")) :
    told (appendToolDelta crates self delta).events =
      announcement crates self (self.extendedTool (ToolDelta.read delta))
          (ToolDelta.read delta).index ++
        fragment crates self (self.extendedTool (ToolDelta.read delta))
          (ToolDelta.read delta).index := by
  have taken := takeDelta_lookup self (ToolDelta.read delta)
  have events := (@emitTool_named crates _ _ _ false taken named).1
  unfold announcement fragment at events ⊢
  rw [takeDelta_context] at events
  exact events

theorem completeMessage_absent {self : ChatSseToResponses} (absent : self.messageIndex = none) :
    self.completeMessage = .silent self := by
  simp only [completeMessage, absent]

theorem completeMessage_present {self : ChatSseToResponses} (slots : Slots self) {i : Nat}
    (present : self.messageIndex = some i) :
    told self.completeMessage.events =
        [.outputTextDone self.messageId i self.text, .contentPartDone self.messageId i self.text,
          .outputItemDone i self.completedMessage] ∧
      ∃ sequence, self.completeMessage.state =
        { self with sequence, output := self.output.set i self.completedMessage } := by
  have started : self.textStarted = true := by
    rw [← slots.text, present]
    rfl
  have shape : self.completeMessage = (self.sendTextDone i).andThen fun self =>
      self.sendItemDone i self.completedMessage := by
    simp only [completeMessage, present]
  rw [shape, sendTextDone, if_pos started]
  exact ⟨rfl, _, rfl⟩

theorem completeTool_unknown (crates : Crates) {self : ChatSseToResponses} {index : Nat}
    (unknown : self.tools.lookup index = none) :
    completeTool crates self index = .silent self := by
  simp only [completeTool, unknown]

def closing (slot : Nat) (item : Json) : List ResponseEvent :=
  let isCustom := (item.get "type").bind Json.asStr = some "custom_tool_call"
  [.toolDone isCustom (item.get "id") slot (item.get (if isCustom then "input" else "arguments")),
    .outputItemDone slot item]

theorem completeTool_known (crates : Crates) {self : ChatSseToResponses} {index : Nat}
    {tool : StreamToolCall} (known : self.tools.lookup index = some tool) :
    told (completeTool crates self index).events =
        closing tool.outputIndex (completedTool crates self.context tool index) ∧
      ∃ sequence, (completeTool crates self index).state =
        { self with
          sequence
          output := self.output.set tool.outputIndex
            (completedTool crates self.context tool index) } := by
  simp only [completeTool, known]
  exact ⟨rfl, _, rfl⟩

end CodexGate.Conversion.ChatSseToResponses
