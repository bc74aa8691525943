import CodexGate.Conversion.Frames
import CodexGate.Conversion.Places
import CodexGate.Conversion.Walk

namespace CodexGate.Conversion

open Foundation

namespace ResponseEvent

/-- What the event says of the item at `i` is what `identity` says of it. -/
def Fits (i : Nat) (identity : ItemIdentity) : ResponseEvent → Prop
  | outputItemAdded j item | outputItemDone j item => j = i → itemIdentity item = identity
  | contentPartAdded itemId j | outputTextDelta itemId j _ | toolDelta _ itemId j _
  | outputTextDone itemId j _ | contentPartDone itemId j _ => j = i → identity.id = some (.string itemId)
  | toolDone _ itemId j _ => j = i → identity.id = itemId
  | created _ | inProgress _ | completed _ | error _ | failed _ => True

theorem fits_of_place {event : ResponseEvent} {i : Nat} (elsewhere : event.place ≠ some i)
    (identity : ItemIdentity) : event.Fits i identity := by
  cases event <;> first | trivial | exact fun same => absurd (congrArg some same) elsewhere

end ResponseEvent

/-- Whatever is said of an item that was announced fits its announcement. -/
def ItemsKeepIdentity (events : List ResponseEvent) : Prop :=
  ∀ i item, .outputItemAdded i item ∈ events →
    ∀ event ∈ events, event.Fits i (itemIdentity item)

def messageIdentity (messageId : String) : ItemIdentity :=
  ⟨some (.string messageId), some (.string "message"), none, none⟩

namespace ChatSseToResponses

theorem startedMessage_identity (self : ChatSseToResponses) :
    itemIdentity self.startedMessage = messageIdentity self.messageId := rfl

theorem completedMessage_identity (self : ChatSseToResponses) :
    itemIdentity self.completedMessage = messageIdentity self.messageId := rfl

def AllFit (events : List ResponseEvent) (i : Nat) (identity : ItemIdentity) : Prop :=
  ∀ event ∈ events, event.Fits i identity

theorem AllFit.append {events more : List ResponseEvent} {i : Nat} {identity : ItemIdentity}
    (first : AllFit events i identity) (second : AllFit more i identity) :
    AllFit (events ++ more) i identity := by
  intro event member
  rcases List.mem_append.mp member with member | member
  · exact first event member
  · exact second event member

theorem Untouched.allFit {events : List ResponseEvent} {i : Nat} (untouched : Untouched events i)
    (identity : ItemIdentity) : AllFit events i identity :=
  fun event member => ResponseEvent.fits_of_place (untouched event member) identity

/-- The items that were announced are those of the output, and nothing else was said of them. -/
structure Identified (past : List ResponseEvent) (stream : ChatSseToResponses) : Prop where
  slots : Slots stream
  message : ∀ i, stream.messageIndex = some i → AllFit past i (messageIdentity stream.messageId)
  tool : ∀ index tool, stream.tools.lookup index = some tool → tool.emitted = true →
    tool.name ≠ "" ∧ tool.callId ≠ "" ∧ ∃ item, stream.output[tool.outputIndex]? = some item ∧
      AllFit past tool.outputIndex (itemIdentity item) ∧
      ∃ first, .outputItemAdded tool.outputIndex first ∈ past
  unannounced : ∀ index tool, stream.tools.lookup index = some tool → tool.emitted = false →
    Untouched past tool.outputIndex
  fresh : ∀ i, stream.output.length ≤ i → Untouched past i

theorem Identified.keepIdentity {past : List ResponseEvent} {stream : ChatSseToResponses}
    (identified : Identified past stream) : ItemsKeepIdentity past := by
  intro i item announced
  have below : i < stream.output.length := by
    by_contra outside
    exact identified.fresh i (by omega) _ announced rfl
  obtain ⟨owner, owns⟩ := identified.slots.covered i below
  cases owner with
  | message =>
    have fits := identified.message i owns
    have identity : itemIdentity item = messageIdentity stream.messageId :=
      fits _ announced rfl
    rw [identity]
    exact fits
  | tool index =>
    obtain ⟨tool, known, slot⟩ := lookup_of_place owns
    subst slot
    by_cases emitted : tool.emitted = true
    · obtain ⟨-, -, shown, -, fits, -⟩ := identified.tool index tool known emitted
      have identity : itemIdentity item = itemIdentity shown := fits _ announced rfl
      rw [identity]
      exact fits
    · exact absurd rfl (identified.unannounced index tool known (by simpa using emitted) _ announced)

theorem identified_aboutItems : AboutItems Identified := by
  constructor
  · intro past before after same identified
    refine ⟨identified.slots.same same.sameSlots, ?_, ?_, ?_, ?_⟩
    · intro i present
      rw [same.messageIndex] at present
      rw [same.messageId]
      exact identified.message i present
    · intro index tool known emitted
      rw [same.tools] at known
      rw [same.output]
      exact identified.tool index tool known emitted
    · intro index tool known silent
      rw [same.tools] at known
      exact identified.unannounced index tool known silent
    · intro i outside
      rw [same.output] at outside
      exact identified.fresh i outside
  · intro past before after first second adopts identified
    have opening : ∀ i, Untouched [.created first, .inProgress second] i := by
      intro i event member
      simp only [List.mem_cons, List.not_mem_nil, or_false] at member
      rcases member with same | same
      · rw [same]
        exact fun none => by cases none
      · rw [same]
        exact fun none => by cases none
    refine ⟨identified.slots.same adopts.sameSlots, ?_, ?_, ?_, ?_⟩
    · intro i present
      rw [adopts.messageIndex, identified.slots.started adopts.unstarted] at present
      cases present
    · intro index tool known emitted
      rw [adopts.tools] at known
      rw [adopts.output]
      obtain ⟨name, callId, item, shown, fits, announced⟩ :=
        identified.tool index tool known emitted
      obtain ⟨announcement, told⟩ := announced
      exact ⟨name, callId, item, shown, fits.append ((opening _).allFit _), announcement,
        List.mem_append_left _ told⟩
    · intro index tool known silent
      rw [adopts.tools] at known
      exact (identified.unannounced index tool known silent).append (opening _)
    · intro i outside
      rw [adopts.output] at outside
      exact (identified.fresh i outside).append (opening _)

theorem Identified.tellOther {past : List ResponseEvent} {self : ChatSseToResponses}
    {event : ResponseEvent} (identified : Identified past self) (other : event.place = none) :
    Identified (past ++ [event]) self := by
  have apart : ∀ i, Untouched [event] i := by
    intro i event member
    rw [List.mem_singleton.mp member, other]
    exact fun same => by cases same
  refine ⟨identified.slots, ?_, ?_, ?_, ?_⟩
  · intro i present
    exact (identified.message i present).append ((apart i).allFit _)
  · intro index tool known emitted
    obtain ⟨name, callId, item, shown, fit, first, told⟩ :=
      identified.tool index tool known emitted
    exact ⟨name, callId, item, shown, fit.append ((apart _).allFit _), first,
      List.mem_append_left _ told⟩
  · intro index tool known silent
    exact (identified.unannounced index tool known silent).append (apart _)
  · intro i outside
    exact (identified.fresh i outside).append (apart i)

theorem Identified.tellMessage {past more : List ResponseEvent} {self : ChatSseToResponses} {i : Nat}
    (identified : Identified past self) (present : self.messageIndex = some i)
    (only : OnlyAt more i) (fits : AllFit more i (messageIdentity self.messageId)) :
    Identified (past ++ more) self := by
  have slots := identified.slots
  refine ⟨slots, ?_, ?_, ?_, ?_⟩
  · intro j place
    rw [present] at place
    cases place
    exact (identified.message i present).append fits
  · intro index tool known emitted
    obtain ⟨name, callId, item, shown, fit, first, told⟩ :=
      identified.tool index tool known emitted
    have apart := only.untouched (slots.tool_ne_message present known)
    exact ⟨name, callId, item, shown, fit.append (apart.allFit _), first,
      List.mem_append_left _ told⟩
  · intro index tool known silent
    exact (identified.unannounced index tool known silent).append
      (only.untouched (slots.tool_ne_message present known))
  · intro j outside
    have below := slots.message_below present
    exact (identified.fresh j outside).append (only.untouched (by omega))

theorem appendText_identified {past : List SentEvent} {self : ChatSseToResponses}
    (identified : Identified (told past) self) (started : self.created = true) (content : String) :
    (self.appendText content).Reaches past (Told Identified) := by
  have slots := identified.slots
  have grown := appendText_slots slots started content
  rw [Emission.Reaches, Told, told_append]
  cases place : self.messageIndex with
  | some i =>
    rw [appendText_present slots place]
    have tells := @Identified.tellMessage _ [.outputTextDelta self.messageId i content] _ _
      identified place (by simp [OnlyAt, ResponseEvent.place])
      (by simp [AllFit, ResponseEvent.Fits, messageIdentity])
    exact ⟨slots.same ⟨rfl, fun _ => rfl, rfl, rfl, rfl, id⟩, tells.message, tells.tool,
      tells.unannounced, tells.fresh⟩
  | none =>
    obtain ⟨events, sequence, state⟩ := appendText_absent slots place content
    rw [state] at grown ⊢
    rw [events]
    have only := startedText_onlyAt self content
    refine ⟨grown, ?_, ?_, ?_, ?_⟩
    · intro i present
      cases present
      apply ((identified.fresh _ (Nat.le_refl _)).allFit _).append
      simp [AllFit, ResponseEvent.Fits, startedMessage_identity, messageIdentity]
    · intro index tool known emitted
      obtain ⟨name, callId, item, shown, fit, first, told⟩ :=
        identified.tool index tool known emitted
      have below := slots.tool_below known
      have apart := only.untouched (j := tool.outputIndex) (by omega)
      refine ⟨name, callId, item, ?_, fit.append (apart.allFit _), first,
        List.mem_append_left _ told⟩
      rw [List.getElem?_append_left below]
      exact shown
    · intro index tool known silent
      have below := slots.tool_below known
      exact (identified.unannounced index tool known silent).append (only.untouched (by omega))
    · intro i outside
      rw [List.length_append, List.length_singleton] at outside
      exact (identified.fresh i (by omega)).append (only.untouched (by omega))

theorem registerTool_identified {past : List ResponseEvent} {self : ChatSseToResponses}
    (identified : Identified past self) (index : Nat) :
    Identified past (self.registerTool index) := by
  have grown := registerTool_slots identified.slots index
  cases known : self.tools.lookup index with
  | some tool =>
    rw [registerTool_known known]
    exact identified
  | none =>
    rw [registerTool_fresh known] at grown ⊢
    refine ⟨grown, identified.message, ?_, ?_, ?_⟩
    · intro other tool found emitted
      by_cases same : other = index
      · subst same
        rw [AList.lookup_insert] at found
        cases found
        cases emitted
      · rw [AList.lookup_insert_ne same] at found
        have below := identified.slots.tool_below found
        obtain ⟨name, callId, item, shown, fit, told⟩ := identified.tool other tool found emitted
        refine ⟨name, callId, item, ?_, fit, told⟩
        rw [List.getElem?_append_left below]
        exact shown
    · intro other tool found silent
      by_cases same : other = index
      · subst same
        rw [AList.lookup_insert] at found
        cases found
        exact identified.fresh _ (Nat.le_refl _)
      · rw [AList.lookup_insert_ne same] at found
        exact identified.unannounced other tool found silent
    · intro i outside
      rw [List.length_append, List.length_singleton] at outside
      exact identified.fresh i (by omega)

theorem storeTool_identified {past : List ResponseEvent} {self : ChatSseToResponses} {index : Nat}
    {tool stored : StreamToolCall} (identified : Identified past self)
    (known : self.tools.lookup index = some tool) (slot : stored.outputIndex = tool.outputIndex)
    (emitted : stored.emitted = tool.emitted) (name : tool.name ≠ "" → stored.name ≠ "")
    (callId : tool.callId ≠ "" → stored.callId ≠ "") :
    Identified past (self.storeTool index stored) := by
  refine ⟨identified.slots.same (storeTool_sameSlots known slot), identified.message, ?_, ?_,
    identified.fresh⟩
  · intro other found looked out
    by_cases same : other = index
    · subst same
      rw [storeTool_lookup_self] at looked
      cases looked
      rw [slot]
      obtain ⟨named, called, rest⟩ := identified.tool other tool known (emitted.symm.trans out)
      exact ⟨name named, callId called, rest⟩
    · rw [storeTool_lookup_ne self stored same] at looked
      exact identified.tool other found looked out
  · intro other found looked silent
    by_cases same : other = index
    · subst same
      rw [storeTool_lookup_self] at looked
      cases looked
      rw [slot]
      exact identified.unannounced other tool known (emitted.symm.trans silent)
    · rw [storeTool_lookup_ne self stored same] at looked
      exact identified.unannounced other found looked silent

theorem takeDelta_identified {past : List ResponseEvent} {self : ChatSseToResponses}
    (identified : Identified past self) (delta : ToolDelta) :
    Identified past (self.takeDelta delta) := by
  have registered := registerTool_identified identified delta.index
  unfold takeDelta extendTool
  cases known : (self.registerTool delta.index).tools.lookup delta.index with
  | none => exact registered
  | some tool =>
    exact storeTool_identified registered known rfl rfl (append_ne_empty delta.name)
      (append_ne_empty delta.callId)

section Tools

variable (crates : Crates)

theorem streamToolItemId_eq (tool : StreamToolCall) (index : Nat) (context : ConversionContext) :
    streamToolItemId crates tool index context =
      toolItemId crates context tool.callId tool.name := by
  have identity := congrArg ItemIdentity.id
    (responseToolItem_identity crates context tool.callId tool.name tool.arguments index)
  have read : (responseToolItem crates (chatToolCall tool.callId tool.name tool.arguments) index
      context).get "id" = some (.string (toolItemId crates context tool.callId tool.name)) := identity
  rw [streamToolItemId, read, Option.bind_some, Json.asStr_string, Option.getD_some]

/-- Arguments that are still to be sent of an announced tool go out under the announced id. -/
def KeepsItemId (self : ChatSseToResponses) (tool : StreamToolCall) : Prop :=
  tool.emitted = true → byteLength tool.arguments > tool.emittedArgumentsLen →
    ∀ item, self.output[tool.outputIndex]? = some item →
      item.get "id" = some (.string (toolItemId crates self.context tool.callId tool.name))

theorem fragment_allFit (self : ChatSseToResponses) (tool : StreamToolCall) (index : Nat)
    {identity : ItemIdentity}
    (same : byteLength tool.arguments > tool.emittedArgumentsLen →
      identity.id = some (.string (toolItemId crates self.context tool.callId tool.name))) :
    AllFit (fragment crates self tool index) tool.outputIndex identity := by
  unfold fragment
  split
  · next more =>
    intro event member
    rw [List.mem_singleton.mp member, ResponseEvent.Fits, streamToolItemId_eq]
    exact fun _ => same more
  · intro event member
    cases member

theorem Identified.emitted {past : List ResponseEvent} {self : ChatSseToResponses} {index : Nat}
    {tool named : StreamToolCall} (identified : Identified past self)
    (known : self.tools.lookup index = some tool) (slot : named.outputIndex = tool.outputIndex)
    (out : named.emitted = tool.emitted) (keeps : KeepsItemId crates self named) :
    ∃ item, (announcedOutput crates self named index)[named.outputIndex]? = some item ∧
      AllFit (past ++ (announcement crates self named index ++ fragment crates self named index))
        named.outputIndex (itemIdentity item) ∧
      ∃ first, .outputItemAdded named.outputIndex first ∈
        past ++ (announcement crates self named index ++ fragment crates self named index) := by
  by_cases emitted : tool.emitted = true
  · have named' : named.emitted = true := out.trans emitted
    obtain ⟨-, -, item, shown, fit, first, told⟩ := identified.tool index tool known emitted
    rw [← slot] at shown fit told
    refine ⟨item, ?_, fit.append (AllFit.append ?_ (fragment_allFit crates self named index ?_)),
      first, List.mem_append_left _ told⟩
    · rw [announcedOutput, if_pos named']
      exact shown
    · rw [announcement, if_pos named']
      exact fun event member => by cases member
    · intro more
      exact keeps named' more item shown
  · have unnamed : ¬named.emitted = true := by rw [out]; exact emitted
    have below := identified.slots.tool_below known
    have untouched := identified.unannounced index tool known (by simpa using emitted)
    rw [← slot] at below untouched
    refine ⟨startedTool crates self.context named index, ?_, (untouched.allFit _).append
      (AllFit.append ?_ (fragment_allFit crates self named index ?_)),
      startedTool crates self.context named index, ?_⟩
    · rw [announcedOutput, if_neg unnamed, List.getElem?_set_self below]
    · rw [announcement, if_neg unnamed]
      intro event member
      rw [List.mem_singleton.mp member]
      exact fun _ => rfl
    · intro _
      rw [startedTool_identity]
      rfl
    · rw [announcement, if_neg unnamed]
      simp

theorem emitTool_identified {past : List SentEvent} {self : ChatSseToResponses} {index : Nat}
    {tool : StreamToolCall} {force : Bool} (identified : Identified (told past) self)
    (known : self.tools.lookup index = some tool)
    (keeps : KeepsItemId crates self (nameTool crates self.responseId index force tool)) :
    (emitTool crates self index force).Reaches past (Told Identified) := by
  have slot := nameTool_outputIndex crates self.responseId index force tool
  have out : (nameTool crates self.responseId index force tool).emitted = tool.emitted := by
    unfold nameTool
    split <;> rfl
  have name : tool.name ≠ "" → (nameTool crates self.responseId index force tool).name ≠ "" := by
    intro written
    unfold nameTool
    split
    · simp [written]
    · exact written
  have callId : tool.callId ≠ "" →
      (nameTool crates self.responseId index force tool).callId ≠ "" := by
    intro written
    unfold nameTool
    split
    · simp [written]
    · exact written
  by_cases unnamed : (nameTool crates self.responseId index force tool).name = "" ∨
      (nameTool crates self.responseId index force tool).callId = ""
  · rw [emitTool_unnamed crates known unnamed]
    exact Emission.reaches_silent (storeTool_identified identified known slot out name callId)
  · obtain ⟨events, sequence, state⟩ := emitTool_named crates known unnamed
    have same := emitTool_sameSlots crates self index force
    revert keeps slot out unnamed events state
    generalize nameTool crates self.responseId index force tool = named
    intro keeps slot out unnamed events state
    obtain ⟨item, shown, fit, announced⟩ :=
      identified.emitted crates known slot out keeps
    have only := (announcement_onlyAt crates self named index).append
      (fragment_onlyAt crates self named index)
    rw [slot] at only
    have slots := identified.slots
    rw [Emission.Reaches, Told, told_append, events]
    rw [state] at same ⊢
    refine ⟨slots.same same, ?_, ?_, ?_, ?_⟩
    · intro i present
      exact (identified.message i present).append
        ((only.untouched (slots.tool_ne_message present known).symm).allFit _)
    · intro other found looked _
      by_cases itself : other = index
      · subst itself
        rw [AList.lookup_insert] at looked
        cases looked
        rw [not_or] at unnamed
        exact ⟨unnamed.1, unnamed.2, item, shown, fit, announced⟩
      · rw [AList.lookup_insert_ne itself] at looked
        have apart := slots.tool_ne_tool known looked itself
        obtain ⟨named', called, item, shown, fit, first, told⟩ :=
          identified.tool other found looked (by assumption)
        refine ⟨named', called, item, ?_, fit.append ((only.untouched apart).allFit _), first,
          List.mem_append_left _ told⟩
        rw [announcedOutput_getElem crates self named index (by rw [slot]; exact apart)]
        exact shown
    · intro other found looked silent
      by_cases itself : other = index
      · subst itself
        rw [AList.lookup_insert] at looked
        cases looked
        cases silent
      · rw [AList.lookup_insert_ne itself] at looked
        exact (identified.unannounced other found looked silent).append
          (only.untouched (slots.tool_ne_tool known looked itself))
    · intro i outside
      rw [announcedOutput_length] at outside
      have below := slots.tool_below known
      exact (identified.fresh i outside).append (only.untouched (by omega))

def Agreed (self : ChatSseToResponses) : Prop :=
  ∀ index tool, self.tools.lookup index = some tool → tool.emitted = true →
    ∀ item, self.output[tool.outputIndex]? = some item →
      itemIdentity item = toolIdentity crates self.context tool.callId tool.name

theorem forceTool_identified {past : List SentEvent} {self : ChatSseToResponses}
    (identified : Identified (told past) self) (agreed : Agreed crates self) (index : Nat) :
    (emitTool crates self index true).Reaches past
      (Told fun past self => Identified past self ∧ Agreed crates self) := by
  cases known : self.tools.lookup index with
  | none =>
    simp only [emitTool, known]
    exact Emission.reaches_silent ⟨identified, agreed⟩
  | some tool =>
    have settled : tool.emitted = true →
        nameTool crates self.responseId index true tool = tool := by
      intro emitted
      obtain ⟨name, callId, -⟩ := identified.tool index tool known emitted
      exact nameTool_named crates _ _ _ name callId
    have keeps : KeepsItemId crates self (nameTool crates self.responseId index true tool) := by
      by_cases emitted : tool.emitted = true
      · rw [settled emitted]
        intro _ _ item shown
        exact congrArg ItemIdentity.id (agreed index tool known emitted item shown)
      · intro out
        unfold nameTool at out
        exact absurd out emitted
    have identity := emitTool_identified crates identified known keeps
    refine ⟨identity, ?_⟩
    obtain ⟨-, sequence, state⟩ := emitTool_named crates known (forced_named crates _ index tool)
    rw [state]
    intro other found looked out item shown
    by_cases itself : other = index
    · subst itself
      rw [AList.lookup_insert] at looked
      cases looked
      by_cases emitted : tool.emitted = true
      · rw [settled emitted] at shown ⊢
        dsimp only [announcedOutput, StreamToolCall.sent] at shown
        rw [if_pos emitted] at shown
        exact agreed other tool known emitted item shown
      · have unnamed : ¬(nameTool crates self.responseId other true tool).emitted = true := emitted
        have below := identified.slots.tool_below known
        dsimp only [announcedOutput, StreamToolCall.sent] at shown
        rw [if_neg unnamed, List.getElem?_set_self (by exact below)] at shown
        cases shown
        exact startedTool_identity crates _ _ _
    · rw [AList.lookup_insert_ne itself] at looked
      have apart := identified.slots.tool_ne_tool known looked itself
      dsimp only at shown
      rw [announcedOutput_getElem crates self _ index (by exact apart)] at shown
      exact agreed other found looked out item shown

/-- All tools are announced, and every announcement says what its tool has become. -/
structure Settled (past : List ResponseEvent) (stream : ChatSseToResponses) : Prop where
  identified : Identified past stream
  agreed : Agreed crates stream
  out : ∀ index tool, stream.tools.lookup index = some tool → tool.emitted = true

theorem Settled.same {past : List ResponseEvent} {before after : ChatSseToResponses}
    (settled : Settled crates past before) (same : SameContent before after) :
    Settled crates past after := by
  refine ⟨identified_aboutItems.same past before after same settled.identified, ?_, ?_⟩
  · intro index tool known emitted item shown
    rw [same.tools] at known
    rw [same.output] at shown
    rw [same.context]
    exact settled.agreed index tool known emitted item shown
  · intro index tool known
    rw [same.tools] at known
    exact settled.out index tool known

theorem Settled.replace {past : List ResponseEvent} {self : ChatSseToResponses}
    (settled : Settled crates past self) {slot : Nat} {item : Json}
    (same : ∀ index tool, self.tools.lookup index = some tool → tool.outputIndex = slot →
      itemIdentity item = toolIdentity crates self.context tool.callId tool.name) :
    Settled crates past { self with output := self.output.set slot item } := by
  have shown : ∀ index tool found, self.tools.lookup index = some tool →
      self.output[tool.outputIndex]? = some found →
      ∃ stands, (self.output.set slot item)[tool.outputIndex]? = some stands ∧
        itemIdentity stands = itemIdentity found := by
    intro index tool found known shown
    by_cases here : slot = tool.outputIndex
    · have below := settled.identified.slots.tool_below known
      refine ⟨item, by rw [here, List.getElem?_set_self below], ?_⟩
      rw [same index tool known here.symm]
      exact (settled.agreed index tool known (settled.out index tool known) found shown).symm
    · exact ⟨found, by rw [List.getElem?_set_ne here]; exact shown, rfl⟩
  have identified := settled.identified
  refine ⟨⟨identified.slots.same ⟨rfl, fun _ => rfl, List.length_set, rfl, rfl, id⟩,
    identified.message, ?_, identified.unannounced, ?_⟩, ?_, settled.out⟩
  · intro index tool known emitted
    obtain ⟨name, callId, found, stood, fit, announced⟩ :=
      identified.tool index tool known emitted
    obtain ⟨stands, there, equal⟩ := shown index tool found known stood
    exact ⟨name, callId, stands, there, by rw [equal]; exact fit, announced⟩
  · intro i outside
    rw [List.length_set] at outside
    exact identified.fresh i outside
  · intro index tool known emitted stands there
    obtain ⟨-, -, found, stood, -⟩ := identified.tool index tool known emitted
    obtain ⟨other, also, equal⟩ := shown index tool found known stood
    rw [also] at there
    cases there
    rw [equal]
    exact settled.agreed index tool known emitted found stood

theorem Identified.tellTool {past more : List ResponseEvent} {self : ChatSseToResponses}
    {index : Nat} {tool : StreamToolCall} {item : Json} (identified : Identified past self)
    (known : self.tools.lookup index = some tool) (out : tool.emitted = true)
    (shown : self.output[tool.outputIndex]? = some item) (only : OnlyAt more tool.outputIndex)
    (fits : AllFit more tool.outputIndex (itemIdentity item)) :
    Identified (past ++ more) self := by
  have slots := identified.slots
  refine ⟨slots, ?_, ?_, ?_, ?_⟩
  · intro i present
    exact (identified.message i present).append
      ((only.untouched (slots.tool_ne_message present known).symm).allFit _)
  · intro other found looked emitted
    obtain ⟨name, callId, stands, there, fit, first, told⟩ :=
      identified.tool other found looked emitted
    refine ⟨name, callId, stands, there, fit.append ?_, first, List.mem_append_left _ told⟩
    by_cases itself : other = index
    · subst itself
      rw [known] at looked
      cases looked
      rw [shown] at there
      cases there
      exact fits
    · exact (only.untouched (slots.tool_ne_tool known looked itself)).allFit _
  · intro other found looked silent
    have different : other ≠ index := by
      intro itself
      subst itself
      rw [known] at looked
      cases looked
      rw [out] at silent
      cases silent
    exact (identified.unannounced other found looked silent).append
      (only.untouched (slots.tool_ne_tool known looked different))
  · intro i outside
    have below := slots.tool_below known
    exact (identified.fresh i outside).append (only.untouched (by omega))

theorem completeMessage_settled {past : List SentEvent} {self : ChatSseToResponses}
    (settled : Settled crates (told past) self) :
    self.completeMessage.Reaches past (Told (Settled crates)) := by
  cases place : self.messageIndex with
  | none =>
    rw [completeMessage_absent place]
    exact Emission.reaches_silent settled
  | some i =>
    have slots := settled.identified.slots
    obtain ⟨events, sequence, state⟩ := completeMessage_present slots place
    have tells := settled.identified.tellMessage place
      (show OnlyAt (told self.completeMessage.events) i by
        rw [events]
        simp [OnlyAt, ResponseEvent.place])
      (show AllFit (told self.completeMessage.events) i _ by
        rw [events]
        simp [AllFit, ResponseEvent.Fits, completedMessage_identity, messageIdentity])
    have replaced := @Settled.replace crates _ self ⟨tells, settled.agreed, settled.out⟩
      i self.completedMessage (by
        intro index tool known here
        exact absurd here.symm (slots.tool_ne_message place known))
    rw [Emission.Reaches, Told, told_append, state]
    exact replaced.same crates ⟨rfl, rfl, rfl, rfl, rfl, rfl, rfl, rfl, id⟩

theorem completeTool_settled {past : List SentEvent} {self : ChatSseToResponses}
    (settled : Settled crates (told past) self) (index : Nat) :
    (completeTool crates self index).Reaches past (Told (Settled crates)) := by
  cases known : self.tools.lookup index with
  | none =>
    rw [completeTool_unknown crates known]
    exact Emission.reaches_silent settled
  | some tool =>
    have slots := settled.identified.slots
    have out := settled.out index tool known
    have identity := completedTool_identity crates self.context tool index
    obtain ⟨-, -, item, shown, -⟩ := settled.identified.tool index tool known out
    have stood := settled.agreed index tool known out item shown
    obtain ⟨events, sequence, state⟩ := completeTool_known crates known
    have tells := settled.identified.tellTool known out shown
      (show OnlyAt (told (completeTool crates self index).events) tool.outputIndex by
        rw [events]
        simp [OnlyAt, closing, ResponseEvent.place])
      (show AllFit (told (completeTool crates self index).events) tool.outputIndex _ by
        rw [events, stood, ← identity]
        simp [AllFit, closing, ResponseEvent.Fits, itemIdentity])
    have replaced := @Settled.replace crates _ self ⟨tells, settled.agreed, settled.out⟩
      tool.outputIndex (completedTool crates self.context tool index) (by
        intro other found looked here
        by_cases itself : other = index
        · subst itself
          rw [known] at looked
          cases looked
          exact identity
        · exact absurd here.symm (slots.tool_ne_tool known looked itself))
    rw [Emission.Reaches, Told, told_append, state]
    exact replaced.same crates ⟨rfl, rfl, rfl, rfl, rfl, rfl, rfl, rfl, id⟩

theorem emitTool_out (self : ChatSseToResponses) (index other : Nat)
    (out : ∀ tool, self.tools.lookup other = some tool → tool.emitted = true ∨ other = index) :
    ∀ tool, (emitTool crates self index true).state.tools.lookup other = some tool →
      tool.emitted = true := by
  intro tool looked
  cases known : self.tools.lookup index with
  | none =>
    simp only [emitTool, known, Emission.silent_state] at looked
    rcases out tool looked with emitted | itself
    · exact emitted
    · subst itself
      rw [known] at looked
      cases looked
  | some found =>
    obtain ⟨-, sequence, state⟩ := emitTool_named crates known (forced_named crates _ index found)
    rw [state] at looked
    by_cases itself : other = index
    · subst itself
      rw [AList.lookup_insert] at looked
      cases looked
      rfl
    · rw [AList.lookup_insert_ne itself] at looked
      rcases out tool looked with emitted | same
      · exact emitted
      · exact absurd same itself

theorem forceTools_settled {past : List SentEvent} {self : ChatSseToResponses}
    (identified : Identified (told past) self) (agreed : Agreed crates self) :
    (Emission.forEach (fun self index => emitTool crates self index true) self
      self.toolOrder).Reaches past (Told (Settled crates)) := by
  have looped := @Emission.reaches_forEach_each _ _ _
    (fun past next => (Identified (told past) next ∧ Agreed crates next) ∧
      next.toolOrder = self.toolOrder) past self
    (fun self index => emitTool crates self index true)
    (fun index _ next => ∀ tool, next.tools.lookup index = some tool → tool.emitted = true)
    self.toolOrder ?_ ?_ ?_ ⟨⟨identified, agreed⟩, rfl⟩
  · apply looped.weaken
    intro past next reached
    obtain ⟨⟨⟨identified, agreed⟩, order⟩, out⟩ := reached
    refine ⟨identified, agreed, fun index tool known => out index ?_ tool known⟩
    rw [← order]
    apply (identified.slots.listed index).mpr
    rw [place_of_lookup known]
    exact Option.some_ne_none _
  · intro past next index holds
    refine ⟨forceTool_identified crates holds.1.1 holds.1.2 index, ?_⟩
    rw [(emitTool_sameSlots crates next index true).order]
    exact holds.2
  · intro past next index _
    exact emitTool_out crates next index index fun _ _ => .inr rfl
  · intro past next index other _ out
    exact emitTool_out crates next index other fun tool known => .inl (out tool known)

theorem complete_identified {past : List SentEvent} {self : ChatSseToResponses}
    (identified : Identified (told past) self) (agreed : self.terminal = false → Agreed crates self) :
    (complete crates self).Reaches past (Told Identified) := by
  by_cases ended : self.terminal = true
  · rw [complete, if_pos ended]
    exact Emission.reaches_silent identified
  · rw [complete, if_neg ended]
    have forced := forceTools_settled crates identified (agreed (by simpa using ended))
    refine Emission.Reaches.andThen (Q := Told (Settled crates)) ?_ ?_
    · refine Emission.Reaches.andThen (Q := Told (Settled crates)) ?_ ?_
      · refine Emission.Reaches.andThen forced ?_
        intro past self settled
        exact completeMessage_settled crates settled
      · intro past self settled
        apply Emission.reaches_forEach _ settled
        intro past self index _ settled
        exact completeTool_settled crates settled index
    · intro past self settled
      have sent := settled.identified.tellOther (show (ResponseEvent.completed
        (responseSnapshot { self with terminal := true }
          (finalStatus self.finishReason))).place = none from rfl)
      rw [Emission.Reaches, Told, told_append]
      exact identified_aboutItems.same _ self _ ⟨rfl, rfl, rfl, rfl, rfl, rfl, rfl, rfl, id⟩ sent

theorem fail_identified {past : List SentEvent} {self : ChatSseToResponses}
    (identified : Identified (told past) self) (message : String) :
    (self.fail message).Reaches past (Told Identified) := by
  apply fail_about identified_aboutItems _ _ identified message
  · intro past self message identified
    exact identified.tellOther rfl
  · intro past self response identified
    exact identified.tellOther rfl

/-- What a frame may do to the items: the arguments that a delta brings to an announced tool go
out under its id, and a completion finds the announced tools as they were announced. -/
def KeepsIdentity (self : ChatSseToResponses) : Frame → Prop
  | .done => self.terminal = false → Agreed crates self
  | .chunk chunk => ∀ choice members, firstChoice chunk = some choice →
      choice.get "delta" = some (.object members) →
      Emission.Along (appendToolDelta crates)
        (fun self delta => KeepsItemId crates self (self.extendedTool (ToolDelta.read delta)))
        (beforeTools crates self chunk choice (.object members)).state
        (toolCalls (.object members))
  | .failure _ | .ignored => True

theorem appendToolDelta_identified {past : List SentEvent} {self : ChatSseToResponses}
    (identified : Identified (told past) self) {delta : Json}
    (keeps : KeepsItemId crates self (self.extendedTool (ToolDelta.read delta))) :
    (appendToolDelta crates self delta).Reaches past (Told Identified) := by
  have taken := takeDelta_identified identified (ToolDelta.read delta)
  have known := takeDelta_lookup self (ToolDelta.read delta)
  apply emitTool_identified crates taken known
  intro emitted more item shown
  obtain ⟨tool, stood, -⟩ := extendedTool_known emitted
  rw [takeDelta_known stood] at shown ⊢
  exact keeps emitted more item shown

theorem processFrame_identified {past : List SentEvent} {self : ChatSseToResponses}
    (identified : Identified (told past) self) {frame : Frame}
    (keeps : KeepsIdentity crates self frame) :
    (processFrame crates self frame).Reaches past (Told Identified) := by
  cases frame with
  | ignored => exact Emission.reaches_silent identified
  | failure message => exact fail_identified identified message
  | done =>
    have marked : Identified (told past) { self with sawDone := true } :=
      identified_aboutItems.same _ self _ ⟨rfl, rfl, rfl, rfl, rfl, rfl, rfl, rfl, id⟩ identified
    exact complete_identified crates marked keeps
  | chunk chunk =>
    apply processChunk_about crates identified_aboutItems _ _ identified
    · intro choice members _ _ past self content _ identified started
      exact appendText_identified identified started content
    · intro choice members past chosen delta identified
      apply Emission.reaches_forEach_along _ (keeps choice members chosen delta) identified
      intro past self delta identified keeps
      exact appendToolDelta_identified crates identified keeps

def Mistaken (past : List SentEvent) : Prop := ¬ItemsKeepIdentity (told past)

theorem Mistaken.append {past : List SentEvent} (mistaken : Mistaken past) (more : List SentEvent) :
    Mistaken (past ++ more) := by
  intro keep
  apply mistaken
  rw [told_append] at keep
  intro i item announced event member
  exact keep i item (List.mem_append_left _ announced) event (List.mem_append_left _ member)

theorem Identified.mistaken {past : List SentEvent} {self : ChatSseToResponses} {index : Nat}
    {tool : StreamToolCall} {item : Json} (identified : Identified (told past) self)
    (known : self.tools.lookup index = some tool) (emitted : tool.emitted = true)
    (shown : self.output[tool.outputIndex]? = some item) {sent : SentEvent}
    {more : List SentEvent} (member : sent ∈ more)
    (misfit : ¬sent.event.Fits tool.outputIndex (itemIdentity item)) : Mistaken (past ++ more) := by
  intro keep
  obtain ⟨-, -, stands, there, fit, first, announced⟩ := identified.tool index tool known emitted
  rw [shown] at there
  cases there
  have identity : itemIdentity first = itemIdentity item := fit _ announced rfl
  rw [told_append] at keep
  have fits := keep tool.outputIndex first (List.mem_append_left _ announced) sent.event
    (List.mem_append_right _ (List.mem_map_of_mem member))
  rw [identity] at fits
  exact misfit fits

theorem appendToolDelta_mistaken {past : List SentEvent} {self : ChatSseToResponses}
    (identified : Identified (told past) self) {delta : Json}
    (loses : ¬KeepsItemId crates self (self.extendedTool (ToolDelta.read delta))) :
    Mistaken (past ++ (appendToolDelta crates self delta).events) := by
  simp only [KeepsItemId, not_forall] at loses
  obtain ⟨emitted, more, item, shown, differs⟩ := loses
  obtain ⟨tool, known, out, extended⟩ := extendedTool_known emitted
  obtain ⟨name, callId, -⟩ := identified.tool _ tool known out
  have named : ¬((self.extendedTool (ToolDelta.read delta)).name = "" ∨
      (self.extendedTool (ToolDelta.read delta)).callId = "") := by
    rw [extended, not_or]
    exact ⟨append_ne_empty _ name, append_ne_empty _ callId⟩
  have events := appendToolDelta_named crates named
  rw [announcement, if_pos emitted, List.nil_append, fragment, if_pos more,
    streamToolItemId_eq] at events
  have sent := List.mem_singleton_self (ResponseEvent.toolDelta
    (self.context.isCustom (self.extendedTool (ToolDelta.read delta)).name)
    (toolItemId crates self.context (self.extendedTool (ToolDelta.read delta)).callId
      (self.extendedTool (ToolDelta.read delta)).name)
    (self.extendedTool (ToolDelta.read delta)).outputIndex
    (sliceFrom (self.extendedTool (ToolDelta.read delta)).arguments
      (self.extendedTool (ToolDelta.read delta)).emittedArgumentsLen))
  rw [← events] at sent
  obtain ⟨event, member, same⟩ := List.mem_map.mp sent
  have slot : (self.extendedTool (ToolDelta.read delta)).outputIndex = tool.outputIndex := by
    rw [extended]
    rfl
  rw [slot] at shown same
  apply identified.mistaken known out shown member
  rw [same]
  intro fits
  exact differs (fits rfl)

def HasTool (self : ChatSseToResponses) (index slot : Nat) (callId name : String) : Prop :=
  ∃ tool, self.tools.lookup index = some tool ∧ tool.outputIndex = slot ∧ tool.callId = callId ∧
    tool.name = name

theorem forceTool_hasTool {self : ChatSseToResponses} {index slot : Nat} {callId name : String}
    (named : name ≠ "") (called : callId ≠ "") (has : HasTool self index slot callId name)
    (other : Nat) : HasTool (emitTool crates self other true).state index slot callId name := by
  obtain ⟨tool, known, place, id, called'⟩ := has
  cases looked : self.tools.lookup other with
  | none =>
    simp only [emitTool, looked]
    exact ⟨tool, known, place, id, called'⟩
  | some found =>
    obtain ⟨-, sequence, state⟩ := emitTool_named crates looked (forced_named crates _ other found)
    rw [state]
    by_cases itself : index = other
    · subst itself
      rw [known] at looked
      cases looked
      refine ⟨_, AList.lookup_insert _, ?_⟩
      rw [nameTool_named crates _ _ _ (by rw [called']; exact named) (by rw [id]; exact called)]
      exact ⟨place, id, called'⟩
    · refine ⟨tool, ?_, place, id, called'⟩
      rw [← known]
      exact AList.lookup_insert_ne itself

def ToldDone (self : ChatSseToResponses) (slot : Nat) (callId name : String)
    (past : List SentEvent) : Prop :=
  ∃ item, .outputItemDone slot item ∈ told past ∧
    itemIdentity item = toolIdentity crates self.context callId name

theorem ToldDone.append {self : ChatSseToResponses} {slot : Nat} {callId name : String}
    {past : List SentEvent} (done : ToldDone crates self slot callId name past)
    (more : List SentEvent) : ToldDone crates self slot callId name (past ++ more) := by
  obtain ⟨item, member, identity⟩ := done
  refine ⟨item, ?_, identity⟩
  rw [told_append]
  exact List.mem_append_left _ member

theorem complete_tells {self : ChatSseToResponses} (unfinished : self.terminal = false)
    {index slot : Nat} {callId name : String} (listed : index ∈ self.toolOrder)
    (named : name ≠ "") (called : callId ≠ "") (has : HasTool self index slot callId name) :
    ToldDone crates self slot callId name (complete crates self).events := by
  let Keeps := fun (_ : List SentEvent) (next : ChatSseToResponses) =>
    HasTool next index slot callId name ∧ next.context = self.context ∧
      next.toolOrder = self.toolOrder
  have forced : (Emission.forEach (fun self index => emitTool crates self index true) self
      self.toolOrder).Reaches [] Keeps := by
    apply Emission.reaches_forEach _ ⟨has, rfl, rfl⟩
    intro past next other _ keeps
    exact ⟨forceTool_hasTool crates named called keeps.1 other,
      (emitTool_context crates next other true).trans keeps.2.1,
      (emitTool_sameSlots crates next other true).order.trans keeps.2.2⟩
  have message : ∀ past next, Keeps past next → next.completeMessage.Reaches past Keeps := by
    intro past next keeps
    unfold completeMessage
    split
    · exact Emission.reaches_silent keeps
    · unfold sendTextDone
      split <;> exact keeps
  have tool : ∀ past next other, Keeps past next →
      (completeTool crates next other).Reaches past Keeps := by
    intro past next other keeps
    unfold completeTool
    split
    · exact Emission.reaches_silent keeps
    · exact keeps
  have tells : ∀ past next other, Keeps past next → other = index →
      ToldDone crates self slot callId name (past ++ (completeTool crates next other).events) := by
    intro past next other keeps same
    subst same
    obtain ⟨⟨stored, known, place, id, shown⟩, context, -⟩ := keeps
    have events := (completeTool_known crates known).1
    refine ⟨completedTool crates next.context stored other, ?_, ?_⟩
    · rw [told_append, events, closing, ← place]
      simp
    · rw [completedTool_identity, id, shown, context]
  have done := Emission.Reaches.andThen forced message
  have ready : (complete crates self).Reaches []
      (fun past _ => ToldDone crates self slot callId name past) := by
    rw [complete, if_neg (by simp [unfinished])]
    refine Emission.Reaches.andThen
      (Q := fun past _ => ToldDone crates self slot callId name past) ?_ ?_
    · apply Emission.Reaches.andThen done
      intro past next keeps
      rw [keeps.2.2]
      have looped := @Emission.reaches_forEach_each _ _ _ Keeps past next (completeTool crates)
        (fun other past _ => other = index → ToldDone crates self slot callId name past)
        self.toolOrder tool tells (fun past next other _ _ done same => (done same).append crates _)
        keeps
      exact looped.2 index listed rfl
    · intro past next done
      exact done.append crates _
  exact ready

theorem complete_mistaken {past : List SentEvent} {self : ChatSseToResponses}
    (identified : Identified (told past) self) (unfinished : self.terminal = false)
    (differs : ¬Agreed crates self) : Mistaken (past ++ (complete crates self).events) := by
  simp only [Agreed, not_forall] at differs
  obtain ⟨index, tool, known, emitted, item, shown, differs⟩ := differs
  obtain ⟨named, called, -⟩ := identified.tool index tool known emitted
  have listed : index ∈ self.toolOrder := by
    apply (identified.slots.listed index).mpr
    rw [place_of_lookup known]
    exact Option.some_ne_none _
  obtain ⟨done, member, identity⟩ := complete_tells crates unfinished listed named called
    ⟨tool, known, rfl, rfl, rfl⟩
  obtain ⟨sent, sentMember, same⟩ := List.mem_map.mp member
  apply identified.mistaken known emitted shown sentMember
  rw [same]
  intro fits
  exact differs ((fits rfl).symm.trans identity)

theorem processFrame_mistaken {past : List SentEvent} {self : ChatSseToResponses}
    (identified : Identified (told past) self) {frame : Frame}
    (loses : ¬KeepsIdentity crates self frame) :
    Mistaken (past ++ (processFrame crates self frame).events) := by
  cases frame with
  | failure message => exact absurd trivial loses
  | ignored => exact absurd trivial loses
  | done =>
    simp only [KeepsIdentity, Classical.not_imp] at loses
    have marked : Identified (told past) { self with sawDone := true } :=
      identified_aboutItems.same _ self _ ⟨rfl, rfl, rfl, rfl, rfl, rfl, rfl, rfl, id⟩ identified
    exact complete_mistaken crates marked loses.1 loses.2
  | chunk chunk =>
    by_contra unmistaken
    apply loses
    intro choice members chosen delta
    have before := @beforeTools_about crates _ identified_aboutItems past self (.object members)
      (fun _ self content _ identified started =>
        appendText_identified identified started content) identified chunk choice
    rw [processFrame, processChunk_delta crates self chosen delta, Emission.andThen_events,
      ← List.append_assoc] at unmistaken
    refine Emission.along_of_unspoilt (P := Told Identified) ?_ ?_
      (fun _ more mistaken => mistaken.append more) before unmistaken
    · intro past self delta identified keeps
      exact appendToolDelta_identified crates identified keeps
    · intro _ self delta identified loses
      exact appendToolDelta_mistaken crates identified loses

theorem identified_rule : FrameRule crates (KeepsIdentity crates) (Told Identified) where
  input _ self _ _ identified :=
    identified_aboutItems.same _ self _ ⟨rfl, rfl, rfl, rfl, rfl, rfl, rfl, rfl, id⟩ identified
  frame _ _ _ identified keeps := processFrame_identified crates identified keeps
  fail _ _ message identified := fail_identified identified message

theorem new_identified (context : ConversionContext) (maxBytes : Nat) :
    Identified [] (new crates context maxBytes) := by
  refine ⟨new_slots crates context maxBytes, ?_, ?_, ?_, ?_⟩
  · intro i present
    cases present
  · intro index tool known
    cases known
  · intro index tool known
    cases known
  · intro i _ event member
    cases member

/-- The items of a converted stream keep their identity exactly when no delta brings arguments to
an announced tool under another item id, and each announced tool is completed as what it was
announced to be. -/
theorem run_itemIdentity_iff (context : ConversionContext) (maxBytes : Nat)
    (pushes : List (List UInt8)) (ending : Ending) :
    ItemsKeepIdentity (told (run crates context maxBytes pushes ending).events) ↔
      RunMeets crates (KeepsIdentity crates) context maxBytes pushes ending := by
  have fresh := new_identified crates context maxBytes
  constructor
  · intro keep
    refine (identified_rule crates).runMeets ?_ (fun past more (mistaken : Mistaken past) => mistaken.append more)
      fresh (fun mistaken => mistaken keep)
    intro past self frame identified loses
    exact processFrame_mistaken crates identified loses
  · intro meets
    exact Identified.keepIdentity ((identified_rule crates).run_reaches fresh meets).1

end Tools

def toolChunk (id name arguments : String) : String × Json :=
  ("\x7b\"choices\":[\x7b\"delta\":\x7b\"tool_calls\":[\x7b\"index\":0,\"id\":\"" ++ id ++
      "\",\"function\":\x7b\"name\":\"" ++ name ++ "\",\"arguments\":\"" ++ arguments ++
      "\"\x7d\x7d]\x7d\x7d]\x7d",
    .object [("choices", .array [.object [("delta", .object [("tool_calls", .array [.object [
      ("index", .ofNat 0), ("id", .string id), ("function", .object [
        ("name", .string name), ("arguments", .string arguments)])]])])]])])

def twoChunks (first second : String × Json) : List ResponseEvent :=
  told (run (.reading [first, second]) ⟨∅⟩ 4096
    [utf8Bytes ("data: " ++ first.1 ++ "\n\ndata: " ++ second.1 ++ "\n\ndata: [DONE]\n\n")]
    .finish).events

def announcedField (field : String) : ResponseEvent → Option (Nat × String)
  | .outputItemAdded i item => ((item.get field).bind Json.asStr).map fun text => (i, text)
  | _ => none

def finishedField (field : String) : ResponseEvent → Option (Nat × String)
  | .outputItemDone i item => ((item.get field).bind Json.asStr).map fun text => (i, text)
  | _ => none

theorem ItemsKeepIdentity.field {events : List ResponseEvent} (keep : ItemsKeepIdentity events)
    {field first last : String} {i : Nat}
    (identifying : ∀ one other, itemIdentity one = itemIdentity other →
      one.get field = other.get field)
    (announced : ∃ event ∈ events, announcedField field event = some (i, first))
    (finished : ∃ event ∈ events, finishedField field event = some (i, last)) : first = last := by
  obtain ⟨added, addedMember, added'⟩ := announced
  obtain ⟨done, doneMember, done'⟩ := finished
  cases added <;> simp only [announcedField, Option.map_eq_some_iff, Prod.mk.injEq,
    reduceCtorEq] at added'
  next place item =>
    cases done <;> simp only [finishedField, Option.map_eq_some_iff, Prod.mk.injEq,
      reduceCtorEq] at done'
    next place' item' =>
      obtain ⟨text, read, here, same⟩ := added'
      obtain ⟨text', read', here', same'⟩ := done'
      subst here here' same same'
      have fits := keep place' item addedMember _ doneMember rfl
      rw [identifying item' item fits, read] at read'
      exact Option.some.inj read'

set_option maxRecDepth 8000 in
/-- An id that comes in two fragments is announced by the first, and so is a name. -/
theorem run_itemIdentity_fails :
    ¬ItemsKeepIdentity (twoChunks (toolChunk "a" "f" "1") (toolChunk "b" "" "2")) ∧
    ¬ItemsKeepIdentity (twoChunks (toolChunk "a" "f" "1") (toolChunk "" "g" "2")) := by
  constructor
  · intro keep
    have same := @ItemsKeepIdentity.field _ keep "id" "fc_61" "fc_6162" 0
      (fun _ _ same => congrArg ItemIdentity.id same) (by decide) (by decide)
    revert same
    decide
  · intro keep
    have same := @ItemsKeepIdentity.field _ keep "name" "f" "fg" 0
      (fun _ _ same => congrArg ItemIdentity.name same) (by decide) (by decide)
    revert same
    decide

end ChatSseToResponses

end CodexGate.Conversion
