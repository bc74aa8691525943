import CodexGate.Conversion.Frames
import CodexGate.Conversion.Places
import CodexGate.Conversion.Walk

namespace CodexGate.Conversion

open Foundation

namespace ResponseEvent

def deltaAt (i : Nat) : ResponseEvent → String
  | outputTextDelta _ j delta | toolDelta _ _ j delta => if j = i then delta else ""
  | _ => ""

def isDone : ResponseEvent → Bool
  | outputTextDone .. | contentPartDone .. | outputItemDone .. | toolDone .. | completed _ => true
  | _ => false

end ResponseEvent

def deltasAt (events : List ResponseEvent) (i : Nat) : String :=
  events.foldr (fun event rest => event.deltaAt i ++ rest) ""

/-- The text of a message, the arguments of a function call or the input of a custom call. -/
def ItemSays (item : Json) (text : String) : Prop :=
  item.get "type" = some (.string "message") ∧
      item.get "content" = some (.array [outputText text]) ∨
    item.get "type" = some (.string "function_call") ∧
      item.get "arguments" = some (.string text) ∨
    item.get "type" = some (.string "custom_tool_call") ∧ item.get "input" = some (.string text)

namespace ResponseEvent

/-- If the event says that the item at `i` is done, it says so of one with `text`. -/
def Finishes (i : Nat) (text : String) : ResponseEvent → Prop
  | outputTextDone _ j done | contentPartDone _ j done => j = i → done = text
  | toolDone _ _ j payload => j = i → payload = some (.string text)
  | outputItemDone j item => j = i → ItemSays item text
  | _ => True

def Closes (i : Nat) : ResponseEvent → Prop
  | outputTextDone _ j _ | toolDone _ _ j _ => j = i
  | _ => False

end ResponseEvent

/-- In a stream that is completed, the deltas at every place add up to what is said to be done
there, and to the item of the completed response. -/
def DeltaComplete (events : List ResponseEvent) : Prop :=
  ∀ response, .completed response ∈ events → ∀ event ∈ events, ∀ i, event.place = some i →
    (∃ done ∈ events, done.Closes i) ∧
    (∀ done ∈ events, done.Finishes i (deltasAt events i)) ∧
    ∃ output item, response.get "output" = some (.array output) ∧ output[i]? = some item ∧
      ItemSays item (deltasAt events i)

theorem deltasAt_append (events more : List ResponseEvent) (i : Nat) :
    deltasAt (events ++ more) i = deltasAt events i ++ deltasAt more i := by
  induction events with
  | nil => rw [List.nil_append, deltasAt, deltasAt, List.foldr_nil, String.empty_append]
  | cons event rest ih =>
    simp only [deltasAt, List.cons_append, List.foldr_cons] at ih ⊢
    rw [ih, String.append_assoc]

namespace ChatSseToResponses

theorem Untouched.deltasAt {events : List ResponseEvent} {i : Nat}
    (untouched : Untouched events i) : deltasAt events i = "" := by
  induction events with
  | nil => rfl
  | cons event rest ih =>
    have here : event.deltaAt i = "" := by
      have elsewhere := untouched event List.mem_cons_self
      cases event <;> first
        | rfl
        | exact if_neg fun same => elsewhere (congrArg some same)
    have later := ih fun event member => untouched event (List.mem_cons_of_mem _ member)
    rw [Conversion.deltasAt] at later ⊢
    rw [List.foldr_cons, here, later]
    rfl

theorem deltasAt_elsewhere (past : List ResponseEvent) {more : List ResponseEvent} {i : Nat}
    (untouched : Untouched more i) : deltasAt (past ++ more) i = deltasAt past i := by
  rw [deltasAt_append, untouched.deltasAt, String.append_empty]

/-- What was sent of the arguments of a tool is a front part of them. -/
def Owed (sent : String) (tool : StreamToolCall) : Prop :=
  byteLength sent = tool.emittedArgumentsLen ∧ ∃ rest, tool.arguments = sent ++ rest

def NoneDone (events : List ResponseEvent) : Prop := ∀ event ∈ events, event.isDone = false

theorem NoneDone.append {events more : List ResponseEvent} (first : NoneDone events)
    (second : NoneDone more) : NoneDone (events ++ more) := by
  intro event member
  rcases List.mem_append.mp member with member | member
  · exact first event member
  · exact second event member

/-- The deltas sent so far are what the stream has noted of them. -/
structure Balanced (past : List ResponseEvent) (stream : ChatSseToResponses) : Prop where
  slots : Slots stream
  message : ∀ i, stream.messageIndex = some i → deltasAt past i = stream.text
  silent : stream.messageIndex = none → stream.text = ""
  tool : ∀ index tool, stream.tools.lookup index = some tool →
    Owed (deltasAt past tool.outputIndex) tool
  fresh : ∀ i, stream.output.length ≤ i → Untouched past i
  noneDone : NoneDone past

theorem Balanced.tellOther {past more : List ResponseEvent} {self : ChatSseToResponses}
    (balanced : Balanced past self) (apart : ∀ i, Untouched more i) (noneDone : NoneDone more) :
    Balanced (past ++ more) self := by
  refine ⟨balanced.slots, ?_, balanced.silent, ?_, ?_, balanced.noneDone.append noneDone⟩
  · intro i present
    rw [deltasAt_elsewhere past (apart i)]
    exact balanced.message i present
  · intro index tool known
    rw [deltasAt_elsewhere past (apart _)]
    exact balanced.tool index tool known
  · intro i outside
    exact (balanced.fresh i outside).append (apart i)

theorem balanced_aboutItems : AboutItems Balanced := by
  constructor
  · intro past before after same balanced
    refine ⟨balanced.slots.same same.sameSlots, ?_, ?_, ?_, ?_, balanced.noneDone⟩
    · intro i present
      rw [same.messageIndex] at present
      rw [same.text]
      exact balanced.message i present
    · rw [same.messageIndex, same.text]
      exact balanced.silent
    · intro index tool known
      rw [same.tools] at known
      exact balanced.tool index tool known
    · intro i outside
      rw [same.output] at outside
      exact balanced.fresh i outside
  · intro past before after first second adopts balanced
    have told : Balanced (past ++ [.created first, .inProgress second]) before := by
      apply balanced.tellOther
      · simp [Untouched, ResponseEvent.place]
      · simp [NoneDone, ResponseEvent.isDone]
    refine ⟨balanced.slots.same adopts.sameSlots, ?_, ?_, ?_, ?_, told.noneDone⟩
    · intro i present
      rw [adopts.messageIndex] at present
      rw [adopts.text]
      exact told.message i present
    · rw [adopts.messageIndex, adopts.text]
      exact balanced.silent
    · intro index tool known
      rw [adopts.tools] at known
      exact told.tool index tool known
    · intro i outside
      rw [adopts.output] at outside
      exact told.fresh i outside

theorem appendText_balanced {past : List SentEvent} {self : ChatSseToResponses}
    (balanced : Balanced (told past) self) (started : self.created = true) (content : String) :
    (self.appendText content).Reaches past (Told Balanced) := by
  have slots := balanced.slots
  have grown := appendText_slots slots started content
  rw [Emission.Reaches, Told, told_append]
  cases place : self.messageIndex with
  | some i =>
    rw [appendText_present slots place] at grown ⊢
    rw [told_send]
    have only : OnlyAt [.outputTextDelta self.messageId i content] i := by
      simp [OnlyAt, ResponseEvent.place]
    refine ⟨grown, ?_, ?_, ?_, ?_, balanced.noneDone.append ?_⟩
    · intro j present
      have same : j = i := Option.some.inj (present.symm.trans place)
      subst same
      rw [deltasAt_append, balanced.message j place]
      simp [deltasAt, ResponseEvent.deltaAt, send]
    · intro absent
      rw [show self.messageIndex = none from absent] at place
      cases place
    · intro index tool known
      have apart := only.untouched (slots.tool_ne_message place known)
      rw [deltasAt_elsewhere _ apart]
      exact balanced.tool index tool known
    · intro j outside
      have below := slots.message_below place
      exact (balanced.fresh j outside).append (only.untouched (by
        have beyond : self.output.length ≤ j := outside
        omega))
    · intro event member
      rw [List.mem_singleton.mp member]
      rfl
  | none =>
    obtain ⟨events, sequence, state⟩ := appendText_absent slots place content
    rw [state] at grown ⊢
    rw [events]
    have only := startedText_onlyAt self content
    refine ⟨grown, ?_, ?_, ?_, ?_, balanced.noneDone.append ?_⟩
    · intro i present
      cases present
      rw [deltasAt_append, (balanced.fresh _ (Nat.le_refl _)).deltasAt, balanced.silent place]
      simp [deltasAt, ResponseEvent.deltaAt]
    · intro absent
      cases absent
    · intro index tool known
      have below := slots.tool_below known
      rw [deltasAt_elsewhere _ (only.untouched (by omega))]
      exact balanced.tool index tool known
    · intro i outside
      rw [List.length_append, List.length_singleton] at outside
      exact (balanced.fresh i (by omega)).append (only.untouched (by omega))
    · simp [NoneDone, ResponseEvent.isDone]

theorem registerTool_balanced {past : List ResponseEvent} {self : ChatSseToResponses}
    (balanced : Balanced past self) (index : Nat) : Balanced past (self.registerTool index) := by
  have grown := registerTool_slots balanced.slots index
  cases known : self.tools.lookup index with
  | some tool =>
    rw [registerTool_known known]
    exact balanced
  | none =>
    rw [registerTool_fresh known] at grown ⊢
    refine ⟨grown, balanced.message, balanced.silent, ?_, ?_, balanced.noneDone⟩
    · intro other tool found
      by_cases same : other = index
      · subst same
        rw [AList.lookup_insert] at found
        cases found
        have unsent : deltasAt past self.output.length = "" :=
          (balanced.fresh _ (Nat.le_refl _)).deltasAt
        refine ⟨?_, "", ?_⟩
        · change byteLength (deltasAt past self.output.length) = 0
          rw [unsent]
          rfl
        · change "" = deltasAt past self.output.length ++ ""
          rw [unsent]
          rfl
      · rw [AList.lookup_insert_ne same] at found
        exact balanced.tool other tool found
    · intro i outside
      rw [List.length_append, List.length_singleton] at outside
      exact balanced.fresh i (by omega)

theorem storeTool_balanced {past : List ResponseEvent} {self : ChatSseToResponses} {index : Nat}
    {tool stored : StreamToolCall} (balanced : Balanced past self)
    (known : self.tools.lookup index = some tool) (slot : stored.outputIndex = tool.outputIndex)
    (owed : Owed (deltasAt past tool.outputIndex) tool →
      Owed (deltasAt past tool.outputIndex) stored) :
    Balanced past (self.storeTool index stored) := by
  refine ⟨balanced.slots.same (storeTool_sameSlots known slot), balanced.message, balanced.silent,
    ?_, balanced.fresh, balanced.noneDone⟩
  intro other found looked
  by_cases same : other = index
  · subst same
    rw [storeTool_lookup_self] at looked
    cases looked
    rw [slot]
    exact owed (balanced.tool other tool known)
  · rw [storeTool_lookup_ne self stored same] at looked
    exact balanced.tool other found looked

theorem takeDelta_balanced {past : List ResponseEvent} {self : ChatSseToResponses}
    (balanced : Balanced past self) (delta : ToolDelta) : Balanced past (self.takeDelta delta) := by
  have registered := registerTool_balanced balanced delta.index
  unfold takeDelta extendTool
  cases known : (self.registerTool delta.index).tools.lookup delta.index with
  | none => exact registered
  | some tool =>
    refine @storeTool_balanced past _ delta.index tool (StreamToolCall.extend tool delta)
      registered known rfl ?_
    rintro ⟨length, rest, shape⟩
    refine ⟨length, rest ++ delta.arguments, ?_⟩
    change tool.arguments ++ delta.arguments = _
    rw [shape, String.append_assoc]

section Tools

variable (crates : Crates)

theorem emission_settles {past : List ResponseEvent} {self : ChatSseToResponses}
    {tool : StreamToolCall} {index : Nat} (owed : Owed (deltasAt past tool.outputIndex) tool) :
    deltasAt (past ++ (announcement crates self tool index ++ fragment crates self tool index))
      tool.outputIndex = tool.arguments := by
  obtain ⟨length, rest, shape⟩ := owed
  have added : deltasAt (announcement crates self tool index) tool.outputIndex = "" := by
    unfold announcement
    split <;> rfl
  have whole := byteLength_append (deltasAt past tool.outputIndex) rest
  rw [← shape, length] at whole
  have sent : deltasAt (fragment crates self tool index) tool.outputIndex = rest := by
    unfold fragment
    split
    · have cut := sliceFrom_append (deltasAt past tool.outputIndex) rest
      rw [← shape, length] at cut
      simp [deltasAt, ResponseEvent.deltaAt, cut]
    · have nothing : rest = "" := byteLength_eq_zero.mp (by omega)
      rw [nothing]
      rfl
  rw [deltasAt_append, deltasAt_append, added, sent, String.empty_append]
  exact shape.symm

theorem nameTool_arguments (responseId : String) (index : Nat) (force : Bool)
    (tool : StreamToolCall) :
    (nameTool crates responseId index force tool).arguments = tool.arguments := by
  unfold nameTool
  split <;> rfl

theorem sent_arguments (tool : StreamToolCall) :
    (StreamToolCall.sent tool).arguments = tool.arguments := rfl

theorem nameTool_owed {sent responseId : String} {index : Nat} {force : Bool}
    {tool : StreamToolCall} (owed : Owed sent tool) :
    Owed sent (nameTool crates responseId index force tool) := by
  unfold nameTool
  split <;> exact owed

theorem announcement_noneDone (self : ChatSseToResponses) (tool : StreamToolCall) (index : Nat) :
    NoneDone (announcement crates self tool index ++ fragment crates self tool index) := by
  apply NoneDone.append
  · unfold announcement
    split <;> simp [NoneDone, ResponseEvent.isDone]
  · unfold fragment
    split <;> simp [NoneDone, ResponseEvent.isDone]

theorem sent_owed {sent : String} {tool : StreamToolCall} (whole : sent = tool.arguments)
    (front : tool.emittedArgumentsLen ≤ byteLength tool.arguments) :
    Owed sent (StreamToolCall.sent tool) := by
  subst whole
  refine ⟨?_, "", ?_⟩
  · exact (Nat.max_eq_right front).symm
  · exact String.append_empty.symm

theorem Owed.front {sent : String} {tool : StreamToolCall} (owed : Owed sent tool) :
    tool.emittedArgumentsLen ≤ byteLength tool.arguments := by
  obtain ⟨length, rest, shape⟩ := owed
  rw [shape, byteLength_append, length]
  exact Nat.le_add_right _ _

theorem emitTool_balanced {past : List SentEvent} {self : ChatSseToResponses} {index : Nat}
    (balanced : Balanced (told past) self) (force : Bool) :
    (emitTool crates self index force).Reaches past (Told Balanced) := by
  cases known : self.tools.lookup index with
  | none =>
    simp only [emitTool, known]
    exact Emission.reaches_silent balanced
  | some tool =>
    have slot := nameTool_outputIndex crates self.responseId index force tool
    have owed := balanced.tool index tool known
    by_cases unnamed : (nameTool crates self.responseId index force tool).name = "" ∨
        (nameTool crates self.responseId index force tool).callId = ""
    · rw [emitTool_unnamed crates known unnamed]
      exact Emission.reaches_silent
        (storeTool_balanced balanced known slot fun owed => nameTool_owed crates owed)
    · obtain ⟨events, sequence, state⟩ := emitTool_named crates known unnamed
      have same := emitTool_sameSlots crates self index force
      have named := @nameTool_owed crates _ self.responseId index force tool owed
      rw [← slot] at named
      have settled := @emission_settles crates _ self _ index named
      have only := (announcement_onlyAt crates self _ index).append
        (fragment_onlyAt crates self (nameTool crates self.responseId index force tool) index)
      have noneDone := announcement_noneDone crates self
        (nameTool crates self.responseId index force tool) index
      rw [Emission.Reaches, Told, told_append, events]
      rw [state] at same ⊢
      revert slot same named settled only noneDone
      generalize nameTool crates self.responseId index force tool = tool'
      intro slot same named settled only noneDone
      have slots := balanced.slots
      rw [slot] at only
      refine ⟨slots.same same, ?_, balanced.silent, ?_, ?_, balanced.noneDone.append noneDone⟩
      · intro i present
        have apart := only.untouched (slots.tool_ne_message present known).symm
        rw [deltasAt_elsewhere _ apart]
        exact balanced.message i present
      · intro other found looked
        by_cases itself : other = index
        · subst itself
          rw [AList.lookup_insert] at looked
          cases looked
          exact sent_owed settled named.front
        · rw [AList.lookup_insert_ne itself] at looked
          have apart := only.untouched (slots.tool_ne_tool known looked itself)
          rw [deltasAt_elsewhere _ apart]
          exact balanced.tool other found looked
      · intro i outside
        rw [announcedOutput_length] at outside
        have below := slots.tool_below known
        exact (balanced.fresh i outside).append (only.untouched (by omega))

def Plain (self : ChatSseToResponses) : Prop :=
  ∀ index tool, self.tools.lookup index = some tool →
    self.context.isCustom (nameTool crates self.responseId index true tool).name = true →
    customInput crates tool.arguments = tool.arguments

def Full (index : Nat) (past : List ResponseEvent) (self : ChatSseToResponses) : Prop :=
  ∀ tool, self.tools.lookup index = some tool →
    deltasAt past tool.outputIndex = tool.arguments ∧
      (self.context.isCustom tool.name = true →
        customInput crates tool.arguments = tool.arguments)

theorem forcedName_again (responseId : String) (index : Nat) (tool : StreamToolCall) :
    (nameTool crates responseId index true
      (StreamToolCall.sent (nameTool crates responseId index true tool))).name =
      (nameTool crates responseId index true tool).name := by
  have named := forced_named crates responseId index tool
  rw [not_or] at named
  rw [nameTool_named crates responseId index true (by exact named.1) (by exact named.2)]
  rfl

theorem emitTool_responseId (self : ChatSseToResponses) (index : Nat) (force : Bool) :
    (emitTool crates self index force).state.responseId = self.responseId :=
  (emitTool_frame crates self index force).2

theorem forceTool_lookup (self : ChatSseToResponses) (index other : Nat) :
    (emitTool crates self index true).state.tools.lookup other =
      if other = index then (self.tools.lookup index).map fun tool =>
        StreamToolCall.sent (nameTool crates self.responseId index true tool)
      else self.tools.lookup other := by
  cases known : self.tools.lookup index with
  | none =>
    simp only [emitTool, known, Emission.silent_state]
    split
    · next same => rw [same, known]; rfl
    · rfl
  | some tool =>
    obtain ⟨-, sequence, state⟩ := emitTool_named crates known (forced_named crates _ index tool)
    rw [state]
    split
    · next same =>
      subst same
      exact AList.lookup_insert _
    · next different => exact AList.lookup_insert_ne different

theorem forceTool_plain {self : ChatSseToResponses} (plain : Plain crates self) (index : Nat) :
    Plain crates (emitTool crates self index true).state := by
  intro other tool looked custom
  rw [emitTool_context, emitTool_responseId] at custom
  rw [forceTool_lookup] at looked
  split at looked
  · next same =>
    subst same
    obtain ⟨found, known, shape⟩ := Option.map_eq_some_iff.mp looked
    subst shape
    rw [forcedName_again] at custom
    rw [sent_arguments, nameTool_arguments]
    exact plain other found known custom
  · exact plain other tool looked custom

theorem forceTool_full {past : List SentEvent} {self : ChatSseToResponses}
    (balanced : Balanced (told past) self) (plain : Plain crates self) (index : Nat) :
    (emitTool crates self index true).Reaches past (Told (Full crates index)) := by
  rw [Emission.Reaches, Told, told_append]
  intro tool looked
  rw [forceTool_lookup, if_pos rfl] at looked
  obtain ⟨found, known, shape⟩ := Option.map_eq_some_iff.mp looked
  subst shape
  have slot := nameTool_outputIndex crates self.responseId index true found
  have owed := balanced.tool index found known
  have named := @nameTool_owed crates _ self.responseId index true found owed
  rw [← slot] at named
  have settled := @emission_settles crates _ self _ index named
  have events := (emitTool_named crates known (forced_named crates _ index found)).1
  rw [events]
  refine ⟨settled, fun custom => ?_⟩
  rw [emitTool_context] at custom
  rw [sent_arguments, nameTool_arguments]
  exact plain index found known custom

/-- All deltas are out; what is said to be done is all of what was sent. -/
structure Closing (past : List ResponseEvent) (stream : ChatSseToResponses) : Prop where
  slots : Slots stream
  message : ∀ i, stream.messageIndex = some i → deltasAt past i = stream.text
  full : ∀ index, Full crates index past stream
  fresh : ∀ i, stream.output.length ≤ i → Untouched past i
  finished : ∀ event ∈ past, ∀ i, event.Finishes i (deltasAt past i)
  unended : ∀ response, .completed response ∉ past

/-- What there is at `i` is said to be done, and its item stands in the output. -/
def DoneAt (i : Nat) (past : List ResponseEvent) (stream : ChatSseToResponses) : Prop :=
  (∃ done ∈ past, done.Closes i) ∧
    ∃ item, stream.output[i]? = some item ∧ ItemSays item (deltasAt past i)

omit crates in
theorem finishes_of_place {event : ResponseEvent} {i : Nat} (elsewhere : event.place ≠ some i)
    (text : String) : event.Finishes i text := by
  cases event <;> first | trivial | exact fun same => absurd (congrArg some same) elsewhere

omit crates in
theorem deltasAt_done {more : List ResponseEvent} (done : ∀ event ∈ more, event.isDone = true)
    (past : List ResponseEvent) (i : Nat) : deltasAt (past ++ more) i = deltasAt past i := by
  have nothing : deltasAt more i = "" := by
    induction more with
    | nil => rfl
    | cons event rest ih =>
      have here : event.deltaAt i = "" := by
        have isDone := done event List.mem_cons_self
        cases event <;> first | rfl | cases isDone
      have later := ih fun event member => done event (List.mem_cons_of_mem _ member)
      rw [deltasAt] at later ⊢
      rw [List.foldr_cons, here, later]
      rfl
  rw [deltasAt_append, nothing, String.append_empty]

theorem Balanced.closing {past : List ResponseEvent} {self : ChatSseToResponses}
    (balanced : Balanced past self) (full : ∀ index, Full crates index past self) :
    Closing crates past self := by
  refine ⟨balanced.slots, balanced.message, full, balanced.fresh, ?_, ?_⟩
  · intro event member i
    have notDone := balanced.noneDone event member
    cases event <;> trivial
  · intro response member
    cases balanced.noneDone _ member

theorem Closing.same {past : List ResponseEvent} {before after : ChatSseToResponses}
    (closing : Closing crates past before) (same : SameContent before after) :
    Closing crates past after := by
  refine ⟨closing.slots.same same.sameSlots, ?_, ?_, ?_, closing.finished, closing.unended⟩
  · intro i present
    rw [same.messageIndex] at present
    rw [same.text]
    exact closing.message i present
  · intro index tool known
    rw [same.tools] at known
    rw [same.context]
    exact closing.full index tool known
  · intro i outside
    rw [same.output] at outside
    exact closing.fresh i outside

theorem Closing.close {past more : List ResponseEvent} {self : ChatSseToResponses}
    (closing : Closing crates past self) {slot : Nat} (item : Json)
    (below : slot < self.output.length) (done : ∀ event ∈ more, event.isDone = true)
    (only : OnlyAt more slot) (fits : ∀ event ∈ more, event.Finishes slot (deltasAt past slot)) :
    Closing crates (past ++ more) { self with output := self.output.set slot item } := by
  refine ⟨closing.slots.same ⟨rfl, fun _ => rfl, List.length_set, rfl, rfl, id⟩, ?_, ?_, ?_, ?_, ?_⟩
  · intro i present
    rw [deltasAt_done done]
    exact closing.message i present
  · intro index tool known
    rw [deltasAt_done done]
    exact closing.full index tool known
  · intro i outside
    rw [List.length_set] at outside
    exact (closing.fresh i outside).append (only.untouched (by omega))
  · intro event member i
    rw [deltasAt_done done]
    rcases List.mem_append.mp member with member | member
    · exact closing.finished event member i
    · by_cases here : i = slot
      · rw [here]
        exact fits event member
      · apply finishes_of_place
        rw [only event member]
        exact fun same => here (Option.some.inj same).symm
  · intro response member
    rcases List.mem_append.mp member with member | member
    · exact closing.unended response member
    · cases only _ member

theorem completedTool_payload (context : ConversionContext) (tool : StreamToolCall)
    (index : Nat) :
    (completedTool crates context tool index).get
        (if context.isCustom tool.name then "input" else "arguments") =
      some (.string (if context.isCustom tool.name then customInput crates tool.arguments
        else tool.arguments)) :=
  responseToolItem_payload crates context tool.callId tool.name tool.arguments index

theorem completedTool_says {context : ConversionContext} {tool : StreamToolCall} (index : Nat)
    (plain : context.isCustom tool.name = true →
      customInput crates tool.arguments = tool.arguments) :
    ItemSays (completedTool crates context tool index) tool.arguments ∧
      ∀ event ∈ ChatSseToResponses.closing tool.outputIndex
        (completedTool crates context tool index),
        event.Finishes tool.outputIndex tool.arguments := by
  have type : (completedTool crates context tool index).get "type" =
      (toolIdentity crates context tool.callId tool.name).type :=
    congrArg ItemIdentity.type (completedTool_identity crates context tool index)
  have payload := completedTool_payload crates context tool index
  have what : ItemSays (completedTool crates context tool index) tool.arguments := by
    by_cases custom : context.isCustom tool.name = true
    · rw [if_pos custom, if_pos custom, plain custom] at payload
      simp only [toolIdentity, custom, if_true] at type
      exact .inr (.inr ⟨type, payload⟩)
    · rw [if_neg custom, if_neg custom] at payload
      simp only [toolIdentity, custom, if_false, Bool.false_eq_true] at type
      exact .inr (.inl ⟨type, payload⟩)
  refine ⟨what, ?_⟩
  intro event member
  simp only [ChatSseToResponses.closing, List.mem_cons, List.not_mem_nil, or_false] at member
  rcases member with same | same
  · rw [same]
    intro _
    by_cases custom : context.isCustom tool.name = true
    · simp only [toolIdentity, custom, if_true] at type
      rw [if_pos custom, if_pos custom, plain custom] at payload
      simpa [type] using payload
    · simp only [toolIdentity, custom, if_false, Bool.false_eq_true] at type
      rw [if_neg custom, if_neg custom] at payload
      simpa [type] using payload
  · rw [same]
    exact fun _ => what

theorem DoneAt.stays {i slot : Nat} {past more : List ResponseEvent} {self : ChatSseToResponses}
    (doneAt : DoneAt i past self) (done : ∀ event ∈ more, event.isDone = true) (item : Json)
    (elsewhere : slot ≠ i) :
    DoneAt i (past ++ more) { self with output := self.output.set slot item } := by
  obtain ⟨⟨last, member, closes⟩, found, shown, what⟩ := doneAt
  refine ⟨⟨last, List.mem_append_left _ member, closes⟩, found, ?_, ?_⟩
  · rw [List.getElem?_set_ne elsewhere]
    exact shown
  · rw [deltasAt_done done]
    exact what

theorem completedMessage_says {self : ChatSseToResponses} (started : self.textStarted = true) :
    ItemSays self.completedMessage self.text := by
  refine .inl ⟨rfl, ?_⟩
  rw [completedMessage, if_pos started]
  rfl

theorem completeMessage_closing {past : List SentEvent} {self : ChatSseToResponses}
    (closing : Closing crates (told past) self) :
    self.completeMessage.Reaches past (Told fun past next =>
      Closing crates past next ∧ ∀ i, next.messageIndex = some i → DoneAt i past next) := by
  cases place : self.messageIndex with
  | none =>
    rw [completeMessage_absent place]
    refine Emission.reaches_silent ⟨closing, ?_⟩
    intro i present
    rw [place] at present
    cases present
  | some i =>
    have slots := closing.slots
    have below := slots.message_below place
    have text := closing.message i place
    have started : self.textStarted = true := by
      rw [← slots.text, place]
      rfl
    have item := completedMessage_says started
    obtain ⟨events, sequence, state⟩ := completeMessage_present slots place
    have done : ∀ event ∈ told self.completeMessage.events, event.isDone = true := by
      rw [events]
      simp [ResponseEvent.isDone]
    have closed := @Closing.close crates _ (told self.completeMessage.events) self closing i
      self.completedMessage below done (by
        rw [events]
        simp [OnlyAt, ResponseEvent.place]) (by
        rw [events, text]
        simp [ResponseEvent.Finishes, item])
    rw [Emission.Reaches, Told, told_append, state]
    refine ⟨closed.same crates ⟨rfl, rfl, rfl, rfl, rfl, rfl, rfl, rfl, id⟩, ?_⟩
    intro j present
    have same : j = i := Option.some.inj (present.symm.trans place)
    subst same
    refine ⟨⟨.outputTextDone self.messageId j self.text, ?_, rfl⟩, self.completedMessage, ?_, ?_⟩
    · rw [events]
      simp
    · exact List.getElem?_set_self below
    · rw [deltasAt_done done, text]
      exact item

theorem closing_isDone (slot : Nat) (item : Json) :
    ∀ event ∈ closing slot item, event.isDone = true := by
  simp [ChatSseToResponses.closing, ResponseEvent.isDone]

theorem closing_onlyAt (slot : Nat) (item : Json) : OnlyAt (closing slot item) slot := by
  simp [OnlyAt, ChatSseToResponses.closing, ResponseEvent.place]

theorem completeTool_closing {past : List SentEvent} {self : ChatSseToResponses}
    (closing : Closing crates (told past) self) (index : Nat) :
    (completeTool crates self index).Reaches past (Told fun past next =>
      Closing crates past next ∧ ∀ i, next.place index = some i → DoneAt i past next) := by
  cases known : self.tools.lookup index with
  | none =>
    rw [completeTool_unknown crates known]
    refine Emission.reaches_silent ⟨closing, ?_⟩
    intro i placed
    rw [place, known] at placed
    cases placed
  | some tool =>
    have slots := closing.slots
    have below := slots.tool_below known
    obtain ⟨arguments, plain⟩ := closing.full index tool known
    obtain ⟨item, fits⟩ := completedTool_says crates index plain
    rw [← arguments] at item fits
    obtain ⟨events, sequence, state⟩ := completeTool_known crates known
    have closed := closing.close crates (completedTool crates self.context tool index) below
      (closing_isDone _ _) (closing_onlyAt tool.outputIndex _) fits
    rw [Emission.Reaches, Told, told_append, state, events]
    refine ⟨closed.same crates ⟨rfl, rfl, rfl, rfl, rfl, rfl, rfl, rfl, id⟩, ?_⟩
    intro i placed
    have slot : tool.outputIndex = i :=
      Option.some.inj ((place_of_lookup known).symm.trans placed)
    subst slot
    refine ⟨⟨_, List.mem_append_right _ List.mem_cons_self, rfl⟩,
      completedTool crates self.context tool index, ?_, ?_⟩
    · exact List.getElem?_set_self below
    · rw [deltasAt_done (closing_isDone _ _)]
      exact item

theorem completeTool_doneAt {past : List SentEvent} {self : ChatSseToResponses}
    (closing : Closing crates (told past) self) (index : Nat) {i : Nat}
    (done : DoneAt i (told past) self) :
    (completeTool crates self index).Reaches past (Told (DoneAt i)) := by
  by_cases placed : self.place index = some i
  · have closed := completeTool_closing crates closing index
    refine closed.2 i ?_
    rw [← placed]
    cases known : self.tools.lookup index with
    | none => rw [completeTool_unknown crates known, Emission.silent_state]
    | some tool =>
      obtain ⟨-, sequence, state⟩ := completeTool_known crates known
      rw [state]
      rfl
  · cases known : self.tools.lookup index with
    | none =>
      rw [completeTool_unknown crates known]
      exact Emission.reaches_silent done
    | some tool =>
      obtain ⟨events, sequence, state⟩ := completeTool_known crates known
      have elsewhere : tool.outputIndex ≠ i := by
        intro same
        rw [place_of_lookup known, same] at placed
        exact placed rfl
      have stays := done.stays (closing_isDone tool.outputIndex
        (completedTool crates self.context tool index))
        (completedTool crates self.context tool index) elsewhere
      rw [Emission.Reaches, Told, told_append, state, events]
      exact stays

theorem completeTool_places (self : ChatSseToResponses) (index other : Nat) :
    (completeTool crates self index).state.place other = self.place other ∧
      (completeTool crates self index).state.messageIndex = self.messageIndex ∧
      (completeTool crates self index).state.toolOrder = self.toolOrder := by
  cases known : self.tools.lookup index with
  | none =>
    rw [completeTool_unknown crates known]
    exact ⟨rfl, rfl, rfl⟩
  | some tool =>
    obtain ⟨-, sequence, state⟩ := completeTool_known crates known
    rw [state]
    exact ⟨rfl, rfl, rfl⟩

theorem forceTool_fullStays {past : List SentEvent} {self : ChatSseToResponses}
    (balanced : Balanced (told past) self) (plain : Plain crates self) {index other : Nat}
    (full : Full crates other (told past) self) :
    (emitTool crates self index true).Reaches past (Told (Full crates other)) := by
  by_cases same : other = index
  · rw [same]
    exact forceTool_full crates balanced plain index
  · rw [Emission.Reaches, Told, told_append]
    intro tool looked
    rw [forceTool_lookup, if_neg same] at looked
    rw [emitTool_context]
    cases known : self.tools.lookup index with
    | none =>
      simp only [emitTool, known, Emission.silent_events]
      rw [show told [] = [] from rfl, List.append_nil]
      exact full tool looked
    | some found =>
      have slot := nameTool_outputIndex crates self.responseId index true found
      have only := (announcement_onlyAt crates self _ index).append
        (fragment_onlyAt crates self (nameTool crates self.responseId index true found) index)
      rw [slot] at only
      rw [(emitTool_named crates known (forced_named crates _ index found)).1,
        deltasAt_elsewhere _ (only.untouched (balanced.slots.tool_ne_tool known looked same))]
      exact full tool looked

theorem forceTools_closing {past : List SentEvent} {self : ChatSseToResponses}
    (balanced : Balanced (told past) self) (plain : Plain crates self) :
    (Emission.forEach (fun self index => emitTool crates self index true) self
      self.toolOrder).Reaches past (Told (Closing crates)) := by
  have looped := @Emission.reaches_forEach_each _ _ _
    (fun past next => (Balanced (told past) next ∧ Plain crates next) ∧
      next.toolOrder = self.toolOrder) past self
    (fun self index => emitTool crates self index true)
    (fun index => Told (Full crates index)) self.toolOrder ?_ ?_ ?_ ⟨⟨balanced, plain⟩, rfl⟩
  · apply looped.weaken
    intro past next reached
    obtain ⟨⟨⟨balanced, plain⟩, order⟩, full⟩ := reached
    apply balanced.closing
    intro index tool known
    refine full index ?_ tool known
    rw [← order]
    apply (balanced.slots.listed index).mpr
    rw [place_of_lookup known]
    exact Option.some_ne_none _
  · intro past next index holds
    refine ⟨⟨emitTool_balanced crates holds.1.1 true, forceTool_plain crates holds.1.2 index⟩, ?_⟩
    rw [(emitTool_sameSlots crates next index true).order]
    exact holds.2
  · intro past next index holds
    exact forceTool_full crates holds.1.1 holds.1.2 index
  · intro past next index other holds full
    exact forceTool_fullStays crates holds.1.1 holds.1.2 full

theorem closeAll {past : List SentEvent} {self : ChatSseToResponses}
    (closing : Closing crates (told past) self) :
    (self.completeMessage.andThen fun self =>
      Emission.forEach (completeTool crates) self self.toolOrder).Reaches past
        (Told fun past next => Closing crates past next ∧
          ∀ i, i < next.output.length → DoneAt i past next) := by
  apply Emission.Reaches.andThen (completeMessage_closing crates closing)
  intro past next holds
  obtain ⟨closing, message⟩ := holds
  have looped := @Emission.reaches_forEach_each _ _ _
    (fun past last => (Closing crates (told past) last ∧
      ∀ i, last.messageIndex = some i → DoneAt i (told past) last) ∧
      last.toolOrder = next.toolOrder) past next (completeTool crates)
    (fun index past last => ∀ i, last.place index = some i → DoneAt i (told past) last)
    next.toolOrder ?_ ?_ ?_ ⟨⟨closing, message⟩, rfl⟩
  · apply looped.weaken
    intro past last reached
    obtain ⟨⟨⟨closing, message⟩, order⟩, tools⟩ := reached
    refine ⟨closing, fun i below => ?_⟩
    obtain ⟨owner, owns⟩ := closing.slots.covered i below
    cases owner with
    | message => exact message i owns
    | tool index =>
      refine tools index ?_ i owns
      rw [← order]
      apply (closing.slots.listed index).mpr
      rw [show last.place index = some i from owns]
      exact Option.some_ne_none _
  · intro past last index holds
    obtain ⟨placed, present, order⟩ := completeTool_places crates last index index
    refine ⟨⟨(completeTool_closing crates holds.1.1 index).1, ?_⟩, order.trans holds.2⟩
    intro i message
    rw [present] at message
    exact completeTool_doneAt crates holds.1.1 index (holds.1.2 i message)
  · intro past last index holds
    exact (completeTool_closing crates holds.1.1 index).2
  · intro past last index other holds done i placed
    rw [(completeTool_places crates last index other).1] at placed
    exact completeTool_doneAt crates holds.1.1 index (done i placed)

structure Finished (output : List Json) (past : List ResponseEvent) (stream : ChatSseToResponses) :
    Prop where
  text : stream.messageIndex.isSome = stream.textStarted
  message : ∀ i, stream.messageIndex = some i → i < output.length
  response : ∀ response, .completed response ∈ past →
    response.get "output" = some (.array output)
  places : ∀ event ∈ past, ∀ i, event.place = some i → i < output.length
  closed : ∀ i, i < output.length → (∃ done ∈ past, done.Closes i) ∧
    ∃ item, output[i]? = some item ∧ ItemSays item (deltasAt past i)
  finished : ∀ event ∈ past, ∀ i, event.Finishes i (deltasAt past i)

omit crates in
theorem Finished.deltaComplete {output : List Json} {past : List ResponseEvent}
    {self : ChatSseToResponses} (finished : Finished output past self) : DeltaComplete past := by
  intro response ended event member i place
  obtain ⟨closes, item, shown, what⟩ := finished.closed i (finished.places event member i place)
  exact ⟨closes, fun done member => finished.finished done member i, output, item,
    finished.response response ended, shown, what⟩

theorem Finished.tell {output : List Json} {past more : List ResponseEvent}
    {self : ChatSseToResponses} (finished : Finished output past self)
    (noneDone : NoneDone more) (nothing : ∀ i, deltasAt more i = "")
    (places : ∀ event ∈ more, ∀ i, event.place = some i → i < output.length) :
    Finished output (past ++ more) self := by
  have same : ∀ i, deltasAt (past ++ more) i = deltasAt past i := by
    intro i
    rw [deltasAt_append, nothing, String.append_empty]
  refine ⟨finished.text, finished.message, ?_, ?_, ?_, ?_⟩
  · intro response member
    rcases List.mem_append.mp member with member | member
    · exact finished.response response member
    · cases noneDone _ member
  · intro event member i place
    rcases List.mem_append.mp member with member | member
    · exact finished.places event member i place
    · exact places event member i place
  · intro i below
    obtain ⟨⟨done, member, closes⟩, item⟩ := finished.closed i below
    rw [same]
    exact ⟨⟨done, List.mem_append_left _ member, closes⟩, item⟩
  · intro event member i
    rw [same]
    rcases List.mem_append.mp member with member | member
    · exact finished.finished event member i
    · have notDone := noneDone event member
      cases event <;> trivial

theorem complete_finished {past : List SentEvent} {self : ChatSseToResponses}
    (balanced : Balanced (told past) self) (plain : Plain crates self)
    (unfinished : self.terminal = false) :
    (complete crates self).Reaches past fun past next =>
      next.terminal = true ∧ ∃ output, Finished output (told past) next := by
  rw [complete, if_neg (by simp [unfinished]), Emission.andThen_assoc, Emission.andThen_assoc]
  refine Emission.Reaches.andThen (Q := Told (Closing crates))
    (forceTools_closing crates balanced plain) ?_
  intro past self closing
  rw [← Emission.andThen_assoc]
  apply Emission.Reaches.andThen (closeAll crates closing)
  intro past self holds
  obtain ⟨closing, closed⟩ := holds
  refine ⟨rfl, self.output, ?_⟩
  rw [told_append]
  refine ⟨closing.slots.text, fun i present => closing.slots.message_below present, ?_, ?_, ?_, ?_⟩
  · intro response member
    rcases List.mem_append.mp member with member | member
    · exact absurd member (closing.unended response)
    · cases List.mem_singleton.mp member
      rfl
  · intro event member i place
    rcases List.mem_append.mp member with member | member
    · by_contra outside
      exact closing.fresh i (by omega) event member place
    · rw [List.mem_singleton.mp member] at place
      cases place
  · intro i below
    obtain ⟨⟨done, member, closes⟩, item⟩ := closed i below
    rw [deltasAt_done (by simp [ResponseEvent.isDone, told, sendCompleted, send])]
    exact ⟨⟨done, List.mem_append_left _ member, closes⟩, item⟩
  · intro event member i
    rw [deltasAt_done (by simp [ResponseEvent.isDone, told, sendCompleted, send])]
    rcases List.mem_append.mp member with member | member
    · exact closing.finished event member i
    · rw [List.mem_singleton.mp member]
      trivial

/-- A chunk that adds nothing to any item: no text, or an empty one for the message there is, and
no tool delta that makes the stream send something. -/
def Harmless (self : ChatSseToResponses) (chunk : Json) : Prop :=
  ∀ choice members, firstChoice chunk = some choice →
    choice.get "delta" = some (.object members) →
    (∀ content, ((Json.object members).get "content").bind Json.asStr = some content →
      content = "" ∧ self.messageIndex ≠ none) ∧
    Emission.Along (appendToolDelta crates) SilentToolDelta
      (beforeTools crates self chunk choice (.object members)).state (toolCalls (.object members))

/-- What makes the deltas complete: the input of a custom tool is all of its arguments when the
stream is completed, and chunks behind the end add nothing. -/
def KeepsDeltas (self : ChatSseToResponses) : Frame → Prop
  | .done => self.terminal = false → Plain crates self
  | .chunk chunk => self.terminal = true → Harmless crates self chunk
  | .failure _ | .ignored => True

/-- The deltas of an open or failed stream are balanced, those of a completed one are complete. -/
def Accounted (past : List SentEvent) (self : ChatSseToResponses) : Prop :=
  Balanced (told past) self ∨ self.terminal = true ∧ ∃ output, Finished output (told past) self

omit crates in
theorem Finished.same {output : List Json} {past : List ResponseEvent}
    {before after : ChatSseToResponses} (finished : Finished output past before)
    (message : after.messageIndex = before.messageIndex)
    (text : after.textStarted = before.textStarted) : Finished output past after := by
  refine ⟨?_, ?_, finished.response, finished.places, finished.closed, finished.finished⟩
  · rw [message, text]
    exact finished.text
  · rw [message]
    exact finished.message

theorem finished_aboutItems (output : List Json) (message : Option Nat) :
    AboutItems fun past self => Finished output past self ∧ self.messageIndex = message := by
  constructor
  · intro past before after same holds
    exact ⟨holds.1.same same.messageIndex same.textStarted, same.messageIndex.trans holds.2⟩
  · intro past before after first second adopts holds
    have finished := holds.1.same adopts.messageIndex adopts.textStarted
    refine ⟨finished.tell ?_ ?_ ?_, adopts.messageIndex.trans holds.2⟩
    · simp [NoneDone, ResponseEvent.isDone]
    · intro i
      rfl
    · simp [ResponseEvent.place]

theorem appendToolDelta_message (self : ChatSseToResponses) (delta : Json) :
    (appendToolDelta crates self delta).state.messageIndex = self.messageIndex ∧
      (appendToolDelta crates self delta).state.textStarted = self.textStarted := by
  have extended := extendTool_sameSlots (self.registerTool (ToolDelta.read delta).index)
    (ToolDelta.read delta)
  have emitted := emitTool_sameSlots crates (self.takeDelta (ToolDelta.read delta))
    (ToolDelta.read delta).index false
  have registered : (self.registerTool (ToolDelta.read delta).index).messageIndex =
      self.messageIndex ∧
      (self.registerTool (ToolDelta.read delta).index).textStarted = self.textStarted := by
    unfold registerTool
    split <;> exact ⟨rfl, rfl⟩
  exact ⟨emitted.message.trans (extended.message.trans registered.1),
    emitted.text.trans (extended.text.trans registered.2)⟩

theorem processChunk_finished {past : List SentEvent} {self : ChatSseToResponses}
    {output : List Json} (finished : Finished output (told past) self) {chunk : Json}
    (harmless : Harmless crates self chunk) :
    (processChunk crates self chunk).Reaches past (Told (Finished output)) := by
  have about := finished_aboutItems output self.messageIndex
  have walked := @processChunk_about crates _ about past self chunk ?_ ?_ ⟨finished, rfl⟩
  · exact walked.1
  · intro choice members chosen delta past next content given holds _
    obtain ⟨empty, present⟩ := (harmless choice members chosen delta).1 content given
    obtain ⟨finished, message⟩ := holds
    rw [← message] at present
    obtain ⟨i, place⟩ := Option.ne_none_iff_exists'.mp present
    have started : next.textStarted = true := by
      rw [← finished.text, place]
      rfl
    have sent : next.appendText content =
        { next with text := next.text ++ content }.send
          (.outputTextDelta next.messageId i content) :=
      appendText_started place started content
    rw [sent, Emission.Reaches, Told, told_append]
    refine ⟨@Finished.same output _ next _ (finished.tell ?_ ?_ ?_) rfl rfl, message⟩
    · simp [NoneDone, ResponseEvent.isDone, told, send]
    · intro j
      simp [deltasAt, ResponseEvent.deltaAt, told, send, empty]
    · have below := finished.message i place
      simp [ResponseEvent.place, told, send, below]
  · intro choice members past chosen delta holds
    apply Emission.reaches_forEach_along _ (harmless choice members chosen delta).2 holds
    intro past next delta holds silent
    obtain ⟨message, text⟩ := appendToolDelta_message crates next delta
    rw [Emission.Reaches, (appendToolDelta_silent_iff crates next delta).mpr silent,
      List.append_nil]
    exact ⟨holds.1.same message text, message.trans holds.2⟩

theorem fail_accounted {past : List SentEvent} {self : ChatSseToResponses}
    (accounted : Accounted past self) (message : String) :
    (self.fail message).Reaches past Accounted := by
  rcases accounted with balanced | finished
  · have failed : (self.fail message).Reaches past (Told Balanced) := by
      apply fail_about balanced_aboutItems _ _ balanced message
      · intro past self message balanced
        apply balanced.tellOther
        · simp [Untouched, ResponseEvent.place]
        · simp [NoneDone, ResponseEvent.isDone]
      · intro past self response balanced
        apply balanced.tellOther
        · simp [Untouched, ResponseEvent.place]
        · simp [NoneDone, ResponseEvent.isDone]
    exact .inl failed
  · rw [fail_ended finished.1]
    exact Emission.reaches_silent (.inr finished)

theorem processFrame_accounted {past : List SentEvent} {self : ChatSseToResponses}
    (accounted : Accounted past self) {frame : Frame} (keeps : KeepsDeltas crates self frame) :
    (processFrame crates self frame).Reaches past Accounted := by
  cases frame with
  | ignored => exact Emission.reaches_silent accounted
  | failure message => exact fail_accounted accounted message
  | done =>
    have marked : Accounted past { self with sawDone := true } := by
      rcases accounted with balanced | ⟨terminal, output, finished⟩
      · exact .inl (balanced_aboutItems.same _ self _
          ⟨rfl, rfl, rfl, rfl, rfl, rfl, rfl, rfl, id⟩ balanced)
      · exact .inr ⟨terminal, output, finished.same rfl rfl⟩
    rw [processFrame]
    by_cases ended : self.terminal = true
    · rw [complete_ended crates (by exact ended)]
      exact Emission.reaches_silent marked
    · rcases marked with balanced | finished
      · have unfinished : self.terminal = false := by simpa using ended
        exact .inr (complete_finished crates balanced (by exact keeps unfinished) unfinished)
      · exact absurd finished.1 ended
  | chunk chunk =>
    rcases accounted with balanced | ⟨terminal, output, finished⟩
    · have walked : (processChunk crates self chunk).Reaches past (Told Balanced) := by
        apply processChunk_about crates balanced_aboutItems _ _ balanced
        · intro choice members _ _ past self content _ balanced started
          exact appendText_balanced balanced started content
        · intro choice members past _ _ balanced
          refine Emission.reaches_forEach (P := Told Balanced) ?_ balanced
          intro past self delta _ balanced
          exact emitTool_balanced crates (takeDelta_balanced balanced _) false
      exact .inl walked
    · exact .inr ⟨processFrame_terminal crates terminal (.chunk chunk), output,
        processChunk_finished crates finished (keeps terminal)⟩

theorem accounted_rule : FrameRule crates (KeepsDeltas crates) Accounted where
  input _ self _ _ accounted := by
    rcases accounted with balanced | ⟨terminal, output, finished⟩
    · exact .inl (balanced_aboutItems.same _ self _
        ⟨rfl, rfl, rfl, rfl, rfl, rfl, rfl, rfl, id⟩ balanced)
    · exact .inr ⟨terminal, output, finished.same rfl rfl⟩
  frame _ _ _ accounted keeps := processFrame_accounted crates accounted keeps
  fail _ _ message accounted := fail_accounted accounted message

theorem new_balanced (context : ConversionContext) (maxBytes : Nat) :
    Balanced [] (new crates context maxBytes) := by
  refine ⟨new_slots crates context maxBytes, ?_, fun _ => rfl, ?_, ?_, ?_⟩
  · intro i present
    cases present
  · intro index tool known
    cases known
  · intro i _ event member
    cases member
  · intro event member
    cases member

theorem Accounted.deltaComplete {past : List SentEvent} {self : ChatSseToResponses}
    (accounted : Accounted past self) : DeltaComplete (told past) := by
  rcases accounted with balanced | ⟨-, output, finished⟩
  · intro response ended
    cases balanced.noneDone _ ended
  · exact finished.deltaComplete

/-- The deltas of a converted stream add up to its items whenever the input of each custom tool
is all of its arguments and nothing is added behind the end. -/
theorem run_deltaComplete (context : ConversionContext) (maxBytes : Nat)
    (pushes : List (List UInt8)) (ending : Ending)
    (keeps : RunMeets crates (KeepsDeltas crates) context maxBytes pushes ending) :
    DeltaComplete (told (run crates context maxBytes pushes ending).events) := by
  have fresh : Accounted [] (new crates context maxBytes) :=
    .inl (new_balanced crates context maxBytes)
  have accounted := ((accounted_rule crates).run_reaches fresh keeps).1
  exact accounted.deltaComplete

end Tools

set_option maxRecDepth 4000 in
theorem run_deltaComplete_text :
    DeltaComplete (told (run (.reading [textChunk]) ⟨∅⟩ 4096
      [utf8Bytes ("data: " ++ textChunk.1 ++ "\n\ndata: [DONE]\n\n")] .finish).events) := by
  apply run_deltaComplete
  refine ⟨⟨?_, trivial⟩, ?_⟩
  · intro _ events received
    have frames : events = [⟨none, textChunk.1⟩, ⟨none, "[DONE]"⟩] := by
      have decoded : ((new (.reading [textChunk]) ⟨∅⟩ 4096).receive
        (utf8Bytes ("data: " ++ textChunk.1 ++ "\n\ndata: [DONE]\n\n"))).1 =
          .ok [⟨none, textChunk.1⟩, ⟨none, "[DONE]"⟩] := rfl
      rw [decoded] at received
      exact (Except.ok.inj received).symm
    subst frames
    refine ⟨?_, ?_, trivial⟩
    · intro terminal
      exact absurd terminal (by decide)
    · intro _ index tool known
      cases known
  · intro unfinished
    exact absurd unfinished (by decide)

def customChunk : String × Json :=
  ("\x7b\"choices\":[\x7b\"delta\":\x7b\"tool_calls\":[\x7b\"index\":0,\"id\":\"a\",\"function\":" ++
    "\x7b\"name\":\"f\",\"arguments\":\"\x7b\\\"input\\\":\\\"pwd\\\"\x7d\"\x7d\x7d]\x7d\x7d]\x7d",
    .object [("choices", .array [.object [("delta", .object [("tool_calls", .array [.object [
      ("index", .ofNat 0), ("id", .string "a"), ("function", .object [("name", .string "f"),
        ("arguments", .string "\x7b\"input\":\"pwd\"\x7d")])]])])]])])

def customArguments : String × Json :=
  ("\x7b\"input\":\"pwd\"\x7d", .object [("input", .string "pwd")])

def customContext : ConversionContext := ⟨(∅ : HashMap String ToolKind).insert "f" (.custom "f")⟩

def closedText : ResponseEvent → Option (Nat × String)
  | .outputTextDone _ i text => some (i, text)
  | .toolDone _ _ i payload => (payload.bind Json.asStr).map fun text => (i, text)
  | _ => none

def isCompleted : ResponseEvent → Bool
  | .completed _ => true
  | _ => false

theorem DeltaComplete.closedText {events : List ResponseEvent} (complete : DeltaComplete events)
    {i : Nat} {text : String} (ended : ∃ event ∈ events, isCompleted event = true)
    (closed : ∃ event ∈ events, closedText event = some (i, text)) :
    deltasAt events i = text := by
  obtain ⟨last, lastMember, isLast⟩ := ended
  obtain ⟨done, member, says'⟩ := closed
  cases last with
  | completed response =>
    cases done with
    | outputTextDone itemId j found =>
      cases says'
      have fits := (complete response lastMember _ member i rfl).2.1 _ member
      exact (fits rfl).symm
    | toolDone isCustom itemId j payload =>
      obtain ⟨found, read, same⟩ := Option.map_eq_some_iff.mp says'
      cases same
      have fits := (complete response lastMember _ member i rfl).2.1 _ member
      rw [fits rfl] at read
      exact Option.some.inj read
    | _ => cases says'
  | _ => cases isLast

set_option maxRecDepth 8000 in
/-- The deltas of a custom tool carry the JSON that its input comes in, and a chunk behind
`[DONE]` adds text to a message that was done. -/
theorem run_deltaComplete_fails :
    ¬DeltaComplete (told (run (.reading [customChunk, customArguments]) customContext 4096
      [utf8Bytes ("data: " ++ customChunk.1 ++ "\n\ndata: [DONE]\n\n")] .finish).events) ∧
    ¬DeltaComplete (told (run (.reading [textChunk]) ⟨∅⟩ 4096
      [utf8Bytes ("data: " ++ textChunk.1 ++ "\n\ndata: [DONE]\n\ndata: " ++ textChunk.1 ++ "\n\n")]
      .finish).events) := by
  constructor
  · intro complete
    have same := @DeltaComplete.closedText _ complete 0 "pwd" (by decide) (by decide)
    revert same
    decide
  · intro complete
    have same := @DeltaComplete.closedText _ complete 0 "hi" (by decide) (by decide)
    revert same
    decide

end ChatSseToResponses

end CodexGate.Conversion
