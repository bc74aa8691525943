import CodexGate.Conversion.Deltas

namespace CodexGate.Conversion

open Foundation

inductive ItemEvent
  | added (item : Json)
  | done (item : Json)

def ResponseEvent.itemAt (i : Nat) : ResponseEvent → Option ItemEvent
  | outputItemAdded j item => if j = i then some (.added item) else none
  | outputItemDone j item => if j = i then some (.done item) else none
  | _ => none

namespace ChatSseToResponses

/-- The `response.output_item` events with the index `i`, in their order. -/
def itemsAt (events : List ResponseEvent) (i : Nat) : List ItemEvent :=
  events.filterMap (ResponseEvent.itemAt i)

/-- One event adds the item at `i`, a later one finishes it as it stands in `output`. -/
def ClosedAt (output : List Json) (events : List ResponseEvent) (i : Nat) : Prop :=
  ∃ added item, itemsAt events i = [.added added, .done item] ∧ output[i]? = some item ∧
    item.isNull = false

/-- Where the stream is completed, each entry of the output was added and finished once, and what
was told before the end is about these entries. -/
def OutputFinal (events : List ResponseEvent) : Prop :=
  ∀ response, .completed response ∈ events → ∃ output,
    response.get "output" = some (.array output) ∧
    (∀ i, i < output.length → ClosedAt output events i) ∧
    ∃ before after, events = before ++ .completed response :: after ∧
      ∀ event ∈ before, ∀ i, event.place = some i → i < output.length

def OpenAt (events : List ResponseEvent) (i : Nat) : Prop :=
  ∃ added, itemsAt events i = [.added added]

theorem itemsAt_append (events more : List ResponseEvent) (i : Nat) :
    itemsAt (events ++ more) i = itemsAt events i ++ itemsAt more i :=
  List.filterMap_append

theorem Untouched.itemsAt {events : List ResponseEvent} {i : Nat} (untouched : Untouched events i) :
    itemsAt events i = [] := by
  apply List.filterMap_eq_nil_iff.mpr
  intro event member
  have elsewhere := untouched event member
  cases event with
  | outputItemAdded j item => exact if_neg fun same => elsewhere (congrArg some same)
  | outputItemDone j item => exact if_neg fun same => elsewhere (congrArg some same)
  | _ => rfl

theorem itemsAt_elsewhere (past : List ResponseEvent) {more : List ResponseEvent} {i : Nat}
    (untouched : Untouched more i) : itemsAt (past ++ more) i = itemsAt past i := by
  rw [itemsAt_append, untouched.itemsAt, List.append_nil]

def Shown (self : ChatSseToResponses) : Owner → Prop
  | .message => True
  | .tool index => ∃ tool, self.tools.lookup index = some tool ∧ tool.emitted = true

/-- Before the end an item is added at most once, and none is finished. -/
structure Announcing (past : List ResponseEvent) (stream : ChatSseToResponses) : Prop where
  slots : Slots stream
  order : stream.toolOrder.Nodup
  shown : ∀ i owner, Owns stream i owner → Shown stream owner → OpenAt past i
  hidden : ∀ i owner, Owns stream i owner → ¬Shown stream owner → itemsAt past i = []
  fresh : ∀ i, stream.output.length ≤ i → Untouched past i
  unended : ∀ response, .completed response ∉ past

theorem Shown.same {before after : ChatSseToResponses} (tools : after.tools = before.tools)
    (owner : Owner) : Shown after owner ↔ Shown before owner := by
  cases owner with
  | message => exact Iff.rfl
  | tool index => rw [Shown, Shown, tools]

theorem Announcing.tellOther {past more : List ResponseEvent} {self : ChatSseToResponses}
    (announcing : Announcing past self) (apart : ∀ i, Untouched more i)
    (unended : ∀ response, .completed response ∉ more) : Announcing (past ++ more) self := by
  refine ⟨announcing.slots, announcing.order, ?_, ?_, ?_, ?_⟩
  · intro i owner owns shown
    rw [OpenAt, itemsAt_elsewhere past (apart i)]
    exact announcing.shown i owner owns shown
  · intro i owner owns hidden
    rw [itemsAt_elsewhere past (apart i)]
    exact announcing.hidden i owner owns hidden
  · intro i outside
    exact (announcing.fresh i outside).append (apart i)
  · intro response member
    rcases List.mem_append.mp member with member | member
    · exact announcing.unended response member
    · exact unended response member

theorem Announcing.same {past : List ResponseEvent} {before after : ChatSseToResponses}
    (announcing : Announcing past before) (slots : SameSlots before after)
    (tools : after.tools = before.tools) : Announcing past after := by
  refine ⟨announcing.slots.same slots, ?_, ?_, ?_, ?_, announcing.unended⟩
  · rw [slots.order]
    exact announcing.order
  · intro i owner owns shown
    exact announcing.shown i owner (slots.owns.mp owns) ((Shown.same tools owner).mp shown)
  · intro i owner owns hidden
    apply announcing.hidden i owner (slots.owns.mp owns)
    exact fun shown => hidden ((Shown.same tools owner).mpr shown)
  · intro i outside
    rw [slots.length] at outside
    exact announcing.fresh i outside

theorem announcing_aboutItems : AboutItems Announcing := by
  constructor
  · intro past before after same announcing
    exact announcing.same same.sameSlots same.tools
  · intro past before after first second adopts announcing
    apply Announcing.same _ adopts.sameSlots adopts.tools
    apply announcing.tellOther
    · simp [Untouched, ResponseEvent.place]
    · simp

theorem appendText_announcing {past : List SentEvent} {self : ChatSseToResponses}
    (announcing : Announcing (told past) self) (started : self.created = true) (content : String) :
    (self.appendText content).Reaches past (Told Announcing) := by
  have slots := announcing.slots
  have grown := appendText_slots slots started content
  rw [Emission.Reaches, Told, told_append]
  cases place : self.messageIndex with
  | some i =>
    rw [appendText_present slots place] at grown ⊢
    rw [told_send]
    have nothing : ∀ j, itemsAt (told past ++ [.outputTextDelta self.messageId i content]) j =
        itemsAt (told past) j := by
      intro j
      rw [itemsAt_append]
      exact List.append_nil _
    refine ⟨grown, announcing.order, ?_, ?_, ?_, ?_⟩
    · intro j owner owns shown
      rw [OpenAt, nothing]
      exact announcing.shown j owner owns shown
    · intro j owner owns hidden
      rw [nothing]
      exact announcing.hidden j owner owns hidden
    · intro j outside
      have below := slots.message_below place
      have beyond : self.output.length ≤ j := outside
      have only : OnlyAt [.outputTextDelta self.messageId i content] i := by
        simp [OnlyAt, ResponseEvent.place]
      exact (announcing.fresh j outside).append (only.untouched (by omega))
    · intro response member
      rcases List.mem_append.mp member with member | member
      · exact announcing.unended response member
      · cases List.mem_singleton.mp member
  | none =>
    obtain ⟨events, sequence, state⟩ := appendText_absent slots place content
    rw [state] at grown ⊢
    rw [events]
    have only := startedText_onlyAt self content
    have apart : ∀ index tool, self.tools.lookup index = some tool →
        self.output.length ≠ tool.outputIndex := fun _ _ known =>
      (slots.tool_below known).ne'
    refine ⟨grown, announcing.order, ?_, ?_, ?_, ?_⟩
    · intro i owner owns shown
      cases owner with
      | message =>
        cases owns
        refine ⟨self.startedMessage, ?_⟩
        rw [itemsAt_append, (announcing.fresh _ (Nat.le_refl _)).itemsAt]
        simp [itemsAt, ResponseEvent.itemAt]
      | tool index =>
        obtain ⟨tool, known, slot⟩ := lookup_of_place owns
        rw [OpenAt, itemsAt_elsewhere _ (only.untouched (slot ▸ apart index tool known))]
        exact announcing.shown i (.tool index) owns shown
    · intro i owner owns hidden
      cases owner with
      | message => exact absurd trivial hidden
      | tool index =>
        obtain ⟨tool, known, slot⟩ := lookup_of_place owns
        rw [itemsAt_elsewhere _ (only.untouched (slot ▸ apart index tool known))]
        exact announcing.hidden i (.tool index) owns hidden
    · intro i outside
      rw [List.length_append, List.length_singleton] at outside
      exact (announcing.fresh i (by omega)).append (only.untouched (by omega))
    · intro response member
      rcases List.mem_append.mp member with member | member
      · exact announcing.unended response member
      · simp at member

theorem registerTool_announcing {past : List ResponseEvent} {self : ChatSseToResponses}
    (announcing : Announcing past self) (index : Nat) :
    Announcing past (self.registerTool index) := by
  have grown := registerTool_slots announcing.slots index
  cases known : self.tools.lookup index with
  | some tool =>
    rw [registerTool_known known]
    exact announcing
  | none =>
    have unlisted : index ∉ self.toolOrder := by
      intro listed
      apply (announcing.slots.listed index).mp listed
      rw [place, known, Option.map_none]
    rw [registerTool_fresh known] at grown ⊢
    have before : ∀ other, other ≠ index →
        (self.tools.insert index self.freshTool).lookup other = self.tools.lookup other :=
      fun other different => AList.lookup_insert_ne different
    refine ⟨grown, ?_, ?_, ?_, ?_, announcing.unended⟩
    · exact List.nodup_append_comm.mp (List.nodup_cons.mpr ⟨unlisted, announcing.order⟩)
    · intro i owner owns shown
      cases owner with
      | message => exact announcing.shown i .message owns shown
      | tool other =>
        obtain ⟨tool, found, emitted⟩ := shown
        by_cases same : other = index
        · subst same
          rw [AList.lookup_insert] at found
          cases found
          cases emitted
        · have looked := before other same
          rw [looked] at found
          have owned : self.place other = some i := by
            rw [← owns]
            exact congrArg (Option.map _) looked.symm
          exact announcing.shown i (.tool other) owned ⟨tool, found, emitted⟩
    · intro i owner owns hidden
      cases owner with
      | message => exact absurd trivial hidden
      | tool other =>
        by_cases same : other = index
        · subst same
          obtain ⟨tool, found, slot⟩ := lookup_of_place owns
          rw [AList.lookup_insert] at found
          cases found
          rw [← slot]
          exact (announcing.fresh _ (Nat.le_refl _)).itemsAt
        · have looked := before other same
          have owned : self.place other = some i := by
            rw [← owns]
            exact congrArg (Option.map _) looked.symm
          apply announcing.hidden i (.tool other) owned
          rintro ⟨tool, found, emitted⟩
          exact hidden ⟨tool, looked.trans found, emitted⟩
    · intro i outside
      rw [List.length_append, List.length_singleton] at outside
      exact announcing.fresh i (by omega)

theorem storeTool_announcing {past : List ResponseEvent} {self : ChatSseToResponses} {index : Nat}
    {tool stored : StreamToolCall} (announcing : Announcing past self)
    (known : self.tools.lookup index = some tool) (slot : stored.outputIndex = tool.outputIndex)
    (emitted : stored.emitted = tool.emitted) : Announcing past (self.storeTool index stored) := by
  have same := storeTool_sameSlots known slot
  have shown : ∀ owner, Shown (self.storeTool index stored) owner ↔ Shown self owner := by
    intro owner
    cases owner with
    | message => exact Iff.rfl
    | tool other =>
      by_cases here : other = index
      · subst here
        simp [Shown, storeTool_lookup_self, known, emitted]
      · rw [Shown, Shown, storeTool_lookup_ne self stored here]
  refine ⟨announcing.slots.same same, announcing.order, ?_, ?_, announcing.fresh,
    announcing.unended⟩
  · intro i owner owns isShown
    exact announcing.shown i owner (same.owns.mp owns) ((shown owner).mp isShown)
  · intro i owner owns hidden
    apply announcing.hidden i owner (same.owns.mp owns)
    exact fun isShown => hidden ((shown owner).mpr isShown)

theorem takeDelta_announcing {past : List ResponseEvent} {self : ChatSseToResponses}
    (announcing : Announcing past self) (delta : ToolDelta) :
    Announcing past (self.takeDelta delta) := by
  have registered := registerTool_announcing announcing delta.index
  unfold takeDelta extendTool
  cases known : (self.registerTool delta.index).tools.lookup delta.index with
  | none => exact registered
  | some tool =>
    exact @storeTool_announcing past _ delta.index tool (StreamToolCall.extend tool delta)
      registered known rfl rfl

section Tools

variable (crates : Crates)

theorem nameTool_emitted (responseId : String) (index : Nat) (force : Bool)
    (tool : StreamToolCall) :
    (nameTool crates responseId index force tool).emitted = tool.emitted := by
  unfold nameTool
  split <;> rfl

theorem emission_itemsAt (self : ChatSseToResponses) (tool : StreamToolCall) (index : Nat) :
    itemsAt (announcement crates self tool index ++ fragment crates self tool index)
        tool.outputIndex =
      if tool.emitted then [] else [.added (startedTool crates self.context tool index)] := by
  have silent : itemsAt (fragment crates self tool index) tool.outputIndex = [] := by
    unfold fragment
    split <;> rfl
  rw [itemsAt_append, silent, List.append_nil]
  unfold announcement
  split
  · rfl
  · simp [itemsAt, ResponseEvent.itemAt]

theorem emission_unended (self : ChatSseToResponses) (tool : StreamToolCall) (index : Nat)
    (response : Json) : .completed response ∉
      announcement crates self tool index ++ fragment crates self tool index := by
  intro member
  rcases List.mem_append.mp member with member | member
  · cases announcement_onlyAt crates self tool index _ member
  · cases fragment_onlyAt crates self tool index _ member

omit crates in
theorem hidden_of_lookup {self : ChatSseToResponses} {index : Nat} {tool : StreamToolCall}
    (known : self.tools.lookup index = some tool) (unsent : ¬tool.emitted = true) :
    ¬Shown self (.tool index) := by
  rintro ⟨found, looked, emitted⟩
  cases known.symm.trans looked
  exact unsent emitted

omit crates in
theorem shown_elsewhere {before after : ChatSseToResponses} {index : Nat}
    (looked : ∀ other, other ≠ index → after.tools.lookup other = before.tools.lookup other)
    {owner : Owner} (different : owner ≠ .tool index) :
    Shown after owner ↔ Shown before owner := by
  cases owner with
  | message => exact Iff.rfl
  | tool other =>
    have distinct : other ≠ index := fun same => different (by rw [same])
    rw [Shown, Shown, looked other distinct]

theorem emitTool_announcing {past : List SentEvent} {self : ChatSseToResponses} {index : Nat}
    (announcing : Announcing (told past) self) (force : Bool) :
    (emitTool crates self index force).Reaches past (Told Announcing) := by
  cases known : self.tools.lookup index with
  | none =>
    simp only [emitTool, known]
    exact Emission.reaches_silent announcing
  | some tool =>
    have slot := nameTool_outputIndex crates self.responseId index force tool
    have flag := nameTool_emitted crates self.responseId index force tool
    by_cases unnamed : (nameTool crates self.responseId index force tool).name = "" ∨
        (nameTool crates self.responseId index force tool).callId = ""
    · rw [emitTool_unnamed crates known unnamed]
      exact Emission.reaches_silent (storeTool_announcing announcing known slot flag)
    · obtain ⟨events, sequence, state⟩ := emitTool_named crates known unnamed
      have same := emitTool_sameSlots crates self index force
      have only := (announcement_onlyAt crates self _ index).append
        (fragment_onlyAt crates self (nameTool crates self.responseId index force tool) index)
      have said := emission_itemsAt crates self (nameTool crates self.responseId index force tool)
        index
      have unended := emission_unended crates self
        (nameTool crates self.responseId index force tool) index
      rw [Emission.Reaches, Told, told_append, events]
      rw [state] at same ⊢
      revert slot flag same only said unended
      generalize nameTool crates self.responseId index force tool = tool'
      intro slot flag same only said unended
      have slots := announcing.slots
      rw [slot, flag] at said
      rw [slot] at only
      -- Of the other items nothing is told, and they are shown as before.
      have apart : ∀ i owner, owner ≠ .tool index → Owns self i owner →
          Untouched (announcement crates self tool' index ++ fragment crates self tool' index)
            i := by
        intro i owner different owns
        apply only.untouched
        intro taken
        apply different
        exact slots.unique i owner (.tool index) owns (taken ▸ place_of_lookup known)
      have looked : ∀ other, other ≠ index →
          (self.tools.insert index (StreamToolCall.sent tool')).lookup other =
            self.tools.lookup other := fun other different => AList.lookup_insert_ne different
      refine ⟨slots.same same, announcing.order, ?_, ?_, ?_, ?_⟩
      · intro i owner owns shown
        have owned := same.owns.mp owns
        by_cases itself : owner = .tool index
        · subst itself
          have here : tool.outputIndex = i :=
            Option.some.inj ((place_of_lookup known).symm.trans owned)
          subst here
          rw [OpenAt, itemsAt_append, said]
          by_cases emitted : tool.emitted = true
          · obtain ⟨added, was⟩ := announcing.shown _ _ owned ⟨tool, known, emitted⟩
            exact ⟨added, by rw [was, if_pos emitted, List.append_nil]⟩
          · have was := announcing.hidden _ _ owned (hidden_of_lookup known emitted)
            exact ⟨_, by rw [was, if_neg emitted, List.nil_append]⟩
        · rw [OpenAt, itemsAt_elsewhere _ (apart i owner itself owned)]
          exact announcing.shown i owner owned ((shown_elsewhere looked itself).mp shown)
      · intro i owner owns hidden
        have owned := same.owns.mp owns
        by_cases itself : owner = .tool index
        · subst itself
          exact absurd ⟨_, AList.lookup_insert _, rfl⟩ hidden
        · rw [itemsAt_elsewhere _ (apart i owner itself owned)]
          exact announcing.hidden i owner owned fun shown =>
            hidden ((shown_elsewhere looked itself).mpr shown)
      · intro i outside
        rw [announcedOutput_length] at outside
        have below := slots.tool_below known
        exact (announcing.fresh i outside).append (only.untouched (by omega))
      · intro response member
        rcases List.mem_append.mp member with member | member
        · exact announcing.unended response member
        · exact unended response member

theorem forceTool_shown (self : ChatSseToResponses) (index : Nat) {owner : Owner} :
    (owner = .tool index ∧ self.place index ≠ none) ∨ Shown self owner →
      Shown (emitTool crates self index true).state owner := by
  intro shown
  have looked : ∀ other, other ≠ index →
      (emitTool crates self index true).state.tools.lookup other = self.tools.lookup other := by
    intro other different
    rw [forceTool_lookup, if_neg different]
  by_cases itself : owner = .tool index
  · subst itself
    have placed : self.place index ≠ none := by
      rcases shown with ⟨-, placed⟩ | ⟨tool, known, -⟩
      · exact placed
      · rw [place_of_lookup known]
        exact Option.some_ne_none _
    obtain ⟨i, owns⟩ := Option.ne_none_iff_exists'.mp placed
    obtain ⟨tool, known, -⟩ := lookup_of_place owns
    refine ⟨StreamToolCall.sent (nameTool crates self.responseId index true tool), ?_, rfl⟩
    rw [forceTool_lookup, if_pos rfl, known]
    rfl
  · apply (shown_elsewhere looked itself).mpr
    rcases shown with ⟨same, -⟩ | shown
    · exact absurd same itself
    · exact shown

/-- Every item was added; what is left to be finished belongs to an owner in `left`. -/
structure Retiring (left : Owner → Prop) (past : List ResponseEvent)
    (stream : ChatSseToResponses) : Prop where
  slots : Slots stream
  order : stream.toolOrder.Nodup
  emitted : ∀ index tool, stream.tools.lookup index = some tool → tool.emitted = true
  pending : ∀ i owner, Owns stream i owner → left owner → OpenAt past i
  closed : ∀ i owner, Owns stream i owner → ¬left owner → ClosedAt stream.output past i
  fresh : ∀ i, stream.output.length ≤ i → Untouched past i
  unended : ∀ response, .completed response ∉ past

omit crates in
theorem Retiring.narrow {left fewer : Owner → Prop} {past : List ResponseEvent}
    {self : ChatSseToResponses} (retiring : Retiring left past self)
    (same : ∀ i owner, Owns self i owner → (fewer owner ↔ left owner)) :
    Retiring fewer past self := by
  refine ⟨retiring.slots, retiring.order, retiring.emitted, ?_, ?_, retiring.fresh,
    retiring.unended⟩
  · intro i owner owns pending
    exact retiring.pending i owner owns ((same i owner owns).mp pending)
  · intro i owner owns done
    exact retiring.closed i owner owns fun pending => done ((same i owner owns).mpr pending)

omit crates in
theorem Retiring.same {left : Owner → Prop} {past : List ResponseEvent}
    {before after : ChatSseToResponses} (retiring : Retiring left past before)
    (same : SameContent before after) : Retiring left past after := by
  have slots := same.sameSlots
  refine ⟨retiring.slots.same slots, ?_, ?_, ?_, ?_, ?_, retiring.unended⟩
  · rw [same.toolOrder]
    exact retiring.order
  · rw [same.tools]
    exact retiring.emitted
  · intro i owner owns
    exact retiring.pending i owner (slots.owns.mp owns)
  · intro i owner owns
    rw [same.output]
    exact retiring.closed i owner (slots.owns.mp owns)
  · rw [same.output]
    exact retiring.fresh

omit crates in
theorem Retiring.finish {left : Owner → Prop} {past more : List ResponseEvent}
    {self : ChatSseToResponses} (retiring : Retiring left past self) {slot : Nat} {owner : Owner}
    (owns : Owns self slot owner) (pending : left owner) {item : Json} (only : OnlyAt more slot)
    (done : itemsAt more slot = [.done item]) (written : item.isNull = false) :
    Retiring (fun other => left other ∧ other ≠ owner) (past ++ more)
      { self with output := self.output.set slot item } := by
  have slots := retiring.slots
  have same : SameSlots self { self with output := self.output.set slot item } :=
    ⟨rfl, fun _ => rfl, List.length_set, rfl, rfl, id⟩
  have below := slots.below slot owner owns
  have apart : ∀ i other, Owns self i other → other ≠ owner → slot ≠ i := by
    intro i other owned different here
    subst here
    exact different (slots.unique slot other owner owned owns)
  refine ⟨slots.same same, retiring.order, retiring.emitted, ?_, ?_, ?_, ?_⟩
  · intro i other owned waits
    have owned := same.owns.mp owned
    rw [OpenAt, itemsAt_elsewhere _ (only.untouched (apart i other owned waits.2))]
    exact retiring.pending i other owned waits.1
  · intro i other owned settled
    have owned := same.owns.mp owned
    by_cases itself : other = owner
    · subst itself
      have here : slot = i := by
        cases other with
        | message => exact Option.some.inj (owns.symm.trans owned)
        | tool index => exact Option.some.inj (owns.symm.trans owned)
      subst here
      obtain ⟨added, was⟩ := retiring.pending slot other owns pending
      refine ⟨added, item, ?_, List.getElem?_set_self below, written⟩
      rw [itemsAt_append, was, done]
      rfl
    · have elsewhere := apart i other owned itself
      have was := retiring.closed i other owned fun waits => settled ⟨waits, itself⟩
      obtain ⟨added, found, items, stands, written⟩ := was
      refine ⟨added, found, ?_, ?_, written⟩
      · rw [itemsAt_elsewhere _ (only.untouched elsewhere)]
        exact items
      · exact (List.getElem?_set_ne elsewhere).trans stands
  · intro i outside
    rw [List.length_set] at outside
    exact (retiring.fresh i outside).append (only.untouched (by omega))
  · intro response member
    rcases List.mem_append.mp member with member | member
    · exact retiring.unended response member
    · cases only _ member

omit crates in
theorem Announcing.retiring {past : List ResponseEvent} {self : ChatSseToResponses}
    (announcing : Announcing past self)
    (shown : ∀ index ∈ self.toolOrder, Shown self (.tool index)) :
    Retiring (fun _ => True) past self := by
  have listed : ∀ index i, self.place index = some i → Shown self (.tool index) := by
    intro index i owns
    apply shown
    apply (announcing.slots.listed index).mpr
    rw [owns]
    exact Option.some_ne_none _
  refine ⟨announcing.slots, announcing.order, ?_, ?_, ?_, announcing.fresh, announcing.unended⟩
  · intro index tool known
    obtain ⟨found, looked, emitted⟩ := listed index _ (place_of_lookup known)
    cases known.symm.trans looked
    exact emitted
  · intro i owner owns _
    apply announcing.shown i owner owns
    cases owner with
    | message => trivial
    | tool index => exact listed index i owns
  · intro i owner _ left
    exact absurd trivial left

theorem forceTools_retiring {past : List SentEvent} {self : ChatSseToResponses}
    (announcing : Announcing (told past) self) :
    (Emission.forEach (fun self index => emitTool crates self index true) self
      self.toolOrder).Reaches past (Told (Retiring fun _ => True)) := by
  have looped := @Emission.reaches_forEach_each _ _ _
    (fun past next => Announcing (told past) next ∧ next.toolOrder = self.toolOrder) past self
    (fun self index => emitTool crates self index true)
    (fun index _ next => index ∈ self.toolOrder → Shown next (.tool index)) self.toolOrder
    ?_ ?_ ?_ ⟨announcing, rfl⟩
  · apply looped.weaken
    intro past next reached
    obtain ⟨⟨announcing, order⟩, shown⟩ := reached
    apply announcing.retiring
    intro index listed
    rw [order] at listed
    exact shown index listed listed
  · intro past next index holds
    refine ⟨emitTool_announcing crates holds.1 true, ?_⟩
    rw [(emitTool_sameSlots crates next index true).order]
    exact holds.2
  · intro past next index holds listed
    apply forceTool_shown
    left
    refine ⟨rfl, (holds.1.slots.listed index).mp ?_⟩
    rw [holds.2]
    exact listed
  · intro past next index other holds shown listed
    apply forceTool_shown
    right
    exact shown listed

omit crates in
theorem completeMessage_retiring {past : List SentEvent} {self : ChatSseToResponses}
    (retiring : Retiring (fun _ => True) (told past) self) :
    self.completeMessage.Reaches past (Told (Retiring fun owner => owner ≠ .message)) := by
  cases place : self.messageIndex with
  | none =>
    rw [completeMessage_absent place]
    apply Emission.reaches_silent
    apply retiring.narrow
    intro i owner owns
    refine ⟨fun _ => trivial, fun _ same => ?_⟩
    subst same
    cases place.symm.trans owns
  | some i =>
    obtain ⟨events, sequence, state⟩ := completeMessage_present retiring.slots place
    have only : OnlyAt (told self.completeMessage.events) i := by
      rw [events]
      simp [OnlyAt, ResponseEvent.place]
    have done : itemsAt (told self.completeMessage.events) i = [.done self.completedMessage] := by
      rw [events]
      simp [itemsAt, List.filterMap_cons, ResponseEvent.itemAt]
    have finished := @Retiring.finish _ _ _ self retiring i .message place trivial _ only done rfl
    rw [Emission.Reaches, Told, told_append, state]
    have same : SameContent { self with output := self.output.set i self.completedMessage }
        { self with sequence, output := self.output.set i self.completedMessage } :=
      ⟨rfl, rfl, rfl, rfl, rfl, rfl, rfl, rfl, id⟩
    apply (finished.same same).narrow
    intro _ owner _
    exact (true_and _).to_iff.symm

theorem completedTool_written (context : ConversionContext) (tool : StreamToolCall)
    (index : Nat) : (completedTool crates context tool index).isNull = false := by
  have payload := completedTool_payload crates context tool index
  cases shape : completedTool crates context tool index with
  | null =>
    rw [shape] at payload
    cases payload
  | _ => rfl

theorem closing_itemsAt (slot : Nat) (item : Json) :
    itemsAt (closing slot item) slot = [.done item] := by
  simp [itemsAt, ChatSseToResponses.closing, List.filterMap_cons, ResponseEvent.itemAt]

theorem completeTool_retiring {past : List SentEvent} {self : ChatSseToResponses} {index : Nat}
    {rest : List Nat} (unlisted : index ∉ rest)
    (retiring : Retiring (fun owner => ∃ other ∈ index :: rest, owner = .tool other) (told past)
      self) :
    (completeTool crates self index).Reaches past
      (Told (Retiring fun owner => ∃ other ∈ rest, owner = .tool other)) := by
  cases known : self.tools.lookup index with
  | none =>
    rw [completeTool_unknown crates known]
    apply Emission.reaches_silent
    apply retiring.narrow
    intro i owner owns
    constructor
    · rintro ⟨other, listed, same⟩
      exact ⟨other, List.mem_cons_of_mem _ listed, same⟩
    · rintro ⟨other, listed, same⟩
      subst same
      rcases List.mem_cons.mp listed with same | listed
      · subst same
        obtain ⟨tool, found, -⟩ := lookup_of_place owns
        cases known.symm.trans found
      · exact ⟨other, listed, rfl⟩
  | some tool =>
    obtain ⟨events, sequence, state⟩ := completeTool_known crates known
    have owns : Owns self tool.outputIndex (.tool index) := place_of_lookup known
    have finished := retiring.finish owns ⟨index, List.mem_cons_self, rfl⟩
      (closing_onlyAt tool.outputIndex (completedTool crates self.context tool index))
      (closing_itemsAt _ _) (completedTool_written crates self.context tool index)
    rw [Emission.Reaches, Told, told_append, state, events]
    have same : ∀ item, SameContent { self with output := self.output.set tool.outputIndex item }
        { self with sequence, output := self.output.set tool.outputIndex item } :=
      fun _ => ⟨rfl, rfl, rfl, rfl, rfl, rfl, rfl, rfl, id⟩
    apply (finished.same (same _)).narrow
    intro i owner _
    constructor
    · rintro ⟨other, listed, same⟩
      refine ⟨⟨other, List.mem_cons_of_mem _ listed, same⟩, ?_⟩
      rw [same]
      intro itself
      cases itself
      exact unlisted listed
    · rintro ⟨⟨other, listed, same⟩, different⟩
      rcases List.mem_cons.mp listed with itself | listed
      · rw [itself] at same
        exact absurd same different
      · exact ⟨other, listed, same⟩

theorem closeAll_retiring {past : List SentEvent} {self : ChatSseToResponses}
    (retiring : Retiring (fun _ => True) (told past) self) :
    (self.completeMessage.andThen fun self =>
      Emission.forEach (completeTool crates) self self.toolOrder).Reaches past
        (Told (Retiring fun _ => False)) := by
  apply Emission.Reaches.andThen (completeMessage_retiring retiring)
  intro past next retiring
  have begun : Retiring (fun owner => ∃ other ∈ next.toolOrder, owner = .tool other) (told past)
      next := by
    apply retiring.narrow
    intro i owner owns
    constructor
    · rintro ⟨other, -, same⟩
      rw [same]
      intro message
      cases message
    · intro different
      cases owner with
      | message => exact absurd rfl different
      | tool index =>
        refine ⟨index, (retiring.slots.listed index).mpr ?_, rfl⟩
        rw [show next.place index = some i from owns]
        exact Option.some_ne_none _
  have looped := @Emission.reaches_forEach_left _ _ _ past next (completeTool crates)
    (fun rest past last => rest.Nodup ∧
      Retiring (fun owner => ∃ other ∈ rest, owner = .tool other) (told past) last) ?_
    next.toolOrder ⟨retiring.order, begun⟩
  · apply looped.weaken
    intro past last reached
    apply reached.2.narrow
    intro i owner _
    simp
  · intro index rest past last holds
    obtain ⟨unlisted, distinct⟩ := List.nodup_cons.mp holds.1
    exact ⟨distinct, completeTool_retiring crates unlisted holds.2⟩

/-- The stream was completed with `output`, and its items are told of no more. -/
structure Concluded (output : List Json) (past : List ResponseEvent)
    (stream : ChatSseToResponses) : Prop where
  slots : Slots stream
  grown : output.length ≤ stream.output.length
  emitted : ∀ index tool, stream.tools.lookup index = some tool →
    tool.outputIndex < output.length → tool.emitted = true
  closed : ∀ i, i < output.length → ClosedAt output past i
  ended : ∃ before response after, past = before ++ .completed response :: after ∧
    response.get "output" = some (.array output) ∧
    (∀ event ∈ before, ∀ i, event.place = some i → i < output.length) ∧
    (∀ other, .completed other ∉ before) ∧ ∀ other, .completed other ∉ after

omit crates in
theorem Concluded.outputFinal {output : List Json} {past : List ResponseEvent}
    {self : ChatSseToResponses} (concluded : Concluded output past self) : OutputFinal past := by
  obtain ⟨before, last, after, shape, shown, places, first, single⟩ := concluded.ended
  intro response member
  have same : response = last := by
    rw [shape] at member
    rcases List.mem_append.mp member with member | member
    · exact absurd member (first response)
    · rcases List.mem_cons.mp member with same | member
      · exact ResponseEvent.completed.inj same
      · exact absurd member (single response)
  subst same
  exact ⟨output, shown, concluded.closed, before, after, shape, places⟩

omit crates in
theorem Concluded.tell {output : List Json} {past more : List ResponseEvent}
    {self : ChatSseToResponses} (concluded : Concluded output past self)
    (nothing : ∀ i, i < output.length → itemsAt more i = [])
    (unended : ∀ response, .completed response ∉ more) :
    Concluded output (past ++ more) self := by
  refine ⟨concluded.slots, concluded.grown, concluded.emitted, ?_, ?_⟩
  · intro i below
    obtain ⟨added, item, items, stands, written⟩ := concluded.closed i below
    refine ⟨added, item, ?_, stands, written⟩
    rw [itemsAt_append, items, nothing i below]
    rfl
  · obtain ⟨before, last, after, shape, shown, places, first, single⟩ := concluded.ended
    refine ⟨before, last, after ++ more, ?_, shown, places, first, ?_⟩
    · rw [shape, List.append_assoc, List.cons_append]
    · intro other member
      rcases List.mem_append.mp member with member | member
      · exact single other member
      · exact unended other member

theorem complete_concluded {past : List SentEvent} {self : ChatSseToResponses}
    (announcing : Announcing (told past) self) (unfinished : self.terminal = false) :
    (complete crates self).Reaches past fun past next =>
      next.terminal = true ∧ ∃ output, Concluded output (told past) next := by
  rw [complete, if_neg (by simp [unfinished]), Emission.andThen_assoc, Emission.andThen_assoc]
  refine Emission.Reaches.andThen (Q := Told (Retiring fun _ => True))
    (forceTools_retiring crates announcing) ?_
  intro past self retiring
  rw [← Emission.andThen_assoc]
  apply Emission.Reaches.andThen (closeAll_retiring crates retiring)
  intro past self retiring
  refine ⟨rfl, self.output, ?_⟩
  rw [told_append]
  have slots := retiring.slots
  have kept : SameSlots self self.sendCompleted.state := ⟨rfl, fun _ => rfl, rfl, rfl, rfl, id⟩
  refine ⟨slots.same kept, Nat.le_refl _, ?_, ?_, ?_⟩
  · intro index tool known _
    exact retiring.emitted index tool known
  · intro i below
    obtain ⟨owner, owns⟩ := slots.covered i below
    obtain ⟨added, item, items, stands, written⟩ := retiring.closed i owner owns id
    refine ⟨added, item, ?_, stands, written⟩
    rw [itemsAt_append, items]
    rfl
  · refine ⟨told past, _, [], rfl, rfl, ?_, retiring.unended, ?_⟩
    · intro event member i place
      by_contra outside
      exact retiring.fresh i (by omega) event member place
    · intro other member
      cases member

omit crates in
theorem Concluded.same {output : List Json} {past : List ResponseEvent}
    {before after : ChatSseToResponses} (concluded : Concluded output past before)
    (slots : SameSlots before after) (tools : after.tools = before.tools) :
    Concluded output past after := by
  refine ⟨concluded.slots.same slots, ?_, ?_, concluded.closed, concluded.ended⟩
  · rw [slots.length]
    exact concluded.grown
  · rw [tools]
    exact concluded.emitted

omit crates in
theorem concluded_aboutItems (output : List Json) : AboutItems (Concluded output) := by
  constructor
  · intro past before after same concluded
    exact concluded.same same.sameSlots same.tools
  · intro past before after first second adopts concluded
    have told := @Concluded.tell output past [.created first, .inProgress second] before concluded
      (fun _ _ => rfl) (by simp)
    exact told.same adopts.sameSlots adopts.tools

omit crates in
theorem appendText_concluded {past : List SentEvent} {self : ChatSseToResponses}
    {output : List Json} (concluded : Concluded output (told past) self)
    (started : self.created = true) (content : String) :
    (self.appendText content).Reaches past (Told (Concluded output)) := by
  have slots := concluded.slots
  have grown := appendText_slots slots started content
  rw [Emission.Reaches, Told, told_append]
  cases place : self.messageIndex with
  | some i =>
    rw [appendText_present slots place] at grown ⊢
    rw [told_send]
    have said := @Concluded.tell output (told past) [.outputTextDelta self.messageId i content] self
      concluded (fun _ _ => rfl) (by simp)
    exact ⟨grown, concluded.grown, concluded.emitted, said.closed, said.ended⟩
  | none =>
    obtain ⟨events, sequence, state⟩ := appendText_absent slots place content
    rw [state] at grown ⊢
    rw [events]
    have only := startedText_onlyAt self content
    have beyond := concluded.grown
    have said := concluded.tell
      (fun i below => (only.untouched (i := self.output.length) (by omega)).itemsAt) (by simp)
    refine ⟨grown, ?_, concluded.emitted, said.closed, said.ended⟩
    rw [List.length_append]
    omega

omit crates in
theorem registerTool_concluded {past : List ResponseEvent} {self : ChatSseToResponses}
    {output : List Json} (concluded : Concluded output past self) (index : Nat) :
    Concluded output past (self.registerTool index) := by
  have grown := registerTool_slots concluded.slots index
  cases known : self.tools.lookup index with
  | some tool =>
    rw [registerTool_known known]
    exact concluded
  | none =>
    rw [registerTool_fresh known] at grown ⊢
    have beyond := concluded.grown
    refine ⟨grown, ?_, ?_, concluded.closed, concluded.ended⟩
    · rw [List.length_append]
      omega
    · intro other tool looked below
      by_cases same : other = index
      · subst same
        rw [AList.lookup_insert] at looked
        cases looked
        exact absurd below (Nat.not_lt.mpr beyond)
      · rw [AList.lookup_insert_ne same] at looked
        exact concluded.emitted other tool looked below

omit crates in
theorem storeTool_concluded {past : List ResponseEvent} {self : ChatSseToResponses}
    {output : List Json} {index : Nat} {tool stored : StreamToolCall}
    (concluded : Concluded output past self) (known : self.tools.lookup index = some tool)
    (slot : stored.outputIndex = tool.outputIndex)
    (emitted : tool.emitted = true → stored.emitted = true) :
    Concluded output past (self.storeTool index stored) := by
  refine ⟨concluded.slots.same (storeTool_sameSlots known slot), concluded.grown, ?_,
    concluded.closed, concluded.ended⟩
  intro other found looked below
  by_cases same : other = index
  · subst same
    rw [storeTool_lookup_self] at looked
    cases looked
    rw [slot] at below
    exact emitted (concluded.emitted other tool known below)
  · rw [storeTool_lookup_ne self stored same] at looked
    exact concluded.emitted other found looked below

omit crates in
theorem takeDelta_concluded {past : List ResponseEvent} {self : ChatSseToResponses}
    {output : List Json} (concluded : Concluded output past self) (delta : ToolDelta) :
    Concluded output past (self.takeDelta delta) := by
  have registered := registerTool_concluded concluded delta.index
  unfold takeDelta extendTool
  cases known : (self.registerTool delta.index).tools.lookup delta.index with
  | none => exact registered
  | some tool =>
    exact @storeTool_concluded past _ output delta.index tool (StreamToolCall.extend tool delta)
      registered known rfl id

theorem emitTool_concluded {past : List SentEvent} {self : ChatSseToResponses}
    {output : List Json} (concluded : Concluded output (told past) self) (index : Nat)
    (force : Bool) : (emitTool crates self index force).Reaches past (Told (Concluded output)) := by
  cases known : self.tools.lookup index with
  | none =>
    simp only [emitTool, known]
    exact Emission.reaches_silent concluded
  | some tool =>
    have slot := nameTool_outputIndex crates self.responseId index force tool
    have flag := nameTool_emitted crates self.responseId index force tool
    by_cases unnamed : (nameTool crates self.responseId index force tool).name = "" ∨
        (nameTool crates self.responseId index force tool).callId = ""
    · rw [emitTool_unnamed crates known unnamed]
      exact Emission.reaches_silent
        (storeTool_concluded concluded known slot fun emitted => flag.trans emitted)
    · obtain ⟨events, sequence, state⟩ := emitTool_named crates known unnamed
      have only := (announcement_onlyAt crates self _ index).append
        (fragment_onlyAt crates self (nameTool crates self.responseId index force tool) index)
      have said := emission_itemsAt crates self (nameTool crates self.responseId index force tool)
        index
      rw [Emission.Reaches, Told, told_append, events, state]
      rw [slot, flag] at said
      rw [slot] at only
      have nothing : ∀ i, i < output.length →
          itemsAt (announcement crates self (nameTool crates self.responseId index force tool) index
            ++ fragment crates self (nameTool crates self.responseId index force tool) index) i =
            [] := by
        intro i below
        by_cases here : tool.outputIndex = i
        · subst here
          rw [said, if_pos (concluded.emitted index tool known below)]
        · exact (only.untouched here).itemsAt
      have told := concluded.tell nothing
        (emission_unended crates self (nameTool crates self.responseId index force tool) index)
      have stored := @storeTool_concluded _ self output index tool
        (StreamToolCall.sent (nameTool crates self.responseId index force tool)) told known slot
        fun _ => rfl
      refine stored.same ⟨rfl, fun _ => rfl, ?_, rfl, rfl, id⟩ rfl
      exact announcedOutput_length crates self _ index

/-- The items of an open or failed stream are announced, those of a completed one concluded. -/
def Itemized (past : List SentEvent) (self : ChatSseToResponses) : Prop :=
  Announcing (told past) self ∨
    self.terminal = true ∧ ∃ output, Concluded output (told past) self

theorem processChunk_kept_items {P : List ResponseEvent → ChatSseToResponses → Prop}
    (about : AboutItems P)
    (text : ∀ {past : List SentEvent} {self : ChatSseToResponses}, P (told past) self →
      self.created = true → ∀ content, (self.appendText content).Reaches past (Told P))
    (delta : ∀ {past : List ResponseEvent} {self : ChatSseToResponses}, P past self →
      ∀ delta, P past (self.takeDelta delta))
    (emit : ∀ {past : List SentEvent} {self : ChatSseToResponses}, P (told past) self →
      ∀ index, (emitTool crates self index false).Reaches past (Told P))
    {past : List SentEvent} {self : ChatSseToResponses} (holds : P (told past) self)
    (chunk : Json) : (processChunk crates self chunk).Reaches past (Told P) := by
  apply processChunk_about crates about _ _ holds
  · intro choice members _ _ past self content _ holds started
    exact text holds started content
  · intro choice members past _ _ holds
    refine Emission.reaches_forEach (P := Told P) ?_ holds
    intro past self read _ holds
    exact emit (delta holds _) _

theorem fail_itemized {past : List SentEvent} {self : ChatSseToResponses}
    (itemized : Itemized past self) (message : String) :
    (self.fail message).Reaches past Itemized := by
  rcases itemized with announcing | concluded
  · left
    apply fail_about announcing_aboutItems _ _ announcing message
    · intro past self message announcing
      apply announcing.tellOther
      · simp [Untouched, ResponseEvent.place]
      · simp
    · intro past self response announcing
      apply announcing.tellOther
      · simp [Untouched, ResponseEvent.place]
      · simp
  · rw [fail_ended concluded.1]
    exact Emission.reaches_silent (.inr concluded)

theorem processFrame_itemized {past : List SentEvent} {self : ChatSseToResponses}
    (itemized : Itemized past self) (frame : Frame) :
    (processFrame crates self frame).Reaches past Itemized := by
  cases frame with
  | ignored => exact Emission.reaches_silent itemized
  | failure message => exact fail_itemized itemized message
  | done =>
    have slots : SameSlots self { self with sawDone := true } :=
      ⟨rfl, fun _ => rfl, rfl, rfl, rfl, id⟩
    rw [processFrame]
    by_cases ended : self.terminal = true
    · rw [complete_ended crates (by exact ended)]
      apply Emission.reaches_silent
      rcases itemized with announcing | ⟨terminal, output, concluded⟩
      · exact .inl (announcing.same slots rfl)
      · exact .inr ⟨terminal, output, concluded.same slots rfl⟩
    · rcases itemized with announcing | concluded
      · right
        have unfinished : self.terminal = false := by simpa using ended
        exact complete_concluded crates (announcing.same slots rfl) unfinished
      · exact absurd concluded.1 ended
  | chunk chunk =>
    rcases itemized with announcing | ⟨terminal, output, concluded⟩
    · left
      exact processChunk_kept_items crates announcing_aboutItems appendText_announcing
        takeDelta_announcing (fun holds _ => emitTool_announcing crates holds false) announcing
        chunk
    · right
      refine ⟨processFrame_terminal crates terminal (.chunk chunk), output, ?_⟩
      exact processChunk_kept_items crates (concluded_aboutItems output) appendText_concluded
        takeDelta_concluded (fun holds index => emitTool_concluded crates holds index false)
        concluded chunk

theorem itemized_rule : FrameRule crates (fun _ _ => True) Itemized where
  input _ self _ _ itemized := by
    have slots : ∀ decoder totalSeen, SameSlots self
        { self with decoder := decoder, totalSeen := totalSeen } :=
      fun _ _ => ⟨rfl, fun _ => rfl, rfl, rfl, rfl, id⟩
    rcases itemized with announcing | ⟨terminal, output, concluded⟩
    · exact .inl (announcing.same (slots _ _) rfl)
    · exact .inr ⟨terminal, output, concluded.same (slots _ _) rfl⟩
  frame _ _ frame itemized _ := processFrame_itemized crates itemized frame
  fail _ _ message itemized := fail_itemized itemized message

theorem new_announcing (context : ConversionContext) (maxBytes : Nat) :
    Announcing [] (new crates context maxBytes) := by
  have slots := new_slots crates context maxBytes
  have empty : ∀ i owner, ¬Owns (new crates context maxBytes) i owner :=
    fun i owner owns => Nat.not_lt_zero i (slots.below i owner owns)
  refine ⟨slots, List.nodup_nil, ?_, ?_, ?_, ?_⟩
  · intro i owner owns
    exact absurd owns (empty i owner)
  · intro i owner owns
    exact absurd owns (empty i owner)
  · intro i _ event member
    cases member
  · intro response member
    cases member

theorem Itemized.outputFinal {past : List SentEvent} {self : ChatSseToResponses}
    (itemized : Itemized past self) : OutputFinal (told past) := by
  rcases itemized with announcing | ⟨-, output, concluded⟩
  · intro response member
    exact absurd member (announcing.unended response)
  · exact concluded.outputFinal

/-- Every converted stream that is completed ends with each place of its output added once,
finished once after that, and holding what was finished. -/
theorem run_outputFinal (context : ConversionContext) (maxBytes : Nat)
    (pushes : List (List UInt8)) (ending : Ending) :
    OutputFinal (told (run crates context maxBytes pushes ending).events) := by
  have fresh : Itemized [] (new crates context maxBytes) :=
    .inl (new_announcing crates context maxBytes)
  have meets := runMeets_of_forall crates (fun _ _ => trivial) context maxBytes pushes ending
  have itemized := ((itemized_rule crates).run_reaches fresh meets).1
  exact itemized.outputFinal

end Tools

end ChatSseToResponses

end CodexGate.Conversion
