import CodexGate.Conversion.Request

namespace CodexGate.Conversion

open Foundation

/-- What a reader of the messages sees one after the other: messages, and calls on their own. -/
inductive Entry
  | message (message : Json)
  | call (call : Json)

def entries (message : Json) : List Entry :=
  match (message.get "tool_calls").bind Json.asArray with
  | some calls => calls.map .call
  | none => [.message message]

section History

variable (crates : Crates) (context : RequestContext)

def image (item : Json) : Option Entry :=
  match itemKind item with
  | .call => some (.call (convertCallInput crates context item))
  | .message => some (.message (messageInput item))
  | .callOutput => some (.message (callOutputInput crates item))
  | .reasoning =>
    let text := reasoningSummaryText item
    if text = "" then none else some (.message (assistantText text))
  | .itemReference | .unknown => none

def itemWarnings (item : Json) : List String :=
  match itemKind item with
  | .message => (messageContent item).2
  | .itemReference => ["dropped_item_reference"]
  | .unknown => ["dropped_unknown_input_item"]
  | .call | .callOutput | .reasoning => []

def flushed (pending : List Json) : List Json :=
  if pending = [] then [] else [toolCallsMessage pending]

def produced (pending : List Json) : List Json → List Json
  | [] => flushed pending
  | item :: rest =>
    match image crates context item with
    | some (.call call) => produced (pending ++ [call]) rest
    | some (.message message) => flushed pending ++ message :: produced [] rest
    | none => flushed pending ++ produced [] rest

variable {crates context}

theorem flushCalls_eq (self : History) :
    self.flushCalls = ⟨self.messages ++ flushed self.pendingCalls, [], self.warnings⟩ := by
  unfold History.flushCalls flushed
  split
  · rename_i empty
    obtain ⟨messages, pending, warnings⟩ := self
    obtain rfl : pending = [] := empty
    simp
  · rfl

theorem convertItem_eq (self : History) (item : Json) :
    self.convertItem crates context item =
      match image crates context item with
      | some (.call call) => { self with pendingCalls := self.pendingCalls ++ [call] }
      | some (.message message) =>
        ⟨self.messages ++ flushed self.pendingCalls ++ [message], [],
          (itemWarnings item).foldl pushWarning self.warnings⟩
      | none =>
        ⟨self.messages ++ flushed self.pendingCalls, [],
          (itemWarnings item).foldl pushWarning self.warnings⟩ := by
  unfold History.convertItem image itemWarnings
  cases itemKind item with
  | call => rfl
  | message => rw [flushCalls_eq]; rfl
  | callOutput => rw [flushCalls_eq]; rfl
  | reasoning =>
    dsimp only
    split
    · exact flushCalls_eq self
    · rw [flushCalls_eq]; rfl
  | itemReference => rw [flushCalls_eq]; rfl
  | unknown => rw [flushCalls_eq]; rfl

theorem itemWarnings_of_call {item call : Json} (image : image crates context item = some (.call call)) :
    itemWarnings item = [] := by
  unfold Conversion.image at image
  unfold itemWarnings
  cases kind : itemKind item with
  | call => rfl
  | message => simp [kind] at image
  | callOutput => rfl
  | reasoning => rfl
  | itemReference => simp [kind] at image
  | unknown => simp [kind] at image

theorem itemWarnings_of_none {item : Json} (image : image crates context item = none) :
    itemWarnings item = [] ∨ itemWarnings item = ["dropped_item_reference"] ∨
      itemWarnings item = ["dropped_unknown_input_item"] := by
  unfold Conversion.image at image
  unfold itemWarnings
  cases kind : itemKind item with
  | message => simp [kind] at image
  | _ => simp

theorem convertItems_eq (items : List Json) (self : History) :
    (items.foldl (History.convertItem crates context) self).flushCalls =
      ⟨self.messages ++ produced crates context self.pendingCalls items, [],
        items.foldl (fun warnings item => (itemWarnings item).foldl pushWarning warnings)
          self.warnings⟩ := by
  induction items generalizing self with
  | nil => exact flushCalls_eq self
  | cons item rest ih =>
    rw [List.foldl_cons, ih, convertItem_eq, produced]
    cases shown : image crates context item with
    | none => simp
    | some entry =>
      cases entry with
      | call call => simp [itemWarnings_of_call shown]
      | message message => simp

theorem convertInput_array (items messages : List Json) (warnings : List String) :
    convertInput crates context (.array items) messages warnings =
      (messages ++ produced crates context [] items,
        items.foldl (fun warnings item => (itemWarnings item).foldl pushWarning warnings)
          warnings) := by
  rw [convertInput, convertItems_eq]

theorem entries_image {item message : Json}
    (shown : image crates context item = some (.message message)) :
    entries message = [.message message] := by
  unfold image at shown
  cases kind : itemKind item with
  | call => simp [kind] at shown
  | message =>
    simp only [kind, Option.some.injEq, Entry.message.injEq] at shown
    rw [← shown]
    rfl
  | callOutput =>
    simp only [kind, Option.some.injEq, Entry.message.injEq] at shown
    rw [← shown]
    rfl
  | reasoning =>
    simp only [kind] at shown
    split at shown
    · cases shown
    · simp only [Option.some.injEq, Entry.message.injEq] at shown
      rw [← shown]
      rfl
  | itemReference => simp [kind] at shown
  | unknown => simp [kind] at shown

theorem entries_flushed (pending : List Json) : (flushed pending).flatMap entries = pending.map .call := by
  unfold flushed
  split
  · rename_i empty
    rw [empty]
    rfl
  · exact List.flatMap_singleton entries (toolCallsMessage pending)

theorem entries_produced (pending items : List Json) :
    (produced crates context pending items).flatMap entries =
      pending.map .call ++ items.filterMap (image crates context) := by
  induction items generalizing pending with
  | nil =>
    rw [List.filterMap_nil, List.append_nil]
    exact entries_flushed pending
  | cons item rest ih =>
    rw [produced]
    cases shown : image crates context item with
    | none => simp [ih, entries_flushed, shown]
    | some entry =>
      cases entry with
      | call call => simp [ih, shown]
      | message message => simp [ih, entries_flushed, entries_image shown, shown]

end History

end CodexGate.Conversion
