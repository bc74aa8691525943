import CodexGate.Conversion.History

namespace CodexGate.Conversion

open Foundation

/-! Which calls come into one message. Only the kind of entry that an item has matters for it. -/

/-- Where a scan of the items stands: behind a call, behind a call and dropped items, or elsewhere. -/
inductive CallRun
  | outside
  | calls
  | interrupted

section Grouping

variable (crates : Crates) (context : RequestContext)

def isDropped (item : Json) : Bool := (image crates context item).isNone

def isCall (item : Json) : Bool :=
  match image crates context item with
  | some (.call _) => true
  | _ => false

/-- Dropped items stand between two calls, with nothing else there. -/
def SplitsCalls (items : List Json) : Prop :=
  ∃ before first gap second after, items = before ++ first :: gap ++ second :: after ∧
    isCall crates context first = true ∧ isCall crates context second = true ∧ gap ≠ [] ∧
      ∀ item ∈ gap, isDropped crates context item = true

def splits : CallRun → List Json → Bool
  | _, [] => false
  | run, item :: rest =>
    match image crates context item, run with
    | some (.call _), .interrupted => true
    | some (.call _), _ => splits .calls rest
    | some (.message _), _ => splits .outside rest
    | none, .outside => splits .outside rest
    | none, _ => splits .interrupted rest

/-- The messages for the items that have an image, with some calls pending before them. -/
def producedShown (pending items : List Json) : List Json :=
  produced crates context pending (items.filter fun item => !isDropped crates context item)

variable {crates context}

section Cons

variable {item : Json} (pending rest : List Json)

theorem produced_call {call : Json} (shown : image crates context item = some (.call call)) :
    produced crates context pending (item :: rest) = produced crates context (pending ++ [call]) rest := by
  rw [produced, shown]

theorem produced_message {message : Json}
    (shown : image crates context item = some (.message message)) :
    produced crates context pending (item :: rest) =
      flushed pending ++ message :: produced crates context [] rest := by
  rw [produced, shown]

theorem produced_dropped (hidden : image crates context item = none) :
    produced crates context pending (item :: rest) =
      flushed pending ++ produced crates context [] rest := by
  rw [produced, hidden]

theorem producedShown_call {call : Json} (shown : image crates context item = some (.call call)) :
    producedShown crates context pending (item :: rest) =
      producedShown crates context (pending ++ [call]) rest := by
  rw [producedShown, List.filter_cons_of_pos (by simp [isDropped, shown]), produced_call _ _ shown,
    producedShown]

theorem producedShown_message {message : Json}
    (shown : image crates context item = some (.message message)) :
    producedShown crates context pending (item :: rest) =
      flushed pending ++ message :: producedShown crates context [] rest := by
  rw [producedShown, List.filter_cons_of_pos (by simp [isDropped, shown]),
    produced_message _ _ shown, producedShown]

theorem producedShown_dropped (hidden : image crates context item = none) :
    producedShown crates context pending (item :: rest) =
      producedShown crates context pending rest := by
  rw [producedShown, List.filter_cons_of_neg (by simp [isDropped, hidden]), producedShown]

end Cons

/-- The two conversions agree, or the one with the dropped items makes more messages. -/
def Compared (split : Bool) (shown whole : List Json) : Prop :=
  if split then shown.length < whole.length else shown = whole

theorem Compared.append {split : Bool} {shown whole : List Json} (before : List Json)
    (compared : Compared split shown whole) : Compared split (before ++ shown) (before ++ whole) := by
  unfold Compared at compared ⊢
  split
  · rename_i apart
    rw [if_pos apart] at compared
    simpa using compared
  · rename_i alike
    rw [if_neg alike] at compared
    rw [compared]

theorem Compared.length_le {split : Bool} {shown whole : List Json}
    (compared : Compared split shown whole) : shown.length ≤ whole.length := by
  unfold Compared at compared
  split at compared
  · exact Nat.le_of_lt compared
  · rw [compared]

theorem flushed_of_ne {pending : List Json} (some_pending : pending ≠ []) :
    flushed pending = [toolCallsMessage pending] :=
  if_neg some_pending

theorem produced_length {pending other : List Json} (some_pending : pending ≠ [])
    (some_other : other ≠ []) (items : List Json) :
    (produced crates context pending items).length = (produced crates context other items).length := by
  induction items generalizing pending other with
  | nil =>
    rw [produced, produced, flushed_of_ne some_pending, flushed_of_ne some_other]
    rfl
  | cons item rest ih =>
    cases shown : image crates context item with
    | none =>
      rw [produced_dropped _ _ shown, produced_dropped _ _ shown, flushed_of_ne some_pending,
        flushed_of_ne some_other]
      rfl
    | some entry =>
      cases entry with
      | message message =>
        rw [produced_message _ _ shown, produced_message _ _ shown, flushed_of_ne some_pending,
          flushed_of_ne some_other]
        rfl
      | call call =>
        rw [produced_call _ _ shown, produced_call _ _ shown]
        exact ih (by simp) (by simp)

/-- How the messages compare from each place of a scan: with nothing pending, with calls pending in
both, and with calls that only the conversion of the shown items still holds back. -/
theorem produced_compared (items : List Json) :
    Compared (splits crates context .outside items) (producedShown crates context [] items)
        (produced crates context [] items) ∧
      ∀ pending, pending ≠ [] →
        Compared (splits crates context .calls items) (producedShown crates context pending items)
            (produced crates context pending items) ∧
          Compared (splits crates context .interrupted items)
            (producedShown crates context pending items)
            (flushed pending ++ produced crates context [] items) := by
  induction items with
  | nil =>
    refine ⟨rfl, fun pending _ => ⟨rfl, ?_⟩⟩
    show flushed pending = flushed pending ++ []
    rw [List.append_nil]
  | cons item rest ih =>
    obtain ⟨outside, inside⟩ := ih
    cases shown : image crates context item with
    | none =>
      rw [produced_dropped _ _ shown, producedShown_dropped _ _ shown]
      have from_outside : splits crates context .outside (item :: rest) =
          splits crates context .outside rest := by simp only [splits, shown]
      have from_calls : splits crates context .calls (item :: rest) =
          splits crates context .interrupted rest := by simp only [splits, shown]
      have from_interrupted : splits crates context .interrupted (item :: rest) =
          splits crates context .interrupted rest := by simp only [splits, shown]
      rw [from_outside, from_calls, from_interrupted]
      refine ⟨outside, fun pending some_pending => ?_⟩
      rw [produced_dropped _ _ shown, producedShown_dropped _ _ shown]
      exact ⟨(inside pending some_pending).2, (inside pending some_pending).2⟩
    | some entry =>
      cases entry with
      | message message =>
        have from_any : ∀ run, splits crates context run (item :: rest) =
            splits crates context .outside rest := fun run => by simp only [splits, shown]
        rw [from_any, from_any, from_any, produced_message _ _ shown,
          producedShown_message _ _ shown]
        have next := outside.append [message]
        refine ⟨next, fun pending _ => ?_⟩
        rw [produced_message _ _ shown, producedShown_message _ _ shown]
        exact ⟨next.append (flushed pending), next.append (flushed pending)⟩
      | call call =>
        have from_outside : splits crates context .outside (item :: rest) =
            splits crates context .calls rest := by simp only [splits, shown]
        have from_calls : splits crates context .calls (item :: rest) =
            splits crates context .calls rest := by simp only [splits, shown]
        have from_interrupted : splits crates context .interrupted (item :: rest) = true := by
          simp only [splits, shown]
        have some_calls : ∀ pending : List Json, pending ++ [call] ≠ [] := fun pending =>
          List.append_ne_nil_of_right_ne_nil pending (List.cons_ne_nil call [])
        rw [from_outside, from_calls, from_interrupted, produced_call _ _ shown,
          producedShown_call _ _ shown]
        refine ⟨(inside _ (some_calls [])).1, fun pending some_pending => ?_⟩
        rw [produced_call _ _ shown, producedShown_call _ _ shown]
        refine ⟨(inside _ (some_calls pending)).1, ?_⟩
        have fewer := (inside _ (some_calls [])).1.length_le
        have same : (producedShown crates context (pending ++ [call]) rest).length =
            (producedShown crates context ([] ++ [call]) rest).length :=
          produced_length (some_calls pending) (some_calls []) _
        show (producedShown crates context (pending ++ [call]) rest).length <
          (flushed pending ++ produced crates context ([] ++ [call]) rest).length
        rw [flushed_of_ne some_pending, List.length_append, List.length_singleton]
        omega

theorem image_of_isCall {item : Json} (called : isCall crates context item = true) :
    ∃ call, image crates context item = some (.call call) := by
  unfold isCall at called
  split at called
  · rename_i call shown
    exact ⟨call, shown⟩
  · cases called

theorem image_of_isDropped {item : Json} (dropped : isDropped crates context item = true) :
    image crates context item = none :=
  Option.isNone_iff_eq_none.mp dropped

theorem splits_interrupted {gap : List Json} {second : Json} (after : List Json)
    (called : isCall crates context second = true)
    (dropped : ∀ item ∈ gap, isDropped crates context item = true) :
    splits crates context .interrupted (gap ++ second :: after) = true := by
  induction gap with
  | nil =>
    obtain ⟨call, shown⟩ := image_of_isCall called
    simp only [List.nil_append, splits, shown]
  | cons item gap ih =>
    have hidden := image_of_isDropped (dropped item List.mem_cons_self)
    simp only [List.cons_append, splits, hidden]
    exact ih fun other there => dropped other (List.mem_cons_of_mem item there)

theorem splits_behind {first : Json} (before tail : List Json)
    (called : isCall crates context first = true) (found : splits crates context .calls tail = true)
    (run : CallRun) : splits crates context run (before ++ first :: tail) = true := by
  induction before generalizing run with
  | nil =>
    obtain ⟨call, shown⟩ := image_of_isCall called
    cases run <;> simp only [List.nil_append, splits, shown, found]
  | cons item before ih =>
    rw [List.cons_append]
    cases shown : image crates context item with
    | none => cases run <;> simp only [splits, shown, ih]
    | some entry =>
      cases entry with
      | call call => cases run <;> simp only [splits, shown, ih]
      | message message => simp only [splits, shown, ih]

theorem splits_of_splitsCalls {items : List Json} (split : SplitsCalls crates context items) :
    splits crates context .outside items = true := by
  obtain ⟨before, first, gap, second, after, rfl, called, again, some_gap, dropped⟩ := split
  rw [List.append_assoc, List.cons_append]
  refine splits_behind before _ called ?_ .outside
  obtain ⟨item, gap, rfl⟩ := List.exists_cons_of_ne_nil some_gap
  have hidden := image_of_isDropped (dropped item List.mem_cons_self)
  simp only [List.cons_append, splits, hidden]
  exact splits_interrupted after again fun other there =>
    dropped other (List.mem_cons_of_mem item there)

theorem SplitsCalls.cons {items : List Json} (item : Json) (split : SplitsCalls crates context items) :
    SplitsCalls crates context (item :: items) := by
  obtain ⟨before, first, gap, second, after, rfl, rest⟩ := split
  exact ⟨item :: before, first, gap, second, after, rfl, rest⟩

def CallBehind (crates : Crates) (context : RequestContext) (gap items : List Json) : Prop :=
  (∀ item ∈ gap, isDropped crates context item = true) ∧
    ∃ second after, items = gap ++ second :: after ∧ isCall crates context second = true

theorem splits_found (items : List Json) :
    (splits crates context .outside items = true → SplitsCalls crates context items) ∧
      (splits crates context .calls items = true → SplitsCalls crates context items ∨
        ∃ gap, gap ≠ [] ∧ CallBehind crates context gap items) ∧
      (splits crates context .interrupted items = true → SplitsCalls crates context items ∨
        ∃ gap, CallBehind crates context gap items) := by
  induction items with
  | nil =>
    have none_found : ∀ run, splits crates context run [] ≠ true := fun run found => by cases found
    exact ⟨fun found => absurd found (none_found _), fun found => absurd found (none_found _),
      fun found => absurd found (none_found _)⟩
  | cons item rest ih =>
    obtain ⟨outside, calls, interrupted⟩ := ih
    cases shown : image crates context item with
    | none =>
      have hidden : isDropped crates context item = true := by rw [isDropped, shown]; rfl
      have behind : splits crates context .interrupted rest = true →
          SplitsCalls crates context (item :: rest) ∨
            ∃ gap, gap ≠ [] ∧ CallBehind crates context gap (item :: rest) := by
        intro found
        rcases interrupted found with split | ⟨gap, dropped, second, after, rfl, called⟩
        · exact .inl (split.cons item)
        · refine .inr ⟨item :: gap, List.cons_ne_nil item gap, ?_, second, after, rfl, called⟩
          intro other there
          rcases List.mem_cons.mp there with rfl | inside
          · exact hidden
          · exact dropped other inside
      simp only [splits, shown]
      refine ⟨fun found => (outside found).cons item, behind, fun found => ?_⟩
      rcases behind found with split | ⟨gap, -, call⟩
      · exact .inl split
      · exact .inr ⟨gap, call⟩
    | some entry =>
      cases entry with
      | message message =>
        simp only [splits, shown]
        exact ⟨fun found => (outside found).cons item, fun found => .inl ((outside found).cons item),
          fun found => .inl ((outside found).cons item)⟩
      | call call =>
        have called : isCall crates context item = true := by rw [isCall, shown]
        have behind : splits crates context .calls rest = true →
            SplitsCalls crates context (item :: rest) := by
          intro found
          rcases calls found with split | ⟨gap, some_gap, dropped, second, after, rfl, again⟩
          · exact split.cons item
          · exact ⟨[], item, gap, second, after, rfl, called, again, some_gap, dropped⟩
        simp only [splits, shown]
        refine ⟨behind, fun found => .inl (behind found), fun _ => .inr ⟨[], ?_⟩⟩
        exact ⟨fun other there => absurd there List.not_mem_nil, item, rest, rfl, called⟩

end Grouping

/-- Dropped items can be left out of the history unless they stand between two calls. -/
theorem convertInput_without_dropped (crates : Crates) (context : RequestContext)
    (items messages : List Json) (warnings others : List String) :
    (convertInput crates context (.array (items.filter fun item => !isDropped crates context item))
        messages others).1 = (convertInput crates context (.array items) messages warnings).1 ↔
      ¬SplitsCalls crates context items := by
  rw [convertInput_array, convertInput_array, List.append_cancel_left_eq]
  have compared : Compared (splits crates context .outside items)
      (producedShown crates context [] items) (produced crates context [] items) :=
    (produced_compared items).1
  constructor
  · intro same split
    rw [splits_of_splitsCalls split] at compared
    have fewer : (producedShown crates context [] items).length <
        (produced crates context [] items).length := compared
    rw [producedShown, same] at fewer
    exact Nat.lt_irrefl _ fewer
  · intro whole
    have found : splits crates context .outside items = false :=
      eq_false_of_ne_true fun found => whole ((splits_found items).1 found)
    rw [found] at compared
    exact compared

def reasonedCalls : List Json := [
  .object [("type", .string "function_call"), ("call_id", .string "call_1"), ("name", .string "f")],
  .object [("type", .string "reasoning"), ("encrypted_content", .string "secret")],
  .object [("type", .string "function_call"), ("call_id", .string "call_2"), ("name", .string "f")]]

def noTools : RequestContext := ⟨⟨∅⟩, ∅⟩

theorem reasonedCalls_split :
    (convertInput (.reading []) noTools
      (.array (reasonedCalls.filter fun item => !isDropped (.reading []) noTools item)) [] []).1 ≠
      (convertInput (.reading []) noTools (.array reasonedCalls) [] []).1 := by
  intro same
  have lengths := congrArg List.length same
  revert lengths
  decide

end CodexGate.Conversion
