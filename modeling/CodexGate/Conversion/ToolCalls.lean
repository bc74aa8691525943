import CodexGate.Conversion.ToolNaming

namespace CodexGate.Conversion

open Foundation

def inputObject (text : String) : Json := .object [("input", .string text)]

/-- A Chat call that went out as an item of a response and came back as one of the history. -/
def sentBack (crates : Crates) (context : RequestContext) (id name arguments : String)
    (index : Nat) : Json :=
  convertCallInput crates context
    (responseToolItem crates (chatToolCall id name arguments) index context.toConversionContext)

/-- The call is the same, and for a custom tool the text of the same input. -/
structure SameCall (crates : Crates) (context : RequestContext) (id name arguments : String)
    (call : Json) : Prop where
  sameId : call.get "id" = some (.string id)
  sameName : call.pointer ["function", "name"] = some (.string name)
  sameArguments : context.isCustom name = false →
    call.pointer ["function", "arguments"] = some (.string arguments)
  sameInput : context.isCustom name = true → ∀ text, crates.fromStr arguments = some (inputObject text) →
    call.pointer ["function", "arguments"] = some (.string (crates.render (inputObject text)))

/-- A later definition has the response name of the tool that the Chat name stands for. -/
def SharesResponseName (request : Json) (name : String) : Prop :=
  ∃ before declaration later, namedTools request = before ++ (declaration, name) :: later ∧
    (∀ other ∈ later, other.2 ≠ name) ∧
      ∃ other ∈ later, other.1.kind.responseName = declaration.kind.responseName

section RoundTrip

variable {crates : Crates} {context : RequestContext} {id name arguments : String} {index : Nat}

def ToolKind.isCustom : ToolKind → Bool
  | custom _ => true
  | function _ | namespaceTool _ _ => false

theorem isCustom_of_lookup {kind : ToolKind}
    (found : context.toolByChatName.lookup name = some kind) :
    context.isCustom name = kind.isCustom := by
  rw [ConversionContext.isCustom, found]
  cases kind <;> rfl

theorem sentBack_eq {kind : ToolKind} (found : context.toolByChatName.lookup name = some kind) :
    sentBack crates context id name arguments index =
      .object [
        ("id", .string id),
        ("type", .string "function"),
        ("function", .object [
          ("name", .string (context.responseToolName kind.responseName)),
          ("arguments", .string (if kind.isCustom then
            crates.render (inputObject (customInput crates arguments)) else arguments))])] := by
  rw [sentBack, responseToolItem_chatToolCall, found]
  cases kind with
  | function shown => rfl
  | custom shown => rfl
  | namespaceTool space shown => rfl

theorem customInput_inputObject {text : String}
    (read : crates.fromStr arguments = some (inputObject text)) :
    customInput crates arguments = text := by
  rw [customInput, read]
  rfl

theorem sameCall_iff {kind : ToolKind} (found : context.toolByChatName.lookup name = some kind) :
    SameCall crates context id name arguments (sentBack crates context id name arguments index) ↔
      context.responseToolName kind.responseName = name := by
  have custom := isCustom_of_lookup found
  rw [sentBack_eq found]
  constructor
  · intro same
    have named : some (Json.string (context.responseToolName kind.responseName)) =
        some (.string name) := same.sameName
    exact Json.string.inj (Option.some.inj named)
  · intro named
    refine ⟨rfl, congrArg (fun name => some (Json.string name)) named, ?_, ?_⟩
    · intro plain
      rw [custom] at plain
      rw [plain]
      rfl
    · intro freeform text read
      rw [custom] at freeform
      rw [freeform, customInput_inputObject read]
      rfl

end RoundTrip

section Tables

variable {request : Json} {name : String}

theorem last_under {α : Type} (key : α → String) {entries : List α} (there : name ∈ entries.map key) :
    ∃ before entry later, entries = before ++ entry :: later ∧ key entry = name ∧
      ∀ other ∈ later, key other ≠ name := by
  induction entries with
  | nil => cases there
  | cons first rest ih =>
    by_cases again : name ∈ rest.map key
    · obtain ⟨before, entry, later, rfl, here, last⟩ := ih again
      exact ⟨first :: before, entry, later, rfl, here, last⟩
    · rcases List.mem_cons.mp there with here | behind
      · exact ⟨[], first, rest, rfl, here.symm, fun other inside same =>
          again (same ▸ List.mem_map_of_mem inside)⟩
      · exact absurd behind again

theorem last_unique {α : Type} (key : α → String) {before front later behind : List α}
    {entry other : α} (same : before ++ entry :: later = front ++ other :: behind)
    (keys : key entry = key other) (last : ∀ next ∈ later, key next ≠ key entry)
    (final : ∀ next ∈ behind, key next ≠ key other) : entry = other ∧ later = behind := by
  rcases List.append_eq_append_iff.mp same with ⟨between, rfl, tail⟩ | ⟨between, rfl, tail⟩
  · cases between with
    | nil => exact ⟨(List.cons.inj tail).1, (List.cons.inj tail).2⟩
    | cons first between =>
      obtain ⟨rfl, rfl⟩ := List.cons.inj tail
      exact absurd keys.symm (last other (List.mem_append_right _ List.mem_cons_self))
  · cases between with
    | nil => exact ⟨(List.cons.inj tail).1.symm, (List.cons.inj tail).2.symm⟩
    | cons first between =>
      obtain ⟨rfl, rfl⟩ := List.cons.inj tail
      exact absurd keys (final entry (List.mem_append_right _ List.mem_cons_self))

theorem responseToolName_last {before later : List (Declaration × String)}
    {entry : Declaration × String} (split : namedTools request = before ++ entry :: later)
    (last : ∀ other ∈ later, other.1.kind.responseName ≠ entry.1.kind.responseName) :
    (convertTools request).context.responseToolName entry.1.kind.responseName = entry.2 := by
  obtain ⟨-, -, table⟩ := convertTools_named request
  have found := lookup_foldl_insert
    (fun entry : Declaration × String => entry.1.kind.responseName) Prod.snd before ∅ last
  rw [RequestContext.responseToolName, table, split, found]
  rfl

theorem responseToolName_iff {before later : List (Declaration × String)} {declaration : Declaration}
    (split : namedTools request = before ++ (declaration, name) :: later)
    (last : ∀ other ∈ later, other.2 ≠ name) :
    (convertTools request).context.responseToolName declaration.kind.responseName = name ↔
      ∀ other ∈ later, other.1.kind.responseName ≠ declaration.kind.responseName := by
  constructor
  · intro back other there same
    have shared : declaration.kind.responseName ∈
        later.map fun other => other.1.kind.responseName := same ▸ List.mem_map_of_mem there
    obtain ⟨between, final, after, rfl, here, final_last⟩ := last_under _ shared
    have whole : namedTools request =
        (before ++ (declaration, name) :: between) ++ final :: after := by
      rw [split, List.append_assoc, List.cons_append]
    rw [← here] at final_last back
    have found := (responseToolName_last whole final_last).symm.trans back
    exact last final (List.mem_append_right _ List.mem_cons_self) found
  · exact fun alone => responseToolName_last split alone

end Tables

/-- A call of a declared tool survives the round trip unless a later definition has taken its
response name. -/
theorem toolCall_round_trip (crates : Crates) (request : Json) {name : String}
    (declared : name ∈ (namedTools request).map Prod.snd) (id arguments : String) (index : Nat) :
    SameCall crates (convertTools request).context id name arguments
        (sentBack crates (convertTools request).context id name arguments index) ↔
      ¬SharesResponseName request name := by
  obtain ⟨before, entry, later, split, rfl, last⟩ := last_under Prod.snd declared
  obtain ⟨-, table, -⟩ := convertTools_named request
  have found : (convertTools request).context.toolByChatName.lookup entry.2 = some entry.1.kind := by
    rw [table, split]
    exact lookup_foldl_insert Prod.snd (fun entry => entry.1.kind) before ∅ last
  rw [sameCall_iff found, responseToolName_iff split last]
  constructor
  · rintro alone ⟨front, declaration, behind, again, final, other, there, same⟩
    obtain ⟨entry_same, rfl⟩ := last_unique Prod.snd (split.symm.trans again) rfl last final
    have declared_same : entry.1 = declaration := congrArg Prod.fst entry_same
    rw [← declared_same] at same
    exact alone other there same
  · intro alone other there same
    exact alone ⟨before, entry.1, later, split, last, other, there, same⟩

def sharedShell : Json :=
  .object [("tools", .array [
    .object [("type", .string "function"), ("name", .string "shell")],
    .object [("type", .string "custom"), ("name", .string "shell")]])]

theorem sharedShell_named : (namedTools sharedShell).map Prod.snd = ["shell", "lg_custom_shell"] := by
  decide

theorem sharedShell_custom :
    SameCall (.reading []) (convertTools sharedShell).context "call_1" "lg_custom_shell" "{}"
        (sentBack (.reading []) (convertTools sharedShell).context "call_1" "lg_custom_shell"
          "{}" 0) ↔
      ¬SharesResponseName sharedShell "lg_custom_shell" :=
  toolCall_round_trip (.reading []) sharedShell (by rw [sharedShell_named]; decide) "call_1"
    "{}" 0

/-- The call of the function comes back as one of the custom tool. -/
theorem sharedShell_function_renamed :
    (sentBack (.reading []) (convertTools sharedShell).context "call_1" "shell" "{}" 0).pointer
      ["function", "name"] ≠ some (.string "shell") := by
  intro same
  have names := congrArg (fun found => found.bind Json.asStr) same
  revert names
  decide

end CodexGate.Conversion
