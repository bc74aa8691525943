import CodexGate.Conversion.ToolNames

namespace CodexGate.Conversion

open Foundation

/-- What a named declaration can put in the way of the numbered names of an index: a function has
its own name reserved, and gets a numbered one only with its own index. -/
def obstacles (index : Nat) (entry : Declaration × String) : List String :=
  if entry.1.generated then [entry.2]
  else if entry.1.index = index then [normalizeToolName entry.1.base, entry.2]
  else if normalizeToolName entry.1.base = "" then [entry.2]
  else [normalizeToolName entry.1.base]

def functionAt (index : Nat) (declaration : Declaration) : Bool :=
  !declaration.generated && declaration.index = index

def FunctionsApart (all : List Declaration) : Prop :=
  ((all.filter fun declaration => !declaration.generated).map Declaration.index).Nodup

section Counting

theorem length_obstacles (index : Nat) (done : List (Declaration × String)) :
    (done.flatMap (obstacles index)).length ≤
      done.length + (done.map Prod.fst).countP (functionAt index) := by
  induction done with
  | nil => exact Nat.le_refl 0
  | cons entry rest ih =>
    have one : (obstacles index entry).length ≤ 1 + if functionAt index entry.1 then 1 else 0 := by
      unfold obstacles functionAt
      cases entry.1.generated with
      | true => simp
      | false =>
        by_cases here : entry.1.index = index
        · simp [here]
        · by_cases empty : normalizeToolName entry.1.base = "" <;> simp [here, empty]
    rw [List.flatMap_cons, List.length_append, List.length_cons, List.map_cons, List.countP_cons]
    omega

theorem count_functionAt {all : List Declaration} (apart : FunctionsApart all) (index : Nat) :
    all.countP (functionAt index) ≤ 1 := by
  have same : all.countP (functionAt index) =
      ((all.filter fun declaration => !declaration.generated).map Declaration.index).count index := by
    rw [List.count, List.countP_map, List.countP_filter]
    apply List.countP_congr
    intro declaration _
    cases kind : declaration.generated <;> simp [functionAt, kind]
  rw [same]
  exact List.nodup_iff_count_le_one.mp apart index

end Counting

def ReservedFrom (all : List Declaration) (reserved : List String) : Prop :=
  ∀ name ∈ reserved, ∃ declaration ∈ all, declaration.generated = false ∧
    normalizeToolName declaration.base = name

section Run

variable {all todo : List Declaration} {done : List (Declaration × String)} {current : Declaration}
  {reserved : List String} {self : Naming}

theorem mem_obstacles_of_used {sanitized : String} {index suffix : Nat} {entry : Declaration × String}
    (made : Made entry.1.base entry.1.index entry.2)
    (same : entry.2 = numberedName sanitized index suffix) : entry.2 ∈ obstacles index entry := by
  unfold obstacles
  split
  · exact List.mem_singleton_self _
  · split
    · exact List.mem_cons_of_mem _ (List.mem_singleton_self _)
    · rename_i elsewhere
      split
      · exact List.mem_singleton_self _
      · rename_i filled
        rcases made with plain | ⟨number, -, numbered⟩
        · rw [if_neg filled] at plain
          exact List.mem_singleton.mpr plain
        · exact absurd (numberedName_inj (numbered.symm.trans same)).1 elsewhere

theorem mem_obstacles_of_reserved {sanitized : String} {index suffix : Nat}
    {entry : Declaration × String} (function : entry.1.generated = false)
    (same : normalizeToolName entry.1.base = numberedName sanitized index suffix) :
    normalizeToolName entry.1.base ∈ obstacles index entry := by
  have filled : normalizeToolName entry.1.base ≠ "" := same ▸ numberedName_ne_empty _ _ _
  unfold obstacles
  simp only [function, Bool.false_eq_true, ↓reduceIte, filled]
  split
  · exact List.mem_cons_self
  · exact List.mem_singleton_self _

theorem chatName_free (whole : all = done.map Prod.fst ++ current :: todo)
    (apart : FunctionsApart all) (few : all.length < 10000) (from_all : ReservedFrom all reserved)
    (made : ∀ entry ∈ done, Made entry.1.base entry.1.index entry.2)
    (used : self.used = done.map Prod.snd) :
    Made current.base current.index (current.chatName reserved self.used) ∧
      current.chatName reserved self.used ∉ self.used ∧
      (self.declare reserved current).used =
        self.used ++ [current.chatName reserved self.used] := by
  have total : all.length = done.length + (todo.length + 1) := by
    rw [whole, List.length_append, List.length_map, List.length_cons]
  cases generated : current.generated with
  | false =>
    have fewer : self.used.length < 10000 := by
      rw [used, List.length_map]
      omega
    have name : current.chatName reserved self.used =
        (uniqueToolName current.base current.index self.used).1 := by
      simp only [Declaration.chatName, generated, Bool.false_eq_true, ↓reduceIte]
    have next : (self.declare reserved current).used =
        (uniqueToolName current.base current.index self.used).2 := by
      simp only [Naming.declare, generated, Bool.false_eq_true, ↓reduceIte]
    rw [name, next]
    exact uniqueToolName_free (fun _ there => there) fewer
  | true =>
    have name : current.chatName reserved self.used =
        (uniqueToolName current.base current.index (self.used ++ reserved)).1 := by
      simp only [Declaration.chatName, generated, ↓reduceIte, uniqueGeneratedToolName]
    have next : (self.declare reserved current).used =
        self.used ++ [(uniqueToolName current.base current.index (self.used ++ reserved)).1] := by
      simp only [Naming.declare, generated, ↓reduceIte, uniqueGeneratedToolName]
    have functions : (done.map Prod.fst).countP (functionAt current.index) ≤ 1 := by
      have all_functions := count_functionAt apart current.index
      rw [whole, List.countP_append] at all_functions
      omega
    have fewer : (done.flatMap (obstacles current.index) ++
        todo.map fun later => normalizeToolName later.base).length < 10000 := by
      have before := length_obstacles current.index done
      rw [List.length_append, List.length_map]
      omega
    have covered : ∀ suffix, numberedName (normalizeToolName current.base) current.index suffix ∈
          self.used ++ reserved →
        numberedName (normalizeToolName current.base) current.index suffix ∈
          done.flatMap (obstacles current.index) ++
            todo.map fun later => normalizeToolName later.base := by
      intro suffix there
      rcases List.mem_append.mp there with before | function
      · rw [used] at before
        obtain ⟨entry, inside, same⟩ := List.mem_map.mp before
        have obstacle := mem_obstacles_of_used (made entry inside) same
        exact List.mem_append_left _ (List.mem_flatMap.mpr ⟨entry, inside, same ▸ obstacle⟩)
      · obtain ⟨declaration, inside, kind, same⟩ := from_all _ function
        rw [whole] at inside
        rcases List.mem_append.mp inside with before | here
        · obtain ⟨entry, there, rfl⟩ := List.mem_map.mp before
          have obstacle := mem_obstacles_of_reserved kind same
          exact List.mem_append_left _ (List.mem_flatMap.mpr ⟨entry, there, same ▸ obstacle⟩)
        · rcases List.mem_cons.mp here with rfl | later
          · rw [generated] at kind
            cases kind
          · exact List.mem_append_right _ (List.mem_map.mpr ⟨declaration, later, same⟩)
    obtain ⟨named, free, -⟩ := uniqueToolName_free covered fewer
    rw [name, next]
    exact ⟨named, fun there => free (List.mem_append_left _ there), rfl⟩

theorem named_free (whole : all = done.map Prod.fst ++ todo) (apart : FunctionsApart all)
    (few : all.length < 10000) (from_all : ReservedFrom all reserved)
    (made : ∀ entry ∈ done, Made entry.1.base entry.1.index entry.2)
    (distinct : (done.map Prod.snd).Nodup) (used : self.used = done.map Prod.snd) :
    (∀ entry ∈ done ++ named reserved self todo, Made entry.1.base entry.1.index entry.2) ∧
      ((done ++ named reserved self todo).map Prod.snd).Nodup := by
  induction todo generalizing done self with
  | nil =>
    rw [named, List.append_nil]
    exact ⟨made, distinct⟩
  | cons current todo ih =>
    obtain ⟨name, free, next⟩ := chatName_free whole apart few from_all made used
    have step : done ++ named reserved self (current :: todo) =
        (done ++ [(current, current.chatName reserved self.used)]) ++
          named reserved (self.declare reserved current) todo := by
      rw [named, List.append_assoc, List.singleton_append]
    rw [step]
    apply ih
    · rw [whole, List.map_append, List.append_assoc]
      rfl
    · intro entry there
      rcases List.mem_append.mp there with before | here
      · exact made entry before
      · obtain rfl := List.mem_singleton.mp here
        exact name
    · rw [List.map_append, ← used, List.nodup_append]
      refine ⟨used ▸ distinct, List.nodup_singleton _, ?_⟩
      intro other there name here same
      obtain rfl := List.mem_singleton.mp here
      rw [same] at there
      exact free there
    · rw [next, List.map_append, used]
      rfl

end Run

section Request

variable {request : Json}

theorem functions_toolDeclarations (definition : Json × Nat) :
    List.Sublist (((toolDeclarations definition).filter fun declaration => !declaration.generated).map
      Declaration.index) [definition.2] := by
  unfold toolDeclarations
  split
  · exact List.Sublist.refl _
  · exact List.nil_sublist _
  · cases (definition.1.get "tools").bind Json.asArray with
    | none => exact List.nil_sublist _
    | some tools =>
      have none_left : (nestedDeclarations definition.1 definition.2 tools).filter
          (fun declaration => !declaration.generated) = [] := by
        rw [List.filter_eq_nil_iff]
        intro declaration there
        obtain ⟨nested, -, rfl⟩ := List.mem_map.mp there
        simp [nestedDeclaration]
      rw [Option.map_some, Option.getD_some, none_left]
      exact List.nil_sublist _
  · exact List.nil_sublist _

theorem functionsApart (request : Json) : FunctionsApart (declarations request) := by
  have inside : ∀ definitions : List (Json × Nat),
      List.Sublist (((definitions.flatMap toolDeclarations).filter
        fun declaration => !declaration.generated).map Declaration.index)
        (definitions.map Prod.snd) := by
    intro definitions
    induction definitions with
    | nil => exact List.Sublist.refl _
    | cons definition rest ih =>
      rw [List.flatMap_cons, List.filter_append, List.map_append, List.map_cons]
      exact (functions_toolDeclarations definition).append ih
  have all := inside (toolDefinitions request).zipIdx
  rw [List.zipIdx_map_snd] at all
  exact all.nodup List.nodup_range'

theorem reservedFrom (request : Json) :
    ReservedFrom (declarations request) (reservedFunctionNames (toolDefinitions request)) := by
  intro name there
  obtain ⟨tool, inside, reserves⟩ := List.mem_filterMap.mp there
  unfold reservedName at reserves
  split at reserves
  · rename_i function
    obtain ⟨text, written, rfl⟩ := Option.map_eq_some_iff.mp reserves
    obtain ⟨index, found⟩ := List.getElem_of_mem inside
    obtain ⟨bound, here⟩ := found
    have placed : (tool, index) ∈ (toolDefinitions request).zipIdx :=
      List.mem_zipIdx_iff_getElem?.mpr (List.getElem?_eq_some_iff.mpr ⟨bound, here⟩)
    have kind : textOr tool "type" "" = "function" := by rw [textOr, function]; rfl
    refine ⟨functionDeclaration tool index, List.mem_flatMap.mpr ⟨_, placed, ?_⟩, rfl, ?_⟩
    · simp only [toolDeclarations, kind, List.mem_singleton]
    · rw [functionDeclaration, textOr, written]
      rfl
  · cases reserves

theorem index_fits (addressable : (toolDefinitions request).length ≤ u64Max) :
    ∀ declaration ∈ declarations request, declaration.index ≤ u64Max := by
  intro declaration there
  obtain ⟨definition, placed, inside⟩ := List.mem_flatMap.mp there
  have position : definition.2 ≤ u64Max := by
    have found := List.mem_zipIdx_iff_getElem?.mp placed
    obtain ⟨bound, -⟩ := List.getElem?_eq_some_iff.mp found
    omega
  unfold toolDeclarations at inside
  split at inside
  · rw [List.mem_singleton.mp inside]
    exact position
  · rw [List.mem_singleton.mp inside]
    exact position
  · cases tools : (definition.1.get "tools").bind Json.asArray with
    | none =>
      rw [tools] at inside
      cases inside
    | some nested =>
      rw [tools, Option.map_some, Option.getD_some] at inside
      obtain ⟨tool, -, rfl⟩ := List.mem_map.mp inside
      exact Nat.min_le_right _ _
  · cases inside

end Request

def chatToolName (tool : Json) : Option String :=
  (tool.pointer ["function", "name"]).bind Json.asStr

theorem chatToolName_convertedTool (entry : Declaration × String) :
    chatToolName (convertedTool entry) = some entry.2 := rfl

theorem lookup_foldl_insert {α ν : Type} (key : α → String) (value : α → ν) (entries : List α)
    {entry : α} {later : List α} (table : HashMap String ν)
    (last : ∀ other ∈ later, key other ≠ key entry) :
    ((entries ++ entry :: later).foldl (fun table entry => table.insert (key entry) (value entry))
      table).lookup (key entry) = some (value entry) := by
  have kept : ∀ (later : List α) (table : HashMap String ν),
      (∀ other ∈ later, key other ≠ key entry) → table.lookup (key entry) = some (value entry) →
        (later.foldl (fun table entry => table.insert (key entry) (value entry)) table).lookup
          (key entry) = some (value entry) := by
    intro later
    induction later with
    | nil => exact fun _ _ found => found
    | cons other rest ih =>
      intro table last found
      apply ih
      · exact fun next there => last next (List.mem_cons_of_mem other there)
      · rw [AList.lookup_insert_ne (last other List.mem_cons_self).symm]
        exact found
  rw [List.foldl_append, List.foldl_cons]
  exact kept later _ last (AList.lookup_insert _)

/-- The names of the converted tools are legal and differ, and each leads back to its definition. -/
structure NamesTools (all : List Declaration) (tools : Tools) : Prop where
  distinct : (tools.converted.map chatToolName).Nodup
  legal : ∀ tool ∈ tools.converted, ∃ name, chatToolName tool = some name ∧ LegalName name
  count : tools.converted.length = all.length
  mapped : ∀ (i : Nat) (declaration : Declaration), all[i]? = some declaration →
    ∃ name, tools.converted[i]? =
        some (chatFunction declaration.tool name declaration.forcedParameters) ∧
      tools.context.toolByChatName.lookup name = some declaration.kind

def namedTools (request : Json) : List (Declaration × String) :=
  named (reservedFunctionNames (toolDefinitions request)) noNames (declarations request)

theorem namedTools_free {request : Json} (few : (declarations request).length < 10000) :
    (∀ entry ∈ namedTools request, Made entry.1.base entry.1.index entry.2) ∧
      ((namedTools request).map Prod.snd).Nodup := by
  have no_entry : ∀ entry ∈ ([] : List (Declaration × String)),
      Made entry.1.base entry.1.index entry.2 := fun entry there => absurd there List.not_mem_nil
  have whole : declarations request =
      ([] : List (Declaration × String)).map Prod.fst ++ declarations request := rfl
  exact named_free whole (functionsApart request) few (reservedFrom request) no_entry
    List.nodup_nil rfl

theorem convertTools_named (request : Json) :
    (convertTools request).converted = (namedTools request).map convertedTool ∧
      (convertTools request).context.toolByChatName =
        (namedTools request).foldl (fun table entry => table.insert entry.2 entry.1.kind) ∅ ∧
      (convertTools request).context.chatNameByResponseName =
        (namedTools request).foldl
          (fun table entry => table.insert entry.1.kind.responseName entry.2) ∅ := by
  rw [convertTools_naming]
  exact declare_all (reservedFunctionNames (toolDefinitions request)) (declarations request) noNames

def customAndFunction : Json :=
  .object [("tools", .array [
    .object [("type", .string "custom"), ("name", .string "shell")],
    .object [("type", .string "function"), ("name", .string "lg_custom_shell")]])]

end CodexGate.Conversion
