import CodexGate.Conversion.Request
import CodexGate.Foundation.Names
import Mathlib.Data.List.Nodup
import Mathlib.Data.List.Count

namespace CodexGate.Conversion

open Foundation

def toolDeclarations (definition : Json × Nat) : List Declaration :=
  match textOr definition.1 "type" "" with
  | "function" => [functionDeclaration definition.1 definition.2]
  | "custom" => [customDeclaration definition.1 definition.2]
  | "namespace" =>
    (((definition.1.get "tools").bind Json.asArray).map
      (nestedDeclarations definition.1 definition.2)).getD []
  | _ => []

def declarations (request : Json) : List Declaration :=
  (toolDefinitions request).zipIdx.flatMap toolDeclarations

def Declaration.chatName (reserved used : List String) (declaration : Declaration) : String :=
  if declaration.generated then
    (uniqueGeneratedToolName declaration.base declaration.index used reserved).1
  else (uniqueToolName declaration.base declaration.index used).1

def named (reserved : List String) : Naming → List Declaration → List (Declaration × String)
  | _, [] => []
  | self, declaration :: rest =>
    (declaration, declaration.chatName reserved self.used) ::
      named reserved (self.declare reserved declaration) rest

def convertedTool (entry : Declaration × String) : Json :=
  chatFunction entry.1.tool entry.2 entry.1.forcedParameters

section Named

variable (reserved : List String)

theorem convertTool_naming (self : Tools) (definition : Json × Nat) :
    (convertTool reserved self definition).toNaming =
      (toolDeclarations definition).foldl (Naming.declare reserved) self.toNaming := by
  unfold convertTool
  dsimp only
  split
  · rename_i function
    simp only [toolDeclarations, function, List.foldl_cons, List.foldl_nil]
  · rename_i custom
    simp only [toolDeclarations, custom, List.foldl_cons, List.foldl_nil]
  · rename_i space
    simp only [toolDeclarations, space, convertNamespace]
    cases (definition.1.get "tools").bind Json.asArray <;> rfl
  all_goals
    simp_all [toolDeclarations, Tools.warn]

theorem convertTools_naming (request : Json) :
    (convertTools request).toNaming =
      (declarations request).foldl
        (Naming.declare (reservedFunctionNames (toolDefinitions request))) noNames := by
  have general : ∀ (reserved : List String) (definitions : List (Json × Nat)) (self : Tools),
      (definitions.foldl (convertTool reserved) self).toNaming =
        (definitions.flatMap toolDeclarations).foldl (Naming.declare reserved) self.toNaming := by
    intro reserved definitions
    induction definitions with
    | nil => exact fun self => rfl
    | cons definition rest ih =>
      intro self
      rw [List.foldl_cons, ih, convertTool_naming, List.flatMap_cons, List.foldl_append]
  exact general _ _ _

theorem declare_eq (self : Naming) (declaration : Declaration) :
    self.declare reserved declaration =
      { used := (self.declare reserved declaration).used
        context :=
          { toolByChatName :=
              self.context.toolByChatName.insert (declaration.chatName reserved self.used)
                declaration.kind
            chatNameByResponseName :=
              self.context.chatNameByResponseName.insert declaration.kind.responseName
                (declaration.chatName reserved self.used) }
        converted :=
          self.converted ++ [convertedTool (declaration, declaration.chatName reserved self.used)] } := by
  unfold Naming.declare Declaration.chatName
  cases declaration.generated <;> rfl

theorem declare_all (rest : List Declaration) (self : Naming) :
    (rest.foldl (Naming.declare reserved) self).converted =
        self.converted ++ (named reserved self rest).map convertedTool ∧
      (rest.foldl (Naming.declare reserved) self).context.toolByChatName =
        (named reserved self rest).foldl (fun table entry => table.insert entry.2 entry.1.kind)
          self.context.toolByChatName ∧
      (rest.foldl (Naming.declare reserved) self).context.chatNameByResponseName =
        (named reserved self rest).foldl
          (fun table entry => table.insert entry.1.kind.responseName entry.2)
          self.context.chatNameByResponseName := by
  induction rest generalizing self with
  | nil => exact ⟨(List.append_nil _).symm, rfl, rfl⟩
  | cons declaration rest ih =>
    obtain ⟨converted, tools, names⟩ := ih (self.declare reserved declaration)
    rw [List.foldl_cons, converted, tools, names, named, List.map_cons, List.foldl_cons,
      List.foldl_cons, declare_eq]
    refine ⟨?_, rfl, rfl⟩
    rw [List.append_assoc]
    rfl

theorem map_named (self : Naming) (rest : List Declaration) :
    (named reserved self rest).map Prod.fst = rest := by
  induction rest generalizing self with
  | nil => rfl
  | cons declaration rest ih => rw [named, List.map_cons, ih]

end Named

/-- A name comes from its base alone, or with the number of the definition and one of its own. -/
def Made (base : String) (index : Nat) (name : String) : Prop :=
  name = (if normalizeToolName base = "" then fallbackName index else normalizeToolName base) ∨
    ∃ suffix ∈ List.range' 1 10000, name = numberedName (normalizeToolName base) index suffix

structure LegalName (name : String) : Prop where
  nonempty : name ≠ ""
  short : name.length ≤ 64
  letters : ∀ c ∈ name.toList, toolNameChar c = true

section OneName

theorem numberedName_toList (sanitized : String) (index suffix : Nat) :
    ∃ start, (numberedName sanitized index suffix).toList =
      (start ++ '_' :: Nat.toDigits 10 index) ++ '_' :: Nat.toDigits 10 suffix ∧
      start <+: sanitized.toList ∧
      start.length = min (maxToolNameLen -
        ("_" ++ toString index ++ "_" ++ toString suffix).length) sanitized.length := by
  refine ⟨_, ?_, List.take_prefix _ _, List.length_take⟩
  simp [numberedName, toString, Nat.repr]

theorem numberedName_inj {sanitized other : String} {index suffix number last : Nat}
    (same : numberedName sanitized index suffix = numberedName other number last) :
    index = number ∧ suffix = last := by
  obtain ⟨start, text, -, -⟩ := numberedName_toList sanitized index suffix
  obtain ⟨front, letters, -, -⟩ := numberedName_toList other number last
  have lists := congrArg String.toList same
  rw [text, letters] at lists
  obtain ⟨before, suffixes⟩ := separated_inj (not_mem_toDigits (by decide) suffix)
    (not_mem_toDigits (by decide) last) lists
  obtain ⟨-, indexes⟩ := separated_inj (not_mem_toDigits (by decide) index)
    (not_mem_toDigits (by decide) number) before
  exact ⟨toDigits_inj indexes, toDigits_inj suffixes⟩

theorem numberedName_ne_empty (sanitized : String) (index suffix : Nat) :
    numberedName sanitized index suffix ≠ "" := by
  obtain ⟨start, text, -, -⟩ := numberedName_toList sanitized index suffix
  intro empty
  rw [empty] at text
  simp at text

theorem normalizeToolName_letters (name : String) :
    ∀ c ∈ (normalizeToolName name).toList, toolNameChar c = true := by
  intro c there
  rw [normalizeToolName, String.toList_ofList] at there
  obtain ⟨letter, -, rfl⟩ := List.mem_map.mp (List.mem_of_mem_take there)
  split
  · assumption
  · decide

theorem normalizeToolName_length (name : String) : (normalizeToolName name).length ≤ 64 := by
  rw [normalizeToolName, String.length_ofList]
  exact List.length_take_le _ _

theorem toolNameChar_of_isDigit {c : Char} (digit : c.isDigit = true) : toolNameChar c = true := by
  simp [toolNameChar, Char.isAlphanum, digit]

theorem toolNameChar_toDigits {n : Nat} : ∀ c ∈ Nat.toDigits 10 n, toolNameChar c = true :=
  fun _ there =>
    toolNameChar_of_isDigit (Nat.isDigit_of_mem_toDigits (by decide) (by decide) there)

theorem toDigits_length_le {n : Nat} (fits : n ≤ u64Max) : (Nat.toDigits 10 n).length ≤ 20 := by
  rw [Nat.length_toDigits_le_iff (by decide) (by decide)]
  exact Nat.lt_of_le_of_lt fits (by decide)

theorem legal_fallbackName {index : Nat} (fits : index ≤ u64Max) : LegalName (fallbackName index) := by
  have text : (fallbackName index).toList = "lg_tool_".toList ++ Nat.toDigits 10 index := by
    simp [fallbackName, toString, Nat.repr]
  have digits := toDigits_length_le fits
  refine ⟨fun empty => ?_, ?_, ?_⟩
  · rw [empty] at text
    simp at text
  · rw [← String.length_toList, text, List.length_append]
    have front : "lg_tool_".toList.length = 8 := by decide
    omega
  · intro c there
    rw [text] at there
    have letters : ∀ c ∈ "lg_tool_".toList, toolNameChar c = true :=
      List.all_eq_true.mp (by decide)
    rcases List.mem_append.mp there with front | digit
    · exact letters c front
    · exact toolNameChar_toDigits c digit

theorem legal_numberedName (base : String) {index suffix : Nat} (fits : index ≤ u64Max)
    (small : suffix ∈ List.range' 1 10000) :
    LegalName (numberedName (normalizeToolName base) index suffix) := by
  obtain ⟨start, text, inside, length⟩ := numberedName_toList (normalizeToolName base) index suffix
  have digits := toDigits_length_le fits
  have suffix_fits : suffix ≤ u64Max := by
    have bound := (List.mem_range'_1.mp small).2
    unfold u64Max
    omega
  have more := toDigits_length_le suffix_fits
  refine ⟨numberedName_ne_empty _ _ _, ?_, ?_⟩
  · have tail : ("_" ++ toString index ++ "_" ++ toString suffix).length =
        2 + (Nat.toDigits 10 index).length + (Nat.toDigits 10 suffix).length := by
      have mark : "_".length = 1 := by decide
      simp [toString, Nat.repr, mark]
      omega
    rw [tail, maxToolNameLen] at length
    rw [← String.length_toList, text]
    simp only [List.length_append, List.length_cons]
    omega
  · intro c there
    rw [text] at there
    simp only [List.mem_append, List.mem_cons] at there
    rcases there with (front | rfl | digit) | rfl | digit
    · exact normalizeToolName_letters base c (inside.subset front)
    · decide
    · exact toolNameChar_toDigits c digit
    · decide
    · exact toolNameChar_toDigits c digit

theorem Made.legal {base name : String} {index : Nat} (made : Made base index name)
    (fits : index ≤ u64Max) : LegalName name := by
  rcases made with rfl | ⟨suffix, small, rfl⟩
  · split
    · exact legal_fallbackName fits
    · rename_i filled
      exact ⟨filled, normalizeToolName_length base, normalizeToolName_letters base⟩
  · exact legal_numberedName base fits small

theorem numberedNames_nodup (sanitized : String) (index : Nat) :
    (numberedNames sanitized index).Nodup := by
  apply List.Nodup.map
  · exact fun _ _ same => (numberedName_inj same).2
  · exact List.nodup_range'

theorem mem_numberedNames {sanitized name : String} {index : Nat} :
    name ∈ numberedNames sanitized index ↔
      ∃ suffix ∈ List.range' 1 10000, name = numberedName sanitized index suffix := by
  rw [numberedNames, List.mem_map]
  exact exists_congr fun suffix => and_congr_right fun _ => eq_comm

theorem uniqueToolName_free {base : String} {index : Nat} {used relevant : List String}
    (covered : ∀ suffix, numberedName (normalizeToolName base) index suffix ∈ used →
      numberedName (normalizeToolName base) index suffix ∈ relevant)
    (fewer : relevant.length < 10000) :
    Made base index (uniqueToolName base index used).1 ∧
      (uniqueToolName base index used).1 ∉ used ∧
      (uniqueToolName base index used).2 = used ++ [(uniqueToolName base index used).1] := by
  have distinct := numberedNames_nodup (normalizeToolName base) index
  have blocked : ∀ candidate ∈ numberedNames (normalizeToolName base) index,
      candidate ∈ used → candidate ∈ relevant := by
    intro candidate there
    obtain ⟨suffix, -, rfl⟩ := mem_numberedNames.mp there
    exact covered suffix
  have numbers : relevant.length < (numberedNames (normalizeToolName base) index).length := by
    rw [numberedNames, List.length_map, List.length_range']
    exact fewer
  obtain ⟨candidate, there, free, found⟩ := find_fresh distinct blocked numbers
  unfold uniqueToolName Made
  dsimp only
  rw [found]
  generalize (if normalizeToolName base = "" then fallbackName index else normalizeToolName base) =
    first
  by_cases unused : first ∉ used
  · rw [if_pos unused]
    exact ⟨.inl rfl, unused, rfl⟩
  · rw [if_neg unused]
    exact ⟨.inr (mem_numberedNames.mp there), free, rfl⟩

end OneName

end CodexGate.Conversion
