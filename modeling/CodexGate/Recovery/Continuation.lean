import CodexGate.Recovery.EncryptedContent

namespace CodexGate.Recovery

open Foundation

def Contains (value : Json) (kind : String) : Prop :=
  ∃ item ∈ visitInput value, itemType item = some kind

def HoldsToolOutput (value : Json) : Prop :=
  Contains value "function_call_output" ∨ Contains value "custom_tool_call_output"

/-- The continuation stays with an output of a tool call, and goes otherwise. -/
def KeepsContinuation (body cleaned : Json) : Prop :=
  (HoldsToolOutput cleaned →
    cleaned.get "previous_response_id" = body.get "previous_response_id") ∧
    (¬HoldsToolOutput cleaned → cleaned.get "previous_response_id" = none)

section Items

variable {sha256 : String → Digest} {invalid : Option (List Digest)} {item left : Json}

theorem itemType_remove {key : String} (apart : key ≠ "type") :
    itemType (item.remove key) = itemType item := by
  rw [itemType, Json.get_remove_of_ne item apart.symm, itemType]

theorem stripReasoning_type (stripped : stripReasoning item = some left) :
    itemType left = itemType item := by
  have plain : itemType (item.remove "encrypted_content") = itemType item :=
    itemType_remove (by decide)
  have shown : ∀ value : Json, itemType
      (if (value.get "content").any Json.isNull then value.remove "content" else value) =
        itemType value := by
    intro value
    split
    · exact itemType_remove (by decide)
    · rfl
  have all := (shown (item.remove "encrypted_content")).trans plain
  unfold stripReasoning at stripped
  dsimp only at stripped
  split at stripped
  · rename_i members found
    split at stripped
    · obtain rfl := Option.some.inj stripped
      rwa [found] at all
    · cases stripped
  · obtain rfl := Option.some.inj stripped
    exact all

theorem clean_type (cleaned : (clean sha256 invalid item).1 = some left) :
    itemType left = itemType item := by
  unfold clean at cleaned
  split at cleaned
  · obtain rfl := Option.some.inj cleaned
    rfl
  · split at cleaned
    · obtain rfl := Option.some.inj cleaned
      rfl
    · split at cleaned
      · cases cleaned
      · exact stripReasoning_type cleaned

theorem clean_other (other : supportedItem item = false) :
    clean sha256 invalid item = (some item, 0) := by
  rw [clean, other]
  rfl

theorem stripReasoning_object {members : List (String × Json)}
    (stripped : stripReasoning (.object members) = some left) : ∃ kept, left = .object kept := by
  have shown : ∃ shown,
      (if (((Json.object members).remove "encrypted_content").get "content").any Json.isNull then
        ((Json.object members).remove "encrypted_content").remove "content"
      else (Json.object members).remove "encrypted_content") = .object shown := by
    split
    · exact ⟨_, rfl⟩
    · exact ⟨_, rfl⟩
  obtain ⟨shown, same⟩ := shown
  simp only [stripReasoning, same] at stripped
  split at stripped
  · exact ⟨shown, (Option.some.inj stripped).symm⟩
  · cases stripped

theorem clean_object {members : List (String × Json)}
    (cleaned : (clean sha256 invalid (.object members)).1 = some left) :
    ∃ kept, left = .object kept := by
  unfold clean at cleaned
  split at cleaned
  · exact ⟨members, (Option.some.inj cleaned).symm⟩
  · split at cleaned
    · exact ⟨members, (Option.some.inj cleaned).symm⟩
    · split at cleaned
      · cases cleaned
      · exact stripReasoning_object cleaned

theorem supported_of_type {kind : String} (typed : itemType item = some kind)
    (other : kind ∉ ["reasoning", "compaction", "compaction_summary"]) :
    supportedItem item = false := by
  rw [supportedItem, typed]
  simpa using other

end Items

section Input

variable {sha256 : String → Digest} {invalid : Option (List Digest)} {value cleaned : Json}
  {count : Nat} {kind : String}

theorem visitInput_insert {members : List (String × Json)} (object : value = .object members)
    (input : Json) :
    visitInput (value.insert "input" input) =
      match input with
      | .array items => items
      | .object members => [.object members]
      | _ => [] := by
  subst object
  rw [visitInput, Json.get_insert_self]
  cases input <;> rfl

theorem cleanInput_contains (done : cleanInput sha256 invalid value = some (cleaned, count))
    (other : kind ∉ ["reasoning", "compaction", "compaction_summary"]) :
    Contains cleaned kind ↔ Contains value kind := by
  have object : ∀ input, value.get "input" = some input → ∃ members, value = .object members := by
    intro input found
    cases value with
    | object members => exact ⟨members, rfl⟩
    | _ => cases found
  unfold cleanInput at done
  split at done
  · rename_i items found
    obtain ⟨members, shape⟩ := object _ found
    obtain ⟨rfl, -⟩ := Prod.mk.inj (Option.some.inj done)
    rw [Contains, Contains, visitInput_insert shape, visitInput, found]
    constructor
    · rintro ⟨left, there, typed⟩
      obtain ⟨result, made, kept⟩ := List.mem_filterMap.mp there
      obtain ⟨item, inside, rfl⟩ := List.mem_map.mp made
      exact ⟨item, inside, (clean_type kept).symm.trans typed⟩
    · rintro ⟨item, there, typed⟩
      have kept : clean sha256 invalid item = (some item, 0) :=
        clean_other (supported_of_type typed other)
      refine ⟨item, List.mem_filterMap.mpr ⟨_, List.mem_map_of_mem there, ?_⟩, typed⟩
      rw [kept]
  · rename_i members found
    obtain ⟨whole, shape⟩ := object _ found
    obtain ⟨rfl, -⟩ := Prod.mk.inj (Option.some.inj done)
    rw [Contains, Contains, visitInput_insert shape, visitInput, found]
    cases result : (clean sha256 invalid (.object members)).1 with
    | none =>
      constructor
      · rintro ⟨left, there, -⟩
        cases there
      · rintro ⟨item, there, typed⟩
        obtain rfl := List.mem_singleton.mp there
        rw [clean_other (supported_of_type typed other)] at result
        cases result
    | some left =>
      obtain ⟨kept, rfl⟩ := clean_object result
      have same := clean_type result
      constructor
      · rintro ⟨item, there, typed⟩
        obtain rfl := List.mem_singleton.mp there
        exact ⟨_, List.mem_singleton_self _, same.symm.trans typed⟩
      · rintro ⟨item, there, typed⟩
        obtain rfl := List.mem_singleton.mp there
        exact ⟨_, List.mem_singleton_self _, same.trans typed⟩
  · cases done

theorem cleanInput_get {key : String} (apart : key ≠ "input")
    (done : cleanInput sha256 invalid value = some (cleaned, count)) :
    cleaned.get key = value.get key := by
  unfold cleanInput at done
  split at done
  · obtain ⟨rfl, -⟩ := Prod.mk.inj (Option.some.inj done)
    exact Json.get_insert_of_ne value _ apart
  · obtain ⟨rfl, -⟩ := Prod.mk.inj (Option.some.inj done)
    exact Json.get_insert_of_ne value _ apart
  · cases done

theorem hasToolOutput_iff : hasToolOutput value = true ↔ Contains value "function_call_output" := by
  simp [hasToolOutput, Contains]

theorem contains_remove {key : String} (apart : key ≠ "input") :
    Contains (value.remove key) kind ↔ Contains value kind := by
  rw [Contains, Contains, visitInput, Json.get_remove_of_ne value apart.symm, visitInput]

theorem sanitize_websocket (done : sanitize sha256 invalid true value = some (cleaned, count)) :
    (∀ kind ∉ ["reasoning", "compaction", "compaction_summary"],
        Contains cleaned kind ↔ Contains value kind) ∧
      (Contains value "function_call_output" →
        cleaned.get "previous_response_id" = value.get "previous_response_id") ∧
      (¬Contains value "function_call_output" → cleaned.get "previous_response_id" = none) := by
  unfold sanitize at done
  split at done
  · cases done
  · rename_i input counted found
    have same : ∀ kind ∉ ["reasoning", "compaction", "compaction_summary"],
        Contains input kind ↔ Contains value kind := fun kind other => cleanInput_contains found other
    have output := same "function_call_output" (by decide)
    split at done
    · cases done
    · split at done
      · rename_i without
        obtain ⟨rfl, -⟩ := Prod.mk.inj (Option.some.inj done)
        have missing : ¬Contains value "function_call_output" := by
          rw [← output, ← hasToolOutput_iff]
          simpa using without
        refine ⟨fun kind other => ?_, fun there => absurd there missing, fun _ => ?_⟩
        · exact (contains_remove (by decide)).trans (same kind other)
        · exact Json.get_remove_self input _
      · rename_i with_output
        obtain ⟨rfl, -⟩ := Prod.mk.inj (Option.some.inj done)
        have there : Contains value "function_call_output" := by
          rw [← output, ← hasToolOutput_iff]
          simpa using with_output
        exact ⟨same, fun _ => cleanInput_get (by decide) found, fun missing => absurd there missing⟩

end Input

section Retry

variable {sha256 : String → Digest} {self : RequestRecovery} {body cleaned : Json}

theorem prepareRetry_sanitizes
    (retried : (self.prepareRetry sha256 (some body) true).2 = some cleaned) :
    ∃ count, sanitize sha256 none true body = some (cleaned, count) := by
  unfold RequestRecovery.prepareRetry at retried
  split at retried
  · cases retried
  · split at retried
    · cases retried
    · rename_i input count found
      obtain rfl := Option.some.inj retried
      exact ⟨count, found⟩

/-- The continuation is dropped under an output of a custom tool call with none of a function call. -/
theorem prepareRetry_continuation (sha256 : String → Digest) (self : RequestRecovery)
    {body cleaned : Json} (continued : (body.get "previous_response_id").isSome = true)
    (retried : (self.prepareRetry sha256 (some body) true).2 = some cleaned) :
    KeepsContinuation body cleaned ↔
      (Contains body "custom_tool_call_output" → Contains body "function_call_output") := by
  obtain ⟨count, sanitized⟩ := prepareRetry_sanitizes retried
  obtain ⟨same, kept, dropped⟩ := sanitize_websocket sanitized
  have function := same "function_call_output" (by decide)
  have custom := same "custom_tool_call_output" (by decide)
  rw [KeepsContinuation, HoldsToolOutput, function, custom]
  by_cases output : Contains body "function_call_output"
  · constructor
    · exact fun _ _ => output
    · exact fun _ => ⟨fun _ => kept output, fun missing => absurd (.inl output) missing⟩
  · have gone := dropped output
    constructor
    · intro keeps there
      rw [← keeps.1 (.inr there), gone] at continued
      cases continued
    · intro covered
      refine ⟨fun held => ?_, fun _ => gone⟩
      rcases held with there | there
      · exact absurd there output
      · exact absurd (covered there) output

end Retry

def customContinuation : Json :=
  .object [
    ("previous_response_id", .string "resp_1"),
    ("input", .array [
      .object [("type", .string "reasoning"), ("encrypted_content", .string "old")],
      .object [
        ("type", .string "custom_tool_call_output"), ("call_id", .string "call_1"),
        ("output", .string "done")]])]

def freshRecovery : RequestRecovery where
  enabled := true
  invalid := []
  trace := ⟨0, 0, 0⟩

def customRetried : Json :=
  .object [
    ("input", .array [
      .object [
        ("type", .string "custom_tool_call_output"), ("call_id", .string "call_1"),
        ("output", .string "done")]])]

theorem customContinuation_retried :
    (freshRecovery.prepareRetry (fun _ => []) (some customContinuation) true).2 = some customRetried :=
  rfl

theorem prepareRetry_continuation_custom :
    KeepsContinuation customContinuation customRetried ↔
      (Contains customContinuation "custom_tool_call_output" →
        Contains customContinuation "function_call_output") :=
  prepareRetry_continuation (fun _ => []) freshRecovery rfl customContinuation_retried

theorem custom_continuation_lost :
    (freshRecovery.prepareRetry (fun _ => []) (some customContinuation) true).2 = some customRetried ∧
      HoldsToolOutput customRetried ∧
      customRetried.get "previous_response_id" ≠ customContinuation.get "previous_response_id" :=
  ⟨rfl, .inr ⟨_, List.mem_singleton_self _, rfl⟩, fun same => by cases same⟩

end CodexGate.Recovery
