import CodexGate.Metering.ResponseEvents

namespace CodexGate.Conversion

open Foundation Metering

def chatUsageToResponses (usage : Json) : Json :=
  let inputTokens := ((usage.get "prompt_tokens").bind Json.asI64).getD 0
  let outputTokens := ((usage.get "completion_tokens").bind Json.asI64).getD 0
  let cachedTokens :=
    (((usage.pointer ["prompt_tokens_details", "cached_tokens"]).bind Json.asI64).or
      ((usage.get "cached_tokens").bind Json.asI64)).getD 0
  let cacheCreationTokens :=
    ((((usage.pointer ["prompt_tokens_details", "cache_creation_tokens"]).bind Json.asI64).or
      ((usage.get "cache_creation_tokens").bind Json.asI64)).or
      ((usage.get "cached_creation_tokens").bind Json.asI64)).getD 0
  let reasoningTokens :=
    ((usage.pointer ["completion_tokens_details", "reasoning_tokens"]).bind Json.asI64).getD 0
  .object [
    ("input_tokens", .ofInt inputTokens),
    ("input_tokens_details", .object [
      ("cached_tokens", .ofInt cachedTokens),
      ("cache_creation_tokens", .ofInt cacheCreationTokens)]),
    ("output_tokens", .ofInt outputTokens),
    ("output_tokens_details", .object [("reasoning_tokens", .ofInt reasoningTokens)]),
    ("total_tokens", .ofInt (((usage.get "total_tokens").bind Json.asI64).getD
      (saturatingAddI64 inputTokens outputTokens)))]

def chatInputNames : List (List String) :=
  [["prompt_tokens"]]

def chatOutputNames : List (List String) :=
  [["completion_tokens"]]

def chatCachedNames : List (List String) :=
  [["prompt_tokens_details", "cached_tokens"],
    ["cached_tokens"]]

def chatCreatedNames : List (List String) :=
  [["prompt_tokens_details", "cache_creation_tokens"],
    ["cache_creation_tokens"],
    ["cached_creation_tokens"]]

def chatReasoningNames : List (List String) :=
  [["completion_tokens_details", "reasoning_tokens"]]

def count (usage : Json) (names : List (List String)) : Int :=
  (firstI64 usage names).getD 0

theorem count_fits (usage : Json) (names : List (List String)) :
    i64Min ≤ count usage names ∧ count usage names ≤ i64Max := by
  unfold count
  cases read : firstI64 usage names with
  | none => exact ⟨by decide, by decide⟩
  | some n => exact firstI64_fits read

theorem firstI64_cons (usage : Json) (name : List String) (names : List (List String)) :
    firstI64 usage (name :: names) =
      ((usage.pointer name).bind Json.asI64).or (firstI64 usage names) := by
  rw [firstI64, List.findSome?_cons]
  cases (usage.pointer name).bind Json.asI64 <;> rfl

theorem firstI64_nil (usage : Json) : firstI64 usage [] = none := rfl

theorem chatUsageToResponses_inputDetails (usage : Json) :
    ((chatUsageToResponses usage).get "input_tokens_details") = some (.object [
      ("cached_tokens", .ofInt (count usage chatCachedNames)),
      ("cache_creation_tokens", .ofInt (count usage chatCreatedNames))]) := by
  simp only [count, chatCachedNames, chatCreatedNames, firstI64_cons, firstI64_nil, Option.or_none,
    Json.pointer_singleton usage (show Json.parseIndex "cached_tokens" = none by decide),
    Json.pointer_singleton usage (show Json.parseIndex "cache_creation_tokens" = none by decide),
    Json.pointer_singleton usage (show Json.parseIndex "cached_creation_tokens" = none by decide),
    ← Option.or_assoc]
  rfl

theorem chatUsageToResponses_input (usage : Json) :
    (chatUsageToResponses usage).get "input_tokens" =
      some (.ofInt (count usage chatInputNames)) := by
  simp only [count, chatInputNames, firstI64_cons, firstI64_nil, Option.or_none,
    Json.pointer_singleton usage (show Json.parseIndex "prompt_tokens" = none by decide)]
  rfl

theorem chatUsageToResponses_output (usage : Json) :
    (chatUsageToResponses usage).get "output_tokens" =
      some (.ofInt (count usage chatOutputNames)) := by
  simp only [count, chatOutputNames, firstI64_cons, firstI64_nil, Option.or_none,
    Json.pointer_singleton usage (show Json.parseIndex "completion_tokens" = none by decide)]
  rfl

theorem chatUsageToResponses_outputDetails (usage : Json) :
    (chatUsageToResponses usage).get "output_tokens_details" = some (.object [
      ("reasoning_tokens", .ofInt (count usage chatReasoningNames))]) := by
  simp only [count, chatReasoningNames, firstI64_cons, firstI64_nil, Option.or_none]
  rfl

theorem asI64_count (usage : Json) (names : List (List String)) :
    (Json.ofInt (count usage names)).asI64 = some (count usage names) :=
  Json.asI64_ofInt (count_fits usage names).1 (count_fits usage names).2

theorem firstI64_found {value found : Json} {name : List String} {n : Int}
    (names : List (List String)) (reached : value.pointer name = some found)
    (read : found.asI64 = some n) : firstI64 value (name :: names) = some n := by
  rw [firstI64_cons, reached, Option.bind_some, read, Option.some_or]

theorem chatUsageToResponses_firstInput (usage : Json) :
    firstI64 (chatUsageToResponses usage) inputNames = some (count usage chatInputNames) :=
  firstI64_found _ (Json.pointer_cons (chatUsageToResponses_input usage) [])
    (asI64_count usage chatInputNames)

theorem chatUsageToResponses_firstOutput (usage : Json) :
    firstI64 (chatUsageToResponses usage) outputNames = some (count usage chatOutputNames) :=
  firstI64_found _ (Json.pointer_cons (chatUsageToResponses_output usage) [])
    (asI64_count usage chatOutputNames)

theorem chatUsageToResponses_firstCached (usage : Json) :
    firstI64 (chatUsageToResponses usage) cachedNames = some (count usage chatCachedNames) :=
  firstI64_found _
    (Json.pointer_cons (chatUsageToResponses_inputDetails usage) ["cached_tokens"])
    (asI64_count usage chatCachedNames)

theorem chatUsageToResponses_firstCreated (usage : Json) :
    firstI64 (chatUsageToResponses usage) createdNames = some (count usage chatCreatedNames) :=
  firstI64_found _
    (Json.pointer_cons (chatUsageToResponses_inputDetails usage) ["cache_creation_tokens"])
    (asI64_count usage chatCreatedNames)

theorem chatUsageToResponses_firstReasoning (usage : Json) :
    firstI64 (chatUsageToResponses usage) reasoningNames =
      some (count usage chatReasoningNames) :=
  firstI64_found _
    (Json.pointer_cons (chatUsageToResponses_outputDetails usage) ["reasoning_tokens"])
    (asI64_count usage chatReasoningNames)

theorem parseUsage_chatUsageToResponses (usage : Json) (inputPos : 0 ≤ count usage chatInputNames)
    (outputPos : 0 ≤ count usage chatOutputNames) :
    parseUsage (chatUsageToResponses usage) = some {
      inputTokens := uncachedInput (count usage chatInputNames)
        (max (count usage chatCachedNames) 0) (max (count usage chatCreatedNames) 0)
      outputTokens := count usage chatOutputNames
      cacheReadInputTokens := max (count usage chatCachedNames) 0
      cacheCreationInputTokens := max (count usage chatCreatedNames) 0
      reasoningOutputTokens := max (count usage chatReasoningNames) 0 } := by
  have input := number_eq_some.mpr ⟨chatUsageToResponses_firstInput usage, inputPos⟩
  have output := number_eq_some.mpr ⟨chatUsageToResponses_firstOutput usage, outputPos⟩
  rw [parseUsage, input, output]
  simp only [number_getD, chatUsageToResponses_firstCached, chatUsageToResponses_firstCreated,
    chatUsageToResponses_firstReasoning, Option.getD_some]

theorem parseUsage_chatUsageToResponses_some {usage : Json} {metered : Usage}
    (parsed : parseUsage (chatUsageToResponses usage) = some metered) :
    0 ≤ count usage chatInputNames ∧ 0 ≤ count usage chatOutputNames := by
  unfold parseUsage at parsed
  split at parsed
  · next input output readInput readOutput =>
    obtain ⟨inputIs, inputPos⟩ := number_eq_some.mp readInput
    obtain ⟨outputIs, outputPos⟩ := number_eq_some.mp readOutput
    rw [chatUsageToResponses_firstInput] at inputIs
    rw [chatUsageToResponses_firstOutput] at outputIs
    cases inputIs
    cases outputIs
    exact ⟨inputPos, outputPos⟩
  · cases parsed

/-- The fields that the conversion reads hold the counts that the meter finds under all the
names it knows. -/
structure ReadsMetered (usage : Json) : Prop where
  input : 0 ≤ count usage chatInputNames ∧
    (count usage chatInputNames = count usage inputNames ∨
      (count usage chatInputNames ≤
          max (count usage cachedNames) 0 + max (count usage createdNames) 0 ∧
        count usage inputNames ≤
          max (count usage cachedNames) 0 + max (count usage createdNames) 0))
  output : count usage chatOutputNames = count usage outputNames
  cached : max (count usage chatCachedNames) 0 = max (count usage cachedNames) 0
  created : max (count usage chatCreatedNames) 0 = max (count usage createdNames) 0
  reasoning : max (count usage chatReasoningNames) 0 = max (count usage reasoningNames) 0

theorem parseUsage_some {usage : Json} {metered : Usage} (parsed : parseUsage usage = some metered) :
    0 ≤ count usage inputNames ∧ 0 ≤ count usage outputNames ∧
    metered = {
      inputTokens := uncachedInput (count usage inputNames)
        (max (count usage cachedNames) 0) (max (count usage createdNames) 0)
      outputTokens := count usage outputNames
      cacheReadInputTokens := max (count usage cachedNames) 0
      cacheCreationInputTokens := max (count usage createdNames) 0
      reasoningOutputTokens := max (count usage reasoningNames) 0 } := by
  unfold parseUsage at parsed
  split at parsed
  · next input output readInput readOutput =>
    obtain ⟨inputIs, inputPos⟩ := number_eq_some.mp readInput
    obtain ⟨outputIs, outputPos⟩ := number_eq_some.mp readOutput
    have inputCount : count usage inputNames = input := by rw [count, inputIs, Option.getD_some]
    have outputCount : count usage outputNames = output := by rw [count, outputIs, Option.getD_some]
    cases parsed
    subst inputCount
    subst outputCount
    exact ⟨inputPos, outputPos, by simp only [number_getD, count]⟩
  · cases parsed

/-- A converted usage object is metered as the Chat object it was made from exactly when the
conversion reads every count where the meter finds it. -/
theorem chatUsageToResponses_keeps_metering_iff {usage : Json} {metered : Usage}
    (parsed : parseUsage usage = some metered) :
    parseUsage (chatUsageToResponses usage) = parseUsage usage ↔ ReadsMetered usage := by
  obtain ⟨inputPos, outputPos, meteredIs⟩ := parseUsage_some parsed
  have cachedFits := (count_fits usage cachedNames).2
  have charge {other : Int} (otherPos : 0 ≤ other) (otherFits : other ≤ i64Max) :=
    @uncachedInput_eq_iff other (count usage inputNames) (max (count usage cachedNames) 0)
      (max (count usage createdNames) 0) otherPos otherFits inputPos
      (count_fits usage inputNames).2 (by omega) (by simp only [i64Max] at *; omega) (by omega)
  rw [parsed, meteredIs]
  constructor
  · intro kept
    obtain ⟨chatInputPos, chatOutputPos⟩ := parseUsage_chatUsageToResponses_some kept
    rw [parseUsage_chatUsageToResponses usage chatInputPos chatOutputPos] at kept
    injection kept with fields
    injection fields with input output cached created reasoning
    rw [cached, created, charge chatInputPos (count_fits usage chatInputNames).2] at input
    exact ⟨⟨chatInputPos, input⟩, output, cached, created, reasoning⟩
  · intro reads
    have chatInputPos := reads.input.1
    have chatOutputPos : 0 ≤ count usage chatOutputNames := by rw [reads.output]; exact outputPos
    rw [parseUsage_chatUsageToResponses usage chatInputPos chatOutputPos, reads.output, reads.cached,
      reads.created, reads.reasoning,
      (charge chatInputPos (count_fits usage chatInputNames).2).mpr reads.input.2]

def detailedUsage : Json :=
  .object [
    ("prompt_tokens", .number "100"),
    ("completion_tokens", .number "12"),
    ("prompt_tokens_details", .object [
      ("cached_tokens", .number "20"), ("cache_creation_tokens", .number "5")]),
    ("completion_tokens_details", .object [("reasoning_tokens", .number "3")])]

theorem chatUsageToResponses_keeps_metering_iff_detailed :
    parseUsage detailedUsage = some ⟨75, 12, 20, 5, 3⟩ ∧
    parseUsage (chatUsageToResponses detailedUsage) = parseUsage detailedUsage :=
  ⟨by decide, (chatUsageToResponses_keeps_metering_iff
    (show parseUsage detailedUsage = some ⟨75, 12, 20, 5, 3⟩ by decide)).mpr
      ⟨by decide, by decide, by decide, by decide, by decide⟩⟩

/-- The conversion does not know `cache_write_tokens`: the five written tokens are metered as
plain input. -/
theorem chatUsageToResponses_drops_cache_write :
    let usage := Json.object [
      ("prompt_tokens", .number "100"),
      ("completion_tokens", .number "12"),
      ("cached_tokens", .number "20"),
      ("cache_write_tokens", .number "5"),
      ("completion_tokens_details", .object [("reasoning_tokens", .number "3")])]
    parseUsage usage = some ⟨75, 12, 20, 5, 3⟩ ∧
    parseUsage (chatUsageToResponses usage) = some ⟨80, 12, 20, 0, 3⟩ := by
  decide

end CodexGate.Conversion
