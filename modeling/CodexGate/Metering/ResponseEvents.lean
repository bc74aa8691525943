import CodexGate.Foundation.Json
import CodexGate.Foundation.Text
import CodexGate.Types

namespace CodexGate.Metering

open Foundation

def nonemptyString (value : Json) (field : String) : Bool :=
  ((value.get field).bind Json.asStr).any (· ≠ "")

def outputPart (value : Json) : Bool := nonemptyString value "text" || nonemptyString value "refusal"

def outputItem (value : Json) : Bool :=
  match (value.get "type").bind Json.asStr with
  | some "message" | some "reasoning" => ["content", "summary"].any fun field =>
      ((value.get field).bind Json.asArray).any fun parts => parts.any outputPart
  | some "function_call" | some "mcp_call" => nonemptyString value "arguments"
  | some "custom_tool_call" => nonemptyString value "input"
  | some "code_interpreter_call" => nonemptyString value "code"
  | some "image_generation_call" => nonemptyString value "result"
  | _ => false

/-- Whether an event that is no delta has output, and what it is then the source of. -/
def outputSource (value : Json) : String → Bool × String
  | "response.audio.delta" => (nonemptyString value "data", "delta")
  | "response.image_generation_call.partial_image" => (nonemptyString value "partial_image_b64", "delta")
  | "response.shell_call_command.added" | "response.shell_call_command.done" =>
    (nonemptyString value "command", "output_done")
  | "response.output_text.done" | "response.reasoning_text.done"
  | "response.reasoning_summary_text.done" => (nonemptyString value "text", "output_done")
  | "response.refusal.done" => (nonemptyString value "refusal", "output_done")
  | "response.function_call_arguments.done" | "response.mcp_call_arguments.done" =>
    (nonemptyString value "arguments", "output_done")
  | "response.custom_tool_call_input.done" => (nonemptyString value "input", "output_done")
  | "response.code_interpreter_call_code.done" => (nonemptyString value "code", "output_done")
  | "response.content_part.done" | "response.reasoning_summary_part.done" =>
    ((value.get "part").any outputPart, "output_done")
  | "response.output_item.done" => ((value.get "item").any outputItem, "output_done")
  | "response.completed" | "response.done" | "response.incomplete" =>
    (((value.pointer ["response", "output"]).bind Json.asArray).any fun items => items.any outputItem,
      "response_done")
  | _ => (false, "delta")

def outputEventKind (value : Json) : Option String := do
  let kind ← (value.get "type").bind Json.asStr
  if startsWith kind "response." && endsWith kind ".delta" && nonemptyString value "delta" then
    some "delta"
  else
    let (hasOutput, source) := outputSource value kind
    if hasOutput then some source else none

def serviceTier (value : Json) : Option String :=
  (((value.get "response").bind fun response => response.get "service_tier").or
    (value.get "service_tier")).bind Json.asStr

def firstI64 (value : Json) (names : List (List String)) : Option Int :=
  names.findSome? fun name => (value.pointer name).bind Json.asI64

def number (value : Json) (names : List (List String)) : Option Int :=
  (firstI64 value names).filter fun n => 0 ≤ n

def inputNames : List (List String) :=
  [["input_tokens"], ["prompt_tokens"]]

def outputNames : List (List String) :=
  [["output_tokens"], ["completion_tokens"]]

def cachedNames : List (List String) :=
  [["input_tokens_details", "cached_tokens"],
    ["prompt_tokens_details", "cached_tokens"],
    ["cached_tokens"],
    ["cache_read_input_tokens"]]

def createdNames : List (List String) :=
  [["input_tokens_details", "cache_creation_tokens"],
    ["input_tokens_details", "cache_write_tokens"],
    ["prompt_tokens_details", "cache_creation_tokens"],
    ["prompt_tokens_details", "cache_write_tokens"],
    ["cache_creation_tokens"],
    ["cache_creation_input_tokens"],
    ["cached_creation_tokens"],
    ["cache_write_tokens"]]

def reasoningNames : List (List String) :=
  [["output_tokens_details", "reasoning_tokens"],
    ["completion_tokens_details", "reasoning_tokens"],
    ["reasoning_tokens"]]

def uncachedInput (input cached created : Int) : Int :=
  max (saturatingSubI64 (saturatingSubI64 input cached) created) 0

def parseUsage (value : Json) : Option Usage :=
  match number value inputNames, number value outputNames with
  | some input, some output =>
    let cached := (number value cachedNames).getD 0
    let created := (number value createdNames).getD 0
    let reasoning := (number value reasoningNames).getD 0
    some {
      inputTokens := uncachedInput input cached created
      outputTokens := output
      cacheReadInputTokens := cached
      cacheCreationInputTokens := created
      reasoningOutputTokens := reasoning }
  | _, _ => none

theorem number_getD (value : Json) (names : List (List String)) :
    (number value names).getD 0 = max ((firstI64 value names).getD 0) 0 := by
  unfold number
  cases firstI64 value names with
  | none => rfl
  | some n =>
    by_cases positive : 0 ≤ n
    · rw [Option.filter_some_pos (by simpa using positive)]
      show n = max n 0
      omega
    · rw [Option.filter_some_neg (by simpa using positive)]
      show (0 : Int) = max n 0
      omega

theorem number_eq_some {value : Json} {names : List (List String)} {n : Int} :
    number value names = some n ↔ firstI64 value names = some n ∧ 0 ≤ n := by
  simp [number, Option.filter_eq_some_iff]

theorem firstI64_fits {value : Json} {names : List (List String)} {n : Int}
    (read : firstI64 value names = some n) : i64Min ≤ n ∧ n ≤ i64Max := by
  obtain ⟨name, -, found⟩ := List.exists_of_findSome?_eq_some read
  obtain ⟨member, -, number⟩ := Option.bind_eq_some_iff.mp found
  exact Json.asI64_fits number

/-- Only what the cached counts leave over is charged as input, so two inputs are metered
alike exactly when they are equal or both are used up. -/
theorem uncachedInput_eq_iff {input other cached created : Int} (inputPos : 0 ≤ input)
    (inputFits : input ≤ i64Max) (otherPos : 0 ≤ other) (otherFits : other ≤ i64Max)
    (cachedPos : 0 ≤ cached) (cachedFits : cached ≤ i64Max) (createdPos : 0 ≤ created) :
    uncachedInput input cached created = uncachedInput other cached created ↔
      input = other ∨ input ≤ cached + created ∧ other ≤ cached + created := by
  simp only [uncachedInput, saturatingSubI64, clampI64, i64Max, i64Min] at *
  omega

def responseOrSelf (value : Json) : Json := (value.get "response").getD value

def eventStatus (value : Json) : Option String :=
  ((responseOrSelf value).get "status").bind Json.asStr

def eventType (value : Json) : Option String := (value.get "type").bind Json.asStr

def terminalStatuses : List String :=
  ["completed", "failed", "incomplete", "cancelled", "canceled"]

def terminalTypes : List String :=
  ["response.completed", "response.done", "response.failed", "response.incomplete",
    "response.cancelled", "response.canceled", "error"]

def isTerminalResponseEvent (value : Json) : Bool :=
  (eventStatus value).any terminalStatuses.contains || (eventType value).any terminalTypes.contains

def eventUsage (value : Json) : Option Usage :=
  (((value.get "response").bind fun response => response.get "usage").bind parseUsage).or
    ((value.get "usage").bind parseUsage)

structure Observation where
  firstOutputKind : Option String := none
  usage : Option Usage := none
  serviceTier : Option String := none
  terminal : Bool := false
  terminalUsage : Bool := false

/-- The usage of a terminal event is only replaced by that of another one. -/
def Observation.observe (self : Observation) (value : Json) : Observation :=
  let self := { self with firstOutputKind := self.firstOutputKind.or (outputEventKind value) }
  let terminal := isTerminalResponseEvent value
  let self := match eventUsage value with
    | some usage =>
      if terminal || !self.terminalUsage then
        { self with usage := some usage, terminalUsage := self.terminalUsage || terminal }
      else self
    | none => self
  let self := match Metering.serviceTier value with
    | some tier => { self with serviceTier := some tier }
    | none => self
  { self with terminal := self.terminal || terminal }

/-- A status as `StatusCode::from_u16` takes it, after the cut to 16 bits. -/
def statusFromU16 (n : Nat) : Option Nat :=
  let status := n % 2 ^ 16
  if 100 ≤ status ∧ status ≤ 999 then some status else none

def statusFromValue (value : Option Json) : Option Nat :=
  (value.bind fun value => (value.get "status").or (value.get "status_code")).bind fun status =>
    (status.asU64.or (status.asStr.bind parseU64)).bind statusFromU16

def errorText (error : Option Json) (field : Json → Option Json) : Option String :=
  (error.bind field).bind Json.asStr

def codeOrType (error : Json) : Option Json := (error.get "code").or (error.get "type")

def errorFields (error : Option Json) (fallbackCode fallbackMessage : String) : String × String :=
  (((errorText error codeOrType).filter (· ≠ "")).getD fallbackCode,
    ((errorText error (·.get "message")).filter (· ≠ "")).getD fallbackMessage)

def responseError (value : Json) : Option Json :=
  ((value.get "response").bind fun response => response.get "error").or (value.get "error")

def isInvalidEncryptedContent (value : Json) : Bool :=
  [value.get "error", value.pointer ["response", "error"]].any fun error =>
    (error.bind fun error => (error.get "code").bind Json.asStr) == some "invalid_encrypted_content"

def withoutOutput (output : Option Json) : Bool :=
  match output.bind Json.asArray with
  | some items => items.isEmpty
  | none => true

def rejectionWithoutOutput (value : Json) : Bool :=
  isInvalidEncryptedContent value && (eventUsage value).isNone &&
    withoutOutput (value.get "output") && withoutOutput (value.pointer ["response", "output"])

abbrev TerminalStatus := Nat × Option String × Option String

def responseFailureStatus (value : Json) (fallbackCode fallbackMessage : String) :
    TerminalStatus :=
  let error := responseError value
  let status := (((statusFromValue (value.get "response")).or (statusFromValue error)).or
    (statusFromValue (some value))).getD 502
  let (code, message) := errorFields error fallbackCode fallbackMessage
  (status, some code, some message)

def endedEarlyStatus (value : Json) : Nat :=
  ((statusFromValue (value.get "response")).or (statusFromValue (some value))).getD 200

def responseIncompleteStatus (value : Json) : TerminalStatus :=
  if (responseError value).isSome then
    responseFailureStatus value "response_incomplete" "response incomplete"
  else
    let response := value.get "response"
    let details := response.bind fun response => response.get "incomplete_details"
    let reason := (((details.bind fun details => details.get "reason").bind Json.asStr).or
      ((response.bind fun response => response.get "status").bind Json.asStr)).getD
        "response incomplete"
    (endedEarlyStatus value, some "response_incomplete", some reason)

def responseCancelledStatus (value : Json) : TerminalStatus :=
  if (responseError value).isSome then
    responseFailureStatus value "response_cancelled" "response cancelled"
  else (endedEarlyStatus value, some "response_cancelled", some "response cancelled")

def kindOfStatus : String → Option String
  | "completed" => some "response.completed"
  | "failed" => some "response.failed"
  | "incomplete" => some "response.incomplete"
  | "cancelled" | "canceled" => some "response.cancelled"
  | _ => none

def errorEventStatus (value : Json) : TerminalStatus :=
  let error := value.get "error"
  let status := ((statusFromValue (some value)).or (statusFromValue error)).getD 502
  let code := (errorText error codeOrType).getD "upstream_error"
  let message := (errorText error (·.get "message")).getD "upstream websocket returned an error"
  (status, some code, some message)

def terminalStatus (value : Json) : TerminalStatus :=
  if isInvalidEncryptedContent value then
    -- A missing numeric status must not turn this client error into a failover.
    let error := (value.get "error").or (value.pointer ["response", "error"])
    let (code, message) := errorFields error "invalid_encrypted_content"
      "encrypted content could not be verified"
    (400, some code, some message)
  else
    match ((eventStatus value).bind kindOfStatus).or (eventType value) with
    | some "response.completed" | some "response.done" => (200, none, none)
    | some "response.failed" => responseFailureStatus value "response_failed" "response failed"
    | some "response.incomplete" => responseIncompleteStatus value
    | some "response.cancelled" | some "response.canceled" => responseCancelledStatus value
    | _ => errorEventStatus value

theorem eventUsage_of_rejectionWithoutOutput {value : Json}
    (rejection : rejectionWithoutOutput value = true) : eventUsage value = none := by
  simp only [rejectionWithoutOutput, Bool.and_eq_true, Option.isNone_iff_eq_none] at rejection
  exact rejection.1.1.2

def lastUsage (carried : Json → Option Usage) (events : List Json) : Option Usage :=
  events.reverse.findSome? carried

def endingUsage (event : Json) : Option Usage :=
  if isTerminalResponseEvent event then eventUsage event else none

theorem lastUsage_concat (carried : Json → Option Usage) (events : List Json) (event : Json) :
    lastUsage carried (events ++ [event]) = (carried event).or (lastUsage carried events) := by
  rw [lastUsage, List.reverse_append, List.reverse_singleton, List.singleton_append, List.findSome?_cons]
  cases carried event with
  | none => rfl
  | some usage => rfl

structure Observes (events : List Json) (observation : Observation) : Prop where
  usage : observation.usage = (lastUsage endingUsage events).or (lastUsage eventUsage events)
  terminalUsage : observation.terminalUsage = (lastUsage endingUsage events).isSome
  terminal : observation.terminal = events.any isTerminalResponseEvent
  firstOutputKind : observation.firstOutputKind = events.findSome? outputEventKind

namespace Observation

variable (self : Observation) (event : Json)

theorem observe_firstOutputKind :
    (self.observe event).firstOutputKind = self.firstOutputKind.or (outputEventKind event) := by
  unfold observe
  cases eventUsage event <;> cases Metering.serviceTier event
  all_goals cases isTerminalResponseEvent event <;> cases self.terminalUsage <;> rfl

theorem observe_terminal :
    (self.observe event).terminal = (self.terminal || isTerminalResponseEvent event) := by
  unfold observe
  cases eventUsage event <;> cases Metering.serviceTier event
  all_goals cases isTerminalResponseEvent event <;> cases self.terminalUsage <;> rfl

theorem observe_usage :
    (self.observe event).usage =
        (if isTerminalResponseEvent event || !self.terminalUsage then eventUsage event else none).or
          self.usage ∧
      (self.observe event).terminalUsage =
        (self.terminalUsage || (endingUsage event).isSome) := by
  unfold observe endingUsage
  cases eventUsage event with
  | none => cases Metering.serviceTier event <;> simp
  | some usage =>
    cases Metering.serviceTier event <;> cases isTerminalResponseEvent event <;>
      cases self.terminalUsage <;> simp

end Observation

theorem Observes.nil : Observes [] {} := ⟨rfl, rfl, rfl, rfl⟩

theorem Observes.observe {events : List Json} {observation : Observation}
    (observes : Observes events observation) (event : Json) :
    Observes (events ++ [event]) (observation.observe event) := by
  obtain ⟨counted, kept⟩ := observation.observe_usage event
  refine ⟨?_, ?_, ?_, ?_⟩
  · rw [counted, observes.usage, observes.terminalUsage, lastUsage_concat, lastUsage_concat, endingUsage]
    cases isTerminalResponseEvent event with
    | true => cases eventUsage event <;> simp
    | false => cases lastUsage endingUsage events <;> simp
  · rw [kept, observes.terminalUsage, lastUsage_concat]
    cases endingUsage event <;> simp
  · rw [observation.observe_terminal, observes.terminal]
    simp
  · rw [observation.observe_firstOutputKind, observes.firstOutputKind, List.findSome?_append,
      List.findSome?_singleton]

theorem observes_foldl (events : List Json) : Observes events (events.foldl Observation.observe {}) := by
  induction events using List.reverseRecOn with
  | nil => exact .nil
  | append_singleton events event ih =>
    rw [List.foldl_concat]
    exact ih.observe event

theorem lastUsage_isSome_of_mem {events : List Json} {event : Json} (there : event ∈ events)
    (ends : isTerminalResponseEvent event = true) {usage : Usage} (carries : eventUsage event = some usage) :
    (lastUsage endingUsage events).isSome = true := by
  rw [lastUsage, List.findSome?_isSome_iff]
  exact ⟨event, List.mem_reverse.mpr there, by simp [endingUsage, ends, carries]⟩

/-- The usage of the last terminal event counts. A terminal event that comes again keeps it unless an
other terminal event has brought another usage since. -/
theorem observed_events (events : List Json) :
    let observed := events.foldl Observation.observe {}
    observed.usage = (lastUsage endingUsage events).or (lastUsage eventUsage events) ∧
      observed.terminal = events.any isTerminalResponseEvent ∧
      observed.firstOutputKind = events.findSome? outputEventKind ∧
      ∀ again ∈ events, isTerminalResponseEvent again = true →
        (observed.observe again).terminal = observed.terminal ∧
        (observed.observe again).firstOutputKind = observed.firstOutputKind ∧
        ((observed.observe again).usage = observed.usage ↔
          eventUsage again = none ∨ eventUsage again = lastUsage endingUsage events) := by
  have observes := observes_foldl events
  refine ⟨observes.usage, observes.terminal, observes.firstOutputKind, fun again there ends => ?_⟩
  have before := observes
  generalize events.foldl Observation.observe {} = observed at observes before ⊢
  refine ⟨?_, ?_, ?_⟩
  · have already : observed.terminal = true := by
      rw [observes.terminal, List.any_eq_true]
      exact ⟨again, there, ends⟩
    rw [Observation.observe_terminal, already, Bool.true_or]
  · rw [Observation.observe_firstOutputKind, observes.firstOutputKind]
    cases found : events.findSome? outputEventKind with
    | some kind => rfl
    | none => exact List.findSome?_eq_none_iff.mp found again there
  · rw [(observed.observe_usage again).1, ends, Bool.true_or, if_pos rfl]
    cases carries : eventUsage again with
    | none => simp
    | some usage =>
      obtain ⟨last, ended⟩ := Option.isSome_iff_exists.mp (lastUsage_isSome_of_mem there ends carries)
      rw [observes.usage, ended]
      simp

def earlierEnd : Json :=
  .object [("type", .string "response.done"),
    ("usage", .object [("input_tokens", .number "5"), ("output_tokens", .number "1")])]

def laterEnd : Json :=
  .object [("type", .string "response.done"),
    ("usage", .object [("input_tokens", .number "9"), ("output_tokens", .number "1")])]

theorem earlierEnd_again :
    ([earlierEnd, laterEnd].foldl Observation.observe {}).usage = some ⟨9, 1, 0, 0, 0⟩ ∧
      ([earlierEnd, laterEnd, earlierEnd].foldl Observation.observe {}).usage = some ⟨5, 1, 0, 0, 0⟩ ∧
      isTerminalResponseEvent earlierEnd = true := by
  decide +kernel

end CodexGate.Metering
