import CodexGate.Foundation.Emission
import CodexGate.Foundation.Json
import CodexGate.Foundation.Text

namespace CodexGate.Conversion

open Foundation

/-- What the conversion calls in other crates: `serde_json::from_str`, `serde_json::from_slice`,
the text of a JSON value, and `blake3::hash`. -/
structure Crates where
  fromStr : String → Option Json
  fromSlice : List UInt8 → Except String Json
  render : Json → String
  blake3 : List UInt8 → List UInt8

def Crates.reading (texts : List (String × Json)) : Crates where
  fromStr text := texts.lookup text
  fromSlice _ := .error "expected value"
  render _ := ""
  blake3 bytes := bytes

inductive ToolKind
  | function (name : String)
  | custom (name : String)
  | namespaceTool (space name : String)

/-- The part of the context that the direction from Chat to Responses reads. -/
structure ConversionContext where
  toolByChatName : HashMap String ToolKind

def hexDigit (n : Nat) : Char :=
  if n < 10 then Char.ofNat (48 + n) else Char.ofNat (87 + n)

def hexEncode (bytes : List UInt8) : String :=
  String.ofList (bytes.flatMap fun b => [hexDigit (b.toNat / 16), hexDigit (b.toNat % 16)])

def shortHash (crates : Crates) (value : String) : String :=
  hexEncode ((crates.blake3 (utf8Bytes value)).take 12)

def responseId (crates : Crates) (chatId : Option String) : String :=
  match chatId with
  | some id => if startsWith id "resp_" then id else "resp_" ++ shortHash crates id
  | none => "resp_" ++ shortHash crates "missing-response-id"

def customInput (crates : Crates) (arguments : String) : String :=
  (((crates.fromStr arguments).bind fun value => value.get "input").bind Json.asStr).getD arguments

def functionCallItem (crates : Crates) (callId name arguments : String) : Json :=
  .object [
    ("id", .string ("fc_" ++ shortHash crates callId)),
    ("type", .string "function_call"),
    ("status", .string "completed"),
    ("call_id", .string callId),
    ("name", .string name),
    ("arguments", .string arguments)]

def toolItem (crates : Crates) (kind : Option ToolKind) (callId name arguments : String) : Json :=
  match kind with
  | some (.custom name) =>
    .object [
      ("id", .string ("ctc_" ++ shortHash crates callId)),
      ("type", .string "custom_tool_call"),
      ("status", .string "completed"),
      ("call_id", .string callId),
      ("name", .string name),
      ("input", .string (customInput crates arguments))]
  | some (.namespaceTool space name) =>
    .object [
      ("id", .string ("fc_" ++ shortHash crates callId)),
      ("type", .string "function_call"),
      ("status", .string "completed"),
      ("call_id", .string callId),
      ("name", .string (space ++ "." ++ name)),
      ("arguments", .string arguments)]
  | some (.function name) => functionCallItem crates callId name arguments
  | none => functionCallItem crates callId name arguments

def responseToolItem (crates : Crates) (toolCall : Json) (index : Nat)
    (context : ConversionContext) : Json :=
  let callId := ((toolCall.get "id").bind Json.asStr).getD
    ("call_" ++ shortHash crates (toString index))
  let name := ((toolCall.pointer ["function", "name"]).bind Json.asStr).getD "unknown_tool"
  let arguments := ((toolCall.pointer ["function", "arguments"]).bind Json.asStr).getD "{}"
  toolItem crates (context.toolByChatName.lookup name) callId name arguments

def chatToolCall (callId name arguments : String) : Json :=
  .object [
    ("id", .string callId),
    ("function", .object [("name", .string name), ("arguments", .string arguments)])]

def ConversionContext.isCustom (context : ConversionContext) (chatName : String) : Bool :=
  match context.toolByChatName.lookup chatName with
  | some (.custom _) => true
  | _ => false

def ConversionContext.shownName (context : ConversionContext) (chatName : String) : String :=
  match context.toolByChatName.lookup chatName with
  | some (.custom name) => name
  | some (.namespaceTool space name) => space ++ "." ++ name
  | some (.function name) => name
  | none => chatName

def toolItemId (crates : Crates) (context : ConversionContext) (callId name : String) : String :=
  (if context.isCustom name then "ctc_" else "fc_") ++ shortHash crates callId

structure ItemIdentity where
  id : Option Json
  type : Option Json
  callId : Option Json
  name : Option Json

def itemIdentity (item : Json) : ItemIdentity :=
  ⟨item.get "id", item.get "type", item.get "call_id", item.get "name"⟩

def toolIdentity (crates : Crates) (context : ConversionContext) (callId name : String) :
    ItemIdentity :=
  ⟨some (.string (toolItemId crates context callId name)),
    some (.string (if context.isCustom name then "custom_tool_call" else "function_call")),
    some (.string callId),
    some (.string (context.shownName name))⟩

section ToolItem

variable (crates : Crates) (context : ConversionContext) (callId name arguments : String)
  (index : Nat)

theorem responseToolItem_chatToolCall :
    responseToolItem crates (chatToolCall callId name arguments) index context =
      toolItem crates (context.toolByChatName.lookup name) callId name arguments := rfl

theorem responseToolItem_identity :
    itemIdentity (responseToolItem crates (chatToolCall callId name arguments) index context) =
      toolIdentity crates context callId name := by
  rw [responseToolItem_chatToolCall]
  unfold toolIdentity toolItemId ConversionContext.isCustom ConversionContext.shownName
  rcases context.toolByChatName.lookup name with _ | _ | _ | _ <;> rfl

theorem responseToolItem_payload :
    (responseToolItem crates (chatToolCall callId name arguments) index context).get
        (if context.isCustom name then "input" else "arguments") =
      some (.string (if context.isCustom name then customInput crates arguments else arguments)) := by
  rw [responseToolItem_chatToolCall]
  unfold ConversionContext.isCustom
  rcases context.toolByChatName.lookup name with _ | _ | _ | _ <;> rfl

theorem itemIdentity_insert_status (item : Json) (status : Json) :
    itemIdentity (item.insert "status" status) = itemIdentity item := by
  simp [itemIdentity, Json.get_insert_of_ne]

end ToolItem

inductive ResponseEvent
  | created (response : Json)
  | inProgress (response : Json)
  | outputItemAdded (outputIndex : Nat) (item : Json)
  | contentPartAdded (itemId : String) (outputIndex : Nat)
  | outputTextDelta (itemId : String) (outputIndex : Nat) (delta : String)
  | toolDelta (isCustom : Bool) (itemId : String) (outputIndex : Nat) (delta : String)
  | outputTextDone (itemId : String) (outputIndex : Nat) (text : String)
  | contentPartDone (itemId : String) (outputIndex : Nat) (text : String)
  | outputItemDone (outputIndex : Nat) (item : Json)
  | toolDone (isCustom : Bool) (itemId : Option Json) (outputIndex : Nat) (payload : Option Json)
  | completed (response : Json)
  | error (message : String)
  | failed (response : Json)

def outputText (text : String) : Json :=
  .object [
    ("type", .string "output_text"), ("text", .string text), ("annotations", .array []),
    ("logprobs", .array [])]

namespace ResponseEvent

def eventName : ResponseEvent → String
  | created _ => "response.created"
  | inProgress _ => "response.in_progress"
  | outputItemAdded _ _ => "response.output_item.added"
  | contentPartAdded _ _ => "response.content_part.added"
  | outputTextDelta _ _ _ => "response.output_text.delta"
  | toolDelta true _ _ _ => "response.custom_tool_call_input.delta"
  | toolDelta false _ _ _ => "response.function_call_arguments.delta"
  | outputTextDone _ _ _ => "response.output_text.done"
  | contentPartDone _ _ _ => "response.content_part.done"
  | outputItemDone _ _ => "response.output_item.done"
  | toolDone true _ _ _ => "response.custom_tool_call_input.done"
  | toolDone false _ _ _ => "response.function_call_arguments.done"
  | completed _ => "response.completed"
  | error _ => "error"
  | failed _ => "response.failed"

def members : ResponseEvent → List (String × Json)
  | created response => [("response", response)]
  | inProgress response => [("response", response)]
  | outputItemAdded outputIndex item => [("output_index", .ofNat outputIndex), ("item", item)]
  | contentPartAdded itemId outputIndex =>
    [("item_id", .string itemId), ("output_index", .ofNat outputIndex),
      ("content_index", .ofNat 0), ("part", outputText "")]
  | outputTextDelta itemId outputIndex delta =>
    [("item_id", .string itemId), ("output_index", .ofNat outputIndex),
      ("content_index", .ofNat 0), ("delta", .string delta), ("logprobs", .array [])]
  | toolDelta _ itemId outputIndex delta =>
    [("item_id", .string itemId), ("output_index", .ofNat outputIndex), ("delta", .string delta)]
  | outputTextDone itemId outputIndex text =>
    [("item_id", .string itemId), ("output_index", .ofNat outputIndex),
      ("content_index", .ofNat 0), ("text", .string text), ("logprobs", .array [])]
  | contentPartDone itemId outputIndex text =>
    [("item_id", .string itemId), ("output_index", .ofNat outputIndex),
      ("content_index", .ofNat 0), ("part", outputText text)]
  | outputItemDone outputIndex item => [("output_index", .ofNat outputIndex), ("item", item)]
  | toolDone isCustom itemId outputIndex payload =>
    [("item_id", .ofOption itemId), ("output_index", .ofNat outputIndex),
      (if isCustom then "input" else "arguments", .ofOption payload)]
  | completed response => [("response", response)]
  | error message =>
    [("code", .string "responses_via_chat_conversion_failed"), ("message", .string message)]
  | failed response => [("response", response)]

def json (event : ResponseEvent) : Json :=
  .object (("type", .string event.eventName) :: event.members)

end ResponseEvent

structure SentEvent where
  sequence : Int
  event : ResponseEvent

namespace SentEvent

def data (sent : SentEvent) : Json :=
  sent.event.json.insert "sequence_number" (.ofInt sent.sequence)

def text (crates : Crates) (sent : SentEvent) : String :=
  "event: " ++ sent.event.eventName ++ "\ndata: " ++ crates.render sent.data ++ "\n\n"

theorem data_sequenceNumber (sent : SentEvent) :
    sent.data.get "sequence_number" = some (.ofInt sent.sequence) :=
  Json.get_insert_self _ _ _

end SentEvent

end CodexGate.Conversion
