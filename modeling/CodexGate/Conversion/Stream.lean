import CodexGate.Conversion.Decoder
import CodexGate.Conversion.Items
import CodexGate.Conversion.Usage

namespace CodexGate.Conversion

open Foundation Metering

structure StreamToolCall where
  callId : String
  name : String
  arguments : String
  outputIndex : Nat
  emitted : Bool
  emittedArgumentsLen : Nat

structure ChatSseToResponses where
  decoder : SseDecoder
  context : ConversionContext
  maxBytes : Nat
  responseId : String
  model : Json
  createdAt : Int
  created : Bool
  sequence : Int
  output : List Json
  messageIndex : Option Nat
  messageId : String
  text : String
  textStarted : Bool
  tools : HashMap Nat StreamToolCall
  toolOrder : List Nat
  usage : Json
  serviceTier : Option String
  finishReason : Option String
  sawDone : Bool
  terminal : Bool
  totalSeen : Nat

def streamToolItemId (crates : Crates) (tool : StreamToolCall) (index : Nat)
    (context : ConversionContext) : String :=
  (((responseToolItem crates (chatToolCall tool.callId tool.name tool.arguments) index context).get
    "id").bind Json.asStr).getD "fc_missing"

namespace ChatSseToResponses

abbrev Sent := Emission ChatSseToResponses SentEvent

def new (crates : Crates) (context : ConversionContext) (maxBytes : Nat) : ChatSseToResponses where
  decoder := .default
  context := context
  maxBytes := max maxBytes 1024
  responseId := Conversion.responseId crates none
  model := .null
  createdAt := 0
  created := false
  sequence := 0
  output := []
  messageIndex := none
  messageId := "msg_" ++ shortHash crates "stream-message"
  text := ""
  textStarted := false
  tools := ∅
  toolOrder := []
  usage := .null
  serviceTier := none
  finishReason := none
  sawDone := false
  terminal := false
  totalSeen := 0

def send (self : ChatSseToResponses) (event : ResponseEvent) : Sent :=
  ⟨[⟨self.sequence, event⟩], { self with sequence := saturatingAddI64 self.sequence 1 }⟩

def incompleteDetails (finishReason : Option String) : Json :=
  match finishReason with
  | some "length" => .object [("reason", .string "max_output_tokens")]
  | some "content_filter" => .object [("reason", .string "content_filter")]
  | _ => .null

def responseSnapshot (self : ChatSseToResponses) (status : String) : Json :=
  .object [
    ("id", .string self.responseId),
    ("object", .string "response"),
    ("created_at", .ofInt self.createdAt),
    ("status", .string status),
    ("error", .null),
    ("incomplete_details", incompleteDetails self.finishReason),
    ("model", self.model),
    ("output", .array self.output),
    ("parallel_tool_calls", .bool true),
    ("usage", self.usage),
    ("service_tier", .ofOptionString self.serviceTier),
    ("metadata", .object [])]

def startEvents (self : ChatSseToResponses) : Sent :=
  let self := { self with created := true }
  (self.send (.created (self.responseSnapshot "in_progress"))).andThen fun self =>
    self.send (.inProgress (self.responseSnapshot "in_progress"))

def startedMessage (self : ChatSseToResponses) : Json :=
  .object [
    ("id", .string self.messageId),
    ("type", .string "message"),
    ("status", .string "in_progress"),
    ("role", .string "assistant"),
    ("content", .array [])]

def ensureMessage (self : ChatSseToResponses) : Sent :=
  if self.messageIndex.isSome then .silent self
  else
    let outputIndex := self.output.length
    let item := self.startedMessage
    { self with messageIndex := some outputIndex, output := self.output ++ [item] }.send
      (.outputItemAdded outputIndex item)

def startText (self : ChatSseToResponses) : Sent :=
  if self.textStarted then .silent self
  else
    { self with textStarted := true }.send
      (.contentPartAdded self.messageId (self.messageIndex.getD 0))

def sendText (self : ChatSseToResponses) (delta : String) : Sent :=
  { self with text := self.text ++ delta }.send
    (.outputTextDelta self.messageId (self.messageIndex.getD 0) delta)

def appendText (self : ChatSseToResponses) (delta : String) : Sent :=
  (self.ensureMessage.andThen startText).andThen fun self => self.sendText delta

def startedTool (crates : Crates) (context : ConversionContext) (tool : StreamToolCall)
    (index : Nat) : Json :=
  (responseToolItem crates (chatToolCall tool.callId tool.name "") index context).insert "status"
    (.string "in_progress")

def announceTool (crates : Crates) (self : ChatSseToResponses) (tool : StreamToolCall)
    (index : Nat) : Sent :=
  if tool.emitted then .silent self
  else
    let item := startedTool crates self.context tool index
    { self with output := self.output.set tool.outputIndex item }.send
      (.outputItemAdded tool.outputIndex item)

def sendArguments (crates : Crates) (self : ChatSseToResponses) (tool : StreamToolCall)
    (index : Nat) : Sent :=
  if byteLength tool.arguments > tool.emittedArgumentsLen then
    self.send (.toolDelta (self.context.isCustom tool.name)
      (streamToolItemId crates tool index self.context) tool.outputIndex
      (sliceFrom tool.arguments tool.emittedArgumentsLen))
  else .silent self

def nameTool (crates : Crates) (responseId : String) (index : Nat) (force : Bool)
    (tool : StreamToolCall) : StreamToolCall :=
  if force then
    { tool with
      callId := if tool.callId = "" then
          "call_" ++ shortHash crates s!"{responseId}:{index}"
        else tool.callId
      name := if tool.name = "" then s!"unknown_tool_{index}" else tool.name }
  else tool

def StreamToolCall.sent (tool : StreamToolCall) : StreamToolCall :=
  { tool with
    emitted := true
    emittedArgumentsLen := max tool.emittedArgumentsLen (byteLength tool.arguments) }

def storeTool (self : ChatSseToResponses) (index : Nat) (tool : StreamToolCall) :
    ChatSseToResponses :=
  { self with tools := self.tools.insert index tool }

def emitTool (crates : Crates) (self : ChatSseToResponses) (index : Nat) (force : Bool) : Sent :=
  match self.tools.lookup index with
  | none => .silent self
  | some tool =>
    let tool := nameTool crates self.responseId index force tool
    if tool.name = "" ∨ tool.callId = "" then .silent (self.storeTool index tool)
    else
      ((announceTool crates self tool index).andThen fun self =>
        sendArguments crates self tool index).andThen fun self =>
          .silent (self.storeTool index (StreamToolCall.sent tool))

def freshTool (self : ChatSseToResponses) : StreamToolCall where
  callId := ""
  name := ""
  arguments := ""
  outputIndex := self.output.length
  emitted := false
  emittedArgumentsLen := 0

def registerTool (self : ChatSseToResponses) (index : Nat) : ChatSseToResponses :=
  if (self.tools.lookup index).isSome then self
  else
    { self with
      toolOrder := self.toolOrder ++ [index]
      output := self.output ++ [.null]
      tools := self.tools.insert index self.freshTool }

structure ToolDelta where
  index : Nat
  callId : String
  name : String
  arguments : String

def ToolDelta.read (delta : Json) : ToolDelta where
  index := ((delta.get "index").bind Json.asU64).getD 0
  callId := ((delta.get "id").bind Json.asStr).getD ""
  name := ((delta.pointer ["function", "name"]).bind Json.asStr).getD ""
  arguments := ((delta.pointer ["function", "arguments"]).bind Json.asStr).getD ""

def StreamToolCall.extend (tool : StreamToolCall) (delta : ToolDelta) : StreamToolCall :=
  { tool with
    callId := tool.callId ++ delta.callId
    name := tool.name ++ delta.name
    arguments := tool.arguments ++ delta.arguments }

def extendTool (self : ChatSseToResponses) (delta : ToolDelta) : ChatSseToResponses :=
  match self.tools.lookup delta.index with
  | none => self
  | some tool => self.storeTool delta.index (StreamToolCall.extend tool delta)

def appendToolDelta (crates : Crates) (self : ChatSseToResponses) (delta : Json) : Sent :=
  let delta := ToolDelta.read delta
  emitTool crates ((self.registerTool delta.index).extendTool delta) delta.index false

def completedMessage (self : ChatSseToResponses) : Json :=
  .object [
    ("id", .string self.messageId),
    ("type", .string "message"),
    ("status", .string "completed"),
    ("role", .string "assistant"),
    ("content", .array (if self.textStarted then [outputText self.text] else []))]

def sendTextDone (self : ChatSseToResponses) (outputIndex : Nat) : Sent :=
  if self.textStarted then
    (self.send (.outputTextDone self.messageId outputIndex self.text)).andThen fun self =>
      self.send (.contentPartDone self.messageId outputIndex self.text)
  else .silent self

def sendItemDone (self : ChatSseToResponses) (outputIndex : Nat) (item : Json) : Sent :=
  { self with output := self.output.set outputIndex item }.send (.outputItemDone outputIndex item)

def completeMessage (self : ChatSseToResponses) : Sent :=
  match self.messageIndex with
  | none => .silent self
  | some outputIndex =>
    (self.sendTextDone outputIndex).andThen fun self =>
      self.sendItemDone outputIndex self.completedMessage

def completedTool (crates : Crates) (context : ConversionContext) (tool : StreamToolCall)
    (index : Nat) : Json :=
  responseToolItem crates (chatToolCall tool.callId tool.name tool.arguments) index context

def completeTool (crates : Crates) (self : ChatSseToResponses) (index : Nat) : Sent :=
  match self.tools.lookup index with
  | none => .silent self
  | some tool =>
    let item := completedTool crates self.context tool index
    let isCustom := (item.get "type").bind Json.asStr = some "custom_tool_call"
    ({ self with output := self.output.set tool.outputIndex item }.send
      (.toolDone isCustom (item.get "id") tool.outputIndex
        (item.get (if isCustom then "input" else "arguments")))).andThen fun self =>
          self.send (.outputItemDone tool.outputIndex item)

def finalStatus (finishReason : Option String) : String :=
  if finishReason = some "length" ∨ finishReason = some "content_filter" then "incomplete"
  else "completed"

def sendCompleted (self : ChatSseToResponses) : Sent :=
  let self := { self with terminal := true }
  self.send (.completed (self.responseSnapshot (finalStatus self.finishReason)))

def complete (crates : Crates) (self : ChatSseToResponses) : Sent :=
  if self.terminal then .silent self
  else
    (((Emission.forEach (fun self index => emitTool crates self index true) self
      self.toolOrder).andThen completeMessage).andThen fun self =>
        Emission.forEach (completeTool crates) self self.toolOrder).andThen sendCompleted

def failedResponse (self : ChatSseToResponses) (message : String) : Json :=
  .object [
    ("id", .string self.responseId),
    ("object", .string "response"),
    ("created_at", .ofInt self.createdAt),
    ("status", .string "failed"),
    ("error", .object [
      ("type", .string "server_error"),
      ("code", .string "responses_via_chat_conversion_failed"),
      ("message", .string message)]),
    ("output", .array self.output),
    ("model", self.model),
    ("usage", self.usage),
    ("service_tier", .ofOptionString self.serviceTier)]

def fail (self : ChatSseToResponses) (message : String) : Sent :=
  if self.terminal then .silent self
  else
    ((if self.created then .silent self else self.startEvents).andThen fun self =>
      self.send (.error message)).andThen fun self =>
        let self := { self with terminal := true }
        self.send (.failed (self.failedResponse message))

def adopt (crates : Crates) (self : ChatSseToResponses) (chunk : Json) : ChatSseToResponses :=
  let self := match (chunk.get "id").bind Json.asStr with
    | some id =>
      let responseId := Conversion.responseId crates (some id)
      { self with responseId, messageId := "msg_" ++ shortHash crates responseId }
    | none => self
  { self with
    model := (chunk.get "model").getD .null
    createdAt := ((chunk.get "created").bind Json.asI64).getD 0 }

def noteServiceTier (self : ChatSseToResponses) (chunk : Json) : ChatSseToResponses :=
  match Metering.serviceTier chunk with
  | some tier => { self with serviceTier := some tier }
  | none => self

def noteUsage (self : ChatSseToResponses) (chunk : Json) : ChatSseToResponses :=
  match (chunk.get "usage").filter fun usage => !usage.isNull with
  | some usage => { self with usage := chatUsageToResponses usage }
  | none => self

def noteFinishReason (self : ChatSseToResponses) (choice : Json) : ChatSseToResponses :=
  match (choice.get "finish_reason").bind Json.asStr with
  | some reason => { self with finishReason := some reason }
  | none => self

def start (crates : Crates) (self : ChatSseToResponses) (chunk : Json) : Sent :=
  if self.created then .silent self else (self.adopt crates chunk).startEvents

def firstChoice (chunk : Json) : Option Json :=
  ((chunk.get "choices").bind Json.asArray).bind List.head?

def processContent (self : ChatSseToResponses) (delta : Json) : Sent :=
  match (delta.get "content").bind Json.asStr with
  | some content => self.appendText content
  | none => .silent self

def toolCalls (delta : Json) : List Json :=
  ((delta.get "tool_calls").bind Json.asArray).getD []

def processDelta (crates : Crates) (self : ChatSseToResponses) (delta : Json) : Sent :=
  (self.processContent delta).andThen fun self =>
    Emission.forEach (appendToolDelta crates) self (toolCalls delta)

def processChoice (crates : Crates) (self : ChatSseToResponses) (choice : Json) : Sent :=
  let self := self.noteFinishReason choice
  match choice.get "delta" with
  | some (.object members) => processDelta crates self (.object members)
  | _ => .silent self

def processChunk (crates : Crates) (self : ChatSseToResponses) (chunk : Json) : Sent :=
  ((self.noteServiceTier chunk).start crates chunk).andThen fun self =>
    let self := self.noteUsage chunk
    match firstChoice chunk with
    | some choice => processChoice crates self choice
    | none => .silent self

inductive Frame
  | done
  | failure (message : String)
  | ignored
  | chunk (chunk : Json)

def isErrorName (eventName : Option String) : Bool :=
  match eventName with
  | some name => name = "error" ∨ endsWith name ".error"
  | none => false

def frame (crates : Crates) (event : SseEvent) : Frame :=
  if trim event.data = "[DONE]" then .done
  else if isErrorName event.eventName then .failure event.data
  else
    match crates.fromStr event.data with
    | none => .ignored
    | some value =>
      match (value.get "error").filter fun error => !error.isNull with
      | some error => .failure (crates.render error)
      | none => .chunk value

def processFrame (crates : Crates) (self : ChatSseToResponses) : Frame → Sent
  | .done => complete crates { self with sawDone := true }
  | .failure message => self.fail message
  | .ignored => .silent self
  | .chunk chunk => processChunk crates self chunk

def processEvent (crates : Crates) (self : ChatSseToResponses) (event : SseEvent) : Sent :=
  processFrame crates self (frame crates event)

def processEvents (crates : Crates) (self : ChatSseToResponses) (events : List SseEvent) : Sent :=
  Emission.forEach (processEvent crates) self events

def receive (self : ChatSseToResponses) (bytes : List UInt8) :
    Except String (List SseEvent) × ChatSseToResponses :=
  let self := { self with totalSeen := saturatingAddU64 self.totalSeen bytes.length }
  if self.totalSeen > self.maxBytes then
    (.error s!"SSE conversion state exceeded {self.maxBytes} bytes", self)
  else
    let pushed := self.decoder.push bytes self.maxBytes
    (pushed.1, { self with decoder := pushed.2 })

def push (crates : Crates) (self : ChatSseToResponses) (bytes : List UInt8) : Sent :=
  if self.terminal then .silent self
  else
    match self.receive bytes with
    | (.ok events, self) => processEvents crates self events
    | (.error error, self) => self.fail error

def finish (crates : Crates) (self : ChatSseToResponses) : Sent :=
  if self.terminal then .silent self
  else
    (processEvents crates { self with decoder := self.decoder.finish.state }
      self.decoder.finish.events).andThen fun self =>
        if self.terminal then .silent self
        else if self.sawDone then complete crates self
        else self.fail "upstream Chat Completions stream ended before [DONE]"

def failStream (self : ChatSseToResponses) (message : String) : Sent := self.fail message

end ChatSseToResponses

/-- How a stream is brought to its end. -/
inductive Ending
  | finish
  | failStream (message : String)

namespace ChatSseToResponses

def close (crates : Crates) (self : ChatSseToResponses) : Ending → Sent
  | .finish => finish crates self
  | .failStream message => self.failStream message

def pushAll (crates : Crates) (self : ChatSseToResponses) (pushes : List (List UInt8)) : Sent :=
  Emission.forEach (push crates) self pushes

def run (crates : Crates) (context : ConversionContext) (maxBytes : Nat)
    (pushes : List (List UInt8)) (ending : Ending) : Sent :=
  (pushAll crates (new crates context maxBytes) pushes).andThen fun self =>
    close crates self ending

end ChatSseToResponses

end CodexGate.Conversion
