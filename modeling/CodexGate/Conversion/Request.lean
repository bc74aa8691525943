import CodexGate.Conversion.Items

namespace CodexGate.Conversion

open Foundation

/-- The context of a request, with the way back to the names of the Chat tools. -/
structure RequestContext extends ConversionContext where
  chatNameByResponseName : HashMap String String

def RequestContext.responseToolName (context : RequestContext) (name : String) : String :=
  (context.chatNameByResponseName.lookup name).getD name

def pushWarning (warnings : List String) (code : String) : List String :=
  if code ∈ warnings then warnings else warnings ++ [code]

def withCacheControl (converted source : Json) : Json :=
  match source.get "cache_control" with
  | some cacheControl => converted.insert "cache_control" cacheControl
  | none => converted

def imageUrl (part : Json) : Json :=
  match ((part.get "image_url").or (part.get "url")).getD .null with
  | .string url =>
    .object (("url", .string url) :: ((part.get "detail").map fun detail => ("detail", detail)).toList)
  | other => other

def convertContentPart (part : Json) : Except String Json :=
  match ((part.get "type").bind Json.asStr).getD "" with
  | "input_text" | "output_text" | "text" =>
    .ok <| withCacheControl (.object [
      ("type", .string "text"),
      ("text", .string (((part.get "text").bind Json.asStr).getD ""))]) part
  | "input_image" | "image_url" =>
    .ok <| withCacheControl (.object [
      ("type", .string "image_url"), ("image_url", imageUrl part)]) part
  | "cache_breakpoint" =>
    .ok <| .object [
      ("type", .string "text"), ("text", .string ""),
      ("cache_control",
        (part.get "cache_control").getD (.object [("type", .string "ephemeral")]))]
  | "input_file" | "file" => .error "dropped_file_content"
  | "input_audio" | "audio" => .error "dropped_audio_content"
  | _ => .error "dropped_unknown_content_part"

def droppedCode : Except String Json → Option String
  | .error code => some code
  | .ok _ => none

def responseContentToChat (value : Json) : Json × List String :=
  match value with
  | .array parts =>
    let converted := parts.map convertContentPart
    (.array (converted.filterMap Except.toOption),
      (converted.filterMap droppedCode).foldl pushWarning [])
  | other => (other, [])

def callId (item : Json) : String :=
  (((item.get "call_id").or (item.get "id")).bind Json.asStr).getD "call_missing"

section Input

variable (crates : Crates) (context : RequestContext)

def convertCallInput (item : Json) : Json :=
  let responseName := ((item.get "name").bind Json.asStr).getD "unknown_tool"
  let arguments :=
    if (item.get "type").bind Json.asStr = some "custom_tool_call" then
      crates.render (.object [
        ("input", .string (((item.get "input").bind Json.asStr).getD ""))])
    else ((item.get "arguments").bind Json.asStr).getD "\x7b\x7d"
  .object [
    ("id", .string (callId item)),
    ("type", .string "function"),
    ("function", .object [
      ("name", .string (context.responseToolName responseName)),
      ("arguments", .string arguments)])]

def stringifyToolOutput (value : Json) : String := value.asStr.getD (crates.render value)

def reasoningSummaryText (item : Json) : String :=
  "\n".intercalate <| (((item.get "summary").bind Json.asArray).getD []).filterMap fun part =>
    (part.get "text").bind Json.asStr

inductive ItemKind
  | message
  | call
  | callOutput
  | reasoning
  | itemReference
  | unknown
  deriving DecidableEq

def itemKind (item : Json) : ItemKind :=
  match ((item.get "type").bind Json.asStr).getD "message" with
  | "function_call" | "custom_tool_call" => .call
  | "message" => .message
  | "function_call_output" | "custom_tool_call_output" => .callOutput
  | "reasoning" => .reasoning
  | "item_reference" => .itemReference
  | _ => .unknown

def messageContent (item : Json) : Json × List String :=
  responseContentToChat ((item.get "content").getD .null)

def messageInput (item : Json) : Json :=
  .object [
    ("role", .string (((item.get "role").bind Json.asStr).getD "user")),
    ("content", (messageContent item).1)]

def callOutputInput (item : Json) : Json :=
  .object [
    ("role", .string "tool"),
    ("tool_call_id", .string (callId item)),
    ("content", .string (stringifyToolOutput crates
      (((item.get "output").or (item.get "input")).getD (.string ""))))]

def assistantText (text : String) : Json :=
  .object [("role", .string "assistant"), ("content", .string text)]

def toolCallsMessage (calls : List Json) : Json :=
  .object [("role", .string "assistant"), ("content", .null), ("tool_calls", .array calls)]

structure History where
  messages : List Json
  pendingCalls : List Json
  warnings : List String

namespace History

def flushCalls (self : History) : History :=
  if self.pendingCalls = [] then self
  else
    { self with
      messages := self.messages ++ [toolCallsMessage self.pendingCalls]
      pendingCalls := [] }

def push (self : History) (message : Json) : History :=
  { self with messages := self.messages ++ [message] }

def warn (self : History) (codes : List String) : History :=
  { self with warnings := codes.foldl pushWarning self.warnings }

def convertItem (self : History) (item : Json) : History :=
  match itemKind item with
  | .call => { self with pendingCalls := self.pendingCalls ++ [convertCallInput crates context item] }
  | .message => (self.flushCalls.warn (messageContent item).2).push (messageInput item)
  | .callOutput => self.flushCalls.push (callOutputInput crates item)
  | .reasoning =>
    let text := reasoningSummaryText item
    if text = "" then self.flushCalls else self.flushCalls.push (assistantText text)
  | .itemReference => self.flushCalls.warn ["dropped_item_reference"]
  | .unknown => self.flushCalls.warn ["dropped_unknown_input_item"]

end History

def convertInput (input : Json) (messages : List Json) (warnings : List String) :
    List Json × List String :=
  match input with
  | .string text =>
    (messages ++ [.object [("role", .string "user"), ("content", .string text)]], warnings)
  | .array items =>
    let converted := (items.foldl (History.convertItem crates context) ⟨messages, [], warnings⟩).flushCalls
    (converted.messages, converted.warnings)
  | .null => (messages, warnings)
  | _ => (messages, pushWarning warnings "dropped_unknown_input")

end Input

def maxToolNameLen : Nat := 64

def toolNameChar (c : Char) : Bool := c.isAlphanum || c = '_' || c = '-'

def normalizeToolName (name : String) : String :=
  String.ofList ((name.toList.map fun c => if toolNameChar c then c else '_').take maxToolNameLen)

def numberedName (sanitized : String) (index suffix : Nat) : String :=
  let tail := "_" ++ toString index ++ "_" ++ toString suffix
  String.ofList (sanitized.toList.take (maxToolNameLen - tail.length)) ++ tail

def numberedNames (sanitized : String) (index : Nat) : List String :=
  (List.range' 1 10000).map (numberedName sanitized index)

def fallbackName (index : Nat) : String := "lg_tool_" ++ toString index

def uniqueToolName (base : String) (index : Nat) (used : List String) : String × List String :=
  let sanitized := normalizeToolName base
  let candidate := if sanitized = "" then fallbackName index else sanitized
  if candidate ∉ used then (candidate, used ++ [candidate])
  else
    match (numberedNames sanitized index).find? (fun candidate => candidate ∉ used) with
    | some candidate => (candidate, used ++ [candidate])
    | none => (fallbackName index, used)

/-- A generated name also keeps off the names of functions that come later. -/
def uniqueGeneratedToolName (base : String) (index : Nat) (used reserved : List String) :
    String × List String :=
  let generated := (uniqueToolName base index (used ++ reserved)).1
  (generated, used ++ [generated])

def ToolKind.responseName : ToolKind → String
  | function name => name
  | custom name => name
  | namespaceTool space name => space ++ "." ++ name

def chatFunction (tool : Json) (name : String) (forcedParameters : Option Json) : Json :=
  .object [
    ("type", .string "function"),
    ("function", .object <|
      [("name", .string name)] ++
      ((tool.get "description").map fun description => ("description", description)).toList ++
      [("parameters", (forcedParameters.or (tool.get "parameters")).getD
        (.object [("type", .string "object"), ("properties", .object [])]))] ++
      ((tool.get "strict").map fun strict => ("strict", strict)).toList)]

structure Declaration where
  tool : Json
  kind : ToolKind
  base : String
  index : Nat
  generated : Bool
  forcedParameters : Option Json

structure Naming where
  used : List String
  context : RequestContext
  converted : List Json

def Naming.declare (reserved : List String) (self : Naming) (declaration : Declaration) : Naming :=
  let (chatName, used) :=
    if declaration.generated then
      uniqueGeneratedToolName declaration.base declaration.index self.used reserved
    else uniqueToolName declaration.base declaration.index self.used
  { used
    context :=
      { toolByChatName := self.context.toolByChatName.insert chatName declaration.kind
        chatNameByResponseName :=
          self.context.chatNameByResponseName.insert declaration.kind.responseName chatName }
    converted :=
      self.converted ++ [chatFunction declaration.tool chatName declaration.forcedParameters] }

structure Tools extends Naming where
  warnings : List String

def Tools.warn (self : Tools) (code : String) : Tools :=
  { self with warnings := pushWarning self.warnings code }

def textOr (tool : Json) (key default : String) : String :=
  ((tool.get key).bind Json.asStr).getD default

def functionDeclaration (tool : Json) (index : Nat) : Declaration where
  tool
  kind := .function (textOr tool "name" "unknown_tool")
  base := textOr tool "name" "unknown_tool"
  index
  generated := false
  forcedParameters := none

def inputParameters : Json :=
  .object [
    ("type", .string "object"),
    ("properties", .object [("input", .object [("type", .string "string")])]),
    ("required", .array [.string "input"]),
    ("additionalProperties", .bool false)]

def customDeclaration (tool : Json) (index : Nat) : Declaration where
  tool
  kind := .custom (textOr tool "name" "custom_tool")
  base := "lg_custom_" ++ textOr tool "name" "custom_tool"
  index
  generated := true
  forcedParameters := some inputParameters

def nestedDeclaration (space : String) (namespaceIndex : Nat) (nested : Json) (toolIndex : Nat) :
    Declaration where
  tool := nested
  kind := .namespaceTool space (textOr nested "name" "tool")
  base := "lg_ns_" ++ space ++ "_" ++ textOr nested "name" "tool"
  index := saturatingAddU64 (min (namespaceIndex * 1000) u64Max) toolIndex
  generated := true
  forcedParameters := none

def nestedDeclarations (tool : Json) (index : Nat) (tools : List Json) : List Declaration :=
  tools.zipIdx.map fun nested =>
    nestedDeclaration (textOr tool "name" "namespace") index nested.1 nested.2

def convertNamespace (reserved : List String) (self : Tools) (tool : Json) (index : Nat) : Tools :=
  match (tool.get "tools").bind Json.asArray with
  | none => self.warn "dropped_empty_namespace"
  | some tools =>
    { self with
      toNaming := (nestedDeclarations tool index tools).foldl (Naming.declare reserved) self.toNaming }

def convertTool (reserved : List String) (self : Tools) (definition : Json × Nat) : Tools :=
  let (tool, index) := definition
  match textOr tool "type" "" with
  | "function" => { self with toNaming := self.declare reserved (functionDeclaration tool index) }
  | "custom" => { self with toNaming := self.declare reserved (customDeclaration tool index) }
  | "namespace" => convertNamespace reserved self tool index
  | "web_search" | "web_search_preview" | "file_search" | "computer" | "computer_use_preview"
  | "code_interpreter" | "image_generation" | "mcp" | "shell" | "local_shell" =>
    self.warn "dropped_hosted_tool"
  | _ => self.warn "dropped_unknown_tool"

def toolDefinitions (request : Json) : List Json :=
  ((request.get "tools").bind Json.asArray).getD [] ++
    ((request.get "additional_tools").bind Json.asArray).getD []

def reservedName (tool : Json) : Option String :=
  if (tool.get "type").bind Json.asStr = some "function" then
    ((tool.get "name").bind Json.asStr).map normalizeToolName
  else none

def reservedFunctionNames (definitions : List Json) : List String :=
  definitions.filterMap reservedName

def noNames : Naming := ⟨[], ⟨⟨∅⟩, ∅⟩, []⟩

def convertTools (request : Json) : Tools :=
  let definitions := toolDefinitions request
  definitions.zipIdx.foldl (convertTool (reservedFunctionNames definitions)) ⟨noNames, []⟩

end CodexGate.Conversion
