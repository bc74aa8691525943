import CodexGate.Dispatch.UsageCapture
import CodexGate.Foundation.JsonScans

namespace CodexGate.Dispatch.Openai

open Foundation Foundation.JsonText

structure OpenAiRequestInfo where
  model : Option String
  stream : Bool
  includeUsage : Option Bool

structure StreamOptions where
  includeUsage : Option Bool

structure OpenAiHeader where
  model : Option String
  stream : Option Bool
  streamOptions : Option StreamOptions

def optionString : Json → Option (Option String)
  | .null => some none
  | .string text => some (some text)
  | _ => none

def optionBool : Json → Option (Option Bool)
  | .null => some none
  | .bool value => some (some value)
  | _ => none

section Derived

variable (lexis : Lexis)

def field (key : String) (entries : List (Spelling × Doc)) : Option (Option Doc) :=
  match entries.filter fun entry => entry.1.read lexis = some key with
  | [] => some none
  | [entry] => some (some entry.2)
  | _ => none

def optional {α : Type} (read : Json → Option (Option α)) : Option Doc → Option (Option α)
  | none => some none
  | some doc => (doc.read lexis).bind read

def StreamOptions.ofEntries (entries : List (Spelling × Doc)) : Option StreamOptions := do
  let includeUsage ← optional lexis optionBool (← field lexis "include_usage" entries)
  return ⟨includeUsage⟩

def StreamOptions.derive : Option Doc → Option (Option StreamOptions)
  | none => some none
  | some (.word word) => if word.bytes = nullBytes then some none else none
  | some (.text _) => none
  | some (.emptyArray _) => none
  | some (.array (.last _ value _)) =>
    (optional lexis optionBool (some value)).map fun includeUsage => some ⟨includeUsage⟩
  | some (.array (.more ..)) => none
  | some (.emptyObject _) => some (some ⟨none⟩)
  | some (.object members) => (StreamOptions.ofEntries lexis members.entries).map some

def OpenAiHeader.ofFields (model stream streamOptions : Option Doc) : Option OpenAiHeader := do
  let model ← optional lexis optionString model
  let stream ← optional lexis optionBool stream
  let streamOptions ← StreamOptions.derive lexis streamOptions
  return ⟨model, stream, streamOptions⟩

def OpenAiHeader.derive : Doc → Option OpenAiHeader
  | .emptyObject _ => some ⟨none, none, none⟩
  | .object members => do
    OpenAiHeader.ofFields lexis (← field lexis "model" members.entries)
      (← field lexis "stream" members.entries) (← field lexis "stream_options" members.entries)
  | .array (.more _ model _ (.last _ stream _)) =>
    OpenAiHeader.ofFields lexis (some model) (some stream) none
  | .array (.more _ model _ (.more _ stream _ (.last _ streamOptions _))) =>
    OpenAiHeader.ofFields lexis (some model) (some stream) (some streamOptions)
  | _ => none

end Derived

/-- What the gateway uses of `serde_json`. -/
structure SerdeJson where
  lexis : Lexis
  recursionLimit : Nat
  header : Bytes → Option OpenAiHeader

namespace SerdeJson

def value (serde : SerdeJson) (text : Text) : Option Json :=
  if text.value.depth < serde.recursionLimit then text.value.read serde.lexis else none

def fromSlice (serde : SerdeJson) (body : Bytes) : Option Json := (parse body).bind serde.value

def isPlain (byte : UInt8) : Bool := 32 ≤ byte && byte < 127 && byte ∉ [quote, backslash]

structure Documented (serde : SerdeJson) : Prop where
  limit : 2 < serde.recursionLimit
  plain : ∀ raw, raw.all isPlain = true →
    serde.lexis.text raw = some (String.ofList (raw.map fun byte => Char.ofNat byte.toNat))
  header : ∀ text value, serde.value text = some value →
    serde.header text.bytes = OpenAiHeader.derive serde.lexis text.value

end SerdeJson

def parseRequestInfo (serde : SerdeJson) (body : Bytes) : OpenAiRequestInfo :=
  match serde.header body with
  | some v => ⟨v.model, v.stream.getD false, v.streamOptions.bind StreamOptions.includeUsage⟩
  | none => ⟨none, false, none⟩

def skipWhitespace (input : Bytes) : Bytes := input.dropWhile isAsciiWhitespace

/-- The bytes up to the last one that is no whitespace, which comes first. -/
def trimEnd (input : Bytes) : Bytes := input.reverse.dropWhile isAsciiWhitespace

def findRootObjectEnd (input : Bytes) : Option Nat :=
  match trimEnd input with
  | last :: before => if last = closeBrace then some before.length else none
  | [] => none

/-- The bytes behind the bracket that closes the first one. Only brackets of its kind count. -/
def containerEnd (opening closing : UInt8) : Int → StringScan → Bytes → Option Bytes
  | _, _, [] => none
  | depth, scan, byte :: rest =>
    if scan.inString then containerEnd opening closing depth (scan.next byte) rest
    else if byte = quote then containerEnd opening closing depth ⟨true, false⟩ rest
    else if byte = opening then containerEnd opening closing (depth + 1) scan rest
    else if byte = closing then
      if depth - 1 = 0 then some rest else containerEnd opening closing (depth - 1) scan rest
    else containerEnd opening closing depth scan rest

def stringEnd : Bool → Bytes → Option Bytes
  | _, [] => none
  | escape, byte :: rest =>
    if escape then stringEnd false rest
    else if byte = backslash then stringEnd true rest
    else if byte = quote then some rest
    else stringEnd false rest

def scanJsonValueEnd : Bytes → Option Bytes
  | [] => none
  | byte :: rest =>
    if byte = openBrace then containerEnd openBrace closeBrace 0 ⟨false, false⟩ (byte :: rest)
    else if byte = openBracket then
      containerEnd openBracket closeBracket 0 ⟨false, false⟩ (byte :: rest)
    else if byte = quote then stringEnd false rest
    else some ((byte :: rest).dropWhile fun byte => !endsPrimitive byte)

def valueStart (rest : Bytes) : Option Bytes :=
  match skipWhitespace rest with
  | byte :: rest => if byte = colon then some (skipWhitespace rest) else none
  | [] => none

/-- Looks for the key at depth 1. Of a string that may be it, `keyStart` is where it begins.
Whitespace that was passed over to look for a colon is passed over again. -/
def findKey (key : Bytes) : Int → StringScan → Option Bytes → Bytes → Option Bytes
  | _, _, _, [] => none
  | depth, scan, keyStart, byte :: rest =>
    if scan.inString then
      let scan := scan.next byte
      match keyStart with
      | none => findKey key depth scan none rest
      | some start =>
        if scan.inString then findKey key depth scan (some start) rest
        else if start.take (start.length - (rest.length + 1)) = key then
          match valueStart rest with
          | some value => some value
          | none => findKey key depth scan none rest
        else findKey key depth scan none rest
    else if byte = quote then
      findKey key depth ⟨true, false⟩ (if depth = 1 then some rest else none) rest
    else if byte = openBrace ∨ byte = openBracket then findKey key (depth + 1) scan none rest
    else if byte = closeBrace ∨ byte = closeBracket then findKey key (depth - 1) scan none rest
    else findKey key depth scan none rest

def keyValueSpan (input key : Bytes) : Option (Nat × Nat) := do
  let object := skipWhitespace input
  if object.head? = some openBrace then
    let start ← findKey key 0 ⟨false, false⟩ none object
    let after ← scanJsonValueEnd start
    return (input.length - start.length, input.length - after.length)
  else none

def findRootKeyValueSpan (input key : Bytes) : Option (Nat × Nat) := keyValueSpan input key

def findObjectKeyValueSpan (input key : Bytes) : Option (Nat × Nat) := keyValueSpan input key

def slice (input : Bytes) (start stop : Nat) : Bytes := (input.take stop).drop start

def injectIncludeUsageIntoObject (obj : Bytes) : Except String Bytes :=
  match skipWhitespace obj with
  | opening :: _ =>
    if opening = openBrace then
      match trimEnd obj with
      | last :: before =>
        if last = closeBrace then
          let i := obj.length - (skipWhitespace obj).length
          let inner := slice obj (i + 1) before.length
          let member := if inner.all isAsciiWhitespace then utf8Bytes "\"include_usage\":true"
            else utf8Bytes "\"include_usage\":true,"
          .ok (obj.take (i + 1) ++ member ++ obj.drop (i + 1))
        else .error "stream_options object not terminated"
      | [] => .error "stream_options object not terminated"
    else .error "stream_options is not an object"
  | [] => .error "stream_options is not an object"

def needsComma (before : Bytes) : Bool :=
  match trimEnd before with
  | last :: _ => last ≠ openBrace
  | [] => false

def ensureIncludeUsage (serde : SerdeJson) (body : Bytes) : Except String Bytes :=
  let info := parseRequestInfo serde body
  if !info.stream then .ok body
  else if info.includeUsage = some true then .ok body
  else
    match findRootObjectEnd body with
    | none => .ok body
    | some rootEnd =>
      match findRootKeyValueSpan body (utf8Bytes "stream_options") with
      | some (start, stop) =>
        let options := slice body start stop
        match findObjectKeyValueSpan options (utf8Bytes "include_usage") with
        | none => do
          let injected ← injectIncludeUsageIntoObject options
          return body.take start ++ injected ++ body.drop stop
        | some (valueStart, valueStop) =>
          .ok (body.take (start + valueStart) ++ utf8Bytes "true" ++ body.drop (start + valueStop))
      | none =>
        .ok (body.take rootEnd ++ (if needsComma (body.take rootEnd) then [comma] else []) ++
          utf8Bytes "\"stream_options\":\x7b\"include_usage\":true\x7d" ++ body.drop rootEnd)

end CodexGate.Dispatch.Openai
