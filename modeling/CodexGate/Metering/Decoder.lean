import CodexGate.Foundation.Emission
import CodexGate.Foundation.Json
import CodexGate.Foundation.Lines
import CodexGate.Foundation.Text

namespace CodexGate.Metering

open Foundation

def maxEventBytes : Nat := 4 * 1024 * 1024

abbrev Line := List UInt8

structure SseDecoder where
  line : Line
  data : List UInt8
  event : Option String
  frameBytes : Nat
  discarding : Bool
  error : Option String

def newline : UInt8 := 10
def carriageReturn : UInt8 := 13
def space : UInt8 := 32

def stripCarriageReturn (line : Line) : Line :=
  if line.getLast? = some carriageReturn then line.dropLast else line

def stripSpace : Line → Line
  | [] => []
  | b :: rest => if b = space then rest else b :: rest

def appendData (data value : List UInt8) : List UInt8 :=
  (if data = [] then [] else data ++ [newline]) ++ stripSpace value

def withType (value : Json) (kind : Option String) : Json :=
  if ((value.get "type").bind Json.asStr).isNone then
    match kind with
    | some kind => value.insert "type" (.string kind)
    | none => value
  else value

namespace SseDecoder

def default : SseDecoder := ⟨[], [], none, 0, false, none⟩

variable (fromSlice : List UInt8 → Except String Json)

def takeEvent (self : SseDecoder) : Emission SseDecoder Json :=
  let taken := { self with data := [], event := none }
  if self.data = [] ∨ self.data = utf8Bytes "[DONE]" then .silent taken
  else
    match fromSlice self.data with
    | .error _ => .silent { taken with error := some "SSE data is not valid JSON" }
    | .ok value => ⟨[withType value self.event], taken⟩

def completeLine (self : SseDecoder) : Emission SseDecoder Json :=
  let line := stripCarriageReturn self.line
  let self := { self with line := [] }
  if line = [] then
    (if self.discarding then .silent self else self.takeEvent fromSlice).mapState fun self =>
      { self with discarding := false, frameBytes := 0 }
  else if self.discarding then .silent self
  else
    match line.dropPrefix? (utf8Bytes "event:") with
    | some value => .silent { self with event := some (trim (fromUtf8Lossy value)) }
    | none =>
      match line.dropPrefix? (utf8Bytes "data:") with
      | some value => .silent { self with data := appendData self.data value }
      | none => .silent self

def pushContent (self : SseDecoder) (byte : UInt8) : SseDecoder :=
  let self := { self with frameBytes := saturatingAddU64 self.frameBytes 1 }
  let self :=
    if maxEventBytes < self.frameBytes ∧ ¬self.discarding then
      { self with
        error := some "SSE frame exceeds 4 MiB parsing limit"
        discarding := true
        line := []
        data := []
        event := none }
    else self
  -- Just enough is kept to recognize the next empty line after an oversized frame.
  if ¬self.discarding ∨ self.line.length < 2 then { self with line := self.line ++ [byte] } else self

def pushByte (self : SseDecoder) (byte : UInt8) : Emission SseDecoder Json :=
  if byte = newline then self.completeLine fromSlice else .silent (self.pushContent byte)

def pushBytes (self : SseDecoder) (bytes : List UInt8) : Emission SseDecoder Json :=
  Emission.forEach (pushByte fromSlice) self bytes

def finish (self : SseDecoder) : Emission SseDecoder Json :=
  ((if self.line = [] then .silent self else self.completeLine fromSlice).andThen fun self =>
    if self.discarding then .silent self else self.takeEvent fromSlice).mapState fun self =>
      { self with frameBytes := 0 }

end SseDecoder

end CodexGate.Metering
