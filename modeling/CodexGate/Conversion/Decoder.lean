import CodexGate.Foundation.Emission
import CodexGate.Foundation.Lines
import CodexGate.Foundation.Text

namespace CodexGate.Conversion

open Foundation

structure SseEvent where
  eventName : Option String
  data : String

structure SseDecoder where
  buffer : List UInt8
  eventName : Option String
  dataLines : List String

namespace SseDecoder

def default : SseDecoder := ⟨[], none, []⟩

def newline : UInt8 := 10
def carriageReturn : UInt8 := 13
def space : UInt8 := 32
def colon : UInt8 := 58

def stripCarriageReturn (line : List UInt8) : List UInt8 :=
  if line.getLast? = some carriageReturn then line.dropLast else line

def stripSpace : List UInt8 → List UInt8
  | [] => []
  | b :: rest => if b = space then rest else b :: rest

def dispatch (self : SseDecoder) : Emission SseDecoder SseEvent :=
  if self.dataLines = [] ∧ self.eventName = none then .silent self
  else
    ⟨[⟨self.eventName, String.intercalate "\n" self.dataLines⟩],
      { self with eventName := none, dataLines := [] }⟩

def processLine (self : SseDecoder) (line : List UInt8) : Emission SseDecoder SseEvent :=
  if line = [] then self.dispatch
  else if line.head? = some colon then .silent self
  else
    let field := line.takeWhile (· ≠ colon)
    let value := stripSpace (line.drop (field.length + 1))
    if field = utf8Bytes "event" then
      .silent { self with eventName := some (fromUtf8Lossy value) }
    else if field = utf8Bytes "data" then
      .silent { self with dataLines := self.dataLines ++ [fromUtf8Lossy value] }
    else .silent self

def processLines (self : SseDecoder) (lines : List (List UInt8)) : Emission SseDecoder SseEvent :=
  Emission.forEach (fun self line => self.processLine (stripCarriageReturn line)) self lines

def push (self : SseDecoder) (bytes : List UInt8) (maxBytes : Nat) :
    Except String (List SseEvent) × SseDecoder :=
  let buffer := self.buffer ++ bytes
  if buffer.length > maxBytes then
    (.error s!"SSE conversion buffer exceeded {maxBytes} bytes", { self with buffer })
  else
    let split := splitLines newline buffer
    let processed := ({ self with buffer := split.2 } : SseDecoder).processLines split.1
    (.ok processed.events, processed.state)

def finish (self : SseDecoder) : Emission SseDecoder SseEvent :=
  (if self.buffer = [] then .silent self
    else ({ self with buffer := [] } : SseDecoder).processLine self.buffer).andThen dispatch

example : (processLine default (utf8Bytes "data: [DONE]")).state.dataLines = ["[DONE]"] := by decide

end SseDecoder

end CodexGate.Conversion
