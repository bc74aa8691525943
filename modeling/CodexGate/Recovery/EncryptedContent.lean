import CodexGate.Foundation.Json
import Mathlib.Algebra.GroupWithZero.Nat

namespace CodexGate.Recovery

open Foundation

abbrev Digest := List UInt8

instance : LawfulBEq Digest := inferInstance

structure RecoveryTrace where
  filteredItems : Nat
  strippedItems : Nat
  retries : Nat

structure RequestRecovery where
  enabled : Bool
  invalid : List Digest
  trace : RecoveryTrace

def itemType (item : Json) : Option String := (item.get "type").bind Json.asStr

def supportedItem (item : Json) : Bool :=
  itemType item ∈ [some "reasoning", some "compaction", some "compaction_summary"]

def visitInput (value : Json) : List Json :=
  match value.get "input" with
  | some (.array items) => items
  | some (.object members) => [.object members]
  | _ => []

section Sanitize

variable (sha256 : String → Digest)

def encryptedDigest (item : Json) : Option Digest :=
  (((item.get "encrypted_content").bind Json.asStr).filter fun encrypted => encrypted ≠ "").map sha256

def stripReasoning (item : Json) : Option Json :=
  let plain := item.remove "encrypted_content"
  let shown := if (plain.get "content").any Json.isNull then plain.remove "content" else plain
  match shown with
  | .object members => if 1 < members.length then some (.object members) else none
  | other => some other

def clean (invalid : Option (List Digest)) (item : Json) : Option Json × Nat :=
  if !supportedItem item || (item.get "encrypted_content").isNone then (some item, 0)
  else if invalid.any fun known => !(encryptedDigest sha256 item).any (· ∈ known) then
    (some item, 0)
  -- an encrypted compaction has no plain text in its place
  else if itemType item ≠ some "reasoning" then (none, 1)
  else (stripReasoning item, 1)

def cleanInput (invalid : Option (List Digest)) (value : Json) : Option (Json × Nat) :=
  match value.get "input" with
  | some (.array items) =>
    let results := items.map (clean sha256 invalid)
    some (value.insert "input" (.array (results.filterMap Prod.fst)), (results.map Prod.snd).sum)
  | some (.object members) =>
    let result := clean sha256 invalid (.object members)
    some (value.insert "input" (result.1.getD (.array [])), result.2)
  | _ => none

def hasToolOutput (value : Json) : Bool :=
  (visitInput value).any fun item => itemType item = some "function_call_output"

/-- A continuation on a WebSocket may depend on a tool call of the response before. -/
def sanitize (invalid : Option (List Digest)) (websocket : Bool) (value : Json) :
    Option (Json × Nat) :=
  match cleanInput sha256 invalid value with
  | none => none
  | some (cleaned, count) =>
    if count = 0 then none
    else if websocket && !hasToolOutput cleaned then
      some (cleaned.remove "previous_response_id", count)
    else some (cleaned, count)

namespace RequestRecovery

variable (self : RequestRecovery)

/-- Bodies are taken as `serde_json` reads them, and `none` where one is not JSON. -/
def filterKnown (known : List Digest) (body : Option Json) : RequestRecovery × Option Json :=
  let invalid := self.invalid ++ known
  if !self.enabled || invalid.isEmpty then (self, body)
  else
    match body.bind (sanitize sha256 (some invalid) false) with
    | none => (self, body)
    | some (cleaned, count) =>
      ({ self with trace.filteredItems := self.trace.filteredItems + count }, some cleaned)

def recordFailure (body : Option Json) : RequestRecovery :=
  if !self.enabled then self
  else
    let digests := (body.elim [] visitInput).filterMap fun item =>
      if supportedItem item then encryptedDigest sha256 item else none
    { self with invalid := self.invalid ++ digests }

def canRetry : Bool := self.enabled && self.trace.retries = 0

def prepareRetry (body : Option Json) (websocket : Bool) : RequestRecovery × Option Json :=
  if !self.canRetry then (self, none)
  else
    match body.bind (sanitize sha256 none websocket) with
    | none => (self, none)
    | some (cleaned, count) =>
      ({ self with
        trace.strippedItems := self.trace.strippedItems + count
        trace.retries := self.trace.retries + 1 }, some cleaned)

end RequestRecovery

end Sanitize

end CodexGate.Recovery
