import CodexGate.Dispatch.UsageCapture
import CodexGate.Foundation.Replays
import CodexGate.Metering.Decoder

namespace CodexGate.Dispatch

open Foundation Metering

variable {ε : Type}

inductive BodyFrame
  | data (bytes : List UInt8)
  | trailers (entries : List (String × String))

def BodyFrame.dataRef : BodyFrame → Option (List UInt8)
  | data bytes => some bytes
  | trailers _ => none

structure ReplayIncomingBody (ε : Type) where
  buffered : List BodyFrame
  bufferedError : Option ε
  inner : Incoming BodyFrame ε

namespace ReplayIncomingBody

def new (inner : Incoming BodyFrame ε) : ReplayIncomingBody ε := ⟨[], none, inner⟩

def pollFrame (self : ReplayIncomingBody ε) :
    Option (Except ε BodyFrame) × ReplayIncomingBody ε :=
  match self.buffered with
  | frame :: rest => (some (.ok frame), { self with buffered := rest })
  | [] =>
    match self.bufferedError with
    | some error => (some (.error error), { self with bufferedError := none })
    | none => (self.inner.poll.1, { self with inner := self.inner.poll.2 })

end ReplayIncomingBody

structure SseParser where
  decoder : SseDecoder
  observation : Observation

def SseParser.observe (self : SseParser) (pushed : Emission SseDecoder Json) : SseParser :=
  ⟨pushed.state, pushed.events.foldl Observation.observe self.observation⟩

section Inspections

variable (fromSlice : List UInt8 → Except String Json)

def readRejection (isSse : Bool) : Nat → SseDecoder → List UInt8 → ReplayIncomingBody ε →
    Bool × ReplayIncomingBody ε
  | 0, _, _, body => (false, body)
  | polls + 1, parser, capture, body =>
    match body.inner.poll with
    | (some (.error error), inner) => (false, { body with bufferedError := some error, inner })
    | (none, inner) =>
      let rejected :=
        if isSse then
          let finished := parser.finish fromSlice
          finished.state.error.isNone && finished.events.length = 1 &&
            finished.events.all rejectionWithoutOutput
        else (fromSlice capture).toOption.any rejectionWithoutOutput
      (rejected, { body with inner })
    | (some (.ok frame), inner) =>
      let body := { body with buffered := body.buffered ++ [frame], inner }
      match frame.dataRef with
      | none => readRejection isSse polls parser capture body
      | some data =>
        if maxEventBytes < saturatingAddU64 capture.length data.length then (false, body)
        else if isSse then
          let pushed := parser.pushBytes fromSlice data
          if pushed.state.error.isSome then (false, body)
          else if pushed.events ≠ [] then
            -- another event than a rejection is left to the normal path
            (pushed.events.length = 1 && pushed.events.all rejectionWithoutOutput, body)
          else readRejection isSse polls pushed.state (capture ++ data) body
        else readRejection isSse polls parser (capture ++ data) body

def encryptedContentRejected (status : Nat) (isSse : Bool) (polls : Nat)
    (body : ReplayIncomingBody ε) : Bool × ReplayIncomingBody ε :=
  if status ≠ 400 ∧ ¬((200 ≤ status ∧ status < 300) ∧ isSse) then (false, body)
  else readRejection fromSlice isSse polls .default [] body

def readUsage (apiFormat : String) (isSse : Bool) : Nat → SseParser → UsageCaptureBuffer →
    ReplayIncomingBody ε → Bool × ReplayIncomingBody ε
  | 0, _, _, body => (true, body)
  | polls + 1, parser, capture, body =>
    match body.inner.poll with
    | (some (.ok frame), inner) =>
      let (parser, capture) := match frame.dataRef with
        | some data =>
          (if isSse then parser.observe (parser.decoder.pushBytes fromSlice data) else parser,
            capture.push data)
        | none => (parser, capture)
      let body := { body with buffered := body.buffered ++ [frame], inner }
      -- the rest of an oversized response is left to the reader
      if capture.isTruncated then (true, body)
      else readUsage apiFormat isSse polls parser capture body
    | (some (.error _), inner) => (true, { body with inner })
    | (none, inner) =>
      let usage :=
        if isSse then (parser.observe (parser.decoder.finish fromSlice)).observation.usage
        else extractUsageFromCapture fromSlice apiFormat capture
      (usage.isSome, { body with inner })

def retryBodyHasUsage (apiFormat : String) (isSse : Bool) (polls : Nat)
    (body : ReplayIncomingBody ε) : Bool × ReplayIncomingBody ε :=
  readUsage fromSlice apiFormat isSse polls ⟨.default, {}⟩ (.new maxEventBytes (32 * 1024)) body

inductive Inspection
  | rejection (status : Nat) (isSse : Bool) (polls : Nat)
  | usage (apiFormat : String) (isSse : Bool) (polls : Nat)

def Inspection.inspect : Inspection → ReplayIncomingBody ε → Bool × ReplayIncomingBody ε
  | rejection status isSse polls, body => encryptedContentRejected fromSlice status isSse polls body
  | usage apiFormat isSse polls, body => retryBodyHasUsage fromSlice apiFormat isSse polls body

end Inspections

end CodexGate.Dispatch

namespace CodexGate.Dispatch

open Foundation Metering

variable {ε : Type}

namespace ReplayIncomingBody

def remaining (self : ReplayIncomingBody ε) : List BodyFrame × Option ε :=
  match self.bufferedError with
  | some error => (self.buffered, some error)
  | none => (self.buffered ++ self.inner.frames, self.inner.error)

theorem reads_inner (inner : Incoming BodyFrame ε) :
    Reads pollFrame ⟨[], none, inner⟩ inner.frames inner.error := by
  obtain ⟨frames, error, repeats⟩ := inner
  induction frames with
  | nil =>
    cases error with
    | none => exact .ended rfl
    | some error => exact .broken rfl
  | cons frame rest ih => exact .frame rfl ih

theorem reads_remaining (self : ReplayIncomingBody ε) :
    Reads pollFrame self self.remaining.1 self.remaining.2 := by
  obtain ⟨buffered, bufferedError, inner⟩ := self
  induction buffered with
  | nil =>
    cases bufferedError with
    | none => exact reads_inner inner
    | some error => exact .broken rfl
  | cons frame rest ih =>
    cases bufferedError with
    | none => exact .frame rfl ih
    | some error => exact .frame rfl ih

theorem reads_iff (self : ReplayIncomingBody ε) (frames : List BodyFrame) (error : Option ε) :
    Reads pollFrame self frames error ↔ self.remaining = (frames, error) := by
  constructor
  · intro read
    obtain ⟨same, ending⟩ := (reads_remaining self).unique read
    exact Prod.ext same ending
  · intro left
    have read := reads_remaining self
    rw [left] at read
    exact read

theorem remaining_buffer (buffered rest : List BodyFrame) (frame : BodyFrame) (error : Option ε)
    (repeats : Bool) :
    remaining ⟨buffered ++ [frame], none, ⟨rest, error, repeats⟩⟩ =
      remaining ⟨buffered, none, ⟨frame :: rest, error, repeats⟩⟩ := by
  simp [remaining]

end ReplayIncomingBody

section Rejection

variable (fromSlice : List UInt8 → Except String Json) (isSse : Bool)

theorem readRejection_remaining (polls : Nat) (parser : SseDecoder) (capture : List UInt8)
    (body : ReplayIncomingBody ε) (fresh : body.bufferedError = none) :
    (readRejection fromSlice isSse polls parser capture body).2.remaining = body.remaining := by
  induction polls generalizing parser capture body with
  | zero => rfl
  | succ polls ih =>
    obtain ⟨buffered, bufferedError, ⟨frames, error, repeats⟩⟩ := body
    subst fresh
    cases frames with
    | nil =>
      cases error with
      | none => rfl
      | some error => simp [readRejection, Incoming.poll, ReplayIncomingBody.remaining]
    | cons frame rest =>
      have kept := ReplayIncomingBody.remaining_buffer buffered rest frame error repeats
      have goes_on : ∀ parser capture, (readRejection fromSlice isSse polls parser capture
          ⟨buffered ++ [frame], none, ⟨rest, error, repeats⟩⟩).2.remaining =
          ReplayIncomingBody.remaining ⟨buffered, none, ⟨frame :: rest, error, repeats⟩⟩ :=
        fun parser capture => (ih parser capture _ rfl).trans kept
      simp only [readRejection, Incoming.poll]
      cases frame.dataRef with
      | none => exact goes_on parser capture
      | some data =>
        dsimp only
        split
        · exact kept
        · split
          · split
            · exact kept
            · split
              · exact kept
              · exact goes_on _ _
          · exact goes_on _ _

end Rejection

def dataBytes (frames : List BodyFrame) : Nat :=
  (frames.map fun frame => (frame.dataRef.elim 0 List.length)).sum

namespace UsageCaptureBuffer

structure Within (buffer : UsageCaptureBuffer) : Prop where
  limit : saturatingAddU64 buffer.headLimit buffer.tailLimit = maxEventBytes
  seen : buffer.totalSeen ≤ maxEventBytes

theorem Within.push {self : UsageCaptureBuffer} (within : self.Within) (data : List UInt8) :
    ((self.push data).isTruncated = true ↔ maxEventBytes < self.totalSeen + data.length) ∧
      ((self.push data).isTruncated = false →
        (self.push data).Within ∧ (self.push data).totalSeen = self.totalSeen + data.length) := by
  obtain ⟨seen, head, tail⟩ := push_seen self data
  have limit := within.limit
  have bound : maxEventBytes < u64Max := by decide
  have truncated : (self.push data).isTruncated =
      decide (maxEventBytes < min (self.totalSeen + data.length) u64Max) := by
    rw [isTruncated, seen, head, tail, limit, saturatingAddU64]
  constructor
  · rw [truncated, decide_eq_true_eq]
    omega
  · intro whole
    rw [truncated, decide_eq_false_iff_not] at whole
    have sum : (self.push data).totalSeen = self.totalSeen + data.length := by
      rw [seen, saturatingAddU64]
      omega
    refine ⟨⟨?_, ?_⟩, sum⟩
    · rw [head, tail, limit]
    · omega

theorem Within.whole {self : UsageCaptureBuffer} (within : self.Within) :
    self.isTruncated = false := by
  have seen := within.seen
  rw [isTruncated, within.limit, decide_eq_false_iff_not]
  omega

theorem within_new : (UsageCaptureBuffer.new maxEventBytes (32 * 1024)).Within :=
  ⟨by decide, by decide⟩

end UsageCaptureBuffer

def ReachesError (polls seen : Nat) (inner : Incoming BodyFrame ε) : Prop :=
  inner.error.isSome = true ∧ inner.repeats = false ∧ inner.frames.length < polls ∧
    seen + dataBytes inner.frames ≤ maxEventBytes

section Usage

variable (fromSlice : List UInt8 → Except String Json) (apiFormat : String) (isSse : Bool)

theorem readUsage_remaining (polls : Nat) (parser : SseParser) (capture : UsageCaptureBuffer)
    (body : ReplayIncomingBody ε) (fresh : body.bufferedError = none) (within : capture.Within) :
    (readUsage fromSlice apiFormat isSse polls parser capture body).2.remaining = body.remaining ↔
      ¬ReachesError polls capture.totalSeen body.inner := by
  induction polls generalizing parser capture body with
  | zero => simp [readUsage, ReachesError]
  | succ polls ih =>
    obtain ⟨buffered, bufferedError, ⟨frames, error, repeats⟩⟩ := body
    subst fresh
    cases frames with
    | nil =>
      have seen := within.seen
      cases error with
      | none => simp [readUsage, Incoming.poll, ReplayIncomingBody.remaining, ReachesError]
      | some error =>
        cases repeats <;>
          simp [readUsage, Incoming.poll, ReplayIncomingBody.remaining, ReachesError, dataBytes, seen]
    | cons frame rest =>
      have kept := ReplayIncomingBody.remaining_buffer buffered rest frame error repeats
      simp only [readUsage, Incoming.poll]
      cases held : frame.dataRef with
      | none =>
        have same : ReachesError (polls + 1) capture.totalSeen ⟨frame :: rest, error, repeats⟩ ↔
            ReachesError polls capture.totalSeen ⟨rest, error, repeats⟩ := by
          simp [ReachesError, dataBytes, held]
        simp only [within.whole, Bool.false_eq_true, ↓reduceIte]
        rw [same, ← kept]
        exact ih parser capture _ rfl within
      | some data =>
        obtain ⟨truncated, whole⟩ := within.push data
        dsimp only
        split
        · rename_i isOver
          have large := truncated.mp isOver
          have missed : ¬ReachesError (polls + 1) capture.totalSeen
              ⟨frame :: rest, error, repeats⟩ := by
            rintro ⟨-, -, -, bound⟩
            simp only [dataBytes, List.map_cons, held, Option.elim_some, List.sum_cons] at bound
            omega
          exact iff_of_true kept missed
        · rename_i under
          obtain ⟨inside, seen⟩ := whole (eq_false_of_ne_true under)
          have same : ReachesError (polls + 1) capture.totalSeen ⟨frame :: rest, error, repeats⟩ ↔
              ReachesError polls (capture.push data).totalSeen ⟨rest, error, repeats⟩ := by
            simp only [ReachesError, dataBytes, List.map_cons, held, Option.elim_some,
              List.sum_cons, List.length_cons, seen, Nat.add_lt_add_iff_right, Nat.add_assoc]
          rw [same, ← kept]
          exact ih _ _ _ rfl inside

end Usage

/-- The error of the body is lost on the inspection for usage where it gets to it. -/
def Inspection.LosesError (inner : Incoming BodyFrame ε) : Inspection → Prop
  | rejection _ _ _ => False
  | usage _ _ polls => ReachesError polls 0 inner

/-- An inspected body reads as the upstream sent it, unless its error is lost. -/
theorem inspect_replays (fromSlice : List UInt8 → Except String Json)
    (inner : Incoming BodyFrame ε) (inspection : Inspection) :
    Reads ReplayIncomingBody.pollFrame (inspection.inspect fromSlice (.new inner)).2 inner.frames
        inner.error ↔ ¬inspection.LosesError inner := by
  have whole : (ReplayIncomingBody.new inner).remaining = (inner.frames, inner.error) := rfl
  rw [ReplayIncomingBody.reads_iff, ← whole]
  cases inspection with
  | rejection status isSse polls =>
    have same : (Inspection.inspect fromSlice (.rejection status isSse polls)
        (ReplayIncomingBody.new inner)).2.remaining = (ReplayIncomingBody.new inner).remaining := by
      rw [Inspection.inspect, encryptedContentRejected]
      split
      · rfl
      · exact readRejection_remaining fromSlice isSse polls .default [] _ rfl
    exact iff_of_true same id
  | usage apiFormat isSse polls =>
    exact readUsage_remaining fromSlice apiFormat isSse polls _ _ _ rfl
      UsageCaptureBuffer.within_new

/-- A body that breaks off before its first frame reads as an empty one afterwards. -/
theorem inspect_drops_error :
    ¬Reads ReplayIncomingBody.pollFrame
      (Inspection.inspect (fun _ => .error "expected value") (.usage "responses" false 1)
        (.new (⟨[], some "connection reset", false⟩ : Incoming BodyFrame String))).2
      [] (some "connection reset") := by
  rw [ReplayIncomingBody.reads_iff]
  intro same
  cases same

end CodexGate.Dispatch
