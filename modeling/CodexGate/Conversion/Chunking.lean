import CodexGate.Conversion.Input

namespace CodexGate.Conversion

open Foundation

namespace ChatSseToResponses

section Cuts

variable (crates : Crates)

variable (context : ConversionContext) (maxBytes : Nat)

def converted (bytes : List UInt8) : Sent :=
  processEvents crates (new crates context maxBytes) (SseDecoder.decoded bytes).events

def inputAfter (bytes : List UInt8) : Input where
  decoder := SseDecoder.after bytes
  maxBytes := max maxBytes 1024
  totalSeen := min bytes.length u64Max

/-- A frame that the stream's end finds in the same push is taken in silently. -/
def QuietAfterEnd (bytes : List UInt8) : Prop :=
  Emission.Along (processEvent crates)
    (fun self event => self.terminal = true → SilentFrame crates self (frame crates event))
    (new crates context maxBytes) (SseDecoder.decoded bytes).events

/-- Where a stream stands, and what it has sent, once it was pushed `bytes` in any pieces. -/
structure Follows (bytes : List UInt8) (past : List SentEvent) (stream : ChatSseToResponses) :
    Prop where
  terminal : stream.terminal = (converted crates context maxBytes bytes).state.terminal
  live : stream.terminal = false →
    stream = (converted crates context maxBytes bytes).state.withInput (inputAfter maxBytes bytes)
  sent : ∃ handled skipped, (SseDecoder.decoded bytes).events = handled ++ skipped ∧
    past = (processEvents crates (new crates context maxBytes) handled).events ∧
    (skipped ≠ [] →
      (processEvents crates (new crates context maxBytes) handled).state.terminal = true)

theorem converted_append (bytes more : List UInt8) :
    converted crates context maxBytes (bytes ++ more) =
      (converted crates context maxBytes bytes).andThen fun self =>
        processEvents crates self (SseDecoder.added bytes more).events := by
  rw [converted, SseDecoder.decoded_append, processEvents, Emission.forEach_append]
  rfl

theorem receive_inputAfter {bytes more : List UInt8} (fits : (bytes ++ more).length ≤ maxBytes)
    (self : ChatSseToResponses) :
    (self.withInput (inputAfter maxBytes bytes)).receive more =
      (.ok (SseDecoder.added bytes more).events,
        self.withInput (inputAfter maxBytes (bytes ++ more))) := by
  have seen : saturatingAddU64 (min bytes.length u64Max) more.length =
      min (bytes ++ more).length u64Max := by
    rw [List.length_append, saturatingAddU64]
    omega
  have small : ¬min (bytes ++ more).length u64Max > max maxBytes 1024 := by omega
  unfold receive
  simp only [withInput, inputAfter, seen, if_neg small]
  rw [SseDecoder.push_after bytes more (Nat.le_trans fits (Nat.le_max_left maxBytes 1024))]

theorem new_follows : Follows crates context maxBytes [] [] (new crates context maxBytes) := by
  refine ⟨rfl, fun _ => rfl, [], [], rfl, rfl, fun some => absurd rfl some⟩

theorem push_live {bytes more : List UInt8} (fits : (bytes ++ more).length ≤ maxBytes)
    {self : ChatSseToResponses} (running : self.terminal = false) :
    push crates (self.withInput (inputAfter maxBytes bytes)) more =
      (processEvents crates self (SseDecoder.added bytes more).events).mapState
        (withInput (inputAfter maxBytes (bytes ++ more))) := by
  have received := receive_inputAfter maxBytes fits self
  have events : ((self.withInput (inputAfter maxBytes bytes)).receive more).1 =
      .ok (SseDecoder.added bytes more).events := by rw [received]
  rw [push_received crates (by exact running) events, received]
  exact processEvents_ignoresInput crates _ _ self

theorem push_follows {bytes more : List UInt8} {past : List SentEvent} {self : ChatSseToResponses}
    (follows : Follows crates context maxBytes bytes past self)
    (fits : (bytes ++ more).length ≤ maxBytes) :
    (push crates self more).Reaches past (Follows crates context maxBytes (bytes ++ more)) := by
  by_cases ended : self.terminal = true
  · have whole : (converted crates context maxBytes (bytes ++ more)).state.terminal = true := by
      rw [converted_append]
      exact @Emission.stopped_forEach _ _ _ terminal _ (processEvent_terminal crates) _
        (follows.terminal.symm.trans ended) _
    obtain ⟨handled, skipped, split, sent, stopped⟩ := follows.sent
    rw [push_ended crates ended]
    apply Emission.reaches_silent
    refine ⟨ended.trans whole.symm, fun running => ?_, handled,
      skipped ++ (SseDecoder.added bytes more).events, ?_, sent, fun _ => ?_⟩
    · rw [ended] at running
      cases running
    · rw [SseDecoder.decoded_append, split, List.append_assoc]
    · by_cases none : skipped = []
      · rw [none, List.append_nil] at split
        rw [← split]
        exact follows.terminal.symm.trans ended
      · exact stopped none
  · have running : self.terminal = false := by simpa using ended
    have before : (converted crates context maxBytes bytes).state.terminal = false :=
      follows.terminal.symm.trans running
    obtain ⟨handled, skipped, split, sent, stopped⟩ := follows.sent
    have none : skipped = [] := by
      by_contra some
      have whole : (converted crates context maxBytes bytes).state.terminal = true := by
        rw [converted, split, processEvents, Emission.forEach_append]
        exact @Emission.stopped_forEach _ _ _ terminal _ (processEvent_terminal crates) _
          (stopped some) skipped
      rw [before] at whole
      cases whole
    subst none
    rw [List.append_nil] at split
    have step := push_live crates maxBytes fits before
    rw [← follows.live running] at step
    have grown := converted_append crates context maxBytes bytes more
    rw [step]
    refine ⟨?_, fun _ => ?_, (SseDecoder.decoded (bytes ++ more)).events, [],
      (List.append_nil _).symm, ?_, fun some => absurd rfl some⟩
    · rw [grown]
      rfl
    · rw [grown]
      rfl
    · change _ = (converted crates context maxBytes (bytes ++ more)).events
      rw [grown, sent, ← split]
      rfl

theorem pushAll_follows {bytes : List UInt8} {past : List SentEvent} {self : ChatSseToResponses}
    (follows : Follows crates context maxBytes bytes past self) (pushes : List (List UInt8))
    (fits : (bytes ++ pushes.flatten).length ≤ maxBytes) :
    (pushAll crates self pushes).Reaches past
      (Follows crates context maxBytes (bytes ++ pushes.flatten)) := by
  induction pushes generalizing bytes past self with
  | nil =>
    apply Emission.reaches_silent
    rw [List.flatten_nil, List.append_nil]
    exact follows
  | cons more rest ih =>
    rw [List.flatten_cons, ← List.append_assoc] at fits ⊢
    have small : (bytes ++ more).length ≤ maxBytes := by
      rw [List.length_append] at fits
      omega
    have first := push_follows crates context maxBytes follows small
    have others := ih first fits
    simpa [Emission.Reaches, pushAll, List.append_assoc] using others

theorem quietAfterEnd_iff (bytes : List UInt8) :
    QuietAfterEnd crates context maxBytes bytes ↔
      Emission.QuietOnceStopped terminal (processEvent crates) (new crates context maxBytes)
        (SseDecoder.decoded bytes).events := by
  constructor
  · intro quiet
    apply quiet.imp
    intro self event silent ended
    exact (processFrame_silent_iff crates ended _).mpr (silent ended)
  · intro quiet
    apply Emission.Along.imp quiet
    intro self event silent ended
    exact (processFrame_silent_iff crates ended _).mp (silent ended)

theorem Follows.events_of_quiet {bytes : List UInt8} {past : List SentEvent}
    {stream : ChatSseToResponses} (follows : Follows crates context maxBytes bytes past stream)
    (quiet : QuietAfterEnd crates context maxBytes bytes) :
    past = (converted crates context maxBytes bytes).events := by
  obtain ⟨handled, skipped, split, sent, stopped⟩ := follows.sent
  rw [quietAfterEnd_iff, split, Emission.QuietOnceStopped, Emission.along_append] at quiet
  unfold processEvents at sent stopped
  rw [converted, split, processEvents, Emission.forEach_append, Emission.andThen_events, sent]
  by_cases none : skipped = []
  · rw [none, Emission.forEach_nil, Emission.silent_events, List.append_nil]
  · rw [Emission.quiet_events (processEvent_terminal crates) (stopped none) quiet.2, List.append_nil]

theorem Follows.finish_events {bytes : List UInt8} {past : List SentEvent}
    {stream : ChatSseToResponses} (follows : Follows crates context maxBytes bytes past stream) :
    (finish crates stream).events =
      if (converted crates context maxBytes bytes).state.terminal then []
      else (finish crates ((converted crates context maxBytes bytes).state.withInput
        (inputAfter maxBytes bytes))).events := by
  by_cases ended : stream.terminal = true
  · rw [finish, if_pos ended, if_pos (follows.terminal.symm.trans ended)]
    rfl
  · have running : stream.terminal = false := by simpa using ended
    rw [if_neg (by rw [← follows.terminal]; exact ended), follows.live running]

theorem run_events (pushes : List (List UInt8)) :
    (run crates context maxBytes pushes .finish).events =
      (pushAll crates (new crates context maxBytes) pushes).events ++
        (finish crates (pushAll crates (new crates context maxBytes) pushes).state).events := rfl

theorem run_follows {bytes : List UInt8} (fits : bytes.length ≤ maxBytes)
    {pushes : List (List UInt8)} (cut : pushes.flatten = bytes) :
    Follows crates context maxBytes bytes
      (pushAll crates (new crates context maxBytes) pushes).events
      (pushAll crates (new crates context maxBytes) pushes).state := by
  subst cut
  exact pushAll_follows crates context maxBytes (new_follows crates context maxBytes) pushes fits

theorem push_whole {bytes : List UInt8} (fits : bytes.length ≤ maxBytes) :
    (pushAll crates (new crates context maxBytes) [bytes]).events =
      (converted crates context maxBytes bytes).events := by
  have fresh : new crates context maxBytes =
      (converted crates context maxBytes []).state.withInput (inputAfter maxBytes []) := rfl
  have step := @push_live crates maxBytes [] bytes fits
    (converted crates context maxBytes []).state rfl
  rw [← fresh] at step
  have grown := converted_append crates context maxBytes [] bytes
  rw [List.nil_append] at grown
  rw [pushAll, Emission.forEach_cons, step, grown]
  exact List.append_nil _

theorem forEach_atMostOne {stop : ChatSseToResponses → Bool} {self : ChatSseToResponses}
    (running : stop self = false) {events : List SseEvent} (one : events.length ≤ 1) :
    Emission.forEach (Emission.unlessStopped stop (processEvent crates)) self events =
      processEvents crates self events := by
  rcases events with _ | ⟨event, _ | ⟨next, rest⟩⟩
  · rfl
  · rw [processEvents, Emission.forEach_cons, Emission.forEach_cons,
      Emission.unlessStopped_running running]
    rfl
  · simp at one

def stoppedAtEnd (bytes : List UInt8) : Sent :=
  Emission.forEach (Emission.unlessStopped terminal (processEvent crates))
    (new crates context maxBytes) (SseDecoder.decoded bytes).events

theorem push_byte {bytes : List UInt8} {past : List SentEvent} {self : ChatSseToResponses}
    (follows : Follows crates context maxBytes bytes past self)
    (exact' : past = (stoppedAtEnd crates context maxBytes bytes).events) (b : UInt8)
    (fits : (bytes ++ [b]).length ≤ maxBytes) :
    past ++ (push crates self [b]).events =
      (stoppedAtEnd crates context maxBytes (bytes ++ [b])).events := by
  have grown : stoppedAtEnd crates context maxBytes (bytes ++ [b]) =
      (stoppedAtEnd crates context maxBytes bytes).andThen fun self =>
        Emission.forEach (Emission.unlessStopped terminal (processEvent crates)) self
          (SseDecoder.added bytes [b]).events := by
    rw [stoppedAtEnd, SseDecoder.decoded_append, Emission.forEach_append]
    rfl
  rw [grown, Emission.andThen_events, ← exact']
  congr 1
  by_cases ended : self.terminal = true
  · have stopped : (stoppedAtEnd crates context maxBytes bytes).state.terminal = true :=
      Emission.forEach_unlessStopped_stop (follows.terminal.symm.trans ended)
    rw [push_ended crates ended, Emission.forEach_unlessStopped_stopped stopped]
    rfl
  · have running : self.terminal = false := by simpa using ended
    have before : (converted crates context maxBytes bytes).state.terminal = false :=
      follows.terminal.symm.trans running
    have same : stoppedAtEnd crates context maxBytes bytes =
        converted crates context maxBytes bytes :=
      Emission.forEach_unlessStopped_eq (processEvent_terminal crates) before
    have step := push_live crates maxBytes fits before
    rw [← follows.live running] at step
    rw [step, same, forEach_atMostOne crates before (SseDecoder.added_singleton_length bytes b)]
    rfl

theorem push_bytes {bytes : List UInt8} {past : List SentEvent} {self : ChatSseToResponses}
    (follows : Follows crates context maxBytes bytes past self)
    (exact' : past = (stoppedAtEnd crates context maxBytes bytes).events) (more : List UInt8)
    (fits : (bytes ++ more).length ≤ maxBytes) :
    past ++ (pushAll crates self (more.map fun b => [b])).events =
      (stoppedAtEnd crates context maxBytes (bytes ++ more)).events := by
  induction more generalizing bytes past self with
  | nil =>
    rw [List.append_nil, ← exact']
    exact List.append_nil past
  | cons b rest ih =>
    have small : (bytes ++ [b]).length ≤ maxBytes := by
      simp only [List.length_append, List.length_cons, List.length_nil] at fits ⊢
      omega
    have shape : bytes ++ b :: rest = bytes ++ [b] ++ rest := by simp
    rw [shape] at fits ⊢
    rw [← ih (push_follows crates context maxBytes follows small)
      (push_byte crates context maxBytes follows exact' b small) fits]
    simp [pushAll]

/-- All ways of cutting the bytes into pushes give the same events exactly when the frames that
the bytes complete after the one that ends the stream have nothing to send. -/
theorem run_chunking_iff (bytes : List UInt8) (fits : bytes.length ≤ maxBytes) :
    (∀ first second : List (List UInt8), first.flatten = bytes → second.flatten = bytes →
      (run crates context maxBytes first .finish).events =
        (run crates context maxBytes second .finish).events) ↔
      QuietAfterEnd crates context maxBytes bytes := by
  constructor
  · intro independent
    have whole : [bytes].flatten = bytes := by simp
    have single : (bytes.map fun b => [b]).flatten = bytes := by
      rw [← List.flatMap_def, List.flatMap_singleton']
    have same := independent [bytes] (bytes.map fun b => [b]) whole single
    have one := run_follows crates context maxBytes fits whole
    have each := run_follows crates context maxBytes fits single
    rw [run_events, run_events, one.finish_events, each.finish_events,
      push_whole crates context maxBytes fits] at same
    have sent := push_bytes crates context maxBytes (new_follows crates context maxBytes) rfl
      bytes fits
    rw [List.nil_append, List.nil_append] at sent
    have cancelled := List.append_cancel_right same
    rw [quietAfterEnd_iff]
    apply Emission.quiet_of_events_length
    change (converted crates context maxBytes bytes).events.length ≤
      (stoppedAtEnd crates context maxBytes bytes).events.length
    rw [cancelled, sent]
  · intro quiet first second cutFirst cutSecond
    have one := run_follows crates context maxBytes fits cutFirst
    have other := run_follows crates context maxBytes fits cutSecond
    rw [run_events, run_events, one.finish_events, other.finish_events,
      one.events_of_quiet crates context maxBytes quiet,
      other.events_of_quiet crates context maxBytes quiet]

end Cuts

def finishedText : List UInt8 :=
  utf8Bytes ("data: " ++ textChunk.1 ++ "\n\ndata: [DONE]\n\n")

set_option maxRecDepth 4000 in
theorem run_chunking_iff_finished :
    (run (.reading [textChunk]) ⟨∅⟩ 4096 [finishedText] .finish).events =
      (run (.reading [textChunk]) ⟨∅⟩ 4096 [finishedText.take 20, finishedText.drop 20]
        .finish).events :=
  (run_chunking_iff (.reading [textChunk]) ⟨∅⟩ 4096 finishedText (by decide)).mpr
    ⟨fun ended => absurd ended (by decide), fun _ => trivial, trivial⟩
    _ _ (by decide) (by decide)

set_option maxRecDepth 4000 in
/-- A chunk behind `[DONE]` is sent when it comes in the same push and dropped when it comes in
the next one. -/
theorem run_chunking_fails :
    let frames := utf8Bytes ("data: " ++ textChunk.1 ++ "\n\n")
    (finishedText ++ frames).length ≤ 4096 ∧
    (run (.reading [textChunk]) ⟨∅⟩ 4096 [finishedText ++ frames] .finish).events ≠
      (run (.reading [textChunk]) ⟨∅⟩ 4096 [finishedText, frames] .finish).events := by
  intro frames
  refine ⟨by decide, ?_⟩
  intro same
  have count := congrArg List.length same
  revert count
  decide

end ChatSseToResponses

end CodexGate.Conversion
