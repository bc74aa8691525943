import CodexGate.Conversion.Frames

namespace CodexGate.Conversion

open Foundation

/-- What a reader of the converted stream relies on. -/
structure EventProtocol (events : List SentEvent) : Prop where
  numbered : ∀ (i : Nat) sent, events[i]? = some sent →
    sent.data.get "sequence_number" = some (Json.ofInt (min (i : Int) i64Max))
  opening : events ≠ [] → ∃ first second rest, events.map SentEvent.event =
    .created first :: .inProgress second :: rest ∧ ∀ event ∈ rest, event.isOpening = false
  ending : ∃ before last, events.map SentEvent.event = before ++ [last] ∧
    last.isTerminal = true ∧ ∀ event ∈ before, event.isTerminal = false

/-- The counter stands at the length of the history, and every event carries its place. -/
def Numbered (past : List SentEvent) (sequence : Int) : Prop :=
  sequence = min (past.length : Int) i64Max ∧
    ∀ (i : Nat) sent, past[i]? = some sent → sent.sequence = min (i : Int) i64Max

theorem Numbered.append {past : List SentEvent} {sequence : Int} (numbered : Numbered past sequence)
    (event : ResponseEvent) :
    Numbered (past ++ [⟨sequence, event⟩]) (saturatingAddI64 sequence 1) := by
  obtain ⟨counter, places⟩ := numbered
  constructor
  · rw [counter, saturatingAddI64, clampI64, List.length_append, List.length_singleton]
    simp only [i64Min, i64Max]
    omega
  · intro i sent found
    rcases Nat.lt_trichotomy i past.length with before | here | after
    · rw [List.getElem?_append_left before] at found
      exact places i sent found
    · subst here
      rw [List.getElem?_concat_length] at found
      cases found
      exact counter
    · rw [List.getElem?_eq_none (by simp; omega)] at found
      cases found

structure Idle (past : List SentEvent) (phase : Phase) : Prop where
  nothing : past = []
  sequence : phase.sequence = 0
  created : phase.created = false
  terminal : phase.terminal = false

structure Active (past : List SentEvent) (phase : Phase) : Prop where
  created : phase.created = true
  terminal : phase.terminal = false
  numbered : Numbered past phase.sequence
  opened : ∃ first second body, past.map SentEvent.event =
    .created first :: .inProgress second :: body ∧ ∀ event ∈ body, event.isBody = true

structure Ended (past : List SentEvent) (phase : Phase) : Prop where
  created : phase.created = true
  terminal : phase.terminal = true
  numbered : Numbered past phase.sequence
  closed : ∃ first second body last, past.map SentEvent.event =
    .created first :: .inProgress second :: (body ++ [last]) ∧ last.isTerminal = true ∧
      ∀ event ∈ body, event.isBody = true

structure EndedSince (before : List SentEvent) (last : Int) (past : List SentEvent)
    (phase : Phase) : Prop where
  created : phase.created = true
  terminal : phase.terminal = true
  longer : before.length ≤ past.length
  same : past.length = before.length → phase.sequence = last

def InOrder (past : List SentEvent) (phase : Phase) : Prop :=
  Idle past phase ∨ Active past phase ∨ Ended past phase

theorem active_keptByBody : KeptByBody Active := by
  intro past phase event active body
  obtain ⟨first, second, rest, shape, bodies⟩ := active.opened
  refine ⟨active.created, active.terminal, active.numbered.append event,
    first, second, rest ++ [event], by simp [shape], ?_⟩
  intro other member
  rcases List.mem_append.mp member with member | member
  · exact bodies other member
  · rw [List.mem_singleton.mp member]
    exact body

theorem endedSince_keptByBody (before : List SentEvent) (last : Int) :
    KeptByBody (EndedSince before last) := by
  intro past phase event since _
  have longer := since.longer
  refine ⟨since.created, since.terminal, ?_, ?_⟩
  · rw [List.length_append, List.length_singleton]
    omega
  · rw [List.length_append, List.length_singleton]
    omega

theorem Active.ended {past : List SentEvent} {phase : Phase} (active : Active past phase)
    {event : ResponseEvent} (last : event.isTerminal = true) :
    Ended (past ++ [⟨phase.sequence, event⟩]) { phase.sent with terminal := true } := by
  obtain ⟨first, second, body, shape, bodies⟩ := active.opened
  exact ⟨active.created, rfl, active.numbered.append event, first, second, body, event,
    by simp [shape], last, bodies⟩

/-- A history that no continuation turns into one that follows the protocol. -/
def Spoilt (past : List SentEvent) : Prop :=
  ∀ more, ¬EventProtocol (past ++ more)

theorem Spoilt.append {past : List SentEvent} (spoilt : Spoilt past) (more : List SentEvent) :
    Spoilt (past ++ more) := by
  intro rest follows
  rw [List.append_assoc] at follows
  exact spoilt _ follows

theorem Ended.spoilt {past : List SentEvent} {phase : Phase} (ended : Ended past phase) {more : List SentEvent} (sent : more ≠ []) :
    Spoilt (past ++ more) := by
  obtain ⟨first, second, body, last, shape, terminalLast, -⟩ := ended.closed
  intro rest follows
  obtain ⟨before, final, split, -, none⟩ := follows.ending
  have member : last ∈ before := by
    have whole : before ++ [final] = (.created first :: .inProgress second :: (body ++ [last])) ++
        (more ++ rest).map SentEvent.event := by
      rw [← split, ← shape, ← List.map_append, List.append_assoc]
    have nonempty : (more ++ rest).map SentEvent.event ≠ [] := by simp [sent]
    rw [← List.dropLast_concat_getLast nonempty, ← List.append_assoc] at whole
    have prefixes := (List.append_inj' whole rfl).1
    rw [prefixes]
    simp
  rw [none last member] at terminalLast
  cases terminalLast

theorem spoilt_of_head {sent : SentEvent} (rest : List SentEvent)
    (head : sent.event.isOpening = false) : Spoilt (sent :: rest) := by
  intro more follows
  obtain ⟨first, second, others, shape, -⟩ := follows.opening (by simp)
  rw [List.cons_append, List.map_cons] at shape
  injection shape with opened _
  rw [opened] at head
  cases head

theorem Ended.protocol {past : List SentEvent} {phase : Phase} (ended : Ended past phase) :
    EventProtocol past := by
  obtain ⟨first, second, body, last, shape, terminalLast, bodies⟩ := ended.closed
  have plain : ∀ event ∈ body, event.isOpening = false ∧ event.isTerminal = false := by
    intro event member
    simpa [ResponseEvent.isBody] using bodies event member
  have lastPlain : last.isOpening = false := by
    cases last <;> first | rfl | cases terminalLast
  constructor
  · intro i sent found
    rw [sent.data_sequenceNumber, ended.numbered.2 i sent found]
  · intro _
    refine ⟨first, second, body ++ [last], shape, ?_⟩
    intro event member
    rcases List.mem_append.mp member with member | member
    · exact (plain event member).1
    · rw [List.mem_singleton.mp member]
      exact lastPlain
  · refine ⟨.created first :: .inProgress second :: body, last, shape, terminalLast, ?_⟩
    intro event member
    rcases List.mem_cons.mp member with same | member
    · rw [same]
      rfl
    · rcases List.mem_cons.mp member with same | member
      · rw [same]
        rfl
      · exact (plain event member).2

namespace ChatSseToResponses

variable (crates : Crates) {past : List SentEvent} {self : ChatSseToResponses}

/-- What keeps a stream in order: it is not finished before it has started, and nothing is sent
from what follows its end. -/
def OrderlyFrame (self : ChatSseToResponses) (frame : Frame) : Prop :=
  (frame = .done → self.terminal = false → self.created = true) ∧
    (self.terminal = true → SilentFrame crates self frame)

theorem startEvents_idle (idle : At Idle past self) :
    self.startEvents.Reaches past (At Active) := by
  have nothing := idle.nothing
  subst nothing
  have numbered : Numbered [] self.sequence := by
    constructor
    · exact idle.sequence
    · intro i sent found
      simp at found
  exact ⟨rfl, idle.terminal, (numbered.append _).append _, _, _, [], rfl, by simp⟩

theorem start_idle (idle : At Idle past self) (chunk : Json) :
    (self.start crates chunk).Reaches past (At Active) := by
  have unstarted : ¬self.created = true := by simp [show self.created = false from idle.created]
  have adopted : At Idle past (self.adopt crates chunk) := by
    unfold adopt
    dsimp only
    split
    · exact idle
    · exact idle
  rw [start, if_neg unstarted]
  exact startEvents_idle adopted

theorem complete_active (active : At Active past self) :
    (complete crates self).Reaches past (At Ended) := by
  have unfinished : ¬self.terminal = true := by simp [show self.terminal = false from active.terminal]
  rw [complete, if_neg unfinished]
  apply Emission.Reaches.andThen (completeBody_kept active_keptByBody crates active)
  intro past self active
  exact Active.ended active rfl

theorem fail_active (active : At Active past self) (message : String) :
    (self.fail message).Reaches past (At Ended) := by
  have unfinished : ¬self.terminal = true := by simp [show self.terminal = false from active.terminal]
  have started : self.created = true := active.created
  rw [fail, if_neg unfinished, if_pos started, Emission.silent_andThen]
  refine Emission.Reaches.andThen (Q := At Active) ?_ ?_
  · exact send_kept active_keptByBody active rfl
  · intro past self active
    exact Active.ended active rfl

theorem fail_idle (idle : At Idle past self) (message : String) :
    (self.fail message).Reaches past (At Ended) := by
  have unfinished : ¬self.terminal = true := by simp [show self.terminal = false from idle.terminal]
  have unstarted : ¬self.created = true := by simp [show self.created = false from idle.created]
  rw [fail, if_neg unfinished, if_neg unstarted]
  refine Emission.Reaches.andThen (Q := At Active) ?_ ?_
  · refine Emission.Reaches.andThen (startEvents_idle idle) ?_
    intro past self active
    exact send_kept active_keptByBody active rfl
  · intro past self active
    exact Active.ended active rfl

theorem fail_inOrder (inOrder : At InOrder past self) (message : String) :
    (self.fail message).Reaches past (At Ended) := by
  rcases inOrder with idle | active | ended
  · exact fail_idle idle message
  · exact fail_active active message
  · rw [fail_ended ended.terminal]
    exact Emission.reaches_silent ended

theorem processChunk_ended (ended : At Ended past self) {chunk : Json}
    (silent : (processChunk crates self chunk).events = []) :
    (processChunk crates self chunk).Reaches past (At Ended) := by
  have since : At (EndedSince past self.sequence) past self :=
    ⟨ended.created, ended.terminal, Nat.le_refl _, fun _ => rfl⟩
  have noted := noteServiceTier_at since chunk
  have after := processChunk_kept (endedSince_keptByBody past self.sequence) crates
    (start_started crates noted.created noted chunk)
  have same := after.same
  rw [silent, List.append_nil] at same
  rw [Emission.Reaches, silent, List.append_nil]
  exact ⟨after.created, after.terminal, by rw [same rfl]; exact ended.numbered, ended.closed⟩

theorem processFrame_inOrder (inOrder : At InOrder past self) {frame : Frame}
    (orderly : OrderlyFrame crates self frame) :
    (processFrame crates self frame).Reaches past (At InOrder) := by
  cases frame with
  | ignored => exact Emission.reaches_silent inOrder
  | failure message => exact (fail_inOrder inOrder message).weaken fun _ _ ended => .inr (.inr ended)
  | done =>
    rcases inOrder with idle | active | ended
    · have started := orderly.1 rfl idle.terminal
      rw [show self.created = false from idle.created] at started
      cases started
    · have marked : At Active past { self with sawDone := true } :=
        ⟨active.created, active.terminal, active.numbered, active.opened⟩
      exact (complete_active crates marked).weaken fun _ _ ended => .inr (.inr ended)
    · have marked : ({ self with sawDone := true } : ChatSseToResponses).terminal = true :=
        ended.terminal
      rw [processFrame, complete_ended crates marked]
      exact Emission.reaches_silent
        (.inr (.inr ⟨ended.created, ended.terminal, ended.numbered, ended.closed⟩))
  | chunk chunk =>
    rcases inOrder with idle | active | ended
    · have started := start_idle crates (noteServiceTier_at idle chunk) chunk
      exact (processChunk_kept active_keptByBody crates started).weaken
        fun _ _ active => .inr (.inl active)
    · have noted := noteServiceTier_at active chunk
      exact (processChunk_kept active_keptByBody crates
        (start_started crates noted.created noted chunk)).weaken
          fun _ _ active => .inr (.inl active)
    · have silent := (processChunk_silent_iff crates self chunk).mpr (orderly.2 ended.terminal)
      exact (processChunk_ended crates ended silent).weaken fun _ _ ended => .inr (.inr ended)

theorem unopened_keptByBody :
    KeptByBody fun past _ => ∀ sent ∈ past, sent.event.isOpening = false := by
  intro past phase event unopened body sent member
  rcases List.mem_append.mp member with member | member
  · exact unopened sent member
  · rw [List.mem_singleton.mp member]
    simp only [ResponseEvent.isBody, Bool.and_eq_true, Bool.not_eq_eq_eq_not, Bool.not_true] at body
    exact body.1

theorem complete_unopened {self : ChatSseToResponses} (unfinished : self.terminal = false) :
    ∃ sent rest, (complete crates self).events = sent :: rest ∧ sent.event.isOpening = false := by
  have body := @completeBody_kept _ unopened_keptByBody [] self crates (by simp [At])
  rw [complete, if_neg (by simp [unfinished]), Emission.andThen_events]
  simp only [Emission.Reaches, At, List.nil_append] at body
  revert body
  generalize Emission.andThen (Emission.andThen _ _) _ = sent
  intro body
  rcases shape : sent.events with _ | ⟨head, rest⟩
  · exact ⟨_, [], rfl, rfl⟩
  · exact ⟨head, _, List.cons_append, body head (by simp [shape])⟩

theorem processFrame_spoils (inOrder : At InOrder past self) {frame : Frame}
    (disorderly : ¬OrderlyFrame crates self frame) :
    Spoilt (past ++ (processFrame crates self frame).events) := by
  rcases inOrder with idle | active | ended
  · have unfinished : self.terminal = false := idle.terminal
    have early : frame = .done := by
      by_contra other
      refine disorderly ⟨fun same => absurd same other, fun ended => ?_⟩
      rw [unfinished] at ended
      cases ended
    subst early
    obtain ⟨sent, rest, shape, head⟩ := complete_unopened crates
      (show ({ self with sawDone := true } : ChatSseToResponses).terminal = false from unfinished)
    rw [processFrame, shape, show past = [] from idle.nothing]
    exact spoilt_of_head rest head
  · refine absurd ⟨fun _ _ => active.created, fun ended => ?_⟩ disorderly
    rw [show self.terminal = false from active.terminal] at ended
    cases ended
  · apply ended.spoilt
    intro silent
    refine disorderly ⟨fun _ _ => ended.created, fun _ => ?_⟩
    exact (processFrame_silent_iff crates ended.terminal frame).mp silent

def OrderlyRun (context : ConversionContext) (maxBytes : Nat) (pushes : List (List UInt8))
    (ending : Ending) : Prop :=
  RunMeets crates (OrderlyFrame crates) context maxBytes pushes ending

theorem inOrder_rule : FrameRule crates (OrderlyFrame crates) (At InOrder) where
  input _ _ _ _ inOrder := inOrder
  frame _ _ _ inOrder orderly := processFrame_inOrder crates inOrder orderly
  fail _ _ message inOrder :=
    (fail_inOrder inOrder message).weaken fun _ _ ended => .inr (.inr ended)

theorem InOrder.ended (inOrder : At InOrder past self) (terminal : self.terminal = true) :
    At Ended past self := by
  rcases inOrder with idle | active | ended
  · rw [show self.terminal = false from idle.terminal] at terminal
    cases terminal
  · rw [show self.terminal = false from active.terminal] at terminal
    cases terminal
  · exact ended

/-- A converted stream follows the event protocol exactly when no `[DONE]` comes before the
first chunk and no frame behind the end of the stream makes it send anything. -/
theorem run_protocol_iff (context : ConversionContext) (maxBytes : Nat)
    (pushes : List (List UInt8)) (ending : Ending) :
    EventProtocol (run crates context maxBytes pushes ending).events ↔
      OrderlyRun crates context maxBytes pushes ending := by
  have fresh : At InOrder [] (new crates context maxBytes) := .inl ⟨rfl, rfl, rfl, rfl⟩
  constructor
  · intro follows
    have unspoilt : ¬Spoilt (run crates context maxBytes pushes ending).events :=
      fun spoilt => spoilt [] (by simpa using follows)
    refine (inOrder_rule crates).runMeets ?_ (fun _ more spoilt => spoilt.append more) fresh unspoilt
    intro past self frame inOrder disorderly
    exact processFrame_spoils crates inOrder disorderly
  · intro orderly
    obtain ⟨inOrder, terminal⟩ := (inOrder_rule crates).run_reaches fresh orderly
    rw [List.nil_append] at inOrder
    exact Ended.protocol (InOrder.ended inOrder terminal)

set_option maxRecDepth 4000 in
/-- With `[DONE]` first the stream is completed without being opened, and a chunk behind `[DONE]`
in the same push is sent after the completion. -/
theorem run_protocol_fails :
    ¬EventProtocol (run (.reading []) ⟨∅⟩ 4096 [utf8Bytes "data: [DONE]\n\n"] .finish).events ∧
    ¬EventProtocol (run (.reading [textChunk]) ⟨∅⟩ 4096
      [utf8Bytes ("data: " ++ textChunk.1 ++ "\n\ndata: [DONE]\n\ndata: " ++ textChunk.1 ++ "\n\n")]
      .finish).events := by
  constructor
  · intro follows
    have opens : (run (.reading []) ⟨∅⟩ 4096 [utf8Bytes "data: [DONE]\n\n"] .finish).events.map
        (fun sent => sent.event.isOpening) = [false] := by decide
    obtain ⟨first, second, rest, shape, -⟩ := follows.opening fun none => by
      rw [none] at opens
      cases opens
    have opened := congrArg (List.map ResponseEvent.isOpening) shape
    rw [List.map_map] at opened
    change List.map (fun sent : SentEvent => sent.event.isOpening) _ = _ at opened
    rw [opens] at opened
    cases opened
  · intro follows
    obtain ⟨before, last, shape, terminal, -⟩ := follows.ending
    have ended := congrArg (fun events => (events.map ResponseEvent.isTerminal).getLast?) shape
    simp only [List.map_append, List.map_cons, List.map_nil, List.getLast?_concat, terminal] at ended
    revert ended
    decide

end ChatSseToResponses

end CodexGate.Conversion
