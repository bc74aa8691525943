import CodexGate.Conversion.Phases

namespace CodexGate.Conversion.ChatSseToResponses

open Foundation

section Conditions

variable (crates : Crates) (C : ChatSseToResponses → Frame → Prop)

def EventsMeet (self : ChatSseToResponses) (events : List SseEvent) : Prop :=
  Emission.Along (processEvent crates) (fun self event => C self (frame crates event)) self events

def PushMeets (self : ChatSseToResponses) (bytes : List UInt8) : Prop :=
  self.terminal = false → ∀ events, (self.receive bytes).1 = .ok events →
    EventsMeet crates C (self.receive bytes).2 events

def CloseMeets (self : ChatSseToResponses) : Ending → Prop
  | .finish => self.terminal = false →
      EventsMeet crates C { self with decoder := self.decoder.finish.state }
        self.decoder.finish.events
  | .failStream _ => True

/-- Every frame of the run meets the condition in the state in which it is processed. -/
def RunMeets (context : ConversionContext) (maxBytes : Nat) (pushes : List (List UInt8))
    (ending : Ending) : Prop :=
  Emission.Along (push crates) (PushMeets crates C) (new crates context maxBytes) pushes ∧
    CloseMeets crates C (pushAll crates (new crates context maxBytes) pushes).state ending

theorem runMeets_of_forall {C : ChatSseToResponses → Frame → Prop}
    (holds : ∀ self frame, C self frame) (context : ConversionContext) (maxBytes : Nat)
    (pushes : List (List UInt8)) (ending : Ending) :
    RunMeets crates C context maxBytes pushes ending := by
  have events : ∀ self events, EventsMeet crates C self events := fun self events =>
    Emission.Along.of_forall (fun self event => holds self (frame crates event)) self events
  refine ⟨Emission.Along.of_forall (fun self _ _ received _ => events _ received) _ pushes, ?_⟩
  cases ending with
  | finish => exact fun _ => events _ _
  | failStream message => trivial

/-- What has to be shown of a property that a whole run keeps. -/
structure FrameRule (P : List SentEvent → ChatSseToResponses → Prop) : Prop where
  input : ∀ past self decoder totalSeen, P past self →
    P past { self with decoder := decoder, totalSeen := totalSeen }
  frame : ∀ past self frame, P past self → C self frame →
    (processFrame crates self frame).Reaches past P
  fail : ∀ past self message, P past self → (self.fail message).Reaches past P

end Conditions

/-- Once `[DONE]` was seen the stream has ended. -/
def Marked (self : ChatSseToResponses) : Prop :=
  self.sawDone = true → self.terminal = true

section Run

variable {crates : Crates} {C : ChatSseToResponses → Frame → Prop}
  {P : List SentEvent → ChatSseToResponses → Prop} {past : List SentEvent}
  {self : ChatSseToResponses}

theorem fail_terminal (self : ChatSseToResponses) (message : String) :
    (self.fail message).state.terminal = true := by
  unfold fail
  split
  · assumption
  · rfl

theorem complete_terminal (self : ChatSseToResponses) :
    (complete crates self).state.terminal = true := by
  unfold complete
  split
  · assumption
  · rfl

theorem processFrame_marked (marked : Marked self) (frame : Frame) :
    Marked (processFrame crates self frame).state := by
  cases frame with
  | done => exact fun _ => complete_terminal _
  | failure message => exact fun _ => fail_terminal self message
  | ignored => exact marked
  | chunk chunk =>
    have kept : KeptByBody fun _ phase => phase.sawDone = true → phase.terminal = true :=
      fun _ _ _ marked _ => marked
    have holds : At (fun _ phase => phase.sawDone = true → phase.terminal = true) [] self := marked
    have noted := noteServiceTier_at holds chunk
    have started : ((self.noteServiceTier chunk).start crates chunk).Reaches []
        (At fun _ phase => phase.sawDone = true → phase.terminal = true) := by
      unfold start
      split
      · exact Emission.reaches_silent noted
      · unfold adopt
        dsimp only
        split <;> exact noted
    exact processChunk_kept kept crates started

theorem FrameRule.events_reach (rule : FrameRule crates C P) (holds : P past self) (marked : Marked self)
    {events : List SseEvent} (meets : EventsMeet crates C self events) :
    (processEvents crates self events).Reaches past fun past self => P past self ∧ Marked self := by
  apply Emission.reaches_forEach_along _ meets ⟨holds, marked⟩
  intro past self event holds met
  exact ⟨rule.frame past self _ holds.1 met, processFrame_marked holds.2 _⟩

theorem receive_input (rule : FrameRule crates C P) (holds : P past self) (bytes : List UInt8) :
    P past (self.receive bytes).2 := by
  unfold receive
  dsimp only
  split
  · exact rule.input past self self.decoder _ holds
  · exact rule.input past self _ _ holds

theorem receive_marked (marked : Marked self) (bytes : List UInt8) :
    Marked (self.receive bytes).2 := by
  unfold receive
  dsimp only
  split
  · exact marked
  · exact marked

theorem FrameRule.push_reach (rule : FrameRule crates C P) (holds : P past self) (marked : Marked self)
    {bytes : List UInt8} (meets : PushMeets crates C self bytes) :
    (push crates self bytes).Reaches past fun past self => P past self ∧ Marked self := by
  by_cases ended : self.terminal = true
  · rw [push_ended crates ended]
    exact Emission.reaches_silent ⟨holds, marked⟩
  · have unfinished : self.terminal = false := by simpa using ended
    have received := receive_input rule holds bytes
    cases result : (self.receive bytes).1 with
    | ok events =>
      rw [push_received crates unfinished result]
      exact rule.events_reach received (receive_marked marked bytes) (meets unfinished events result)
    | error message =>
      rw [push_refused crates unfinished result]
      exact ⟨rule.fail past _ message received, fun _ => fail_terminal _ message⟩

theorem FrameRule.pushAll_reach (rule : FrameRule crates C P) (holds : P past self)
    (marked : Marked self) {pushes : List (List UInt8)}
    (meets : Emission.Along (push crates) (PushMeets crates C) self pushes) :
    (pushAll crates self pushes).Reaches past fun past self => P past self ∧ Marked self := by
  apply Emission.reaches_forEach_along _ meets ⟨holds, marked⟩
  intro past self bytes holds met
  exact rule.push_reach holds.1 holds.2 met

theorem FrameRule.close_reach (rule : FrameRule crates C P) (holds : P past self) (marked : Marked self)
    {ending : Ending} (meets : CloseMeets crates C self ending) :
    (close crates self ending).Reaches past fun past self => P past self ∧ self.terminal = true := by
  cases ending with
  | failStream message => exact ⟨rule.fail past self message holds, fail_terminal self message⟩
  | finish =>
    by_cases ended : self.terminal = true
    · rw [close, finish, if_pos ended]
      exact Emission.reaches_silent ⟨holds, ended⟩
    · have unfinished : self.terminal = false := by simpa using ended
      rw [close, finish_unended crates unfinished]
      have decoded := rule.input past self self.decoder.finish.state self.totalSeen holds
      apply Emission.Reaches.andThen (rule.events_reach decoded marked (meets unfinished))
      intro past self reached
      by_cases ended : self.terminal = true
      · rw [if_pos ended]
        exact Emission.reaches_silent ⟨reached.1, ended⟩
      · have unmarked : ¬self.sawDone = true := fun done => ended (reached.2 done)
        rw [if_neg ended, if_neg unmarked]
        exact ⟨rule.fail past self _ reached.1, fail_terminal self _⟩

/-- The invariant rule for a run: what every frame that meets the condition keeps, and a failure
keeps, holds at the end, and the stream has ended. -/
theorem FrameRule.run_reaches (rule : FrameRule crates C P) {context : ConversionContext} {maxBytes : Nat}
    (fresh : P [] (new crates context maxBytes)) {pushes : List (List UInt8)} {ending : Ending}
    (meets : RunMeets crates C context maxBytes pushes ending) :
    (run crates context maxBytes pushes ending).Reaches [] fun past self =>
      P past self ∧ self.terminal = true := by
  have marked : Marked (new crates context maxBytes) := fun done => by cases done
  apply Emission.Reaches.andThen (Q := fun past self => (P past self ∧ Marked self) ∧
    CloseMeets crates C self ending)
  · exact ⟨rule.pushAll_reach fresh marked meets.1, meets.2⟩
  · intro past self reached
    exact rule.close_reach reached.1.1 reached.1.2 reached.2

variable {Spoilt : List SentEvent → Prop}
  (spoils : ∀ past self frame, P past self → ¬C self frame →
    Spoilt (past ++ (processFrame crates self frame).events))
  (lasting : ∀ past more, Spoilt past → Spoilt (past ++ more))
include spoils lasting

theorem FrameRule.eventsMeet (rule : FrameRule crates C P) (holds : P past self)
    {events : List SseEvent}
    (unspoilt : ¬Spoilt (past ++ (processEvents crates self events).events)) :
    EventsMeet crates C self events := by
  apply Emission.along_of_unspoilt _ _ lasting holds unspoilt
  · intro past self event holds met
    exact rule.frame past self _ holds met
  · intro past self event holds missed
    exact spoils past self _ holds missed

theorem FrameRule.pushMeets (rule : FrameRule crates C P) (holds : P past self)
    {bytes : List UInt8} (unspoilt : ¬Spoilt (past ++ (push crates self bytes).events)) :
    PushMeets crates C self bytes := by
  intro unfinished events result
  rw [push_received crates unfinished result] at unspoilt
  exact rule.eventsMeet spoils lasting (receive_input rule holds bytes) unspoilt

/-- Where a frame that misses the condition spoils the history for good, a run that is not
spoilt met the condition throughout. -/
theorem FrameRule.runMeets (rule : FrameRule crates C P) {context : ConversionContext}
    {maxBytes : Nat} (fresh : P [] (new crates context maxBytes)) {pushes : List (List UInt8)}
    {ending : Ending}
    (unspoilt : ¬Spoilt (run crates context maxBytes pushes ending).events) :
    RunMeets crates C context maxBytes pushes ending := by
  have marked : Marked (new crates context maxBytes) := fun done => by cases done
  rw [run, Emission.andThen_events] at unspoilt
  have pushed : Emission.Along (push crates) (PushMeets crates C)
      (new crates context maxBytes) pushes := by
    have started :
        ¬Spoilt ([] ++ (pushAll crates (new crates context maxBytes) pushes).events) :=
      fun spoilt => unspoilt (lasting _ _ spoilt)
    refine Emission.along_of_unspoilt (P := fun past self => P past self ∧ Marked self) ?_ ?_
      lasting ⟨fresh, marked⟩ started
    · intro past self bytes holds met
      exact rule.push_reach holds.1 holds.2 met
    · intro past self bytes holds missed
      by_contra kept
      exact missed (rule.pushMeets spoils lasting holds.1 kept)
  have reached := rule.pushAll_reach fresh marked pushed
  refine ⟨pushed, ?_⟩
  cases ending with
  | failStream message => trivial
  | finish =>
    intro unfinished
    rw [close, finish_unended crates unfinished, Emission.andThen_events,
      ← List.append_assoc] at unspoilt
    have decoded := rule.input _ _
      (pushAll crates (new crates context maxBytes) pushes).state.decoder.finish.state
      (pushAll crates (new crates context maxBytes) pushes).state.totalSeen reached.1
    exact rule.eventsMeet spoils lasting decoded fun spoilt => unspoilt (lasting _ _ spoilt)

end Run

end CodexGate.Conversion.ChatSseToResponses
