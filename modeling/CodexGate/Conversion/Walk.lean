import CodexGate.Conversion.Slots

namespace CodexGate.Conversion.ChatSseToResponses

open Foundation

structure Adopts (before after : ChatSseToResponses) : Prop where
  unstarted : before.created = false
  created : after.created = true
  context : after.context = before.context
  output : after.output = before.output
  messageIndex : after.messageIndex = before.messageIndex
  text : after.text = before.text
  textStarted : after.textStarted = before.textStarted
  tools : after.tools = before.tools
  toolOrder : after.toolOrder = before.toolOrder

structure AboutItems (P : List ResponseEvent → ChatSseToResponses → Prop) : Prop where
  same : ∀ past before after, SameContent before after → P past before → P past after
  starts : ∀ past before after first second, Adopts before after → P past before →
    P (past ++ [.created first, .inProgress second]) after

theorem SameContent.refl (self : ChatSseToResponses) : SameContent self self :=
  ⟨rfl, rfl, rfl, rfl, rfl, rfl, rfl, rfl, id⟩

theorem Adopts.sameSlots {before after : ChatSseToResponses} (adopts : Adopts before after) :
    SameSlots before after := by
  refine ⟨adopts.toolOrder, fun index => ?_, ?_, adopts.messageIndex, adopts.textStarted,
    fun _ => adopts.created⟩
  · rw [place, place, adopts.tools]
  · rw [adopts.output]

theorem noteServiceTier_same (self : ChatSseToResponses) (chunk : Json) :
    SameContent self (self.noteServiceTier chunk) := by
  unfold noteServiceTier
  split <;> exact ⟨rfl, rfl, rfl, rfl, rfl, rfl, rfl, rfl, id⟩

theorem noteUsage_same (self : ChatSseToResponses) (chunk : Json) :
    SameContent self (self.noteUsage chunk) := by
  unfold noteUsage
  split <;> exact ⟨rfl, rfl, rfl, rfl, rfl, rfl, rfl, rfl, id⟩

theorem noteFinishReason_same (self : ChatSseToResponses) (choice : Json) :
    SameContent self (self.noteFinishReason choice) := by
  unfold noteFinishReason
  split <;> exact ⟨rfl, rfl, rfl, rfl, rfl, rfl, rfl, rfl, id⟩

theorem startEvents_told (self : ChatSseToResponses) :
    ∃ first second, told self.startEvents.events = [.created first, .inProgress second] :=
  ⟨_, _, rfl⟩

theorem adopt_adopts (crates : Crates) {self : ChatSseToResponses} (chunk : Json)
    (unstarted : self.created = false) :
    Adopts self (self.adopt crates chunk).startEvents.state := by
  unfold adopt
  dsimp only
  split <;> exact ⟨unstarted, rfl, rfl, rfl, rfl, rfl, rfl, rfl, rfl⟩

theorem startEvents_adopts {self : ChatSseToResponses} (unstarted : self.created = false) :
    Adopts self self.startEvents.state :=
  ⟨unstarted, rfl, rfl, rfl, rfl, rfl, rfl, rfl, rfl⟩

section Chunk

variable (crates : Crates)

def openChunk (self : ChatSseToResponses) (chunk : Json) : Sent :=
  ((self.noteServiceTier chunk).start crates chunk).andThen fun self =>
    .silent (self.noteUsage chunk)

/-- What a chunk with a delta does before the delta's tool calls are looked at. -/
def beforeTools (self : ChatSseToResponses) (chunk choice delta : Json) : Sent :=
  (openChunk crates self chunk).andThen fun self =>
    (self.noteFinishReason choice).processContent delta

theorem processChunk_delta (self : ChatSseToResponses) {chunk choice : Json}
    {members : List (String × Json)} (chosen : firstChoice chunk = some choice)
    (delta : choice.get "delta" = some (.object members)) :
    processChunk crates self chunk =
      (beforeTools crates self chunk choice (.object members)).andThen fun self =>
        Emission.forEach (appendToolDelta crates) self (toolCalls (.object members)) := by
  unfold processChunk beforeTools openChunk processChoice processDelta
  simp only [chosen, delta, Emission.andThen, Emission.silent, List.append_nil, List.append_assoc]

theorem processChunk_noDelta (self : ChatSseToResponses) {chunk : Json}
    (none : ∀ choice members, firstChoice chunk = some choice →
      choice.get "delta" ≠ some (.object members)) :
    ∃ after, SameContent (openChunk crates self chunk).state after ∧
      processChunk crates self chunk = ⟨(openChunk crates self chunk).events, after⟩ := by
  unfold processChunk openChunk
  cases chosen : firstChoice chunk with
  | none =>
    refine ⟨_, SameContent.refl _, ?_⟩
    simp [Emission.andThen, Emission.silent]
  | some choice =>
    refine ⟨_, noteFinishReason_same _ choice, ?_⟩
    have undone : ∀ self : ChatSseToResponses,
        processChoice crates self choice = .silent (self.noteFinishReason choice) := by
      intro self
      unfold processChoice
      split
      · next members delta => exact absurd delta (none choice members chosen)
      · rfl
    simp [undone, Emission.andThen, Emission.silent]

variable {P : List ResponseEvent → ChatSseToResponses → Prop} (about : AboutItems P)
  {past : List SentEvent} {self : ChatSseToResponses}
include about

theorem start_about (holds : Told P past self) (chunk : Json) :
    (self.start crates chunk).Reaches past
      (Told fun past self => P past self ∧ self.created = true) := by
  unfold start
  by_cases started : self.created = true
  · rw [if_pos started]
    exact Emission.reaches_silent ⟨holds, started⟩
  · rw [if_neg started]
    have adopts := adopt_adopts crates chunk (by simpa using started)
    obtain ⟨first, second, events⟩ := startEvents_told (self.adopt crates chunk)
    have begun := about.starts (told past) self _ first second adopts holds
    rw [Emission.Reaches, Told, told_append, events]
    exact ⟨begun, adopts.created⟩

theorem openChunk_about (holds : Told P past self) (chunk : Json) :
    (openChunk crates self chunk).Reaches past
      (Told fun past self => P past self ∧ self.created = true) := by
  have tier : Told P past (self.noteServiceTier chunk) :=
    about.same _ _ _ (noteServiceTier_same self chunk) holds
  apply Emission.Reaches.andThen (start_about crates about tier chunk)
  intro past self holds
  have same := noteUsage_same self chunk
  exact Emission.reaches_silent ⟨about.same _ _ _ same holds.1, same.created holds.2⟩

theorem beforeTools_about {delta : Json}
    (text : ∀ past self content, (delta.get "content").bind Json.asStr = some content →
      P (told past) self → self.created = true → (self.appendText content).Reaches past (Told P))
    (holds : Told P past self) (chunk choice : Json) :
    (beforeTools crates self chunk choice delta).Reaches past (Told P) := by
  apply Emission.Reaches.andThen (openChunk_about crates about holds chunk)
  intro past self holds
  have same := noteFinishReason_same self choice
  have noted : P (told past) (self.noteFinishReason choice) := about.same _ _ _ same holds.1
  unfold processContent
  split
  · next content given => exact text past _ content given noted (same.created holds.2)
  · exact Emission.reaches_silent noted

theorem processChunk_about {chunk : Json}
    (text : ∀ choice members, firstChoice chunk = some choice →
      choice.get "delta" = some (.object members) → ∀ past self content,
      ((Json.object members).get "content").bind Json.asStr = some content →
      P (told past) self → self.created = true → (self.appendText content).Reaches past (Told P))
    (tools : ∀ choice members past, firstChoice chunk = some choice →
      choice.get "delta" = some (.object members) →
      P (told past) (beforeTools crates self chunk choice (.object members)).state →
      (Emission.forEach (appendToolDelta crates)
        (beforeTools crates self chunk choice (.object members)).state
        (toolCalls (.object members))).Reaches past (Told P))
    (holds : Told P past self) : (processChunk crates self chunk).Reaches past (Told P) := by
  by_cases delta : ∃ choice members, firstChoice chunk = some choice ∧
      choice.get "delta" = some (.object members)
  · obtain ⟨choice, members, chosen, delta⟩ := delta
    have before := beforeTools_about crates about (text choice members chosen delta) holds chunk choice
    have after := tools choice members _ chosen delta before
    rw [processChunk_delta crates self chosen delta]
    rw [Emission.Reaches, List.append_assoc] at after
    exact after
  · obtain ⟨after, same, shape⟩ := @processChunk_noDelta crates self chunk (by
      intro choice members chosen found
      exact delta ⟨choice, members, chosen, found⟩)
    have before := openChunk_about crates about holds chunk
    rw [shape]
    exact about.same _ _ _ same before.1

theorem fail_about (told' : ∀ past self message, P past self → P (past ++ [.error message]) self)
    (failed : ∀ past self response, P past self → P (past ++ [.failed response]) self)
    (holds : Told P past self) (message : String) :
    (self.fail message).Reaches past (Told P) := by
  unfold fail
  split
  · exact Emission.reaches_silent holds
  · have begun : (if self.created then (Emission.silent self : Sent) else self.startEvents).Reaches
        past (Told P) := by
      split
      · exact Emission.reaches_silent holds
      · next unstarted =>
        have adopts : Adopts self self.startEvents.state :=
          startEvents_adopts (by simpa using unstarted)
        obtain ⟨first, second, events⟩ := startEvents_told self
        have begun := about.starts (told past) self _ first second adopts holds
        rw [Emission.Reaches, Told, told_append, events]
        exact begun
    refine Emission.Reaches.andThen (Q := Told P) ?_ ?_
    · refine Emission.Reaches.andThen begun ?_
      intro past self holds
      have sent := told' (told past) self message holds
      rw [Emission.Reaches, Told, told_append]
      exact about.same _ self _ ⟨rfl, rfl, rfl, rfl, rfl, rfl, rfl, rfl, id⟩ sent
    · intro past self holds
      have sent := failed (told past) self
        (failedResponse { self with terminal := true } message) holds
      rw [Emission.Reaches, Told, told_append]
      exact about.same _ self _ ⟨rfl, rfl, rfl, rfl, rfl, rfl, rfl, rfl, id⟩ sent

end Chunk

end CodexGate.Conversion.ChatSseToResponses
