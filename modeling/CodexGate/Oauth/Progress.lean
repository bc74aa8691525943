import CodexGate.Oauth.VerdictSteps

namespace CodexGate.Oauth

open Foundation Routing

variable {codec : IdTokenCodec}

def Phase.closed : Phase → Bool
  | .persisted | .prepared _ | .failed _ | .dropped => true
  | _ => false

section Phases

variable {world : World} {id : Nat} {call : PrepareCall} {phase : Phase}

@[simp] theorem enter_phase : (world.enter id call phase).phase id = some phase := by
  simp [World.phase, World.enter]

@[simp] theorem leave_phase : (world.leave id call phase).phase id = some phase := enter_phase

@[simp] theorem fail_phase {error : CodexOAuthError} :
    (world.fail id call error).phase id = some (.failed error) := enter_phase

theorem call_of_phase (there : world.phase id = some phase) :
    ∃ call, world.calls id = some call ∧ call.phase = phase := Option.map_eq_some_iff.mp there

end Phases

theorem stepCall_of_step {before after : World} {action : Action} {call : PrepareCall}
    (taken : PrepareStep codec before action after) (found : before.calls action.caller = some call) :
    stepCall codec before action.caller call action = some after := by
  unfold PrepareStep step at taken
  rw [found] at taken
  exact taken

theorem step_calls {before after : World} {action : Action}
    (taken : PrepareStep codec before action after) :
    ∃ call : PrepareCall, after.calls = Function.update before.calls action.caller (some call) ∧
      ∀ old, before.calls action.caller = some old →
        call.forceRefresh = old.forceRefresh ∧ call.allowForbidden = old.allowForbidden := by
  cases found : before.calls action.caller with
  | some old =>
    obtain ⟨next, -, calls⟩ := stepCall_moved (stepCall_of_step taken found)
    refine ⟨_, calls, ?_⟩
    rintro _ ⟨⟩
    exact ⟨rfl, rfl⟩
  | none =>
    unfold PrepareStep step at taken
    rw [found] at taken
    dsimp only at taken
    split at taken
    · cases taken
      exact ⟨_, rfl, fun _ none => by cases none⟩
    · cases taken

theorem step_phase_of_ne {before after : World} {action : Action}
    (taken : PrepareStep codec before action after) {id : Nat} (other : id ≠ action.caller) :
    after.phase id = before.phase id := by
  obtain ⟨call, calls, -⟩ := step_calls taken
  unfold World.phase
  rw [calls, Function.update_of_ne other]

/-- Only a request and a persist lead a call to an answer that is to be saved, or is saved. -/
def Phase.answered : Phase → Bool
  | .persisting .. | .persisted => true
  | _ => false

/-- The call is not about to save an answer, and has not just saved one. -/
def Unanswered (world : World) (id : Nat) : Prop :=
  ∃ phase, world.phase id = some phase ∧ phase.answered = false

section Unanswered

variable {world : World} {id : Nat} {call : PrepareCall}

theorem unanswered_enter {phase : Phase} (quiet : phase.answered = false) :
    Unanswered (world.enter id call phase) id := ⟨phase, enter_phase, quiet⟩

theorem unanswered_fail (error : CodexOAuthError) : Unanswered (world.fail id call error) id :=
  ⟨_, fail_phase, rfl⟩

theorem unanswered_await (left : Nat) : Unanswered (world.await id call left) id := by
  unfold World.await
  split
  · exact unanswered_fail _
  · exact unanswered_enter rfl

theorem unanswered_load (nowMs : Int) : Unanswered (world.load id call nowMs) id := by
  unfold World.load
  split
  · exact unanswered_fail _
  · dsimp only
    split
    · exact ⟨_, leave_phase, rfl⟩
    · split
      · exact unanswered_enter rfl
      · exact unanswered_enter rfl

theorem unanswered_acquire (account : CodexOAuthAccount) (nowMs : Int) (left : Nat) :
    Unanswered (world.acquire id call account nowMs left) id := by
  unfold World.acquire
  split
  · exact ⟨_, enter_phase, rfl⟩
  · exact unanswered_await left

theorem unanswered_poll (left : Nat) (nowMs : Int) :
    Unanswered (world.poll id call left nowMs) id := by
  unfold World.poll
  split
  · exact unanswered_fail _
  · split
    · exact ⟨_, leave_phase, rfl⟩
    · split
      · exact unanswered_enter rfl
      · exact unanswered_await left

theorem unanswered_release (error : CodexOAuthError) :
    Unanswered (world.release id call error) id := by
  unfold World.release
  split
  · exact unanswered_enter rfl
  · exact unanswered_fail error

theorem unanswered_reload : Unanswered (world.reload id call) id := by
  unfold World.reload
  split
  · exact unanswered_fail _
  · exact ⟨_, leave_phase, rfl⟩

end Unanswered

theorem stepCall_unanswered {before after : World} {action : Action} {call : PrepareCall}
    (taken : stepCall codec before action.caller call action = some after)
    (unasked : ∀ id answer, action ≠ .request id answer)
    (unsaved : ∀ id nowMs, action ≠ .persist id nowMs) : Unanswered after action.caller := by
  cases action with
  | call => cases taken
  | lock id =>
    simp only [stepCall] at taken
    split at taken
    · cases taken
      exact ⟨_, enter_phase, rfl⟩
    · cases taken
  | load id nowMs =>
    simp only [stepCall] at taken
    split at taken
    · cases taken
      exact unanswered_load nowMs
    · cases taken
  | acquire id =>
    simp only [stepCall] at taken
    split at taken
    · cases taken
      exact unanswered_acquire _ _ _
    · cases taken
  | poll id nowMs =>
    simp only [stepCall] at taken
    split at taken
    · cases taken
      exact unanswered_poll _ nowMs
    · cases taken
  | request id answer => exact absurd rfl (unasked id answer)
  | release id =>
    simp only [stepCall] at taken
    split at taken
    · cases taken
      exact unanswered_release _
    · cases taken
  | mark id =>
    simp only [stepCall] at taken
    split at taken
    · cases taken
      exact unanswered_fail _
    · cases taken
      exact unanswered_fail _
    · cases taken
  | persist id nowMs => exact absurd rfl (unsaved id nowMs)
  | reload id =>
    simp only [stepCall] at taken
    split at taken
    · cases taken
      exact unanswered_reload
    · cases taken
  | databaseError id message =>
    simp only [stepCall] at taken
    split at taken
    all_goals cases taken
    · exact unanswered_release _
    · exact unanswered_fail _
    · exact unanswered_fail _
  | drop id =>
    simp only [stepCall] at taken
    split at taken
    all_goals cases taken
    exact ⟨_, leave_phase, rfl⟩

theorem step_unanswered {before after : World} {action : Action}
    (taken : PrepareStep codec before action after)
    (unasked : ∀ id answer, action ≠ .request id answer)
    (unsaved : ∀ id nowMs, action ≠ .persist id nowMs) : Unanswered after action.caller := by
  cases found : before.calls action.caller with
  | some call => exact stepCall_unanswered (stepCall_of_step taken found) unasked unsaved
  | none =>
    unfold PrepareStep step at taken
    rw [found] at taken
    dsimp only at taken
    split at taken
    · cases taken
      exact ⟨.queued, by simp [World.phase, Action.caller], rfl⟩
    · cases taken

theorem no_step_ended {before after : World} {action : Action} {call : PrepareCall}
    (ended : call.phase.closed = true) (unread : call.phase ≠ .persisted)
    (taken : stepCall codec before action.caller call action = some after) : False := by
  cases phase : call.phase with
  | persisted => exact unread phase
  | prepared auth => cases action <;> simp [stepCall, phase] at taken
  | failed error => cases action <;> simp [stepCall, phase] at taken
  | dropped => cases action <;> simp [stepCall, phase] at taken
  | _ =>
    rw [phase] at ended
    cases ended

theorem reload_over (world : World) (id : Nat) (call : PrepareCall) :
    ∃ next, (world.reload id call).phase id = some next ∧ next.closed = true := by
  unfold World.reload
  split
  · exact ⟨_, fail_phase, rfl⟩
  · exact ⟨_, leave_phase, rfl⟩

theorem step_over {before after : World} {action : Action}
    (taken : PrepareStep codec before action after) {phase : Phase}
    (there : before.phase action.caller = some phase) (closed : phase.closed = true) :
    (∃ next, after.phase action.caller = some next ∧ next.closed = true) ∧
      ∀ id nowMs, action ≠ .persist id nowMs := by
  obtain ⟨call, found, rfl⟩ := call_of_phase there
  have taken := stepCall_of_step taken found
  by_cases persisted : call.phase = .persisted
  · cases action with
    | reload id =>
      simp only [stepCall, persisted, if_true, Option.some.injEq] at taken
      subst taken
      exact ⟨reload_over before id call, fun _ _ other => by cases other⟩
    | databaseError id message =>
      simp only [stepCall, persisted, Option.some.injEq] at taken
      subst taken
      exact ⟨⟨_, fail_phase, rfl⟩, fun _ _ other => by cases other⟩
    | drop id =>
      simp only [stepCall, persisted, Option.some.injEq] at taken
      subst taken
      exact ⟨⟨_, leave_phase, rfl⟩, fun _ _ other => by cases other⟩
    | _ => simp [stepCall, persisted] at taken
  · exact (no_step_ended closed persisted taken).elim

theorem run_over {start world : World} {history : List (Transition World Action)}
    (run : Execution (PrepareStep codec) start history world) {id : Nat}
    (closed : ∃ phase, start.phase id = some phase ∧ phase.closed = true) :
    (∃ phase, world.phase id = some phase ∧ phase.closed = true) ∧
      ∀ t ∈ history, ∀ nowMs, t.action ≠ .persist id nowMs := by
  induction run with
  | start => exact ⟨closed, fun t none => absurd none List.not_mem_nil⟩
  | next run taken ih =>
    rename_i history before after action
    obtain ⟨⟨phase, there, ended⟩, unsaved⟩ := ih
    by_cases own : id = action.caller
    · subst own
      obtain ⟨still, other⟩ := step_over taken there ended
      refine ⟨still, fun t member nowMs => ?_⟩
      rcases List.mem_cons.mp member with rfl | earlier
      · exact other _ nowMs
      · exact unsaved t earlier nowMs
    · refine ⟨⟨phase, (step_phase_of_ne taken own).trans there, ended⟩, fun t member nowMs => ?_⟩
      rcases List.mem_cons.mp member with rfl | earlier
      · rintro rfl
        exact own rfl
      · exact unsaved t earlier nowMs

theorem run_ended {start world : World} {history : List (Transition World Action)}
    (run : Execution (PrepareStep codec) start history world) {id : Nat} {phase : Phase}
    (closed : phase.closed = true) (unread : phase ≠ .persisted) (there : start.phase id = some phase) :
    world.phase id = some phase := by
  induction run with
  | start => exact there
  | next run taken ih =>
    rename_i history before after action
    by_cases own : id = action.caller
    · subst own
      obtain ⟨call, found, rfl⟩ := call_of_phase ih
      exact (no_step_ended closed unread (stepCall_of_step taken found)).elim
    · exact (step_phase_of_ne taken own).trans ih

/-- The ID token of the answer is left out, is blank or can be read. -/
def Readable (codec : IdTokenCodec) (refreshed : RefreshTokenBundle) : Prop :=
  ∀ token, refreshed.idToken = some token → trim token ≠ "" → ∃ claims, parseIdToken codec token = .ok claims

structure Saved (account : CodexOAuthAccount) (refreshed : RefreshTokenBundle) (row : AccountRow) :
    Prop where
  accessToken : row.accessToken = refreshed.accessToken
  refreshToken : row.credentials.refreshToken =
    (rotated refreshed).getD account.credentials.refreshToken
  lease : row.refreshLease = none

theorem claims_readable (refreshed : RefreshTokenBundle) :
    (∃ claims, (refreshed.idToken.filter fun value => trim value ≠ "").mapM (parseIdToken codec) =
      .ok claims) ↔ Readable codec refreshed := by
  unfold Readable
  cases refreshed.idToken with
  | none => exact iff_of_true ⟨none, rfl⟩ fun _ none => by cases none
  | some token =>
    by_cases blank : trim token = ""
    · refine iff_of_true ⟨none, ?_⟩ ?_
      · rw [Option.filter_some, if_neg (by simp [blank])]
        rfl
      · rintro _ ⟨⟩ filled
        exact absurd blank filled
    · rw [Option.filter_some, if_pos (by simp [blank])]
      have mapped : (some token).mapM (parseIdToken codec) = some <$> parseIdToken codec token := rfl
      rw [mapped]
      constructor
      · rintro ⟨claims, read⟩ _ ⟨⟩ -
        cases parsed : parseIdToken codec token with
        | error error =>
          rw [parsed] at read
          cases read
        | ok claims => exact ⟨claims, rfl⟩
      · intro reads
        obtain ⟨claims, parsed⟩ := reads token rfl blank
        exact ⟨some claims, by rw [parsed]; rfl⟩

theorem persist_cases (world : World) (id : Nat) (call : PrepareCall) (account : CodexOAuthAccount)
    (refreshed : RefreshTokenBundle) (nowMs : Int) :
    (Readable codec refreshed ∧ world.row.ownedBy id = true ∧
        (world.persist codec id call account refreshed nowMs).phase id = some .persisted ∧
        Saved account refreshed (world.persist codec id call account refreshed nowMs).row) ∨
      ¬(Readable codec refreshed ∧ world.row.ownedBy id = true) ∧
        ∃ error, world.persist codec id call account refreshed nowMs = world.fail id call error := by
  have readable := @claims_readable codec refreshed
  unfold World.persist
  split
  · rename_i error failed
    refine .inr ⟨?_, error, rfl⟩
    rintro ⟨reads, -⟩
    obtain ⟨claims, read⟩ := readable.mpr reads
    rw [failed] at read
    cases read
  · rename_i claims read
    have reads := readable.mp ⟨claims, read⟩
    dsimp only
    unfold AccountRow.persistCodexTokenRefresh
    split
    · rename_i lost
      split at lost
      · cases lost
      · rename_i unowned
        exact .inr ⟨fun both => unowned both.2, _, rfl⟩
    · rename_i row stored
      split at stored
      · rename_i owned
        cases stored
        refine .inl ⟨reads, owned, ?_, rfl, rfl, rfl⟩
        exact enter_phase
      · cases stored

theorem step_request {before after : World} {id : Nat} {answer : TokenAnswer}
    (taken : PrepareStep codec before (.request id answer) after) :
    ∃ call account, before.calls id = some call ∧ call.phase = .refreshing account ∧
      after = before.request id call account answer := by
  unfold PrepareStep step at taken
  dsimp only [Action.caller] at taken
  split at taken
  · rename_i call found
    simp only [stepCall] at taken
    split at taken
    · rename_i account refreshing
      cases taken
      exact ⟨call, account, found, refreshing, rfl⟩
    · cases taken
  · cases taken

theorem request_accepted {world : World} {id : Nat} {call : PrepareCall} {account : CodexOAuthAccount}
    {answer : TokenAnswer} {refreshed : RefreshTokenBundle}
    (accepted : refreshTokens answer = .ok refreshed) :
    (world.request id call account answer).phase id = some (.persisting account refreshed) := by
  unfold World.request
  rw [accepted]
  exact enter_phase

theorem request_refused {world : World} {id : Nat} {call : PrepareCall} {account : CodexOAuthAccount}
    {answer : TokenAnswer} {error : CodexOAuthError} (failed : refreshTokens answer = .error error) :
    (world.request id call account answer).phase id = some (.refused account error) := by
  unfold World.request
  rw [failed]
  exact enter_phase

theorem step_persisting {before after : World} {action : Action}
    (taken : PrepareStep codec before action after) {account : CodexOAuthAccount}
    {refreshed : RefreshTokenBundle}
    (there : before.phase action.caller = some (.persisting account refreshed)) :
    (∃ call nowMs, action = .persist action.caller nowMs ∧
        after = before.persist codec action.caller call account refreshed nowMs) ∨
      (∃ message, action = .databaseError action.caller message ∧
        after.phase action.caller = some (.failed (.database message))) ∨
      after.phase action.caller = some .dropped := by
  obtain ⟨call, found, phase⟩ := call_of_phase there
  have taken := stepCall_of_step taken found
  cases action with
  | persist id nowMs =>
    simp only [stepCall, phase, Option.some.injEq] at taken
    exact .inl ⟨call, nowMs, rfl, taken.symm⟩
  | databaseError id message =>
    simp only [stepCall, phase, Option.some.injEq] at taken
    subst taken
    exact .inr (.inl ⟨message, rfl, fail_phase⟩)
  | drop id =>
    simp only [stepCall, phase, Option.some.injEq] at taken
    subst taken
    exact .inr (.inr leave_phase)
  | _ => simp [stepCall, phase] at taken

end CodexGate.Oauth
