import CodexGate.Oauth.Lease
import Mathlib.Data.Set.Basic

namespace CodexGate.Oauth

open Foundation Routing

variable {codec : IdTokenCodec}

/-! Only a persist that finds its lease changes the refresh token of the row. -/

section Rows

variable (world : World) (id : Nat) (call : PrepareCall)

@[simp] theorem enter_row (phase : Phase) : (world.enter id call phase).row = world.row := rfl

@[simp] theorem leave_row (phase : Phase) : (world.leave id call phase).row = world.row := rfl

@[simp] theorem fail_row (error : CodexOAuthError) : (world.fail id call error).row = world.row := rfl

@[simp] theorem await_row (left : Nat) : (world.await id call left).row = world.row := by
  unfold World.await
  split <;> rfl

@[simp] theorem load_row (nowMs : Int) : (world.load id call nowMs).row = world.row := by
  unfold World.load
  split
  · rfl
  · dsimp only
    split
    · rfl
    · split <;> rfl

@[simp] theorem poll_row (left : Nat) (nowMs : Int) :
    (world.poll id call left nowMs).row = world.row := by
  unfold World.poll
  split
  · rfl
  · split
    · rfl
    · split
      · rfl
      · exact await_row ..

@[simp] theorem acquire_credentials (account : CodexOAuthAccount) (nowMs : Int) (left : Nat) :
    (world.acquire id call account nowMs left).row.credentials = world.row.credentials := by
  unfold World.acquire
  split
  · rename_i row acquired
    unfold AccountRow.tryAcquireCodexRefreshLease at acquired
    split at acquired
    · cases acquired
      rfl
    · cases acquired
  · rw [await_row]

@[simp] theorem request_row (account : CodexOAuthAccount) (answer : TokenAnswer) :
    (world.request id call account answer).row = world.row := by
  unfold World.request
  split <;> rfl

@[simp] theorem release_row (error : CodexOAuthError) :
    (world.release id call error).row = world.row := by
  unfold World.release
  split <;> rfl

@[simp] theorem releaseLease_credentials (row : AccountRow) :
    (row.releaseCodexRefreshLease id).credentials = row.credentials := by
  unfold AccountRow.releaseCodexRefreshLease
  split <;> rfl

@[simp] theorem reload_row : (world.reload id call).row = world.row := by
  unfold World.reload
  split <;> rfl

theorem persist_credentials (account : CodexOAuthAccount) (refreshed : RefreshTokenBundle)
    (nowMs : Int) :
    (world.persist codec id call account refreshed nowMs).phase id = some .persisted ∨
      (world.persist codec id call account refreshed nowMs).row = world.row := by
  unfold World.persist
  split
  · exact .inr rfl
  · dsimp only
    split
    · exact .inr rfl
    · exact .inl (by simp [World.phase, World.enter])

end Rows

theorem step_credentials {before after : World} {action : Action}
    (taken : PrepareStep codec before action after) (other : stores ⟨before, action, after⟩ = false) :
    after.row.credentials = before.row.credentials := by
  unfold PrepareStep step at taken
  split at taken
  · rename_i call found
    cases action with
    | persist id nowMs =>
      simp only [stepCall, Action.caller] at taken
      split at taken
      · rename_i account refreshed persisting
        cases taken
        obtain stored | same := @persist_credentials codec before id call account refreshed
          nowMs
        · obtain ⟨call', found', phase⟩ := Option.map_eq_some_iff.mp stored
          simp [stores, found', phase] at other
        · rw [same]
      · cases taken
    | _ =>
      simp only [stepCall] at taken
      repeat' split at taken
      all_goals cases taken
      all_goals simp
      all_goals rfl
  · split at taken
    · cases taken
      rfl
    · cases taken

theorem row_stored {start world : World} {history : List (Transition World Action)}
    (run : Execution (PrepareStep codec) start history world) :
    world.row.credentials.refreshToken = storedToken start history := by
  induction run with
  | start => rfl
  | next run taken ih =>
    rename_i history before after action
    unfold storedToken
    cases stored : stores ⟨before, action, after⟩ with
    | true => rfl
    | false =>
      rw [step_credentials taken stored, ih]
      rfl

/-! Only the answer to a refresh request says that the refresh token was used before. -/

def Phase.error : Phase → Option CodexOAuthError
  | .refused _ error | .rejected error | .failed error => some error
  | _ => none

def World.error (world : World) (id : Nat) : Option CodexOAuthError :=
  (world.phase id).bind Phase.error

def reusedCode : String := "refresh_token_reused"

theorem error_of_call {world : World} {id : Nat} {call : PrepareCall}
    (found : world.calls id = some call) : world.error id = call.phase.error := by
  simp [World.error, World.phase, found]

/-- A call that fails because its refresh token was used before was about to fail so. -/
def Blameless (before after : World) : Prop :=
  ∀ id error, after.error id = some error → error.code = reusedCode → before.error id = some error

section Errors

variable {world : World} {id : Nat} {call : PrepareCall}

theorem blameless_enter {phase : Phase}
    (blameless : ∀ error, phase.error = some error → error.code = reusedCode →
      world.error id = some error) : Blameless world (world.enter id call phase) := by
  intro other error failed reused
  by_cases same : other = id
  · subst same
    have read : phase.error = some error := by
      simpa [World.error, World.phase, World.enter] using failed
    exact blameless error read reused
  · simpa [World.error, World.phase, World.enter, Function.update_of_ne same] using failed

theorem blameless_leave {phase : Phase}
    (blameless : ∀ error, phase.error = some error → error.code = reusedCode →
      world.error id = some error) : Blameless world (world.leave id call phase) :=
  blameless_enter blameless

theorem blameless_quiet {phase : Phase} (quiet : phase.error = none) :
    Blameless world (world.enter id call phase) :=
  blameless_enter fun error failed => by rw [quiet] at failed; cases failed

theorem blameless_fail {error : CodexOAuthError} (other : error.code ≠ reusedCode) :
    Blameless world (world.fail id call error) :=
  blameless_leave fun _ failed reused => by cases failed; exact absurd reused other

theorem loadAccount_code {row : AccountRow} {allowForbidden : Bool} {error : CodexOAuthError}
    (failed : loadAccount row allowForbidden = .error error) : error.code ≠ reusedCode := by
  unfold loadAccount at failed
  dsimp only at failed
  repeat' split at failed
  all_goals cases failed
  all_goals decide

theorem parseIdToken_code {token : String} {error : CodexOAuthError}
    (failed : parseIdToken codec token = .error error) : error.code ≠ reusedCode := by
  unfold parseIdToken at failed
  repeat' split at failed
  all_goals cases failed
  all_goals decide

theorem blameless_await (left : Nat) : Blameless world (world.await id call left) := by
  unfold World.await
  split
  · exact blameless_fail (by decide)
  · exact blameless_quiet rfl

theorem blameless_load (nowMs : Int) : Blameless world (world.load id call nowMs) := by
  unfold World.load
  split
  · rename_i error failed
    exact blameless_fail (loadAccount_code failed)
  · dsimp only
    split
    · exact blameless_quiet rfl
    · split
      · exact blameless_quiet rfl
      · exact blameless_quiet rfl

theorem blameless_poll (left : Nat) (nowMs : Int) :
    Blameless world (world.poll id call left nowMs) := by
  unfold World.poll
  split
  · rename_i error failed
    exact blameless_fail (loadAccount_code failed)
  · split
    · exact blameless_quiet rfl
    · split
      · exact blameless_quiet rfl
      · exact blameless_await left

theorem blameless_acquire (account : CodexOAuthAccount) (nowMs : Int) (left : Nat) :
    Blameless world (world.acquire id call account nowMs left) := by
  unfold World.acquire
  split
  · exact blameless_quiet rfl
  · exact blameless_await left

theorem blameless_request {account : CodexOAuthAccount} {answer : TokenAnswer}
    (fresh : ∀ error, refreshTokens answer = .error error → error.code ≠ reusedCode) :
    Blameless world (world.request id call account answer) := by
  unfold World.request
  split
  · rename_i error failed
    exact blameless_enter fun _ same reused => by
      cases same
      exact absurd reused (fresh error failed)
  · exact blameless_quiet rfl

theorem blameless_release {error : CodexOAuthError} (before : world.error id = some error) :
    Blameless world (world.release id call error) := by
  unfold World.release
  split
  · exact blameless_enter fun _ same _ => by cases same; exact before
  · exact blameless_leave fun _ same _ => by cases same; exact before

theorem blameless_persist (account : CodexOAuthAccount) (refreshed : RefreshTokenBundle)
    (nowMs : Int) : Blameless world (world.persist codec id call account refreshed nowMs) := by
  unfold World.persist
  split
  · rename_i error failed
    refine blameless_fail ?_
    cases given : refreshed.idToken.filter fun value => decide (trim value ≠ "") with
    | none => rw [given] at failed; cases failed
    | some value =>
      rw [given] at failed
      cases parsed : parseIdToken codec value with
      | error inner =>
        have mapped : (some value).mapM (parseIdToken codec) = .error inner := by
          show some <$> parseIdToken codec value = _
          rw [parsed]
          rfl
        rw [mapped] at failed
        cases failed
        exact parseIdToken_code parsed
      | ok claims =>
        have mapped : (some value).mapM (parseIdToken codec) = .ok (some claims) := by
          show some <$> parseIdToken codec value = _
          rw [parsed]
          rfl
        rw [mapped] at failed
        cases failed
  · dsimp only
    split
    · exact blameless_fail (by decide)
    · exact blameless_quiet rfl

theorem blameless_reload : Blameless world (world.reload id call) := by
  unfold World.reload
  split
  · rename_i error failed
    exact blameless_fail (loadAccount_code failed)
  · exact blameless_quiet rfl

end Errors

theorem blameless_step {before after : World} {action : Action}
    (taken : PrepareStep codec before action after)
    (fresh : ∀ token answer error, presented ⟨before, action, after⟩ = some (token, answer) →
      refreshTokens answer = .error error → error.code ≠ reusedCode) :
    Blameless before after := by
  unfold PrepareStep step at taken
  split at taken
  · rename_i call found
    have phase := phase_of_call found
    cases action with
    | call => cases taken
    | lock id =>
      simp only [stepCall] at taken
      split at taken
      · cases taken
        exact blameless_quiet rfl
      · cases taken
    | load id nowMs =>
      simp only [stepCall] at taken
      split at taken
      · cases taken
        exact blameless_load nowMs
      · cases taken
    | acquire id =>
      simp only [stepCall] at taken
      split at taken
      · cases taken
        exact blameless_acquire _ _ _
      · cases taken
    | poll id nowMs =>
      simp only [stepCall] at taken
      split at taken
      · cases taken
        exact blameless_poll _ _
      · cases taken
    | request id answer =>
      simp only [stepCall] at taken
      split at taken
      · rename_i account refreshing
        cases taken
        have presents : presented ⟨before, .request id answer, before.request id call account answer⟩ =
            some (account.credentials.refreshToken, answer) := by
          have phase : before.phase id = some call.phase := phase
          simp only [presented, phase, refreshing]
        exact blameless_request fun error failed => fresh _ answer error presents failed
      · cases taken
    | release id =>
      simp only [stepCall] at taken
      split at taken
      · rename_i account error refused
        cases taken
        exact @blameless_release { before with row := _ } _ call error
          ((error_of_call found).trans (by rw [refused]; rfl))
      · cases taken
    | mark id =>
      simp only [stepCall] at taken
      split at taken
      · cases taken
        exact @blameless_fail { before with row := _ } _ call _ (by decide)
      · rename_i error rejected
        cases taken
        exact @blameless_leave { before with row := _ } _ call _ fun _ same _ => by
          cases same
          exact (error_of_call found).trans (by rw [rejected]; rfl)
      · cases taken
    | persist id nowMs =>
      simp only [stepCall] at taken
      split at taken
      · cases taken
        exact blameless_persist _ _ _
      · cases taken
    | reload id =>
      simp only [stepCall] at taken
      split at taken
      · cases taken
        exact blameless_reload
      · cases taken
    | databaseError id message =>
      simp only [stepCall] at taken
      split at taken
      all_goals cases taken
      · rename_i account error refused
        exact blameless_release ((error_of_call found).trans (by rw [refused]; rfl))
      · rename_i error rejected
        exact blameless_leave fun _ same _ => by
          cases same
          exact (error_of_call found).trans (by rw [rejected]; rfl)
      · exact blameless_fail (show "oauth_database_error" ≠ reusedCode by decide)
    | drop id =>
      simp only [stepCall] at taken
      split at taken
      all_goals cases taken
      exact blameless_quiet rfl
  · split at taken
    · cases taken
      exact @blameless_quiet before _ (PrepareCall.mk _ _ _ .queued) .queued rfl
    · cases taken

/-- Every refresh request presents the token of the latest persist before it. -/
def PresentsStored (start : World) (history : List (Transition World Action)) : Prop :=
  ∀ recent t earlier, history = recent ++ t :: earlier →
    ∀ token answer, presented t = some (token, answer) → token = storedToken start earlier

def NeverReused (world : World) : Prop :=
  ∀ id error, world.error id = some error → error.code ≠ "refresh_token_reused"

def taken (spent : List String) : Set String := { token | token ∈ spent }

theorem request_spent {before after : World} {action : Action}
    (stepped : PrepareStep codec before action after) {token : String} {answer : TokenAnswer}
    {refreshed : RefreshTokenBundle} (presents : presented ⟨before, action, after⟩ = some (token, answer))
    (answered : refreshTokens answer = .ok refreshed) :
    after.spent = if (rotated refreshed).isSome then token :: before.spent else before.spent := by
  obtain ⟨id, call, account, acts, found, phase, same⟩ := request_of_presented presents
  have found : before.calls id = some call := found
  have acts : action = .request id answer := acts
  subst acts same
  have found : before.calls (Action.request id answer).caller = some call := found
  unfold PrepareStep step at stepped
  rw [found] at stepped
  simp only [stepCall, phase] at stepped
  cases stepped
  unfold World.request
  rw [answered]

theorem SingleUse.usable {before after : World} {action : Action}
    (single : SingleUse ⟨before, action, after⟩)
    (stepped : PrepareStep codec before action after) : Usable taken ⟨before, action, after⟩ := by
  intro token answer refreshed presents answered
  have honest := single token answer presents
  rw [answered] at honest
  obtain ⟨unspent, fresh⟩ := honest
  have spent := request_spent stepped presents answered
  change _ ∉ after.spent
  rw [spent]
  cases given : rotated refreshed with
  | none => simpa using unspent
  | some value => simpa using fresh value given

theorem SingleUse.unblamed {before after : World} {action : Action}
    (single : SingleUse ⟨before, action, after⟩) (sound : (before.custody taken).Sound)
    {token : String} {answer : TokenAnswer} {error : CodexOAuthError}
    (presents : presented ⟨before, action, after⟩ = some (token, answer))
    (failed : refreshTokens answer = .error error) : error.code ≠ reusedCode := by
  intro reused
  have honest := single token answer presents
  rw [failed] at honest
  obtain ⟨same, unspent⟩ := @sound_presented taken ⟨before, action, after⟩ sound token answer presents
  rw [← same] at unspent
  exact unspent (honest reused)

theorem never_reused {start world : World} {history : List (Transition World Action)}
    (idle : Idle start) (unspent : start.row.credentials.refreshToken ∉ start.spent)
    (run : Execution (PrepareStep codec) start history world)
    (kept : ∀ t ∈ history, LeaseKept t) (unraced : ∀ t ∈ history, Unraced t)
    (single : ∀ t ∈ history, SingleUse t) : NeverReused world := by
  induction run with
  | start =>
    intro id error failed
    simp [World.error, World.phase, idle.calls] at failed
  | next run stepped ih =>
    rename_i history before after action
    have earlier {P : Transition World Action → Prop}
        (all : ∀ t ∈ ⟨before, action, after⟩ :: history, P t) : ∀ t ∈ history, P t :=
      fun t member => all t (List.mem_cons_of_mem _ member)
    have usable : ∀ t ∈ history, Usable taken t := fun t member =>
      SingleUse.usable (earlier single t member) (run.taken member)
    have sound := custody_sound idle unspent run (earlier kept) (earlier unraced) usable
    have before := ih (earlier kept) (earlier unraced) (earlier single)
    intro id error failed reused
    have blamed := blameless_step stepped
      (fun _ _ _ presents => (single _ List.mem_cons_self).unblamed sound presents)
      id error failed reused
    exact before id error blamed reused

/-- While no lease runs out under its owner, refreshes present the stored token, and none is told that
its token was used, if a call that gets the lease has loaded the token that the row holds. -/
theorem refresh_presents_stored (codec : IdTokenCodec) {start world : World}
    {history : List (Transition World Action)} (idle : Idle start)
    (run : Execution (PrepareStep codec) start history world)
    (kept : ∀ t ∈ history, LeaseKept t) (unraced : ∀ t ∈ history, Unraced t) :
    PresentsStored start history ∧
      (start.row.credentials.refreshToken ∉ start.spent → (∀ t ∈ history, SingleUse t) →
        NeverReused world) := by
  refine ⟨?_, ?_⟩
  · intro recent t earlier same token answer presents
    subst same
    have within : ∀ t' ∈ earlier, t' ∈ recent ++ t :: earlier := fun t' member =>
      List.mem_append_right _ (List.mem_cons_of_mem _ member)
    have before := run.split_at.1
    have sound := @custody_sound codec (fun _ => ∅) _ _ _ idle (Set.notMem_empty _) before
      (fun t' member => kept t' (within t' member))
      (fun t' member => unraced t' (within t' member))
      (fun _ _ _ _ _ _ _ => Set.notMem_empty _)
    exact (sound_presented sound presents).1.trans (row_stored before)
  · exact fun unspent single => never_reused idle unspent run kept unraced single

def plainCodec : IdTokenCodec where
  base64 _ := none
  json _ := none

def expiredWorld : World where
  row :=
    { accessToken := "access0"
      credentials := { refreshToken := "refresh0", idToken := "", accountId := "account", email := "" }
      planType := none
      tokenExpiresAtMs := some 0
      lastRefreshAtMs := none
      authStatus := authStatusActive
      lastError := none
      refreshLease := none }
  calls _ := none
  locks _ := none
  spent := []

def rotation : TokenAnswer :=
  .granted
    { accessToken := "access1", refreshToken := some "refresh1", idToken := none, expiresIn := none }

def orderlyCalls : List Action :=
  [.load 1 200, .lock 1, .reload 0, .persist 0 150, .request 0 rotation, .acquire 0, .load 0 100,
    .lock 0, .call 1 1 false false, .call 0 0 false false]

theorem refresh_presents_stored_orderly : ∃ history world,
    Execution (PrepareStep plainCodec) expiredWorld history world ∧ history.length = 10 ∧
      PresentsStored expiredWorld history ∧ NeverReused world := by
  have replayed : ∃ run, replay (step plainCodec) expiredWorld orderlyCalls = some run ∧
      run.1.length = 10 ∧
      run.1.all (fun t => LeaseKept t ∧ Unraced t ∧ SingleUse t) = true := ⟨_, rfl, by decide⟩
  obtain ⟨⟨history, world⟩, ran, length, good⟩ := replayed
  have good : ∀ t ∈ history, LeaseKept t ∧ Unraced t ∧ SingleUse t := fun t member =>
    of_decide_eq_true (List.all_eq_true.mp good t member)
  have run := replay_run ran
  obtain ⟨stored, never⟩ := refresh_presents_stored plainCodec ⟨fun _ => rfl, rfl⟩ run
    (fun t member => (good t member).1) (fun t member => (good t member).2.1)
  exact ⟨history, world, run, length, stored,
    never (List.not_mem_nil) fun t member => (good t member).2.2⟩

def racingCalls : List Action :=
  [.mark 1, .release 1, .request 1 (.refused 400 (utf8Bytes "refresh_token_reused")), .acquire 1,
    .persist 0 150, .request 0 rotation, .acquire 0, .load 1 100, .load 0 100, .lock 1, .lock 0,
    .call 1 1 false false, .call 0 0 false false]

/-- A lease that was given back in between lets a loaded token be presented again. -/
theorem loaded_token_reused : ∃ history world,
    Execution (PrepareStep plainCodec) expiredWorld history world ∧ Idle expiredWorld ∧
      expiredWorld.row.credentials.refreshToken ∉ expiredWorld.spent ∧
      (∀ t ∈ history, LeaseKept t ∧ SingleUse t) ∧ ¬ PresentsStored expiredWorld history ∧
      ¬ NeverReused world ∧ world.row.authStatus = authStatusReauthRequired := by
  have replayed : ∃ run, replay (step plainCodec) expiredWorld racingCalls = some run ∧
      run.1.all (fun t => LeaseKept t ∧ SingleUse t) = true ∧
      (∃ recent t earlier answer, run.1 = recent ++ t :: earlier ∧
        presented t = some ("refresh0", answer) ∧ storedToken expiredWorld earlier = "refresh1") ∧
      (∃ error, run.2.error 1 = some error ∧ error.code = "refresh_token_reused") ∧
      run.2.row.authStatus = authStatusReauthRequired := by
    refine ⟨_, rfl, by decide, ?_, ⟨_, rfl, rfl⟩, by decide⟩
    exact ⟨[_, _], _, _, _, rfl, rfl, by decide⟩
  obtain ⟨⟨history, world⟩, ran, good, ⟨recent, t, earlier, answer, split, presents, stored⟩,
    ⟨error, failed, reused⟩, status⟩ := replayed
  refine ⟨history, world, replay_run ran, ⟨fun _ => rfl, rfl⟩, List.not_mem_nil, ?_, ?_, ?_,
    status⟩
  · exact fun t member => of_decide_eq_true (List.all_eq_true.mp good t member)
  · intro all
    have same := all recent t earlier split "refresh0" answer presents
    rw [stored] at same
    exact absurd same (by decide)
  · intro never
    exact never 1 error failed reused

end CodexGate.Oauth
