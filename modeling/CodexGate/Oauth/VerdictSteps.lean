import CodexGate.Oauth.Rotation
import CodexGate.Oauth.Verdicts

namespace CodexGate.Oauth

open Foundation Routing

variable {codec : IdTokenCodec}

def Phase.account : Phase → Option CodexOAuthAccount
  | .acquiring account _ _ | .refreshing account | .refused account _ | .persisting account _ =>
    some account
  | _ => none

def Action.reads : Action → Bool
  | .load .. | .poll .. | .reload _ => true
  | _ => false

def Phase.plain : Phase → Bool
  | .unusable | .refused .. | .rejected _ | .prepared _ => false
  | _ => true

/-- Where a step takes a call, and what it then knows. -/
inductive Move (row : AccountRow) (action : Action) (phase : Phase) : Phase → Prop
  | unusable (blank : trim row.credentials.refreshToken = "") : Move row action phase .unusable
  | loaded (reads : action.reads = true) (nowMs : Int) (left : Nat) :
    Move row action phase (.acquiring row.findCodexOauthAccount nowMs left)
  | prepared (reads : action.reads = true) :
    Move row action phase (.prepared (preparedAuth row.findCodexOauthAccount))
  | carried {next : Phase} (plain : next.plain = true)
      (same : ∀ account, next.account = some account →
        phase.account = some account ∧ action.reads = false) :
    Move row action phase next
  | refused (account : CodexOAuthAccount) (error : CodexOAuthError) (id : Nat) (answer : TokenAnswer)
      (requests : action = .request id answer) (before : phase = .refreshing account)
      (answered : refreshTokens answer = .error error) :
    Move row action phase (.refused account error)
  | rejected (account : CodexOAuthAccount) (error : CodexOAuthError)
      (before : phase = .refused account error) (quiet : action.reads = false) :
    Move row action phase (.rejected error)

section Moves

variable {world : World} {row : AccountRow} {id : Nat} {call : PrepareCall} {action : Action}

def Moved (row : AccountRow) (action : Action) (id : Nat) (call : PrepareCall)
    (before after : World) : Prop :=
  ∃ next, Move row action call.phase next ∧
    after.calls = Function.update before.calls id (some { call with phase := next })

theorem moved_enter {next : Phase} (move : Move row action call.phase next) :
    Moved row action id call world (world.enter id call next) := ⟨next, move, rfl⟩

theorem moved_leave {next : Phase} (move : Move row action call.phase next) :
    Moved row action id call world (world.leave id call next) := ⟨next, move, rfl⟩

theorem moved_fail (error : CodexOAuthError) :
    Moved row action id call world (world.fail id call error) :=
  moved_leave (.carried rfl fun account has => by cases has)

theorem moved_await (left : Nat) : Moved row action id call world (world.await id call left) := by
  unfold World.await
  split
  · exact moved_fail _
  · exact moved_enter (.carried rfl fun account has => by cases has)

theorem loadAccount_found {allowForbidden : Bool} {account : CodexOAuthAccount}
    (loaded : loadAccount row allowForbidden = .ok account) : account = row.findCodexOauthAccount := by
  unfold loadAccount at loaded
  dsimp only at loaded
  repeat' split at loaded
  all_goals cases loaded
  all_goals rfl

theorem moved_load (reads : action.reads = true) (nowMs : Int) :
    Moved world.row action id call world (world.load id call nowMs) := by
  unfold World.load
  split
  · exact moved_fail _
  · rename_i account loaded
    have found := loadAccount_found loaded
    subst found
    dsimp only
    split
    · exact moved_leave (.prepared reads)
    · split
      · rename_i blank
        exact moved_enter (.unusable blank)
      · exact moved_enter (.loaded reads _ _)

theorem moved_poll (reads : action.reads = true) (left : Nat) (nowMs : Int) :
    Moved world.row action id call world (world.poll id call left nowMs) := by
  unfold World.poll
  split
  · exact moved_fail _
  · rename_i account loaded
    have found := loadAccount_found loaded
    subst found
    split
    · exact moved_leave (.prepared reads)
    · split
      · exact moved_enter (.loaded reads _ _)
      · exact moved_await _

theorem moved_reload (reads : action.reads = true) :
    Moved world.row action id call world (world.reload id call) := by
  unfold World.reload
  split
  · exact moved_fail _
  · rename_i account loaded
    have found := loadAccount_found loaded
    subst found
    exact moved_leave (.prepared reads)

theorem moved_acquire {account : CodexOAuthAccount} {nowMs : Int} {left : Nat}
    (acquiring : call.phase = .acquiring account nowMs left) :
    Moved row (.acquire id) id call world (world.acquire id call account nowMs left) := by
  unfold World.acquire
  split
  · refine moved_enter (.carried rfl ?_)
    intro other is
    rw [acquiring]
    exact ⟨is, rfl⟩
  · exact moved_await _

theorem moved_request {account : CodexOAuthAccount} {answer : TokenAnswer}
    (refreshing : call.phase = .refreshing account) :
    Moved row (.request id answer) id call world (world.request id call account answer) := by
  unfold World.request
  split
  · rename_i error answered
    exact moved_enter (.refused account error id answer rfl refreshing answered)
  · refine ⟨_, .carried rfl ?_, rfl⟩
    intro other is
    rw [refreshing]
    exact ⟨is, rfl⟩

theorem moved_release {account : CodexOAuthAccount} {error : CodexOAuthError}
    (refused : call.phase = .refused account error) (quiet : action.reads = false) :
    Moved row action id call world (world.release id call error) := by
  unfold World.release
  split
  · exact moved_enter (.rejected account error refused quiet)
  · exact moved_fail _

theorem moved_persist (account : CodexOAuthAccount) (refreshed : RefreshTokenBundle) (nowMs : Int) :
    Moved row action id call world (world.persist codec id call account refreshed nowMs) := by
  unfold World.persist
  split
  · exact moved_fail _
  · dsimp only
    split
    · exact moved_fail _
    · exact ⟨.persisted, .carried rfl (fun account has => by cases has), rfl⟩

end Moves

theorem stepCall_moved {before after : World} {action : Action} {call : PrepareCall}
    (taken : stepCall codec before action.caller call action = some after) :
    Moved before.row action action.caller call before after := by
  cases action with
  | call => cases taken
  | lock id =>
    simp only [stepCall] at taken
    split at taken
    · cases taken
      exact ⟨.locked, .carried rfl (fun account has => by cases has), rfl⟩
    · cases taken
  | load id nowMs =>
    simp only [stepCall] at taken
    split at taken
    · cases taken
      exact moved_load rfl nowMs
    · cases taken
  | acquire id =>
    simp only [stepCall] at taken
    split at taken
    · rename_i acquiring
      cases taken
      exact moved_acquire acquiring
    · cases taken
  | poll id nowMs =>
    simp only [stepCall] at taken
    split at taken
    · cases taken
      exact moved_poll rfl _ nowMs
    · cases taken
  | request id answer =>
    simp only [stepCall] at taken
    split at taken
    · rename_i refreshing
      cases taken
      exact moved_request refreshing
    · cases taken
  | release id =>
    simp only [stepCall] at taken
    split at taken
    · rename_i refused
      cases taken
      exact moved_release refused rfl
    · cases taken
  | mark id =>
    simp only [stepCall] at taken
    split at taken
    · cases taken
      exact moved_fail _
    · cases taken
      exact moved_fail _
    · cases taken
  | persist id nowMs =>
    simp only [stepCall] at taken
    split at taken
    · cases taken
      exact moved_persist _ _ nowMs
    · cases taken
  | reload id =>
    simp only [stepCall] at taken
    split at taken
    · cases taken
      exact moved_reload rfl
    · cases taken
  | databaseError id message =>
    simp only [stepCall] at taken
    split at taken
    all_goals cases taken
    · rename_i refused
      exact moved_release refused rfl
    · exact moved_fail _
    · exact moved_fail _
  | drop id =>
    simp only [stepCall] at taken
    split at taken
    all_goals cases taken
    exact moved_leave (.carried rfl (fun account has => by cases has))

def SameAccount (before after : AccountRow) : Prop :=
  after.accessToken = before.accessToken ∧ after.credentials = before.credentials ∧
    after.authStatus = before.authStatus

theorem SameAccount.of_eq {before after : AccountRow} (same : after = before) :
    SameAccount before after := by
  subst same
  exact ⟨rfl, rfl, rfl⟩

inductive RowMove (before : World) : Action → AccountRow → Prop
  | same {action : Action} {row : AccountRow} (same : SameAccount before.row row) :
    RowMove before action row
  | marked (id : Nat) (phase : Phase) (error : String) (there : before.phase id = some phase)
      (cause : phase = .unusable ∨ ∃ error, phase = .rejected error) :
    RowMove before (.mark id) (before.row.updateCodexAuthStatus authStatusReauthRequired (some error))
  | stored (id : Nat) (nowMs : Int) (account : CodexOAuthAccount) (refreshed : RefreshTokenBundle)
      (claims : Option IdTokenClaims) (row : AccountRow)
      (there : before.phase id = some (.persisting account refreshed))
      (owned : before.row.ownedBy id = true)
      (credentials : row.credentials = World.refreshedCredentials account refreshed claims)
      (status : row.authStatus = account.authStatus) :
    RowMove before (.persist id nowMs) row

theorem RowMove.read {before : World} {action : Action} {row : AccountRow}
    (move : RowMove before action row) (reads : action.reads = true) : SameAccount before.row row := by
  cases move with
  | same same => exact same
  | marked => cases reads
  | stored => cases reads

theorem acquire_same {world : World} {id : Nat} {call : PrepareCall} {account : CodexOAuthAccount}
    {nowMs : Int} {left : Nat} :
    SameAccount world.row (world.acquire id call account nowMs left).row := by
  unfold World.acquire
  split
  · rename_i row acquired
    unfold AccountRow.tryAcquireCodexRefreshLease at acquired
    split at acquired
    · cases acquired
      exact ⟨rfl, rfl, rfl⟩
    · cases acquired
  · exact .of_eq (await_row ..)

theorem persist_moves {world : World} {id : Nat} {call : PrepareCall} {account : CodexOAuthAccount}
    {refreshed : RefreshTokenBundle} {nowMs : Int}
    (there : world.phase id = some (.persisting account refreshed)) :
    RowMove world (.persist id nowMs) (world.persist codec id call account refreshed nowMs).row := by
  unfold World.persist
  split
  · exact .same (.of_eq rfl)
  · rename_i claims _
    dsimp only
    split
    · exact .same (.of_eq rfl)
    · rename_i row stored
      unfold AccountRow.persistCodexTokenRefresh at stored
      split at stored
      · rename_i owned
        cases stored
        exact .stored id nowMs account refreshed claims _ there owned rfl rfl
      · cases stored

theorem step_row {before after : World} {action : Action}
    (taken : PrepareStep codec before action after) : RowMove before action after.row := by
  unfold PrepareStep step at taken
  split at taken
  · rename_i call found
    have there : before.phase action.caller = some call.phase := phase_of_call found
    cases action with
    | call => cases taken
    | persist id nowMs =>
      simp only [stepCall] at taken
      split at taken
      · rename_i account refreshed persisting
        cases taken
        rw [persisting] at there
        exact persist_moves there
      · cases taken
    | mark id =>
      simp only [stepCall] at taken
      split at taken
      · rename_i unusable
        cases taken
        exact .marked id _ _ there (.inl unusable)
      · rename_i error rejected
        cases taken
        exact .marked id _ _ there (.inr ⟨error, rejected⟩)
      · cases taken
    | acquire id =>
      simp only [stepCall] at taken
      split at taken
      · cases taken
        exact .same acquire_same
      · cases taken
    | release id =>
      simp only [stepCall] at taken
      split at taken
      · cases taken
        rw [release_row]
        unfold AccountRow.releaseCodexRefreshLease
        split
        · exact .same ⟨rfl, rfl, rfl⟩
        · exact .same (.of_eq rfl)
      · cases taken
    | lock | load | poll | request | reload | databaseError | drop =>
      simp only [stepCall] at taken
      repeat' split at taken
      all_goals cases taken
      all_goals exact .same (.of_eq (by simp))
  · split at taken
    · cases taken
      exact .same (.of_eq rfl)
    · cases taken

end CodexGate.Oauth
