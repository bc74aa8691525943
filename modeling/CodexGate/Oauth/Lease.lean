import CodexGate.Foundation.Custody
import CodexGate.Foundation.Execution
import CodexGate.Oauth.Refresh

namespace CodexGate.Oauth

open Foundation

variable {codec : IdTokenCodec}

abbrev PrepareStep (codec : IdTokenCodec) (before : World) (action : Action) (after : World) : Prop :=
  step codec before action = some after

def World.phase (world : World) (id : Nat) : Option Phase := (world.calls id).map (·.phase)

/-! What a step sends to the token endpoint, and what it does to the lease. -/

def presented (t : Transition World Action) : Option (String × TokenAnswer) :=
  match t.action with
  | .request id answer =>
    match t.before.phase id with
    | some (.refreshing account) => some (account.credentials.refreshToken, answer)
    | _ => none
  | _ => none

/-- The call that tries to take the lease, with the account it has loaded and its time. -/
def attempted (t : Transition World Action) : Option (Nat × CodexOAuthAccount × Int) :=
  match t.action with
  | .acquire id =>
    match t.before.phase id with
    | some (.acquiring account nowMs _) => some (id, account, nowMs)
    | _ => none
  | _ => none

def stores (t : Transition World Action) : Bool :=
  match t.action with
  | .persist id _ => (t.after.calls id).any (·.phase == .persisted)
  | _ => false

def storedToken (start : World) : List (Transition World Action) → String
  | [] => start.row.credentials.refreshToken
  | t :: earlier =>
    if stores t then t.after.row.credentials.refreshToken else storedToken start earlier

def LeaseKept (t : Transition World Action) : Prop :=
  ∀ id account nowMs, attempted t = some (id, account, nowMs) →
    ∀ lease ∈ t.before.row.refreshLease, lease.owner ≠ id → nowMs < lease.untilMs

def Unraced (t : Transition World Action) : Prop :=
  ∀ id account nowMs, attempted t = some (id, account, nowMs) →
    (t.before.row.tryAcquireCodexRefreshLease id (saturatingAddI64 nowMs refreshLeaseMs)
      nowMs).isSome = true →
    account.credentials.refreshToken = t.before.row.credentials.refreshToken

/-- The endpoint takes a refresh token once, and says that a token was used only if it was. -/
def Honest (spent : List String) (token : String) : Except CodexOAuthError RefreshTokenBundle → Prop
  | .ok refreshed => token ∉ spent ∧ ∀ fresh ∈ rotated refreshed, fresh ∉ token :: spent
  | .error error => error.code = "refresh_token_reused" → token ∈ spent

def SingleUse (t : Transition World Action) : Prop :=
  ∀ token answer, presented t = some (token, answer) →
    Honest t.before.spent token (refreshTokens answer)

instance (spent : List String) (token : String) : ∀ answer, Decidable (Honest spent token answer)
  | .ok refreshed => inferInstanceAs (Decidable (token ∉ spent ∧ ∀ fresh ∈ rotated refreshed, _))
  | .error error => inferInstanceAs (Decidable (error.code = "refresh_token_reused" → token ∈ spent))

instance (t : Transition World Action) : Decidable (LeaseKept t) :=
  decidable_of_iff (∀ attempt ∈ attempted t, ∀ lease ∈ t.before.row.refreshLease,
      lease.owner ≠ attempt.1 → attempt.2.2 < lease.untilMs)
    ⟨fun kept id account nowMs tries => kept (id, account, nowMs) tries,
      fun kept (id, account, nowMs) tries => kept id account nowMs tries⟩

instance (t : Transition World Action) : Decidable (Unraced t) :=
  decidable_of_iff (∀ attempt ∈ attempted t,
      (t.before.row.tryAcquireCodexRefreshLease attempt.1
        (saturatingAddI64 attempt.2.2 refreshLeaseMs) attempt.2.2).isSome = true →
      attempt.2.1.credentials.refreshToken = t.before.row.credentials.refreshToken)
    ⟨fun same id account nowMs tries => same (id, account, nowMs) tries,
      fun same (id, account, nowMs) tries => same id account nowMs tries⟩

instance (t : Transition World Action) : Decidable (SingleUse t) :=
  decidable_of_iff (∀ request ∈ presented t,
      Honest t.before.spent request.1 (refreshTokens request.2))
    ⟨fun single token answer presents => single (token, answer) presents,
      fun single (token, answer) presents => single token answer presents⟩

structure Idle (world : World) : Prop where
  calls : ∀ id, world.calls id = none
  lease : world.row.refreshLease = none

def Phase.custodian : Phase → Custodian String
  | .queued | .locked | .unusable | .acquiring .. | .waiting _ => .outside
  | .refreshing account | .refused account _ => .presenting account.credentials.refreshToken
  | .persisting account refreshed =>
    .exchanged ((rotated refreshed).getD account.credentials.refreshToken)
  | .rejected _ | .persisted | .prepared _ | .failed _ | .dropped => .past

/-- `used` says which tokens count as spent when the endpoint has taken those of a list. -/
def World.custody (used : List String → Set String) (world : World) : Custody Nat String where
  stored := world.row.credentials.refreshToken
  spent := used world.spent
  holder := world.row.refreshLease.map (·.owner)
  role id := ((world.calls id).map (·.phase.custodian)).getD .outside

variable {used : List String → Set String}

def Usable (used : List String → Set String) (t : Transition World Action) : Prop :=
  ∀ token answer refreshed, presented t = some (token, answer) →
    refreshTokens answer = .ok refreshed → (rotated refreshed).getD token ∉ used t.after.spent

section Calls

variable {world : World} {id : Nat} {call : PrepareCall}

theorem role_of_call (found : world.calls id = some call) :
    (world.custody used).role id = call.phase.custodian := by
  simp [World.custody, found]

theorem custody_enter (phase : Phase) :
    (world.enter id call phase).custody used =
      (world.custody used).turn id phase.custodian := by
  unfold World.custody World.enter Custody.turn
  congr 1
  funext other
  by_cases same : other = id
  · subst same
    simp only [Function.update_self, Option.map_some, Option.getD_some]
  · simp only [Function.update_of_ne same]

theorem custody_leave (phase : Phase) :
    (world.leave id call phase).custody used =
      (world.custody used).turn id phase.custodian := by
  have same : (world.leave id call phase).custody used = (world.enter id call phase).custody used :=
    rfl
  rw [same, custody_enter]

theorem custody_stay (found : world.calls id = some call) {phase : Phase}
    (same : phase.custodian = call.phase.custodian) :
    Custody.Step (world.custody used) ((world.enter id call phase).custody used) := by
  rw [custody_enter, same, Custody.turn_same (role_of_call found)]
  exact .idle

theorem custody_end {phase : Phase} (past : phase.custodian = .past) :
    Custody.Step (world.custody used) ((world.leave id call phase).custody used) := by
  rw [custody_leave, past]
  exact .abandon id

theorem custody_past {phase : Phase} (past : phase.custodian = .past) :
    Custody.Step (world.custody used) ((world.enter id call phase).custody used) :=
  custody_end past

variable (found : world.calls id = some call)
include found

theorem custody_await (outside : call.phase.custodian = .outside) (left : Nat) :
    Custody.Step (world.custody used) ((world.await id call left).custody used) := by
  unfold World.await
  split
  · exact custody_end rfl
  · exact custody_stay found outside.symm

theorem custody_load (outside : call.phase.custodian = .outside) (nowMs : Int) :
    Custody.Step (world.custody used) ((world.load id call nowMs).custody used) := by
  unfold World.load
  split
  · exact custody_end rfl
  · dsimp only
    split
    · exact custody_end rfl
    · split
      · exact custody_stay found outside.symm
      · exact custody_stay found outside.symm

theorem custody_poll (outside : call.phase.custodian = .outside) (left : Nat) (nowMs : Int) :
    Custody.Step (world.custody used) ((world.poll id call left nowMs).custody used) := by
  unfold World.poll
  split
  · exact custody_end rfl
  · split
    · exact custody_end rfl
    · split
      · exact custody_stay found outside.symm
      · exact custody_await found outside left

theorem custody_acquire {account : CodexOAuthAccount} {nowMs : Int} {left : Nat}
    (acquiring : call.phase = .acquiring account nowMs left)
    (kept : ∀ lease ∈ world.row.refreshLease, lease.owner ≠ id → nowMs < lease.untilMs)
    (same : (world.row.tryAcquireCodexRefreshLease id (saturatingAddI64 nowMs refreshLeaseMs)
      nowMs).isSome = true → account.credentials.refreshToken = world.row.credentials.refreshToken) :
    Custody.Step (world.custody used) ((world.acquire id call account nowMs left).custody used) := by
  have outside : call.phase.custodian = .outside := by rw [acquiring]; rfl
  unfold World.acquire
  split
  · rename_i row acquired
    rw [acquired] at same
    unfold AccountRow.tryAcquireCodexRefreshLease at acquired
    split at acquired
    · rename_i available
      cases acquired
      have free : ∀ other, (world.custody used).holder = some other → other = id := by
        intro other held
        obtain ⟨lease, there, owner⟩ := Option.map_eq_some_iff.mp held
        rw [there, Option.all_some, Bool.or_eq_true, decide_eq_true_eq, beq_iff_eq] at available
        by_contra different
        subst owner
        have later := kept lease there different
        obtain past | own := available
        · omega
        · exact different own
      have entered := @custody_enter used world id call (.refreshing account)
      have presenting : (Phase.refreshing account).custodian =
          .presenting (world.custody used).stored := congrArg Custodian.presenting (same rfl)
      rw [presenting] at entered
      have after := congrArg (fun custody => { custody with holder := some id }) entered
      have step := Custody.Step.take id ((role_of_call found).trans outside) free
      rw [← after] at step
      exact step
    · cases acquired
  · exact custody_await found outside left

theorem custody_request {account : CodexOAuthAccount} {answer : TokenAnswer}
    (refreshing : call.phase = .refreshing account)
    (usable : ∀ refreshed, refreshTokens answer = .ok refreshed →
      (rotated refreshed).getD account.credentials.refreshToken ∉
        used (world.request id call account answer).spent) :
    Custody.Step (world.custody used) ((world.request id call account answer).custody used) := by
  have presents : (world.custody used).role id = .presenting account.credentials.refreshToken := by
    rw [role_of_call found, refreshing]
    rfl
  unfold World.request at usable ⊢
  cases answered : refreshTokens answer with
  | error error => exact custody_stay found (by rw [refreshing]; rfl)
  | ok refreshed =>
    have unused := usable refreshed answered
    rw [answered] at unused
    have step := Custody.Step.exchange id presents unused
    have entered := @custody_enter used world id call (.persisting account refreshed)
    have after := congrArg (fun custody : Custody Nat String => { custody with
      spent := used (if (rotated refreshed).isSome then
        account.credentials.refreshToken :: world.spent else world.spent) }) entered
    exact (congrArg (Custody.Step _) after).mpr step

theorem custody_release {account : CodexOAuthAccount} {error : CodexOAuthError}
    (refused : call.phase = .refused account error) :
    Custody.Step (world.custody used)
      (({ world with row := world.row.releaseCodexRefreshLease id }.release id call
        error).custody used) := by
  have presents : (world.custody used).role id = .presenting account.credentials.refreshToken := by
    rw [role_of_call found, refused]
    rfl
  have isOver : ∀ row : AccountRow,
      ({ world with row := row }.release id call error).custody used =
        ({ world with row := row }.custody used).turn id .past := by
    intro row
    unfold World.release
    split
    · rw [custody_enter]
      rfl
    · exact custody_leave _
  rw [isOver]
  unfold AccountRow.releaseCodexRefreshLease
  split
  · exact .release id presents
  · exact .abandon id

theorem custody_persist {account : CodexOAuthAccount} {refreshed : RefreshTokenBundle}
    (persisting : call.phase = .persisting account refreshed) (nowMs : Int) :
    Custody.Step (world.custody used)
      ((world.persist codec id call account refreshed nowMs).custody used) := by
  have received : (world.custody used).role id =
      .exchanged ((rotated refreshed).getD account.credentials.refreshToken) := by
    rw [role_of_call found, persisting]
    rfl
  unfold World.persist
  split
  · exact custody_end rfl
  · dsimp only
    split
    · exact custody_end rfl
    · rename_i row stored
      unfold AccountRow.persistCodexTokenRefresh at stored
      split at stored
      · cases stored
        have step := Custody.Step.store id received
        have entered := @custody_enter used world id call .persisted
        have after := congrArg (fun custody : Custody Nat String => { custody with
          holder := none
          stored := (rotated refreshed).getD account.credentials.refreshToken }) entered
        exact (congrArg (Custody.Step _) after).mpr step
      · cases stored

omit found in
theorem custody_reload :
    Custody.Step (world.custody used) ((world.reload id call).custody used) := by
  unfold World.reload
  split
  · exact custody_end rfl
  · exact custody_end rfl

end Calls

theorem phase_of_call {world : World} {id : Nat} {call : PrepareCall}
    (found : world.calls id = some call) : world.phase id = some call.phase := by
  simp [World.phase, found]

theorem custody_stepCall {before after : World} {action : Action} {call : PrepareCall}
    (found : before.calls action.caller = some call)
    (taken : stepCall codec before action.caller call action = some after)
    (kept : LeaseKept ⟨before, action, after⟩) (unraced : Unraced ⟨before, action, after⟩)
    (usable : Usable used ⟨before, action, after⟩) :
    Custody.Step (before.custody used) (after.custody used) := by
  have phase := phase_of_call found
  cases action with
  | call => cases taken
  | lock id =>
    simp only [stepCall] at taken
    split at taken
    · rename_i queued
      cases taken
      exact custody_stay found (by rw [queued.1]; rfl)
    · cases taken
  | load id nowMs =>
    simp only [stepCall] at taken
    split at taken
    · rename_i locked
      cases taken
      exact custody_load found (by rw [locked]; rfl) nowMs
    · cases taken
  | acquire id =>
    simp only [stepCall] at taken
    split at taken
    · rename_i account nowMs left acquiring
      cases taken
      have tries : attempted ⟨before, .acquire id, before.acquire id call account nowMs left⟩ =
          some (id, account, nowMs) := by
        have phase : before.phase id = some call.phase := phase
        simp only [attempted, phase, acquiring]
      exact custody_acquire found acquiring (kept id account nowMs tries)
        (unraced id account nowMs tries)
    · cases taken
  | poll id nowMs =>
    simp only [stepCall] at taken
    split at taken
    · rename_i left waiting
      cases taken
      exact custody_poll found (by rw [waiting]; rfl) (left - 1) nowMs
    · cases taken
  | request id answer =>
    simp only [stepCall] at taken
    split at taken
    · rename_i account refreshing
      cases taken
      have presents : presented ⟨before, .request id answer, before.request id call account answer⟩ =
          some (account.credentials.refreshToken, answer) := by
        have phase : before.phase id = some call.phase := phase
        simp only [presented, phase, refreshing]
      exact custody_request found refreshing fun refreshed answered =>
        usable _ answer refreshed presents answered
    · cases taken
  | release id =>
    simp only [stepCall] at taken
    split at taken
    · rename_i account error refused
      cases taken
      exact custody_release found refused
    · cases taken
  | mark id =>
    simp only [stepCall] at taken
    split at taken
    · cases taken
      exact custody_end rfl
    · cases taken
      exact custody_end rfl
    · cases taken
  | persist id nowMs =>
    simp only [stepCall] at taken
    split at taken
    · rename_i account refreshed persisting
      cases taken
      exact custody_persist found persisting nowMs
    · cases taken
  | reload id =>
    simp only [stepCall] at taken
    split at taken
    · cases taken
      exact custody_reload
    · cases taken
  | databaseError id message =>
    simp only [stepCall] at taken
    split at taken
    all_goals cases taken
    · rename_i account error refused
      unfold World.release
      split
      · exact custody_past rfl
      · exact custody_end rfl
    · exact custody_end rfl
    · exact custody_end rfl
  | drop id =>
    simp only [stepCall] at taken
    split at taken
    all_goals cases taken
    exact custody_end rfl

theorem custody_step {before after : World} {action : Action}
    (taken : PrepareStep codec before action after) (kept : LeaseKept ⟨before, action, after⟩)
    (unraced : Unraced ⟨before, action, after⟩) (usable : Usable used ⟨before, action, after⟩) :
    Custody.Step (before.custody used) (after.custody used) := by
  unfold PrepareStep step at taken
  split at taken
  · rename_i call found
    exact custody_stepCall found taken kept unraced usable
  · rename_i fresh
    split at taken
    · rename_i id gateway forceRefresh allowForbidden
      cases taken
      have outside : (before.custody used).role id = .outside := by
        have fresh : before.calls id = none := fresh
        simp [World.custody, fresh]
      have entered := @custody_enter used before id
        { gateway := gateway, forceRefresh := forceRefresh, allowForbidden := allowForbidden,
          phase := .queued } .queued
      rw [show Phase.queued.custodian = .outside from rfl, Custody.turn_same outside] at entered
      exact (congrArg (Custody.Step _) entered).mpr .idle
    · cases taken

theorem custody_sound {start world : World} {history : List (Transition World Action)}
    (idle : Idle start) (good : start.row.credentials.refreshToken ∉ used start.spent)
    (run : Execution (PrepareStep codec) start history world)
    (kept : ∀ t ∈ history, LeaseKept t) (unraced : ∀ t ∈ history, Unraced t)
    (usable : ∀ t ∈ history, Usable used t) : (world.custody used).Sound := by
  induction run with
  | start =>
    refine ⟨?_, ?_, ?_, fun _ => good⟩
    · intro id token role
      simp [World.custody, idle.calls] at role
    · intro id token role
      simp [World.custody, idle.calls] at role
    · intro id _
      simp [World.custody, idle.lease]
  | next run taken ih =>
    have sound := ih (fun t member => kept t (List.mem_cons_of_mem _ member))
      (fun t member => unraced t (List.mem_cons_of_mem _ member))
      (fun t member => usable t (List.mem_cons_of_mem _ member))
    exact sound.step (custody_step taken (kept _ List.mem_cons_self) (unraced _ List.mem_cons_self)
      (usable _ List.mem_cons_self))

theorem request_of_presented {t : Transition World Action} {token : String} {answer : TokenAnswer}
    (presents : presented t = some (token, answer)) :
    ∃ id call account, t.action = .request id answer ∧ t.before.calls id = some call ∧
      call.phase = .refreshing account ∧ token = account.credentials.refreshToken := by
  unfold presented at presents
  split at presents
  · rename_i id answer' acts
    split at presents
    · rename_i account refreshing
      cases presents
      obtain ⟨call, found, phase⟩ := Option.map_eq_some_iff.mp refreshing
      exact ⟨id, call, account, acts, found, phase, rfl⟩
    · cases presents
  · cases presents

theorem sound_presented {t : Transition World Action} (sound : (t.before.custody used).Sound)
    {token : String} {answer : TokenAnswer} (presents : presented t = some (token, answer)) :
    token = t.before.row.credentials.refreshToken ∧
      t.before.row.credentials.refreshToken ∉ used t.before.spent := by
  obtain ⟨id, call, account, _, found, phase, same⟩ := request_of_presented presents
  subst same
  have role : (t.before.custody used).role id = .presenting account.credentials.refreshToken := by
    rw [role_of_call found, phase]
    rfl
  exact (sound.presenting id _ role).2

end CodexGate.Oauth
