import CodexGate.Foundation.Issuance
import CodexGate.Oauth.Keeping

namespace CodexGate.Oauth

open Foundation Routing

variable {codec : IdTokenCodec}

def issuedBy (t : Transition World Action) : Option String :=
  match t.action with
  | .request _ answer =>
    match refreshTokens answer with
    | .ok refreshed => some refreshed.accessToken
    | .error _ => none
  | _ => none

def issued (known : List String) : List (Transition World Action) → List String
  | [] => known
  | t :: earlier => (issuedBy t).toList ++ issued known earlier

theorem issued_append (known : List String) (recent earlier : List (Transition World Action)) :
    issued known (recent ++ earlier) = issued (issued known earlier) recent := by
  induction recent with
  | nil => rfl
  | cons t recent ih => rw [List.cons_append, issued, ih, issued]

theorem issuedBy_of_quiet {t : Transition World Action} (unasked : ∀ id answer, t.action ≠ .request id answer) :
    issuedBy t = none := by
  unfold issuedBy
  split
  · rename_i id answer asks
    exact absurd asks (unasked id answer)
  · rfl

def Phase.pending : Phase → Option String
  | .persisting _ refreshed => some refreshed.accessToken
  | _ => none

theorem pending_of_unanswered {phase : Phase} (quiet : phase.answered = false) : phase.pending = none := by
  cases phase with
  | persisting => cases quiet
  | _ => rfl

def World.issuance (known : List String) (world : World) : Issuance Nat String where
  stored := world.row.accessToken
  pending id := (world.phase id).bind Phase.pending
  known := known

theorem issuance_pending {world : World} {id : Nat} {phase : Phase} {known : List String}
    (there : world.phase id = some phase) : (world.issuance known).pending id = phase.pending := by
  unfold World.issuance
  dsimp only
  rw [there, Option.bind_some]

theorem issuance_after {before after : World} {action : Action} {known later : List String}
    (taken : PrepareStep codec before action after) {next : Phase}
    (there : after.phase action.caller = some next) :
    after.issuance later =
      { stored := after.row.accessToken
        pending := Function.update (before.issuance known).pending action.caller next.pending
        known := later } := by
  have pendings : (after.issuance later).pending =
      Function.update (before.issuance known).pending action.caller next.pending := by
    funext id
    by_cases own : id = action.caller
    · subst own
      rw [Function.update_self, issuance_pending there]
    · rw [Function.update_of_ne own]
      unfold World.issuance
      dsimp only
      rw [step_phase_of_ne taken own]
  rw [← pendings]
  rfl

theorem step_accessToken {before after : World} {action : Action}
    (taken : PrepareStep codec before action after) (unsaved : ∀ id nowMs, action ≠ .persist id nowMs) :
    after.row.accessToken = before.row.accessToken := by
  have row := step_row taken
  generalize after.row = now at row
  cases row with
  | same same => exact same.1
  | marked => rfl
  | stored id nowMs => exact absurd rfl (unsaved id nowMs)

theorem step_persist {before after : World} {id : Nat} {nowMs : Int}
    (taken : PrepareStep codec before (.persist id nowMs) after) :
    ∃ account refreshed, before.phase id = some (.persisting account refreshed) ∧
      (after.phase id = some .persisted ∧ after.row.accessToken = refreshed.accessToken ∨
        (∃ error, after.phase id = some (.failed error)) ∧
          after.row.accessToken = before.row.accessToken) := by
  unfold PrepareStep step at taken
  dsimp only [Action.caller] at taken
  split at taken
  · rename_i call found
    simp only [stepCall] at taken
    split at taken
    · rename_i account refreshed persisting
      cases taken
      refine ⟨account, refreshed, by rw [phase_of_call found, persisting], ?_⟩
      rcases @persist_cases codec before id call account refreshed nowMs with
        ⟨-, -, persisted, saved⟩ | ⟨-, error, failed⟩
      · exact .inl ⟨persisted, saved.accessToken⟩
      · rw [failed]
        exact .inr ⟨⟨error, fail_phase⟩, rfl⟩
    · cases taken
  · cases taken

theorem issuance_discard {before after : World} {action : Action} {known : List String}
    (taken : PrepareStep codec before action after) {next : Phase}
    (there : after.phase action.caller = some next) (quiet : next.pending = none)
    (row : after.row.accessToken = before.row.accessToken)
    (unissued : issuedBy ⟨before, action, after⟩ = none) :
    Issuance.Step (before.issuance known)
      (after.issuance ((issuedBy ⟨before, action, after⟩).toList ++ known)) := by
  have next := @issuance_after codec before after action known known taken _ there
  rw [quiet, row] at next
  rw [unissued]
  exact next ▸ Issuance.Step.discard action.caller

theorem issuance_step {before after : World} {action : Action} {known : List String}
    (taken : PrepareStep codec before action after)
    (fresh : ∀ token, issuedBy ⟨before, action, after⟩ = some token → token ∉ known) :
    Issuance.Step (before.issuance known)
      (after.issuance ((issuedBy ⟨before, action, after⟩).toList ++ known)) := by
  by_cases asks : ∃ id answer, action = .request id answer
  · obtain ⟨id, answer, rfl⟩ := asks
    have row := step_accessToken taken fun _ _ other => by cases other
    obtain ⟨call, account, found, refreshing, same⟩ := step_request taken
    cases answered : refreshTokens answer with
    | ok refreshed =>
      have brings : issuedBy ⟨before, .request id answer, after⟩ = some refreshed.accessToken := by
        simp only [issuedBy, answered]
      have there : after.phase id = some (.persisting account refreshed) := by
        rw [same]
        exact request_accepted answered
      have next := @issuance_after codec before after _ known (refreshed.accessToken :: known) taken _ there
      rw [row] at next
      have issue := @Issuance.Step.issue _ _ _ (before.issuance known) id _ (fresh _ brings)
      rw [brings]
      exact next ▸ issue
    | error error =>
      have there : after.phase id = some (.refused account error) := by
        rw [same]
        exact request_refused answered
      exact issuance_discard taken there rfl row (by simp only [issuedBy, answered])
  have unasked : ∀ id answer, action ≠ .request id answer := fun id answer same => asks ⟨id, answer, same⟩
  have unissued : issuedBy ⟨before, action, after⟩ = none := issuedBy_of_quiet unasked
  by_cases saves : ∃ id nowMs, action = .persist id nowMs
  · obtain ⟨id, nowMs, rfl⟩ := saves
    obtain ⟨account, refreshed, persisting, ⟨persisted, row⟩ | ⟨⟨error, failed⟩, row⟩⟩ := step_persist taken
    · have next := @issuance_after codec before after _ known known taken _ persisted
      rw [row] at next
      have received : (before.issuance known).pending id = some refreshed.accessToken :=
        issuance_pending persisting
      rw [unissued]
      exact next ▸ Issuance.Step.store id received
    · exact issuance_discard taken failed rfl row unissued
  have unsaved : ∀ id nowMs, action ≠ .persist id nowMs := fun id nowMs same => saves ⟨id, nowMs, same⟩
  obtain ⟨phase, there, quiet⟩ := step_unanswered taken unasked unsaved
  exact issuance_discard taken there (pending_of_unanswered quiet) (step_accessToken taken unsaved) unissued

/-- Nobody is about to store again what the row holds or a call has returned. -/
structure TokenLedger (known : List String) (world : World) : Prop where
  sound : (world.issuance known).Sound
  prepared : ∀ id auth, world.phase id = some (.prepared auth) →
    (world.issuance known).Settled auth.accessToken

theorem prepared_of_step {before after : World} {action : Action}
    (taken : PrepareStep codec before action after) {auth : PreparedCodexAuth}
    (prepared : after.phase action.caller = some (.prepared auth)) :
    action.reads = true ∧ auth = preparedAuth before.row.findCodexOauthAccount := by
  cases found : before.calls action.caller with
  | some call =>
    obtain ⟨next, move, calls⟩ := stepCall_moved (stepCall_of_step taken found)
    have there : after.phase action.caller = some next := by
      unfold World.phase
      rw [calls, Function.update_self, Option.map_some]
    rw [there] at prepared
    cases prepared
    cases move with
    | prepared reads => exact ⟨reads, rfl⟩
    | carried plain => cases plain
  | none =>
    unfold PrepareStep step at taken
    rw [found] at taken
    dsimp only at taken
    split at taken
    · cases taken
      simp [World.phase, Action.caller] at prepared
    · cases taken

theorem TokenLedger.step {before after : World} {action : Action} {known : List String}
    (ledger : TokenLedger known before) (taken : PrepareStep codec before action after)
    (fresh : ∀ token, issuedBy ⟨before, action, after⟩ = some token → token ∉ known) :
    TokenLedger ((issuedBy ⟨before, action, after⟩).toList ++ known) after := by
  have moved := issuance_step taken fresh
  refine ⟨ledger.sound.step moved, fun id auth prepared => ?_⟩
  by_cases own : id = action.caller
  · subst own
    obtain ⟨-, rfl⟩ := prepared_of_step taken prepared
    exact ledger.sound.settled.step moved
  · rw [step_phase_of_ne taken own] at prepared
    exact (ledger.prepared id auth prepared).step moved

theorem run_tokenLedger {start world : World} {history : List (Transition World Action)}
    (idle : Idle start) (run : Execution (PrepareStep codec) start history world)
    (fresh : (issued [start.row.accessToken] history).Nodup) :
    TokenLedger (issued [start.row.accessToken] history) world := by
  have uncalled : ∀ id, start.phase id = none := fun id => by rw [World.phase, idle.calls, Option.map_none]
  have unpending : ∀ known id, (start.issuance known).pending id = none := fun known id => by
    unfold World.issuance
    dsimp only
    rw [uncalled, Option.bind_none]
  induction run with
  | start =>
    refine ⟨⟨.head _, fun id token held => ?_, fun id other token held => ?_⟩, fun id auth prepared => ?_⟩
    · rw [unpending] at held
      cases held
    · rw [unpending] at held
      cases held
    · rw [uncalled] at prepared
      cases prepared
  | next run taken ih =>
    obtain ⟨-, kept, apart⟩ := List.nodup_append.mp fresh
    refine (ih kept).step taken fun token brings known => ?_
    exact apart token (by rw [brings]; exact .head _) token known rfl

def FindsRejected (id : Nat) (allowForbidden : Bool) (token : String) (t : Transition World Action) :
    Prop :=
  ∃ nowMs account, t.action = .poll id nowMs ∧ loadAccount t.before.row allowForbidden = .ok account ∧
    account.accessToken = token ∧
    account.tokenExpiresAtMs.any (fun expires => saturatingAddI64 nowMs refreshLeewayMs < expires) = true

structure Forced (id : Nat) (allowForbidden : Bool) (token : String)
    (history : List (Transition World Action)) (world : World) (call : PrepareCall) : Prop where
  found : world.calls id = some call
  forceRefresh : call.forceRefresh = true
  allowed : call.allowForbidden = allowForbidden
  persisted : call.phase = .persisted → world.row.accessToken ≠ token
  prepared : ∀ auth, call.phase = .prepared auth → auth.accessToken = token →
    ∃ t ∈ history, FindsRejected id allowForbidden token t

theorem persisted_of_step {before after : World} {action : Action}
    (taken : PrepareStep codec before action after)
    (persisted : after.phase action.caller = some .persisted) :
    ∃ id nowMs, action = .persist id nowMs := by
  by_cases asks : ∃ id answer, action = .request id answer
  · obtain ⟨id, answer, rfl⟩ := asks
    obtain ⟨call, account, -, -, rfl⟩ := step_request taken
    dsimp only [Action.caller] at persisted
    cases answered : refreshTokens answer with
    | ok refreshed =>
      rw [request_accepted answered] at persisted
      cases persisted
    | error error =>
      rw [request_refused answered] at persisted
      cases persisted
  by_contra saves
  obtain ⟨phase, there, quiet⟩ := step_unanswered taken (fun id answer same => asks ⟨id, answer, same⟩)
    (fun id nowMs same => saves ⟨id, nowMs, same⟩)
  rw [there] at persisted
  cases persisted
  cases quiet

theorem prepared_of_forced {before after : World} {action : Action} {call : PrepareCall}
    (taken : stepCall codec before action.caller call action = some after)
    (forced : call.forceRefresh = true) {auth : PreparedCodexAuth} (reads : action.reads = true)
    (prepared : after.phase action.caller = some (.prepared auth)) :
    call.phase = .persisted ∨
      ∃ nowMs account, action = .poll action.caller nowMs ∧
        loadAccount before.row call.allowForbidden = .ok account ∧ auth = preparedAuth account ∧
        account.tokenExpiresAtMs.any (fun expires => saturatingAddI64 nowMs refreshLeewayMs < expires) =
          true := by
  cases action with
  | load id nowMs =>
    simp only [stepCall] at taken
    split at taken
    · cases taken
      unfold World.load at prepared
      split at prepared
      · rw [show World.phase _ _ = _ from fail_phase] at prepared
        cases prepared
      · simp only [forced, Bool.not_true, Bool.false_and, Bool.false_eq_true, if_false] at prepared
        split at prepared
        · rw [show World.phase _ _ = _ from enter_phase] at prepared
          cases prepared
        · rw [show World.phase _ _ = _ from enter_phase] at prepared
          cases prepared
    · cases taken
  | poll id nowMs =>
    simp only [stepCall] at taken
    split at taken
    · cases taken
      unfold World.poll at prepared
      split at prepared
      · rw [show World.phase _ _ = _ from fail_phase] at prepared
        cases prepared
      · rename_i account loaded
        split at prepared
        · rename_i valid
          rw [show World.phase _ _ = _ from leave_phase] at prepared
          cases prepared
          exact .inr ⟨nowMs, account, rfl, loaded, rfl, valid⟩
        · split at prepared
          · rw [show World.phase _ _ = _ from enter_phase] at prepared
            cases prepared
          · unfold World.await at prepared
            split at prepared
            · rw [show World.phase _ _ = _ from fail_phase] at prepared
              cases prepared
            · rw [show World.phase _ _ = _ from enter_phase] at prepared
              cases prepared
    · cases taken
  | reload id =>
    simp only [stepCall] at taken
    split at taken
    · rename_i persisted
      exact .inl persisted
    · cases taken
  | _ => cases reads

theorem Forced.step {before after : World} {action : Action} {id : Nat} {allowForbidden : Bool}
    {token : String} {history : List (Transition World Action)} {call : PrepareCall} {known : List String}
    (kept : Forced id allowForbidden token history before call)
    (taken : PrepareStep codec before action after) (settled : (before.issuance known).Settled token)
    (fresh : ∀ token, issuedBy ⟨before, action, after⟩ = some token → token ∉ known) :
    ∃ call, Forced id allowForbidden token (⟨before, action, after⟩ :: history) after call := by
  by_cases own : id = action.caller
  · subst own
    have stepped := stepCall_of_step taken kept.found
    obtain ⟨next, -, calls⟩ := stepCall_moved stepped
    have found : after.calls action.caller = some { call with phase := next } := by
      rw [calls, Function.update_self]
    have there : after.phase action.caller = some next := phase_of_call found
    refine ⟨_, found, kept.forceRefresh, kept.allowed, ?_, ?_⟩
    · rintro rfl same
      obtain ⟨id, nowMs, rfl⟩ := persisted_of_step taken there
      obtain ⟨account, refreshed, persisting, ⟨-, row⟩ | ⟨⟨error, failed⟩, -⟩⟩ := step_persist taken
      · exact settled.unpending id ((issuance_pending persisting).trans (congrArg some (row.symm.trans same)))
      · rw [show after.phase id = _ from there] at failed
        cases failed
    · rintro auth rfl rfl
      obtain ⟨reads, same⟩ := prepared_of_step taken there
      rcases prepared_of_forced stepped kept.forceRefresh reads there with
        persisted | ⟨nowMs, account, polls, loaded, found, valid⟩
      · exact absurd (congrArg PreparedCodexAuth.accessToken same).symm (kept.persisted persisted)
      · rw [kept.allowed] at loaded
        exact ⟨_, .head _, nowMs, account, polls, loaded,
          (congrArg PreparedCodexAuth.accessToken found).symm, valid⟩
  · obtain ⟨moved, calls, -⟩ := step_calls taken
    refine ⟨call, ?_, kept.forceRefresh, kept.allowed, ?_, ?_⟩
    · rw [calls, Function.update_of_ne own, kept.found]
    · exact fun persisted => settled.replaced (issuance_step taken fresh) (kept.persisted persisted)
    · intro auth prepared same
      obtain ⟨t, member, finds⟩ := kept.prepared auth prepared same
      exact ⟨t, List.mem_cons_of_mem _ member, finds⟩

theorem run_forced {start world : World} {history : List (Transition World Action)} {id : Nat}
    {allowForbidden : Bool} {token : String} {call : PrepareCall} {known : List String}
    (run : Execution (PrepareStep codec) start history world)
    (forced : Forced id allowForbidden token [] start call)
    (settled : (start.issuance known).Settled token) (fresh : (issued known history).Nodup) :
    (world.issuance (issued known history)).Settled token ∧
      ∃ call, Forced id allowForbidden token history world call := by
  induction run with
  | start => exact ⟨settled, call, forced⟩
  | next run taken ih =>
    obtain ⟨-, unique, apart⟩ := List.nodup_append.mp fresh
    obtain ⟨settled, call, kept⟩ := ih unique
    have new : ∀ token, issuedBy ⟨_, _, _⟩ = some token → token ∉ issued known _ :=
      fun token brings before => apart token (by rw [brings]; exact .head _) token before rfl
    exact ⟨settled.step (issuance_step taken new), kept.step taken settled new⟩

theorem nodup_of_issued {known : List String} {history : List (Transition World Action)}
    (fresh : (issued known history).Nodup) : known.Nodup := by
  induction history with
  | nil => exact fresh
  | cons t earlier ih => exact ih (List.nodup_append.mp fresh).2.1

theorem step_call {before after : World} {id gateway : Nat} {forceRefresh allowForbidden : Bool}
    (taken : PrepareStep codec before (.call id gateway forceRefresh allowForbidden) after) :
    after.calls id = some
      { gateway := gateway, forceRefresh := forceRefresh, allowForbidden := allowForbidden
        phase := .queued } := by
  unfold PrepareStep step at taken
  dsimp only [Action.caller] at taken
  split at taken
  · cases taken
  · cases taken
    exact Function.update_self ..

theorem step_finds {before after : World} {action : Action} {id : Nat} {allowForbidden : Bool}
    {token : String} {call : PrepareCall} (taken : PrepareStep codec before action after)
    (found : before.calls id = some call) (allowed : call.allowForbidden = allowForbidden)
    (finds : FindsRejected id allowForbidden token ⟨before, action, after⟩) :
    ∃ auth, after.phase id = some (.prepared auth) ∧ auth.accessToken = token := by
  obtain ⟨nowMs, account, polls, loaded, rfl, valid⟩ := finds
  obtain rfl : action = .poll id nowMs := polls
  have stepped := stepCall_of_step taken found
  simp only [stepCall] at stepped
  split at stepped
  · cases stepped
    refine ⟨preparedAuth account, ?_, rfl⟩
    unfold World.poll
    rw [allowed, show loadAccount before.row _ = .ok account from loaded]
    dsimp only
    rw [if_pos valid]
    exact leave_phase
  · cases stepped

/-- A forced call returns the token that its caller was refused with exactly if one of its polls finds
it still stored, and not about to run out. -/
theorem forced_refresh_replaces_iff (codec : IdTokenCodec) {start world : World}
    {recent earlier : List (Transition World Action)} {t : Transition World Action}
    {id asker gateway : Nat} {allowForbidden : Bool} {rejected : PreparedCodexAuth} (idle : Idle start)
    (run : Execution (PrepareStep codec) start (recent ++ t :: earlier) world)
    (fresh : (issued [start.row.accessToken] (recent ++ t :: earlier)).Nodup)
    (obtained : t.before.phase asker = some (.prepared rejected))
    (asks : t.action = .call id gateway true allowForbidden) :
    (∀ auth, world.phase id = some (.prepared auth) → auth.accessToken ≠ rejected.accessToken) ↔
      ∀ r ∈ recent, ¬FindsRejected id allowForbidden rejected.accessToken r := by
  obtain ⟨before, asked, after⟩ := run.split_at
  have quiet : issuedBy t = none := issuedBy_of_quiet fun _ _ => by
    rw [asks]
    exact Action.noConfusion
  have unissued : issued [start.row.accessToken] (t :: earlier) = issued [start.row.accessToken] earlier := by
    rw [issued, quiet]
    rfl
  rw [issued_append, unissued] at fresh
  have ledger := run_tokenLedger idle before (nodup_of_issued fresh)
  have settled := (ledger.prepared asker rejected obtained).step (issuance_step asked fun token brings => by
    rw [show issuedBy ⟨_, _, _⟩ = _ from quiet] at brings
    cases brings)
  rw [show issuedBy ⟨_, _, _⟩ = _ from quiet] at settled
  rw [asks] at asked
  have forced : Forced id allowForbidden rejected.accessToken [] t.after _ :=
    ⟨step_call asked, rfl, rfl, Phase.noConfusion, fun auth is => Phase.noConfusion is⟩
  constructor
  · intro replaces r member finds
    obtain ⟨later, sooner, rfl⟩ := List.append_of_mem member
    obtain ⟨first, taken, last⟩ := after.split_at
    rw [issued_append] at fresh
    have unique := (List.nodup_append.mp (nodup_of_issued fresh)).2.1
    obtain ⟨-, call, kept⟩ := run_forced first forced settled unique
    obtain ⟨auth, prepared, same⟩ := step_finds taken kept.found kept.allowed finds
    exact replaces auth (run_ended last rfl Phase.noConfusion prepared) same
  · intro missed auth prepared same
    obtain ⟨-, call, kept⟩ := run_forced after forced settled fresh
    rw [phase_of_call kept.found, Option.some.injEq] at prepared
    obtain ⟨r, member, finds⟩ := kept.prepared auth prepared same
    exact missed r member finds

def validWorld : World :=
  { expiredWorld with row := { expiredWorld.row with tokenExpiresAtMs := some 3600000 } }

def obtainingCalls : List Action := [.load 0 100, .lock 0, .call 0 0 false false]

def refreshingCalls : List Action :=
  [.reload 2, .persist 2 250, .request 2 (renewal none), .acquire 2, .load 2 150, .lock 2]

theorem forced_refresh_replaces : ∃ recent t earlier world auth rejected,
    Execution (PrepareStep plainCodec) validWorld (recent ++ t :: earlier) world ∧
      t.before.phase 0 = some (.prepared rejected) ∧ t.action = .call 2 0 true false ∧
      world.phase 2 = some (.prepared auth) ∧ auth.accessToken ≠ rejected.accessToken := by
  have replayed : ∃ recent t earlier world auth rejected,
      replay (step plainCodec) validWorld
          (refreshingCalls ++ .call 2 0 true false :: obtainingCalls) = some (recent ++ t :: earlier, world) ∧
        recent.map (·.action) = refreshingCalls ∧
        (issued ["access0"] (recent ++ t :: earlier)).Nodup ∧
        t.before.phase 0 = some (.prepared rejected) ∧ t.action = .call 2 0 true false ∧
        world.phase 2 = some (.prepared auth) :=
    ⟨[_, _, _, _, _, _], _, _, _, _, _, rfl, rfl, by decide, rfl, rfl, rfl⟩
  obtain ⟨recent, t, earlier, world, auth, rejected, ran, actions, fresh, obtained, asks, prepared⟩ :=
    replayed
  refine ⟨recent, t, earlier, world, auth, rejected, replay_run ran, obtained, asks, prepared, ?_⟩
  refine (forced_refresh_replaces_iff plainCodec ⟨fun _ => rfl, rfl⟩ (replay_run ran) fresh obtained
    asks).mpr ?_ auth prepared
  rintro r member ⟨nowMs, account, polls, -⟩
  have listed : r.action ∈ refreshingCalls := by
    rw [← actions]
    exact List.mem_map_of_mem member
  rw [polls] at listed
  simp [refreshingCalls] at listed

def overlappingCalls : List Action :=
  [.acquire 1, .load 1 140, .lock 1, .call 1 1 true false]

/-- The call returns the token that its caller was refused with. -/
theorem forced_refresh_returns_rejected : ∃ recent t earlier world rejected,
    Execution (PrepareStep plainCodec) validWorld (recent ++ t :: earlier) world ∧ Idle validWorld ∧
      (issued [validWorld.row.accessToken] (recent ++ t :: earlier)).Nodup ∧
      t.before.phase 0 = some (.prepared rejected) ∧ t.action = .call 2 0 true false ∧
      world.phase 2 = some (.prepared rejected) := by
  have replayed : ∃ recent t earlier world rejected,
      replay (step plainCodec) validWorld
          ([.poll 2 400, .acquire 2, .load 2 150, .lock 2] ++
            .call 2 0 true false :: (overlappingCalls ++ obtainingCalls)) =
          some (recent ++ t :: earlier, world) ∧
        (issued ["access0"] (recent ++ t :: earlier)).Nodup ∧
        t.before.phase 0 = some (.prepared rejected) ∧ t.action = .call 2 0 true false ∧
        world.phase 2 = some (.prepared rejected) :=
    ⟨[_, _, _, _], _, _, _, _, rfl, by decide, rfl, rfl, rfl⟩
  obtain ⟨recent, t, earlier, world, rejected, ran, fresh, obtained, asks, prepared⟩ := replayed
  exact ⟨recent, t, earlier, world, rejected, replay_run ran, ⟨fun _ => rfl, rfl⟩, fresh, obtained, asks,
    prepared⟩

end CodexGate.Oauth
