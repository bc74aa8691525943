import CodexGate.Oauth.Progress

namespace CodexGate.Oauth

open Foundation Routing

variable {codec : IdTokenCodec}

def Phase.returned : Phase → Bool
  | .prepared _ | .failed _ => true
  | _ => false

def RefreshKept (id : Nat) (account : CodexOAuthAccount) (refreshed : RefreshTokenBundle)
    (history : List (Transition World Action)) : Prop :=
  ∃ t ∈ history, t.action.caller = id ∧ stores t = true ∧ Saved account refreshed t.after.row

def LeaseHeld (id : Nat) (history : List (Transition World Action)) : Prop :=
  ∀ t ∈ history, ∀ nowMs, t.action = .persist id nowMs → t.before.row.ownedBy id = true

theorem stores_iff {t : Transition World Action} {id : Nat} {nowMs : Int}
    (acts : t.action = .persist id nowMs) : stores t = true ↔ t.after.phase id = some .persisted := by
  unfold stores World.phase
  rw [acts, Option.any_eq_true, Option.map_eq_some_iff]
  simp only [beq_iff_eq]

theorem persist_of_stores {t : Transition World Action} (stored : stores t = true) :
    ∃ nowMs, t.action = .persist t.action.caller nowMs := by
  unfold stores at stored
  split at stored
  · rename_i id nowMs acts
    rw [acts]
    exact ⟨nowMs, rfl⟩
  · cases stored

theorem run_persisting {start world : World} {history : List (Transition World Action)}
    (run : Execution (PrepareStep codec) start history world) {id : Nat} {account : CodexOAuthAccount}
    {refreshed : RefreshTokenBundle} (there : start.phase id = some (.persisting account refreshed)) :
    world.phase id = some (.persisting account refreshed) ∧ (∀ t ∈ history, t.action.caller ≠ id) ∨
      ∃ later t sooner, history = later ++ t :: sooner ∧ t.action.caller = id ∧
        t.before.phase id = some (.persisting account refreshed) ∧
        ∀ earlier ∈ sooner, earlier.action.caller ≠ id := by
  induction run with
  | start => exact .inl ⟨there, fun t none => absurd none List.not_mem_nil⟩
  | next run taken ih =>
    rename_i history before after action
    rcases ih with ⟨waits, quiet⟩ | ⟨later, t, sooner, rfl, own, waits, quiet⟩
    · by_cases own : action.caller = id
      · exact .inr ⟨[], ⟨before, action, after⟩, history, rfl, own, waits, quiet⟩
      · refine .inl ⟨(step_phase_of_ne taken (Ne.symm own)).trans waits, fun t member => ?_⟩
        rcases List.mem_cons.mp member with rfl | earlier
        · exact own
        · exact quiet t earlier
    · exact .inr ⟨_ :: later, t, sooner, rfl, own, waits, quiet⟩

/-- An answer is kept exactly if it can be read and the lease lasts until it is saved. -/
theorem refresh_kept_iff (codec : IdTokenCodec) {start world : World}
    {recent earlier : List (Transition World Action)} {t : Transition World Action} {id : Nat}
    {answer : TokenAnswer} {refreshed : RefreshTokenBundle} {account : CodexOAuthAccount}
    (run : Execution (PrepareStep codec) start (recent ++ t :: earlier) world)
    (asks : t.action = .request id answer) (refreshes : t.before.phase id = some (.refreshing account))
    (accepted : refreshTokens answer = .ok refreshed)
    (working : ∀ r ∈ recent, ∀ message, r.action ≠ .databaseError id message)
    (returned : ∃ phase, world.phase id = some phase ∧ phase.returned = true) :
    RefreshKept id account refreshed recent ↔ Readable codec refreshed ∧ LeaseHeld id recent := by
  obtain ⟨-, asked, run⟩ := run.split_at
  rw [asks] at asked
  obtain ⟨call, loaded, found, phase, next⟩ := step_request asked
  have answered : t.after.phase id = some (.persisting account refreshed) := by
    rw [phase_of_call found, phase] at refreshes
    cases refreshes
    rw [next]
    exact request_accepted accepted
  obtain ⟨phase, there, isReturned⟩ := returned
  rcases run_persisting run answered with ⟨waits, -⟩ | ⟨later, r, sooner, rfl, own, waits, quiet⟩
  · rw [waits] at there
    cases there
    cases isReturned
  obtain ⟨-, taken, after⟩ := run.split_at
  subst own
  rcases step_persisting taken waits with ⟨call, nowMs, acts, same⟩ | ⟨message, acts, -⟩ | dropped
  · -- This is the only persist of the call.
    have only : ∀ r' ∈ later ++ r :: sooner, ∀ nowMs, r'.action = .persist r.action.caller nowMs →
        ∀ phase, r.after.phase r.action.caller = some phase → phase.closed = true → r' = r := by
      intro r' member nowMs persists phase next closed
      rcases List.mem_append.mp member with inside | inside
      · exact absurd persists ((run_over after ⟨phase, next, closed⟩).2 r' inside nowMs)
      rcases List.mem_cons.mp inside with here | before
      · exact here
      · exact absurd (congrArg Action.caller persists) (quiet r' before)
    rcases @persist_cases codec r.before r.action.caller call account refreshed nowMs with
      ⟨reads, owned, persisted, saved⟩ | ⟨neither, error, failed⟩
    · rw [← same] at persisted saved
      refine iff_of_true ⟨r, List.mem_append_right _ (.head _), rfl, (stores_iff acts).mpr persisted, saved⟩
        ⟨reads, fun r' member nowMs persists => ?_⟩
      rw [only r' member nowMs persists _ persisted rfl]
      exact owned
    · rw [failed] at same
      have next : r.after.phase r.action.caller = some (.failed error) := by
        rw [same]
        exact fail_phase
      refine iff_of_false ?_ fun both => ?_
      · rintro ⟨r', member, own, stored, -⟩
        obtain ⟨nowMs', persists⟩ := persist_of_stores stored
        rw [own] at persists
        rw [only r' member nowMs' persists _ next rfl, stores_iff acts, next] at stored
        cases stored
      · exact neither ⟨both.1, both.2 r (List.mem_append_right _ (.head _)) nowMs acts⟩
  · exact absurd acts (working r (List.mem_append_right _ (.head _)) message)
  · have still := run_ended after rfl Phase.noConfusion dropped
    rw [still] at there
    cases there
    cases isReturned

def refreshCalls (answer : TokenAnswer) : List Action :=
  [.request 0 answer, .acquire 0, .load 0 100, .lock 0, .call 0 0 false false]

def renewed (idToken : Option String) : RefreshTokenBundle where
  accessToken := "access1"
  refreshToken := some "refresh1"
  idToken := idToken
  expiresInSeconds := 3600

def renewal (idToken : Option String) : TokenAnswer :=
  .granted { accessToken := "access1", refreshToken := some "refresh1", idToken := idToken, expiresIn := none }

/-- An answer without an ID token is kept. -/
theorem refresh_kept_plain : ∃ recent t earlier world,
    Execution (PrepareStep plainCodec) expiredWorld (recent ++ t :: earlier) world ∧
      t.action = .request 0 (renewal none) ∧
      RefreshKept 0 expiredWorld.row.findCodexOauthAccount (renewed none) recent := by
  have replayed : ∃ r₂ r₁ t earlier world,
      replay (step plainCodec) expiredWorld (.reload 0 :: .persist 0 150 :: refreshCalls (renewal none)) =
        some ([r₂, r₁] ++ t :: earlier, world) ∧
      r₂.action = .reload 0 ∧ r₁.action = .persist 0 150 ∧ t.action = .request 0 (renewal none) ∧
      t.before.phase 0 = some (.refreshing expiredWorld.row.findCodexOauthAccount) ∧
      r₁.before.row.ownedBy 0 = true ∧
      ∃ auth, world.phase 0 = some (.prepared auth) :=
    ⟨_, _, _, _, _, rfl, rfl, rfl, rfl, rfl, rfl, _, rfl⟩
  obtain ⟨r₂, r₁, t, earlier, world, ran, reloads, persists, asks, refreshes, owned, auth, prepared⟩ :=
    replayed
  refine ⟨[r₂, r₁], t, earlier, world, replay_run ran, asks, ?_⟩
  refine (refresh_kept_iff plainCodec (replay_run ran) asks refreshes rfl ?_ ⟨_, prepared, rfl⟩).mpr ⟨?_, ?_⟩
  · intro r member message
    rcases List.mem_pair.mp member with rfl | rfl
    · rw [reloads]
      exact Action.noConfusion
    · rw [persists]
      exact Action.noConfusion
  · rintro token ⟨⟩
  · intro r member nowMs acts
    rcases List.mem_pair.mp member with rfl | rfl
    · rw [reloads] at acts
      cases acts
    · exact owned

/-- An ID token that cannot be read costs the account the new refresh token and leaves the lease. -/
theorem refresh_lost_unreadable : ∃ recent t earlier world,
    Execution (PrepareStep plainCodec) expiredWorld (recent ++ t :: earlier) world ∧
      t.action = .request 0 (renewal (some "opaque")) ∧
      refreshTokens (renewal (some "opaque")) = .ok (renewed (some "opaque")) ∧
      (∃ error, world.phase 0 = some (.failed error) ∧ error.code = "id_token_invalid") ∧
      ¬RefreshKept 0 expiredWorld.row.findCodexOauthAccount (renewed (some "opaque")) recent ∧
      world.row.credentials.refreshToken = "refresh0" ∧ world.row.ownedBy 0 = true := by
  have replayed : ∃ r t earlier world,
      replay (step plainCodec) expiredWorld (.persist 0 150 :: refreshCalls (renewal (some "opaque"))) =
        some ([r] ++ t :: earlier, world) ∧
      t.action = .request 0 (renewal (some "opaque")) ∧
      (∃ error, world.phase 0 = some (.failed error) ∧ error.code = "id_token_invalid") ∧
      stores r = false ∧ world.row.credentials.refreshToken = "refresh0" ∧
      world.row.ownedBy 0 = true :=
    ⟨_, _, _, _, rfl, rfl, ⟨_, rfl, by decide⟩, by decide, rfl, rfl⟩
  obtain ⟨r, t, earlier, world, ran, asks, failed, unstored, token, owned⟩ := replayed
  refine ⟨[r], t, earlier, world, replay_run ran, asks, rfl, failed, ?_, token, owned⟩
  rintro ⟨r', member, -, stored, -⟩
  rw [List.mem_singleton.mp member, unstored] at stored
  cases stored

end CodexGate.Oauth
