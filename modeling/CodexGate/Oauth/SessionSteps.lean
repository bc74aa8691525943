import CodexGate.Oauth.Sessions

namespace CodexGate.Oauth

open Foundation

def SessionRecord.Engaged (record : SessionRecord) : Prop :=
  match record.flowData with
  | .device .. => True
  | .browser _ _ callbackClaimed => callbackClaimed = true

structure Evolves (record later : SessionRecord) : Prop where
  target : later.target = record.target
  settled : record.status ≠ .pending → later.status = record.status
  engaged : record.Engaged → later.Engaged

namespace SessionRecord

theorem evolves_refl (record : SessionRecord) : Evolves record record := ⟨rfl, fun _ => rfl, id⟩

theorem evolves_observe (record : SessionRecord) (nowMs : Int) :
    Evolves record (record.observe nowMs) := by
  unfold observe
  split
  · rename_i expires
    exact ⟨rfl, fun settled => absurd expires.1 settled, id⟩
  · exact record.evolves_refl

theorem evolves_cancel (record : SessionRecord) (nowMs : Int) :
    Evolves record (record.cancel nowMs) := by
  unfold cancel
  split
  · rename_i cancels
    exact ⟨rfl, fun settled => absurd cancels.1 settled, id⟩
  · exact record.evolves_refl

theorem evolves_markStage (record : SessionRecord) (stage : SessionStage) :
    Evolves record (record.markStage stage) := by
  unfold markStage
  split
  · exact record.evolves_refl
  · exact ⟨rfl, fun _ => rfl, id⟩

theorem evolves_markError (record : SessionRecord) (status : SessionStatus) (code : String)
    (nowMs : Int) : Evolves record (record.markError status code nowMs) := by
  unfold markError
  split
  · exact record.evolves_refl
  · rename_i isPending
    exact ⟨rfl, fun settled => absurd settled isPending, id⟩

theorem pending_of_not_cancelled {record : SessionRecord} (running : record.cancelled = false) :
    record.status = .pending ∧ record.cancelRequested = false := by
  unfold cancelled at running
  obtain ⟨isPending, notRequested⟩ := Bool.or_eq_false_iff.mp running
  exact ⟨not_not.mp (of_decide_eq_false isPending), notRequested⟩

theorem evolves_markCompleted (record : SessionRecord) (keyId nowMs : Int) :
    Evolves record (record.markCompleted keyId nowMs) := by
  unfold markCompleted
  split
  · exact record.evolves_refl
  · rename_i running
    have isPending := (pending_of_not_cancelled (Bool.not_eq_true _ ▸ running)).1
    exact ⟨rfl, fun settled => absurd isPending settled, id⟩

inductive Claimed (record : SessionRecord) (callback : BrowserCallback) (nowMs : Int) :
    SessionRecord × Except String (String × String) → Prop
  | refused (error : String) : Claimed record callback nowMs (record, .error error)
  | expired (state codeVerifier : String) (callbackClaimed : Bool)
      (flow : record.flowData = .browser state codeVerifier callbackClaimed)
      (same : state = callback.state) (isPending : record.status = .pending)
      (late : record.expiresAtMs ≤ nowMs) :
    Claimed record callback nowMs (record.expire nowMs, .error "oauth_session_expired")
  | failed (state codeVerifier : String) (flow : record.flowData = .browser state codeVerifier false)
      (same : state = callback.state) (isPending : record.status = .pending) :
    Claimed record callback nowMs
      ({ record with
          flowData := .browser state codeVerifier true
          status := .failed
          stage := .finished
          terminalAtMs := some nowMs
          errorCode := some "oauth_authorization_failed" },
        .error "oauth_authorization_failed")
  | claimed (state codeVerifier code : String)
      (flow : record.flowData = .browser state codeVerifier false)
      (same : state = callback.state) (isPending : record.status = .pending)
      (carried : callback.code = some code) :
    Claimed record callback nowMs
      ({ record with flowData := .browser state codeVerifier true, stage := .exchanging },
        .ok (code, codeVerifier))

theorem claimCallback_cases (record : SessionRecord) (callback : BrowserCallback) (nowMs : Int) :
    Claimed record callback nowMs (record.claimCallback callback nowMs) := by
  unfold claimCallback
  split
  · exact .refused _
  · rename_i state codeVerifier callbackClaimed flow
    dsimp only
    split
    · exact .refused _
    · rename_i same
      have same := not_not.mp same
      split
      · exact .refused _
      · rename_i isPending
        have isPending := not_not.mp isPending
        split
        · rename_i late
          exact .expired state codeVerifier callbackClaimed flow same isPending late
        · split
          · exact .refused _
          · rename_i unclaimed
            have unclaimed := Bool.not_eq_true _ ▸ unclaimed
            subst unclaimed
            split
            · exact .failed state codeVerifier flow same isPending
            · split
              · exact .refused _
              · rename_i code carried
                exact .claimed state codeVerifier code flow same isPending carried

theorem evolves_claimCallback (record : SessionRecord) (callback : BrowserCallback) (nowMs : Int) :
    Evolves record (record.claimCallback callback nowMs).1 := by
  have cases := record.claimCallback_cases callback nowMs
  cases result : record.claimCallback callback nowMs with
  | mk later outcome =>
    rw [result] at cases
    cases cases with
    | refused => exact record.evolves_refl
    | expired state codeVerifier callbackClaimed flow same isPending =>
      exact ⟨rfl, fun settled => absurd isPending settled, id⟩
    | failed state codeVerifier flow same isPending =>
      exact ⟨rfl, fun settled => absurd isPending settled, fun _ => rfl⟩
    | claimed state codeVerifier code flow same isPending =>
      exact ⟨rfl, fun _ => rfl, fun _ => rfl⟩

end SessionRecord

namespace RunnerPhase

def holds : RunnerPhase → Bool
  | .holding | .expiring | .targeting | .saving _ | .saveFailed _ | .finalizing _ => true
  | _ => false

def guarded : RunnerPhase → Bool
  | .expiring | .targeting | .saving _ | .saveFailed _ | .finalizing _ => true
  | _ => false

def hasSaved : RunnerPhase → Bool
  | .saveFailed applied => applied
  | .finalizing _ | .completing _ => true
  | _ => false

def terminates : RunnerPhase → Bool
  | .failing status _ => status ≠ .pending
  | _ => true

theorem holds_of_guarded {phase : RunnerPhase} (guarded : phase.guarded = true) :
    phase.holds = true := by
  cases phase with
  | expiring | targeting | saving | saveFailed | finalizing => rfl
  | polling | polled | authorized | exchangingDevice | exchangingBrowser | exchanged | parsing
  | gating | waiting | holding | completing | failing => cases guarded

end RunnerPhase

/-- What a run has done so far: the sessions whose logins are stored, the codes that were
exchanged, and those that callbacks have claimed. -/
structure Ledger where
  saved : List String
  exchanged : List (String × String)
  claimed : List (String × String)

structure RecordSound (ledger : Ledger) (sessionId : String) (record : SessionRecord) : Prop where
  engaged : sessionId ∈ ledger.saved ∨ sessionId ∈ ledger.exchanged.map (·.1) → record.Engaged
  finalizing : record.stage = .finalizing → sessionId ∈ ledger.saved ∧ record.status = .pending
  notRequested : record.status = .pending → record.cancelRequested = false

structure RunnerSound (ledger : Ledger) (store : SessionStore) (id : Nat) (sessionId : String)
    (phase : RunnerPhase) : Prop where
  issued : sessionId ∈ store.issued
  engaged : ∀ record, store.sessions.lookup sessionId = some record → record.Engaged
  gate : phase.holds = true → store.gates sessionId = some id
  guarded : phase.guarded = true → ∀ record, store.sessions.lookup sessionId = some record →
    record.status = .pending
  saved : sessionId ∈ ledger.saved ↔ phase.hasSaved = true
  claimed : ∀ code codeVerifier, phase = .exchangingBrowser code codeVerifier →
    (sessionId, code) ∈ ledger.claimed ∧ sessionId ∉ ledger.exchanged.map (·.1)
  terminates : phase.terminates = true

namespace SessionStore

structure Sound (ledger : Ledger) (store : SessionStore) : Prop where
  sessionsIssued : ∀ sessionId record, store.sessions.lookup sessionId = some record →
    sessionId ∈ store.issued
  savedIssued : ∀ sessionId ∈ ledger.saved, sessionId ∈ store.issued
  exchangedIssued : ∀ sessionId ∈ ledger.exchanged.map (·.1), sessionId ∈ store.issued
  exchangedOnce : (ledger.exchanged.map (·.1)).Nodup
  oneRunner : ∀ id sessionId phase, store.tasks id = some (.running sessionId phase) →
    ∀ id' phase', store.tasks id' = some (.running sessionId phase') → id' = id
  runners : ∀ id sessionId phase, store.tasks id = some (.running sessionId phase) →
    RunnerSound ledger store id sessionId phase
  records : ∀ sessionId record, store.sessions.lookup sessionId = some record →
    RecordSound ledger sessionId record

variable {ledger : Ledger} {store : SessionStore}

structure Quiet (before after : SessionStore) : Prop where
  sessions : ∀ sessionId record, after.sessions.lookup sessionId = some record →
    before.sessions.lookup sessionId = some record
  running : ∀ id sessionId phase, after.tasks id = some (.running sessionId phase) ↔
    before.tasks id = some (.running sessionId phase)
  gates : after.gates = before.gates
  issued : after.issued = before.issued

theorem Quiet.trans {first second third : SessionStore} (quiet : Quiet first second)
    (next : Quiet second third) : Quiet first third :=
  ⟨fun sessionId record found => quiet.sessions sessionId record (next.sessions sessionId record found),
    fun id sessionId phase => (next.running id sessionId phase).trans (quiet.running id sessionId phase),
    next.gates.trans quiet.gates, next.issued.trans quiet.issued⟩

theorem quiet_prune (store : SessionStore) (nowMs : Int) : Quiet store (store.prune nowMs) := by
  refine ⟨?_, fun _ _ _ => .rfl, rfl, rfl⟩
  intro sessionId record found
  simp only [prune, lookup_retain] at found
  exact (Option.filter_eq_some_iff.mp found).1

theorem quiet_task {id : Nat} {task : Option SessionTask}
    (before : ∀ sessionId phase, store.tasks id ≠ some (.running sessionId phase))
    (after : ∀ sessionId phase, task ≠ some (.running sessionId phase)) :
    Quiet store { store with tasks := Function.update store.tasks id task } := by
  refine ⟨fun _ _ found => found, ?_, rfl, rfl⟩
  intro other sessionId phase
  by_cases same : other = id
  · subst same
    simp only [Function.update_self]
    exact ⟨fun is => absurd is (after sessionId phase), fun is => absurd is (before sessionId phase)⟩
  · simp only [Function.update_of_ne same]

theorem Sound.quiet {after : SessionStore} (sound : store.Sound ledger) (quiet : Quiet store after) :
    after.Sound ledger := by
  refine ⟨?_, ?_, ?_, sound.exchangedOnce, ?_, ?_, ?_⟩
  · intro sessionId record found
    rw [quiet.issued]
    exact sound.sessionsIssued sessionId record (quiet.sessions sessionId record found)
  · rw [quiet.issued]
    exact sound.savedIssued
  · rw [quiet.issued]
    exact sound.exchangedIssued
  · intro id sessionId phase here id' phase' there
    exact sound.oneRunner id sessionId phase ((quiet.running id sessionId phase).mp here) id' phase'
      ((quiet.running id' sessionId phase').mp there)
  · intro id sessionId phase here
    have runner := sound.runners id sessionId phase ((quiet.running id sessionId phase).mp here)
    refine ⟨?_, ?_, ?_, ?_, runner.saved, runner.claimed, runner.terminates⟩
    · rw [quiet.issued]
      exact runner.issued
    · exact fun record found => runner.engaged record (quiet.sessions sessionId record found)
    · rw [quiet.gates]
      exact runner.gate
    · exact fun guarded record found =>
        runner.guarded guarded record (quiet.sessions sessionId record found)
  · exact fun sessionId record found =>
      sound.records sessionId record (quiet.sessions sessionId record found)

theorem change_lookup (store : SessionStore) (sessionId : String)
    (f : SessionRecord → SessionRecord) (other : String) :
    (store.change sessionId f).sessions.lookup other =
      if other = sessionId then (store.sessions.lookup sessionId).map f
      else store.sessions.lookup other := by
  unfold change
  split
  · rename_i record found
    by_cases same : other = sessionId
    · subst same
      rw [if_pos rfl, found, AList.lookup_insert, Option.map_some]
    · rw [if_neg same, AList.lookup_insert_ne same]
  · rename_i missing
    by_cases same : other = sessionId
    · subst same
      rw [if_pos rfl, missing, Option.map_none]
    · rw [if_neg same]

@[simp] theorem change_tasks (store : SessionStore) (sessionId : String)
    (f : SessionRecord → SessionRecord) : (store.change sessionId f).tasks = store.tasks := by
  unfold change
  split <;> rfl

@[simp] theorem change_gates (store : SessionStore) (sessionId : String)
    (f : SessionRecord → SessionRecord) : (store.change sessionId f).gates = store.gates := by
  unfold change
  split <;> rfl

@[simp] theorem change_issued (store : SessionStore) (sessionId : String)
    (f : SessionRecord → SessionRecord) : (store.change sessionId f).issued = store.issued := by
  unfold change
  split <;> rfl

@[simp] theorem change_startingTargets (store : SessionStore) (sessionId : String)
    (f : SessionRecord → SessionRecord) :
    (store.change sessionId f).startingTargets = store.startingTargets := by
  unfold change
  split <;> rfl

theorem Sound.change (sound : store.Sound ledger) (sessionId : String)
    {f : SessionRecord → SessionRecord}
    (evolves : ∀ record, store.sessions.lookup sessionId = some record → Evolves record (f record))
    (records : ∀ record, store.sessions.lookup sessionId = some record →
      RecordSound ledger sessionId (f record))
    (unguarded : ∀ record, store.sessions.lookup sessionId = some record →
      (f record).status = record.status ∨ ∀ id phase,
        store.tasks id = some (.running sessionId phase) → phase.guarded = false) :
    (store.change sessionId f).Sound ledger := by
  have lookup : ∀ other later, (store.change sessionId f).sessions.lookup other = some later →
      (other = sessionId ∧ ∃ record, store.sessions.lookup sessionId = some record ∧
        f record = later) ∨ store.sessions.lookup other = some later := by
    intro other later found
    rw [change_lookup] at found
    split at found
    · rename_i same
      exact .inl ⟨same, Option.map_eq_some_iff.mp found⟩
    · exact .inr found
  refine ⟨?_, ?_, ?_, sound.exchangedOnce, ?_, ?_, ?_⟩
  · intro other later found
    rw [change_issued]
    obtain ⟨rfl, record, before, _⟩ | found := lookup other later found
    · exact sound.sessionsIssued _ record before
    · exact sound.sessionsIssued other later found
  · rw [change_issued]
    exact sound.savedIssued
  · rw [change_issued]
    exact sound.exchangedIssued
  · rw [change_tasks]
    exact sound.oneRunner
  · rw [change_tasks]
    intro id other phase here
    have runner := sound.runners id other phase here
    refine ⟨?_, ?_, ?_, ?_, runner.saved, runner.claimed, runner.terminates⟩
    · rw [change_issued]
      exact runner.issued
    · intro later found
      obtain ⟨rfl, record, before, is⟩ | found := lookup other later found
      · rw [← is]
        exact (evolves record before).engaged (runner.engaged record before)
      · exact runner.engaged later found
    · rw [change_gates]
      exact runner.gate
    · intro guarded later found
      obtain ⟨rfl, record, before, is⟩ | found := lookup other later found
      · rw [← is]
        obtain same | none := unguarded record before
        · rw [same]
          exact runner.guarded guarded record before
        · rw [none id phase here] at guarded
          cases guarded
      · exact runner.guarded guarded later found
  · intro other later found
    obtain ⟨rfl, record, before, is⟩ | found := lookup other later found
    · rw [← is]
      exact records record before
    · exact sound.records other later found

theorem becomes_running {id other : Nat} {task : SessionTask} {sessionId : String}
    {phase : RunnerPhase} (there : (store.become id task).tasks other = some (.running sessionId phase)) :
    other = id ∧ task = .running sessionId phase ∨
      other ≠ id ∧ store.tasks other = some (.running sessionId phase) := by
  unfold become at there
  dsimp only at there
  by_cases same : other = id
  · subst same
    rw [Function.update_self, Option.some.injEq] at there
    exact .inl ⟨rfl, there⟩
  · rw [Function.update_of_ne same] at there
    exact .inr ⟨same, there⟩

structure Extends (ledger later : Ledger) (sessionId : String) : Prop where
  saved : ∀ other ∈ later.saved, other = sessionId ∨ other ∈ ledger.saved
  savedKept : ∀ other ∈ ledger.saved, other ∈ later.saved
  exchanged : ∀ other ∈ later.exchanged.map (·.1),
    other = sessionId ∨ other ∈ ledger.exchanged.map (·.1)
  claimed : ∀ entry ∈ ledger.claimed, entry ∈ later.claimed
  once : (later.exchanged.map (·.1)).Nodup

theorem extends_refl (sound : store.Sound ledger) (sessionId : String) :
    Extends ledger ledger sessionId :=
  ⟨fun _ => .inr, fun _ => id, fun _ => .inr, fun _ => id, sound.exchangedOnce⟩

theorem Sound.become {later : Ledger} (sound : store.Sound ledger) {id : Nat} {sessionId : String}
    {phase : RunnerPhase} (grows : Extends ledger later sessionId)
    (free : store.tasks id = none ∨ ∃ phase, store.tasks id = some (.running sessionId phase))
    (alone : ∀ other phase, store.tasks other = some (.running sessionId phase) → other = id)
    (runner : RunnerSound later store id sessionId phase)
    (records : ∀ record, store.sessions.lookup sessionId = some record →
      RecordSound later sessionId record) :
    (store.become id (.running sessionId phase)).Sound later := by
  have elsewhere : ∀ other phase', store.tasks id = some (.running other phase') →
      other = sessionId := by
    intro other phase' there
    obtain none | ⟨before, here⟩ := free
    · rw [none] at there
      cases there
    · rw [here] at there
      cases there
      rfl
  refine ⟨sound.sessionsIssued, ?_, ?_, grows.once, ?_, ?_, ?_⟩
  · intro other member
    obtain rfl | member := grows.saved other member
    · exact runner.issued
    · exact sound.savedIssued other member
  · intro other member
    obtain rfl | member := grows.exchanged other member
    · exact runner.issued
    · exact sound.exchangedIssued other member
  · intro first other firstPhase here second secondPhase there
    obtain ⟨rfl, is⟩ | ⟨notId, mine⟩ := becomes_running here
    · cases is
      obtain ⟨same, _⟩ | ⟨_, theirs⟩ := becomes_running there
      · exact same
      · exact alone second secondPhase theirs
    · obtain ⟨rfl, is⟩ | ⟨_, theirs⟩ := becomes_running there
      · cases is
        exact absurd (alone first firstPhase mine) notId
      · exact sound.oneRunner first other firstPhase mine second secondPhase theirs
  · intro other there otherPhase here
    obtain ⟨rfl, is⟩ | ⟨notId, found⟩ := becomes_running here
    · cases is
      exact ⟨runner.issued, runner.engaged, runner.gate, runner.guarded, runner.saved,
        runner.claimed, runner.terminates⟩
    · have known := sound.runners other there otherPhase found
      have apart : there ≠ sessionId := by
        intro same
        subst same
        exact notId (alone other otherPhase found)
      refine ⟨known.issued, known.engaged, known.gate, known.guarded, ?_, ?_, known.terminates⟩
      · rw [← known.saved]
        exact ⟨fun member => (grows.saved there member).resolve_left apart, grows.savedKept there⟩
      · intro code codeVerifier is
        obtain ⟨claimed, notExchanged⟩ := known.claimed code codeVerifier is
        exact ⟨grows.claimed _ claimed, fun member =>
          notExchanged ((grows.exchanged there member).resolve_left apart)⟩
  · intro other record found
    by_cases same : other = sessionId
    · subst same
      exact records record found
    · have known := sound.records other record found
      refine ⟨?_, ?_, known.notRequested⟩
      · rintro (member | member)
        · exact known.engaged (.inl ((grows.saved other member).resolve_left same))
        · exact known.engaged (.inr ((grows.exchanged other member).resolve_left same))
      · intro isFinalizing
        obtain ⟨saved, isPending⟩ := known.finalizing isFinalizing
        exact ⟨grows.savedKept other saved, isPending⟩

theorem Sound.move (sound : store.Sound ledger) {id : Nat} {sessionId : String}
    {phase next : RunnerPhase} (here : store.tasks id = some (.running sessionId phase))
    (runner : RunnerSound ledger store id sessionId next) :
    (store.become id (.running sessionId next)).Sound ledger :=
  sound.become (extends_refl sound sessionId) (.inr ⟨phase, here⟩)
    (fun other phase' there => sound.oneRunner id sessionId phase here other phase' there)
    runner (sound.records sessionId)

theorem leaves_running {id other : Nat} {sessionId there : String} {phase : RunnerPhase}
    (found : (store.leave id sessionId).tasks other = some (.running there phase)) :
    other ≠ id ∧ store.tasks other = some (.running there phase) := by
  unfold leave at found
  dsimp only at found
  by_cases same : other = id
  · subst same
    rw [Function.update_self] at found
    cases found
  · rw [Function.update_of_ne same] at found
    exact ⟨same, found⟩

theorem Sound.leave (sound : store.Sound ledger) {id : Nat} {sessionId : String}
    {phase : RunnerPhase} (here : store.tasks id = some (.running sessionId phase)) :
    (store.leave id sessionId).Sound ledger := by
  refine ⟨sound.sessionsIssued, sound.savedIssued, sound.exchangedIssued, sound.exchangedOnce, ?_, ?_,
    sound.records⟩
  · intro first other firstPhase found second secondPhase there
    exact sound.oneRunner first other firstPhase (leaves_running found).2 second secondPhase
      (leaves_running there).2
  · intro other there otherPhase found
    obtain ⟨notId, stays⟩ := leaves_running found
    have known := sound.runners other there otherPhase stays
    refine ⟨known.issued, known.engaged, ?_, known.guarded, known.saved, known.claimed,
      known.terminates⟩
    intro holds
    have apart : there ≠ sessionId := by
      intro same
      subst same
      exact notId (sound.oneRunner id there phase here other otherPhase stays)
    exact (Function.update_of_ne apart _ _).trans (known.gate holds)

theorem Sound.hold (sound : store.Sound ledger) {id : Nat} {sessionId : String}
    {phase : RunnerPhase} (here : store.tasks id = some (.running sessionId phase))
    (waits : phase.holds = false) : (store.hold id sessionId).Sound ledger := by
  refine ⟨sound.sessionsIssued, sound.savedIssued, sound.exchangedIssued, sound.exchangedOnce,
    sound.oneRunner, ?_, sound.records⟩
  intro other there otherPhase found
  have known := sound.runners other there otherPhase found
  refine ⟨known.issued, known.engaged, ?_, known.guarded, known.saved, known.claimed,
      known.terminates⟩
  intro holds
  by_cases same : there = sessionId
  · subst same
    have equal := sound.oneRunner id there phase here other otherPhase found
    subst equal
    have is : phase = otherPhase := by simpa using here.symm.trans found
    rw [← is, waits] at holds
    cases holds
  · exact (Function.update_of_ne same _ _).trans (known.gate holds)

end SessionStore

end CodexGate.Oauth
