import CodexGate.Oauth.SessionSteps

namespace CodexGate.Oauth

open Foundation SessionStore

abbrev SessionTransition := Transition SessionStore SessionAction

abbrev SessionStep (before : SessionStore) (action : SessionAction) (after : SessionStore) : Prop :=
  sessionStep before action = some after

def savedBy (t : SessionTransition) : Option String :=
  match t.action with
  | .run id (.saved result) =>
    match t.before.tasks id, result with
    | some (.running sessionId (.saving _)), .ok _ => some sessionId
    | some (.running sessionId (.saving _)), .error true => some sessionId
    | _, _ => none
  | _ => none

def exchangedBy (t : SessionTransition) : Option (String × String) :=
  match t.action with
  | .run id (.exchanged _) =>
    match t.before.tasks id with
    | some (.running sessionId (.exchangingBrowser code _)) => some (sessionId, code)
    | _ => none
  | _ => none

def claims (store : SessionStore) (sessionId : String) (nowMs : Int) :
    Visit → Option (String × String)
  | .callback callback => (store.sessions.lookup sessionId).bind fun record =>
    match (record.claimCallback callback nowMs).2 with
    | .ok (code, _) => some (sessionId, code)
    | .error _ => none
  | .get | .cancel => none

def claimedBy (t : SessionTransition) : Option (String × String) :=
  match t.action with
  | .enter id _ =>
    match t.before.tasks id with
    | some (.visiting sessionId nowMs visit) => claims t.before sessionId nowMs visit
    | _ => none
  | _ => none

def Ledger.add (ledger : Ledger) (t : SessionTransition) : Ledger where
  saved := (savedBy t).toList ++ ledger.saved
  exchanged := (exchangedBy t).toList ++ ledger.exchanged
  claimed := (claimedBy t).toList ++ ledger.claimed

def ledgerOf : List SessionTransition → Ledger
  | [] => { saved := [], exchanged := [], claimed := [] }
  | t :: history => (ledgerOf history).add t

variable {ledger : Ledger} {before after : SessionStore}

theorem RunnerSound.next {id : Nat} {sessionId : String} {phase next : RunnerPhase}
    (known : RunnerSound ledger before id sessionId phase)
    (holds : next.holds = true → phase.holds = true)
    (guarded : next.guarded = true → phase.guarded = true)
    (saved : next.hasSaved = phase.hasSaved)
    (plain : ∀ code codeVerifier, next ≠ .exchangingBrowser code codeVerifier)
    (terminates : next.terminates = true) : RunnerSound ledger before id sessionId next :=
  ⟨known.issued, known.engaged, fun is => known.gate (holds is), fun is => known.guarded (guarded is),
    known.saved.trans (by rw [saved]),
    fun code codeVerifier is => absurd is (plain code codeVerifier), terminates⟩

theorem markStage_sound {sessionId : String} {record : SessionRecord} {stage : SessionStage}
    (known : RecordSound ledger sessionId record)
    (saved : stage = .finalizing → sessionId ∈ ledger.saved) :
    RecordSound ledger sessionId (record.markStage stage) := by
  unfold SessionRecord.markStage
  split
  · exact known
  · rename_i running
    have isPending := SessionRecord.pending_of_not_cancelled (Bool.not_eq_true _ ▸ running)
    exact ⟨known.engaged, fun is => ⟨saved is, isPending.1⟩, known.notRequested⟩

theorem markError_sound {sessionId : String} {record : SessionRecord} {status : SessionStatus}
    {code : String} {nowMs : Int} (known : RecordSound ledger sessionId record)
    (terminal : status ≠ .pending) :
    RecordSound ledger sessionId (record.markError status code nowMs) := by
  unfold SessionRecord.markError
  split
  · exact known
  · exact ⟨known.engaged, fun is => (by cases is), fun is => absurd is terminal⟩

theorem markCompleted_sound {sessionId : String} {record : SessionRecord} {keyId nowMs : Int}
    (known : RecordSound ledger sessionId record) :
    RecordSound ledger sessionId (record.markCompleted keyId nowMs) := by
  unfold SessionRecord.markCompleted
  split
  · exact known
  · exact ⟨known.engaged, fun is => (by cases is), fun is => (by cases is)⟩

theorem change_leave (store : SessionStore) (id : Nat) (sessionId : String)
    (f : SessionRecord → SessionRecord) :
    (store.change sessionId f).leave id sessionId = (store.leave id sessionId).change sessionId f := by
  unfold SessionStore.change SessionStore.leave
  dsimp only
  split <;> rfl

theorem mark_sound (sound : before.Sound ledger) {id : Nat} {sessionId : String}
    {phase : RunnerPhase} (here : before.tasks id = some (.running sessionId phase))
    {f : SessionRecord → SessionRecord} (evolves : ∀ record, Evolves record (f record))
    (records : ∀ record, RecordSound ledger sessionId record →
      RecordSound ledger sessionId (f record)) :
    ((before.change sessionId f).leave id sessionId).Sound ledger := by
  rw [change_leave]
  have left := sound.leave here
  refine left.change sessionId (fun record _ => evolves record)
    (fun record found => records record (left.records sessionId record found)) ?_
  refine fun record _ => .inr fun other otherPhase there => ?_
  obtain ⟨notId, there⟩ := leaves_running there
  exact absurd (sound.oneRunner id sessionId phase here other otherPhase there) notId

theorem pending_of_cancelled_false {sessionId : String}
    (running : before.cancelled sessionId = false) :
    ∃ record, before.sessions.lookup sessionId = some record ∧ record.status = .pending := by
  unfold SessionStore.cancelled at running
  cases found : before.sessions.lookup sessionId with
  | none =>
    rw [found] at running
    cases running
  | some record =>
    rw [found] at running
    exact ⟨record, rfl, (SessionRecord.pending_of_not_cancelled running).1⟩

theorem moves_sound (sound : before.Sound ledger) {id : Nat} {sessionId : String}
    {phase next : RunnerPhase} (here : before.tasks id = some (.running sessionId phase))
    (free : next.holds = false) (saved : next.hasSaved = phase.hasSaved)
    (plain : ∀ code codeVerifier, next ≠ .exchangingBrowser code codeVerifier)
    (terminates : next.terminates = true) :
    (before.become id (.running sessionId next)).Sound ledger := by
  refine sound.move here ((sound.runners id sessionId phase here).next ?_ ?_ saved plain terminates)
  · intro is
    rw [free] at is
    cases is
  · intro is
    rw [RunnerPhase.holds_of_guarded is] at free
    cases free

theorem proceed_sound (sound : before.Sound ledger) {id : Nat} {sessionId : String}
    {phase : RunnerPhase} (here : before.tasks id = some (.running sessionId phase))
    (taken : stepRunner before id sessionId phase .proceed = some after) :
    after.Sound ledger := by
  have known := sound.runners id sessionId phase here
  cases phase with
  | polled | exchangingDevice | exchangingBrowser | saving => cases taken
  | polling =>
    cases taken
    split
    · exact sound.leave here
    · split
      · exact sound.leave here
      · split <;> exact moves_sound sound here rfl rfl nofun rfl
  | authorized code =>
    cases taken
    split
    · exact sound.leave here
    · have changed := sound.change sessionId (fun record _ => record.evolves_markStage .exchanging)
        (fun record found => markStage_sound (sound.records sessionId record found) nofun)
        (fun record _ => .inl (by unfold SessionRecord.markStage; split <;> rfl))
      have there : (before.change sessionId (·.markStage .exchanging)).tasks id =
          some (.running sessionId (.authorized code)) := by
        rw [change_tasks]
        exact here
      exact changed.move there ((changed.runners id sessionId _ there).next nofun nofun rfl nofun rfl)
  | exchanged bundle =>
    cases taken
    split
    · exact sound.leave here
    · exact moves_sound sound here rfl rfl nofun rfl
  | parsing bundle =>
    cases taken
    split
    · exact moves_sound sound here rfl rfl nofun rfl
    · split <;> exact moves_sound sound here rfl rfl nofun rfl
  | gating =>
    cases taken
    split
    · exact moves_sound sound here rfl rfl nofun rfl
    · exact sound.leave here
  | waiting =>
    simp only [stepRunner] at taken
    split at taken
    · cases taken
      have held := sound.hold here rfl
      have there : (before.hold id sessionId).tasks id =
          some (.running sessionId .waiting) := here
      refine held.move there ⟨known.issued, known.engaged, fun _ => ?_, nofun, known.saved, nofun, rfl⟩
      exact Function.update_self ..
    · cases taken
  | holding =>
    cases taken
    split
    · exact sound.leave here
    · rename_i running
      obtain ⟨record, found, isPending⟩ := pending_of_cancelled_false (Bool.not_eq_true _ ▸ running)
      refine sound.move here ⟨known.issued, known.engaged, fun _ => known.gate rfl, ?_, known.saved,
        nofun, rfl⟩
      intro _ other there
      rw [found] at there
      cases there
      exact isPending
  | expiring =>
    cases taken
    split
    · exact moves_sound sound here rfl rfl nofun rfl
    · exact sound.move here (known.next (fun _ => rfl) (fun _ => rfl) rfl nofun rfl)
  | targeting =>
    cases taken
    split
    · exact sound.move here (known.next (fun _ => rfl) (fun _ => rfl) rfl nofun rfl)
    · exact sound.leave here
  | saveFailed applied =>
    cases taken
    exact mark_sound sound here (fun record => record.evolves_markError _ _ _)
      fun record known => markError_sound known nofun
  | finalizing keyId =>
    cases taken
    split
    · exact sound.leave here
    · have saved := known.saved.mpr rfl
      have changed := sound.change sessionId (fun record _ => record.evolves_markStage .finalizing)
        (fun record found => markStage_sound (sound.records sessionId record found) fun _ => saved)
        (fun record _ => .inl (by unfold SessionRecord.markStage; split <;> rfl))
      have there : (before.change sessionId (·.markStage .finalizing)).tasks id =
          some (.running sessionId (.finalizing keyId)) := by
        rw [change_tasks]
        exact here
      have left := changed.leave there
      have engaged := (changed.runners id sessionId _ there).engaged
      refine left.become (extends_refl left sessionId) (.inl (Function.update_self ..)) ?_
        ⟨?_, engaged, nofun, nofun, known.saved, nofun, rfl⟩ (left.records sessionId)
      · intro other otherPhase found
        obtain ⟨notId, found⟩ := leaves_running found
        exact absurd (changed.oneRunner id sessionId _ there other otherPhase found) notId
      · exact (changed.runners id sessionId _ there).issued
  | completing keyId =>
    cases taken
    exact mark_sound sound here (fun record => record.evolves_markCompleted _ _)
      fun record known => markCompleted_sound known
  | failing status code =>
    have terminal := known.terminates
    cases taken
    exact mark_sound sound here (fun record => record.evolves_markError _ _ _)
      fun record known => markError_sound known (of_decide_eq_true terminal)

theorem polled_sound (sound : before.Sound ledger) {id : Nat} {sessionId : String}
    {phase : RunnerPhase} (here : before.tasks id = some (.running sessionId phase))
    {poll : Except String (Option String)}
    (taken : stepRunner before id sessionId phase (.polled poll) = some after) :
    after.Sound ledger := by
  cases phase with
  | polled =>
    cases taken
    split <;> exact moves_sound sound here rfl rfl nofun rfl
  | polling | authorized | exchangingDevice | exchangingBrowser | exchanged | parsing | gating
  | waiting | holding | expiring | targeting | saving | saveFailed | finalizing | completing
  | failing => cases taken

theorem exchange_sound (sound : before.Sound ledger) {id : Nat} {sessionId code codeVerifier : String}
    (here : before.tasks id = some (.running sessionId (.exchangingBrowser code codeVerifier)))
    {next : RunnerPhase} (free : next.holds = false) (unsaved : next.hasSaved = false)
    (plain : ∀ code codeVerifier, next ≠ .exchangingBrowser code codeVerifier)
    (terminates : next.terminates = true) :
    (before.become id (.running sessionId next)).Sound
      { ledger with exchanged := (sessionId, code) :: ledger.exchanged } := by
  have known := sound.runners id sessionId _ here
  have unguarded : next.guarded ≠ true := fun is => by
    rw [RunnerPhase.holds_of_guarded is] at free
    cases free
  refine sound.become ⟨fun _ => .inr, fun _ is => is, ?_, fun _ is => is, ?_⟩ (.inr ⟨_, here⟩)
    (fun other phase there => sound.oneRunner id sessionId _ here other phase there)
    ⟨known.issued, known.engaged, ?_, fun is => absurd is unguarded, ?_,
      fun first verifier is => absurd is (plain first verifier), terminates⟩ ?_
  · intro other member
    rw [List.map_cons] at member
    exact List.mem_cons.mp member
  · rw [List.map_cons]
    exact List.nodup_cons.mpr ⟨(known.claimed code codeVerifier rfl).2, sound.exchangedOnce⟩
  · intro is
    rw [free] at is
    cases is
  · rw [unsaved]
    exact known.saved
  · intro record found
    have stored := sound.records sessionId record found
    exact ⟨fun _ => known.engaged record found, stored.finalizing, stored.notRequested⟩

theorem exchanged_sound (sound : before.Sound ledger) {id : Nat} {sessionId : String}
    {phase : RunnerPhase} (here : before.tasks id = some (.running sessionId phase))
    {result : Except String TokenBundle}
    (taken : stepRunner before id sessionId phase (.exchanged result) = some after) :
    after.Sound (ledger.add ⟨before, .run id (.exchanged result), after⟩) := by
  have nothing : (∀ code codeVerifier, phase ≠ .exchangingBrowser code codeVerifier) →
      ledger.add ⟨before, .run id (.exchanged result), after⟩ = ledger := by
    intro plain
    have none : exchangedBy ⟨before, .run id (.exchanged result), after⟩ = none := by
      unfold exchangedBy
      dsimp only
      split
      · rename_i there
        rw [here] at there
        cases there
        exact absurd rfl (plain _ _)
      · rfl
    unfold Ledger.add
    rw [none]
    rfl
  cases phase with
  | exchangingDevice code =>
    rw [nothing nofun]
    cases taken
    split <;> exact moves_sound sound here rfl rfl nofun rfl
  | exchangingBrowser code codeVerifier =>
    have added : ledger.add ⟨before, .run id (.exchanged result), after⟩ =
        { ledger with exchanged := (sessionId, code) :: ledger.exchanged } := by
      have swapped : exchangedBy ⟨before, .run id (.exchanged result), after⟩ =
          some (sessionId, code) := by
        unfold exchangedBy
        dsimp only
        rw [here]
      unfold Ledger.add
      rw [swapped]
      rfl
    rw [added]
    cases taken
    split <;> exact exchange_sound sound here rfl rfl nofun rfl
  | polling | polled | authorized | exchanged | parsing | gating | waiting | holding | expiring
  | targeting | saving | saveFailed | finalizing | completing | failing => cases taken

theorem save_sound (sound : before.Sound ledger) {id : Nat} {sessionId : String}
    {target : SessionTarget} (here : before.tasks id = some (.running sessionId (.saving target)))
    {next : RunnerPhase} (saved : next.hasSaved = true)
    (plain : ∀ code codeVerifier, next ≠ .exchangingBrowser code codeVerifier)
    (terminates : next.terminates = true) :
    (before.become id (.running sessionId next)).Sound
      { ledger with saved := sessionId :: ledger.saved } := by
  have known := sound.runners id sessionId _ here
  refine sound.become ⟨?_, fun other => List.mem_cons_of_mem _, fun _ => .inr,
    fun _ is => is, sound.exchangedOnce⟩ (.inr ⟨_, here⟩)
    (fun other phase there => sound.oneRunner id sessionId _ here other phase there)
    ⟨known.issued, known.engaged, fun _ => known.gate rfl, fun _ => known.guarded rfl, ?_,
      fun first verifier is => absurd is (plain first verifier), terminates⟩ ?_
  · exact fun other member => List.mem_cons.mp member
  · rw [saved]
    exact ⟨fun _ => rfl, fun _ => List.mem_cons_self ..⟩
  · intro record found
    have stored := sound.records sessionId record found
    refine ⟨fun _ => known.engaged record found, fun is => ?_, stored.notRequested⟩
    exact ⟨List.mem_cons_self .., (stored.finalizing is).2⟩

theorem saved_sound (sound : before.Sound ledger) {id : Nat} {sessionId : String}
    {phase : RunnerPhase} (here : before.tasks id = some (.running sessionId phase))
    {result : Except Bool Int}
    (taken : stepRunner before id sessionId phase (.saved result) = some after) :
    after.Sound (ledger.add ⟨before, .run id (.saved result), after⟩) := by
  cases phase with
  | saving target =>
    have known := sound.runners id sessionId _ here
    unfold Ledger.add savedBy
    dsimp only
    rw [here]
    cases taken
    match result with
    | .ok keyId => exact save_sound sound here rfl nofun rfl
    | .error true => exact save_sound sound here rfl nofun rfl
    | .error false =>
      exact sound.move here (known.next (fun _ => rfl) (fun _ => rfl) rfl nofun rfl)
  | polling | polled | authorized | exchangingDevice | exchangingBrowser | exchanged | parsing
  | gating | waiting | holding | expiring | targeting | saveFailed | finalizing | completing
  | failing => cases taken

theorem run_sound (sound : before.Sound ledger) {id : Nat} {sessionId : String}
    {phase : RunnerPhase} {input : RunnerInput}
    (here : before.tasks id = some (.running sessionId phase))
    (taken : stepRunner before id sessionId phase input = some after) :
    after.Sound (ledger.add ⟨before, .run id input, after⟩) := by
  cases input with
  | proceed => exact proceed_sound sound here taken
  | polled poll => exact polled_sound sound here taken
  | exchanged result => exact exchanged_sound sound here taken
  | saved result => exact saved_sound sound here taken

theorem observe_sound {sessionId : String} {record : SessionRecord} {nowMs : Int}
    (known : RecordSound ledger sessionId record) :
    RecordSound ledger sessionId (record.observe nowMs) := by
  unfold SessionRecord.observe
  split
  · exact ⟨known.engaged, nofun, nofun⟩
  · exact known

theorem cancel_sound {sessionId : String} {record : SessionRecord} {nowMs : Int}
    (known : RecordSound ledger sessionId record) :
    RecordSound ledger sessionId (record.cancel nowMs) := by
  unfold SessionRecord.cancel
  split
  · exact ⟨known.engaged, nofun, nofun⟩
  · exact known

theorem claimCallback_sound {sessionId : String} {record : SessionRecord}
    {callback : BrowserCallback} {nowMs : Int} (known : RecordSound ledger sessionId record) :
    RecordSound ledger sessionId (record.claimCallback callback nowMs).1 := by
  have cases := record.claimCallback_cases callback nowMs
  cases result : record.claimCallback callback nowMs with
  | mk later outcome =>
    rw [result] at cases
    cases cases with
    | refused => exact known
    | expired => exact ⟨known.engaged, nofun, nofun⟩
    | failed => exact ⟨fun _ => rfl, nofun, nofun⟩
    | claimed => exact ⟨fun _ => rfl, nofun, known.notRequested⟩

theorem unguarded_of_free (sound : before.Sound ledger) {sessionId : String}
    (free : before.gates sessionId = none) {id : Nat} {phase : RunnerPhase}
    (there : before.tasks id = some (.running sessionId phase)) : phase.guarded = false := by
  cases guarded : phase.guarded with
  | false => rfl
  | true =>
    have held := (sound.runners id sessionId phase there).gate (RunnerPhase.holds_of_guarded guarded)
    rw [free] at held
    cases held

theorem visit_sound (sound : before.Sound ledger) {sessionId : String}
    (free : before.gates sessionId = none) {f : SessionRecord → SessionRecord}
    (evolves : ∀ record, Evolves record (f record))
    (records : ∀ record, RecordSound ledger sessionId record →
      RecordSound ledger sessionId (f record)) : (before.change sessionId f).Sound ledger :=
  sound.change sessionId (fun record _ => evolves record)
    (fun record found => records record (sound.records sessionId record found))
    (fun _ _ => .inr fun _ _ there => unguarded_of_free sound free there)

theorem claim_sound (sound : before.Sound ledger) {sessionId code codeVerifier : String}
    {runner : Nat} (idle : before.tasks runner = none) {record later : SessionRecord}
    (found : before.sessions.lookup sessionId = some record)
    (changed : (before.change sessionId fun _ => later).Sound ledger)
    (unclaimed : ¬ record.Engaged) (claimed : later.Engaged) :
    ((before.change sessionId fun _ => later).become runner
      (.running sessionId (.exchangingBrowser code codeVerifier))).Sound
        { ledger with claimed := (sessionId, code) :: ledger.claimed } := by
  have known := sound.records sessionId record found
  have free : (before.change sessionId fun _ => later).tasks runner = none := by
    rw [change_tasks]
    exact idle
  have now : (before.change sessionId fun _ => later).sessions.lookup sessionId = some later := by
    rw [change_lookup, if_pos rfl, found]
    rfl
  refine changed.become ⟨fun _ => .inr, fun _ is => is, fun _ => .inr,
    fun entry => List.mem_cons_of_mem _, sound.exchangedOnce⟩ (.inl free) ?_
    ⟨changed.sessionsIssued sessionId later now, ?_, nofun, nofun, ?_, ?_, rfl⟩ ?_
  · intro other phase there
    rw [change_tasks] at there
    exact absurd ((sound.runners other sessionId phase there).engaged record found) unclaimed
  · intro other there
    rw [now] at there
    cases there
    exact claimed
  · exact ⟨fun member => absurd (known.engaged (.inl member)) unclaimed, nofun⟩
  · intro first verifier is
    cases is
    exact ⟨List.mem_cons_self .., fun member => unclaimed (known.engaged (.inr member))⟩
  · intro other there
    have same := changed.records sessionId other there
    exact ⟨same.engaged, same.finalizing, same.notRequested⟩

theorem change_const (store : SessionStore) {sessionId : String} {record : SessionRecord}
    (found : store.sessions.lookup sessionId = some record) (f : SessionRecord → SessionRecord) :
    store.change sessionId f = store.change sessionId fun _ => f record := by
  unfold SessionStore.change
  rw [found]

def entering (before : SessionStore) (id : Nat) : SessionStore :=
  { before with tasks := Function.update before.tasks id none }

theorem entering_sound (sound : before.Sound ledger) {id : Nat} {sessionId : String} {nowMs : Int}
    {visit : Visit} (here : before.tasks id = some (.visiting sessionId nowMs visit)) :
    (entering before id).Sound ledger := by
  refine sound.quiet (quiet_task ?_ nofun)
  intro other phase there
  rw [here] at there
  cases there

theorem enter_sound (sound : before.Sound ledger) {id runner : Nat} {sessionId : String}
    {nowMs : Int} {visit : Visit} (here : before.tasks id = some (.visiting sessionId nowMs visit))
    (free : before.gates sessionId = none) (idle : before.tasks runner = none) :
    ((entering before id).enter sessionId nowMs runner visit).Sound (ledger.add
      ⟨before, .enter id runner, (entering before id).enter sessionId nowMs runner visit⟩) := by
  have entered := entering_sound sound here
  have same : claimedBy ⟨before, .enter id runner,
      (entering before id).enter sessionId nowMs runner visit⟩ =
        claims before sessionId nowMs visit := by
    unfold claimedBy
    dsimp only
    rw [here]
  unfold Ledger.add
  rw [same]
  cases visit with
  | get =>
    exact visit_sound entered free (fun record => record.evolves_observe _)
      fun record => observe_sound
  | cancel =>
    exact visit_sound entered free (fun record => record.evolves_cancel _) fun record => cancel_sound
  | callback callback =>
    cases found : before.sessions.lookup sessionId with
    | none =>
      have missing : (entering before id).sessions.lookup sessionId = none := found
      unfold SessionStore.enter claims
      dsimp only
      rw [missing, found]
      exact entered
    | some record =>
      have there : (entering before id).sessions.lookup sessionId = some record := found
      have changed := visit_sound entered free
        (fun record => record.evolves_claimCallback callback nowMs) fun record => claimCallback_sound
      unfold SessionStore.enter claims
      dsimp only
      rw [there, found]
      dsimp only [Option.bind_some]
      rw [change_const _ there] at changed ⊢
      have cases := record.claimCallback_cases callback nowMs
      cases result : record.claimCallback callback nowMs with
      | mk later outcome =>
        rw [result] at cases changed
        cases cases with
        | refused | expired | failed => exact changed
        | claimed state codeVerifier code flow =>
          refine claim_sound entered ?_ there changed ?_ rfl
          · unfold entering
            dsimp only
            by_cases same : runner = id
            · rw [same, Function.update_self]
            · rw [Function.update_of_ne same]
              exact idle
          · unfold SessionRecord.Engaged
            rw [flow]
            nofun

theorem insert_sound (sound : before.Sound ledger) {id runner : Nat} {sessionId : String}
    {target : SessionTarget} {nowMs : Int} {flow : CodexOAuthFlow} {codes : String × String}
    (here : before.tasks id = some (.starting target nowMs flow))
    (fresh : sessionId ∉ before.issued) (idle : before.tasks runner = none) :
    (before.insert id target nowMs flow sessionId codes runner).Sound ledger := by
  have unsaved : sessionId ∉ ledger.saved := fun member => fresh (sound.savedIssued _ member)
  have unexchanged : sessionId ∉ ledger.exchanged.map (·.1) := fun member =>
    fresh (sound.exchangedIssued _ member)
  have inserted : ∀ record : SessionRecord, record.status = .pending →
      record.stage = .waitingForUser → record.cancelRequested = false →
      Sound ledger
        { before with
          sessions := before.sessions.insert sessionId record
          startingTargets := before.startingTargets.erase target
          tasks := Function.update before.tasks id none
          issued := sessionId :: before.issued } := by
    intro record isPending waits notRequested
    have ended : Sound ledger { before with tasks := Function.update before.tasks id none } := by
      refine sound.quiet (quiet_task ?_ nofun)
      intro other phase there
      rw [here] at there
      cases there
    refine ⟨?_, ?_, ?_, sound.exchangedOnce, ended.oneRunner, ?_, ?_⟩
    · intro other there found
      by_cases same : other = sessionId
      · subst same
        exact List.mem_cons_self ..
      · rw [AList.lookup_insert_ne same] at found
        exact List.mem_cons_of_mem _ (sound.sessionsIssued other there found)
    · exact fun other member => List.mem_cons_of_mem _ (sound.savedIssued other member)
    · exact fun other member => List.mem_cons_of_mem _ (sound.exchangedIssued other member)
    · intro other there phase found
      have known := ended.runners other there phase found
      have apart : there ≠ sessionId := fun same => fresh (same ▸ known.issued)
      refine ⟨List.mem_cons_of_mem _ known.issued, ?_, known.gate, ?_, known.saved, known.claimed,
        known.terminates⟩
      · intro record stored
        rw [AList.lookup_insert_ne apart] at stored
        exact known.engaged record stored
      · intro guarded record stored
        rw [AList.lookup_insert_ne apart] at stored
        exact known.guarded guarded record stored
    · intro other there found
      by_cases same : other = sessionId
      · subst same
        rw [AList.lookup_insert, Option.some.injEq] at found
        subst found
        refine ⟨fun member => ?_, fun is => ?_, fun _ => notRequested⟩
        · obtain member | member := member
          · exact absurd member unsaved
          · exact absurd member unexchanged
        · rw [waits] at is
          cases is
      · rw [AList.lookup_insert_ne same] at found
        exact sound.records other there found
  cases flow with
  | browser => exact inserted _ rfl rfl rfl
  | device =>
    have store := inserted
      { providerId := target.1
        replaceKeyId := target.2
        flowData := .device codes.1 codes.2
        stage := .waitingForUser
        expiresAtMs := saturatingAddI64 nowMs deviceSessionTtlMs
        terminalAtMs := none
        status := .pending
        cancelRequested := false
        keyId := none
        errorCode := none } rfl rfl rfl
    refine store.become (extends_refl store sessionId) (.inl ?_) ?_
      ⟨List.mem_cons_self .., ?_, nofun, nofun, ⟨fun member => absurd member unsaved, nofun⟩, nofun,
        rfl⟩ (store.records sessionId)
    · by_cases same : runner = id
      · rw [same]
        exact Function.update_self ..
      · exact (Function.update_of_ne same _ _).trans idle
    · intro other phase there
      by_cases same : other = id
      · subst same
        simp at there
      · have there := (Function.update_of_ne same _ _).symm.trans there
        exact absurd (sound.runners other sessionId phase there).issued fresh
    · intro record found
      rw [AList.lookup_insert, Option.some.injEq] at found
      rw [← found]
      exact True.intro

theorem quiet_visitor {id : Nat} (idle : before.tasks id = none) (sessionId : String)
    (visit : Visit) : Quiet before (before.visitor id sessionId visit) := by
  unfold SessionStore.visitor
  dsimp only
  split
  · refine (quiet_prune before before.clockMs).trans (quiet_task ?_ nofun)
    intro other phase there
    exact absurd (idle.symm.trans there) nofun
  · exact quiet_prune before before.clockMs

/-- What a step does, by what it can change of the sessions and of the tasks that log in. -/
inductive SessionEffect (before : SessionStore) : SessionAction → SessionStore → Prop
  | quiet {action : SessionAction} {after : SessionStore} (quiet : Quiet before after)
      (adds : ∀ ledger : Ledger, ledger.add ⟨before, action, after⟩ = ledger) :
    SessionEffect before action after
  | inserted (id runner : Nat) (target : SessionTarget) (nowMs : Int) (flow : CodexOAuthFlow)
      (sessionId : String) (codes : String × String)
      (here : before.tasks id = some (.starting target nowMs flow))
      (fresh : sessionId ∉ before.issued) (idle : before.tasks runner = none) :
    SessionEffect before (.insert id sessionId codes runner)
      (before.insert id target nowMs flow sessionId codes runner)
  | entered (id runner : Nat) (sessionId : String) (nowMs : Int) (visit : Visit)
      (here : before.tasks id = some (.visiting sessionId nowMs visit))
      (free : before.gates sessionId = none) (idle : before.tasks runner = none) :
    SessionEffect before (.enter id runner)
      ((entering before id).enter sessionId nowMs runner visit)
  | ran (id : Nat) (sessionId : String) (phase : RunnerPhase) (input : RunnerInput)
      (after : SessionStore) (here : before.tasks id = some (.running sessionId phase))
      (taken : stepRunner before id sessionId phase input = some after) :
    SessionEffect before (.run id input) after

theorem step_effect {action : SessionAction} (taken : SessionStep before action after) :
    SessionEffect before action after := by
  unfold SessionStep sessionStep at taken
  cases action with
  | tick nowMs =>
    dsimp only at taken
    split at taken
    · cases taken
      exact .quiet ⟨fun _ _ found => found, fun _ _ _ => .rfl, rfl, rfl⟩ fun _ => rfl
    · cases taken
  | start id target flow =>
    dsimp only at taken
    split at taken
    · rename_i idle
      cases taken
      refine .quiet ?_ fun _ => rfl
      split
      · exact quiet_prune before before.clockMs
      · have reserved := (quiet_prune before before.clockMs).trans
          (quiet_task (fun other phase there => absurd (idle.symm.trans there) nofun)
            (show ∀ other phase, some (SessionTask.starting target before.clockMs flow) ≠
              some (.running other phase) from nofun))
        exact ⟨reserved.sessions, reserved.running, reserved.gates, reserved.issued⟩
    · cases taken
  | insert id sessionId codes runner =>
    dsimp only at taken
    split at taken
    · rename_i target nowMs flow here
      split at taken
      · rename_i free
        cases taken
        exact .inserted id runner target nowMs flow sessionId codes here free.1 free.2
      · cases taken
    · cases taken
  | abandon id =>
    dsimp only at taken
    split at taken
    · rename_i target nowMs flow here
      cases taken
      have ended := quiet_task (fun other phase there => absurd (here.symm.trans there) nofun)
        (show ∀ other phase, none ≠ some (SessionTask.running other phase) from nofun)
      exact .quiet ⟨ended.sessions, ended.running, ended.gates, ended.issued⟩ fun _ => rfl
    · rename_i sessionId nowMs visit here
      cases taken
      exact .quiet
        (quiet_task (fun other phase there => absurd (here.symm.trans there) nofun) nofun) fun _ => rfl
    · cases taken
  | visit id sessionId visit =>
    dsimp only at taken
    split at taken
    · rename_i idle
      cases taken
      exact .quiet (quiet_visitor idle sessionId visit) fun _ => rfl
    · cases taken
  | redirect id sessionId callback =>
    dsimp only at taken
    split at taken
    · rename_i idle
      cases taken
      refine .quiet ?_ fun _ => rfl
      split
      · exact quiet_visitor idle sessionId (.callback callback)
      · exact quiet_prune before before.clockMs
    · cases taken
  | enter id runner =>
    dsimp only at taken
    split at taken
    · rename_i sessionId nowMs visit here
      split at taken
      · rename_i free
        cases taken
        exact .entered id runner sessionId nowMs visit here free.1 free.2
      · cases taken
    · cases taken
  | run id input =>
    dsimp only at taken
    split at taken
    · rename_i sessionId phase here
      exact .ran id sessionId phase input after here taken
    · cases taken

theorem step_sound {action : SessionAction} (sound : before.Sound ledger)
    (taken : SessionStep before action after) :
    after.Sound (ledger.add ⟨before, action, after⟩) := by
  cases step_effect taken with
  | quiet quiet adds =>
    rw [adds]
    exact sound.quiet quiet
  | inserted id runner target nowMs flow sessionId codes here fresh idle =>
    exact insert_sound sound here fresh idle
  | entered id runner sessionId nowMs visit here free idle =>
    exact enter_sound sound here free idle
  | ran id sessionId phase input after here taken => exact run_sound sound here taken

end CodexGate.Oauth
