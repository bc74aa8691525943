import CodexGate.Oauth.SessionTargets

namespace CodexGate.Oauth

open Foundation SessionStore

def SessionStore.empty (clockMs : Int) : SessionStore where
  clockMs := clockMs
  sessions := ∅
  startingTargets := ∅
  tasks := fun _ => none
  gates := fun _ => none
  issued := []

variable {before after final : SessionStore} {ledger later : Ledger}
variable {history : List SessionTransition} {clockMs : Int}

theorem empty_sound : (SessionStore.empty clockMs).Sound (ledgerOf []) := by
  refine ⟨?_, ?_, ?_, List.nodup_nil, ?_, ?_, ?_⟩
  · exact fun _ _ found => by cases found
  · exact fun _ member => absurd member List.not_mem_nil
  · exact fun _ member => absurd member List.not_mem_nil
  · exact fun _ _ _ here => by cases here
  · exact fun _ _ _ here => by cases here
  · exact fun _ _ found => by cases found

theorem run_ledger (run : Execution SessionStep (.empty clockMs) history final) :
    final.Sound (ledgerOf history) :=
  run.invariant (P := fun history store => store.Sound (ledgerOf history)) empty_sound
    fun _ _ _ _ sound taken => step_sound sound taken

theorem empty_exclusive : Exclusive (.empty clockMs) := by
  refine ⟨?_, ?_, ?_, ?_⟩
  · rintro _ _ ⟨_, _, there⟩
    cases there
  · exact fun _ member => absurd member (Finset.notMem_empty _)
  · rintro _ _ _ ⟨_, _, there⟩
    cases there
  · rintro _ _ _ ⟨_, found, _⟩
    cases found

theorem run_exclusive (run : Execution SessionStep (.empty clockMs) history final) :
    Exclusive final :=
  run.invariant (P := fun _ store => Exclusive store) empty_exclusive
    fun _ _ _ _ exclusive taken => step_exclusive exclusive taken

theorem step_evolves {action : SessionAction} (taken : SessionStep before action after) :
    (∀ sessionId ∈ before.issued, ∀ later, after.sessions.lookup sessionId = some later →
      ∃ record, before.sessions.lookup sessionId = some record ∧ Evolves record later) ∧
    ∀ sessionId ∈ before.issued, sessionId ∈ after.issued := by
  have framed : Frame before after →
      (∀ sessionId ∈ before.issued, ∀ later, after.sessions.lookup sessionId = some later →
        ∃ record, before.sessions.lookup sessionId = some record ∧ Evolves record later) ∧
      ∀ sessionId ∈ before.issued, sessionId ∈ after.issued := by
    intro frame
    refine ⟨fun sessionId _ => frame.sessions sessionId, ?_⟩
    rw [frame.issued]
    exact fun _ => id
  cases step_effect taken with
  | quiet quiet =>
    refine ⟨fun sessionId _ later found =>
      ⟨later, quiet.sessions sessionId later found, later.evolves_refl⟩, ?_⟩
    rw [quiet.issued]
    exact fun _ => id
  | inserted id runner target nowMs flow sessionId codes here fresh =>
    unfold SessionStore.insert
    constructor
    · intro other member later found
      have apart : other ≠ sessionId := fun same => fresh (same ▸ member)
      refine ⟨later, ?_, later.evolves_refl⟩
      cases flow <;> exact (AList.lookup_insert_ne apart).symm.trans found
    · intro other member
      cases flow <;> exact List.mem_cons_of_mem _ member
  | entered id runner sessionId nowMs visit => exact framed enter_frame
  | ran id sessionId phase input after here taken =>
    exact framed (Frame.moves (Moves.run taken))

theorem run_evolves {start : SessionStore} (run : Execution SessionStep start history final)
    {sessionId : String} (issued : sessionId ∈ start.issued) :
    sessionId ∈ final.issued ∧ ∀ later, final.sessions.lookup sessionId = some later →
      ∃ record, start.sessions.lookup sessionId = some record ∧ Evolves record later := by
  induction run with
  | start => exact ⟨issued, fun later found => ⟨later, found, later.evolves_refl⟩⟩
  | next run taken ih =>
    obtain ⟨evolves, issues⟩ := step_evolves taken
    refine ⟨issues sessionId ih.1, fun later found => ?_⟩
    obtain ⟨middle, there, next⟩ := evolves sessionId ih.1 later found
    obtain ⟨record, first, start⟩ := ih.2 middle there
    exact ⟨record, first, start.trans next⟩

/-- A session is not finalizing yet, but the task that has stored its login holds its gate. -/
def Saving (store : SessionStore) (sessionId : String) : Prop :=
  ∃ id phase, store.tasks id = some (.running sessionId phase) ∧ phase.holds = true ∧
    phase.hasSaved = true

def KeptRecord (store : SessionStore) (sessionId : String) (record : SessionRecord) : Prop :=
  record.status = .completed ∨
    record.status = .pending ∧ (record.stage = .finalizing ∨ Saving store sessionId)

def Kept (ledger : Ledger) (store : SessionStore) : Prop :=
  ∀ sessionId ∈ ledger.saved, ∀ record, store.sessions.lookup sessionId = some record →
    KeptRecord store sessionId record

theorem Kept.elsewhere (kept : Kept ledger before) {sessionId : String}
    (grows : ∀ other ∈ later.saved, other = sessionId ∨ other ∈ ledger.saved)
    (sessions : ∀ other, other ≠ sessionId →
      after.sessions.lookup other = before.sessions.lookup other)
    (tasks : ∀ other, other ≠ sessionId → ∀ id phase,
      before.tasks id = some (.running other phase) → after.tasks id = some (.running other phase))
    (own : sessionId ∈ later.saved → ∀ record, after.sessions.lookup sessionId = some record →
      KeptRecord after sessionId record) : Kept later after := by
  intro other member record found
  by_cases same : other = sessionId
  · subst same
    exact own member record found
  · rw [sessions other same] at found
    have saved := (grows other member).resolve_left same
    obtain completed | ⟨isPending, rest⟩ := kept other saved record found
    · exact .inl completed
    · refine .inr ⟨isPending, ?_⟩
      obtain stage | ⟨id, phase, there, holds, hasSaved⟩ := rest
      · exact .inl stage
      · exact .inr ⟨id, phase, tasks other same id phase there, holds, hasSaved⟩

theorem Kept.quiet (kept : Kept ledger before) (quiet : Quiet before after) :
    Kept ledger after := by
  intro sessionId saved record found
  obtain completed | ⟨isPending, rest⟩ :=
    kept sessionId saved record (quiet.sessions sessionId record found)
  · exact .inl completed
  · refine .inr ⟨isPending, ?_⟩
    obtain stage | ⟨id, phase, there, holds, hasSaved⟩ := rest
    · exact .inl stage
    · exact .inr ⟨id, phase, (quiet.running id sessionId phase).mpr there, holds, hasSaved⟩

theorem SessionRecord.not_cancelled {record : SessionRecord} (isPending : record.status = .pending)
    (notRequested : record.cancelRequested = false) : record.cancelled = false := by
  unfold SessionRecord.cancelled
  rw [isPending, notRequested]
  rfl

theorem Moves.elsewhere {id : Nat} {sessionId : String} {phase : RunnerPhase}
    (moves : Moves id sessionId before after)
    (here : before.tasks id = some (.running sessionId phase)) :
    ∀ other, other ≠ sessionId → ∀ there phase,
      before.tasks there = some (.running other phase) →
        after.tasks there = some (.running other phase) := by
  intro other apart there otherPhase found
  rw [moves.tasks there ?_]
  · exact found
  · intro same
    rw [same, here] at found
    cases found
    exact apart rfl

theorem proceed_own (sound : before.Sound ledger) (kept : Kept ledger before) {id : Nat}
    {sessionId : String} {phase : RunnerPhase}
    (here : before.tasks id = some (.running sessionId phase))
    (lost : phase = .saveFailed true → before.sessions.lookup sessionId = none)
    (taken : stepRunner before id sessionId phase .proceed = some after)
    (saved : sessionId ∈ ledger.saved) (record : SessionRecord)
    (found : after.sessions.lookup sessionId = some record) :
    KeptRecord after sessionId record := by
  have known := sound.runners id sessionId phase here
  have hasSaved := known.saved.mp saved
  have running : ∀ record, before.sessions.lookup sessionId = some record →
      record.status = .pending → record.cancelled = false := fun record there isPending =>
    record.not_cancelled isPending ((sound.records sessionId record there).notRequested isPending)
  cases phase with
  | saveFailed applied =>
    cases applied with
    | false => cases hasSaved
    | true =>
      obtain ⟨record, there, _⟩ := (Moves.run taken).own record found
      rw [lost rfl] at there
      cases there
  | finalizing keyId =>
    cases taken
    split at found
    · rename_i cancelled
      have there : before.sessions.lookup sessionId = some record := found
      have isFalse := running record there (known.guarded rfl record there)
      unfold SessionStore.cancelled at cancelled
      rw [there, Option.all_some, isFalse] at cancelled
      cases cancelled
    · have there : (before.change sessionId (·.markStage .finalizing)).sessions.lookup sessionId =
          some record := found
      rw [change_lookup, if_pos rfl] at there
      obtain ⟨earlier, first, is⟩ := Option.map_eq_some_iff.mp there
      have isPending := known.guarded rfl earlier first
      unfold SessionRecord.markStage at is
      rw [running earlier first isPending] at is
      subst is
      exact .inr ⟨isPending, .inl rfl⟩
  | completing keyId =>
    cases taken
    have there : (before.change sessionId
        (·.markCompleted keyId before.clockMs)).sessions.lookup sessionId = some record := found
    rw [change_lookup, if_pos rfl] at there
    obtain ⟨earlier, first, is⟩ := Option.map_eq_some_iff.mp there
    obtain completed | ⟨isPending, _⟩ := kept sessionId saved earlier first
    · have same := earlier.evolves_markCompleted keyId before.clockMs
      rw [is] at same
      refine .inl ((same.settled ?_).trans completed)
      rw [completed]
      nofun
    · unfold SessionRecord.markCompleted at is
      rw [running earlier first isPending] at is
      subst is
      exact .inl rfl
  | polling | polled | authorized | exchangingDevice | exchangingBrowser | exchanged | parsing
  | gating | waiting | holding | expiring | targeting | saving | failing => cases hasSaved

theorem run_kept (sound : before.Sound ledger) (kept : Kept ledger before) {id : Nat}
    {sessionId : String} {phase : RunnerPhase} {input : RunnerInput}
    (here : before.tasks id = some (.running sessionId phase))
    (lost : input = .proceed → phase = .saveFailed true →
      before.sessions.lookup sessionId = none)
    (taken : stepRunner before id sessionId phase input = some after) :
    Kept (ledger.add ⟨before, .run id input, after⟩) after := by
  have known := sound.runners id sessionId phase here
  have moves := Moves.run taken
  have elsewhere := fun later grows own => @Kept.elsewhere before after ledger later kept sessionId
    grows moves.others (moves.elsewhere here) own
  have unsaved : phase.hasSaved ≠ true → sessionId ∉ ledger.saved := fun not member =>
    not (known.saved.mp member)
  cases input with
  | proceed =>
    exact elsewhere _ (fun _ => .inr) (proceed_own sound kept here (lost rfl) taken)
  | polled poll =>
    refine elsewhere _ (fun _ => .inr) fun member => absurd member (unsaved ?_)
    cases phase with
    | polled => nofun
    | polling | authorized | exchangingDevice | exchangingBrowser | exchanged | parsing | gating
    | waiting | holding | expiring | targeting | saving | saveFailed | finalizing | completing
    | failing => cases taken
  | exchanged result =>
    refine elsewhere _ (fun _ => .inr) fun member => absurd member (unsaved ?_)
    cases phase with
    | exchangingDevice | exchangingBrowser => nofun
    | polling | polled | authorized | exchanged | parsing | gating | waiting | holding | expiring
    | targeting | saving | saveFailed | finalizing | completing | failing => cases taken
  | saved result =>
    cases phase with
    | saving target =>
      unfold Ledger.add savedBy
      dsimp only
      rw [here]
      cases taken
      match result with
      | .ok keyId =>
        refine elsewhere _ (fun _ => List.mem_cons.mp) fun _ record found => ?_
        exact .inr ⟨known.guarded rfl record found, .inr ⟨id, _, Function.update_self .., rfl, rfl⟩⟩
      | .error true =>
        refine elsewhere _ (fun _ => List.mem_cons.mp) fun _ record found => ?_
        exact .inr ⟨known.guarded rfl record found, .inr ⟨id, _, Function.update_self .., rfl, rfl⟩⟩
      | .error false =>
        exact elsewhere _ (fun _ => .inr) fun member => absurd member (unsaved nofun)
    | polling | polled | authorized | exchangingDevice | exchangingBrowser | exchanged | parsing
    | gating | waiting | holding | expiring | targeting | saveFailed | finalizing | completing
    | failing => cases taken

def visited (nowMs : Int) : Visit → SessionRecord → SessionRecord
  | .get => (·.observe nowMs)
  | .cancel => (·.cancel nowMs)
  | .callback callback => fun record => (record.claimCallback callback nowMs).1

theorem enter_lookup (store : SessionStore) (sessionId : String) (nowMs : Int) (runner : Nat)
    (visit : Visit) : (store.enter sessionId nowMs runner visit).sessions.lookup sessionId =
      (store.sessions.lookup sessionId).map (visited nowMs visit) := by
  have changed := fun f : SessionRecord → SessionRecord =>
    (store.change_lookup sessionId f sessionId).trans (if_pos rfl)
  cases visit with
  | get => exact changed _
  | cancel => exact changed _
  | callback callback =>
    unfold SessionStore.enter
    dsimp only
    split
    · rename_i missing
      rw [missing, Option.map_none]
    · split <;> exact changed _

theorem visited_same {record : SessionRecord} {nowMs : Int} {visit : Visit}
    (stored : record.status = .completed ∨ record.stage = .finalizing) (engaged : record.Engaged)
    (inTime : ∀ callback, visit = .callback callback → record.stage = .finalizing →
      ∀ state codeVerifier callbackClaimed,
        record.flowData = .browser state codeVerifier callbackClaimed → state = callback.state →
          nowMs < record.expiresAtMs) : visited nowMs visit record = record := by
  cases visit with
  | get =>
    refine if_neg ?_
    rintro ⟨isPending, notFinalizing, _⟩
    obtain completed | stage := stored
    · rw [completed] at isPending
      cases isPending
    · exact notFinalizing stage
  | cancel =>
    refine if_neg ?_
    rintro ⟨isPending, notFinalizing⟩
    obtain completed | stage := stored
    · rw [completed] at isPending
      cases isPending
    · exact notFinalizing stage
  | callback callback =>
    have claimed : ∀ state codeVerifier, record.flowData ≠ .browser state codeVerifier false := by
      intro state codeVerifier flow
      unfold SessionRecord.Engaged at engaged
      rw [flow] at engaged
      cases engaged
    have cases := record.claimCallback_cases callback nowMs
    show (record.claimCallback callback nowMs).1 = record
    cases result : record.claimCallback callback nowMs with
    | mk later outcome =>
      rw [result] at cases
      cases cases with
      | refused => rfl
      | expired state codeVerifier callbackClaimed flow same isPending late =>
        obtain completed | stage := stored
        · rw [completed] at isPending
          cases isPending
        · exact absurd late (not_le.mpr (inTime callback rfl stage _ _ _ flow same))
      | failed state codeVerifier flow => exact absurd flow (claimed _ _)
      | claimed state codeVerifier code flow => exact absurd flow (claimed _ _)

/-- While a session is finalizing, a callback with its state comes before it expires; and where a
save reports an error, it has not taken effect or the session is gone. -/
def Protected (t : SessionTransition) : Prop :=
  match t.action with
  | .enter id _ =>
    match t.before.tasks id with
    | some (.visiting sessionId nowMs (.callback callback)) =>
      ∀ record, t.before.sessions.lookup sessionId = some record → record.stage = .finalizing →
        ∀ state codeVerifier callbackClaimed,
          record.flowData = .browser state codeVerifier callbackClaimed → state = callback.state →
            nowMs < record.expiresAtMs
    | _ => True
  | .run id .proceed =>
    match t.before.tasks id with
    | some (.running sessionId (.saveFailed true)) => t.before.sessions.lookup sessionId = none
    | _ => True
  | _ => True

theorem KeptRecord.of_free (sound : before.Sound ledger) {sessionId : String}
    {record : SessionRecord} (kept : KeptRecord before sessionId record)
    (free : before.gates sessionId = none) :
    record.status = .completed ∨ record.status = .pending ∧ record.stage = .finalizing := by
  obtain completed | ⟨isPending, stage | ⟨id, phase, there, holds, _⟩⟩ := kept
  · exact .inl completed
  · exact .inr ⟨isPending, stage⟩
  · have held := (sound.runners id sessionId phase there).gate holds
    rw [free] at held
    cases held

theorem enter_kept (sound : before.Sound ledger) (kept : Kept ledger before) {id runner : Nat}
    {sessionId : String} {nowMs : Int} {visit : Visit}
    (here : before.tasks id = some (.visiting sessionId nowMs visit))
    (free : before.gates sessionId = none) (idle : before.tasks runner = none)
    (guarded : Protected ⟨before, .enter id runner,
      (entering before id).enter sessionId nowMs runner visit⟩) :
    Kept ledger ((entering before id).enter sessionId nowMs runner visit) := by
  have moves := Moves.enter (entering before id) sessionId nowMs runner visit
  refine kept.elsewhere (fun _ => .inr) moves.others ?_ ?_
  · intro other apart there phase found
    have notRunner : there ≠ runner := by
      intro same
      rw [same, idle] at found
      cases found
    have notVisiting : there ≠ id := by
      intro same
      rw [same, here] at found
      cases found
    rw [moves.tasks there notRunner]
    exact (Function.update_of_ne notVisiting _ _).trans found
  · intro saved later found
    rw [enter_lookup] at found
    obtain ⟨record, there, is⟩ := Option.map_eq_some_iff.mp found
    have there : before.sessions.lookup sessionId = some record := there
    have stored := (kept sessionId saved record there).of_free sound free
    have inTime : ∀ callback, visit = .callback callback → record.stage = .finalizing →
        ∀ state codeVerifier callbackClaimed,
          record.flowData = .browser state codeVerifier callbackClaimed → state = callback.state →
            nowMs < record.expiresAtMs := by
      intro callback is stage
      subst is
      unfold Protected at guarded
      dsimp only at guarded
      rw [here] at guarded
      exact guarded record there stage
    have same : visited nowMs visit record = record :=
      visited_same (stored.imp_right And.right)
        ((sound.records sessionId record there).engaged (.inl saved)) inTime
    rw [← is, same]
    exact stored.imp_right fun stays => ⟨stays.1, .inl stays.2⟩

theorem insert_kept (sound : before.Sound ledger) (kept : Kept ledger before) {id runner : Nat}
    {sessionId : String} {target : SessionTarget} {nowMs : Int} {flow : CodexOAuthFlow}
    {codes : String × String} (here : before.tasks id = some (.starting target nowMs flow))
    (fresh : sessionId ∉ before.issued) (idle : before.tasks runner = none) :
    Kept ledger (before.insert id target nowMs flow sessionId codes runner) := by
  refine kept.elsewhere (fun _ => .inr) ?_ ?_ fun saved =>
    absurd (sound.savedIssued sessionId saved) fresh
  · intro other apart
    unfold SessionStore.insert
    cases flow <;> exact AList.lookup_insert_ne apart
  · intro other _ there phase found
    have notStarting : there ≠ id := by
      intro same
      rw [same, here] at found
      cases found
    have notRunner : there ≠ runner := by
      intro same
      rw [same, idle] at found
      cases found
    have ended := (Function.update_of_ne notStarting none before.tasks).trans found
    unfold SessionStore.insert
    cases flow with
    | browser => exact ended
    | device => exact (Function.update_of_ne notRunner _ _).trans ended

theorem step_kept {action : SessionAction} (sound : before.Sound ledger)
    (kept : Kept ledger before) (guarded : Protected ⟨before, action, after⟩)
    (taken : SessionStep before action after) :
    Kept (ledger.add ⟨before, action, after⟩) after := by
  cases step_effect taken with
  | quiet quiet adds =>
    rw [adds]
    exact kept.quiet quiet
  | inserted id runner target nowMs flow sessionId codes here fresh idle =>
    exact insert_kept sound kept here fresh idle
  | entered id runner sessionId nowMs visit here free idle =>
    exact enter_kept sound kept here free idle guarded
  | ran id sessionId phase input after here taken =>
    refine run_kept sound kept here ?_ taken
    rintro rfl rfl
    unfold Protected at guarded
    dsimp only at guarded
    rw [here] at guarded
    exact guarded

theorem run_kept_of_protected (run : Execution SessionStep (.empty clockMs) history final)
    (guarded : ∀ t ∈ history, Protected t) : Kept (ledgerOf history) final := by
  induction run with
  | start => exact fun _ member => absurd member List.not_mem_nil
  | next run taken ih =>
    have earlier := ih fun t member => guarded t (List.mem_cons_of_mem _ member)
    exact step_kept (run_ledger run) earlier (guarded _ (List.mem_cons_self ..)) taken

theorem SessionRecord.claimCallback_late {record : SessionRecord} {callback : BrowserCallback}
    {nowMs : Int} {state codeVerifier : String} {callbackClaimed : Bool}
    (flow : record.flowData = .browser state codeVerifier callbackClaimed)
    (same : state = callback.state) (isPending : record.status = .pending)
    (late : record.expiresAtMs ≤ nowMs) :
    (record.claimCallback callback nowMs).1 = record.expire nowMs := by
  unfold SessionRecord.claimCallback
  rw [flow]
  dsimp only
  rw [if_neg (not_not.mpr same), if_neg (not_not.mpr isPending), if_pos late]

theorem unprotected_spoils {action : SessionAction} (sound : before.Sound ledger)
    (taken : SessionStep before action after) (exposed : ¬ Protected ⟨before, action, after⟩) :
    ∃ sessionId ∈ (ledger.add ⟨before, action, after⟩).saved, ∃ record,
      after.sessions.lookup sessionId = some record ∧
        (record.status = .expired ∨ record.status = .failed) := by
  unfold Protected at exposed
  unfold SessionStep sessionStep at taken
  cases action with
  | tick | start | insert | abandon | visit | redirect => exact absurd True.intro exposed
  | enter id runner =>
    dsimp only at exposed taken
    split at exposed
    · rename_i sessionId nowMs callback here
      push Not at exposed
      obtain ⟨record, there, stage, state, codeVerifier, callbackClaimed, flow, same, late⟩ := exposed
      obtain ⟨saved, isPending⟩ := (sound.records sessionId record there).finalizing stage
      rw [here] at taken
      dsimp only at taken
      split at taken
      · cases taken
        refine ⟨sessionId, List.mem_append_right _ saved, record.expire nowMs, ?_, .inl rfl⟩
        rw [enter_lookup, there, Option.map_some]
        exact congrArg some (SessionRecord.claimCallback_late flow same isPending late)
      · cases taken
    · exact absurd True.intro exposed
  | run id input =>
    cases input with
    | polled | exchanged | saved => exact absurd True.intro exposed
    | proceed =>
      dsimp only at exposed taken
      split at exposed
      · rename_i sessionId here
        have known := sound.runners id sessionId _ here
        obtain ⟨record, there⟩ := Option.ne_none_iff_exists'.mp exposed
        have isPending := known.guarded rfl record there
        rw [here] at taken
        cases taken
        refine ⟨sessionId, List.mem_append_right _ (known.saved.mpr rfl),
          record.markError .failed "credential_save_failed" before.clockMs, ?_, .inr ?_⟩
        · show (before.change sessionId _).sessions.lookup sessionId = _
          rw [change_lookup, if_pos rfl, there, Option.map_some]
        · unfold SessionRecord.markError
          rw [if_neg (not_not.mpr isPending)]
      · exact absurd True.intro exposed

/-- The step of a request that claims the code of a callback with the state of its session. -/
def ClaimedFor (sessionId code : String) (t : SessionTransition) : Prop :=
  ∃ id runner nowMs callback record codeVerifier, t.action = .enter id runner ∧
    t.before.tasks id = some (.visiting sessionId nowMs (.callback callback)) ∧
      t.before.sessions.lookup sessionId = some record ∧
        record.flowData = .browser callback.state codeVerifier false ∧
          record.status = .pending ∧ callback.code = some code

theorem claimed_of_mem {entry : String × String} (member : entry ∈ (ledgerOf history).claimed) :
    ∃ t ∈ history, claimedBy t = some entry := by
  induction history with
  | nil => exact absurd member List.not_mem_nil
  | cons t earlier ih =>
    obtain now | before := List.mem_append.mp member
    · exact ⟨t, List.mem_cons_self .., Option.mem_toList.mp now⟩
    · obtain ⟨claim, inside, is⟩ := ih before
      exact ⟨claim, List.mem_cons_of_mem _ inside, is⟩

theorem claimedFor_of_claimedBy {t : SessionTransition} {sessionId code : String}
    (is : claimedBy t = some (sessionId, code)) : ClaimedFor sessionId code t := by
  unfold claimedBy at is
  split at is
  · rename_i id runner action
    split at is
    · rename_i there nowMs visit here
      unfold claims at is
      cases visit with
      | get | cancel => cases is
      | callback callback =>
        obtain ⟨record, found, is⟩ := Option.bind_eq_some_iff.mp is
        have cases := record.claimCallback_cases callback nowMs
        cases result : record.claimCallback callback nowMs with
        | mk later outcome =>
          rw [result] at cases is
          cases cases with
          | refused | expired | failed => cases is
          | claimed state codeVerifier claimed flow same isPending carried =>
            cases is
            subst same
            exact ⟨id, runner, nowMs, callback, record, codeVerifier, action, here, found, flow,
              isPending, carried⟩
    · cases is
  · cases is

theorem exchangedBy_running {t : SessionTransition} {sessionId code : String}
    (is : exchangedBy t = some (sessionId, code)) : ∃ id codeVerifier,
      t.before.tasks id = some (.running sessionId (.exchangingBrowser code codeVerifier)) := by
  unfold exchangedBy at is
  split at is
  · split at is
    · rename_i there code codeVerifier here
      cases is
      exact ⟨_, codeVerifier, here⟩
    · cases is
  · cases is

theorem ledgerOf_exchanged : (ledgerOf history).exchanged = history.filterMap exchangedBy := by
  induction history with
  | nil => rfl
  | cons t earlier ih =>
    show (exchangedBy t).toList ++ (ledgerOf earlier).exchanged = _
    rw [ih, List.filterMap_cons]
    cases exchangedBy t <;> rfl

/-- The sessions of a run: one login of a target at a time, final statuses that stay, codes that
are exchanged once and for their own session, and logins that are not lost once they are stored. -/
structure SessionsSafe (history : List SessionTransition) (final : SessionStore) : Prop where
  oneUnderWay : ∀ target first second, UnderWay final target first → UnderWay final target second →
    first = second
  settled : ∀ t ∈ history, ∀ sessionId record, t.before.sessions.lookup sessionId = some record →
    record.status ≠ .pending → ∀ later, final.sessions.lookup sessionId = some later →
      later.status = record.status
  exchangedOnce : ((history.filterMap exchangedBy).map (·.1)).Nodup
  exchangedMatched : ∀ recent t earlier, history = recent ++ t :: earlier →
    ∀ sessionId code, exchangedBy t = some (sessionId, code) →
      ∃ claim ∈ earlier, ClaimedFor sessionId code claim
  savedKept : ∀ recent t earlier, history = recent ++ t :: earlier →
    ∀ sessionId ∈ (ledgerOf (t :: earlier)).saved, ∀ record,
      t.after.sessions.lookup sessionId = some record →
        record.status = .pending ∨ record.status = .completed

theorem settled_of_run (run : Execution SessionStep (.empty clockMs) history final)
    {t : SessionTransition} (member : t ∈ history) {sessionId : String} {record later : SessionRecord}
    (there : t.before.sessions.lookup sessionId = some record) (settled : record.status ≠ .pending)
    (found : final.sessions.lookup sessionId = some later) : later.status = record.status := by
  obtain ⟨recent, earlier, is⟩ := List.append_of_mem member
  subst is
  obtain ⟨earlierRun, taken, recentRun⟩ := run.split_at
  have issued := (run_ledger earlierRun).sessionsIssued sessionId record there
  obtain ⟨evolves, issues⟩ := step_evolves taken
  obtain ⟨middle, between, next⟩ := (run_evolves recentRun (issues sessionId issued)).2 later found
  obtain ⟨known, first, start⟩ := evolves sessionId issued middle between
  rw [there] at first
  cases first
  exact (start.trans next).settled settled

theorem exchangedMatched_of_run (run : Execution SessionStep (.empty clockMs) history final)
    {recent earlier : List SessionTransition} {t : SessionTransition}
    (is : history = recent ++ t :: earlier) {sessionId code : String}
    (exchanged : exchangedBy t = some (sessionId, code)) :
    ∃ claim ∈ earlier, ClaimedFor sessionId code claim := by
  subst is
  obtain ⟨id, codeVerifier, here⟩ := exchangedBy_running exchanged
  have runner := (run_ledger run.split_at.1).runners id sessionId _ here
  obtain ⟨claim, inside, claimed⟩ := claimed_of_mem (runner.claimed code codeVerifier rfl).1
  exact ⟨claim, inside, claimedFor_of_claimedBy claimed⟩

/-- Expiry, cancellation and failure spare a stored login exactly when every step is protected; the
rest of the sessions' safety needs nothing. -/
theorem sessions_safe_iff (run : Execution SessionStep (.empty clockMs) history final) :
    SessionsSafe history final ↔ ∀ t ∈ history, Protected t := by
  constructor
  · intro safe t member
    by_contra exposed
    obtain ⟨recent, earlier, is⟩ := List.append_of_mem member
    subst is
    obtain ⟨earlierRun, taken, _⟩ := run.split_at
    obtain ⟨sessionId, saved, record, found, spoilt⟩ :=
      unprotected_spoils (run_ledger earlierRun) taken exposed
    have kept := safe.savedKept recent t earlier rfl sessionId saved record found
    obtain lost | lost := spoilt <;>
      · rw [lost] at kept
        simp at kept
  · intro guarded
    refine ⟨fun target first second => (run_exclusive run).oneUnderWay, ?_, ?_, ?_, ?_⟩
    · exact fun t member sessionId record there settled later found =>
        settled_of_run run member there settled found
    · rw [← ledgerOf_exchanged]
      exact (run_ledger run).exchangedOnce
    · exact fun recent t earlier is sessionId code exchanged =>
        exchangedMatched_of_run run is exchanged
    · intro recent t earlier is sessionId saved record found
      subst is
      obtain ⟨earlierRun, taken, _⟩ := run.split_at
      have kept := run_kept_of_protected (earlierRun.next taken)
        fun other member => guarded other (List.mem_append_right _ member)
      obtain completed | ⟨isPending, _⟩ := kept sessionId saved record found
      · exact .inr completed
      · exact .inl isPending

def browserCallback : BrowserCallback where
  state := "s"
  code := some "c"
  error := none

def browserLogin : List SessionAction :=
  [.run 2 .proceed, .run 2 (.saved (.ok 7))] ++ List.replicate 7 (.run 2 .proceed) ++
    [.run 2 (.exchanged (.ok ⟨.ok "account"⟩)), .enter 1 2, .visit 1 "id" (.callback browserCallback),
      .insert 0 "id" ("s", "verifier") 9, .start 0 (1, none) .browser]

theorem sessions_safe_iff_login : ∃ history final,
    Execution SessionStep (.empty 0) history final ∧
      (final.sessions.lookup "id").map (·.status) = some .completed ∧
        (SessionsSafe history final ↔ ∀ t ∈ history, Protected t) := by
  have replayed : ∃ run, replay sessionStep (.empty 0) (.run 2 .proceed :: browserLogin) = some run ∧
      (run.2.sessions.lookup "id").map (·.status) = some .completed := ⟨_, rfl, by decide⟩
  obtain ⟨⟨history, final⟩, run, completed⟩ := replayed
  exact ⟨history, final, replay_run run, completed, sessions_safe_iff (replay_run run)⟩

/-- The key is stored, and the session is expired for all that. -/
theorem stored_login_expires : ∃ history final, Execution SessionStep (.empty 0) history final ∧
    "id" ∈ (ledgerOf history).saved ∧
      (final.sessions.lookup "id").map (·.status) = some .expired ∧ ¬ SessionsSafe history final := by
  have replayed : ∃ run, replay sessionStep (.empty 0)
      (.enter 3 4 :: .visit 3 "id" (.callback browserCallback) :: .tick 300000 :: browserLogin) =
        some run ∧ "id" ∈ (ledgerOf run.1).saved ∧
          (run.2.sessions.lookup "id").map (·.status) = some .expired := ⟨_, rfl, by decide, by decide⟩
  obtain ⟨⟨history, final⟩, run, saved, expired⟩ := replayed
  refine ⟨history, final, replay_run run, saved, expired, fun safe => ?_⟩
  obtain ⟨record, found, is⟩ := Option.map_eq_some_iff.mp expired
  have run := replay_run run
  cases run with
  | start => exact absurd saved List.not_mem_nil
  | next run taken =>
    have kept := safe.savedKept [] _ _ rfl "id" saved record found
    rw [is] at kept
    simp at kept

end CodexGate.Oauth
