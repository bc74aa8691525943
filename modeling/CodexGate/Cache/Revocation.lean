import CodexGate.Cache.ApiKeys

namespace CodexGate.Cache

open Foundation

def ValidatePhase.readAt : ValidatePhase → Option Nat
  | .rowRead _ readAt | .groupsRead _ _ readAt | .loaded _ readAt | .answered _ readAt =>
    some readAt
  | .missed | .failed => none

namespace ApiKeyWorld

abbrev Run (policy : ApiKeyCachePolicy) (tables : ApiKeyTables) :=
  Execution (fun before action after => step policy before action = some after) (new tables)

/-- No call answers from a row that was read before a change whose invalidation the call has
begun behind. -/
def AnswersFresh (world : ApiKeyWorld) : Prop :=
  ∀ call validate answer readAt, world.calls call = some validate →
    validate.phase = .answered answer readAt → validate.began ≤ readAt

def insertedAt (t : Transition ApiKeyWorld ApiKeyAction) : Option Nat :=
  match t.action with
  | .insert call _ => (t.before.calls call).bind fun validate => validate.phase.readAt
  | _ => none

/-- No invalidation has followed a change that was made since the inserted row was read. -/
def InsertsCurrent (t : Transition ApiKeyWorld ApiKeyAction) : Prop :=
  ∀ readAt ∈ insertedAt t, t.before.invalidated ≤ readAt

instance (t : Transition ApiKeyWorld ApiKeyAction) : Decidable (InsertsCurrent t) :=
  inferInstanceAs (Decidable (∀ readAt ∈ insertedAt t, t.before.invalidated ≤ readAt))

def copies (world : ApiKeyWorld) : Copies String Nat where
  changes := world.changes
  floor := world.invalidated
  cached keyHash := (world.byHash.lookup keyHash).map ApiKeyEntry.readAt
  began call := ((world.calls call).map ValidateCall.began).getD 0
  held call := { stamp | ((world.calls call).bind fun validate => validate.phase.readAt) = some stamp }

theorem copies_setCall (world : ApiKeyWorld) (call : Nat) (validate : ValidateCall) :
    copies (world.setCall call validate) =
      { (copies world).holding call { stamp | validate.phase.readAt = some stamp } with
        began := Function.update (copies world).began call validate.began } := by
  unfold copies setCall Copies.holding
  congr 1
  · exact Function.comp_update (fun found => (found.map ValidateCall.began).getD 0) world.calls call _
  · exact Function.comp_update (fun found => { stamp | (found.bind fun validate => validate.phase.readAt) = some stamp })
      world.calls call _

theorem copies_setPhase {world : ApiKeyWorld} {call : Nat} {validate : ValidateCall}
    (active : world.calls call = some validate) (phase : ValidatePhase) :
    copies (world.setPhase call validate phase) =
      (copies world).holding call { stamp | phase.readAt = some stamp } := by
  have began : (copies world).began call = validate.began := by
    simp [copies, active]
  rw [setPhase, copies_setCall, ← began, Function.update_eq_self]
  rfl

theorem copies_insert {policy : ApiKeyCachePolicy} {world : ApiKeyWorld} {call : Nat}
    {validate : ValidateCall} (active : world.calls call = some validate) (value : ApiKeyAuth)
    (readAt : Nat) (listing : List String) :
    copies (world.insert policy call validate value readAt listing) =
      { (copies world).holding call { stamp | some readAt = some stamp } with
        cached := (copies (world.insert policy call validate value readAt listing)).cached } := by
  have kept := copies_setPhase active (.answered (checkLive value validate.nowMs) readAt)
  exact congrArg (fun c => { c with
    cached := (copies (world.insert policy call validate value readAt listing)).cached }) kept

theorem held_of_phase {world : ApiKeyWorld} {call : Nat} {validate : ValidateCall}
    (active : world.calls call = some validate) {stamp : Nat}
    (reads : validate.phase.readAt = some stamp) : stamp ∈ (copies world).held call := by
  simp [copies, active, reads]

theorem getFresh_lookup {policy : ApiKeyCachePolicy} {byHash : ApiKeyEntries} {clock : Nat}
    {keyHash : String} {hit : ApiKeyEntry} (fresh : getFresh policy byHash clock keyHash = some hit) :
    byHash.lookup keyHash = some hit := by
  unfold getFresh at fresh
  cases found : byHash.lookup keyHash with
  | none =>
    rw [found] at fresh
    cases fresh
  | some entry =>
    simp only [found] at fresh
    split at fresh
    · cases fresh
    · exact fresh

theorem trimToBudget_lookup {policy : ApiKeyCachePolicy} {listing : List String}
    {cache : ApiKeyEntries} {keyHash : String} {entry : ApiKeyEntry}
    (found : (trimToBudget policy listing cache).lookup keyHash = some entry) :
    cache.lookup keyHash = some entry := by
  have erased : ∀ (victims : List String) (cache : ApiKeyEntries),
      (victims.foldl (fun cache key => cache.erase key) cache).lookup keyHash = some entry →
      cache.lookup keyHash = some entry := by
    intro victims
    induction victims with
    | nil => exact fun _ found => found
    | cons victim rest ih =>
      intro cache found
      have left := ih _ found
      by_cases same : keyHash = victim
      · rw [same, AList.lookup_erase] at left
        cases left
      · rwa [AList.lookup_erase_ne same] at left
  unfold trimToBudget at found
  split at found
  · exact found
  · exact erased _ _ found

theorem step_copies {policy : ApiKeyCachePolicy} {world next : ApiKeyWorld}
    {action : ApiKeyAction} (taken : world.step policy action = some next)
    (current : InsertsCurrent ⟨world, action, next⟩) : Copies.Step (copies world) (copies next) := by
  cases action with
  | begin call keyHash nowMs =>
    simp only [step] at taken
    split at taken
    · cases taken
    · cases taken
      rw [begin, copies_setCall]
      refine Copies.Step.begin call ?_
      intro stamp member
      cases hit : getFresh policy world.byHash world.clock keyHash with
      | none =>
        rw [hit] at member
        cases member
      | some entry =>
        rw [hit] at member
        cases member
        refine ⟨keyHash, ?_⟩
        simp [copies, getFresh_lookup hit]
  | readRow call =>
    obtain ⟨validate, active, taken⟩ := Option.bind_eq_some_iff.mp taken
    split at taken
    · cases taken
      rw [readRow, copies_setPhase active]
      refine Copies.Step.hold call ?_
      intro stamp member
      refine .inr (.inr ?_)
      simp only [Set.mem_ofPred_eq] at member
      split at member
      · exact (Option.some.inj member).symm
      · exact (Option.some.inj member).symm
    · cases taken
  | readGroups call =>
    obtain ⟨validate, active, taken⟩ := Option.bind_eq_some_iff.mp taken
    split at taken
    · next row readAt phase =>
      cases taken
      rw [copies_setPhase active]
      refine Copies.Step.hold call ?_
      intro stamp member
      exact .inl (held_of_phase active (by rw [phase]; exact member))
    · cases taken
  | readProviders call =>
    obtain ⟨validate, active, taken⟩ := Option.bind_eq_some_iff.mp taken
    split at taken
    · next row groups readAt phase =>
      cases taken
      rw [copies_setPhase active]
      refine Copies.Step.hold call ?_
      intro stamp member
      exact .inl (held_of_phase active (by rw [phase]; exact member))
    · cases taken
  | fail call =>
    obtain ⟨validate, active, taken⟩ := Option.bind_eq_some_iff.mp taken
    have failed : next = world.setPhase call validate .failed := by
      split at taken
      · exact (Option.some.inj taken).symm
      · exact (Option.some.inj taken).symm
      · exact (Option.some.inj taken).symm
      · cases taken
    rw [failed, copies_setPhase active]
    refine Copies.Step.hold call ?_
    intro stamp member
    cases member
  | insert call listing =>
    obtain ⟨validate, active, taken⟩ := Option.bind_eq_some_iff.mp taken
    split at taken
    · next value readAt phase =>
      cases taken
      have reads : validate.phase.readAt = some readAt := by
        rw [phase]
        rfl
      have owned := held_of_phase active reads
      have fresh : world.invalidated ≤ readAt :=
        current readAt (by simp [insertedAt, active, reads])
      rw [copies_insert active value readAt listing]
      refine Copies.Step.publish call ?_ ?_
      · intro stamp member
        cases member
        exact owned
      · intro place stamp there
        obtain ⟨entry, found, same⟩ := Option.map_eq_some_iff.mp there
        have inserted := trimToBudget_lookup found
        by_cases here : place = validate.keyHash
        · rw [here, AList.lookup_insert] at inserted
          cases inserted
          cases same
          exact .inr ⟨owned, fresh⟩
        · rw [AList.lookup_insert_ne here] at inserted
          left
          simp [copies, inserted, same]
    · cases taken
  | change change =>
    cases taken
    exact Copies.Step.change
  | invalidateAll change =>
    simp only [step] at taken
    split at taken
    · next made =>
      cases taken
      exact Copies.Step.invalidate made
    · cases taken
  | tick elapsed =>
    cases taken
    exact Copies.Step.idle

theorem new_copies (tables : ApiKeyTables) : Copies.Fresh (copies (new tables)) := by
  refine ⟨Nat.le_refl _, ?_, ?_, ?_⟩
  · intro place stamp there
    cases there
  · intro call
    exact Nat.le_refl _
  · intro call stamp member
    cases member

/-- A call that begins behind an invalidation answers from no row older than the change that the
invalidation followed, in every run in which rows are inserted before an invalidation follows
a change made since they were read. -/
theorem run_answersFresh (policy : ApiKeyCachePolicy) (tables : ApiKeyTables)
    {history : List (Transition ApiKeyWorld ApiKeyAction)} {world : ApiKeyWorld}
    (run : Run policy tables history world) (current : ∀ t ∈ history, InsertsCurrent t) :
    AnswersFresh world := by
  have fresh : (∀ t ∈ history, InsertsCurrent t) → Copies.Fresh (copies world) := by
    refine run.invariant (P := fun history world => (∀ t ∈ history, InsertsCurrent t) →
      Copies.Fresh (copies world)) (fun _ => new_copies tables) ?_
    intro history before action after kept taken current
    have earlier := kept fun t member => current t (List.mem_cons_of_mem _ member)
    exact earlier.step (step_copies taken (current _ List.mem_cons_self))
  intro call validate answer readAt active phase
  have held := (fresh current).held call readAt (held_of_phase active (by rw [phase]; rfl))
  simpa [copies, active] using held

def oneKey : ApiKeyTables where
  apiKeys keyHash := if keyHash = "k" then some ⟨1, true, none, true, "key"⟩ else none
  providerGroups _ := []
  allowedProviders _ := [1]

def revoke (tables : ApiKeyTables) : ApiKeyTables :=
  { tables with apiKeys := fun keyHash =>
      (tables.apiKeys keyHash).map fun row => { row with enabled := false } }

def lookupOf (call : Nat) : List ApiKeyAction :=
  [.readProviders call, .readGroups call, .readRow call, .begin call "k" 0]

/-- The key is looked up, revoked, and looked up again. -/
theorem run_answersFresh_revoked :
    ∃ run, replay (step ⟨30000, 2048⟩) (new oneKey)
        ([.begin 2 "k" 0, .invalidateAll 1, .change revoke, .insert 1 ["k"]] ++ lookupOf 1) =
      some run ∧ AnswersFresh run.2 :=
  ⟨(replay (step ⟨30000, 2048⟩) (new oneKey)
    ([.begin 2 "k" 0, .invalidateAll 1, .change revoke, .insert 1 ["k"]] ++ lookupOf 1)).get
      (by decide), (Option.some_get _).symm,
    run_answersFresh ⟨30000, 2048⟩ oneKey (replay_run (Option.some_get _).symm) (by decide)⟩

/-- A lookup that has read the row before the key is revoked brings it back behind the
invalidation, and the next call accepts the key. -/
theorem run_answersFresh_fails :
    ∃ history world, Run ⟨30000, 2048⟩ oneKey history world ∧ ¬AnswersFresh world := by
  have replayed : ∃ run, replay (step ⟨30000, 2048⟩) (new oneKey)
      ([.begin 2 "k" 0, .insert 1 ["k"], .invalidateAll 1, .change revoke] ++ lookupOf 1) =
        some run ∧ (run.2.calls 2).map (fun validate => (validate.began, validate.phase)) =
          some (1, .answered (some ⟨1, true, none, true, "key", [], [1]⟩) 0) :=
    ⟨_, rfl, rfl⟩
  obtain ⟨⟨history, world⟩, replayed, second⟩ := replayed
  refine ⟨history, world, replay_run replayed, ?_⟩
  intro fresh
  obtain ⟨validate, active, same⟩ := Option.map_eq_some_iff.mp second
  have began : validate.began = 1 := congrArg Prod.fst same
  have phase := congrArg Prod.snd same
  have recent := fresh 2 validate _ 0 active phase
  omega

end ApiKeyWorld

end CodexGate.Cache
