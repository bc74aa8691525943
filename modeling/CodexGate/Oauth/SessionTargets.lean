import CodexGate.Oauth.SessionRuns

namespace CodexGate.Oauth

open Foundation SessionStore

variable {before after : SessionStore} {ledger : Ledger}

theorem Evolves.trans {record later third : SessionRecord} (evolves : Evolves record later)
    (next : Evolves later third) : Evolves record third := by
  refine ⟨next.target.trans evolves.target, fun settled => ?_,
    fun engaged => next.engaged (evolves.engaged engaged)⟩
  have same := evolves.settled settled
  rw [← same] at settled
  exact (next.settled settled).trans same

theorem Evolves.pending {record later : SessionRecord} (evolves : Evolves record later)
    (isPending : later.status = .pending) : record.status = .pending := by
  by_contra settled
  rw [evolves.settled settled] at isPending
  exact settled isPending

/-- The task of a login changes no other task and no other session. -/
structure Moves (id : Nat) (sessionId : String) (before after : SessionStore) : Prop where
  own : ∀ later, after.sessions.lookup sessionId = some later →
    ∃ record, before.sessions.lookup sessionId = some record ∧ Evolves record later
  others : ∀ other, other ≠ sessionId → after.sessions.lookup other = before.sessions.lookup other
  tasks : ∀ other, other ≠ id → after.tasks other = before.tasks other
  starting : ∀ target nowMs flow, after.tasks id = some (.starting target nowMs flow) →
    before.tasks id = some (.starting target nowMs flow)
  targets : after.startingTargets = before.startingTargets
  issued : after.issued = before.issued

namespace Moves

variable {id : Nat} {sessionId : String}

theorem trans {third : SessionStore} (moves : Moves id sessionId before after)
    (next : Moves id sessionId after third) : Moves id sessionId before third := by
  refine ⟨?_, fun other apart => (next.others other apart).trans (moves.others other apart),
    fun other apart => (next.tasks other apart).trans (moves.tasks other apart),
    fun target nowMs flow there => moves.starting target nowMs flow
      (next.starting target nowMs flow there),
    next.targets.trans moves.targets, next.issued.trans moves.issued⟩
  intro later found
  obtain ⟨middle, there, evolves⟩ := next.own later found
  obtain ⟨record, first, start⟩ := moves.own middle there
  exact ⟨record, first, start.trans evolves⟩

theorem task (store : SessionStore) {task : Option SessionTask}
    (starts : ∀ target nowMs flow, task ≠ some (.starting target nowMs flow))
    (gates : String → Option Nat) :
    Moves id sessionId store
      { store with tasks := Function.update store.tasks id task, gates := gates } := by
  refine ⟨fun later found => ⟨later, found, later.evolves_refl⟩, fun _ _ => rfl,
    fun other apart => Function.update_of_ne apart _ _, ?_, rfl, rfl⟩
  intro target nowMs flow there
  exact absurd ((Function.update_self ..).symm.trans there) (starts target nowMs flow)

theorem become (store : SessionStore) (phase : RunnerPhase) :
    Moves id sessionId store (store.become id (.running sessionId phase)) :=
  task store (fun _ _ _ is => by cases is) store.gates

theorem leave (store : SessionStore) : Moves id sessionId store (store.leave id sessionId) :=
  task store (fun _ _ _ is => by cases is) _

theorem change (store : SessionStore) {f : SessionRecord → SessionRecord}
    (evolves : ∀ record, Evolves record (f record)) :
    Moves id sessionId store (store.change sessionId f) := by
  refine ⟨?_, ?_, ?_, ?_, change_startingTargets store sessionId f, change_issued store sessionId f⟩
  · intro later found
    rw [change_lookup, if_pos rfl] at found
    obtain ⟨record, there, is⟩ := Option.map_eq_some_iff.mp found
    rw [← is]
    exact ⟨record, there, evolves record⟩
  · intro other apart
    rw [change_lookup, if_neg apart]
  · intro other _
    rw [change_tasks]
  · intro target nowMs flow there
    rwa [change_tasks] at there

theorem run {phase : RunnerPhase} {input : RunnerInput}
    (taken : stepRunner before id sessionId phase input = some after) :
    Moves id sessionId before after := by
  have becomes : ∀ phase, Moves id sessionId before (before.become id (.running sessionId phase)) :=
    become before
  have leaves : Moves id sessionId before (before.leave id sessionId) := leave before
  have marks : ∀ {f : SessionRecord → SessionRecord}, (∀ record, Evolves record (f record)) →
      Moves id sessionId before ((before.change sessionId f).leave id sessionId) := fun evolves =>
    (change before evolves).trans (leave _)
  cases phase with
  | polling =>
    cases input with
    | proceed =>
      cases taken
      split
      · exact leaves
      · split
        · exact leaves
        · split <;> exact becomes _
    | polled | exchanged | saved => cases taken
  | polled =>
    cases input with
    | polled poll =>
      cases taken
      split <;> exact becomes _
    | proceed | exchanged | saved => cases taken
  | authorized code =>
    cases input with
    | proceed =>
      cases taken
      split
      · exact leaves
      · exact (change before fun record => record.evolves_markStage .exchanging).trans (become _ _)
    | polled | exchanged | saved => cases taken
  | exchangingDevice | exchangingBrowser =>
    cases input with
    | exchanged result =>
      cases taken
      split <;> exact becomes _
    | proceed | polled | saved => cases taken
  | exchanged bundle | gating | holding =>
    cases input with
    | proceed =>
      cases taken
      split
      · first
          | exact leaves
          | exact becomes _
      · first
          | exact becomes _
          | exact leaves
    | polled | exchanged | saved => cases taken
  | parsing bundle =>
    cases input with
    | proceed =>
      cases taken
      split
      · exact becomes _
      · split <;> exact becomes _
    | polled | exchanged | saved => cases taken
  | waiting =>
    cases input with
    | proceed =>
      simp only [stepRunner] at taken
      split at taken
      · cases taken
        exact task before (fun _ _ _ is => by cases is) _
      · cases taken
    | polled | exchanged | saved => cases taken
  | expiring =>
    cases input with
    | proceed =>
      cases taken
      split <;> exact becomes _
    | polled | exchanged | saved => cases taken
  | targeting =>
    cases input with
    | proceed =>
      cases taken
      split
      · exact becomes _
      · exact leaves
    | polled | exchanged | saved => cases taken
  | saving target =>
    cases input with
    | saved result =>
      cases taken
      split <;> exact becomes _
    | proceed | polled | exchanged => cases taken
  | saveFailed | failing =>
    cases input with
    | proceed =>
      cases taken
      exact marks fun record => record.evolves_markError _ _ _
    | polled | exchanged | saved => cases taken
  | finalizing keyId =>
    cases input with
    | proceed =>
      cases taken
      split
      · exact leaves
      · exact (marks fun record => record.evolves_markStage .finalizing).trans (become _ _)
    | polled | exchanged | saved => cases taken
  | completing keyId =>
    cases input with
    | proceed =>
      cases taken
      exact marks fun record => record.evolves_markCompleted _ _
    | polled | exchanged | saved => cases taken

theorem enter (store : SessionStore) (sessionId : String) (nowMs : Int) (runner : Nat)
    (visit : Visit) : Moves runner sessionId store (store.enter sessionId nowMs runner visit) := by
  cases visit with
  | get => exact change store fun record => record.evolves_observe _
  | cancel => exact change store fun record => record.evolves_cancel _
  | callback callback =>
    have changed : Moves runner sessionId store (store.change sessionId fun record =>
        (record.claimCallback callback nowMs).1) :=
      change store fun record => record.evolves_claimCallback callback nowMs
    unfold SessionStore.enter
    dsimp only
    split
    · exact ⟨fun later found => ⟨later, found, later.evolves_refl⟩, fun _ _ => rfl, fun _ _ => rfl,
        fun _ _ _ there => there, rfl, rfl⟩
    · split
      · exact changed.trans (become _ _)
      · exact changed

end Moves

structure Frame (before after : SessionStore) : Prop where
  sessions : ∀ sessionId later, after.sessions.lookup sessionId = some later →
    ∃ record, before.sessions.lookup sessionId = some record ∧ Evolves record later
  starting : ∀ id target nowMs flow, after.tasks id = some (.starting target nowMs flow) →
    before.tasks id = some (.starting target nowMs flow)
  targets : after.startingTargets = before.startingTargets
  issued : after.issued = before.issued

namespace Frame

theorem trans {third : SessionStore} (frame : Frame before after) (next : Frame after third) :
    Frame before third := by
  refine ⟨?_, fun id target nowMs flow there =>
    frame.starting id target nowMs flow (next.starting id target nowMs flow there),
    next.targets.trans frame.targets, next.issued.trans frame.issued⟩
  intro sessionId later found
  obtain ⟨middle, there, evolves⟩ := next.sessions sessionId later found
  obtain ⟨record, first, start⟩ := frame.sessions sessionId middle there
  exact ⟨record, first, start.trans evolves⟩

theorem task (store : SessionStore) (id : Nat) {task : Option SessionTask}
    (starts : ∀ target nowMs flow, task ≠ some (.starting target nowMs flow)) :
    Frame store { store with tasks := Function.update store.tasks id task } := by
  refine ⟨fun _ later found => ⟨later, found, later.evolves_refl⟩, ?_, rfl, rfl⟩
  intro other target nowMs flow there
  by_cases same : other = id
  · subst same
    simp only [Function.update_self] at there
    exact absurd there (starts target nowMs flow)
  · simpa only [Function.update_of_ne same] using there

theorem prune (store : SessionStore) (nowMs : Int) : Frame store (store.prune nowMs) :=
  ⟨fun sessionId later found =>
      ⟨later, (quiet_prune store nowMs).sessions sessionId later found, later.evolves_refl⟩,
    fun _ _ _ _ there => there, rfl, rfl⟩

theorem visitor (store : SessionStore) (id : Nat) (sessionId : String) (visit : Visit) :
    Frame store (store.visitor id sessionId visit) := by
  unfold SessionStore.visitor
  dsimp only
  split
  · exact (prune store store.clockMs).trans (task _ id fun _ _ _ is => by cases is)
  · exact prune store store.clockMs

theorem moves {id : Nat} {sessionId : String} (moves : Moves id sessionId before after) :
    Frame before after := by
  refine ⟨?_, ?_, moves.targets, moves.issued⟩
  · intro other later found
    by_cases same : other = sessionId
    · subst same
      exact moves.own later found
    · rw [moves.others other same] at found
      exact ⟨later, found, later.evolves_refl⟩
  · intro other target nowMs flow there
    by_cases same : other = id
    · subst same
      exact moves.starting target nowMs flow there
    · rwa [moves.tasks other same] at there

end Frame

def UnderWay (store : SessionStore) (target : SessionTarget) : Nat ⊕ String → Prop
  | .inl id => ∃ nowMs flow, store.tasks id = some (.starting target nowMs flow)
  | .inr sessionId => ∃ record, store.sessions.lookup sessionId = some record ∧
    record.status = .pending ∧ record.target = target

/-- The targets of the calls under way are reserved, and no others than theirs are pending. -/
structure Exclusive (store : SessionStore) : Prop where
  reserved : ∀ id target, UnderWay store target (.inl id) → target ∈ store.startingTargets
  notPending : ∀ target ∈ store.startingTargets, ∀ sessionId,
    ¬ UnderWay store target (.inr sessionId)
  oneCall : ∀ target id id', UnderWay store target (.inl id) → UnderWay store target (.inl id') →
    id = id'
  oneSession : ∀ target sessionId sessionId', UnderWay store target (.inr sessionId) →
    UnderWay store target (.inr sessionId') → sessionId = sessionId'

theorem Exclusive.oneUnderWay {store : SessionStore} (exclusive : Exclusive store)
    {target : SessionTarget} {first second : Nat ⊕ String} (one : UnderWay store target first)
    (other : UnderWay store target second) : first = second := by
  cases first with
  | inl id =>
    cases second with
    | inl id' => rw [exclusive.oneCall target id id' one other]
    | inr sessionId =>
      exact absurd other (exclusive.notPending target (exclusive.reserved id target one) sessionId)
  | inr sessionId =>
    cases second with
    | inl id =>
      exact absurd one (exclusive.notPending target (exclusive.reserved id target other) sessionId)
    | inr sessionId' => rw [exclusive.oneSession target sessionId sessionId' one other]

theorem Frame.underWay (frame : Frame before after) {target : SessionTarget}
    {party : Nat ⊕ String} (under : UnderWay after target party) : UnderWay before target party := by
  cases party with
  | inl id =>
    obtain ⟨nowMs, flow, there⟩ := under
    exact ⟨nowMs, flow, frame.starting id target nowMs flow there⟩
  | inr sessionId =>
    obtain ⟨later, found, isPending, same⟩ := under
    obtain ⟨record, there, evolves⟩ := frame.sessions sessionId later found
    exact ⟨record, there, evolves.pending isPending, evolves.target.symm.trans same⟩

theorem Exclusive.frame (exclusive : Exclusive before) (frame : Frame before after) :
    Exclusive after := by
  refine ⟨?_, ?_, ?_, ?_⟩
  · intro id target under
    rw [frame.targets]
    exact exclusive.reserved id target (frame.underWay under)
  · intro target member sessionId under
    rw [frame.targets] at member
    exact exclusive.notPending target member sessionId (frame.underWay under)
  · intro target id id' one other
    exact exclusive.oneCall target id id' (frame.underWay one) (frame.underWay other)
  · intro target sessionId sessionId' one other
    exact exclusive.oneSession target sessionId sessionId' (frame.underWay one)
      (frame.underWay other)

theorem not_reserved {target : SessionTarget} (free : before.targetReserved target = false) :
    target ∉ before.startingTargets ∧ ∀ sessionId, ¬ UnderWay before target (.inr sessionId) := by
  unfold SessionStore.targetReserved at free
  obtain ⟨notStarting, notPending⟩ := Bool.or_eq_false_iff.mp free
  refine ⟨of_decide_eq_false notStarting, ?_⟩
  rintro sessionId ⟨record, found, isPending, same⟩
  have stored := List.any_eq_false.mp notPending ⟨sessionId, record⟩ (AList.mem_lookup_iff.mp found)
  simp [isPending, same] at stored

theorem Exclusive.start (exclusive : Exclusive before) {id : Nat} {target : SessionTarget}
    {nowMs : Int} {flow : CodexOAuthFlow} (free : before.targetReserved target = false) :
    Exclusive { before.become id (.starting target nowMs flow) with
      startingTargets := insert target before.startingTargets } := by
  obtain ⟨notStarting, notPending⟩ := not_reserved free
  have calls : ∀ other otherTarget, UnderWay { before.become id (.starting target nowMs flow) with
      startingTargets := insert target before.startingTargets } otherTarget (.inl other) →
      other = id ∧ otherTarget = target ∨ UnderWay before otherTarget (.inl other) := by
    rintro other otherTarget ⟨otherMs, otherFlow, there⟩
    by_cases same : other = id
    · subst same
      simp only [SessionStore.become, Function.update_self, Option.some.injEq] at there
      cases there
      exact .inl ⟨rfl, rfl⟩
    · simp only [SessionStore.become, Function.update_of_ne same] at there
      exact .inr ⟨otherMs, otherFlow, there⟩
  have alone : ∀ other, ¬ UnderWay before target (.inl other) := fun other under =>
    notStarting (exclusive.reserved other target under)
  refine ⟨?_, ?_, ?_, exclusive.oneSession⟩
  · intro other otherTarget under
    obtain ⟨_, rfl⟩ | under := calls other otherTarget under
    · exact Finset.mem_insert_self ..
    · exact Finset.mem_insert_of_mem (exclusive.reserved other otherTarget under)
  · intro otherTarget member sessionId under
    obtain rfl | member := Finset.mem_insert.mp member
    · exact notPending sessionId under
    · exact exclusive.notPending otherTarget member sessionId under
  · intro otherTarget first second one other
    obtain ⟨rfl, rfl⟩ | known := calls first otherTarget one
    · obtain ⟨rfl, _⟩ | known := calls second otherTarget other
      · rfl
      · exact absurd known (alone second)
    · obtain ⟨rfl, rfl⟩ | known' := calls second otherTarget other
      · exact absurd known (alone first)
      · exact exclusive.oneCall otherTarget first second known known'

theorem Exclusive.ends (exclusive : Exclusive before) {id : Nat} {target : SessionTarget}
    (here : UnderWay before target (.inl id))
    (sessions : ∀ otherTarget sessionId, UnderWay after otherTarget (.inr sessionId) →
      UnderWay before otherTarget (.inr sessionId) ∨ otherTarget = target)
    (oneSession : ∀ sessionId sessionId', UnderWay after target (.inr sessionId) →
      UnderWay after target (.inr sessionId') → sessionId = sessionId')
    (calls : ∀ otherTarget other, UnderWay after otherTarget (.inl other) →
      UnderWay before otherTarget (.inl other) ∧ other ≠ id)
    (targets : after.startingTargets = before.startingTargets.erase target) : Exclusive after := by
  refine ⟨?_, ?_, ?_, ?_⟩
  · intro other otherTarget under
    obtain ⟨under, apart⟩ := calls otherTarget other under
    rw [targets]
    refine Finset.mem_erase.mpr ⟨?_, exclusive.reserved other otherTarget under⟩
    intro same
    subst same
    exact apart (exclusive.oneCall otherTarget other id under here)
  · intro otherTarget member sessionId under
    rw [targets] at member
    obtain ⟨apart, member⟩ := Finset.mem_erase.mp member
    obtain under | same := sessions otherTarget sessionId under
    · exact exclusive.notPending otherTarget member sessionId under
    · exact apart same
  · intro otherTarget first second one other
    exact exclusive.oneCall otherTarget first second (calls otherTarget first one).1
      (calls otherTarget second other).1
  · intro otherTarget sessionId sessionId' one other
    by_cases same : otherTarget = target
    · subst same
      exact oneSession sessionId sessionId' one other
    · exact exclusive.oneSession otherTarget sessionId sessionId'
        ((sessions otherTarget sessionId one).resolve_right same)
        ((sessions otherTarget sessionId' other).resolve_right same)

theorem insert_exclusive (exclusive : Exclusive before) {id runner : Nat} {sessionId : String}
    {target : SessionTarget} {nowMs : Int} {flow : CodexOAuthFlow} {codes : String × String}
    (here : before.tasks id = some (.starting target nowMs flow)) :
    Exclusive (before.insert id target nowMs flow sessionId codes runner) := by
  have own : UnderWay before target (.inl id) := ⟨nowMs, flow, here⟩
  have free := exclusive.notPending target (exclusive.reserved id target own)
  have inserted : ∃ record : SessionRecord, record.target = target ∧
      (before.insert id target nowMs flow sessionId codes runner).sessions =
        before.sessions.insert sessionId record := by
    unfold SessionStore.insert
    cases flow <;> exact ⟨_, rfl, rfl⟩
  obtain ⟨record, same, sessions⟩ := inserted
  have stays : ∀ otherTarget other, UnderWay (before.insert id target nowMs flow sessionId codes
      runner) otherTarget (.inr other) → UnderWay before otherTarget (.inr other) ∨
        otherTarget = target ∧ other = sessionId := by
    rintro otherTarget other ⟨later, found, isPending, is⟩
    rw [sessions] at found
    by_cases equal : other = sessionId
    · subst equal
      rw [AList.lookup_insert, Option.some.injEq] at found
      subst found
      exact .inr ⟨is.symm.trans same, rfl⟩
    · rw [AList.lookup_insert_ne equal] at found
      exact .inl ⟨later, found, isPending, is⟩
  refine exclusive.ends own ?_ ?_ ?_ ?_
  · exact fun otherTarget other under => (stays otherTarget other under).imp_right And.left
  · intro first second one other
    obtain under | ⟨_, rfl⟩ := stays target first one
    · exact absurd under (free first)
    · obtain under | ⟨_, rfl⟩ := stays target second other
      · exact absurd under (free second)
      · rfl
  · rintro otherTarget other ⟨otherMs, otherFlow, there⟩
    have ended : Function.update before.tasks id none other =
        some (.starting otherTarget otherMs otherFlow) := by
      unfold SessionStore.insert at there
      cases flow with
      | browser => exact there
      | device =>
        simp only [SessionStore.become] at there
        by_cases equal : other = runner
        · subst equal
          rw [Function.update_self] at there
          cases there
        · rwa [Function.update_of_ne equal] at there
    by_cases equal : other = id
    · subst equal
      rw [Function.update_self] at ended
      cases ended
    · rw [Function.update_of_ne equal] at ended
      exact ⟨⟨otherMs, otherFlow, ended⟩, equal⟩
  · unfold SessionStore.insert
    cases flow <;> rfl

theorem abandon_exclusive (exclusive : Exclusive before) {id : Nat} {target : SessionTarget}
    {nowMs : Int} {flow : CodexOAuthFlow}
    (here : before.tasks id = some (.starting target nowMs flow)) :
    Exclusive { before with
      tasks := Function.update before.tasks id none
      startingTargets := before.startingTargets.erase target } := by
  have own : UnderWay before target (.inl id) := ⟨nowMs, flow, here⟩
  refine exclusive.ends own (fun _ _ under => .inl under)
    (fun first second one other => exclusive.oneSession target first second one other) ?_ rfl
  rintro otherTarget other ⟨otherMs, otherFlow, there⟩
  by_cases equal : other = id
  · subst equal
    simp only [Function.update_self, reduceCtorEq] at there
  · simp only [Function.update_of_ne equal] at there
    exact ⟨⟨otherMs, otherFlow, there⟩, equal⟩

theorem enter_frame {id runner : Nat} {sessionId : String} {nowMs : Int} {visit : Visit} :
    Frame before ((entering before id).enter sessionId nowMs runner visit) :=
  (Frame.task before id fun _ _ _ is => by cases is).trans
    (Frame.moves (Moves.enter (entering before id) sessionId nowMs runner visit))

theorem step_exclusive {action : SessionAction} (exclusive : Exclusive before)
    (taken : SessionStep before action after) : Exclusive after := by
  unfold SessionStep sessionStep at taken
  cases action with
  | tick nowMs =>
    dsimp only at taken
    split at taken
    · cases taken
      exact exclusive.frame ⟨fun _ later found => ⟨later, found, later.evolves_refl⟩,
        fun _ _ _ _ there => there, rfl, rfl⟩
    · cases taken
  | start id target flow =>
    dsimp only at taken
    split at taken
    · cases taken
      have pruned := exclusive.frame (Frame.prune before before.clockMs)
      split
      · exact pruned
      · rename_i free
        exact pruned.start (Bool.not_eq_true _ ▸ free)
    · cases taken
  | insert id sessionId codes runner =>
    dsimp only at taken
    split at taken
    · rename_i target nowMs flow here
      split at taken
      · cases taken
        exact insert_exclusive exclusive here
      · cases taken
    · cases taken
  | abandon id =>
    dsimp only at taken
    split at taken
    · rename_i target nowMs flow here
      cases taken
      exact abandon_exclusive exclusive here
    · cases taken
      exact exclusive.frame (Frame.task before id fun _ _ _ is => by cases is)
    · cases taken
  | visit id sessionId visit =>
    dsimp only at taken
    split at taken
    · cases taken
      exact exclusive.frame (Frame.visitor before id sessionId visit)
    · cases taken
  | redirect id sessionId callback =>
    dsimp only at taken
    split at taken
    · cases taken
      split
      · exact exclusive.frame (Frame.visitor before id sessionId _)
      · exact exclusive.frame (Frame.prune before before.clockMs)
    · cases taken
  | enter id runner =>
    dsimp only at taken
    split at taken
    · split at taken
      · cases taken
        exact exclusive.frame enter_frame
      · cases taken
    · cases taken
  | run id input =>
    dsimp only at taken
    split at taken
    · exact exclusive.frame (Frame.moves (Moves.run taken))
    · cases taken

end CodexGate.Oauth
