import CodexGate.Foundation.Execution
import CodexGate.Notification.Deliveries

namespace CodexGate.Notification

open Foundation

def claimOf (store : Store) : DeliveryAction → Option (String × Int)
  | .claim id =>
    match store.workers id with
    | some worker =>
      if worker.phase = .spawned ∧
          (store.deliveries.lookup worker.delivery).any (·.claimable store.clockMs) = true then
        some (worker.delivery, saturatingAddI64 store.clockMs deliveryLeaseMs)
      else none
    | none => none
  | _ => none

def finishOf (store : Store) : DeliveryAction → Option String
  | .finish id =>
    match store.workers id with
    | some worker =>
      if (store.deliveries.lookup worker.delivery).any (·.ownedBy worker.owner) = true then
        some worker.delivery
      else none
    | none => none
  | _ => none

def retryOf : DeliveryAction → Option String
  | .retry delivery => some delivery
  | _ => none

def DeliveryPhase.active : DeliveryPhase → Bool
  | .claimed _ | .fetched .. | .posting _ | .finishing _ => true
  | _ => false

def Delivery.finished (row : Delivery) : Finish → Delivery
  | .success => { row with status := .succeeded, nextAttemptAtMs := none, lease := none }
  | .failure retryAtMs =>
    { row with
      status := if retryAtMs.isSome then .pending else .failed
      nextAttemptAtMs := retryAtMs
      lease := none }

inductive Moves (store : Store) (worker : Worker) : DeliveryPhase → Prop
  | fetch {nowMs : Int} {row : Delivery} (claimed : worker.phase = .claimed nowMs)
    (found : store.deliveries.lookup worker.delivery = some row) :
    Moves store worker (.fetched row.attempts nowMs)
  | decode {attempts : Nat} {nowMs : Int} (fetched : worker.phase = .fetched attempts nowMs) :
    Moves store worker (.posting attempts)
  | giveUp (active : worker.phase.active = true) : Moves store worker (.finishing (.failure none))
  | posted (active : worker.phase.active = true) : Moves store worker (.finishing .success)
  | defer {attempts : Nat} {retryAtMs : Int} (posting : worker.phase = .posting attempts)
    (few : attempts < 3) : Moves store worker (.finishing (.failure (some retryAtMs)))
  | rest {phase : DeliveryPhase} (inactive : phase.active = false) : Moves store worker phase

inductive Effect (store : Store) : DeliveryAction → Store → Prop
  | tick (nowMs : Int) (later : store.clockMs ≤ nowMs) :
    Effect store (.tick nowMs) { store with clockMs := nowMs }
  | spawn (id : Nat) (owner delivery : String) (fresh : store.workers id = none) :
    Effect store (.spawn id owner delivery)
      (store.enter id { owner := owner, delivery := delivery, phase := .spawned } .spawned)
  | missed (delivery : String) : Effect store (.retry delivery) store
  | retry (delivery : String) {row : Delivery}
      (found : store.deliveries.lookup delivery = some row) (failed : row.status = .failed) :
    Effect store (.retry delivery)
      (store.write delivery
        { row with status := .pending, nextAttemptAtMs := some store.clockMs, lease := none })
  | claim (id : Nat) {worker : Worker} {row : Delivery} (here : store.workers id = some worker)
      (spawned : worker.phase = .spawned)
      (found : store.deliveries.lookup worker.delivery = some row)
      (claimable : row.claimable store.clockMs = true) :
    Effect store (.claim id)
      ((store.write worker.delivery
        { row with
          status := .sending
          lease := some
            { owner := worker.owner, untilMs := saturatingAddI64 store.clockMs deliveryLeaseMs }
          attempts := row.attempts + 1 }).enter id worker (.claimed store.clockMs))
  | finish (id : Nat) {worker : Worker} {row : Delivery} {finish : Finish}
      (here : store.workers id = some worker) (finishing : worker.phase = .finishing finish)
      (found : store.deliveries.lookup worker.delivery = some row)
      (owned : row.ownedBy worker.owner = true) :
    Effect store (.finish id)
      ((store.write worker.delivery (row.finished finish)).enter id worker .finished)
  | move (id : Nat) {worker : Worker} {action : DeliveryAction} {phase : DeliveryPhase}
      (here : store.workers id = some worker) (moves : Moves store worker phase)
      (unclaimed : claimOf store action = none) (unfinished : finishOf store action = none)
      (automatic : retryOf action = none) (acts : action.worker = some id)
      (unwritten : ∀ other, action ≠ .write other)
      (counted : ∀ runId counts, phase = .writing runId counts →
        action = .count id ∧ counts = store.counts runId) :
    Effect store action (store.enter id worker phase)
  | record (id : Nat) {worker : Worker} {runId : String} {counts : RunCounts}
      (here : store.workers id = some worker) (writing : worker.phase = .writing runId counts) :
    Effect store (.write id) ((store.writeRun runId counts).enter id worker .ended)

theorem claim_eq_some {row after : Delivery} {owner : String} {nowMs untilMs : Int}
    (claimed : row.claim owner nowMs untilMs = some after) :
    row.claimable nowMs = true ∧ after =
      { row with
        status := .sending
        lease := some { owner := owner, untilMs := untilMs }
        attempts := row.attempts + 1 } := by
  unfold Delivery.claim at claimed
  split at claimed
  · rename_i claimable
    exact ⟨claimable, (Option.some.inj claimed).symm⟩
  · cases claimed

theorem finish_eq_some {row after : Delivery} {owner : String} {finish : Finish}
    (finished : row.finish owner finish = some after) :
    row.ownedBy owner = true ∧ after = row.finished finish := by
  cases finish with
  | success =>
    simp only [Delivery.finish, Delivery.finishSuccess] at finished
    split at finished
    · rename_i owned
      exact ⟨owned, (Option.some.inj finished).symm⟩
    · cases finished
  | failure retryAtMs =>
    simp only [Delivery.finish, Delivery.finishFailure] at finished
    split at finished
    · rename_i owned
      exact ⟨owned, (Option.some.inj finished).symm⟩
    · cases finished

theorem finish_eq_none {row : Delivery} {owner : String} {finish : Finish}
    (lost : row.finish owner finish = none) : row.ownedBy owner = false := by
  cases owned : row.ownedBy owner with
  | false => rfl
  | true => cases finish <;> simp [Delivery.finish, Delivery.finishSuccess, Delivery.finishFailure,
      owned] at lost

theorem claim_effect {store : Store} {id : Nat} {worker : Worker}
    (here : store.workers id = some worker) (spawned : worker.phase = .spawned) :
    Effect store (.claim id) (store.claim id worker) := by
  unfold Store.claim
  dsimp only
  cases found : store.deliveries.lookup worker.delivery with
  | none =>
    exact .move id here (.rest rfl) (by simp [claimOf, here, found]) rfl rfl rfl nofun nofun
  | some row =>
    simp only [Option.bind_some]
    cases claimed : row.claim worker.owner store.clockMs
        (saturatingAddI64 store.clockMs deliveryLeaseMs) with
    | none =>
      have closed : row.claimable store.clockMs = false := by
        cases claimable : row.claimable store.clockMs with
        | false => rfl
        | true => simp [Delivery.claim, claimable] at claimed
      exact .move id here (.rest rfl) (by simp [claimOf, here, found, closed]) rfl rfl rfl nofun nofun
    | some after =>
      obtain ⟨claimable, same⟩ := claim_eq_some claimed
      subst same
      exact .claim id here spawned found claimable

theorem finish_effect {store : Store} {id : Nat} {worker : Worker} {finish : Finish}
    (here : store.workers id = some worker) (finishing : worker.phase = .finishing finish) :
    Effect store (.finish id) (store.finish id worker finish) := by
  unfold Store.finish
  cases found : store.deliveries.lookup worker.delivery with
  | none => exact .move id here (.rest rfl) rfl (by simp [finishOf, here, found]) rfl rfl nofun nofun
  | some row =>
    simp only [Option.bind_some]
    cases finished : row.finish worker.owner finish with
    | none =>
      exact .move id here (.rest rfl) rfl
        (by simp [finishOf, here, found, finish_eq_none finished]) rfl rfl nofun nofun
    | some after =>
      obtain ⟨owned, same⟩ := finish_eq_some finished
      subst same
      exact .finish id here finishing found owned

theorem worker_effect {before after : Store} {id : Nat} {worker : Worker} {action : DeliveryAction}
    (here : before.workers id = some worker) (acts : action.worker = some id)
    (taken : stepWorker before id worker action = some after) : Effect before action after := by
  cases action with
  | tick | spawn | retry => cases acts
  | claim =>
    cases acts
    simp only [stepWorker] at taken
    split at taken
    · rename_i spawned
      cases taken
      exact claim_effect here spawned
    · cases taken
  | fetch =>
    cases acts
    simp only [stepWorker] at taken
    split at taken
    · rename_i nowMs claimed
      split at taken
      · rename_i row found
        cases taken
        exact .move id here (.fetch claimed found) rfl rfl rfl rfl nofun nofun
      · cases taken
        exact .move id here (.rest rfl) rfl rfl rfl rfl nofun nofun
    · cases taken
  | decode =>
    cases acts
    simp only [stepWorker] at taken
    split at taken
    · rename_i attempts nowMs fetched
      split at taken
      · cases taken
        exact .move id here (.giveUp (by rw [fetched]; rfl)) rfl rfl rfl rfl nofun nofun
      · cases taken
        exact .move id here (.rest rfl) rfl rfl rfl rfl nofun nofun
      · cases taken
        exact .move id here (.decode fetched) rfl rfl rfl rfl nofun nofun
    · cases taken
  | post =>
    cases acts
    simp only [stepWorker] at taken
    split at taken
    · rename_i attempts posting
      have active : worker.phase.active = true := by rw [posting]; rfl
      split at taken
      · cases taken
        exact .move id here (.posted active) rfl rfl rfl rfl nofun nofun
      · rename_i error
        cases taken
        unfold Store.retryAt
        split
        · rename_i again
          have few : attempts < 3 := by
            simp only [Bool.and_eq_true, decide_eq_true_eq] at again
            exact again.2
          exact .move id here (.defer posting few) rfl rfl rfl rfl nofun nofun
        · exact .move id here (.giveUp active) rfl rfl rfl rfl nofun nofun
    · cases taken
  | finish =>
    cases acts
    simp only [stepWorker] at taken
    split at taken
    · rename_i finish finishing
      cases taken
      exact finish_effect here finishing
    · cases taken
  | readRun =>
    cases acts
    simp only [stepWorker] at taken
    split at taken
    · cases taken
      exact .move id here (.rest rfl) rfl rfl rfl rfl nofun nofun
    · cases taken
  | count =>
    cases acts
    simp only [stepWorker] at taken
    split at taken
    · cases taken
      exact .move id here (.rest rfl) rfl rfl rfl rfl nofun fun _ _ is => by cases is; exact ⟨rfl, rfl⟩
    · cases taken
  | write =>
    cases acts
    simp only [stepWorker] at taken
    split at taken
    · rename_i runId counts writing
      cases taken
      exact .record id here writing
    · cases taken
  | crash =>
    cases acts
    simp only [stepWorker] at taken
    split at taken
    · cases taken
    · cases taken
      exact .move id here (.rest rfl) rfl rfl rfl rfl nofun nofun

theorem step_effect {before after : Store} {action : DeliveryAction}
    (taken : deliveryStep before action = some after) : Effect before action after := by
  have byWorker : ∀ id, action.worker = some id →
      ((before.workers id).bind fun worker => stepWorker before id worker action) = some after →
      Effect before action after := by
    intro id acts moved
    obtain ⟨worker, here, moved⟩ := Option.bind_eq_some_iff.mp moved
    exact worker_effect here acts moved
  cases action with
  | tick nowMs =>
    simp only [deliveryStep] at taken
    split at taken
    · rename_i later
      cases taken
      exact .tick nowMs later
    · cases taken
  | spawn id owner delivery =>
    simp only [deliveryStep] at taken
    split at taken
    · rename_i due
      cases taken
      exact .spawn id owner delivery due.1
    · cases taken
  | retry delivery =>
    simp only [deliveryStep] at taken
    cases found : before.deliveries.lookup delivery with
    | none =>
      rw [found] at taken
      cases taken
      exact .missed delivery
    | some row =>
      rw [found] at taken
      simp only [Option.bind_some, Delivery.retry] at taken
      by_cases failed : row.status = .failed
      · rw [if_pos failed] at taken
        cases taken
        exact .retry delivery found failed
      · rw [if_neg failed] at taken
        cases taken
        exact .missed delivery
  | _ => exact byWorker _ rfl taken

/-- A pending delivery has a time for its next attempt, a delivery is sent under a lease, and the
lease is that of the one worker that has claimed it and has not finished it. -/
structure Lifecycle (store : Store) : Prop where
  planned : ∀ delivery row, store.deliveries.lookup delivery = some row → row.status = .pending →
    row.nextAttemptAtMs.isSome = true
  leased : ∀ delivery row, store.deliveries.lookup delivery = some row →
    (row.status = .sending ↔ row.lease.isSome = true)
  working : ∀ id worker, store.workers id = some worker → worker.phase.active = true →
    ∃ row, store.deliveries.lookup worker.delivery = some row ∧ row.status = .sending ∧
      row.ownedBy worker.owner = true
  alone : ∀ id other worker worker', store.workers id = some worker →
    store.workers other = some worker' → worker.phase.active = true →
    worker'.phase.active = true → worker.delivery = worker'.delivery → id = other

structure Fresh (store : Store) : Prop where
  workers : ∀ id, store.workers id = none
  rows : ∀ delivery row, store.deliveries.lookup delivery = some row →
    row.attempts = 0 ∧ row.lease = none ∧
      (row.status = .pending ∧ row.nextAttemptAtMs.isSome = true ∨ row.status = .skipped)

theorem moves_active {store : Store} {worker : Worker} {phase : DeliveryPhase}
    (moves : Moves store worker phase) (active : phase.active = true) :
    worker.phase.active = true := by
  cases moves with
  | fetch claimed => rw [claimed]; rfl
  | decode fetched => rw [fetched]; rfl
  | giveUp before => exact before
  | posted before => exact before
  | defer posting => rw [posting]; rfl
  | rest inactive => rw [inactive] at active; cases active

theorem claimable_pending {row : Delivery} {nowMs : Int} (claimable : row.claimable nowMs = true) :
    row.status = .pending := by
  unfold Delivery.claimable at claimable
  simp only [Bool.and_eq_true, decide_eq_true_eq] at claimable
  exact claimable.1.1

section Tables

variable {store : Store} {delivery other : String} {row found : Delivery}

theorem lookup_write (read : (store.write delivery row).deliveries.lookup other = some found) :
    other = delivery ∧ found = row ∨
      other ≠ delivery ∧ store.deliveries.lookup other = some found := by
  unfold Store.write at read
  by_cases same : other = delivery
  · subst same
    rw [AList.lookup_insert] at read
    exact .inl ⟨rfl, (Option.some.inj read).symm⟩
  · rw [AList.lookup_insert_ne same] at read
    exact .inr ⟨same, read⟩

end Tables

theorem workers_enter {store : Store} {id other : Nat} {worker found : Worker}
    {phase : DeliveryPhase} (read : (store.enter id worker phase).workers other = some found) :
    other = id ∧ found = { worker with phase := phase } ∨
      other ≠ id ∧ store.workers other = some found := by
  unfold Store.enter at read
  by_cases same : other = id
  · subst same
    simp only [Function.update_self] at read
    exact .inl ⟨rfl, (Option.some.inj read).symm⟩
  · simp only [Function.update_of_ne same] at read
    exact .inr ⟨same, read⟩

theorem Lifecycle.write {store : Store} (life : Lifecycle store) {delivery : String}
    {row : Delivery} (planned : row.status = .pending → row.nextAttemptAtMs.isSome = true)
    (leased : row.status = .sending ↔ row.lease.isSome = true)
    (idle : ∀ id worker, store.workers id = some worker → worker.phase.active = true →
      worker.delivery ≠ delivery) : Lifecycle (store.write delivery row) := by
  refine ⟨?_, ?_, ?_, life.alone⟩
  · intro other found read
    obtain ⟨_, same⟩ | ⟨_, read⟩ := lookup_write read
    · subst same
      exact planned
    · exact life.planned other found read
  · intro other found read
    obtain ⟨_, same⟩ | ⟨_, read⟩ := lookup_write read
    · subst same
      exact leased
    · exact life.leased other found read
  · intro id worker here active
    obtain ⟨found, read, sending, owned⟩ := life.working id worker here active
    refine ⟨found, ?_, sending, owned⟩
    exact (AList.lookup_insert_ne (idle id worker here active)).trans read

theorem Lifecycle.enter {store : Store} (life : Lifecycle store) {id : Nat} {worker : Worker}
    {phase : DeliveryPhase}
    (before : phase.active = true → store.workers id = some worker ∧ worker.phase.active = true) :
    Lifecycle (store.enter id worker phase) := by
  refine ⟨life.planned, life.leased, ?_, ?_⟩
  · intro other found here active
    obtain ⟨_, same⟩ | ⟨_, here⟩ := workers_enter here
    · subst same
      obtain ⟨here, was⟩ := before active
      exact life.working id worker here was
    · exact life.working other found here active
  · intro first second found found' here here' active active' same
    obtain ⟨e, is⟩ | ⟨_, here⟩ := workers_enter here
    · obtain ⟨e', is'⟩ | ⟨_, here'⟩ := workers_enter here'
      · exact e.trans e'.symm
      · subst is
        obtain ⟨here, was⟩ := before active
        exact e.trans (life.alone id second worker found' here here' was active' same)
    · obtain ⟨e', is'⟩ | ⟨_, here'⟩ := workers_enter here'
      · subst is'
        obtain ⟨here', was⟩ := before active'
        exact (life.alone first id found worker here here' active was same).trans e'.symm
      · exact life.alone first second found found' here here' active active' same

theorem Lifecycle.unworked {store : Store} (life : Lifecycle store) {delivery : String}
    {row : Delivery} (found : store.deliveries.lookup delivery = some row)
    (unsent : row.status ≠ .sending) : ∀ id worker, store.workers id = some worker →
      worker.phase.active = true → worker.delivery ≠ delivery := by
  intro id worker here active same
  obtain ⟨read, lookup, sending, _⟩ := life.working id worker here active
  rw [same, found] at lookup
  cases lookup
  exact unsent sending

theorem Lifecycle.claim {store : Store} (life : Lifecycle store) {id : Nat} {worker : Worker}
    {row : Delivery} (found : store.deliveries.lookup worker.delivery = some row)
    (pending : row.status = .pending) (nowMs untilMs : Int) :
    Lifecycle ((store.write worker.delivery
      { row with
        status := .sending
        lease := some { owner := worker.owner, untilMs := untilMs }
        attempts := row.attempts + 1 }).enter id worker (.claimed nowMs)) := by
  have idle := life.unworked found (by rw [pending]; decide)
  have written := @Lifecycle.write store life worker.delivery { row with
    status := .sending
    lease := some { owner := worker.owner, untilMs := untilMs }
    attempts := row.attempts + 1 } (fun is => by cases is) (by simp) idle
  refine ⟨written.planned, written.leased, ?_, ?_⟩
  · intro other found' here active
    obtain ⟨_, same⟩ | ⟨_, here⟩ := workers_enter here
    · subst same
      exact ⟨_, AList.lookup_insert _, rfl, by simp [Delivery.ownedBy]⟩
    · exact written.working other found' here active
  · intro first second found' found'' here here' active active' same
    obtain ⟨e, is⟩ | ⟨_, here⟩ := workers_enter here
    · obtain ⟨e', is'⟩ | ⟨_, here'⟩ := workers_enter here'
      · exact e.trans e'.symm
      · subst is
        exact absurd same.symm (idle second found'' here' active')
    · obtain ⟨e', is'⟩ | ⟨_, here'⟩ := workers_enter here'
      · subst is'
        exact absurd same (idle first found' here active)
      · exact life.alone first second found' found'' here here' active active' same

theorem writeRun_runs (store : Store) (runId : String) (counts : RunCounts) :
    ∃ runs, store.writeRun runId counts = { store with runs := runs } := by
  unfold Store.writeRun
  split
  · exact ⟨_, rfl⟩
  · exact ⟨store.runs, rfl⟩

theorem Lifecycle.step {before after : Store} {action : DeliveryAction} (life : Lifecycle before)
    (effect : Effect before action after) : Lifecycle after := by
  cases effect with
  | tick nowMs later => exact ⟨life.planned, life.leased, life.working, life.alone⟩
  | spawn id owner delivery fresh => exact life.enter fun active => by cases active
  | missed delivery => exact life
  | retry delivery found failed =>
    exact life.write (fun _ => rfl) (by simp) (life.unworked found (by rw [failed]; decide))
  | claim id here spawned found claimable => exact life.claim found (claimable_pending claimable) _ _
  | @finish id worker row finish here finishing found owned =>
    have active : worker.phase.active = true := by rw [finishing]; rfl
    have rested : Lifecycle (before.enter id worker .finished) :=
      life.enter fun active => by cases active
    refine rested.write ?_ ?_ ?_
    · cases finish with
      | success => exact fun is => by cases is
      | failure retryAtMs =>
        intro is
        cases again : retryAtMs with
        | none => simp [Delivery.finished, again] at is
        | some _ => simp [Delivery.finished]
    · cases finish with
      | success => simp [Delivery.finished]
      | failure retryAtMs => cases retryAtMs <;> simp [Delivery.finished]
    · intro other found' here' active' same
      obtain ⟨_, is⟩ | ⟨apart, here'⟩ := workers_enter here'
      · subst is
        cases active'
      · exact apart (life.alone other id found' worker here' here active' active same)
  | move id here moves => exact life.enter fun active => ⟨here, moves_active moves active⟩
  | @record id worker runId counts here writing =>
    obtain ⟨runs, same⟩ := writeRun_runs before runId counts
    have kept : Lifecycle { before with runs := runs } :=
      ⟨life.planned, life.leased, life.working, life.alone⟩
    rw [same]
    exact kept.enter fun active => by cases active

theorem Fresh.lifecycle {store : Store} (fresh : Fresh store) : Lifecycle store := by
  refine ⟨?_, ?_, ?_, ?_⟩
  · intro delivery row found pending
    obtain ⟨_, _, planned | skipped⟩ := fresh.rows delivery row found
    · exact planned.2
    · rw [pending] at skipped
      cases skipped
  · intro delivery row found
    obtain ⟨_, unleased, planned | skipped⟩ := fresh.rows delivery row found
    · simp [planned.1, unleased]
    · simp [skipped, unleased]
  · intro id worker here
    rw [fresh.workers] at here
    cases here
  · intro id other worker worker' here
    rw [fresh.workers] at here
    cases here

abbrev DeliveryStep (before : Store) (action : DeliveryAction) (after : Store) : Prop :=
  deliveryStep before action = some after

theorem lifecycle_run {start store : Store} {history : List (Transition Store DeliveryAction)}
    (fresh : Fresh start) (run : Execution DeliveryStep start history store) : Lifecycle store :=
  run.invariant (P := fun _ store => Lifecycle store) fresh.lifecycle
    fun _ _ _ _ life taken => life.step (step_effect taken)

end CodexGate.Notification
