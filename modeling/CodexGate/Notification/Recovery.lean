import CodexGate.Notification.Lifecycle

namespace CodexGate.Notification

open Foundation

def openClaim (delivery : String) : List (Transition Store DeliveryAction) → Option Int
  | [] => none
  | t :: earlier =>
    if finishOf t.before t.action = some delivery then none
    else
      match claimOf t.before t.action with
      | some (claimed, untilMs) =>
        if claimed = delivery then some untilMs else openClaim delivery earlier
      | none => openClaim delivery earlier

def claims (delivery : String) (history : List (Transition Store DeliveryAction)) : Nat :=
  history.countP fun t => (claimOf t.before t.action).map (·.1) = some delivery

def Retried (delivery : String) (history : List (Transition Store DeliveryAction)) : Prop :=
  ∃ t ∈ history, retryOf t.action = some delivery

theorem claimOf_claim {store : Store} {id : Nat} {worker : Worker} {row : Delivery}
    (here : store.workers id = some worker) (spawned : worker.phase = .spawned)
    (found : store.deliveries.lookup worker.delivery = some row)
    (claimable : row.claimable store.clockMs = true) :
    claimOf store (.claim id) =
      some (worker.delivery, saturatingAddI64 store.clockMs deliveryLeaseMs) := by
  simp [claimOf, here, spawned, found, claimable]

theorem finishOf_finish {store : Store} {id : Nat} {worker : Worker} {row : Delivery}
    (here : store.workers id = some worker)
    (found : store.deliveries.lookup worker.delivery = some row)
    (owned : row.ownedBy worker.owner = true) :
    finishOf store (.finish id) = some worker.delivery := by
  simp [finishOf, here, found, owned]

theorem lease_openClaim {start store : Store} {history : List (Transition Store DeliveryAction)}
    (fresh : Fresh start) (run : Execution DeliveryStep start history store) {delivery : String}
    {row : Delivery} (found : store.deliveries.lookup delivery = some row) :
    row.lease.map (·.untilMs) = openClaim delivery history := by
  induction run generalizing row with
  | start =>
    rw [(fresh.rows delivery row found).2.1]
    rfl
  | @next history before after action run taken ih =>
    have life := lifecycle_run fresh run
    have effect : Effect before action after := step_effect taken
    unfold openClaim
    cases effect with
    | tick | spawn | missed => exact ih found
    | @retry other failedRow read failed =>
      obtain ⟨same, is⟩ | ⟨_, found⟩ := lookup_write found
      · subst same is
        have unleased : failedRow.lease = none := by
          have leased := life.leased delivery failedRow read
          rw [failed] at leased
          simpa using leased
        have before := ih read
        rw [unleased] at before
        exact before
      · exact ih found
    | @claim id worker claimedRow here spawned read claimable =>
      rw [claimOf_claim here spawned read claimable, if_neg (by simp [finishOf])]
      dsimp only
      obtain ⟨same, is⟩ | ⟨apart, found⟩ := lookup_write found
      · subst same is
        rw [if_pos rfl]
        rfl
      · rw [if_neg (Ne.symm apart)]
        exact ih found
    | @finish id worker finishedRow finish here finishing read owned =>
      rw [finishOf_finish here read owned]
      obtain ⟨same, is⟩ | ⟨apart, found⟩ := lookup_write found
      · subst same is
        rw [if_pos rfl]
        cases finish <;> rfl
      · rw [if_neg (by simpa using Ne.symm apart)]
        exact ih found
    | move id here moves unclaimed unfinished =>
      rw [unclaimed, unfinished, if_neg (by simp)]
      exact ih found
    | @record id worker runId counts here writing =>
      obtain ⟨runs, same⟩ := writeRun_runs before runId counts
      rw [same] at found
      exact ih found

structure Tried (delivery : String) (claimed : Nat) (store : Store) : Prop where
  row : ∀ row, store.deliveries.lookup delivery = some row →
    row.attempts = claimed ∧ (row.status = .pending → claimed < 3)
  few : claimed ≤ 3
  fetched : ∀ id worker attempts nowMs, store.workers id = some worker →
    worker.delivery = delivery → worker.phase = .fetched attempts nowMs → attempts = claimed
  posting : ∀ id worker attempts, store.workers id = some worker →
    worker.delivery = delivery → worker.phase = .posting attempts → attempts = claimed
  deferred : ∀ id worker retryAtMs, store.workers id = some worker →
    worker.delivery = delivery → worker.phase = .finishing (.failure (some retryAtMs)) → claimed < 3

theorem Tried.write {delivery : String} {claimed : Nat} {store : Store}
    (tried : Tried delivery claimed store) {other : String} {row : Delivery}
    (written : other = delivery → row.attempts = claimed ∧ (row.status = .pending → claimed < 3)) :
    Tried delivery claimed (store.write other row) := by
  refine ⟨?_, tried.few, tried.fetched, tried.posting, tried.deferred⟩
  intro found read
  obtain ⟨same, is⟩ | ⟨_, read⟩ := lookup_write read
  · subst is
    exact written same.symm
  · exact tried.row found read

theorem Tried.enter {delivery : String} {claimed : Nat} {store : Store}
    (tried : Tried delivery claimed store) {id : Nat} {worker : Worker} {phase : DeliveryPhase}
    (fetched : worker.delivery = delivery → ∀ attempts nowMs, phase = .fetched attempts nowMs →
      attempts = claimed)
    (posting : worker.delivery = delivery → ∀ attempts, phase = .posting attempts →
      attempts = claimed)
    (deferred : worker.delivery = delivery → ∀ retryAtMs,
      phase = .finishing (.failure (some retryAtMs)) → claimed < 3) :
    Tried delivery claimed (store.enter id worker phase) := by
  refine ⟨tried.row, tried.few, ?_, ?_, ?_⟩
  · intro other found attempts nowMs here on at'
    obtain ⟨_, same⟩ | ⟨_, here⟩ := workers_enter here
    · subst same
      exact fetched on attempts nowMs at'
    · exact tried.fetched other found attempts nowMs here on at'
  · intro other found attempts here on at'
    obtain ⟨_, same⟩ | ⟨_, here⟩ := workers_enter here
    · subst same
      exact posting on attempts at'
    · exact tried.posting other found attempts here on at'
  · intro other found retryAtMs here on at'
    obtain ⟨_, same⟩ | ⟨_, here⟩ := workers_enter here
    · subst same
      exact deferred on retryAtMs at'
    · exact tried.deferred other found retryAtMs here on at'

theorem Tried.claim {claimed : Nat} {store : Store} {id : Nat} {worker : Worker} {row : Delivery}
    (tried : Tried worker.delivery claimed store) (life : Lifecycle store)
    (found : store.deliveries.lookup worker.delivery = some row) (pending : row.status = .pending)
    (nowMs untilMs : Int) :
    Tried worker.delivery (claimed + 1) ((store.write worker.delivery
      { row with
        status := .sending
        lease := some { owner := worker.owner, untilMs := untilMs }
        attempts := row.attempts + 1 }).enter id worker (.claimed nowMs)) := by
  obtain ⟨attempts, few⟩ := tried.row row found
  have below := few pending
  have idle := life.unworked found (by rw [pending]; decide)
  refine ⟨?_, by omega, ?_, ?_, ?_⟩
  · intro found' read
    obtain ⟨_, is⟩ | ⟨apart, _⟩ := lookup_write read
    · subst is
      exact ⟨congrArg (· + 1) attempts, fun is => by cases is⟩
    · exact absurd rfl apart
  · intro other found' attempts' nowMs' here on at'
    obtain ⟨_, same⟩ | ⟨_, here⟩ := workers_enter here
    · subst same
      cases at'
    · exact absurd on (idle other found' here (by rw [at']; rfl))
  · intro other found' attempts' here on at'
    obtain ⟨_, same⟩ | ⟨_, here⟩ := workers_enter here
    · subst same
      cases at'
    · exact absurd on (idle other found' here (by rw [at']; rfl))
  · intro other found' retryAtMs here on at'
    obtain ⟨_, same⟩ | ⟨_, here⟩ := workers_enter here
    · subst same
      cases at'
    · exact absurd on (idle other found' here (by rw [at']; rfl))

theorem Tried.step {before after : Store} {action : DeliveryAction} {delivery : String}
    {claimed : Nat} (tried : Tried delivery claimed before) (life : Lifecycle before)
    (effect : Effect before action after) (automatic : retryOf action ≠ some delivery) :
    Tried delivery
      (claimed + if (claimOf before action).map (·.1) = some delivery then 1 else 0) after := by
  cases effect with
  | tick nowMs later => exact ⟨tried.row, tried.few, tried.fetched, tried.posting, tried.deferred⟩
  | spawn id owner other fresh =>
    exact tried.enter (fun _ _ _ is => by cases is) (fun _ _ is => by cases is)
      fun _ _ is => by cases is
  | missed other => exact tried
  | retry other found failed =>
    exact tried.write fun same => absurd (congrArg some same) automatic
  | @claim id worker row here spawned found claimable =>
    rw [claimOf_claim here spawned found claimable]
    by_cases same : worker.delivery = delivery
    · subst same
      simp only [Option.map_some, if_pos]
      exact tried.claim life found (claimable_pending claimable) _ _
    · rw [if_neg (by simpa using same)]
      exact (tried.write fun is => absurd is same).enter (fun _ _ _ is => by cases is)
        (fun _ _ is => by cases is) fun _ _ is => by cases is
  | @finish id worker row finish here finishing found owned =>
    have written : Tried delivery claimed (before.write worker.delivery (row.finished finish)) := by
      refine tried.write fun same => ?_
      subst same
      have attempts := (tried.row row found).1
      cases finish with
      | success => exact ⟨attempts, fun is => by cases is⟩
      | failure retryAtMs =>
        cases retryAtMs with
        | none => exact ⟨attempts, fun is => by cases is⟩
        | some _ => exact ⟨attempts, fun _ => tried.deferred id worker _ here rfl finishing⟩
    exact written.enter (fun _ _ _ is => by cases is) (fun _ _ is => by cases is)
      fun _ _ is => by cases is
  | @move id worker action phase here moves unclaimed unfinished quiet acts unwritten counted =>
    rw [unclaimed, if_neg (by simp)]
    refine tried.enter ?_ ?_ ?_
    · intro on attempts nowMs is
      cases moves with
      | fetch claimed found =>
        cases is
        exact (tried.row _ (on ▸ found)).1
      | rest inactive =>
        subst is
        cases inactive
      | _ => cases is
    · intro on attempts is
      cases moves with
      | decode fetched =>
        cases is
        exact tried.fetched id worker attempts _ here on fetched
      | rest inactive =>
        subst is
        cases inactive
      | _ => cases is
    · intro on retryAtMs is
      cases moves with
      | defer posting few =>
        cases is
        rw [← tried.posting id worker _ here on posting]
        exact few
      | rest inactive =>
        subst is
        cases inactive
      | _ => cases is
  | @record id worker runId counts here writing =>
    obtain ⟨runs, same⟩ := writeRun_runs before runId counts
    rw [same]
    have kept : Tried delivery claimed { before with runs := runs } :=
      ⟨tried.row, tried.few, tried.fetched, tried.posting, tried.deferred⟩
    exact kept.enter (fun _ _ _ is => by cases is) (fun _ _ is => by cases is)
      fun _ _ is => by cases is

theorem tried_run {start store : Store} {history : List (Transition Store DeliveryAction)}
    (fresh : Fresh start) (run : Execution DeliveryStep start history store) {delivery : String}
    (automatic : ¬ Retried delivery history) : Tried delivery (claims delivery history) store := by
  induction run with
  | start =>
    refine ⟨?_, by simp [claims], ?_, ?_, ?_⟩
    · intro row found
      exact ⟨(fresh.rows delivery row found).1, fun _ => by simp [claims]⟩
    all_goals
      intro id worker
      simp [fresh.workers]
  | @next history before after action run taken ih =>
    have tried := ih fun ⟨t, member, retried⟩ =>
      automatic ⟨t, List.mem_cons_of_mem _ member, retried⟩
    have quiet : retryOf action ≠ some delivery := fun retried =>
      automatic ⟨_, List.mem_cons_self, retried⟩
    have next := tried.step (lifecycle_run fresh run) (step_effect taken) quiet
    unfold claims at next ⊢
    rw [List.countP_cons]
    simpa only [decide_eq_true_eq] using next

/-! Deliveries are recovered as long as no claim outlives its lease. -/

/-- The delivery is over, or under a lease that has not run out, or will be claimable. -/
def Recoverable (store : Store) (row : Delivery) : Prop :=
  (row.status = .succeeded ∨ row.status = .failed ∨ row.status = .skipped) ∨
    (∃ lease, row.lease = some lease ∧ store.clockMs ≤ lease.untilMs) ∨
    ∃ laterMs, store.clockMs ≤ laterMs ∧ row.claimable laterMs = true

def HoldsLease (store : Store) (delivery : String) (id : Nat) : Prop :=
  ∃ worker row lease, store.workers id = some worker ∧ worker.delivery = delivery ∧
    worker.phase.active = true ∧ store.deliveries.lookup delivery = some row ∧
    row.lease = some lease ∧ lease.owner = worker.owner ∧ store.clockMs ≤ lease.untilMs

structure DeliveriesLive (history : List (Transition Store DeliveryAction)) (store : Store) :
    Prop where
  recoverable : ∀ delivery row, store.deliveries.lookup delivery = some row → Recoverable store row
  alone : ∀ delivery id other, HoldsLease store delivery id → HoldsLease store delivery other →
    id = other
  thrice : ∀ delivery, ¬ Retried delivery history → claims delivery history ≤ 3

theorem lookup_write_isSome {store : Store} {delivery other : String} (row : Delivery)
    (there : (store.deliveries.lookup other).isSome = true) :
    ((store.write delivery row).deliveries.lookup other).isSome = true := by
  by_cases same : other = delivery
  · subst same
    exact Option.isSome_iff_exists.mpr ⟨row, AList.lookup_insert _⟩
  · exact (congrArg Option.isSome (AList.lookup_insert_ne same)).trans there

theorem effect_keeps {before after : Store} {action : DeliveryAction}
    (effect : Effect before action after) {delivery : String}
    (there : (before.deliveries.lookup delivery).isSome = true) :
    (after.deliveries.lookup delivery).isSome = true := by
  cases effect with
  | retry | claim | finish => exact lookup_write_isSome _ there
  | @record id worker runId counts here writing =>
    obtain ⟨runs, same⟩ := writeRun_runs before runId counts
    rw [same]
    exact there
  | _ => exact there

theorem openClaim_found {start store : Store} {history : List (Transition Store DeliveryAction)}
    (run : Execution DeliveryStep start history store) {delivery : String} {untilMs : Int}
    (claimed : openClaim delivery history = some untilMs) :
    (store.deliveries.lookup delivery).isSome = true := by
  induction run with
  | start => cases claimed
  | @next history before after action run taken ih =>
    refine effect_keeps (step_effect taken) ?_
    unfold openClaim at claimed
    split at claimed
    · cases claimed
    · split at claimed
      · rename_i other end' claims
        split at claimed
        · rename_i same
          subst same
          unfold claimOf at claims
          split at claims
          · split at claims
            · split at claims
              · rename_i due
                cases claims
                obtain ⟨row, found, _⟩ := (Option.any_eq_true _ _).mp due.2
                exact Option.isSome_iff_exists.mpr ⟨row, found⟩
              · cases claims
            · cases claims
          · cases claims
        · exact ih claimed
      · exact ih claimed

theorem Lifecycle.recoverable {store : Store} (life : Lifecycle store) {delivery : String}
    {row : Delivery} (found : store.deliveries.lookup delivery = some row)
    (kept : ∀ lease, row.lease = some lease → store.clockMs ≤ lease.untilMs) :
    Recoverable store row := by
  have leased := life.leased delivery row found
  cases status : row.status with
  | succeeded => exact .inl (.inl status)
  | failed => exact .inl (.inr (.inl status))
  | skipped => exact .inl (.inr (.inr status))
  | sending =>
    obtain ⟨lease, is⟩ := Option.isSome_iff_exists.mp (leased.mp status)
    exact .inr (.inl ⟨lease, is, kept lease is⟩)
  | pending =>
    obtain ⟨nextMs, planned⟩ := Option.isSome_iff_exists.mp (life.planned delivery row found status)
    have free : row.lease = none := by
      rw [status] at leased
      simpa using leased
    refine .inr (.inr ⟨max store.clockMs nextMs, Int.le_max_left _ _, ?_⟩)
    have due : nextMs ≤ max store.clockMs nextMs := Int.le_max_right _ _
    simp [Delivery.claimable, status, planned, free, due]

/-- The deliveries are live exactly if no lease of a claim without a stored finish has run out. -/
theorem deliveriesLive_iff {start store : Store} {history : List (Transition Store DeliveryAction)}
    (fresh : Fresh start) (run : Execution DeliveryStep start history store) :
    DeliveriesLive history store ↔
      ∀ delivery untilMs, openClaim delivery history = some untilMs → store.clockMs ≤ untilMs := by
  have life := lifecycle_run fresh run
  refine ⟨fun live delivery untilMs claimed => ?_, fun kept => ⟨?_, ?_, ?_⟩⟩
  · obtain ⟨row, found⟩ := Option.isSome_iff_exists.mp (openClaim_found run claimed)
    have lease := (lease_openClaim fresh run found).trans claimed
    obtain ⟨lease, is, ends⟩ := Option.map_eq_some_iff.mp lease
    have sending := (life.leased delivery row found).mpr (by simp [is])
    obtain isOver | ⟨lease', is', kept⟩ | ⟨laterMs, _, claimable⟩ := live.recoverable delivery row found
    · rw [sending] at isOver
      simp at isOver
    · rw [is] at is'
      cases is'
      exact ends ▸ kept
    · rw [claimable_pending claimable] at sending
      cases sending
  · intro delivery row found
    refine life.recoverable found fun lease is => ?_
    have claimed := lease_openClaim fresh run found
    rw [is] at claimed
    exact kept delivery lease.untilMs claimed.symm
  · rintro delivery id other ⟨worker, row, lease, here, on, active, _⟩
      ⟨worker', row', lease', here', on', active', _⟩
    exact life.alone id other worker worker' here here' active active' (on.trans on'.symm)
  · exact fun delivery automatic => (tried_run fresh run automatic).few

def oneDelivery : Store where
  clockMs := 0
  deliveries := AList.insert "run-1"
    { runId := "run", status := .pending, attempts := 0, nextAttemptAtMs := some 0, lease := none } ∅
  runs := AList.insert "run" { status := .pending, completedAtMs := none } ∅
  workers _ := none

theorem oneDelivery_fresh : Fresh oneDelivery := by
  refine ⟨fun _ => rfl, ?_⟩
  intro delivery row found
  obtain ⟨_, same⟩ | ⟨_, none⟩ := @lookup_write { oneDelivery with deliveries := ∅ } "run-1" delivery
    _ row found
  · subst same
    exact ⟨rfl, rfl, .inl ⟨rfl, rfl⟩⟩
  · cases none

def secondAttempt : List DeliveryAction :=
  [.finish 1, .post 1 (.ok ()), .decode 1 .decoded, .fetch 1 true, .claim 1, .spawn 1 "b" "run-1",
    .tick 60500, .finish 0, .post 0 (.error { retryable := true, retryAfterMs := none }),
    .decode 0 .decoded, .fetch 0 true, .claim 0, .spawn 0 "a" "run-1"]

theorem deliveriesLive_iff_secondAttempt : ∃ history store,
    Execution DeliveryStep oneDelivery history store ∧ claims "run-1" history = 2 ∧
      (DeliveriesLive history store ↔
        ∀ delivery untilMs, openClaim delivery history = some untilMs →
          store.clockMs ≤ untilMs) := by
  have replayed : ∃ run, replay deliveryStep oneDelivery secondAttempt = some run ∧
      claims "run-1" run.1 = 2 := ⟨_, rfl, by decide⟩
  obtain ⟨⟨history, store⟩, ran, twice⟩ := replayed
  have run := replay_run ran
  exact ⟨history, store, run, twice, deliveriesLive_iff oneDelivery_fresh run⟩

/-- A worker that ends between its claim and its finish leaves a delivery that nothing claims. -/
theorem interrupted_delivery_lost : ∃ history store row,
    Execution DeliveryStep oneDelivery history store ∧ Fresh oneDelivery ∧
      store.deliveries.lookup "run-1" = some row ∧ row.status = .sending ∧
      ¬ DeliveriesLive history store := by
  have replayed : ∃ run row, replay deliveryStep oneDelivery
      [.tick 120001, .crash 0, .claim 0, .spawn 0 "a" "run-1"] = some run ∧
      run.2.deliveries.lookup "run-1" = some row ∧ row.status = .sending ∧ run.2.clockMs = 120001 ∧
      row.lease = some { owner := "a", untilMs := 120000 } := ⟨_, _, rfl, rfl, rfl, rfl, rfl⟩
  obtain ⟨⟨history, store⟩, row, ran, found, sending, clock, leased⟩ := replayed
  refine ⟨history, store, row, replay_run ran, oneDelivery_fresh, found, sending, fun live => ?_⟩
  have clock : store.clockMs = 120001 := clock
  obtain isOver | ⟨lease, is, kept⟩ | ⟨laterMs, _, claimable⟩ := live.recoverable "run-1" row found
  · rw [sending] at isOver
    simp at isOver
  · rw [leased] at is
    cases is
    rw [clock] at kept
    simp at kept
  · rw [claimable_pending claimable] at sending
    cases sending

end CodexGate.Notification
