import CodexGate.Notification.Lifecycle

namespace CodexGate.Notification

open Foundation

def Has (store : Store) (runId : String) (status : DeliveryStatus) : Prop :=
  ∃ delivery row, store.deliveries.lookup delivery = some row ∧ row.runId = runId ∧
    row.status = status

def Unfinished (store : Store) (runId : String) : Prop :=
  Has store runId .pending ∨ Has store runId .sending

structure RunFollows (store : Store) (runId : String) (run : Run) : Prop where
  sending : run.status = .sending ↔ Unfinished store runId
  succeeded : ¬ Unfinished store runId → ¬ Has store runId .failed → run.status = .succeeded
  partially : ¬ Unfinished store runId → Has store runId .failed → Has store runId .succeeded →
    run.status = .partially
  failed : ¬ Unfinished store runId → Has store runId .failed → ¬ Has store runId .succeeded →
    run.status = .failed
  completed : run.completedAtMs.isSome = true ↔ ¬ Unfinished store runId

structure SameSummary (seen store : Store) (runId : String) : Prop where
  unfinished : Unfinished seen runId ↔ Unfinished store runId
  failed : ¬ Unfinished store runId → (Has seen runId .failed ↔ Has store runId .failed)
  succeeded : ¬ Unfinished store runId → Has store runId .failed →
    (Has seen runId .succeeded ↔ Has store runId .succeeded)

theorem countP_run_pos (store : Store) (runId : String) (p : Delivery → Bool) :
    0 < (((store.deliveries.entries.map (·.2)).filter (·.runId = runId)).countP p) ↔
      ∃ delivery row, store.deliveries.lookup delivery = some row ∧ row.runId = runId ∧
        p row = true := by
  rw [List.countP_pos_iff]
  constructor
  · rintro ⟨row, member, is⟩
    obtain ⟨member, of⟩ := List.mem_filter.mp member
    obtain ⟨⟨delivery, row'⟩, entry, same⟩ := List.mem_map.mp member
    cases same
    exact ⟨delivery, row', AList.mem_lookup_iff.mpr entry, of_decide_eq_true of, is⟩
  · rintro ⟨delivery, row, found, of, is⟩
    refine ⟨row, List.mem_filter.mpr ⟨List.mem_map.mpr ⟨⟨delivery, row⟩, ?_, rfl⟩, ?_⟩, is⟩
    · exact AList.mem_lookup_iff.mp found
    · exact decide_eq_true of

section Counts

variable (store : Store) (runId : String)

theorem counts_pending : 0 < (store.counts runId).pending ↔ Unfinished store runId := by
  refine (countP_run_pos store runId _).trans ?_
  simp only [decide_eq_true_eq]
  constructor
  · rintro ⟨delivery, row, found, of, pending | sending⟩
    · exact .inl ⟨delivery, row, found, of, pending⟩
    · exact .inr ⟨delivery, row, found, of, sending⟩
  · rintro (⟨delivery, row, found, of, pending⟩ | ⟨delivery, row, found, of, sending⟩)
    · exact ⟨delivery, row, found, of, .inl pending⟩
    · exact ⟨delivery, row, found, of, .inr sending⟩

theorem counts_succeeded : 0 < (store.counts runId).succeeded ↔ Has store runId .succeeded := by
  refine (countP_run_pos store runId _).trans ?_
  simp only [decide_eq_true_eq]
  rfl

theorem counts_failed : (store.counts runId).failed = 0 ↔ ¬ Has store runId .failed := by
  have some : 0 < (store.counts runId).failed ↔ Has store runId .failed := by
    refine (countP_run_pos store runId _).trans ?_
    simp only [decide_eq_true_eq]
    rfl
  rw [← some]
  omega

end Counts

theorem written_follows (seen : Store) (runId : String) (nowMs : Int) :
    RunFollows seen runId
      { status := (seen.counts runId).status
        completedAtMs := (seen.counts runId).completed nowMs } := by
  have pending := counts_pending seen runId
  have succeeded := counts_succeeded seen runId
  have failed := counts_failed seen runId
  unfold RunCounts.status RunCounts.completed
  refine ⟨?_, ?_, ?_, ?_, ?_⟩
  · rw [← pending]
    dsimp only
    split
    · rename_i some
      exact ⟨fun _ => some, fun _ => rfl⟩
    · rename_i none
      refine ⟨fun is => ?_, fun some => absurd some none⟩
      split at is
      · cases is
      · split at is <;> cases is
  · intro isOver unfailed
    dsimp only
    rw [if_neg (fun some => isOver (pending.mp some)), if_pos (failed.mpr unfailed)]
  · intro isOver some good
    dsimp only
    rw [if_neg (fun some => isOver (pending.mp some)), if_neg (fun none => failed.mp none some),
      if_pos (succeeded.mpr good)]
  · intro isOver some bad
    dsimp only
    rw [if_neg (fun some => isOver (pending.mp some)), if_neg (fun none => failed.mp none some),
      if_neg (fun good => bad (succeeded.mp good))]
  · rw [← pending]
    dsimp only
    split
    · rename_i none
      simp [none]
    · rename_i some
      simp
      omega

theorem follows_iff_sameSummary {seen store : Store} {runId : String} {run : Run}
    (follows : RunFollows seen runId run) :
    RunFollows store runId run ↔ SameSummary seen store runId := by
  constructor
  · intro now
    have unfinished := follows.sending.symm.trans now.sending
    refine ⟨unfinished, ?_, ?_⟩
    · intro isOver
      have before := follows.succeeded (fun is => isOver (unfinished.mp is))
      have partially := follows.partially (fun is => isOver (unfinished.mp is))
      have failed := follows.failed (fun is => isOver (unfinished.mp is))
      grind [now.succeeded isOver, now.partially isOver, now.failed isOver]
    · intro isOver some
      have partially := follows.partially (fun is => isOver (unfinished.mp is))
      have failed := follows.failed (fun is => isOver (unfinished.mp is))
      have before := follows.succeeded (fun is => isOver (unfinished.mp is))
      grind [now.partially isOver some, now.failed isOver some]
  · intro same
    have isOver : ¬ Unfinished store runId → ¬ Unfinished seen runId := fun is =>
      fun was => is (same.unfinished.mp was)
    refine ⟨follows.sending.trans same.unfinished, ?_, ?_, ?_,
      follows.completed.trans (not_congr same.unfinished)⟩
    · intro done unfailed
      exact follows.succeeded (isOver done) fun was => unfailed ((same.failed done).mp was)
    · intro done some good
      exact follows.partially (isOver done) ((same.failed done).mpr some)
        ((same.succeeded done some).mpr good)
    · intro done some bad
      exact follows.failed (isOver done) ((same.failed done).mpr some)
        fun was => bad ((same.succeeded done some).mp was)

def readAt (id : Nat) : List (Transition Store DeliveryAction) → Option Store
  | [] => none
  | t :: earlier =>
    match t.action with
    | .count other => if other = id then some t.before else readAt id earlier
    | _ => readAt id earlier

def writerOf (runId : String) (store : Store) : DeliveryAction → Option Nat
  | .write id =>
    match store.workers id with
    | some worker =>
      match worker.phase with
      | .writing written _ => if written = runId then some id else none
      | _ => none
    | none => none
  | _ => none

def lastRead (runId : String) : List (Transition Store DeliveryAction) → Option Store
  | [] => none
  | t :: earlier =>
    match writerOf runId t.before t.action with
    | some id => readAt id earlier
    | none => lastRead runId earlier

theorem readAt_quiet {id : Nat} {t : Transition Store DeliveryAction}
    {earlier : List (Transition Store DeliveryAction)} (other : t.action ≠ .count id) :
    readAt id (t :: earlier) = readAt id earlier := by
  cases acts : t.action with
  | count counter =>
    have apart : counter ≠ id := fun same => other (by rw [acts, same])
    simp [readAt, acts, apart]
  | _ => simp [readAt, acts]

theorem writing_read {start store : Store} {history : List (Transition Store DeliveryAction)}
    (idle : ∀ id, start.workers id = none) (run : Execution DeliveryStep start history store)
    {id : Nat} {worker : Worker} {runId : String} {counts : RunCounts}
    (here : store.workers id = some worker) (writing : worker.phase = .writing runId counts) :
    ∃ seen, readAt id history = some seen ∧ counts = seen.counts runId := by
  induction run generalizing worker with
  | start =>
    rw [idle] at here
    cases here
  | @next history before after action run taken ih =>
    have effect : Effect before action after := step_effect taken
    have keep : action ≠ .count id → before.workers id = some worker →
        ∃ seen, readAt id (⟨before, action, after⟩ :: history) = some seen ∧
          counts = seen.counts runId := by
      intro other here
      rw [readAt_quiet other]
      exact ih here writing
    cases effect with
    | tick | missed | retry => exact keep nofun here
    | spawn other =>
      obtain ⟨_, same⟩ | ⟨_, here⟩ := workers_enter here
      · subst same
        cases writing
      · exact keep nofun here
    | claim other | finish other =>
      obtain ⟨_, same⟩ | ⟨_, here⟩ := workers_enter here
      · subst same
        cases writing
      · exact keep nofun here
    | move other there moves unclaimed unfinished quiet acts unwritten counted =>
      obtain ⟨is, same⟩ | ⟨apart, here⟩ := workers_enter here
      · subst same is
        obtain ⟨counts', same⟩ := counted runId counts writing
        subst counts'
        exact ⟨before, by simp [readAt], same⟩
      · refine keep (fun counts' => ?_) here
        subst counts'
        exact apart (Option.some.inj acts)
    | @record other worker' runId' counts' there writing' =>
      obtain ⟨runs, same⟩ := writeRun_runs before runId' counts'
      rw [same] at here
      obtain ⟨_, same⟩ | ⟨_, here⟩ := workers_enter here
      · subst same
        cases writing
      · exact keep nofun here

structure Created (store : Store) : Prop where
  workers : ∀ id, store.workers id = none
  runs : ∀ runId run, store.runs.lookup runId = some run →
    run.status = .pending ∨ run.status = .skipped

theorem lookup_writeRun {store : Store} {runId other : String} {counts : RunCounts} {run : Run}
    (found : (store.writeRun runId counts).runs.lookup other = some run) :
    other = runId ∧ run = { status := counts.status
                            completedAtMs := counts.completed store.clockMs } ∨
      other ≠ runId ∧ store.runs.lookup other = some run := by
  unfold Store.writeRun at found
  by_cases same : other = runId
  · subst same
    split at found
    · rw [AList.lookup_insert] at found
      exact .inl ⟨rfl, (Option.some.inj found).symm⟩
    · rename_i missing
      rw [missing] at found
      cases found
  · refine .inr ⟨same, ?_⟩
    split at found
    · exact (AList.lookup_insert_ne same).symm.trans found
    · exact found

theorem run_written {start store : Store} {history : List (Transition Store DeliveryAction)}
    (created : Created start) (run : Execution DeliveryStep start history store) {runId : String}
    {row : Run} (found : store.runs.lookup runId = some row) :
    match lastRead runId history with
    | some seen => RunFollows seen runId row
    | none => row.status = .pending ∨ row.status = .skipped := by
  induction run generalizing row with
  | start => exact created.runs runId row found
  | @next history before after action run taken ih =>
    have effect : Effect before action after := step_effect taken
    unfold lastRead
    cases effect with
    | tick | spawn | missed | retry | claim | finish => exact ih found
    | move id here moves unclaimed unfinished quiet acts unwritten counted =>
      have unwritten : writerOf runId before action = none := by
        cases action with
        | write other => exact absurd rfl (unwritten other)
        | _ => rfl
      rw [unwritten]
      exact ih found
    | @record id worker written counts here writing =>
      have writer : writerOf runId before (.write id) = if written = runId then some id else none := by
        simp [writerOf, here, writing]
      rw [writer]
      obtain ⟨same, is⟩ | ⟨apart, found⟩ := lookup_writeRun found
      · subst same is
        obtain ⟨seen, read, counted⟩ := writing_read created.workers run here writing
        rw [if_pos rfl]
        dsimp only
        rw [read, counted]
        exact written_follows seen runId before.clockMs
      · rw [if_neg (Ne.symm apart)]
        exact ih found

/-- A run follows its deliveries exactly if they still call for what its last writer has counted. -/
theorem runStatus_follows_iff {start store : Store}
    {history : List (Transition Store DeliveryAction)} (created : Created start)
    (run : Execution DeliveryStep start history store) {runId : String} {row : Run}
    (found : store.runs.lookup runId = some row) :
    RunFollows store runId row ↔
      ∃ seen, lastRead runId history = some seen ∧ SameSummary seen store runId := by
  have written := run_written created run found
  cases read : lastRead runId history with
  | some seen =>
    rw [read] at written
    simpa using follows_iff_sameSummary written
  | none =>
    rw [read] at written
    refine ⟨fun follows => ?_, fun ⟨_, there, _⟩ => by cases there⟩
    exfalso
    have unsent : row.status ≠ .sending := by
      obtain is | is := written <;> rw [is] <;> decide
    have isOver : ¬ Unfinished store runId := fun open' => unsent (follows.sending.mpr open')
    by_cases bad : Has store runId .failed
    · by_cases good : Has store runId .succeeded
      · obtain is | is := written <;> rw [follows.partially isOver bad good] at is <;> cases is
      · obtain is | is := written <;> rw [follows.failed isOver bad good] at is <;> cases is
    · obtain is | is := written <;> rw [follows.succeeded isOver bad] at is <;> cases is

def Settled (store : Store) : Prop :=
  ∀ id worker, store.workers id = some worker → worker.phase = .spawned ∨ worker.phase.active = true ∨
    worker.phase = .ended

def twoDeliveries : Store where
  clockMs := 0
  deliveries := AList.insert "run-1"
    { runId := "run", status := .pending, attempts := 0, nextAttemptAtMs := some 0, lease := none }
    (AList.insert "run-2"
      { runId := "run", status := .pending, attempts := 0, nextAttemptAtMs := some 0, lease := none } ∅)
  runs := AList.insert "run" { status := .pending, completedAtMs := none } ∅
  workers _ := none

theorem twoDeliveries_created : Created twoDeliveries := by
  refine ⟨fun _ => rfl, ?_⟩
  intro runId run found
  by_cases same : runId = "run"
  · subst same
    cases found
    exact .inl rfl
  · have missing := (AList.lookup_insert_ne same).symm.trans found
    cases missing

def bothPosted : List DeliveryAction :=
  [.post 1 (.ok ()), .post 0 (.ok ()), .decode 1 .decoded, .decode 0 .decoded, .fetch 1 true,
    .fetch 0 true, .claim 1, .claim 0, .spawn 1 "a" "run-2", .spawn 0 "a" "run-1"]

def orderlyFinishes : List DeliveryAction :=
  [.write 1, .count 1, .readRun 1, .finish 1, .write 0, .count 0, .readRun 0, .finish 0] ++ bothPosted

theorem runStatus_follows_iff_orderly : ∃ history store row,
    Execution DeliveryStep twoDeliveries history store ∧ store.runs.lookup "run" = some row ∧
      row.status = .succeeded ∧
      (RunFollows store "run" row ↔
        ∃ seen, lastRead "run" history = some seen ∧ SameSummary seen store "run") := by
  have replayed : ∃ run row, replay deliveryStep twoDeliveries orderlyFinishes = some run ∧
      run.2.runs.lookup "run" = some row ∧ row.status = .succeeded := ⟨_, _, rfl, rfl, rfl⟩
  obtain ⟨⟨history, store⟩, row, ran, found, status⟩ := replayed
  have run := replay_run ran
  exact ⟨history, store, row, run, found, status,
    runStatus_follows_iff twoDeliveries_created run found⟩

def crossedFinishes : List DeliveryAction :=
  [.write 0, .write 1, .count 1, .readRun 1, .finish 1, .count 0, .readRun 0, .finish 0] ++ bothPosted

theorem stale_run_status : ∃ history store row,
    Execution DeliveryStep twoDeliveries history store ∧ Created twoDeliveries ∧ Settled store ∧
      store.runs.lookup "run" = some row ∧ ¬ RunFollows store "run" row := by
  have replayed : ∃ run row, replay deliveryStep twoDeliveries crossedFinishes = some run ∧
      Settled run.2 ∧ run.2.runs.lookup "run" = some row ∧ row.status = .sending ∧
      (run.2.counts "run").pending = 0 := by
    refine ⟨_, _, rfl, ?_, rfl, rfl, by decide⟩
    intro id worker here
    match id with
    | 0 =>
      cases here
      exact .inr (.inr rfl)
    | 1 =>
      cases here
      exact .inr (.inr rfl)
    | id + 2 => cases here
  obtain ⟨⟨history, store⟩, row, ran, settled, found, status, isOver⟩ := replayed
  refine ⟨history, store, row, replay_run ran, twoDeliveries_created, settled, found,
    fun follows => ?_⟩
  have open' := (counts_pending store "run").mpr (follows.sending.mp status)
  exact absurd isOver (Nat.pos_iff_ne_zero.mp open')

end CodexGate.Notification
