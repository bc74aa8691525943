import CodexGate.Pricing.Previews

namespace CodexGate.Pricing

open Foundation

variable {Card : Type}

def SyncAction.call : SyncAction Card → Option Nat
  | .prepare id _ | .apply id .. | .admin id _ | .run id _ | .fail id _ => some id
  | .tick _ | .inventory _ | .lease .. | .renew .. | .release _ => none

def applied (t : SyncTransition Card) : Option (ApplyCall Card) :=
  match t.action with
  | .run id _ =>
    match (t.before.calls.lookup id).map Call.task with
    | some (.apply call .commit) => some call
    | _ => none
  | _ => none

def Deactivates (t : SyncTransition Card) (row : PriceRow Card) : Prop :=
  row ∈ t.before.db.prices ∧ row.active = true ∧
    ∃ later ∈ t.after.db.prices, later.id = row.id ∧ later.active = false

def OnePricePerScope (prices : List (PriceRow Card)) : Prop :=
  prices.Pairwise fun row other =>
    ¬(row.active = true ∧ other.active = true ∧ row.scope = other.scope)

structure SyncSafe (history : List (SyncTransition Card)) (final : SyncStore Card) : Prop where
  /-- A manual price is only replaced when it is selected, and as the preview has recorded it. -/
  manualKept : ∀ t ∈ history, ∀ call, applied t = some call → ∀ row, Deactivates t row →
    row.providerId = none ∧ call.job.expected.lookup row.modelName = some row.id ∧
      (row.source = .manual → row.modelName ∈ call.selected) ∧
      ∃ seen ∈ history, ReadsPrices seen call.job.id ∧ ∃ price ∈ seen.before.db.prices,
        price.id = row.id ∧ price.active = true ∧ price.isGlobal row.modelName = true
  /-- A generation of the catalogue is applied once. -/
  appliedOnce : history.Pairwise fun later earlier => ∀ call call', applied later = some call →
    applied earlier = some call' → call.job.catalogGeneration ≠ call'.job.catalogGeneration
  /-- The owner of the job has the lease when it is applied. -/
  leaseHeld : ∀ t ∈ history, ∀ call, applied t = some call →
    t.before.db.control.owner = some call.owner ∧
      call.nowMs < t.before.db.control.leaseUntilMs ∧
      t.before.db.control.catalogGeneration = call.job.catalogGeneration
  /-- A call that has returned an error has changed nothing. -/
  errorsChangeNothing : ∀ id call error, final.calls.lookup id = some call →
    call.task = .returned (some error) → ∀ t ∈ history, t.action.call = some id →
      t.after.db = t.before.db
  onePrice : OnePricePerScope final.db.prices
  /-- No price is ever removed. -/
  pricesKept : ∀ t ∈ history, ∀ row ∈ t.before.db.prices,
    row ∈ final.db.prices ∨ row.deactivate ∈ final.db.prices

variable [DecidableEq Card]

open SyncStore

inductive Effect (before : SyncStore Card) : SyncAction Card → SyncStore Card → Prop
  /-- No call acts; the prices and the generation stay. -/
  | outside {action : SyncAction Card} {after : SyncStore Card} (none : action.call = none)
      (calls : after.calls = before.calls) (jobs : after.jobs = before.jobs)
      (prices : after.db.prices = before.db.prices)
      (generation : after.db.control.catalogGeneration = before.db.control.catalogGeneration) :
    Effect before action after
  /-- A call moves on, and the database stays. -/
  | moved {action : SyncAction Card} {after : SyncStore Card} (id : Nat) (call : Call Card)
      (acts : action.call = some id) (db : after.db = before.db)
      (calls : after.calls = before.calls.insert id call)
      (notApplied : applied ⟨before, action, after⟩ = Option.none)
      (running : ∀ call, before.calls.lookup id = some call → ∀ error, call.task ≠ .returned error)
      (recorded : ∀ history, before.Recorded history → before.Sound →
        after.Recorded (⟨before, action, after⟩ :: history)) :
    Effect before action after
  | committed (id : Nat) (newId : Int) (call : Call Card) (here : before.calls.lookup id = some call)
      (next : call.task.next (before.db.view call.writes) newId = some .commit) :
    Effect before (.run id newId) { before.finish id none with db := before.db.view call.writes }

omit [DecidableEq Card] in
theorem applied_run {before after : SyncStore Card} {id : Nat} {newId : Int} {call : Call Card}
    (here : before.calls.lookup id = some call) :
    applied ⟨before, .run id newId, after⟩ = match call.task with
      | .apply apply .commit => some apply
      | _ => none := by
  simp only [applied, here, Option.map_some]
  split
  · rename_i same
    rw [Option.some.inj same]
  · rename_i other
    split
    · rename_i same
      exact absurd (congrArg some same) (other _)
    · rfl

theorem notApplied_of_next {before after : SyncStore Card} {id : Nat} {newId : Int}
    {call : Call Card} (here : before.calls.lookup id = some call)
    (next : call.task.next (before.db.view call.writes) newId ≠ some .commit) :
    applied ⟨before, .run id newId, after⟩ = none := by
  rw [applied_run here]
  split
  · rename_i same
    rw [same] at next
    exact absurd rfl next
  · rfl

theorem ran_effect {before after : SyncStore Card} {id : Nat} {newId : Int} {call : Call Card}
    (here : before.calls.lookup id = some call) (running : ∀ error, call.task ≠ .returned error)
    (ran : Ran before id newId call after) : Effect before (.run id newId) after := by
  have runs : ∀ other, before.calls.lookup id = some other → ∀ error,
      other.task ≠ .returned error := by
    intro other found
    rw [here] at found
    cases found
    exact running
  cases ran with
  | wrote writes task next free fits =>
    have stays : call.task.next (before.db.view call.writes) newId ≠ some .commit := by
      rw [next]
      exact fun same => by cases same
    refine .moved id _ rfl rfl rfl (notApplied_of_next here stays) runs
      fun history recorded sound => ?_
    exact SyncStore.Recorded.enter (recorded.cons _)
      (recorded_write (recorded.calls id call here) here next (sound.tasks id call here))
  | committed next => exact .committed id newId call here next
  | prepared job next =>
    have stays : call.task.next (before.db.view call.writes) newId ≠ some .commit := by
      rw [next]
      exact fun same => by cases same
    refine .moved id { writes := [], task := .returned none } rfl rfl rfl
      (notApplied_of_next here stays) runs fun history recorded sound => ?_
    have finished : (before.finish id none).Recorded
        (⟨before, .run id newId, { before.finish id none with jobs := before.jobs ++ [job] }⟩ ::
          history) := (recorded.cons _).enter True.intro
    refine ⟨?_, finished.calls⟩
    intro other member
    obtain member | member := List.mem_append.mp member
    · exact finished.jobs other member
    · rw [List.mem_singleton.mp member]
      exact (recorded_prepared (recorded.calls id call here) next).cons _
  | ended error next =>
    exact .moved id _ rfl rfl rfl (notApplied_of_next here next) runs
      fun history recorded sound => (recorded.cons _).enter True.intro

theorem runCall_running {before after : SyncStore Card} {id : Nat} {newId : Int} {call : Call Card}
    (taken : before.runCall id newId call = some after) : ∀ error, call.task ≠ .returned error := by
  intro error returned
  unfold SyncStore.runCall at taken
  rw [returned] at taken
  cases taken

theorem moved_enter {before : SyncStore Card} {action : SyncAction Card} {id : Nat}
    {call : Call Card} (acts : action.call = some id)
    (notApplied : applied ⟨before, action, before.enter id call⟩ = none)
    (running : ∀ call, before.calls.lookup id = some call → ∀ error, call.task ≠ .returned error)
    (task : ∀ history, before.Recorded history → call.task.Recorded history) :
    Effect before action (before.enter id call) :=
  .moved id call acts rfl rfl notApplied running fun _ recorded _ =>
    (recorded.enter (task _ recorded)).cons _

theorem step_effect {before after : SyncStore Card} {action : SyncAction Card}
    (taken : Step before action after) : Effect before action after := by
  have notThere : ∀ {id : Nat}, (before.calls.lookup id).isNone = true → ∀ call,
      before.calls.lookup id = some call → ∀ error, call.task ≠ .returned error := by
    intro id missing call found
    rw [found] at missing
    cases missing
  unfold Step syncStep at taken
  cases action with
  | tick nowMs =>
    dsimp only at taken
    split at taken
    · cases taken
      exact .outside rfl rfl rfl rfl rfl
    · cases taken
  | inventory providerModels =>
    cases taken
    exact .outside rfl rfl rfl rfl rfl
  | lease owner jobId nowMs =>
    dsimp only at taken
    split at taken
    · cases taken
      refine .outside rfl rfl rfl rfl ?_
      simp only [setControl, SyncControl.lease]
      split <;> rfl
    · cases taken
  | renew owner nowMs =>
    dsimp only at taken
    split at taken
    · cases taken
      refine .outside rfl rfl rfl rfl ?_
      simp only [setControl, SyncControl.renew]
      split <;> rfl
    · cases taken
  | release owner =>
    dsimp only at taken
    split at taken
    · cases taken
      refine .outside rfl rfl rfl rfl ?_
      simp only [setControl, SyncControl.release]
      split <;> rfl
    · cases taken
  | prepare id job =>
    dsimp only at taken
    split at taken
    · rename_i fresh
      cases taken
      refine moved_enter rfl rfl (notThere fresh.1) fun history recorded modelName => ?_
      have empty := List.isEmpty_iff.mp fresh.2.2
      exact AList.lookup_eq_none.mpr fun member => by
        rw [AList.mem_keys, empty] at member
        cases member
    · cases taken
  | apply id job selected owner =>
    dsimp only at taken
    split at taken
    · rename_i job' missing found
      cases taken
      refine moved_enter rfl rfl (notThere (by rw [missing]; rfl)) fun history recorded => ?_
      exact recorded.jobs job' (List.mem_of_getElem? found)
    · cases taken
  | admin id phase =>
    dsimp only at taken
    split at taken
    · rename_i fresh
      cases taken
      exact moved_enter rfl rfl (notThere fresh.1) fun _ _ => True.intro
    · cases taken
  | run id newId =>
    obtain ⟨call, here, ran⟩ := Option.bind_eq_some_iff.mp taken
    exact ran_effect here (runCall_running ran) (runCall_cases ran)
  | fail id message =>
    dsimp only at taken
    split at taken
    · cases taken
    · rename_i call notReturned found
      cases taken
      refine moved_enter rfl rfl ?_ fun _ _ => True.intro
      intro other there error returned
      rw [found] at there
      cases there
      obtain ⟨writes, task⟩ := call
      dsimp only at returned
      subst returned
      exact notReturned writes error rfl
    · cases taken

theorem next_commit {task : Task Card} {view : PriceDb Card} {newId : Int}
    (next : task.next view newId = some .commit) :
    (∃ call, task = .apply call .commit) ∨ task = .admin .commit := by
  cases task with
  | returned error => cases next
  | prepare job phase =>
    simp only [Task.next, Option.some.injEq] at next
    cases phase with
    | readSources =>
      simp only [prepareNext] at next
      split at next <;> cases next
    | readGeneration | readPrices => cases next
  | admin phase =>
    simp only [Task.next, Option.some.injEq] at next
    cases phase with
    | commit => exact .inr rfl
    | select =>
      simp only [adminNext] at next
      split at next <;> cases next
    | clear | deactivate | insert => cases next
  | apply call phase =>
    simp only [Task.next, Option.some.injEq] at next
    cases phase with
    | commit => exact .inl ⟨call, rfl⟩
    | fence | check | deactivate =>
      simp only [ApplyCall.next] at next
      split at next <;> cases next
    | select =>
      simp only [ApplyCall.next, ApplyCall.current] at next
      repeat' split at next
      all_goals cases next
    | catalog models => cases models <;> cases next
    | withdraw | insert | clearMissing | recordMissing | advance => cases next

theorem effect_generation {before after : SyncStore Card} {action : SyncAction Card}
    (sound : before.Sound) (effect : Effect before action after) :
    match applied ⟨before, action, after⟩ with
    | some call => before.db.control.owner = some call.owner ∧
      call.nowMs < before.db.control.leaseUntilMs ∧
      before.db.control.catalogGeneration = call.job.catalogGeneration ∧
      after.db.control.catalogGeneration = call.job.catalogGeneration + 1
    | none => after.db.control.catalogGeneration = before.db.control.catalogGeneration := by
  cases effect with
  | outside noCall calls jobs prices generation =>
    cases action with
    | tick | inventory | lease | renew | release => exact generation
    | prepare | apply | admin | run | fail => cases noCall
  | moved id call acts db calls notApplied =>
    rw [notApplied]
    dsimp only
    rw [db]
  | committed id newId call here next =>
    rw [applied_run here]
    have known := sound.tasks id call here
    unfold Call.Sound at known
    obtain ⟨apply, task⟩ | task := next_commit next
    · rw [task] at known ⊢
      obtain ⟨⟨checked, generation⟩, _⟩ := known
      exact ⟨checked.owner, checked.lease, checked.generation, generation⟩
    · rw [task] at known ⊢
      exact congrArg SyncControl.catalogGeneration (PriceDb.view_control before.db known)

theorem effect_kept {before after : SyncStore Card} {action : SyncAction Card}
    (effect : Effect before action after) :
    ∀ row ∈ before.db.prices, ∃ kept ∈ after.db.prices, (versioning Card).Same row kept := by
  intro row member
  cases effect with
  | outside noCall calls jobs prices generation =>
    rw [prices]
    exact ⟨row, member, .inl rfl⟩
  | moved id call acts db =>
    rw [db]
    exact ⟨row, member, .inl rfl⟩
  | committed id newId call => exact view_prices_kept before.db call.writes row member

omit [DecidableEq Card] in
theorem mem_changes {writes : List (Write Card)} {change : Change (PriceRow Card) Int}
    (member : change ∈ changes writes) : .price change ∈ writes := by
  obtain ⟨write, inside, is⟩ := List.mem_filterMap.mp member
  cases write with
  | price other =>
    cases is
    exact inside
  | fence | withdraw | catalog | missing | advance => cases is

omit [DecidableEq Card] in
theorem deactivates_replaceable {db : PriceDb Card} {writes : List (Write Card)}
    {call : ApplyCall Card} {row later : PriceRow Card}
    (indexed : (versioning Card).Indexed (db.view writes).prices)
    (replaces : ∀ id, .price (.retire id) ∈ writes → Replaceable call (db.view writes).prices id)
    (member : row ∈ db.prices) (active : row.active = true)
    (there : later ∈ (db.view writes).prices) (same : later.id = row.id)
    (inactive : later.active = false) :
    row.providerId = none ∧ call.job.expected.lookup row.modelName = some row.id ∧
      (row.source = .manual → row.modelName ∈ call.selected) := by
  obtain ⟨kept, inside, is⟩ := view_prices_kept db writes row member
  have retired : .price (.retire row.id) ∈ writes := by
    have stored : (versioning Card).retiring (changes writes) row ∈ (db.view writes).prices := by
      rw [PriceDb.view_prices, Versioning.view_eq]
      exact List.mem_append_left _ (List.mem_map_of_mem member)
    have key := (Versioning.retiring_same (v := versioning Card) (changes writes) row).key
    obtain unchanged | member := Versioning.retiring_eq_or (v := versioning Card) (changes writes) row
    · rw [unchanged] at stored
      have equal := indexed.eq_of_key there stored same
      rw [equal, active] at inactive
      cases inactive
    · exact mem_changes member
  obtain ⟨seen, inView, id, everywhere, recorded, selected⟩ := replaces row.id retired
  have equal := indexed.eq_of_key inView inside (id.trans is.key.symm)
  rw [equal] at everywhere recorded selected
  obtain is | is := is
  · rw [is] at everywhere recorded selected
    exact ⟨everywhere, recorded, selected⟩
  · rw [is] at everywhere recorded selected
    exact ⟨everywhere, recorded, selected⟩

structure SyncStore.Fresh (store : SyncStore Card) : Prop where
  indexed : (versioning Card).Indexed store.db.prices
  noCalls : ∀ id, store.calls.lookup id = none
  noJobs : store.jobs = []

structure RunKept (history : List (SyncTransition Card)) (store : SyncStore Card) : Prop where
  sound : store.Sound
  recorded : store.Recorded history
  generations : ∀ t ∈ history, ∀ call, applied t = some call →
    call.job.catalogGeneration < store.db.control.catalogGeneration
  appliedOnce : history.Pairwise fun later earlier => ∀ call call', applied later = some call →
    applied earlier = some call' → call.job.catalogGeneration ≠ call'.job.catalogGeneration
  rows : ∀ t ∈ history, ∀ row ∈ t.before.db.prices,
    ∃ kept ∈ store.db.prices, (versioning Card).Same row kept
  known : ∀ t ∈ history, ∀ id, t.action.call = some id → store.calls.lookup id ≠ none
  unchanged : ∀ id call, store.calls.lookup id = some call → call.task ≠ .returned none →
    ∀ t ∈ history, t.action.call = some id → t.after.db = t.before.db

omit [DecidableEq Card] in
theorem SyncStore.Fresh.kept {store : SyncStore Card} (fresh : store.Fresh) : RunKept [] store := by
  have nobody : ∀ id call, store.calls.lookup id ≠ some call := by
    intro id call found
    rw [fresh.noCalls id] at found
    cases found
  refine ⟨⟨fresh.indexed, ?_, ?_, ?_⟩, ⟨?_, ?_⟩, ?_, .nil, ?_, ?_, ?_⟩
  · exact fun id call found => absurd found (nobody id call)
  · exact fun id call found => absurd found (nobody id call)
  · exact fun id call found => absurd found (nobody id call)
  · rw [fresh.noJobs]
    exact fun job member => absurd member List.not_mem_nil
  · exact fun id call found => absurd found (nobody id call)
  · exact fun t member => absurd member List.not_mem_nil
  · exact fun t member => absurd member List.not_mem_nil
  · exact fun t member => absurd member List.not_mem_nil
  · exact fun id call found => absurd found (nobody id call)

theorem effect_recorded {history : List (SyncTransition Card)} {before after : SyncStore Card}
    {action : SyncAction Card} (sound : before.Sound) (recorded : before.Recorded history)
    (effect : Effect before action after) :
    after.Recorded (⟨before, action, after⟩ :: history) := by
  cases effect with
  | outside noCall calls jobs =>
    have kept := recorded.cons ⟨before, action, after⟩
    refine ⟨?_, ?_⟩
    · rw [jobs]
      exact kept.jobs
    · rw [calls]
      exact kept.calls
  | moved id call acts db calls notApplied running advances =>
    exact advances history recorded sound
  | committed id newId call here next =>
    have kept : (before.finish id none).Recorded (⟨before, .run id newId,
        { before.finish id none with db := before.db.view call.writes }⟩ :: history) :=
      (recorded.cons _).enter True.intro
    exact ⟨kept.jobs, kept.calls⟩

theorem effect_unchanged {history : List (SyncTransition Card)} {before after : SyncStore Card}
    {action : SyncAction Card} (kept : RunKept history before)
    (effect : Effect before action after) :
    (∀ t ∈ (⟨before, action, after⟩ :: history : List (SyncTransition Card)), ∀ id,
      t.action.call = some id → after.calls.lookup id ≠ none) ∧
    ∀ id call, after.calls.lookup id = some call → call.task ≠ .returned none →
      ∀ t ∈ (⟨before, action, after⟩ :: history : List (SyncTransition Card)),
        t.action.call = some id → t.after.db = t.before.db := by
  -- Where a call acts, its row is written, and the rows of the others stay.
  have acting : ∀ id call, action.call = some id → after.calls = before.calls.insert id call →
      (call.task ≠ .returned none → after.db = before.db ∧
        ∀ call, before.calls.lookup id = some call → call.task ≠ .returned none) →
      (∀ t ∈ (⟨before, action, after⟩ :: history : List (SyncTransition Card)), ∀ id,
        t.action.call = some id → after.calls.lookup id ≠ none) ∧
      ∀ id call, after.calls.lookup id = some call → call.task ≠ .returned none →
        ∀ t ∈ (⟨before, action, after⟩ :: history : List (SyncTransition Card)),
          t.action.call = some id → t.after.db = t.before.db := by
    intro id call acts calls still
    refine ⟨?_, ?_⟩
    · intro t member other acted
      rw [calls]
      by_cases same : other = id
      · subst same
        rw [AList.lookup_insert]
        exact fun none => by cases none
      · rw [AList.lookup_insert_ne same]
        obtain rfl | member := List.mem_cons.mp member
        · exact absurd (Option.some.inj (acted.symm.trans acts)) same
        · exact kept.known t member other acted
    · intro other there found running t member acted
      rw [calls] at found
      by_cases same : other = id
      · subst same
        rw [AList.lookup_insert, Option.some.injEq] at found
        subst found
        obtain ⟨db, earlier⟩ := still running
        obtain rfl | member := List.mem_cons.mp member
        · exact db
        · cases before' : before.calls.lookup other with
          | none => exact absurd before' (kept.known t member other acted)
          | some first =>
            exact kept.unchanged other first before' (earlier first before') t member acted
      · rw [AList.lookup_insert_ne same] at found
        obtain rfl | member := List.mem_cons.mp member
        · exact absurd (Option.some.inj (acted.symm.trans acts)) same
        · exact kept.unchanged other there found running t member acted
  cases effect with
  | outside noCall calls =>
    rw [calls]
    refine ⟨?_, ?_⟩
    · intro t member id acted
      obtain rfl | member := List.mem_cons.mp member
      · rw [noCall] at acted
        cases acted
      · exact kept.known t member id acted
    · intro id call found running t member acted
      obtain rfl | member := List.mem_cons.mp member
      · rw [noCall] at acted
        cases acted
      · exact kept.unchanged id call found running t member acted
  | moved id call acts db calls notApplied running =>
    exact acting id call acts calls fun _ => ⟨db, fun first found => running first found none⟩
  | committed id newId call here next =>
    exact acting id _ rfl rfl fun running => absurd rfl running

theorem step_runKept {history : List (SyncTransition Card)} {before after : SyncStore Card}
    {action : SyncAction Card} (kept : RunKept history before)
    (taken : Step before action after) : RunKept (⟨before, action, after⟩ :: history) after := by
  have effect := step_effect taken
  have generation := effect_generation kept.sound effect
  obtain ⟨known, unchanged⟩ := effect_unchanged kept effect
  refine ⟨step_sound kept.sound taken, effect_recorded kept.sound kept.recorded effect, ?_, ?_, ?_,
    known, unchanged⟩
  · intro t member call is
    obtain rfl | member := List.mem_cons.mp member
    · rw [is] at generation
      have moves := generation.2.2.2
      omega
    · have earlier := kept.generations t member call is
      split at generation
      · have first := generation.2.2.1
        have moves := generation.2.2.2
        omega
      · omega
  · refine List.pairwise_cons.mpr ⟨?_, kept.appliedOnce⟩
    intro t member call call' is earlier
    rw [is] at generation
    have before := kept.generations t member call' earlier
    have same := generation.2.2.1
    omega
  · intro t member row stored
    obtain rfl | member := List.mem_cons.mp member
    · exact effect_kept effect row stored
    · obtain ⟨stays, there, same⟩ := kept.rows t member row stored
      obtain ⟨later, inside, next⟩ := effect_kept effect stays there
      exact ⟨later, inside, same.trans next⟩

theorem run_runKept {start final : SyncStore Card} {history : List (SyncTransition Card)}
    (fresh : start.Fresh) (run : Execution Step start history final) : RunKept history final :=
  run.invariant fresh.kept fun _ _ _ _ kept taken => step_runKept kept taken

omit [DecidableEq Card] in
theorem onePricePerScope_of_indexed {prices : List (PriceRow Card)}
    (indexed : (versioning Card).Indexed prices) : OnePricePerScope prices :=
  indexed.imp fun compatible => compatible.2

theorem applied_commit {before after : SyncStore Card} {action : SyncAction Card}
    {apply : ApplyCall Card} (effect : Effect before action after)
    (is : applied ⟨before, action, after⟩ = some apply) :
    ∃ id call, before.calls.lookup id = some call ∧ call.task = .apply apply .commit ∧
      after.db = before.db.view call.writes := by
  cases effect with
  | outside noCall =>
    cases action with
    | tick | inventory | lease | renew | release => cases is
    | prepare | apply | admin | run | fail => cases noCall
  | moved id call acts db calls notApplied =>
    rw [notApplied] at is
    cases is
  | committed id newId call here next =>
    rw [applied_run here] at is
    refine ⟨id, call, here, ?_, rfl⟩
    split at is
    · rename_i same
      rw [same]
      cases is
      rfl
    · cases is

/-- The synchronization replaces a manual price only as it was previewed and selected, and applies
a catalogue once and with the lease in hand; where it fails it changes nothing. -/
theorem sync_safe {start final : SyncStore Card} {history : List (SyncTransition Card)}
    (fresh : start.Fresh) (run : Execution Step start history final) :
    SyncSafe history final := by
  have kept := run_runKept fresh run
  -- What holds where a step of the run begins.
  have before : ∀ t ∈ history, ∃ earlier, RunKept earlier t.before ∧ (∀ s ∈ earlier, s ∈ history) ∧
      Effect t.before t.action t.after := by
    intro t member
    obtain ⟨recent, earlier, is⟩ := List.append_of_mem member
    subst is
    obtain ⟨before, taken, _⟩ := run.split_at
    exact ⟨earlier, run_runKept fresh before, fun s inside =>
      List.mem_append_right _ (List.mem_cons_of_mem _ inside), step_effect taken⟩
  refine ⟨?_, kept.appliedOnce, ?_, ?_, onePricePerScope_of_indexed kept.sound.indexed, ?_⟩
  · intro t member apply is row ⟨stored, active, later, there, same, inactive⟩
    obtain ⟨earlier, known, inside, effect⟩ := before t member
    obtain ⟨id, call, here, task, db⟩ := applied_commit effect is
    have sound := known.sound.tasks id call here
    have recorded := known.recorded.calls id call here
    unfold Call.Sound at sound
    rw [task] at sound recorded
    rw [db] at there
    obtain ⟨everywhere, expected, selected⟩ := deactivates_replaceable
      (known.sound.seen id call here) sound.2 stored active there same inactive
    obtain ⟨seen, reading, reads, price⟩ := recorded row.modelName row.id expected
    exact ⟨everywhere, expected, selected, seen, inside seen reading, reads, price⟩
  · intro t member apply is
    obtain ⟨earlier, known, _, effect⟩ := before t member
    have generation := effect_generation known.sound effect
    rw [is] at generation
    exact ⟨generation.1, generation.2.1, generation.2.2.1⟩
  · intro id call error found returned
    refine kept.unchanged id call found ?_
    rw [returned]
    exact fun same => by cases same
  · intro t member row stored
    obtain ⟨stays, there, is⟩ := kept.rows t member row stored
    obtain is | is := is
    · rw [is] at there
      exact .inl there
    · rw [is] at there
      exact .inr there

def manualPrice : PriceRow Nat where
  id := 1
  providerId := none
  modelName := "m"
  price := 5
  active := true
  source := .manual
  sourceVersion := none

def cloudPrice : PriceRow Nat where
  id := 2
  providerId := none
  modelName := "m"
  price := 7
  active := true
  source := .cloud
  sourceVersion := some "v1"

def onePriceStore : SyncStore Nat where
  clockMs := 1000
  db :=
    { prices := [manualPrice]
      control :=
        { owner := none
          leaseUntilMs := 0
          lastSuccessMs := none
          lastAttemptMs := none
          lastJobId := none
          catalogVersion := none
          catalogGeneration := 0 }
      catalog := fun _ => none
      missing := fun _ => none
      providerModels := [] }
  calls := ∅
  jobs := []

theorem onePriceStore_fresh : onePriceStore.Fresh :=
  ⟨List.pairwise_singleton _ _, fun _ => rfl, rfl⟩

def previewJob : Job Nat where
  id := "p"
  sourceVersion := "v1"
  counts := {}
  conflicts := []
  models := [{ modelName := "m", priceData := some 7 }]
  expected := ∅
  catalogGeneration := 0

def takeCloud : List (SyncAction Nat) :=
  .release "o" :: List.replicate 12 (.run 1 2) ++ [.apply 1 0 ["m"] "o", .lease "o" "p" 1000] ++
    List.replicate 3 (.run 0 0) ++ [.prepare 0 previewJob]

theorem sync_safe_takeCloud : ∃ history final,
    Execution Step onePriceStore history final ∧
      final.db.prices = [manualPrice.deactivate, cloudPrice] ∧ SyncSafe history final := by
  have replayed : ∃ run, replay syncStep onePriceStore takeCloud = some run ∧
      run.2.db.prices = [manualPrice.deactivate, cloudPrice] := ⟨_, rfl, by decide⟩
  obtain ⟨⟨history, final⟩, run, prices⟩ := replayed
  exact ⟨history, final, replay_run run, prices, sync_safe onePriceStore_fresh (replay_run run)⟩

end CodexGate.Pricing
