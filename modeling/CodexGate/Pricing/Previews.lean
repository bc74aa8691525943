import CodexGate.Pricing.Stores

namespace CodexGate.Pricing

open Foundation

variable {Card : Type}

abbrev SyncTransition (Card : Type) := Transition (SyncStore Card) (SyncAction Card)

def ReadsPrices (t : SyncTransition Card) (jobId : String) : Prop :=
  ∃ id newId writes job, t.action = .run id newId ∧
    t.before.calls.lookup id = some { writes := writes, task := .prepare job .readPrices } ∧
      job.id = jobId

def Recorded (history : List (SyncTransition Card)) (job : Job Card) : Prop :=
  ∀ modelName id, job.expected.lookup modelName = some id → ∃ t ∈ history, ReadsPrices t job.id ∧
    ∃ row ∈ t.before.db.prices, row.id = id ∧ row.active = true ∧ row.isGlobal modelName = true

def FromPrices (prices : List (PriceRow Card)) (job : Job Card) : Prop :=
  ∀ modelName id, job.expected.lookup modelName = some id →
    ∃ row ∈ prices, row.id = id ∧ row.active = true ∧ row.isGlobal modelName = true

theorem FromPrices.insert {prices : List (PriceRow Card)} {job : Job Card}
    (recorded : FromPrices prices job) {modelName : String} {row : PriceRow Card}
    (found : globalPrice prices modelName = some row) :
    FromPrices prices { job with expected := job.expected.insert modelName row.id } := by
  intro other id expected
  by_cases same : other = modelName
  · subst same
    simp only [AList.lookup_insert, Option.some.injEq] at expected
    have matched := List.find?_some found
    rw [Bool.and_eq_true] at matched
    exact ⟨row, List.mem_of_find?_eq_some found, expected, matched.1, matched.2⟩
  · rw [AList.lookup_insert_ne same] at expected
    exact recorded other id expected

variable [DecidableEq Card]

theorem prepareModel_recorded {prices sources : List (PriceRow Card)} {job after : Job Card}
    {model : CatalogModel Card} (recorded : FromPrices prices job)
    (prepared : prepareModel prices sources job model = .ok after) :
    FromPrices prices after ∧ after.id = job.id := by
  unfold prepareModel at prepared
  cases found : globalPrice prices model.modelName with
  | none =>
    simp only [found] at prepared
    split at prepared <;> cases prepared <;> exact ⟨recorded, rfl⟩
  | some row =>
    have inserted := recorded.insert found
    simp only [found] at prepared
    repeat' split at prepared
    all_goals cases prepared
    all_goals exact ⟨inserted, rfl⟩

theorem prepareModels_recorded {prices sources : List (PriceRow Card)}
    {models : List (CatalogModel Card)} {job after : Job Card} (recorded : FromPrices prices job)
    (prepared : models.foldlM (prepareModel prices sources) job = .ok after) :
    FromPrices prices after ∧ after.id = job.id := by
  induction models generalizing job with
  | nil =>
    cases prepared
    exact ⟨recorded, rfl⟩
  | cons model models ih =>
    rw [List.foldlM_cons] at prepared
    cases first : prepareModel prices sources job model with
    | error message =>
      rw [first] at prepared
      cases prepared
    | ok next =>
      rw [first] at prepared
      obtain ⟨kept, same⟩ := prepareModel_recorded recorded first
      obtain ⟨rest, is⟩ := ih kept prepared
      exact ⟨rest, is.trans same⟩

def Task.Recorded (history : List (SyncTransition Card)) : Task Card → Prop
  | .prepare job (.readSources prices) => (∀ modelName, job.expected.lookup modelName = none) ∧
    ∃ t ∈ history, ReadsPrices t job.id ∧ ∀ row ∈ prices, row ∈ t.before.db.prices
  | .prepare job _ => ∀ modelName, job.expected.lookup modelName = none
  | .apply call _ => Pricing.Recorded history call.job
  | .admin _ | .returned _ => True

structure SyncStore.Recorded (history : List (SyncTransition Card)) (store : SyncStore Card) :
    Prop where
  jobs : ∀ job ∈ store.jobs, Pricing.Recorded history job
  calls : ∀ id call, store.calls.lookup id = some call → call.task.Recorded history

omit [DecidableEq Card] in
theorem Recorded.cons {history : List (SyncTransition Card)} {job : Job Card}
    (recorded : Recorded history job) (latest : SyncTransition Card) :
    Recorded (latest :: history) job := by
  intro modelName id expected
  obtain ⟨t, member, reads⟩ := recorded modelName id expected
  exact ⟨t, List.mem_cons_of_mem _ member, reads⟩

omit [DecidableEq Card] in
theorem Task.Recorded.cons {history : List (SyncTransition Card)} {task : Task Card}
    (recorded : task.Recorded history) (latest : SyncTransition Card) :
    task.Recorded (latest :: history) := by
  unfold Task.Recorded at *
  split at recorded
  · obtain ⟨empty, t, member, reads⟩ := recorded
    exact ⟨empty, t, List.mem_cons_of_mem _ member, reads⟩
  · exact recorded
  · exact Pricing.Recorded.cons recorded latest
  · exact recorded
  · exact recorded

namespace SyncStore

omit [DecidableEq Card] in
theorem Recorded.cons {history : List (SyncTransition Card)} {store : SyncStore Card}
    (recorded : store.Recorded history) (latest : SyncTransition Card) :
    store.Recorded (latest :: history) :=
  ⟨fun job member => (recorded.jobs job member).cons latest,
    fun id call found => (recorded.calls id call found).cons latest⟩

omit [DecidableEq Card] in
theorem Recorded.enter {history : List (SyncTransition Card)} {store : SyncStore Card}
    (recorded : store.Recorded history) {id : Nat} {call : Call Card}
    (task : call.task.Recorded history) : (store.enter id call).Recorded history := by
  refine ⟨recorded.jobs, ?_⟩
  intro other there found
  by_cases same : other = id
  · subst same
    simp only [SyncStore.enter, AList.lookup_insert, Option.some.injEq] at found
    rw [← found]
    exact task
  · simp only [SyncStore.enter, AList.lookup_insert_ne same] at found
    exact recorded.calls other there found

theorem recorded_write {history : List (SyncTransition Card)} {store after : SyncStore Card}
    {id : Nat} {newId : Int} {call : Call Card} {writes : List (Write Card)} {task : Task Card}
    (recorded : call.task.Recorded history) (here : store.calls.lookup id = some call)
    (next : call.task.next (store.db.view call.writes) newId = some (.write writes task))
    (sound : call.Sound store.db) :
    task.Recorded (⟨store, .run id newId, after⟩ :: history) := by
  obtain ⟨before, current⟩ := call
  cases current with
  | returned error => cases next
  | prepare job phase =>
    simp only [Task.next, Option.some.injEq] at next
    cases phase with
    | readGeneration =>
      cases next
      exact recorded
    | readPrices =>
      cases next
      refine ⟨recorded, _, List.mem_cons_self .., ⟨id, newId, before, job, rfl, here, rfl⟩, ?_⟩
      intro row member
      have empty : before = [] := sound
      subst empty
      exact List.mem_of_mem_filter member
    | readSources prices =>
      simp only [prepareNext] at next
      split at next <;> cases next
  | admin phase =>
    simp only [Task.next, Option.some.injEq] at next
    obtain ⟨⟨phase', rfl⟩, _⟩ := adminNext_sound sound next
    exact True.intro
  | apply apply phase =>
    simp only [Task.next, Option.some.injEq] at next
    obtain ⟨later, phase', rfl, job, _⟩ := ApplyCall.next_sound sound.1 next
    have kept : Pricing.Recorded history apply.job := recorded
    show Pricing.Recorded _ later.job
    rw [job]
    exact kept.cons _

theorem recorded_prepared {history : List (SyncTransition Card)} {view : PriceDb Card}
    {newId : Int} {task : Task Card} {job : Job Card} (recorded : task.Recorded history)
    (next : task.next view newId = some (.prepared job)) : Pricing.Recorded history job := by
  cases task with
  | returned error => cases next
  | admin phase =>
    simp only [Task.next, Option.some.injEq] at next
    cases phase with
    | select =>
      simp only [adminNext] at next
      split at next <;> cases next
    | clear | deactivate | insert | commit => cases next
  | apply call phase =>
    simp only [Task.next, Option.some.injEq] at next
    cases phase with
    | fence | check | deactivate =>
      simp only [ApplyCall.next] at next
      split at next <;> cases next
    | select =>
      simp only [ApplyCall.next, ApplyCall.current] at next
      repeat' split at next
      all_goals cases next
    | catalog models => cases models <;> cases next
    | withdraw | insert | clearMissing | recordMissing | advance | commit => cases next
  | prepare first phase =>
    simp only [Task.next, Option.some.injEq] at next
    cases phase with
    | readGeneration | readPrices => cases next
    | readSources prices =>
      simp only [prepareNext] at next
      split at next
      · rename_i prepared
        cases next
        obtain ⟨empty, t, member, reads, stored⟩ := recorded
        have start : FromPrices prices first := by
          intro modelName id expected
          rw [empty modelName] at expected
          cases expected
        obtain ⟨kept, same⟩ := prepareModels_recorded start prepared
        intro modelName id expected
        obtain ⟨row, inside, is⟩ := kept modelName id expected
        rw [same]
        exact ⟨t, member, reads, row, stored row inside, is⟩
      · cases next

end SyncStore

end CodexGate.Pricing
