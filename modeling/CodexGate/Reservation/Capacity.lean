import CodexGate.Foundation.Execution
import CodexGate.Reservation.Atomicity

namespace CodexGate.Provider

open Foundation Health

def ProviderRuntimeBook.purgeProvider (book : ProviderRuntimeBook) (providerId : Int) :
    ProviderRuntimeBook :=
  { book with
    errors := book.errors.erase providerId
    byProvider := book.byProvider.erase providerId }

/-- The book, and the permits that were given out and are not dropped yet. -/
structure CapacityPool where
  book : ProviderRuntimeBook
  permits : List ProviderCapacityPermit

/-- A guard that is dropped does what `neutral` does. -/
inductive CapacityAction
  | tryAcquireCapacity (provider : UpstreamProvider)
  | dropPermit (permit : ProviderCapacityPermit)
  | tryBeginAttempt (provider : UpstreamProvider) (nowMs : Int)
  | success (guard : ProviderAttemptGuard) (status latencyMs : Option Int) (nowMs : Int)
  | failure (guard : ProviderAttemptGuard) (status : Option Int) (errorType errorMessage : String)
      (nowMs : Int)
  | neutral (guard : ProviderAttemptGuard)
  | recordError (providerId : Int) (error : RecentError)
  | reset (providerId : Int)
  | purgeProvider (providerId : Int)

def CapacityAction.purges (id : Int) : CapacityAction → Bool
  | .purgeProvider providerId => providerId == id
  | _ => false

namespace CapacityPool

def new : CapacityPool := ⟨.new, []⟩

def held (pool : CapacityPool) (id : Int) : Nat := pool.permits.countP (·.providerId == id)

def step (pool : CapacityPool) : CapacityAction → Option CapacityPool
  | .tryAcquireCapacity provider =>
    some ⟨(pool.book.tryAcquireCapacity provider).2,
      (pool.book.tryAcquireCapacity provider).1.toList ++ pool.permits⟩
  | .dropPermit permit =>
    if permit ∈ pool.permits then some ⟨permit.drop pool.book, pool.permits.erase permit⟩ else none
  | .tryBeginAttempt provider nowMs =>
    some { pool with book := (pool.book.tryBeginAttempt provider nowMs).2 }
  | .success guard status latencyMs nowMs =>
    some { pool with book := guard.success pool.book status latencyMs nowMs }
  | .failure guard status errorType errorMessage nowMs =>
    some { pool with book := (guard.failure pool.book status errorType errorMessage nowMs).2 }
  | .neutral guard => some { pool with book := guard.neutral pool.book }
  | .recordError providerId error => some { pool with book := pool.book.recordError providerId error }
  | .reset providerId => some { pool with book := pool.book.reset providerId }
  | .purgeProvider providerId => some { pool with book := pool.book.purgeProvider providerId }

/-- All that an operation does to the two counts of a provider. -/
inductive Effect (pool next : CapacityPool) (action : CapacityAction) (id : Int) : Prop
  | same (inFlight : (next.book.entry id).inFlight = (pool.book.entry id).inFlight)
      (held : next.held id = pool.held id)
  | acquired (inFlight : (next.book.entry id).inFlight =
        saturatingAddU32 (pool.book.entry id).inFlight 1)
      (held : next.held id = pool.held id + 1)
  | dropped (inFlight : (next.book.entry id).inFlight = (pool.book.entry id).inFlight - 1)
      (held : next.held id + 1 = pool.held id)
  | purged (purges : action.purges id = true)

theorem acquire_effect (pool : CapacityPool) (provider : UpstreamProvider) (id : Int) :
    Effect pool ⟨(pool.book.tryAcquireCapacity provider).2,
      (pool.book.tryAcquireCapacity provider).1.toList ++ pool.permits⟩
      (.tryAcquireCapacity provider) id := by
  cases granted : (pool.book.tryAcquireCapacity provider).1 with
  | none =>
    have kept := ProviderRuntimeBook.tryAcquireCapacity_refused_kept granted
    exact .same (congrArg (·.inFlight) (kept.entries id)) rfl
  | some permit =>
    obtain ⟨owner, entry, -⟩ := ProviderRuntimeBook.tryAcquireCapacity_granted granted
    by_cases here : provider.id = id
    · subst here
      exact .acquired (congrArg (·.inFlight) entry) (by simp [held, owner, Nat.add_comm])
    · have others := (@ProviderRuntimeBook.tryAcquireCapacity_entry_ne pool.book provider id)
        (Ne.symm here)
      exact .same (congrArg (·.inFlight) others) (by simp [held, owner, here])

theorem dropPermit_effect {pool : CapacityPool} {permit : ProviderCapacityPermit}
    (member : permit ∈ pool.permits) (id : Int) :
    Effect pool ⟨permit.drop pool.book, pool.permits.erase permit⟩ (.dropPermit permit) id := by
  have counted := (List.perm_cons_erase member).countP_eq (·.providerId == id)
  unfold ProviderCapacityPermit.drop
  by_cases here : permit.providerId = id
  · subst here
    refine .dropped ?_ ?_
    · rw [ProviderRuntimeBook.releaseCapacity_entry]
      rfl
    · rw [List.countP_cons_of_pos (by simp)] at counted
      exact counted.symm
  · refine .same ?_ ?_
    · rw [ProviderRuntimeBook.releaseCapacity_entry_ne _ (Ne.symm here)]
    · rw [List.countP_cons_of_neg (by simpa using here)] at counted
      exact counted.symm

theorem step_effect {pool next : CapacityPool} {action : CapacityAction}
    (taken : pool.step action = some next) (id : Int) : Effect pool next action id := by
  cases action with
  | tryAcquireCapacity provider =>
    cases taken
    exact pool.acquire_effect provider id
  | dropPermit permit =>
    simp only [step] at taken
    split at taken
    · rename_i member
      cases taken
      exact dropPermit_effect member id
    · cases taken
  | tryBeginAttempt provider nowMs =>
    cases taken
    refine .same ?_ rfl
    by_cases here : id = provider.id
    · rw [here]
      exact ProviderRuntimeBook.tryBeginAttempt_inFlight pool.book provider nowMs
    · exact congrArg (·.inFlight) (ProviderRuntimeBook.tryBeginAttempt_entry_ne here)
  | success guard status latencyMs nowMs =>
    cases taken
    exact .same ((guard.success_spent pool.book status latencyMs nowMs).inFlight id) rfl
  | failure guard status errorType errorMessage nowMs =>
    cases taken
    exact .same ((guard.failure_spent pool.book status errorType errorMessage nowMs).inFlight id) rfl
  | neutral guard =>
    cases taken
    exact .same ((guard.neutral_spent pool.book).inFlight id) rfl
  | recordError providerId error =>
    cases taken
    exact .same rfl rfl
  | reset providerId =>
    cases taken
    refine .same ?_ rfl
    by_cases here : id = providerId
    · rw [here, ProviderRuntimeBook.reset, ProviderRuntimeBook.entry_put_same]
      rfl
    · rw [ProviderRuntimeBook.reset, ProviderRuntimeBook.entry_put_ne _ _ here]
  | purgeProvider providerId =>
    cases taken
    by_cases here : id = providerId
    · exact .purged (by simp [CapacityAction.purges, here])
    · refine .same ?_ rfl
      rw [ProviderRuntimeBook.entry, ProviderRuntimeBook.purgeProvider, AList.lookup_erase_ne here]
      rfl

abbrev Run := Execution (fun before action after => step before action = some after) new

variable {history : List (Transition CapacityPool CapacityAction)} {pool : CapacityPool}

theorem run_counts (run : Run history pool) (id : Int)
    (kept : ∀ t ∈ history, t.action.purges id = false)
    (few : ∀ t ∈ history, t.after.held id ≤ u32Max) :
    (pool.book.entry id).inFlight = pool.held id := by
  induction run with
  | start => rfl
  | next run taken ih =>
    obtain ⟨here, before⟩ := List.forall_mem_cons.mp kept
    obtain ⟨fits, earlier⟩ := List.forall_mem_cons.mp few
    have same := ih before earlier
    cases step_effect taken id with
    | same inFlight held => rw [inFlight, held, same]
    | acquired inFlight held =>
      rw [held] at fits ⊢
      rw [inFlight, same, saturatingAddU32_eq (by omega)]
    | dropped inFlight held =>
      rw [inFlight]
      omega
    | purged purges =>
      rw [here] at purges
      cases purges

/-- In every run the book is a counting semaphore for a provider that is not purged: a permit is
given out exactly while fewer of them are held than the limit says. -/
theorem capacity_counted (run : Run history pool) (id : Int)
    (kept : ∀ t ∈ history, t.action.purges id = false)
    (few : ∀ t ∈ history, t.after.held id ≤ u32Max) :
    (pool.book.entry id).inFlight = pool.held id ∧
      ∀ provider, provider.id = id → ((pool.book.tryAcquireCapacity provider).1.isSome = true ↔
        ∀ limit, provider.maxConcurrency = some limit → pool.held id < concurrencyLimit limit) := by
  have same := run_counts run id kept few
  refine ⟨same, ?_⟩
  rintro provider rfl
  rw [← same]
  unfold ProviderRuntimeBook.tryAcquireCapacity ProviderRuntimeState.tryAcquireCapacity
  cases provider.maxConcurrency with
  | none => simp
  | some limit =>
    by_cases full : (pool.book.entry provider.id).inFlight ≥ concurrencyLimit limit
    · simp [full, Nat.not_lt.mpr full]
    · simp [full, Nat.not_le.mp full]

def limitedProvider : UpstreamProvider :=
  { Reservation.unlimitedTarget.provider with maxConcurrency := some (i32 1) }

/-- The only permit is held, and a second one is refused. -/
theorem capacity_counted_one : ∃ history pool, Run history pool ∧
    ((pool.book.tryAcquireCapacity limitedProvider).1.isSome = true ↔ 1 < 1) := by
  have acquired : step new (.tryAcquireCapacity limitedProvider) = some _ := rfl
  have run : Run _ _ := Execution.start.next acquired
  have admits := (capacity_counted run 1 (by simp [CapacityAction.purges]) (by decide)).2
    limitedProvider rfl
  exact ⟨_, _, run, admits.trans (by simp [limitedProvider]; decide)⟩

end CapacityPool

end CodexGate.Provider
