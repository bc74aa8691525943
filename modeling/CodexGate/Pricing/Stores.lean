import CodexGate.Pricing.Calls

namespace CodexGate.Pricing

open Foundation

variable {Card : Type}

namespace SyncStore

/-- The indexes hold of what everyone sees, and open transactions do not get in each other's way. -/
structure Sound (store : SyncStore Card) : Prop where
  indexed : (versioning Card).Indexed store.db.prices
  seen : ∀ id call, store.calls.lookup id = some call →
    (versioning Card).Indexed (store.db.view call.writes).prices
  apart : ∀ id call, store.calls.lookup id = some call → ∀ id' call',
    store.calls.lookup id' = some call' → id' ≠ id → Apart call.writes call'.writes
  tasks : ∀ id call, store.calls.lookup id = some call → call.Sound store.db

theorem Sound.enter {store : SyncStore Card} (sound : store.Sound) {id : Nat} {call : Call Card}
    (seen : (versioning Card).Indexed (store.db.view call.writes).prices)
    (apart : ∀ id' call', store.calls.lookup id' = some call' → id' ≠ id →
      Apart call.writes call'.writes)
    (task : call.Sound store.db) : (store.enter id call).Sound := by
  have lookup : ∀ other there, (store.enter id call).calls.lookup other = some there →
      other = id ∧ there = call ∨ other ≠ id ∧ store.calls.lookup other = some there := by
    intro other there found
    by_cases same : other = id
    · subst same
      simp only [SyncStore.enter, AList.lookup_insert, Option.some.injEq] at found
      exact .inl ⟨rfl, found.symm⟩
    · simp only [SyncStore.enter, AList.lookup_insert_ne same] at found
      exact .inr ⟨same, found⟩
  refine ⟨sound.indexed, ?_, ?_, ?_⟩
  · intro other there found
    obtain ⟨_, rfl⟩ | ⟨_, found⟩ := lookup other there found
    · exact seen
    · exact sound.seen other there found
  · intro first mine found second theirs found' distinct
    obtain ⟨rfl, rfl⟩ | ⟨notFirst, stored⟩ := lookup first mine found
    · obtain ⟨same, _⟩ | ⟨_, stored⟩ := lookup second theirs found'
      · exact absurd same distinct
      · exact apart second theirs stored distinct
    · obtain ⟨rfl, rfl⟩ | ⟨_, stored'⟩ := lookup second theirs found'
      · exact (apart first mine stored notFirst).symm
      · exact sound.apart first mine stored second theirs stored' distinct
  · intro other there found
    obtain ⟨_, rfl⟩ | ⟨_, found⟩ := lookup other there found
    · exact task
    · exact sound.tasks other there found

theorem Sound.start {store : SyncStore Card} (sound : store.Sound) (id : Nat) {task : Task Card}
    (starts : Call.Sound store.db { writes := [], task := task }) :
    (store.enter id { writes := [], task := task }).Sound :=
  sound.enter sound.indexed (fun _ other _ _ => apart_nil other.writes) starts

theorem Sound.finish {store : SyncStore Card} (sound : store.Sound) (id : Nat)
    (error : Option String) : (store.finish id error).Sound :=
  sound.start id rfl

theorem Sound.change {store : SyncStore Card} (sound : store.Sound) {later : PriceDb Card}
    (indexed : (versioning Card).Indexed later.prices)
    (seen : ∀ id call, store.calls.lookup id = some call →
      (versioning Card).Indexed (later.view call.writes).prices)
    (untouched : ∀ id call, store.calls.lookup id = some call →
      Untouched store.db later call.writes) :
    Sound { store with db := later } :=
  ⟨indexed, seen, sound.apart,
    fun id call found => (sound.tasks id call found).untouched (untouched id call found)⟩

theorem unlocked_of_lookup {store : SyncStore Card} (free : store.controlLocked = false) {id : Nat}
    {call : Call Card} (found : store.calls.lookup id = some call) :
    call.writes.any Write.locksControl = false := by
  have member : call ∈ store.calls.entries.map (·.2) :=
    List.mem_map.mpr ⟨⟨id, call⟩, AList.mem_lookup_iff.mp found, rfl⟩
  have locked := List.any_eq_false.mp free call member
  exact Bool.not_eq_true _ ▸ locked

theorem Sound.setControl {store : SyncStore Card} (sound : store.Sound)
    (free : store.controlLocked = false) (control : SyncControl) :
    (store.setControl control).Sound := by
  refine sound.change sound.indexed ?_ ?_
  · intro id call found
    have seen := sound.seen id call found
    rw [PriceDb.view_prices] at *
    exact seen
  · intro id call found
    refine ⟨fun row member => ⟨row, member, .inl rfl⟩, fun locked => ?_⟩
    rw [unlocked_of_lookup free found] at locked
    cases locked

theorem Sound.setInventory {store : SyncStore Card} (sound : store.Sound)
    (providerModels : List ProviderModel) :
    Sound { store with db := { store.db with providerModels := providerModels } } := by
  refine sound.change sound.indexed ?_ ?_
  · intro id call found
    have seen := sound.seen id call found
    rw [PriceDb.view_prices] at *
    exact seen
  · intro id call found
    exact ⟨fun row member => ⟨row, member, .inl rfl⟩, fun _ => rfl⟩

theorem Sound.commit {store : SyncStore Card} (sound : store.Sound) {id : Nat} {call : Call Card}
    (here : store.calls.lookup id = some call) (error : Option String) :
    Sound { store.finish id error with db := store.db.view call.writes } := by
  have committed := sound.seen id call here
  have others : ∀ other there, (store.finish id error).calls.lookup other = some there →
      there.writes = [] ∨ other ≠ id ∧ store.calls.lookup other = some there := by
    intro other there found
    by_cases same : other = id
    · subst same
      simp only [SyncStore.finish, SyncStore.enter, AList.lookup_insert, Option.some.injEq] at found
      exact .inl (by rw [← found])
    · simp only [SyncStore.finish, SyncStore.enter, AList.lookup_insert_ne same] at found
      exact .inr ⟨same, found⟩
  refine (sound.finish id error).change committed ?_ ?_
  · intro other there found
    obtain none | ⟨distinct, found⟩ := others other there found
    · rw [none]
      exact committed
    · exact (sound.apart other there found id call here distinct.symm).commit
        (sound.seen other there found) committed
  · intro other there found
    refine ⟨view_prices_kept store.db call.writes, fun locked => ?_⟩
    obtain none | ⟨distinct, found⟩ := others other there found
    · rw [none] at locked
      cases locked
    · have apart := sound.apart other there found id call here distinct.symm
      exact PriceDb.view_control store.db (apart.control locked)

theorem mem_others {store : SyncStore Card} {id other : Nat} {call : Call Card}
    (found : store.calls.lookup other = some call) (distinct : other ≠ id) :
    call ∈ store.others id := by
  refine List.mem_map.mpr ⟨⟨other, call⟩, List.mem_filter.mpr ⟨?_, ?_⟩, rfl⟩
  · exact AList.mem_lookup_iff.mp found
  · simpa using distinct

variable [DecidableEq Card]

inductive Ran (store : SyncStore Card) (id : Nat) (newId : Int) (call : Call Card) :
    SyncStore Card → Prop
  | wrote (writes : List (Write Card)) (task : Task Card)
      (next : call.task.next (store.db.view call.writes) newId = some (.write writes task))
      (free : ∀ other ∈ store.others id, writes.any (Write.waitsFor other) = false)
      (fits : writes.any (Write.violates (store.db.view call.writes)) = false) :
    Ran store id newId call (store.enter id { writes := call.writes ++ writes, task := task })
  | committed
      (next : call.task.next (store.db.view call.writes) newId = some .commit) :
    Ran store id newId call { store.finish id none with db := store.db.view call.writes }
  | prepared (job : Job Card)
      (next : call.task.next (store.db.view call.writes) newId = some (.prepared job)) :
    Ran store id newId call { store.finish id none with jobs := store.jobs ++ [job] }
  | ended (error : Option String)
      (next : call.task.next (store.db.view call.writes) newId ≠ some .commit) :
    Ran store id newId call (store.finish id error)

theorem runCall_cases {store after : SyncStore Card} {id : Nat} {newId : Int} {call : Call Card}
    (taken : store.runCall id newId call = some after) : Ran store id newId call after := by
  unfold SyncStore.runCall at taken
  dsimp only at taken
  split at taken
  · rename_i writes task next
    split at taken
    · cases taken
    · rename_i free
      have free := Bool.not_eq_true _ ▸ free
      split at taken
      · cases taken
        exact .ended _ (by rw [next]; exact fun same => by cases same)
      · rename_i fits
        cases taken
        exact .wrote writes task next
          (fun other member => Bool.not_eq_true _ ▸ List.any_eq_false.mp free other member)
          (Bool.not_eq_true _ ▸ fits)
  · rename_i next
    cases taken
    exact .committed next
  · rename_i job next
    cases taken
    exact .prepared job next
  · rename_i next
    cases taken
    exact .ended _ (by rw [next]; exact fun same => by cases same)
  · cases taken

theorem Sound.ran {store after : SyncStore Card} (sound : store.Sound) {id : Nat} {newId : Int}
    {call : Call Card} (here : store.calls.lookup id = some call)
    (ran : Ran store id newId call after) : after.Sound := by
  cases ran with
  | wrote writes task next free fits =>
    obtain ⟨oneRow, task⟩ := (sound.tasks id call here).write next
    refine sound.enter ?_ ?_ task
    · rw [PriceDb.view_append]
      exact indexed_view (sound.seen id call here) oneRow fits
    · intro other there found distinct
      exact (sound.apart id call here other there found distinct).append oneRow
        (free there (mem_others found distinct))
  | committed => exact sound.commit here none
  | prepared job =>
    have finished := sound.finish id none
    exact ⟨finished.indexed, finished.seen, finished.apart, finished.tasks⟩
  | ended error _ => exact sound.finish id error

abbrev Step (before : SyncStore Card) (action : SyncAction Card) (after : SyncStore Card) : Prop :=
  syncStep before action = some after

theorem step_sound {before after : SyncStore Card} {action : SyncAction Card}
    (sound : before.Sound) (taken : Step before action after) : after.Sound := by
  unfold Step syncStep at taken
  cases action with
  | tick nowMs =>
    dsimp only at taken
    split at taken
    · cases taken
      exact ⟨sound.indexed, sound.seen, sound.apart, sound.tasks⟩
    · cases taken
  | inventory providerModels =>
    cases taken
    exact sound.setInventory providerModels
  | lease owner jobId nowMs =>
    dsimp only at taken
    split at taken
    · rename_i free
      cases taken
      exact sound.setControl free.2 _
    · cases taken
  | renew owner nowMs =>
    dsimp only at taken
    split at taken
    · rename_i free
      cases taken
      exact sound.setControl free.2 _
    · cases taken
  | release owner =>
    dsimp only at taken
    split at taken
    · rename_i free
      cases taken
      exact sound.setControl free _
    · cases taken
  | prepare id job =>
    dsimp only at taken
    split at taken
    · cases taken
      exact sound.start id rfl
    · cases taken
  | apply id job selected owner =>
    dsimp only at taken
    split at taken
    · cases taken
      exact sound.start id ⟨rfl, fun id member => absurd member List.not_mem_nil⟩
    · cases taken
  | admin id phase =>
    dsimp only at taken
    split at taken
    · cases taken
      exact sound.start id rfl
    · cases taken
  | run id newId =>
    obtain ⟨call, here, ran⟩ := Option.bind_eq_some_iff.mp taken
    exact sound.ran here (runCall_cases ran)
  | fail id message =>
    dsimp only at taken
    split at taken
    · cases taken
    · cases taken
      exact sound.finish id _
    · cases taken

end SyncStore

end CodexGate.Pricing
