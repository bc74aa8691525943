import CodexGate.Routing.Affinity

namespace CodexGate.Routing

open Foundation

variable {book : AffinityBook} {identity : AffinityIdentity} {nowMs : Int}

structure AffinityBook.Bounded (book : AffinityBook) : Prop where
  positive : 0 < book.maxEntries
  entries : size book.entries ≤ book.maxEntries
  avoided : size book.avoided ≤ book.maxEntries

theorem ensureEntryCapacity_room (positive : 0 < book.maxEntries)
    (iteration : Iteration AffinityKey AffinityEntry) (nowMs : Int) :
    size (book.ensureEntryCapacity iteration nowMs).entries < book.maxEntries :=
  iteration.size_makeRoom _ positive _ _

theorem ensureEntryCapacity_avoided (iteration : Iteration AffinityKey AffinityEntry) (nowMs : Int) :
    size (book.ensureEntryCapacity iteration nowMs).avoided ≤ size book.avoided :=
  size_foldl_erase_le _ _

namespace AffinityBook.Bounded

theorem entries_only (bounded : book.Bounded) {entries : HashMap AffinityKey AffinityEntry}
    (less : size entries ≤ book.maxEntries) : Bounded { book with entries := entries } :=
  ⟨bounded.positive, less, bounded.avoided⟩

theorem avoided_only (bounded : book.Bounded) {avoided : HashMap AffinityKey AvoidEntry}
    (less : size avoided ≤ book.maxEntries) : Bounded { book with avoided := avoided } :=
  ⟨bounded.positive, bounded.entries, less⟩

theorem lookup (bounded : book.Bounded) (identity : AffinityIdentity) (nowMs : Int) :
    (book.lookup identity nowMs).2.Bounded := by
  unfold AffinityBook.lookup
  split
  · exact bounded
  · rename_i entry found
    split
    · exact bounded.entries_only ((size_erase_le _ _).trans bounded.entries)
    · refine bounded.entries_only ?_
      rw [size_insert (mem_of_lookup_eq_some found)]
      exact bounded.entries

theorem insertEntry (bounded : book.Bounded)
    (room : identity.routingKey ∈ book.entries ∨ size book.entries < book.maxEntries)
    (providerId : Int) (upstreamKeyId endpointId : Option Int) (confirmed : Bool) (nowMs : Int) :
    (book.insertEntry identity providerId upstreamKeyId endpointId confirmed nowMs).2.Bounded := by
  refine ⟨bounded.positive, ?_, bounded.avoided⟩
  rcases room with member | room
  · exact (size_insert member _).trans_le bounded.entries
  · exact (size_insert_le _ _ _).trans room

theorem ensureEntryCapacity (bounded : book.Bounded)
    (iteration : Iteration AffinityKey AffinityEntry) (nowMs : Int) :
    (book.ensureEntryCapacity iteration nowMs).Bounded :=
  ⟨bounded.positive, (ensureEntryCapacity_room bounded.positive iteration nowMs).le,
    (ensureEntryCapacity_avoided iteration nowMs).trans bounded.avoided⟩

theorem claimTarget (bounded : book.Bounded) (identity : AffinityIdentity) (providerId : Int)
    (upstreamKeyId endpointId : Option Int) (nowMs : Int) (order : AffinityOrder) :
    (book.claimTarget identity providerId upstreamKeyId endpointId nowMs order).2.Bounded := by
  have looked := bounded.lookup identity nowMs
  unfold AffinityBook.claimTarget
  split
  · rename_i binding after found
    rwa [found] at looked
  · rename_i after found
    rw [found] at looked
    exact (looked.ensureEntryCapacity order.entries nowMs).insertEntry
      (.inr (ensureEntryCapacity_room looked.positive order.entries nowMs)) _ _ _ _ _

theorem renew (bounded : book.Bounded) {entry : AffinityEntry}
    (found : book.entries.lookup identity.routingKey = some entry) (nowMs : Int) :
    (book.renew identity entry nowMs).Bounded := by
  refine bounded.entries_only ?_
  rw [size_insert (mem_of_lookup_eq_some found)]
  exact bounded.entries

theorem confirm (bounded : book.Bounded) (identity : AffinityIdentity) (binding : AffinityBinding)
    (nowMs : Int) : (book.confirm identity binding nowMs).2.Bounded := by
  unfold AffinityBook.confirm
  split
  · exact bounded
  · rename_i entry found
    split
    · exact bounded
    · exact (bounded.renew found nowMs).avoided_only ((size_erase_le _ _).trans bounded.avoided)

theorem migrateTarget (bounded : book.Bounded) (identity : AffinityIdentity) (providerId : Int)
    (upstreamKeyId endpointId : Option Int) (nowMs : Int) (order : AffinityOrder) :
    (book.migrateTarget identity providerId upstreamKeyId endpointId nowMs order).2.Bounded := by
  have moved : ∀ roomy : AffinityBook, roomy.Bounded →
      (identity.routingKey ∈ roomy.entries ∨ size roomy.entries < roomy.maxEntries) →
      Bounded { (roomy.insertEntry identity providerId upstreamKeyId endpointId true nowMs).2 with
        avoided := roomy.avoided.erase identity.routingKey } := by
    intro roomy still room
    exact (still.insertEntry room providerId upstreamKeyId endpointId true nowMs).avoided_only
      ((size_erase_le _ _).trans still.avoided)
  unfold AffinityBook.migrateTarget
  dsimp only
  split
  · rename_i member
    exact moved book bounded (.inl member)
  · exact moved _ (bounded.ensureEntryCapacity order.entries nowMs)
      (.inr (ensureEntryCapacity_room bounded.positive order.entries nowMs))

theorem refreshIfProvider (bounded : book.Bounded) (identity : AffinityIdentity)
    (providerId nowMs : Int) : (book.refreshIfProvider identity providerId nowMs).2.Bounded := by
  unfold AffinityBook.refreshIfProvider
  split
  · exact bounded
  · rename_i entry found
    split
    · exact bounded
    · exact bounded.renew found nowMs

theorem refreshIfTarget (bounded : book.Bounded) (identity : AffinityIdentity)
    (binding : AffinityBinding) (nowMs : Int) :
    (book.refreshIfTarget identity binding nowMs).2.Bounded := by
  unfold AffinityBook.refreshIfTarget
  split
  · exact bounded
  · rename_i entry found
    split
    · exact bounded
    · exact bounded.renew found nowMs

theorem clearIfProvider (bounded : book.Bounded) (identity : AffinityIdentity) (providerId : Int) :
    (book.clearIfProvider identity providerId).2.Bounded := by
  unfold AffinityBook.clearIfProvider
  split
  · exact bounded.entries_only ((size_erase_le _ _).trans bounded.entries)
  · exact bounded

theorem markProviderFailed (bounded : book.Bounded) (identity : AffinityIdentity)
    (providerId nowMs : Int) (avoidForMs : Nat) (order : AffinityOrder) :
    (book.markProviderFailed identity providerId nowMs avoidForMs order).Bounded := by
  have left := bounded.clearIfProvider identity providerId
  unfold AffinityBook.markProviderFailed
  dsimp only
  split
  · rename_i member
    refine left.avoided_only ?_
    rw [size_insert member]
    exact left.avoided
  · exact left.avoided_only ((size_insert_le _ _ _).trans
      (order.avoided.size_makeRoom _ left.positive _ _))

theorem isProviderAvoided (bounded : book.Bounded) (identity : AffinityIdentity)
    (providerId nowMs : Int) : (book.isProviderAvoided identity providerId nowMs).2.Bounded := by
  unfold AffinityBook.isProviderAvoided
  split
  · exact bounded
  · rename_i entry found
    split
    · exact bounded.avoided_only ((size_erase_le _ _).trans bounded.avoided)
    · refine bounded.avoided_only ?_
      rw [size_insert (mem_of_lookup_eq_some found)]
      exact bounded.avoided

theorem call (bounded : book.Bounded) (call : AffinityCall) : (book.call call).2.Bounded := by
  have fewer := fun keep => (size_retain_le keep book.entries).trans bounded.entries
  have fewerAvoided := fun keep => (size_retain_le keep book.avoided).trans bounded.avoided
  cases call with
  | lookup identity nowMs => exact bounded.lookup identity nowMs
  | claimTarget identity providerId upstreamKeyId endpointId nowMs order =>
    exact bounded.claimTarget identity providerId upstreamKeyId endpointId nowMs order
  | confirm identity binding nowMs => exact bounded.confirm identity binding nowMs
  | migrateTarget identity providerId upstreamKeyId endpointId nowMs order =>
    exact bounded.migrateTarget identity providerId upstreamKeyId endpointId nowMs order
  | refreshIfProvider identity providerId nowMs =>
    exact bounded.refreshIfProvider identity providerId nowMs
  | refreshIfTarget identity binding nowMs => exact bounded.refreshIfTarget identity binding nowMs
  | clearIfProvider identity providerId => exact bounded.clearIfProvider identity providerId
  | markProviderFailed identity providerId nowMs avoidForMs order =>
    exact bounded.markProviderFailed identity providerId nowMs avoidForMs order
  | isProviderAvoided identity providerId nowMs =>
    exact bounded.isProviderAvoided identity providerId nowMs
  | purgeProvider providerId => exact ⟨bounded.positive, fewer _, fewerAvoided _⟩
  | purgeUpstreamKey upstreamKeyId => exact bounded.entries_only (fewer _)
  | purgeEndpoint endpointId => exact bounded.entries_only (fewer _)
  | bindingCounts nowMs => exact ⟨bounded.positive, fewer _, fewerAvoided _⟩
  | clear => exact ⟨bounded.positive, Nat.zero_le _, Nat.zero_le _⟩

end AffinityBook.Bounded

section Insertions

def InsertsEntry (book after : AffinityBook) (identity : AffinityIdentity) (nowMs : Int) : Prop :=
  Inserts AffinityEntry.lastSeenMs (AffinityBook.expired nowMs) book.maxEntries identity.routingKey
    book.entries after.entries

def InsertsAvoided (book after : AffinityBook) (identity : AffinityIdentity) (nowMs : Int) : Prop :=
  Inserts AvoidEntry.lastSeenMs (AffinityBook.lapsed nowMs) book.maxEntries identity.routingKey
    book.avoided after.avoided

theorem lookup_hit {binding : AffinityBinding} {after : AffinityBook}
    (hit : book.lookup identity nowMs = (some binding, after)) :
    ∃ row, after = { book with entries := book.entries.insert identity.routingKey row } := by
  unfold AffinityBook.lookup at hit
  split at hit
  · cases hit
  · split at hit
    · cases hit
    · cases hit
      exact ⟨_, rfl⟩

theorem lookup_miss {after : AffinityBook} (miss : book.lookup identity nowMs = (none, after)) :
    after = { book with entries := book.entries.erase identity.routingKey } ∧
      ∀ entry, book.entries.lookup identity.routingKey = some entry →
        AffinityBook.expired nowMs entry = true := by
  unfold AffinityBook.lookup at miss
  split at miss
  · rename_i absent
    cases miss
    constructor
    · have same : book.entries.erase identity.routingKey = book.entries := by
        ext1
        exact List.kerase_of_notMem_keys (AList.lookup_eq_none.mp absent)
      rw [same]
    · intro entry found
      rw [absent] at found
      cases found
  · rename_i entry found
    split at miss
    · rename_i past
      cases miss
      refine ⟨rfl, fun other there => ?_⟩
      rw [found] at there
      cases there
      exact decide_eq_true past
    · cases miss

theorem claimTarget_inserts (book : AffinityBook) (identity : AffinityIdentity) (providerId : Int)
    (upstreamKeyId endpointId : Option Int) (nowMs : Int) (order : AffinityOrder) :
    InsertsEntry book
      (book.claimTarget identity providerId upstreamKeyId endpointId nowMs order).2 identity nowMs := by
  unfold InsertsEntry AffinityBook.claimTarget
  split
  · rename_i binding after hit
    obtain ⟨row, rfl⟩ := lookup_hit hit
    exact .replace row fun _ _ member => member
  · rename_i after miss
    obtain ⟨rfl, -⟩ := lookup_miss miss
    have made := order.entries.makeRoom_made AffinityEntry.lastSeenMs (AffinityBook.expired nowMs)
      book.maxEntries (book.entries.erase identity.routingKey)
    refine made.inserts _ (fun other apart => AList.lookup_erase_ne apart) fun other held there => ?_
    by_cases same : other = identity.routingKey
    · rw [same, AList.lookup_erase] at there
      cases there
    · rwa [AList.lookup_erase_ne same] at there

theorem migrateTarget_inserts (book : AffinityBook) (identity : AffinityIdentity) (providerId : Int)
    (upstreamKeyId endpointId : Option Int) (nowMs : Int) (order : AffinityOrder) :
    InsertsEntry book
      (book.migrateTarget identity providerId upstreamKeyId endpointId nowMs order).2 identity
      nowMs := by
  unfold InsertsEntry AffinityBook.migrateTarget
  dsimp only
  split
  · exact .replace _ fun _ _ member => member
  · have made := order.entries.makeRoom_made AffinityEntry.lastSeenMs (AffinityBook.expired nowMs)
      book.maxEntries book.entries
    exact made.inserts _ (fun _ _ => rfl) fun _ _ found => found

theorem clearIfProvider_avoided (book : AffinityBook) (identity : AffinityIdentity)
    (providerId : Int) : (book.clearIfProvider identity providerId).2.avoided = book.avoided ∧
      (book.clearIfProvider identity providerId).2.maxEntries = book.maxEntries := by
  unfold AffinityBook.clearIfProvider
  split <;> exact ⟨rfl, rfl⟩

theorem markProviderFailed_inserts (book : AffinityBook) (identity : AffinityIdentity)
    (providerId nowMs : Int) (avoidForMs : Nat) (order : AffinityOrder) :
    InsertsAvoided book (book.markProviderFailed identity providerId nowMs avoidForMs order) identity
      nowMs := by
  obtain ⟨same, limit⟩ := clearIfProvider_avoided book identity providerId
  unfold InsertsAvoided AffinityBook.markProviderFailed
  dsimp only
  split
  · refine .replace _ fun _ _ member => ?_
    rw [same]
    exact member
  · have made := order.avoided.makeRoom_made AvoidEntry.lastSeenMs (AffinityBook.lapsed nowMs)
      book.maxEntries book.avoided
    unfold AffinityBook.ensureAvoidCapacity
    rw [same, limit]
    exact made.inserts _ (fun _ _ => rfl) fun _ _ found => found

def EvictsNothing (book after : AffinityBook) : Prop :=
  ∀ key, key ∈ after.entries ↔ key ∈ book.entries

theorem refresh_evictsNothing (book : AffinityBook) (identity : AffinityIdentity) (nowMs : Int) :
    ((book.lookup identity nowMs).1.isSome = true →
      EvictsNothing book (book.lookup identity nowMs).2) ∧
      (∀ binding, EvictsNothing book (book.confirm identity binding nowMs).2) ∧
      (∀ providerId, EvictsNothing book (book.refreshIfProvider identity providerId nowMs).2) ∧
      ∀ binding, EvictsNothing book (book.refreshIfTarget identity binding nowMs).2 := by
  have inserted : ∀ {entry} row, book.entries.lookup identity.routingKey = some entry →
      ∀ key, key ∈ book.entries.insert identity.routingKey row ↔ key ∈ book.entries := by
    intro entry row found key
    rw [AList.mem_insert]
    constructor
    · rintro (same | member)
      · rw [same]
        exact mem_of_lookup_eq_some found
      · exact member
    · exact .inr
  refine ⟨?_, ?_, ?_, ?_⟩
  · intro hit key
    unfold AffinityBook.lookup at hit ⊢
    split at hit
    · cases hit
    · rename_i entry found
      split at hit
      · cases hit
      · rename_i live
        simp only [if_neg live]
        exact inserted _ found key
  · intro binding key
    unfold AffinityBook.confirm
    split
    · rfl
    · rename_i entry found
      split
      · rfl
      · exact inserted _ found key
  · intro providerId key
    unfold AffinityBook.refreshIfProvider
    split
    · rfl
    · rename_i entry found
      split
      · rfl
      · exact inserted _ found key
  · intro binding key
    unfold AffinityBook.refreshIfTarget
    split
    · rfl
    · rename_i entry found
      split
      · rfl
      · exact inserted _ found key

end Insertions

section Run

def AffinityBook.step (book : AffinityBook) (call : AffinityCall) (next : AffinityBook) : Prop :=
  next = (book.call call).2

theorem lookup_maxEntries (book : AffinityBook) (identity : AffinityIdentity) (nowMs : Int) :
    (book.lookup identity nowMs).2.maxEntries = book.maxEntries := by
  unfold AffinityBook.lookup
  split
  · rfl
  · split <;> rfl

theorem call_maxEntries (book : AffinityBook) (call : AffinityCall) :
    (book.call call).2.maxEntries = book.maxEntries := by
  cases call with
  | lookup identity nowMs => exact lookup_maxEntries book identity nowMs
  | claimTarget identity providerId upstreamKeyId endpointId nowMs order =>
    have looked := lookup_maxEntries book identity nowMs
    show (book.claimTarget identity providerId upstreamKeyId endpointId nowMs order).2.maxEntries = _
    unfold AffinityBook.claimTarget
    split
    · rename_i found
      rwa [found] at looked
    · rename_i found
      rwa [found] at looked
  | confirm identity binding nowMs =>
    show (book.confirm identity binding nowMs).2.maxEntries = _
    unfold AffinityBook.confirm
    split
    · rfl
    · split <;> rfl
  | migrateTarget identity providerId upstreamKeyId endpointId nowMs order =>
    show (book.migrateTarget identity providerId upstreamKeyId endpointId nowMs order).2.maxEntries = _
    unfold AffinityBook.migrateTarget
    dsimp only
    split <;> rfl
  | refreshIfProvider identity providerId nowMs =>
    show (book.refreshIfProvider identity providerId nowMs).2.maxEntries = _
    unfold AffinityBook.refreshIfProvider
    split
    · rfl
    · split <;> rfl
  | refreshIfTarget identity binding nowMs =>
    show (book.refreshIfTarget identity binding nowMs).2.maxEntries = _
    unfold AffinityBook.refreshIfTarget
    split
    · rfl
    · split <;> rfl
  | clearIfProvider identity providerId => exact (clearIfProvider_avoided book identity providerId).2
  | markProviderFailed identity providerId nowMs avoidForMs order =>
    show (book.markProviderFailed identity providerId nowMs avoidForMs order).maxEntries = _
    have left := (clearIfProvider_avoided book identity providerId).2
    unfold AffinityBook.markProviderFailed
    dsimp only
    split
    · exact left
    · exact left
  | isProviderAvoided identity providerId nowMs =>
    show (book.isProviderAvoided identity providerId nowMs).2.maxEntries = _
    unfold AffinityBook.isProviderAvoided
    split
    · rfl
    · split <;> rfl
  | purgeProvider | purgeUpstreamKey | purgeEndpoint | bindingCounts | clear => rfl

variable {ttlMs : Int} {limit : Nat} {history : List (Transition AffinityBook AffinityCall)}

theorem run_bounds (run : Execution AffinityBook.step (.new ttlMs limit) history book) :
    book.Bounded ∧ book.maxEntries = max limit 1 := by
  induction run with
  | start =>
    exact ⟨⟨Nat.lt_of_lt_of_le Nat.one_pos (le_max_right _ _), Nat.zero_le _, Nat.zero_le _⟩, rfl⟩
  | next run taken ih =>
    rw [taken]
    exact ⟨ih.1.call _, (call_maxEntries _ _).trans ih.2⟩

/-- In every state that calls lead to the two tables are bounded, and the next call evicts only what
it has to. -/
theorem run_evicts (run : Execution AffinityBook.step (.new ttlMs limit) history book) :
    size book.entries ≤ max limit 1 ∧ size book.avoided ≤ max limit 1 ∧
      ∀ identity nowMs,
        (∀ providerId upstreamKeyId endpointId order,
          InsertsEntry book
            (book.claimTarget identity providerId upstreamKeyId endpointId nowMs order).2 identity
            nowMs) ∧
        (∀ providerId upstreamKeyId endpointId order,
          InsertsEntry book
            (book.migrateTarget identity providerId upstreamKeyId endpointId nowMs order).2 identity
            nowMs) ∧
        (∀ providerId avoidForMs order,
          InsertsAvoided book (book.markProviderFailed identity providerId nowMs avoidForMs order)
            identity nowMs) ∧
        ((book.lookup identity nowMs).1.isSome = true →
          EvictsNothing book (book.lookup identity nowMs).2) ∧
        (∀ binding, EvictsNothing book (book.confirm identity binding nowMs).2) ∧
        (∀ providerId, EvictsNothing book (book.refreshIfProvider identity providerId nowMs).2) ∧
        ∀ binding, EvictsNothing book (book.refreshIfTarget identity binding nowMs).2 := by
  obtain ⟨bounded, limited⟩ := run_bounds run
  refine ⟨limited ▸ bounded.entries, limited ▸ bounded.avoided, fun identity nowMs => ?_⟩
  refine ⟨?_, ?_, ?_, refresh_evictsNothing book identity nowMs⟩
  · exact fun providerId upstreamKeyId endpointId order =>
      claimTarget_inserts book identity providerId upstreamKeyId endpointId nowMs order
  · exact fun providerId upstreamKeyId endpointId order =>
      migrateTarget_inserts book identity providerId upstreamKeyId endpointId nowMs order
  · exact fun providerId avoidForMs order =>
      markProviderFailed_inserts book identity providerId nowMs avoidForMs order

/-- A book for one session at a time. -/
theorem run_evicts_one : ∃ history book,
    Execution AffinityBook.step (.new 60000 1) history book ∧ size book.entries ≤ 1 ∧
      InsertsEntry book (book.claimTarget ⟨[2]⟩ 7 none none 5 ⟨.plain, .plain⟩).2 ⟨[2]⟩ 5 := by
  have taken : AffinityBook.step (.new 60000 1)
      (.claimTarget ⟨[1]⟩ 3 none none 0 ⟨.plain, .plain⟩) _ := rfl
  have run := Execution.start.next taken
  obtain ⟨small, -, evicts⟩ := run_evicts run
  exact ⟨_, _, run, small, (evicts ⟨[2]⟩ 5).1 7 none none ⟨.plain, .plain⟩⟩

end Run

end CodexGate.Routing
