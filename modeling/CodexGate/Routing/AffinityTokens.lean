import CodexGate.Routing.AffinityBounds

namespace CodexGate.Routing

open Foundation

section Calls

variable {book : AffinityBook}

def AffinityBook.creates (book : AffinityBook) : AffinityCall → Option AffinityKey
  | .claimTarget identity _ _ _ nowMs _ =>
    if (book.lookup identity nowMs).1.isSome then none else some identity.routingKey
  | .migrateTarget identity _ _ _ _ _ => some identity.routingKey
  | _ => none

def AffinityCall.asks : AffinityCall → Option AffinityKey
  | .lookup identity _ => some identity.routingKey
  | .claimTarget identity _ _ _ _ _ => some identity.routingKey
  | .migrateTarget identity _ _ _ _ _ => some identity.routingKey
  | _ => none

def SameGenerations (before after : HashMap AffinityKey AffinityEntry) : Prop :=
  ∀ key entry, after.lookup key = some entry →
    ∃ held, before.lookup key = some held ∧ held.generation = entry.generation

theorem sameGenerations_refl (table : HashMap AffinityKey AffinityEntry) :
    SameGenerations table table :=
  fun _ entry found => ⟨entry, found, rfl⟩

theorem SameGenerations.mem {before after : HashMap AffinityKey AffinityEntry}
    (same : SameGenerations before after) {key : AffinityKey} (member : key ∈ after) :
    key ∈ before := by
  obtain ⟨entry, found⟩ := Option.isSome_iff_exists.mp (AList.lookup_isSome.mpr member)
  obtain ⟨held, before, -⟩ := same key entry found
  exact mem_of_lookup_eq_some before

theorem sameGenerations_left {before after : HashMap AffinityKey AffinityEntry}
    (left : ∀ key entry, after.lookup key = some entry → before.lookup key = some entry) :
    SameGenerations before after :=
  fun key entry found => ⟨entry, left key entry found, rfl⟩

theorem sameGenerations_erase (table : HashMap AffinityKey AffinityEntry) (key : AffinityKey) :
    SameGenerations table (table.erase key) := by
  refine sameGenerations_left fun other entry found => ?_
  by_cases same : other = key
  · rw [same, AList.lookup_erase] at found
    cases found
  · rwa [AList.lookup_erase_ne same] at found

theorem sameGenerations_retain (keep : AffinityKey → AffinityEntry → Bool)
    (table : HashMap AffinityKey AffinityEntry) : SameGenerations table (retain keep table) := by
  refine sameGenerations_left fun key entry found => ?_
  rw [lookup_retain, Option.filter_eq_some_iff] at found
  exact found.1

theorem sameGenerations_insert {table : HashMap AffinityKey AffinityEntry} {key : AffinityKey}
    {held entry : AffinityEntry} (found : table.lookup key = some held)
    (same : held.generation = entry.generation) : SameGenerations table (table.insert key entry) := by
  intro other row there
  by_cases here : other = key
  · subst here
    rw [AList.lookup_insert] at there
    cases there
    exact ⟨held, found, same⟩
  · rw [AList.lookup_insert_ne here] at there
    exact ⟨row, there, rfl⟩

theorem lookup_sameGenerations (book : AffinityBook) (identity : AffinityIdentity) (nowMs : Int) :
    SameGenerations book.entries (book.lookup identity nowMs).2.entries := by
  unfold AffinityBook.lookup
  split
  · exact sameGenerations_refl _
  · rename_i entry found
    split
    · exact sameGenerations_erase _ _
    · exact sameGenerations_insert found rfl

theorem renew_sameGenerations {identity : AffinityIdentity} {entry : AffinityEntry}
    (found : book.entries.lookup identity.routingKey = some entry) (nowMs : Int) :
    SameGenerations book.entries (book.renew identity entry nowMs).entries :=
  sameGenerations_insert found rfl

theorem clearIfProvider_sameGenerations (book : AffinityBook) (identity : AffinityIdentity)
    (providerId : Int) :
    SameGenerations book.entries (book.clearIfProvider identity providerId).2.entries ∧
      (book.clearIfProvider identity providerId).2.nextGeneration = book.nextGeneration := by
  unfold AffinityBook.clearIfProvider
  split
  · exact ⟨sameGenerations_erase _ _, rfl⟩
  · exact ⟨sameGenerations_refl _, rfl⟩

/-- A call creates an entry in what the calls before it left, maybe less than that. -/
structure Created (book : AffinityBook) (key : AffinityKey) (binding : AffinityBinding)
    (after : AffinityBook) (middle : HashMap AffinityKey AffinityEntry) (row : AffinityEntry) :
    Prop where
  rest : SameGenerations book.entries middle
  entries : after.entries = middle.insert key row
  generation : row.generation = AffinityBook.nextGenerationOf book.nextGeneration
  next : after.nextGeneration = AffinityBook.nextGenerationOf book.nextGeneration
  returned : row.toAffinityBinding = binding

theorem ensureEntryCapacity_sameGenerations (book : AffinityBook)
    (iteration : Iteration AffinityKey AffinityEntry) (nowMs : Int) :
    SameGenerations book.entries (book.ensureEntryCapacity iteration nowMs).entries :=
  sameGenerations_left (iteration.makeRoom_made AffinityEntry.lastSeenMs
    (AffinityBook.expired nowMs) book.maxEntries book.entries).left

theorem claimTarget_created {identity : AffinityIdentity} {nowMs : Int}
    (miss : (book.lookup identity nowMs).1 = none) (providerId : Int)
    (upstreamKeyId endpointId : Option Int) (order : AffinityOrder) :
    ∃ middle row, Created book identity.routingKey
      (book.claimTarget identity providerId upstreamKeyId endpointId nowMs order).1
      (book.claimTarget identity providerId upstreamKeyId endpointId nowMs order).2 middle row := by
  unfold AffinityBook.claimTarget
  split
  · rename_i binding after hit
    rw [hit] at miss
    cases miss
  · rename_i after missed
    obtain ⟨rfl, -⟩ := lookup_miss missed
    refine ⟨_, _, ?_, rfl, rfl, rfl, rfl⟩
    intro key entry found
    obtain ⟨held, there, same⟩ := ensureEntryCapacity_sameGenerations
      { book with entries := book.entries.erase identity.routingKey } order.entries nowMs key entry
      found
    obtain ⟨first, before, equal⟩ :=
      sameGenerations_erase book.entries identity.routingKey key held there
    exact ⟨first, before, equal.trans same⟩

theorem migrateTarget_created (book : AffinityBook) (identity : AffinityIdentity) (providerId : Int)
    (upstreamKeyId endpointId : Option Int) (nowMs : Int) (order : AffinityOrder) :
    ∃ middle row, Created book identity.routingKey
      (book.migrateTarget identity providerId upstreamKeyId endpointId nowMs order).1
      (book.migrateTarget identity providerId upstreamKeyId endpointId nowMs order).2 middle
      row := by
  unfold AffinityBook.migrateTarget
  dsimp only
  split
  · exact ⟨_, _, sameGenerations_refl _, rfl, rfl, rfl, rfl⟩
  · exact ⟨_, _, ensureEntryCapacity_sameGenerations book order.entries nowMs, rfl, rfl, rfl, rfl⟩

theorem claimTarget_creates (book : AffinityBook) (identity : AffinityIdentity) (providerId : Int)
    (upstreamKeyId endpointId : Option Int) (nowMs : Int) (order : AffinityOrder) :
    book.creates (.claimTarget identity providerId upstreamKeyId endpointId nowMs order) =
      if (book.lookup identity nowMs).1.isSome then none else some identity.routingKey := rfl

theorem call_created {call : AffinityCall} {key : AffinityKey}
    (creates : book.creates call = some key) :
    ∃ binding middle row, (book.call call).1 = some binding ∧
      Created book key binding (book.call call).2 middle row := by
  cases call with
  | claimTarget identity providerId upstreamKeyId endpointId nowMs order =>
    rw [claimTarget_creates] at creates
    split at creates
    · cases creates
    · rename_i missing
      cases creates
      have miss := Option.not_isSome_iff_eq_none.mp missing
      obtain ⟨middle, row, created⟩ :=
        claimTarget_created miss providerId upstreamKeyId endpointId order
      exact ⟨_, middle, row, rfl, created⟩
  | migrateTarget identity providerId upstreamKeyId endpointId nowMs order =>
    cases creates
    obtain ⟨middle, row, created⟩ :=
      migrateTarget_created book identity providerId upstreamKeyId endpointId nowMs order
    exact ⟨_, middle, row, rfl, created⟩
  | _ => cases creates

structure KeepsGenerations (book after : AffinityBook) : Prop where
  entries : SameGenerations book.entries after.entries
  next : after.nextGeneration = book.nextGeneration

theorem lookup_keeps (book : AffinityBook) (identity : AffinityIdentity) (nowMs : Int) :
    KeepsGenerations book (book.lookup identity nowMs).2 := by
  refine ⟨lookup_sameGenerations book identity nowMs, ?_⟩
  unfold AffinityBook.lookup
  split
  · rfl
  · split <;> rfl

theorem confirm_keeps (book : AffinityBook) (identity : AffinityIdentity)
    (binding : AffinityBinding) (nowMs : Int) :
    KeepsGenerations book (book.confirm identity binding nowMs).2 := by
  unfold AffinityBook.confirm
  split
  · exact ⟨sameGenerations_refl _, rfl⟩
  · rename_i entry found
    split
    · exact ⟨sameGenerations_refl _, rfl⟩
    · exact ⟨renew_sameGenerations found nowMs, rfl⟩

theorem refreshIfProvider_keeps (book : AffinityBook) (identity : AffinityIdentity)
    (providerId nowMs : Int) :
    KeepsGenerations book (book.refreshIfProvider identity providerId nowMs).2 := by
  unfold AffinityBook.refreshIfProvider
  split
  · exact ⟨sameGenerations_refl _, rfl⟩
  · rename_i entry found
    split
    · exact ⟨sameGenerations_refl _, rfl⟩
    · exact ⟨renew_sameGenerations found nowMs, rfl⟩

theorem refreshIfTarget_keeps (book : AffinityBook) (identity : AffinityIdentity)
    (binding : AffinityBinding) (nowMs : Int) :
    KeepsGenerations book (book.refreshIfTarget identity binding nowMs).2 := by
  unfold AffinityBook.refreshIfTarget
  split
  · exact ⟨sameGenerations_refl _, rfl⟩
  · rename_i entry found
    split
    · exact ⟨sameGenerations_refl _, rfl⟩
    · exact ⟨renew_sameGenerations found nowMs, rfl⟩

theorem markProviderFailed_keeps (book : AffinityBook) (identity : AffinityIdentity)
    (providerId nowMs : Int) (avoidForMs : Nat) (order : AffinityOrder) :
    KeepsGenerations book
      (book.markProviderFailed identity providerId nowMs avoidForMs order) := by
  obtain ⟨entries, next⟩ := clearIfProvider_sameGenerations book identity providerId
  unfold AffinityBook.markProviderFailed
  dsimp only
  split
  · exact ⟨entries, next⟩
  · exact ⟨entries, next⟩

theorem isProviderAvoided_keeps (book : AffinityBook) (identity : AffinityIdentity)
    (providerId nowMs : Int) :
    KeepsGenerations book (book.isProviderAvoided identity providerId nowMs).2 := by
  unfold AffinityBook.isProviderAvoided
  split
  · exact ⟨sameGenerations_refl _, rfl⟩
  · split
    · exact ⟨sameGenerations_refl _, rfl⟩
    · exact ⟨sameGenerations_refl _, rfl⟩

theorem call_keeps {call : AffinityCall} (creates : book.creates call = none)
    (other : call ≠ .clear) : KeepsGenerations book (book.call call).2 := by
  cases call with
  | lookup identity nowMs => exact lookup_keeps book identity nowMs
  | claimTarget identity providerId upstreamKeyId endpointId nowMs order =>
    have looked := lookup_keeps book identity nowMs
    show KeepsGenerations book
      (book.claimTarget identity providerId upstreamKeyId endpointId nowMs order).2
    unfold AffinityBook.claimTarget
    split
    · rename_i hit
      rwa [hit] at looked
    · rename_i miss
      rw [claimTarget_creates, miss] at creates
      cases creates
  | confirm identity binding nowMs => exact confirm_keeps book identity binding nowMs
  | migrateTarget => cases creates
  | refreshIfProvider identity providerId nowMs =>
    exact refreshIfProvider_keeps book identity providerId nowMs
  | refreshIfTarget identity binding nowMs => exact refreshIfTarget_keeps book identity binding nowMs
  | clearIfProvider identity providerId =>
    obtain ⟨entries, next⟩ := clearIfProvider_sameGenerations book identity providerId
    exact ⟨entries, next⟩
  | markProviderFailed identity providerId nowMs avoidForMs order =>
    exact markProviderFailed_keeps book identity providerId nowMs avoidForMs order
  | isProviderAvoided identity providerId nowMs =>
    exact isProviderAvoided_keeps book identity providerId nowMs
  | purgeProvider | purgeUpstreamKey | purgeEndpoint | bindingCounts =>
    exact ⟨sameGenerations_retain _ _, rfl⟩
  | clear => exact absurd rfl other

theorem call_returned {call : AffinityCall} {binding : AffinityBinding}
    (returned : (book.call call).1 = some binding) :
    ∃ key entry, call.asks = some key ∧ (book.call call).2.entries.lookup key = some entry ∧
      entry.toAffinityBinding = binding := by
  have looked : ∀ {identity : AffinityIdentity} {nowMs : Int} {after : AffinityBook},
      book.lookup identity nowMs = (some binding, after) →
      ∃ entry, after.entries.lookup identity.routingKey = some entry ∧
        entry.toAffinityBinding = binding := by
    intro identity nowMs after hit
    unfold AffinityBook.lookup at hit
    split at hit
    · cases hit
    · split at hit
      · cases hit
      · cases hit
        exact ⟨_, AList.lookup_insert _, rfl⟩
  have created : ∀ {key : AffinityKey}, book.creates call = some key →
      ∃ entry, (book.call call).2.entries.lookup key = some entry ∧
        entry.toAffinityBinding = binding := by
    intro key creates
    obtain ⟨other, middle, row, same, made⟩ := call_created creates
    rw [returned] at same
    cases same
    exact ⟨row, by rw [made.entries, AList.lookup_insert], made.returned⟩
  cases call with
  | lookup identity nowMs =>
    obtain ⟨entry, found, same⟩ := looked (Prod.ext returned rfl)
    exact ⟨_, entry, rfl, found, same⟩
  | claimTarget identity providerId upstreamKeyId endpointId nowMs order =>
    rcases hit : book.lookup identity nowMs with ⟨none | other, after⟩
    · have creates : book.creates
          (.claimTarget identity providerId upstreamKeyId endpointId nowMs order) =
          some identity.routingKey := by
        rw [claimTarget_creates, hit]
        rfl
      obtain ⟨entry, found, same⟩ := created creates
      exact ⟨_, entry, rfl, found, same⟩
    · have result : book.claimTarget identity providerId upstreamKeyId endpointId nowMs order =
          (other, after) := by
        unfold AffinityBook.claimTarget
        rw [hit]
      unfold AffinityBook.call at returned ⊢
      simp only [result] at returned ⊢
      cases returned
      obtain ⟨entry, found, same⟩ := looked hit
      exact ⟨_, entry, rfl, found, same⟩
  | migrateTarget identity providerId upstreamKeyId endpointId nowMs order =>
    obtain ⟨entry, found, same⟩ := @created identity.routingKey rfl
    exact ⟨_, entry, rfl, found, same⟩
  | _ => cases returned

end Calls

section Generations

def generations : Nat := 2 ^ 64 - 1

def generationOf : Nat → Nat
  | 0 => 0
  | count + 1 => count % generations + 1

theorem nextGenerationOf_generationOf (count : Nat) :
    AffinityBook.nextGenerationOf (generationOf count) = generationOf (count + 1) := by
  unfold AffinityBook.nextGenerationOf
  cases count with
  | zero => rfl
  | succ count =>
    show max ((count % generations + 1 + 1) % 2 ^ 64) 1 = (count + 1) % generations + 1
    have below : count % generations < generations := Nat.mod_lt _ (by decide)
    rw [← Nat.mod_add_mod count generations 1]
    generalize count % generations = last at below
    unfold generations at below ⊢
    by_cases full : last + 1 = 2 ^ 64 - 1
    · rw [full]
      decide
    · have room : last + 1 + 1 < 2 ^ 64 := by omega
      rw [Nat.mod_eq_of_lt room, Nat.mod_eq_of_lt (Nat.lt_sub_of_add_lt room)]
      exact max_eq_left (Nat.succ_pos _)

theorem generationOf_injective {first second : Nat} (positive : 0 < first) (positive' : 0 < second)
    (near : first < second + generations) (near' : second < first + generations)
    (same : generationOf first = generationOf second) : first = second := by
  obtain ⟨first, rfl⟩ := Nat.exists_eq_succ_of_ne_zero positive.ne'
  obtain ⟨second, rfl⟩ := Nat.exists_eq_succ_of_ne_zero positive'.ne'
  have equal : first % generations = second % generations := Nat.succ.inj same
  unfold generations at near near' equal
  omega

end Generations

section Tokens

/-- A binding in the hands of a request: which entry it was returned for, by the number of entries
that had been created when that one was, and how often the book had been cleared by then. -/
structure Token where
  key : AffinityKey
  birth : Nat
  clears : Nat
  binding : AffinityBinding

/-- The book, and the history that tells its entries apart. -/
structure Traced where
  book : AffinityBook
  created : Nat
  /-- The number of the entry that was last created under each key. -/
  births : AffinityKey → Nat
  clears : Nat
  /-- How many entries had been created when the book was last cleared. -/
  cleared : Nat
  tokens : List Token

namespace Traced

def new (ttlMs : Int) (maxEntries : Nat) : Traced where
  book := .new ttlMs maxEntries
  created := 0
  births _ := 0
  clears := 0
  cleared := 0
  tokens := []

def record (traced : Traced) (call : AffinityCall) : Traced :=
  match traced.book.creates call with
  | some key => { traced with
      created := traced.created + 1
      births := Function.update traced.births key (traced.created + 1) }
  | none =>
    match call with
    | .clear => { traced with clears := traced.clears + 1, cleared := traced.created }
    | _ => traced

def grant (traced : Traced) (key : Option AffinityKey) (returned : Option AffinityBinding) :
    Option Token :=
  match key, returned with
  | some key, some binding => some ⟨key, traced.births key, traced.clears, binding⟩
  | _, _ => none

def granted (traced : Traced) (call : AffinityCall) : Option Token :=
  (traced.record call).grant call.asks (traced.book.call call).1

def call (traced : Traced) (call : AffinityCall) : Traced :=
  { traced.record call with
    book := (traced.book.call call).2
    tokens := (traced.granted call).toList ++ traced.tokens }

def step (traced : Traced) (call : AffinityCall) (next : Traced) : Prop := next = traced.call call

end Traced

/-- The entries that are stored, and the bindings that were returned, carry the generation of their
entry's number since the last clear. -/
structure Tracked (traced : Traced) : Prop where
  clock : traced.cleared ≤ traced.created ∧
    traced.book.nextGeneration = generationOf (traced.created - traced.cleared)
  stored : ∀ key entry, traced.book.entries.lookup key = some entry →
    traced.cleared < traced.births key ∧ traced.births key ≤ traced.created ∧
      entry.generation = generationOf (traced.births key - traced.cleared)
  apart : ∀ key ∈ traced.book.entries, ∀ other ∈ traced.book.entries,
    traced.births key = traced.births other → key = other
  issued : ∀ token ∈ traced.tokens, token.birth ≤ traced.created ∧
    (token.clears = traced.clears → traced.cleared < token.birth ∧
      token.binding.generation = generationOf (token.birth - traced.cleared)) ∧
    (token.clears ≠ traced.clears → token.clears < traced.clears ∧ token.birth ≤ traced.cleared)
  owned : ∀ token ∈ traced.tokens, ∀ key ∈ traced.book.entries,
    traced.births key = token.birth → key = token.key

namespace Tracked

variable {traced : Traced} {after : AffinityBook}

theorem new (ttlMs : Int) (maxEntries : Nat) : Tracked (.new ttlMs maxEntries) where
  clock := ⟨le_refl _, rfl⟩
  stored _ _ found := by cases found
  apart _ member := absurd member (AList.notMem_empty _)
  issued _ member := absurd member List.not_mem_nil
  owned _ member := absurd member List.not_mem_nil

theorem keep (tracked : Tracked traced) (keeps : KeepsGenerations traced.book after) :
    Tracked { traced with book := after } where
  clock := ⟨tracked.clock.1, keeps.next.trans tracked.clock.2⟩
  stored key entry found := by
    obtain ⟨held, before, same⟩ := keeps.entries key entry found
    obtain ⟨low, high, generation⟩ := tracked.stored key held before
    exact ⟨low, high, same.symm.trans generation⟩
  apart key member other member' :=
    tracked.apart key (keeps.entries.mem member) other (keeps.entries.mem member')
  issued := tracked.issued
  owned token member key stored := tracked.owned token member key (keeps.entries.mem stored)

theorem clear (tracked : Tracked traced) : Tracked { traced with
    clears := traced.clears + 1, cleared := traced.created, book := traced.book.clear } where
  clock := ⟨le_refl _, by
    show 0 = generationOf (traced.created - traced.created)
    rw [Nat.sub_self]
    rfl⟩
  stored _ _ found := by cases found
  apart _ member := absurd member (AList.notMem_empty _)
  issued token member := by
    obtain ⟨born, current, older⟩ := tracked.issued token member
    have before : token.clears ≤ traced.clears := by
      by_cases same : token.clears = traced.clears
      · exact same.le
      · exact (older same).1.le
    refine ⟨born, fun same => ?_, fun _ => ⟨Nat.lt_succ_of_le before, born⟩⟩
    exact absurd (same.symm.trans_le before) (Nat.not_succ_le_self _)
  owned _ _ _ stored := absurd stored (AList.notMem_empty _)

theorem create (tracked : Tracked traced) {key : AffinityKey} {binding : AffinityBinding}
    {middle : HashMap AffinityKey AffinityEntry} {row : AffinityEntry}
    (made : Created traced.book key binding after middle row) : Tracked { traced with
      created := traced.created + 1
      births := Function.update traced.births key (traced.created + 1)
      book := after } := by
  obtain ⟨clock, next⟩ := tracked.clock
  have later : traced.created + 1 - traced.cleared = traced.created - traced.cleared + 1 :=
    Nat.succ_sub clock
  have generation : AffinityBook.nextGenerationOf traced.book.nextGeneration =
      generationOf (traced.created + 1 - traced.cleared) := by
    rw [next, nextGenerationOf_generationOf, later]
  have held : ∀ {other : AffinityKey}, other ≠ key → other ∈ after.entries →
      other ∈ traced.book.entries := by
    intro other away member
    rw [made.entries, AList.mem_insert] at member
    rcases member with same | member
    · exact absurd same away
    · exact made.rest.mem member
  have below : ∀ {other : AffinityKey}, other ∈ traced.book.entries →
      traced.births other ≤ traced.created := by
    intro other member
    obtain ⟨entry, found⟩ := Option.isSome_iff_exists.mp (AList.lookup_isSome.mpr member)
    exact (tracked.stored other entry found).2.1
  have fresh : ∀ {other : AffinityKey}, other ≠ key → other ∈ after.entries →
      Function.update traced.births key (traced.created + 1) other = traced.births other ∧
        traced.births other ≠ traced.created + 1 := by
    intro other away member
    exact ⟨Function.update_of_ne away _ _, (Nat.lt_succ_of_le (below (held away member))).ne⟩
  constructor
  · exact ⟨clock.trans (Nat.le_succ _), made.next.trans generation⟩
  · intro other entry found
    by_cases same : other = key
    · subst same
      rw [made.entries, AList.lookup_insert] at found
      cases found
      dsimp only
      rw [Function.update_self]
      exact ⟨Nat.lt_succ_of_le clock, le_refl _, made.generation.trans generation⟩
    · have update := (fresh same (mem_of_lookup_eq_some found)).1
      rw [made.entries, AList.lookup_insert_ne same] at found
      obtain ⟨first, before, equal⟩ := made.rest other entry found
      obtain ⟨low, high, generation⟩ := tracked.stored other first before
      dsimp only
      rw [update]
      exact ⟨low, high.trans (Nat.le_succ _), equal.symm.trans generation⟩
  · intro first member second member' same
    dsimp only at same
    by_cases here : first = key
    · by_cases there : second = key
      · exact here.trans there.symm
      · obtain ⟨update, other⟩ := fresh there member'
        rw [here, Function.update_self, update] at same
        exact absurd same.symm other
    · obtain ⟨update, other⟩ := fresh here member
      rw [update] at same
      by_cases there : second = key
      · rw [there, Function.update_self] at same
        exact absurd same other
      · rw [(fresh there member').1] at same
        exact tracked.apart first (held here member) second (held there member') same
  · intro token member
    obtain ⟨born, current, older⟩ := tracked.issued token member
    exact ⟨born.trans (Nat.le_succ _), current, older⟩
  · intro token member other stored same
    dsimp only at same
    by_cases here : other = key
    · rw [here, Function.update_self] at same
      exact absurd (same.trans_le (tracked.issued token member).1) (Nat.not_succ_le_self _)
    · rw [(fresh here stored).1] at same
      exact tracked.owned token member other (held here stored) same

theorem grant (tracked : Tracked traced) {key : AffinityKey} {entry : AffinityEntry}
    (found : traced.book.entries.lookup key = some entry) : Tracked { traced with
      tokens := (traced.grant (some key) (some entry.toAffinityBinding)).toList ++
        traced.tokens } where
  clock := tracked.clock
  stored := tracked.stored
  apart := tracked.apart
  issued token member := by
    rcases List.mem_cons.mp member with rfl | member
    · obtain ⟨low, high, generation⟩ := tracked.stored key entry found
      exact ⟨high, fun _ => ⟨low, generation⟩, fun other => absurd rfl other⟩
    · exact tracked.issued token member
  owned token member other stored same := by
    rcases List.mem_cons.mp member with rfl | member
    · exact tracked.apart other stored key (mem_of_lookup_eq_some found) same
    · exact tracked.owned token member other stored same

theorem record (tracked : Tracked traced) (call : AffinityCall) :
    Tracked { traced.record call with book := (traced.book.call call).2 } := by
  unfold Traced.record
  rcases creates : traced.book.creates call with _ | key
  · by_cases cleared : call = .clear
    · subst cleared
      exact tracked.clear
    · have kept := tracked.keep (call_keeps creates cleared)
      cases call with
      | clear => exact absurd rfl cleared
      | _ => exact kept
  · obtain ⟨binding, middle, row, -, made⟩ := call_created creates
    exact tracked.create made

theorem call (tracked : Tracked traced) (call : AffinityCall) : Tracked (traced.call call) := by
  have recorded := tracked.record call
  have tokens : (traced.record call).tokens = traced.tokens := by
    unfold Traced.record
    split
    · rfl
    · split <;> rfl
  rcases returned : (traced.book.call call).1 with _ | binding
  · have none : traced.granted call = none := by
      unfold Traced.granted
      rw [returned]
      cases call.asks <;> rfl
    unfold Traced.call
    rw [none, ← tokens]
    exact recorded
  · obtain ⟨key, entry, asks, found, same⟩ := call_returned returned
    have granted := recorded.grant found
    unfold Traced.call Traced.granted
    rw [asks, returned, ← same, ← tokens]
    exact granted

end Tracked

end Tokens

section Run

variable {ttlMs : Int} {limit : Nat} {history : List (Transition Traced AffinityCall)}
  {traced : Traced}

theorem run_tracked (run : Execution Traced.step (.new ttlMs limit) history traced) :
    Tracked traced := by
  induction run with
  | start => exact .new ttlMs limit
  | next run taken ih =>
    rw [taken]
    exact ih.call _

/-- `confirm` or `refresh_if_target` says that the binding is the current one. -/
def Accepts (book : AffinityBook) (identity : AffinityIdentity) (binding : AffinityBinding)
    (nowMs : Int) : Prop :=
  (book.confirm identity binding nowMs).1 = true ∨
    (book.refreshIfTarget identity binding nowMs).1 = true

theorem Accepts.same_generation {book : AffinityBook} {identity : AffinityIdentity}
    {binding : AffinityBinding} {nowMs : Int} (accepts : Accepts book identity binding nowMs) :
    ∃ entry, book.entries.lookup identity.routingKey = some entry ∧
      entry.generation = binding.generation := by
  rcases accepts with accepted | accepted
  · unfold AffinityBook.confirm at accepted
    split at accepted
    · cases accepted
    · rename_i entry found
      split at accepted
      · cases accepted
      · rename_i equal
        exact ⟨entry, found, Decidable.not_not.mp (not_or.mp equal).2⟩
  · unfold AffinityBook.refreshIfTarget at accepted
    split at accepted
    · cases accepted
    · rename_i entry found
      split at accepted
      · cases accepted
      · rename_i equal
        refine ⟨entry, found, ?_⟩
        exact Decidable.not_not.mp (not_or.mp (not_or.mp (not_or.mp equal).2).2).2

/-- The binding was returned for the entry that is now stored for the identity. -/
def Token.Genuine (token : Token) (traced : Traced) (identity : AffinityIdentity) : Prop :=
  token.key = identity.routingKey ∧ token.birth = traced.births identity.routingKey

/-- The book has not been cleared since the binding was returned, and between its entry and the one
now stored fewer entries have been created than there are generations. -/
def Token.SameEpoch (token : Token) (traced : Traced) (identity : AffinityIdentity) : Prop :=
  token.clears = traced.clears ∧
    traced.births identity.routingKey < token.birth + generations ∧
    token.birth < traced.births identity.routingKey + generations

/-- In every state that calls lead to, a binding that is accepted was returned for the entry that is
stored exactly when no clear, and no round of all generations, lies between the two. -/
theorem run_accepts_genuine (run : Execution Traced.step (.new ttlMs limit) history traced)
    {token : Token} (issued : token ∈ traced.tokens) {identity : AffinityIdentity} {nowMs : Int}
    (accepts : Accepts traced.book identity token.binding nowMs) :
    token.Genuine traced identity ↔ token.SameEpoch traced identity := by
  have tracked := run_tracked run
  obtain ⟨entry, found, same⟩ := accepts.same_generation
  obtain ⟨low, -, generation⟩ := tracked.stored _ entry found
  obtain ⟨-, current, older⟩ := tracked.issued token issued
  constructor
  · rintro ⟨-, birth⟩
    refine ⟨?_, ?_, ?_⟩
    · by_contra other
      exact absurd (low.trans_le (birth.symm.trans_le (older other).2)) (lt_irrefl _)
    · rw [birth]
      exact Nat.lt_add_of_pos_right (by decide)
    · rw [birth]
      exact Nat.lt_add_of_pos_right (by decide)
  · rintro ⟨epoch, near, near'⟩
    obtain ⟨born, generation'⟩ := current epoch
    have equal : traced.births identity.routingKey - traced.cleared =
        token.birth - traced.cleared := by
      refine generationOf_injective (Nat.sub_pos_of_lt low) (Nat.sub_pos_of_lt born) ?_ ?_ ?_
      · omega
      · omega
      · rw [← generation, same, generation']
    have birth : traced.births identity.routingKey = token.birth := by omega
    exact ⟨(tracked.owned token issued _ (mem_of_lookup_eq_some found) birth).symm, birth.symm⟩

def rebound : Traced :=
  (((Traced.new 60000 1).call (.claimTarget ⟨[1]⟩ 3 (some 5) (some 6) 0 ⟨.plain, .plain⟩)).call
    .clear).call (.claimTarget ⟨[1]⟩ 3 (some 5) (some 6) 1000 ⟨.plain, .plain⟩)

/-- What the first request holds is accepted for the entry of the second. -/
theorem rebound_accepts_stale :
    (∃ history, Execution Traced.step (.new 60000 1) history rebound) ∧
      ∃ token ∈ rebound.tokens, Accepts rebound.book ⟨[1]⟩ token.binding 2000 ∧
        ¬ token.Genuine rebound ⟨[1]⟩ := by
  refine ⟨⟨_, ((Execution.start.next rfl).next rfl).next rfl⟩, ?_⟩
  refine ⟨⟨[1], 1, 0, ⟨3, some 5, some 6, 1, false⟩⟩, .tail _ (.head _), ?_, ?_⟩
  · exact .inl (by decide)
  · rintro ⟨-, birth⟩
    exact absurd birth (by decide)

/-- The second request's own binding. -/
theorem run_accepts_genuine_rebound : ∃ token ∈ rebound.tokens,
    Accepts rebound.book ⟨[1]⟩ token.binding 2000 ∧ token.Genuine rebound ⟨[1]⟩ := by
  have run : Execution Traced.step (.new 60000 1) _ rebound :=
    ((Execution.start.next rfl).next rfl).next rfl
  have issued : (⟨[1], 2, 1, ⟨3, some 5, some 6, 1, false⟩⟩ : Token) ∈ rebound.tokens := .head _
  have accepts : Accepts rebound.book ⟨[1]⟩ ⟨3, some 5, some 6, 1, false⟩ 2000 := .inr (by decide)
  exact ⟨_, issued, accepts, (run_accepts_genuine run issued accepts).mpr (by
    unfold Token.SameEpoch
    decide)⟩

end Run

end CodexGate.Routing
