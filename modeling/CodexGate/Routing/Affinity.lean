import CodexGate.Foundation.Eviction
import CodexGate.Foundation.Execution

namespace CodexGate.Routing

open Foundation

abbrev AffinityKey := List UInt8

/-- Of an identity the book only reads the key that is bound to the requested model. -/
structure AffinityIdentity where
  routingKey : AffinityKey

structure AffinityBinding where
  providerId : Int
  upstreamKeyId : Option Int
  endpointId : Option Int
  generation : Nat
  confirmed : Bool

structure AffinityEntry extends AffinityBinding where
  expiresAtMs : Int
  lastSeenMs : Int

structure AvoidEntry where
  providerId : Int
  untilMs : Int
  lastSeenMs : Int

structure AffinityBook where
  ttlMs : Int
  maxEntries : Nat
  entries : HashMap AffinityKey AffinityEntry
  avoided : HashMap AffinityKey AvoidEntry
  nextGeneration : Nat

namespace AffinityBook

def new (ttlMs : Int) (maxEntries : Nat) : AffinityBook where
  ttlMs := min ttlMs i64Max
  maxEntries := max maxEntries 1
  entries := ∅
  avoided := ∅
  nextGeneration := 0

def lookup (book : AffinityBook) (identity : AffinityIdentity) (nowMs : Int) :
    Option AffinityBinding × AffinityBook :=
  match book.entries.lookup identity.routingKey with
  | none => (none, book)
  | some entry =>
    if entry.expiresAtMs ≤ nowMs then
      (none, { book with entries := book.entries.erase identity.routingKey })
    else
      (some entry.toAffinityBinding, { book with
        entries := book.entries.insert identity.routingKey { entry with
          expiresAtMs := saturatingAddI64 nowMs book.ttlMs
          lastSeenMs := nowMs } })

def isProviderAvoided (book : AffinityBook) (identity : AffinityIdentity) (providerId nowMs : Int) :
    Bool × AffinityBook :=
  match book.avoided.lookup identity.routingKey with
  | none => (false, book)
  | some entry =>
    if entry.untilMs ≤ nowMs then
      (false, { book with avoided := book.avoided.erase identity.routingKey })
    else
      (entry.providerId == providerId, { book with
        avoided := book.avoided.insert identity.routingKey { entry with lastSeenMs := nowMs } })

def avoids (book : AffinityBook) (identity : Option AffinityIdentity) (providerId nowMs : Int) :
    Bool × AffinityBook :=
  match identity with
  | none => (false, book)
  | some identity => book.isProviderAvoided identity providerId nowMs

def binding (book : AffinityBook) (identity : Option AffinityIdentity) (nowMs : Int) :
    Option AffinityBinding × AffinityBook :=
  match identity with
  | none => (none, book)
  | some identity => book.lookup identity nowMs

end AffinityBook

structure AffinityOrder where
  entries : Iteration AffinityKey AffinityEntry
  avoided : Iteration AffinityKey AvoidEntry

namespace AffinityBook

variable (book : AffinityBook)

def nextGenerationOf (generation : Nat) : Nat := max ((generation + 1) % 2 ^ 64) 1

def expired (nowMs : Int) (entry : AffinityEntry) : Bool := entry.expiresAtMs ≤ nowMs

def lapsed (nowMs : Int) (entry : AvoidEntry) : Bool := entry.untilMs ≤ nowMs

def ensureEntryCapacity (iteration : Iteration AffinityKey AffinityEntry) (nowMs : Int) :
    AffinityBook :=
  let (entries, gone) :=
    iteration.makeRoom AffinityEntry.lastSeenMs (expired nowMs) book.maxEntries book.entries
  { book with entries := entries, avoided := gone.foldl (fun table key => table.erase key) book.avoided }

def ensureAvoidCapacity (iteration : Iteration AffinityKey AvoidEntry) (nowMs : Int) : AffinityBook :=
  { book with avoided :=
    (iteration.makeRoom AvoidEntry.lastSeenMs (lapsed nowMs) book.maxEntries book.avoided).1 }

def clear : AffinityBook := { book with entries := ∅, avoided := ∅, nextGeneration := 0 }

def insertEntry (identity : AffinityIdentity) (providerId : Int)
    (upstreamKeyId endpointId : Option Int) (confirmed : Bool) (nowMs : Int) :
    AffinityBinding × AffinityBook :=
  let generation := nextGenerationOf book.nextGeneration
  let binding : AffinityBinding := ⟨providerId, upstreamKeyId, endpointId, generation, confirmed⟩
  (binding, { book with
    nextGeneration := generation
    entries := book.entries.insert identity.routingKey
      ⟨binding, saturatingAddI64 nowMs book.ttlMs, nowMs⟩ })

def claimTarget (identity : AffinityIdentity) (providerId : Int)
    (upstreamKeyId endpointId : Option Int) (nowMs : Int) (order : AffinityOrder) :
    AffinityBinding × AffinityBook :=
  match book.lookup identity nowMs with
  | (some binding, book) => (binding, book)
  | (none, book) =>
    (book.ensureEntryCapacity order.entries nowMs).insertEntry identity providerId upstreamKeyId
      endpointId false nowMs

def renew (identity : AffinityIdentity) (entry : AffinityEntry) (nowMs : Int) : AffinityBook :=
  { book with entries := book.entries.insert identity.routingKey { entry with
      confirmed := true
      expiresAtMs := saturatingAddI64 nowMs book.ttlMs
      lastSeenMs := nowMs } }

def confirm (identity : AffinityIdentity) (binding : AffinityBinding) (nowMs : Int) :
    Bool × AffinityBook :=
  match book.entries.lookup identity.routingKey with
  | none => (false, book)
  | some entry =>
    if entry.providerId ≠ binding.providerId ∨ entry.generation ≠ binding.generation then
      (false, book)
    else
      (true, { book.renew identity entry nowMs with
        avoided := book.avoided.erase identity.routingKey })

def migrateTarget (identity : AffinityIdentity) (providerId : Int)
    (upstreamKeyId endpointId : Option Int) (nowMs : Int) (order : AffinityOrder) :
    AffinityBinding × AffinityBook :=
  let roomy := if identity.routingKey ∈ book.entries then book
    else book.ensureEntryCapacity order.entries nowMs
  let (binding, moved) :=
    roomy.insertEntry identity providerId upstreamKeyId endpointId true nowMs
  (binding, { moved with avoided := moved.avoided.erase identity.routingKey })

def refreshIfProvider (identity : AffinityIdentity) (providerId nowMs : Int) : Bool × AffinityBook :=
  match book.entries.lookup identity.routingKey with
  | none => (false, book)
  | some entry =>
    if entry.providerId ≠ providerId then (false, book) else (true, book.renew identity entry nowMs)

def refreshIfTarget (identity : AffinityIdentity) (binding : AffinityBinding) (nowMs : Int) :
    Bool × AffinityBook :=
  match book.entries.lookup identity.routingKey with
  | none => (false, book)
  | some entry =>
    if entry.providerId ≠ binding.providerId ∨ entry.upstreamKeyId ≠ binding.upstreamKeyId ∨
        entry.endpointId ≠ binding.endpointId ∨ entry.generation ≠ binding.generation then
      (false, book)
    else (true, book.renew identity entry nowMs)

def clearIfProvider (identity : AffinityIdentity) (providerId : Int) : Bool × AffinityBook :=
  if (book.entries.lookup identity.routingKey).any (·.providerId = providerId) then
    (true, { book with entries := book.entries.erase identity.routingKey })
  else (false, book)

def markProviderFailed (identity : AffinityIdentity) (providerId nowMs : Int) (avoidForMs : Nat)
    (order : AffinityOrder) : AffinityBook :=
  let left := (book.clearIfProvider identity providerId).2
  let roomy := if identity.routingKey ∈ left.avoided then left
    else left.ensureAvoidCapacity order.avoided nowMs
  let entry : AvoidEntry := ⟨providerId, saturatingAddI64 nowMs (min avoidForMs i64Max), nowMs⟩
  { roomy with avoided := roomy.avoided.insert identity.routingKey entry }

def purgeProvider (providerId : Int) : AffinityBook :=
  { book with
    entries := retain (fun _ entry => entry.providerId ≠ providerId) book.entries
    avoided := retain (fun _ entry => entry.providerId ≠ providerId) book.avoided }

def purgeUpstreamKey (upstreamKeyId : Int) : AffinityBook :=
  { book with
    entries := retain (fun _ entry => entry.upstreamKeyId ≠ some upstreamKeyId) book.entries }

def purgeEndpoint (endpointId : Int) : AffinityBook :=
  { book with entries := retain (fun _ entry => entry.endpointId ≠ some endpointId) book.entries }

/-- `binding_counts_by_provider` removes what has expired, and only counts after that. -/
def removeExpired (nowMs : Int) : AffinityBook :=
  { book with
    entries := retain (fun _ entry => !expired nowMs entry) book.entries
    avoided := retain (fun _ entry => !lapsed nowMs entry) book.avoided }

end AffinityBook

inductive AffinityCall
  | lookup (identity : AffinityIdentity) (nowMs : Int)
  | claimTarget (identity : AffinityIdentity) (providerId : Int)
    (upstreamKeyId endpointId : Option Int) (nowMs : Int) (order : AffinityOrder)
  | confirm (identity : AffinityIdentity) (binding : AffinityBinding) (nowMs : Int)
  | migrateTarget (identity : AffinityIdentity) (providerId : Int)
    (upstreamKeyId endpointId : Option Int) (nowMs : Int) (order : AffinityOrder)
  | refreshIfProvider (identity : AffinityIdentity) (providerId nowMs : Int)
  | refreshIfTarget (identity : AffinityIdentity) (binding : AffinityBinding) (nowMs : Int)
  | clearIfProvider (identity : AffinityIdentity) (providerId : Int)
  | markProviderFailed (identity : AffinityIdentity) (providerId nowMs : Int) (avoidForMs : Nat)
    (order : AffinityOrder)
  | isProviderAvoided (identity : AffinityIdentity) (providerId nowMs : Int)
  | purgeProvider (providerId : Int)
  | purgeUpstreamKey (upstreamKeyId : Int)
  | purgeEndpoint (endpointId : Int)
  | bindingCounts (nowMs : Int)
  | clear

def AffinityBook.call (book : AffinityBook) : AffinityCall → Option AffinityBinding × AffinityBook
  | .lookup identity nowMs => book.lookup identity nowMs
  | .claimTarget identity providerId upstreamKeyId endpointId nowMs order =>
    let (binding, book) :=
      book.claimTarget identity providerId upstreamKeyId endpointId nowMs order
    (some binding, book)
  | .confirm identity binding nowMs => (none, (book.confirm identity binding nowMs).2)
  | .migrateTarget identity providerId upstreamKeyId endpointId nowMs order =>
    let (binding, book) :=
      book.migrateTarget identity providerId upstreamKeyId endpointId nowMs order
    (some binding, book)
  | .refreshIfProvider identity providerId nowMs =>
    (none, (book.refreshIfProvider identity providerId nowMs).2)
  | .refreshIfTarget identity binding nowMs => (none, (book.refreshIfTarget identity binding nowMs).2)
  | .clearIfProvider identity providerId => (none, (book.clearIfProvider identity providerId).2)
  | .markProviderFailed identity providerId nowMs avoidForMs order =>
    (none, book.markProviderFailed identity providerId nowMs avoidForMs order)
  | .isProviderAvoided identity providerId nowMs =>
    (none, (book.isProviderAvoided identity providerId nowMs).2)
  | .purgeProvider providerId => (none, book.purgeProvider providerId)
  | .purgeUpstreamKey upstreamKeyId => (none, book.purgeUpstreamKey upstreamKeyId)
  | .purgeEndpoint endpointId => (none, book.purgeEndpoint endpointId)
  | .bindingCounts nowMs => (none, book.removeExpired nowMs)
  | .clear => (none, book.clear)

end CodexGate.Routing
