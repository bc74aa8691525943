import CodexGate.Foundation.Copies
import CodexGate.Foundation.Execution
import CodexGate.Foundation.Machine
import Mathlib.Data.List.Sort

namespace CodexGate.Cache

open Foundation

structure ProviderGroupRef where
  id : Int
  name : String
  deriving DecidableEq

structure ApiKeyAuth where
  id : Int
  enabled : Bool
  expiresAtMs : Option Int
  logEnabled : Bool
  name : String
  providerGroups : List ProviderGroupRef
  allowedProviderIds : List Int
  deriving DecidableEq

structure ApiKeyRow where
  id : Int
  enabled : Bool
  expiresAtMs : Option Int
  logEnabled : Bool
  name : String

/-- What the three queries of `find_api_key_by_hash` answer from. -/
structure ApiKeyTables where
  apiKeys : String → Option ApiKeyRow
  providerGroups : Int → List ProviderGroupRef
  allowedProviders : Int → List Int

structure ApiKeyCachePolicy where
  ttl : Nat
  maxEntries : Nat

/-- An entry of the cache; `readAt` is how many changes the tables had seen when the row of the
entry was read, which the program does not know. -/
structure ApiKeyEntry where
  value : ApiKeyAuth
  loadedAt : Nat
  readAt : Nat

abbrev ApiKeyEntries := HashMap String ApiKeyEntry

def getFresh (policy : ApiKeyCachePolicy) (byHash : ApiKeyEntries) (clock : Nat)
    (keyHash : String) : Option ApiKeyEntry :=
  match byHash.lookup keyHash with
  | none => none
  | some hit => if clock - hit.loadedAt > policy.ttl then none else some hit

/-- Drops the oldest entries; `listing` is the order in which the map lists its keys. -/
def trimToBudget (policy : ApiKeyCachePolicy) (listing : List String) (cache : ApiKeyEntries) :
    ApiKeyEntries :=
  if cache.keys.length ≤ policy.maxEntries then cache
  else
    let overflow := cache.keys.length - policy.maxEntries
    let loadedAt := fun key => ((cache.lookup key).map ApiKeyEntry.loadedAt).getD 0
    let victims := listing.mergeSort fun a b => loadedAt a ≤ loadedAt b
    (victims.take overflow).foldl (fun cache key => cache.erase key) cache

def checkLive (apiKey : ApiKeyAuth) (nowMs : Int) : Option ApiKeyAuth :=
  if !apiKey.enabled then none
  else
    match apiKey.expiresAtMs with
    | some expiresAt => if expiresAt ≤ nowMs then none else some { apiKey with enabled := true }
    | none => some { apiKey with enabled := true }

inductive ValidatePhase
  | missed
  | rowRead (row : ApiKeyRow) (readAt : Nat)
  | groupsRead (row : ApiKeyRow) (groups : List ProviderGroupRef) (readAt : Nat)
  | loaded (value : ApiKeyAuth) (readAt : Nat)
  | answered (answer : Option ApiKeyAuth) (readAt : Nat)
  | failed

/-- A call of `validate`; `began` is the latest change that an invalidation had followed when the
call began. -/
structure ValidateCall where
  keyHash : String
  nowMs : Int
  began : Nat
  phase : ValidatePhase

structure ApiKeyWorld where
  tables : ApiKeyTables
  changes : Nat
  invalidated : Nat
  clock : Nat
  byHash : ApiKeyEntries
  calls : Nat → Option ValidateCall

inductive ApiKeyAction
  | begin (call : Nat) (keyHash : String) (nowMs : Int)
  | readRow (call : Nat)
  | readGroups (call : Nat)
  | readProviders (call : Nat)
  | fail (call : Nat)
  | insert (call : Nat) (listing : List String)
  | change (change : ApiKeyTables → ApiKeyTables)
  | invalidateAll (change : Nat)
  | tick (elapsed : Nat)

namespace ApiKeyWorld

def new (tables : ApiKeyTables) : ApiKeyWorld where
  tables
  changes := 0
  invalidated := 0
  clock := 0
  byHash := ∅
  calls := fun _ => none

def setCall (world : ApiKeyWorld) (call : Nat) (validate : ValidateCall) : ApiKeyWorld :=
  { world with calls := Function.update world.calls call (some validate) }

def setPhase (world : ApiKeyWorld) (call : Nat) (validate : ValidateCall)
    (phase : ValidatePhase) : ApiKeyWorld :=
  world.setCall call { validate with phase }

def begin (policy : ApiKeyCachePolicy) (world : ApiKeyWorld) (call : Nat) (keyHash : String)
    (nowMs : Int) : ApiKeyWorld :=
  world.setCall call {
    keyHash, nowMs
    began := world.invalidated
    phase := match getFresh policy world.byHash world.clock keyHash with
      | some hit => .answered (checkLive hit.value nowMs) hit.readAt
      | none => .missed }

def readRow (world : ApiKeyWorld) (call : Nat) (validate : ValidateCall) : ApiKeyWorld :=
  world.setPhase call validate
    (match world.tables.apiKeys validate.keyHash with
    | some row => .rowRead row world.changes
    | none => .answered none world.changes)

def insert (policy : ApiKeyCachePolicy) (world : ApiKeyWorld) (call : Nat)
    (validate : ValidateCall) (value : ApiKeyAuth) (readAt : Nat) (listing : List String) :
    ApiKeyWorld :=
  { world.setPhase call validate (.answered (checkLive value validate.nowMs) readAt) with
    byHash := trimToBudget policy listing
      (AList.insert validate.keyHash ⟨value, world.clock, readAt⟩ world.byHash) }

def auth (row : ApiKeyRow) (providerGroups : List ProviderGroupRef)
    (allowedProviderIds : List Int) : ApiKeyAuth :=
  ⟨row.id, row.enabled, row.expiresAtMs, row.logEnabled, row.name, providerGroups,
    allowedProviderIds⟩

/-- One moment of one call, a change of the tables, or an invalidation that follows one. -/
def step (policy : ApiKeyCachePolicy) (world : ApiKeyWorld) :
    ApiKeyAction → Option ApiKeyWorld
  | .begin call keyHash nowMs =>
    if (world.calls call).isSome then none else some (world.begin policy call keyHash nowMs)
  | .readRow call => (world.calls call).bind fun validate =>
    match validate.phase with
    | .missed => some (world.readRow call validate)
    | _ => none
  | .readGroups call => (world.calls call).bind fun validate =>
    match validate.phase with
    | .rowRead row readAt =>
      some (world.setPhase call validate
        (.groupsRead row (world.tables.providerGroups row.id) readAt))
    | _ => none
  | .readProviders call => (world.calls call).bind fun validate =>
    match validate.phase with
    | .groupsRead row groups readAt =>
      some (world.setPhase call validate
        (.loaded (auth row groups (world.tables.allowedProviders row.id)) readAt))
    | _ => none
  | .fail call => (world.calls call).bind fun validate =>
    match validate.phase with
    | .missed | .rowRead .. | .groupsRead .. => some (world.setPhase call validate .failed)
    | _ => none
  | .insert call listing => (world.calls call).bind fun validate =>
    match validate.phase with
    | .loaded value readAt => some (world.insert policy call validate value readAt listing)
    | _ => none
  | .change change =>
    some { world with tables := change world.tables, changes := world.changes + 1 }
  | .invalidateAll change =>
    if change ≤ world.changes then
      some { world with invalidated := max world.invalidated change, byHash := ∅ }
    else none
  | .tick elapsed => some { world with clock := world.clock + elapsed }

end ApiKeyWorld

end CodexGate.Cache
