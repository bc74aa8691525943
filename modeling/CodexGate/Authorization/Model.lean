import CodexGate.Foundation.Execution
import CodexGate.Foundation.Machine
import Mathlib.Data.Finset.Prod
import Mathlib.Data.Finset.Union

namespace CodexGate.Authorization

open Foundation

structure AuthStore where
  keys : Finset Nat
  groups : Finset Nat
  providers : Finset Nat
  /-- `provider_group_api_keys`, a key with its group. -/
  keyGroups : Finset (Nat × Nat)
  /-- `provider_group_providers`, a group with its provider. -/
  providerGroups : Finset (Nat × Nat)
  /-- The keys of `api_key_authorization`, and those of them with `direct`. -/
  recorded : Finset Nat
  direct : Finset Nat
  /-- `api_key_allowed_providers`, a key with its provider. -/
  allowed : Finset (Nat × Nat)
  deriving DecidableEq

namespace AuthStore

variable (store : AuthStore)

def granted : Finset (Nat × Nat) :=
  store.keyGroups.biUnion fun row =>
    (store.providerGroups.filter fun membership => membership.1 = row.2).image
      fun membership => (row.1, membership.2)

/-- What a refresh reads: memberships, authorizations, and the rows of keys that are not direct. -/
def compatible : AuthStore where
  keys := ∅
  groups := ∅
  providers := ∅
  keyGroups := store.keyGroups
  providerGroups := store.providerGroups
  recorded := store.recorded
  direct := store.direct
  allowed := store.allowed.filter fun row => row.1 ∉ store.direct

end AuthStore

/-! The statements of `refresh_compat_authorizations`, from what the committed rows are as each
one starts; the first makes a row in `api_key_authorization` for each key. -/

def deletedRows (recording deleting : AuthStore) : Finset (Nat × Nat) :=
  deleting.allowed.filter fun row =>
    row.1 ∈ deleting.recorded ∪ recording.keys ∧ row.1 ∉ deleting.direct

def insertedRows (recording inserting : AuthStore) : Finset (Nat × Nat) :=
  inserting.granted.filter fun row =>
    row.1 ∈ inserting.recorded ∪ recording.keys ∧ row.1 ∉ inserting.direct

/-- The rows that `insert_provider_bundle` makes for keys in the groups of the new provider. -/
def bundleRows (provider : Nat) (groups : Finset Nat) (inserting : AuthStore) : Finset (Nat × Nat) :=
  (inserting.keyGroups.filter fun row =>
    row.2 ∈ groups ∧ row.1 ∈ inserting.recorded ∧ row.1 ∉ inserting.direct).image
      fun row => (row.1, provider)

/-- How far a refresh is, with the committed rows that each statement has read. -/
inductive RefreshStage
  | start
  | recorded (recording : AuthStore)
  | deleted (recording deleting : AuthStore)
  | inserted (recording deleting inserting : AuthStore)

/-- `deleted` has also made the authorization of the key direct. -/
inductive ReplaceStage
  | start
  | deleted (deleting : AuthStore)
  | inserted (deleting : AuthStore)

inductive Task
  | providerGroups (provider : Nat) (groups : Finset Nat)
  | keyGroups (key : Nat) (groups : Finset Nat)
  | refresh
  | replaceAllowed (key : Nat) (ids : Finset Nat)
  | createProvider (groups : Finset Nat)
  | deleteGroup (group : Nat)

/-- An operation in progress. Those of the memberships go on with a refresh when they have
committed, in a transaction of its own. -/
inductive Op
  | providerGroups (provider : Nat) (groups : Finset Nat)
  | keyGroups (key : Nat) (groups : Finset Nat)
  | refresh (stage : RefreshStage)
  | replaceAllowed (key : Nat) (ids : Finset Nat) (stage : ReplaceStage)
  | createProvider (groups : Finset Nat) (read : Option AuthStore)
  | deleteGroup (group : Nat) (foundEmpty : Bool)

namespace Op

def start : Task → Op
  | .providerGroups provider groups => .providerGroups provider groups
  | .keyGroups key groups => .keyGroups key groups
  | .refresh => .refresh .start
  | .replaceAllowed key ids => .replaceAllowed key ids .start
  | .createProvider groups => .createProvider groups none
  | .deleteGroup group => .deleteGroup group false

def refreshes : Op → Bool
  | .providerGroups .. | .keyGroups .. | .refresh _ => true
  | _ => false

/-! Rows that uncommitted rows of an operation refer to; they cannot be deleted before it ends. -/

def pinnedKeys : Op → Finset Nat
  | .refresh (.recorded recording) | .refresh (.deleted recording _) => recording.keys
  | .refresh (.inserted recording _ inserting) =>
    recording.keys ∪ (insertedRows recording inserting).image Prod.fst
  | .replaceAllowed key _ (.deleted _) | .replaceAllowed key _ (.inserted _) => {key}
  | .createProvider groups (some inserting) => (bundleRows 0 groups inserting).image Prod.fst
  | _ => ∅

def pinnedProviders : Op → Finset Nat
  | .refresh (.inserted recording _ inserting) => (insertedRows recording inserting).image Prod.snd
  | .replaceAllowed _ ids (.inserted _) => ids
  | _ => ∅

def pinnedGroups : Op → Finset Nat
  | .createProvider groups (some _) => groups
  | _ => ∅

end Op

/-- The committed rows, the operations in progress, what has last been saved for each key, and the
identifiers that the tables will give out. -/
structure AuthWorld where
  store : AuthStore
  ops : HashMap Nat Op
  saved : Nat → Finset Nat
  nextKey : Nat
  nextGroup : Nat
  nextProvider : Nat

/-- Each statement reads the rows that are committed as it starts. `spared` are rows that a statement
has read and that another transaction has written again before it could delete them. -/
inductive AuthAction
  | begin (who : Nat) (task : Task)
  | statement (who : Nat)
  | commit (who : Nat) (spared : Finset (Nat × Nat))
  | fail (who : Nat)
  | createKey
  | createGroup
  | deleteKey (key : Nat)
  | deleteProvider (provider : Nat)

namespace AuthWorld

variable (world : AuthWorld)

def setOp (who : Nat) (op : Op) : AuthWorld := { world with ops := world.ops.insert who op }

def endOp (who : Nat) : AuthWorld := { world with ops := world.ops.erase who }

def unpinned (pins : Op → Finset Nat) (id : Nat) : Bool :=
  world.ops.entries.all fun entry => id ∉ pins entry.2

/-- The next statement of a transaction; the statements of a membership write are taken with its
commit. An insert waits or fails where a row is there or a row it refers to is not. -/
def statement (who : Nat) : Op → Option AuthWorld
  | .refresh .start => some (world.setOp who (.refresh (.recorded world.store)))
  | .refresh (.recorded recording) =>
    some (world.setOp who (.refresh (.deleted recording world.store)))
  | .refresh (.deleted recording deleting) =>
    let rows := insertedRows recording world.store
    if Disjoint rows (world.store.allowed \ deletedRows recording deleting) then
      some (world.setOp who (.refresh (.inserted recording deleting world.store)))
    else none
  | .replaceAllowed key ids .start =>
    if key ∈ world.store.keys then
      some (world.setOp who (.replaceAllowed key ids (.deleted world.store)))
    else none
  | .replaceAllowed key ids (.deleted deleting) =>
    if ids ⊆ world.store.providers then
      some (world.setOp who (.replaceAllowed key ids (.inserted deleting)))
    else none
  | .createProvider groups none =>
    if groups ⊆ world.store.groups then
      some (world.setOp who (.createProvider groups (some world.store)))
    else none
  | .deleteGroup group false =>
    if group ∉ world.store.keyGroups.image Prod.snd ∪ world.store.providerGroups.image Prod.fst then
      some (world.setOp who (.deleteGroup group true))
    else none
  | _ => none

def commit (who : Nat) (spared : Finset (Nat × Nat)) : Op → Option AuthWorld
  | .providerGroups provider groups =>
    if provider ∈ world.store.providers ∧ groups ⊆ world.store.groups then
      let others := world.store.providerGroups.filter fun row => row.2 ≠ provider ∨ row ∈ spared
      some { world.setOp who (.refresh .start) with
        store := { world.store with
          providerGroups := others ∪ groups.image fun group => (group, provider) } }
    else none
  | .keyGroups key groups =>
    if key ∈ world.store.keys ∧ groups ⊆ world.store.groups then
      let others := world.store.keyGroups.filter fun row => row.1 ≠ key ∨ row ∈ spared
      some { world.setOp who (.refresh .start) with
        store := { world.store with
          keyGroups := others ∪ groups.image fun group => (key, group) } }
    else none
  | .refresh (.inserted recording deleting inserting) =>
    let deleted := deletedRows recording deleting \ spared
    some { world.endOp who with
      store := { world.store with
        recorded := world.store.recorded ∪ recording.keys
        allowed := world.store.allowed \ deleted ∪ insertedRows recording inserting } }
  | .replaceAllowed key ids (.inserted deleting) =>
    let deleted := (deleting.allowed.filter fun row => row.1 = key) \ spared
    some { world.endOp who with
      store := { world.store with
        recorded := insert key world.store.recorded
        direct := insert key world.store.direct
        allowed := world.store.allowed \ deleted ∪ ids.image fun id => (key, id) }
      saved := Function.update world.saved key ids }
  | .createProvider groups (some inserting) =>
    let provider := world.nextProvider
    some { world.endOp who with
      store := { world.store with
        providers := insert provider world.store.providers
        providerGroups := world.store.providerGroups ∪ groups.image fun group => (group, provider)
        allowed := world.store.allowed ∪ bundleRows provider groups inserting }
      nextProvider := provider + 1 }
  | .deleteGroup group true =>
    if world.unpinned Op.pinnedGroups group then
      some { world.endOp who with
        store := { world.store with
          groups := world.store.groups.erase group
          keyGroups := world.store.keyGroups.filter fun row => row.2 ≠ group
          providerGroups := world.store.providerGroups.filter fun row => row.1 ≠ group } }
    else none
  | _ => none

def deleteKey (key : Nat) : Option AuthWorld :=
  if world.unpinned Op.pinnedKeys key then
    some { world with
      store := { world.store with
        keys := world.store.keys.erase key
        keyGroups := world.store.keyGroups.filter fun row => row.1 ≠ key
        recorded := world.store.recorded.erase key
        direct := world.store.direct.erase key
        allowed := world.store.allowed.filter fun row => row.1 ≠ key } }
  else none

def deleteProvider (provider : Nat) : Option AuthWorld :=
  if world.unpinned Op.pinnedProviders provider then
    some { world with
      store := { world.store with
        providers := world.store.providers.erase provider
        providerGroups := world.store.providerGroups.filter fun row => row.2 ≠ provider
        allowed := world.store.allowed.filter fun row => row.2 ≠ provider } }
  else none

def step : AuthAction → Option AuthWorld
  | .begin who task =>
    match world.ops.lookup who with
    | none => some (world.setOp who (.start task))
    | some _ => none
  | .statement who => (world.ops.lookup who).bind (world.statement who)
  | .commit who spared => (world.ops.lookup who).bind (world.commit who spared)
  | .fail who => (world.ops.lookup who).map fun _ => world.endOp who
  | .createKey =>
    some { world with
      store := { world.store with keys := insert world.nextKey world.store.keys }
      nextKey := world.nextKey + 1 }
  | .createGroup =>
    some { world with
      store := { world.store with groups := insert world.nextGroup world.store.groups }
      nextGroup := world.nextGroup + 1 }
  | .deleteKey key => world.deleteKey key
  | .deleteProvider provider => world.deleteProvider provider

abbrev Run (start : AuthWorld) :=
  Execution (fun before action after => step before action = some after) start

abbrev Move := Transition AuthWorld AuthAction

end AuthWorld

end CodexGate.Authorization
