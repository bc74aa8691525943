import CodexGate.Foundation.Execution
import CodexGate.Foundation.Text
import CodexGate.Routing.Collect
import Mathlib.Data.Finset.Basic
import Mathlib.Data.List.Sort
import Mathlib.Logic.Function.Basic

namespace CodexGate.Admin.Policies

open Foundation Routing

/-! The operations that write `model_route_policies`, statement by statement. -/

inductive Database
  | sqlite
  | postgres
  deriving DecidableEq

/-- A row with the policy in its `data_json`. Rows inserted at different times differ in `born`. -/
structure PolicyRow where
  born : Nat
  policy : RoutePolicy

/-- What has been committed. Both databases give out an id once only. -/
structure PolicyStore where
  providers : Finset Int
  nextId : Int
  policies : HashMap String PolicyRow
  nextRow : Nat

/-- A priority and a weight as `validate_provider_routing` lets them pass. -/
structure Scheduling where
  priority : I32
  weight : I32
  priority_valid : 0 ≤ priority.1
  weight_valid : 1 ≤ weight.1

def Scheduling.target (scheduling : Scheduling) (id : Int) : RouteTarget where
  providerId := id
  priority := scheduling.priority
  weight := scheduling.weight

inductive Stage
  | waiting
  /-- `insert_provider_bundle` has inserted its provider, which no one else sees yet. -/
  | inserted (id : Int)
  /-- It holds the policy for `*` locked, like `update_default_route_target` in the next case. -/
  | extending (id : Int) (policy : RoutePolicy)
  | replacing (policy : RoutePolicy)
  /-- `delete_upstream_provider` has yet to lock the rows `names`, each with when it was born. -/
  | locking (names : List (String × Nat)) (read : List RoutePolicy)
  | saving (policy : RoutePolicy)
  | ended

namespace Stage

def locks : Stage → List String
  | extending _ _ | replacing _ => ["*"]
  | locking _ read => read.map RoutePolicy.modelName
  | waiting | inserted _ | saving _ | ended => []

def InTransaction : Stage → Prop
  | inserted _ | extending _ _ | replacing _ | locking _ _ => True
  | waiting | saving _ | ended => False

def InProgress : Stage → Prop
  | waiting | ended => False
  | inserted _ | extending _ _ | replacing _ | locking _ _ | saving _ => True

end Stage

namespace PolicyStore

variable (store : PolicyStore)

def updatePolicy (name : String) (policy : RoutePolicy) : PolicyStore :=
  match store.policies.lookup name with
  | none => store
  | some row => { store with policies := store.policies.insert name { row with policy } }

def saveRoutePolicy (policy : RoutePolicy) : PolicyStore :=
  match store.policies.lookup policy.modelName with
  | none =>
    { store with
      policies := store.policies.insert policy.modelName { born := store.nextRow, policy }
      nextRow := store.nextRow + 1 }
  | some row =>
    { store with policies := store.policies.insert policy.modelName { row with policy } }

def deletePolicy (name : String) : PolicyStore :=
  if name = "*" then store else { store with policies := store.policies.erase name }

def addProvider (id : Int) : PolicyStore := { store with providers := insert id store.providers }

def removeProvider (id : Int) : PolicyStore := { store with providers := store.providers.erase id }

def rows : List (String × Nat) :=
  (store.policies.entries.map fun entry => (entry.1, entry.2.born)).mergeSort
    fun row other => row.1 ≤ other.1

end PolicyStore

def withoutTarget (id : Int) (policy : RoutePolicy) : RoutePolicy :=
  { policy with targets := policy.targets.filter fun target => target.providerId ≠ id }

def withTarget (target : RouteTarget) (weighted : Bool) (policy : RoutePolicy) : RoutePolicy :=
  { policy with
    mode := if weighted then "weighted" else policy.mode
    targets := policy.targets ++ [target] }

/-- What a statement does. It waits while another transaction holds the row `row` locked, and in
SQLite one that writes, or begins a transaction, waits while another is open. -/
structure Move where
  row : Option String
  writing : Bool
  store : PolicyStore
  stage : Stage

def Move.still (store : PolicyStore) (stage : Stage) : Move := ⟨none, false, store, stage⟩

def insertProviderBundle (scheduling : Scheduling) (legacyRouteWeighted : Bool) (store : PolicyStore) :
    Stage → Option Move
  | .waiting => some {
      row := none
      writing := true
      store := { store with nextId := store.nextId + 1 }
      stage := .inserted store.nextId }
  | .inserted id =>
    match store.policies.lookup "*" with
    | none => some (.still store .ended)
    | some row => some ⟨some "*", true, store, .extending id row.policy⟩
  | .extending id policy =>
    let extended := withTarget (scheduling.target id) legacyRouteWeighted policy
    some ⟨none, true, (store.addProvider id).updatePolicy "*" extended, .ended⟩
  | _ => none

def dropTarget (id : Int) (store : PolicyStore) (policy : RoutePolicy) : PolicyStore :=
  if policy.targets.any fun target => target.providerId = id then
    store.updatePolicy policy.modelName (withoutTarget id policy)
  else store

/-- A row that is not the one which the query found is passed over. -/
def deleteUpstreamProvider (id : Int) (store : PolicyStore) : Stage → Option Move
  | .waiting => some ⟨none, true, store, .locking store.rows []⟩
  | .locking ((name, born) :: names) read =>
    match store.policies.lookup name with
    | none => some (.still store (.locking names read))
    | some row =>
      if row.born = born then some ⟨some name, true, store, .locking names (read ++ [row.policy])⟩
      else some (.still store (.locking names read))
  | .locking [] read => some ⟨none, true, (read.foldl (dropTarget id) store).removeProvider id, .ended⟩
  | _ => none

def updateDefaultRouteTarget (id : Int) (scheduling : Scheduling) (legacyWeighted : Bool)
    (store : PolicyStore) : Stage → Option Move
  | .waiting =>
    match store.policies.lookup "*" with
    | none => some (.still store .ended)
    | some row => some ⟨some "*", true, store, .replacing row.policy⟩
  | .replacing policy =>
    let replaced := withTarget (scheduling.target id) legacyWeighted (withoutTarget id policy)
    some ⟨none, true, store.updatePolicy "*" replaced, .ended⟩
  | _ => none

def saving (store : PolicyStore) (policy : RoutePolicy) : Move :=
  ⟨some policy.modelName, true, store.saveRoutePolicy policy, .ended⟩

def removing (store : PolicyStore) (name : String) : Move :=
  ⟨some name, true, store.deletePolicy name, .ended⟩

def adaptLegacyRoute (model : String) (enabled : Bool) (ids : List Int) (store : PolicyStore) :
    Stage → Option Move
  | .waiting =>
    if !enabled || ids.isEmpty then some (removing store model)
    else
      match store.policies.lookup "*" with
      | none => some (.still store .ended)
      | some row =>
        let targets := row.policy.targets.filter fun target => target.providerId ∈ ids
        some (.still store (.saving { row.policy with modelName := model, targets }))
  | .saving policy => some (saving store policy)
  | _ => none

def validPolicy (policy : RoutePolicy) : Bool :=
  trim policy.modelName ≠ "" ∧ policy.mode ∈ ["ordered", "weighted"] ∧
    (policy.targets.all fun target => 0 ≤ target.priority.1 ∧ 1 ≤ target.weight.1) ∧
    (policy.targets.map RouteTarget.providerId).Nodup

def putRoute (policy : RoutePolicy) (store : PolicyStore) : Stage → Option Move
  | .waiting =>
    if validPolicy policy ∧ policy.targets.all fun target => target.providerId ∈ store.providers then
      some (.still store (.saving policy))
    else some (.still store .ended)
  | .saving policy => some (saving store policy)
  | _ => none

/-- The answer to a refused name is not told from the others, and neither removes a policy. -/
def deleteRoute (model : String) (store : PolicyStore) : Stage → Option Move
  | .waiting =>
    if trim model = "" ∨ model = "*" then some (.still store .ended)
    else some (removing store model)
  | _ => none

inductive Operation
  | insertProviderBundle (scheduling : Scheduling) (legacyRouteWeighted : Bool)
  | deleteUpstreamProvider (id : Int)
  | updateDefaultRouteTarget (id : Int) (scheduling : Scheduling) (legacyWeighted : Bool)
  | adaptLegacyRoute (model : String) (enabled : Bool) (ids : List Int)
  | putRoute (policy : RoutePolicy)
  | deleteRoute (model : String)

def Operation.move : Operation → PolicyStore → Stage → Option Move
  | insertProviderBundle scheduling weighted => Policies.insertProviderBundle scheduling weighted
  | deleteUpstreamProvider id => Policies.deleteUpstreamProvider id
  | updateDefaultRouteTarget id scheduling weighted =>
    Policies.updateDefaultRouteTarget id scheduling weighted
  | adaptLegacyRoute model enabled ids => Policies.adaptLegacyRoute model enabled ids
  | putRoute policy => Policies.putRoute policy
  | deleteRoute model => Policies.deleteRoute model

structure PolicyState (ι : Type) where
  store : PolicyStore
  stages : ι → Stage

variable {ι : Type} [DecidableEq ι]

def PolicyState.start (store : PolicyStore) : PolicyState ι := ⟨store, fun _ => .waiting⟩

def Free (database : Database) (state : PolicyState ι) (i : ι) (move : Move) : Prop :=
  (∀ name ∈ move.row, ∀ j ≠ i, name ∉ (state.stages j).locks) ∧
    (database = .sqlite → move.writing = true → ∀ j ≠ i, ¬ (state.stages j).InTransaction)

/-- A call makes its next statement, or it fails, which takes back what its transaction has done. -/
inductive CallStep (ι : Type)
  | moves (i : ι)
  | fails (i : ι)

inductive PolicyStep (database : Database) (operations : ι → Operation) (state : PolicyState ι) :
    CallStep ι → PolicyState ι → Prop
  | moves {i : ι} {move : Move}
    (next : (operations i).move state.store (state.stages i) = some move)
    (free : Free database state i move) :
    PolicyStep database operations state (.moves i)
      ⟨move.store, Function.update state.stages i move.stage⟩
  | fails {i : ι} (running : (state.stages i).InProgress ∨ state.stages i = .waiting) :
    PolicyStep database operations state (.fails i)
      ⟨state.store, Function.update state.stages i .ended⟩

abbrev PolicyRun (database : Database) (operations : ι → Operation) (store : PolicyStore) :
    List (Transition (PolicyState ι) (CallStep ι)) → PolicyState ι → Prop :=
  Execution (PolicyStep database operations) (.start store)

end CodexGate.Admin.Policies
