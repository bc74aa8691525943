import CodexGate.Foundation.Machine
import Mathlib.Logic.Function.Basic

namespace CodexGate.Notification

open Foundation

def deliveryLeaseMs : Int := 120000

inductive DeliveryStatus
  | pending
  | sending
  | succeeded
  | failed
  | skipped
  deriving DecidableEq

structure Lease where
  owner : String
  untilMs : Int
  deriving DecidableEq

/-- A row of `notification_deliveries` beside its id. The two lease columns are written together. -/
structure Delivery where
  runId : String
  status : DeliveryStatus
  attempts : Nat
  nextAttemptAtMs : Option Int
  lease : Option Lease
  deriving DecidableEq

namespace Delivery

def claimable (row : Delivery) (nowMs : Int) : Bool :=
  row.status = .pending && row.nextAttemptAtMs.any (· ≤ nowMs) && row.lease.all (·.untilMs < nowMs)

def claim (row : Delivery) (owner : String) (nowMs leaseUntilMs : Int) : Option Delivery :=
  if row.claimable nowMs then
    some
      { row with
        status := .sending
        lease := some { owner := owner, untilMs := leaseUntilMs }
        attempts := row.attempts + 1 }
  else none

def ownedBy (row : Delivery) (owner : String) : Bool := row.lease.any (·.owner == owner)

def finishSuccess (row : Delivery) (owner : String) : Option Delivery :=
  if row.ownedBy owner then
    some { row with status := .succeeded, nextAttemptAtMs := none, lease := none }
  else none

def finishFailure (row : Delivery) (owner : String) (retryAtMs : Option Int) : Option Delivery :=
  if row.ownedBy owner then
    some
      { row with
        status := if retryAtMs.isSome then .pending else .failed
        nextAttemptAtMs := retryAtMs
        lease := none }
  else none

def retry (row : Delivery) (nowMs : Int) : Option Delivery :=
  if row.status = .failed then
    some { row with status := .pending, nextAttemptAtMs := some nowMs, lease := none }
  else none

end Delivery

inductive RunStatus
  | pending
  | sending
  | succeeded
  /-- Stored as `partial`. -/
  | partially
  | failed
  | skipped
  deriving DecidableEq

structure Run where
  status : RunStatus
  completedAtMs : Option Int
  deriving DecidableEq

structure RunCounts where
  pending : Nat
  succeeded : Nat
  failed : Nat
  deriving DecidableEq

def RunCounts.status (counts : RunCounts) : RunStatus :=
  if 0 < counts.pending then .sending
  else if counts.failed = 0 then .succeeded
  else if 0 < counts.succeeded then .partially
  else .failed

def RunCounts.completed (counts : RunCounts) (nowMs : Int) : Option Int :=
  if counts.pending = 0 then some nowMs else none

inductive Finish
  | success
  | failure (retryAtMs : Option Int)
  deriving DecidableEq

def Delivery.finish (row : Delivery) (owner : String) : Finish → Option Delivery
  | .success => row.finishSuccess owner
  | .failure retryAtMs => row.finishFailure owner retryAtMs

inductive DeliveryPhase
  | spawned
  /-- The row is claimed, and the work item is to be read. -/
  | claimed (nowMs : Int)
  | fetched (attempts : Nat) (nowMs : Int)
  | posting (attempts : Nat)
  | finishing (finish : Finish)
  /-- The statement that finishes the row has run. -/
  | finished
  | counting (runId : String)
  | writing (runId : String) (counts : RunCounts)
  | ended
  deriving DecidableEq

structure Worker where
  owner : String
  delivery : String
  phase : DeliveryPhase
  deriving DecidableEq

inductive ChannelConfig
  | decryptionFailed
  | invalid
  | decoded
  deriving DecidableEq

structure DeliveryError where
  retryable : Bool
  retryAfterMs : Option Int

structure Store where
  clockMs : Int
  deliveries : HashMap String Delivery
  runs : HashMap String Run
  workers : Nat → Option Worker

namespace Store

def enter (store : Store) (id : Nat) (worker : Worker) (phase : DeliveryPhase) : Store :=
  { store with workers := Function.update store.workers id (some { worker with phase := phase }) }

def write (store : Store) (delivery : String) (row : Delivery) : Store :=
  { store with deliveries := store.deliveries.insert delivery row }

def counts (store : Store) (runId : String) : RunCounts :=
  let rows := (store.deliveries.entries.map (·.2)).filter (·.runId = runId)
  { pending := rows.countP fun row => row.status = .pending ∨ row.status = .sending
    succeeded := rows.countP (·.status = .succeeded)
    failed := rows.countP (·.status = .failed) }

def claim (store : Store) (id : Nat) (worker : Worker) : Store :=
  let leaseUntilMs := saturatingAddI64 store.clockMs deliveryLeaseMs
  match (store.deliveries.lookup worker.delivery).bind
      (·.claim worker.owner store.clockMs leaseUntilMs) with
  | some row => (store.write worker.delivery row).enter id worker (.claimed store.clockMs)
  | none => store.enter id worker .ended

def retryAt (store : Store) (attempts : Nat) (error : DeliveryError) : Option Int :=
  if error.retryable && attempts < 3 then
    some (saturatingAddI64 store.clockMs
      (error.retryAfterMs.getD (if attempts = 1 then 60000 else 300000)))
  else none

def finish (store : Store) (id : Nat) (worker : Worker) (finish : Finish) : Store :=
  match (store.deliveries.lookup worker.delivery).bind (·.finish worker.owner finish) with
  | some row => (store.write worker.delivery row).enter id worker .finished
  | none => store.enter id worker .finished

def writeRun (store : Store) (runId : String) (counts : RunCounts) : Store :=
  match store.runs.lookup runId with
  | some _ =>
    { store with
      runs := store.runs.insert runId
        { status := counts.status, completedAtMs := counts.completed store.clockMs } }
  | none => store

end Store

inductive DeliveryAction
  | tick (nowMs : Int)
  | spawn (id : Nat) (owner delivery : String)
  | claim (id : Nat)
  /-- Reads the work item, which joins the run and the channel of the delivery. -/
  | fetch (id : Nat) (found : Bool)
  | decode (id : Nat) (config : ChannelConfig)
  | post (id : Nat) (result : Except DeliveryError Unit)
  | finish (id : Nat)
  | readRun (id : Nat)
  | count (id : Nat)
  | write (id : Nat)
  /-- A statement fails, or the process ends. -/
  | crash (id : Nat)
  | retry (delivery : String)

def stepWorker (store : Store) (id : Nat) (worker : Worker) : DeliveryAction → Option Store
  | .claim _ => if worker.phase = .spawned then some (store.claim id worker) else none
  | .fetch _ found =>
    match worker.phase with
    | .claimed nowMs =>
      match store.deliveries.lookup worker.delivery, found with
      | some row, true => some (store.enter id worker (.fetched row.attempts nowMs))
      | _, _ => some (store.enter id worker .ended)
    | _ => none
  | .decode _ config =>
    match worker.phase with
    | .fetched attempts _ =>
      match config with
      | .decryptionFailed => some (store.enter id worker (.finishing (.failure none)))
      -- The error leaves the call before the delivery is finished.
      | .invalid => some (store.enter id worker .ended)
      | .decoded => some (store.enter id worker (.posting attempts))
    | _ => none
  | .post _ result =>
    match worker.phase with
    | .posting attempts =>
      match result with
      | .ok _ => some (store.enter id worker (.finishing .success))
      | .error error =>
        some (store.enter id worker (.finishing (.failure (store.retryAt attempts error))))
    | _ => none
  | .finish _ =>
    match worker.phase with
    | .finishing finish => some (store.finish id worker finish)
    | _ => none
  | .readRun _ =>
    match worker.phase, store.deliveries.lookup worker.delivery with
    | .finished, some row => some (store.enter id worker (.counting row.runId))
    | _, _ => none
  | .count _ =>
    match worker.phase with
    | .counting runId => some (store.enter id worker (.writing runId (store.counts runId)))
    | _ => none
  | .write _ =>
    match worker.phase with
    | .writing runId counts => some ((store.writeRun runId counts).enter id worker .ended)
    | _ => none
  | .crash _ => if worker.phase = .ended then none else some (store.enter id worker .ended)
  | _ => none

def DeliveryAction.worker : DeliveryAction → Option Nat
  | .claim id | .fetch id _ | .decode id _ | .post id _ | .finish id | .readRun id | .count id
  | .write id | .crash id => some id
  | .tick _ | .spawn .. | .retry _ => none

def deliveryStep (store : Store) (action : DeliveryAction) : Option Store :=
  match action with
  | .tick nowMs => if store.clockMs ≤ nowMs then some { store with clockMs := nowMs } else none
  | .spawn id owner delivery =>
    -- `notification_list_due_deliveries` has listed the delivery.
    if store.workers id = none ∧
        (store.deliveries.lookup delivery).any (·.claimable store.clockMs) = true then
      some
        { store with
          workers := Function.update store.workers id
            (some { owner := owner, delivery := delivery, phase := .spawned }) }
    else none
  | .retry delivery =>
    match (store.deliveries.lookup delivery).bind (·.retry store.clockMs) with
    | some row => some (store.write delivery row)
    | none => some store
  | action =>
    match action.worker with
    | none => none
    | some id => (store.workers id).bind fun worker => stepWorker store id worker action

end CodexGate.Notification
