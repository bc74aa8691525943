import CodexGate.Foundation.Copies
import CodexGate.Foundation.Execution
import CodexGate.Foundation.Machine

namespace CodexGate.Cache

open Foundation

structure UpstreamCachePolicy where
  ttl : Nat
  staleGrace : Nat

/-- A snapshot in the cache or in the hands of a call; `began` is how many configuration writes
had been made when its load began, which the program does not know. -/
structure UpstreamCached (Snapshot : Type) where
  value : Snapshot
  loadedAt : Nat
  began : Nat

/-- Where a call of `get` stands between two moments at which others may act. -/
inductive GetPhase (Snapshot : Type)
  | missed
  | waiting (stale : Option (UpstreamCached Snapshot))
  | locked (stale : Option (UpstreamCached Snapshot))
  | missedAgain (stale : Option (UpstreamCached Snapshot))
  | loading (stale : Option (UpstreamCached Snapshot)) (began : Nat)
  | answered (value : Snapshot) (began : Nat)
  | failed (error : String)
  | cancelled

def GetPhase.inside {Snapshot : Type} : GetPhase Snapshot → Bool
  | .locked _ | .missedAgain _ | .loading _ _ => true
  | _ => false

/-- A call of `get`; `began` is the latest write that an `invalidate` had followed when the call
began. -/
structure GetCall (Snapshot : Type) where
  began : Nat
  phase : GetPhase Snapshot

structure UpstreamWorld (Snapshot : Type) where
  writes : Nat
  invalidated : Nat
  clock : Nat
  state : Option (UpstreamCached Snapshot)
  refreshLock : Option Nat
  calls : Nat → Option (GetCall Snapshot)

inductive UpstreamAction (Snapshot : Type)
  | begin (call : Nat)
  | captureStale (call : Nat)
  | acquire (call : Nat)
  | recheck (call : Nat)
  | load (call : Nat)
  | finish (call : Nat) (result : Except String Snapshot)
  | cancel (call : Nat)
  | write
  | invalidate (write : Nat)
  | tick (elapsed : Nat)

namespace UpstreamWorld

variable {Snapshot : Type} (policy : UpstreamCachePolicy)

def new : UpstreamWorld Snapshot where
  writes := 0
  invalidated := 0
  clock := 0
  state := none
  refreshLock := none
  calls := fun _ => none

def getWithin (world : UpstreamWorld Snapshot) (age : Nat) : Option (UpstreamCached Snapshot) :=
  match world.state with
  | none => none
  | some hit => if world.clock - hit.loadedAt > age then none else some hit

def getFresh (world : UpstreamWorld Snapshot) : Option (UpstreamCached Snapshot) :=
  world.getWithin policy.ttl

def getStaleWithinGrace (world : UpstreamWorld Snapshot) : Option (UpstreamCached Snapshot) :=
  world.getWithin (policy.ttl + policy.staleGrace)

def setPhase (world : UpstreamWorld Snapshot) (call : Nat) (get : GetCall Snapshot)
    (phase : GetPhase Snapshot) : UpstreamWorld Snapshot :=
  { world with calls := Function.update world.calls call (some { get with phase }) }

def release (world : UpstreamWorld Snapshot) (call : Nat) : UpstreamWorld Snapshot :=
  { world with refreshLock := if world.refreshLock = some call then none else world.refreshLock }

def begin (world : UpstreamWorld Snapshot) (call : Nat) : UpstreamWorld Snapshot :=
  world.setPhase call ⟨world.invalidated, .missed⟩
    (match world.getFresh policy with
    | some hit => .answered hit.value hit.began
    | none => .missed)

def recheck (world : UpstreamWorld Snapshot) (call : Nat) (get : GetCall Snapshot)
    (stale : Option (UpstreamCached Snapshot)) : UpstreamWorld Snapshot :=
  match world.getFresh policy with
  | some hit => (world.setPhase call get (.answered hit.value hit.began)).release call
  | none => world.setPhase call get (.missedAgain stale)

def setSnapshot (world : UpstreamWorld Snapshot) (value : Snapshot) (began : Nat) :
    UpstreamWorld Snapshot :=
  { world with state := some ⟨value, world.clock, began⟩ }

def finish (world : UpstreamWorld Snapshot) (call : Nat) (get : GetCall Snapshot)
    (stale : Option (UpstreamCached Snapshot)) (began : Nat) (result : Except String Snapshot) :
    UpstreamWorld Snapshot :=
  match result, stale with
  | .ok value, _ =>
    ((world.setSnapshot value began).setPhase call get (.answered value began)).release call
  | .error _, some stale =>
    (world.setPhase call get (.answered stale.value stale.began)).release call
  | .error error, none => (world.setPhase call get (.failed error)).release call

/-- One moment of one call, a configuration write, or an `invalidate` that follows one. A call
may be dropped wherever it waits, for the lock or for the database. -/
def step (world : UpstreamWorld Snapshot) :
    UpstreamAction Snapshot → Option (UpstreamWorld Snapshot)
  | .begin call => if (world.calls call).isSome then none else some (world.begin policy call)
  | .captureStale call => (world.calls call).bind fun get =>
    match get.phase with
    | .missed => some (world.setPhase call get (.waiting (world.getStaleWithinGrace policy)))
    | _ => none
  | .acquire call => (world.calls call).bind fun get =>
    match get.phase with
    | .waiting stale =>
      if world.refreshLock.isSome then none
      else some { world.setPhase call get (.locked stale) with refreshLock := some call }
    | _ => none
  | .recheck call => (world.calls call).bind fun get =>
    match get.phase with
    | .locked stale => some (world.recheck policy call get stale)
    | _ => none
  | .load call => (world.calls call).bind fun get =>
    match get.phase with
    | .missedAgain stale => some (world.setPhase call get (.loading stale world.writes))
    | _ => none
  | .finish call result => (world.calls call).bind fun get =>
    match get.phase with
    | .loading stale began => some (world.finish call get stale began result)
    | _ => none
  | .cancel call => (world.calls call).bind fun get =>
    match get.phase with
    | .waiting _ | .loading _ _ => some ((world.setPhase call get .cancelled).release call)
    | _ => none
  | .write => some { world with writes := world.writes + 1 }
  | .invalidate write =>
    if write ≤ world.writes then
      some { world with invalidated := max world.invalidated write, state := none }
    else none
  | .tick elapsed => some { world with clock := world.clock + elapsed }

abbrev Run := Execution (fun before action after => step policy before action = some after)
  (new : UpstreamWorld Snapshot)

def LockHeld (world : UpstreamWorld Snapshot) : Prop :=
  ∀ call, world.refreshLock = some call ↔ (world.calls call).any (·.phase.inside) = true

variable {policy} {world next : UpstreamWorld Snapshot} {call : Nat} {phase : GetPhase Snapshot}

theorem LockHeld.moved (held : world.LockHeld) {lock : Option Nat} (get : GetCall Snapshot)
    (own : lock = some call ↔ phase.inside = true)
    (others : ∀ other ≠ call, lock = some other ↔ world.refreshLock = some other) :
    LockHeld { world.setPhase call get phase with refreshLock := lock } := by
  intro other
  by_cases same : other = call
  · subst same
    simpa [setPhase] using own
  · simpa [setPhase, same] using (others other same).trans (held other)

theorem LockHeld.kept (held : world.LockHeld) (get : GetCall Snapshot)
    (same : (world.calls call).any (·.phase.inside) = phase.inside) :
    (world.setPhase call get phase).LockHeld :=
  held.moved get (same ▸ held call) fun _ _ => .rfl

theorem LockHeld.released (held : world.LockHeld) (get : GetCall Snapshot)
    (outside : phase.inside = false) : ((world.setPhase call get phase).release call).LockHeld := by
  refine held.moved get ?_ fun other ne => ?_
  · rw [outside]
    split <;> simp_all [setPhase]
  · split <;> simp_all [setPhase, Ne.symm ne]

theorem LockHeld.step {action : UpstreamAction Snapshot} (held : world.LockHeld)
    (taken : world.step policy action = some next) : next.LockHeld := by
  cases action with
  | begin call =>
    simp only [UpstreamWorld.step] at taken
    split at taken
    · cases taken
    rename_i fresh
    cases taken
    refine held.kept _ ?_
    cases world.getFresh policy <;> simp_all [GetPhase.inside]
  | captureStale call =>
    obtain ⟨get, active, taken⟩ := Option.bind_eq_some_iff.mp taken
    split at taken
    · rename_i phase
      cases taken
      exact held.kept _ (by rw [active, Option.any_some, phase]; rfl)
    · cases taken
  | acquire call =>
    obtain ⟨get, active, taken⟩ := Option.bind_eq_some_iff.mp taken
    split at taken
    · split at taken
      · cases taken
      rename_i free
      cases taken
      refine held.moved _ (by simp [GetPhase.inside]) fun other ne => ?_
      simp_all [Ne.symm ne]
    · cases taken
  | recheck call =>
    obtain ⟨get, active, taken⟩ := Option.bind_eq_some_iff.mp taken
    split at taken
    · rename_i phase
      cases taken
      unfold recheck
      split
      · exact held.released _ rfl
      · exact held.kept _ (by rw [active, Option.any_some, phase]; rfl)
    · cases taken
  | load call =>
    obtain ⟨get, active, taken⟩ := Option.bind_eq_some_iff.mp taken
    split at taken
    · rename_i phase
      cases taken
      exact held.kept _ (by rw [active, Option.any_some, phase]; rfl)
    · cases taken
  | finish call result =>
    obtain ⟨get, active, taken⟩ := Option.bind_eq_some_iff.mp taken
    split at taken
    · cases taken
      unfold finish
      split
      · exact @LockHeld.released _ (world.setSnapshot _ _) _ _ held _ rfl
      · exact held.released _ rfl
      · exact held.released _ rfl
    · cases taken
  | cancel call =>
    obtain ⟨get, active, taken⟩ := Option.bind_eq_some_iff.mp taken
    split at taken
    · cases taken
      exact held.released _ rfl
    · cases taken
      exact held.released _ rfl
    · cases taken
  | write =>
    cases taken
    exact held
  | invalidate write =>
    simp only [UpstreamWorld.step] at taken
    split at taken
    · cases taken
      exact held
    · cases taken
  | tick elapsed =>
    cases taken
    exact held

/-- In every run the refresh lock is held by the one call that rechecks or loads, also after
calls are dropped, and by nobody when there is none. -/
theorem run_lockHeld {history : List (Transition (UpstreamWorld Snapshot) (UpstreamAction Snapshot))}
    (run : Run policy history world) : world.LockHeld := by
  induction run with
  | start =>
    intro call
    simp [new]
  | next run taken ih => exact ih.step taken

/-- A call is dropped while it loads, and another acquires the lock. -/
theorem run_lockHeld_dropped :
    ∃ run, replay (step ⟨2000, 30000⟩) (new : UpstreamWorld Nat) ([.acquire 2, .captureStale 2,
      .begin 2, .cancel 1, .load 1, .recheck 1, .acquire 1, .captureStale 1, .begin 1]) = some run ∧
      run.2.LockHeld :=
  Exists.imp (fun _ replayed => ⟨replayed, run_lockHeld (replay_run replayed)⟩) ⟨_, rfl⟩

end UpstreamWorld

end CodexGate.Cache
