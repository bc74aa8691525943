import CodexGate.Cache.Upstream

namespace CodexGate.Cache

open Foundation

namespace UpstreamWorld

variable {Snapshot : Type} (policy : UpstreamCachePolicy)

/-- No call returns a snapshot whose load began before a write whose `invalidate` the call has
begun behind. -/
def ReadsWrites (world : UpstreamWorld Snapshot) : Prop :=
  ∀ call get value began, world.calls call = some get → get.phase = .answered value began →
    get.began ≤ began

def publishedAt (t : Transition (UpstreamWorld Snapshot) (UpstreamAction Snapshot)) : Option Nat :=
  match t.action with
  | .finish call (.ok _) => (t.before.calls call).bind fun get =>
    match get.phase with
    | .loading _ began => some began
    | _ => none
  | _ => none

/-- No `invalidate` has followed a write that was made since the published load began. -/
def PublishesCurrent (t : Transition (UpstreamWorld Snapshot) (UpstreamAction Snapshot)) : Prop :=
  ∀ began ∈ publishedAt t, t.before.invalidated ≤ began

instance (t : Transition (UpstreamWorld Snapshot) (UpstreamAction Snapshot)) :
    Decidable (PublishesCurrent t) :=
  inferInstanceAs (Decidable (∀ began ∈ publishedAt t, t.before.invalidated ≤ began))

def staleBegan (stale : Option (UpstreamCached Snapshot)) : Set Nat :=
  { began | stale.map UpstreamCached.began = some began }

def phaseBegan : GetPhase Snapshot → Set Nat
  | .waiting stale | .locked stale | .missedAgain stale => staleBegan stale
  | .loading stale began => insert began (staleBegan stale)
  | .answered _ began => { began }
  | .missed | .failed _ | .cancelled => ∅

def copies (world : UpstreamWorld Snapshot) : Copies Unit Nat where
  changes := world.writes
  floor := world.invalidated
  cached _ := world.state.map UpstreamCached.began
  began call := ((world.calls call).map GetCall.began).getD 0
  held call := ((world.calls call).map fun get => phaseBegan get.phase).getD ∅

theorem copies_release (world : UpstreamWorld Snapshot) (call : Nat) :
    copies (world.release call) = copies world := rfl

theorem copies_setPhase (world : UpstreamWorld Snapshot) (call : Nat) (get : GetCall Snapshot)
    (phase : GetPhase Snapshot) :
    copies (world.setPhase call get phase) =
      { (copies world).holding call (phaseBegan phase) with
        began := Function.update (copies world).began call get.began } := by
  unfold copies setPhase Copies.holding
  congr 1
  · exact Function.comp_update (fun found => (found.map GetCall.began).getD 0) world.calls call _
  · exact Function.comp_update (fun found => (found.map fun get => phaseBegan get.phase).getD ∅) world.calls call _

theorem copies_advance {world : UpstreamWorld Snapshot} {call : Nat} {get : GetCall Snapshot}
    (active : world.calls call = some get) (phase : GetPhase Snapshot) :
    copies (world.setPhase call get phase) = (copies world).holding call (phaseBegan phase) := by
  have began : (copies world).began call = get.began := by simp [copies, active]
  rw [copies_setPhase, ← began, Function.update_eq_self]
  rfl

theorem held_of_phase {world : UpstreamWorld Snapshot} {call : Nat} {get : GetCall Snapshot}
    (active : world.calls call = some get) :
    (copies world).held call = phaseBegan get.phase := by
  simp [copies, active]

theorem getWithin_inCache {world : UpstreamWorld Snapshot} {age : Nat}
    {hit : UpstreamCached Snapshot} (found : world.getWithin age = some hit) :
    (copies world).InCache hit.began := by
  unfold getWithin at found
  split at found
  · cases found
  · next entry there =>
    split at found
    · cases found
    · cases found
      exact ⟨(), by simp [copies, there]⟩

/-- Every moment is a step of a cache that publishes no old copy, as long as publications are
current. -/
theorem step_copies {world next : UpstreamWorld Snapshot} {action : UpstreamAction Snapshot}
    (taken : world.step policy action = some next)
    (current : PublishesCurrent ⟨world, action, next⟩) :
    Copies.Step (copies world) (copies next) := by
  cases action with
  | begin call =>
    simp only [step] at taken
    split at taken
    · cases taken
    · cases taken
      rw [begin, copies_setPhase]
      refine Copies.Step.begin call ?_
      intro stamp member
      cases hit : world.getFresh policy with
      | none =>
        rw [hit] at member
        cases member
      | some entry =>
        rw [hit] at member
        cases member
        exact getWithin_inCache hit
  | captureStale call =>
    obtain ⟨get, active, taken⟩ := Option.bind_eq_some_iff.mp taken
    split at taken
    · cases taken
      rw [copies_advance active]
      refine Copies.Step.hold call ?_
      intro stamp member
      obtain ⟨stale, captured, same⟩ := Option.map_eq_some_iff.mp member
      subst same
      exact .inr (.inl (getWithin_inCache captured))
    · cases taken
  | acquire call =>
    obtain ⟨get, active, taken⟩ := Option.bind_eq_some_iff.mp taken
    split at taken
    · next stale phase =>
      split at taken
      · cases taken
      · cases taken
        have advanced := copies_advance active (.locked stale)
        have held := held_of_phase active
        rw [phase] at held
        have kept : Copies.Step (copies world)
            ((copies world).holding call (phaseBegan (.locked stale))) :=
          .hold call fun stamp member => .inl (by rwa [held])
        rw [← advanced] at kept
        exact kept
    · cases taken
  | recheck call =>
    obtain ⟨get, active, taken⟩ := Option.bind_eq_some_iff.mp taken
    split at taken
    · next stale phase =>
      cases taken
      have held := held_of_phase active
      rw [phase] at held
      unfold recheck
      cases hit : world.getFresh policy with
      | none =>
        rw [copies_advance active]
        refine Copies.Step.hold call ?_
        intro stamp member
        exact .inl (by rwa [held])
      | some entry =>
        rw [copies_release, copies_advance active]
        refine Copies.Step.hold call ?_
        intro stamp member
        cases member
        exact .inr (.inl (getWithin_inCache hit))
    · cases taken
  | load call =>
    obtain ⟨get, active, taken⟩ := Option.bind_eq_some_iff.mp taken
    split at taken
    · next stale phase =>
      cases taken
      have held := held_of_phase active
      rw [phase] at held
      rw [copies_advance active]
      refine Copies.Step.hold call ?_
      intro stamp member
      rcases member with now | captured
      · exact .inr (.inr now)
      · exact .inl (by rwa [held])
    · cases taken
  | finish call result =>
    obtain ⟨get, active, taken⟩ := Option.bind_eq_some_iff.mp taken
    split at taken
    · next stale began phase =>
      cases taken
      have held := held_of_phase active
      rw [phase] at held
      unfold finish
      split
      · next value =>
        have owned : began ∈ (copies world).held call := by
          rw [held]
          exact Set.mem_insert _ _
        have fresh : world.invalidated ≤ began :=
          current began (by simp [publishedAt, active, phase])
        rw [copies_release, copies_advance (by exact active)]
        refine Copies.Step.publish call ?_ ?_
        · intro stamp member
          cases member
          exact owned
        · intro place stamp there
          cases there
          exact .inr ⟨owned, fresh⟩
      · next error stale =>
        rw [copies_release, copies_advance active]
        refine Copies.Step.hold call ?_
        intro stamp member
        cases member
        refine .inl ?_
        rw [held]
        exact Set.mem_insert_of_mem _ rfl
      · rw [copies_release, copies_advance active]
        refine Copies.Step.hold call ?_
        intro stamp member
        cases member
    · cases taken
  | cancel call =>
    obtain ⟨get, active, taken⟩ := Option.bind_eq_some_iff.mp taken
    have cancelled : next = (world.setPhase call get .cancelled).release call := by
      split at taken
      · exact (Option.some.inj taken).symm
      · exact (Option.some.inj taken).symm
      · cases taken
    rw [cancelled, copies_release, copies_advance active]
    refine Copies.Step.hold call ?_
    intro stamp member
    cases member
  | write =>
    cases taken
    exact Copies.Step.change
  | invalidate write =>
    simp only [step] at taken
    split at taken
    · next made =>
      cases taken
      exact Copies.Step.invalidate made
    · cases taken
  | tick elapsed =>
    cases taken
    exact Copies.Step.idle

theorem new_copies : Copies.Fresh (copies (new : UpstreamWorld Snapshot)) := by
  refine ⟨Nat.le_refl _, ?_, ?_, ?_⟩
  · intro place stamp there
    cases there
  · intro call
    exact Nat.le_refl _
  · intro call stamp member
    cases member

/-- A call that begins behind an `invalidate` returns no snapshot whose load began before the
write, in every run in which loads are published before an `invalidate` follows a write made
since they began. -/
theorem run_readsWrites {history : List (Transition (UpstreamWorld Snapshot)
      (UpstreamAction Snapshot))} {world : UpstreamWorld Snapshot}
    (run : Run policy history world) (current : ∀ t ∈ history, PublishesCurrent t) :
    ReadsWrites world := by
  have fresh : (∀ t ∈ history, PublishesCurrent t) → Copies.Fresh (copies world) := by
    refine run.invariant (P := fun history world => (∀ t ∈ history, PublishesCurrent t) →
      Copies.Fresh (copies world)) (fun _ => new_copies) ?_
    intro history before action after kept taken current
    have earlier := kept fun t member => current t (List.mem_cons_of_mem _ member)
    exact earlier.step (step_copies policy taken (current _ List.mem_cons_self))
  intro call get value began active phase
  have held := (fresh current).held call began (by
    rw [held_of_phase active, phase]
    rfl)
  simpa [copies, active] using held

def refresh (call snapshot : Nat) : List (UpstreamAction Nat) :=
  [.finish call (.ok snapshot), .load call, .recheck call, .acquire call, .captureStale call,
    .begin call]

theorem run_readsWrites_refreshed :
    ∃ run, replay (step ⟨2000, 30000⟩) new
        (refresh 2 1 ++ [.invalidate 1, .write] ++ refresh 1 0) = some run ∧ ReadsWrites run.2 :=
  ⟨(replay (step ⟨2000, 30000⟩) new
    (refresh 2 1 ++ [.invalidate 1, .write] ++ refresh 1 0)).get (by decide),
    (Option.some_get _).symm,
    run_readsWrites ⟨2000, 30000⟩ (replay_run (Option.some_get _).symm) (by decide)⟩

/-- A load that the write and its `invalidate` overtake is published behind them, and a call that
has waited for it returns it. -/
theorem run_readsWrites_fails :
    ∃ history, ∃ world : UpstreamWorld Nat,
      Run ⟨2000, 30000⟩ history world ∧ ¬ReadsWrites world := by
  have replayed : ∃ run, replay (step ⟨2000, 30000⟩) new
      ([.recheck 2, .acquire 2, .finish 1 (.ok 0), .captureStale 2, .begin 2, .invalidate 1,
        .write] ++ (refresh 1 0).tail) = some run ∧
      (run.2.calls 2).map (fun get => (get.began, get.phase)) = some (1, .answered 0 0) :=
    ⟨_, rfl, rfl⟩
  obtain ⟨⟨history, world⟩, replayed, second⟩ := replayed
  refine ⟨history, world, replay_run replayed, ?_⟩
  intro reads
  obtain ⟨get, active, same⟩ := Option.map_eq_some_iff.mp second
  have began : get.began = 1 := congrArg Prod.fst same
  have phase := congrArg Prod.snd same
  have recent := reads 2 get 0 0 active phase
  omega

end UpstreamWorld

end CodexGate.Cache
