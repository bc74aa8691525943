import Mathlib.Data.Set.Insert
import Mathlib.Logic.Function.Basic

namespace CodexGate.Foundation

/-- Copies of an original that changes, in a cache with places `κ` and in the hands of calls `ι`.
A copy is known by the number of changes that its original had seen when the copy was begun. -/
structure Copies (κ ι : Type) where
  changes : Nat
  /-- The latest change that an invalidation of the cache has followed. -/
  floor : Nat
  cached : κ → Option Nat
  /-- Where the floor was when the call began. -/
  began : ι → Nat
  held : ι → Set Nat

namespace Copies

variable {κ ι : Type}

def InCache (copies : Copies κ ι) (stamp : Nat) : Prop :=
  ∃ place, copies.cached place = some stamp

variable [DecidableEq ι]

def holding (copies : Copies κ ι) (call : ι) (stamps : Set Nat) : Copies κ ι :=
  { copies with held := Function.update copies.held call stamps }

def beginning (copies : Copies κ ι) (call : ι) (stamps : Set Nat) : Copies κ ι :=
  { copies.holding call stamps with
    began := Function.update copies.began call copies.floor }

/-- The steps of a cache in which no copy is published that is older than the floor. -/
inductive Step (copies : Copies κ ι) : Copies κ ι → Prop
  | idle : Step copies copies
  | change : Step copies { copies with changes := copies.changes + 1 }
  | invalidate {change : Nat} (made : change ≤ copies.changes) :
    Step copies { copies with floor := max copies.floor change, cached := fun _ => none }
  | begin (call : ι) {stamps : Set Nat} (sources : ∀ stamp ∈ stamps, copies.InCache stamp) :
    Step copies (copies.beginning call stamps)
  | hold (call : ι) {stamps : Set Nat}
    (sources : ∀ stamp ∈ stamps, stamp ∈ copies.held call ∨ copies.InCache stamp ∨
      stamp = copies.changes) :
    Step copies (copies.holding call stamps)
  | publish (call : ι) {stamps : Set Nat} {cached : κ → Option Nat}
    (kept : stamps ⊆ copies.held call)
    (places : ∀ place stamp, cached place = some stamp →
      copies.cached place = some stamp ∨ stamp ∈ copies.held call ∧ copies.floor ≤ stamp) :
    Step copies { copies.holding call stamps with cached }

structure Fresh (copies : Copies κ ι) : Prop where
  made : copies.floor ≤ copies.changes
  cached : ∀ place stamp, copies.cached place = some stamp → copies.floor ≤ stamp
  began : ∀ call, copies.began call ≤ copies.floor
  held : ∀ call, ∀ stamp ∈ copies.held call, copies.began call ≤ stamp

omit [DecidableEq ι] in
theorem Fresh.inCache {copies : Copies κ ι} (fresh : Fresh copies) {stamp : Nat}
    (inCache : copies.InCache stamp) : copies.floor ≤ stamp := by
  obtain ⟨place, there⟩ := inCache
  exact fresh.cached place stamp there

theorem Fresh.holding {copies : Copies κ ι} (fresh : Fresh copies) (call : ι) {stamps : Set Nat}
    (recent : ∀ stamp ∈ stamps, copies.began call ≤ stamp) :
    Fresh (copies.holding call stamps) := by
  refine ⟨fresh.made, fresh.cached, fresh.began, ?_⟩
  intro other stamp member
  by_cases same : other = call
  · subst same
    simp only [Copies.holding, Function.update_self] at member
    exact recent stamp member
  · simp only [Copies.holding, Function.update_of_ne same] at member
    exact fresh.held other stamp member

theorem Fresh.step {copies next : Copies κ ι} (fresh : Fresh copies)
    (taken : Step copies next) : Fresh next := by
  cases taken with
  | idle => exact fresh
  | change => exact ⟨fresh.made.trans (Nat.le_succ _), fresh.cached, fresh.began, fresh.held⟩
  | invalidate made =>
    refine ⟨Nat.max_le.mpr ⟨fresh.made, made⟩, ?_, ?_, fresh.held⟩
    · intro place stamp there
      cases there
    · intro call
      exact (fresh.began call).trans (Nat.le_max_left _ _)
  | begin call sources =>
    have holds := fresh.holding call fun stamp member =>
      (fresh.began call).trans (fresh.inCache (sources stamp member))
    refine ⟨holds.made, holds.cached, ?_, ?_⟩
    · intro other
      by_cases same : other = call
      · subst same
        simp [Copies.beginning, Copies.holding]
      · simp only [Copies.beginning, Copies.holding, Function.update_of_ne same]
        exact fresh.began other
    · intro other stamp member
      by_cases same : other = call
      · subst same
        simp only [Copies.beginning, Copies.holding, Function.update_self] at member ⊢
        exact fresh.inCache (sources stamp member)
      · simp only [Copies.beginning, Copies.holding, Function.update_of_ne same] at member ⊢
        exact fresh.held other stamp member
  | hold call sources =>
    apply fresh.holding
    intro stamp member
    rcases sources stamp member with before | inCache | now
    · exact fresh.held call stamp before
    · exact (fresh.began call).trans (fresh.inCache inCache)
    · rw [now]
      exact (fresh.began call).trans fresh.made
  | publish call kept places =>
    have holds := fresh.holding call fun stamp member => fresh.held call stamp (kept member)
    refine ⟨holds.made, ?_, holds.began, holds.held⟩
    intro place stamp there
    rcases places place stamp there with before | ⟨_, current⟩
    · exact fresh.cached place stamp before
    · exact current

end Copies

end CodexGate.Foundation
