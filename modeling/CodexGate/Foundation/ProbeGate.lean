import Mathlib.Algebra.Group.Nat.Defs
import Mathlib.Data.List.Basic
import Mathlib.Tactic.SplitIfs

namespace CodexGate.Foundation

/-- `wrapping_add(1).max(1)` on `u64`. -/
def nextCounter (n : Nat) : Nat := max ((n + 1) % 2 ^ 64) 1

theorem nextCounter_le (n : Nat) : nextCounter n ≤ n + 1 := by
  unfold nextCounter
  omega

theorem nextCounter_eq {n : Nat} (room : n + 1 < 2 ^ 64) : nextCounter n = n + 1 := by
  unfold nextCounter
  omega

theorem nextCounter_ne (n : Nat) : nextCounter n ≠ n := by
  unfold nextCounter
  omega

/-- The counters that decide whether the result of an attempt still counts: results carry the
    generation they were begun in, and in a recovery phase also the identity of the only probe. -/
structure ProbeGate where
  generation : Nat
  nextProbeId : Nat
  probeOwner : Option Nat
  deriving DecidableEq

structure AttemptToken where
  generation : Nat
  probeId : Option Nat
  deriving DecidableEq

namespace ProbeGate

def attemptTokenMatches (gate : ProbeGate) (token : AttemptToken) : Bool :=
  gate.generation == token.generation &&
    token.probeId.all fun probe => gate.probeOwner == some probe

/-- The gate after the release and whether this token held the probe. -/
def releaseProbeOwner (gate : ProbeGate) (token : AttemptToken) : ProbeGate × Bool :=
  if token.probeId.any fun probe => gate.probeOwner == some probe then
    ({ gate with probeOwner := none }, true)
  else (gate, false)

def advanceGeneration (gate : ProbeGate) : ProbeGate :=
  { gate with generation := nextCounter gate.generation, probeOwner := none }

def claimProbe (gate : ProbeGate) : ProbeGate :=
  { gate with
    nextProbeId := nextCounter gate.nextProbeId
    probeOwner := some (nextCounter gate.nextProbeId) }

theorem matches_iff (gate : ProbeGate) (token : AttemptToken) :
    gate.attemptTokenMatches token = true ↔
      gate.generation = token.generation ∧
        ∀ probe, token.probeId = some probe → gate.probeOwner = some probe := by
  cases probe : token.probeId <;> simp [attemptTokenMatches, probe]

@[simp] theorem releaseProbeOwner_generation (gate : ProbeGate) (token : AttemptToken) :
    (gate.releaseProbeOwner token).1.generation = gate.generation := by
  unfold releaseProbeOwner
  split <;> rfl

@[simp] theorem releaseProbeOwner_nextProbeId (gate : ProbeGate) (token : AttemptToken) :
    (gate.releaseProbeOwner token).1.nextProbeId = gate.nextProbeId := by
  unfold releaseProbeOwner
  split <;> rfl

theorem releaseProbeOwner_plain (gate : ProbeGate) (token : AttemptToken)
    (plain : token.probeId = none) : gate.releaseProbeOwner token = (gate, false) := by
  simp [releaseProbeOwner, plain]

theorem releaseProbeOwner_held (gate : ProbeGate) (token : AttemptToken) (probe : Nat)
    (held : token.probeId = some probe) (owned : gate.probeOwner = some probe) :
    gate.releaseProbeOwner token = ({ gate with probeOwner := none }, true) := by
  simp [releaseProbeOwner, held, owned]

theorem claimProbe_accepts (gate : ProbeGate) :
    gate.claimProbe.attemptTokenMatches ⟨gate.generation, some (nextCounter gate.nextProbeId)⟩ = true := by
  simp [attemptTokenMatches, claimProbe]

theorem claimProbe_released (gate : ProbeGate) (free : gate.probeOwner = none) :
    gate.claimProbe.releaseProbeOwner ⟨gate.generation, some (nextCounter gate.nextProbeId)⟩ =
      ({ gate with nextProbeId := nextCounter gate.nextProbeId }, true) := by
  rw [releaseProbeOwner_held _ _ (nextCounter gate.nextProbeId) rfl rfl]
  simp [claimProbe, ← free]

theorem releaseProbeOwner_owner (gate : ProbeGate) (token : AttemptToken) :
    (gate.releaseProbeOwner token).1.probeOwner = none ∨
      (gate.releaseProbeOwner token).1.probeOwner = gate.probeOwner := by
  unfold releaseProbeOwner
  split
  · exact .inl rfl
  · exact .inr rfl

theorem releaseProbeOwner_cases (gate : ProbeGate) (token : AttemptToken) :
    (∃ probe, token.probeId = some probe ∧ gate.probeOwner = some probe) ∨
      (gate.releaseProbeOwner token).1 = gate := by
  cases held : token.probeId with
  | none => exact .inr (by rw [gate.releaseProbeOwner_plain token held])
  | some probe =>
    by_cases owned : gate.probeOwner = some probe
    · exact .inl ⟨probe, rfl, owned⟩
    · exact .inr (by simp [releaseProbeOwner, held, owned])

theorem release_not_matches (gate : ProbeGate) (token : AttemptToken) (probe : Nat)
    (held : token.probeId = some probe) :
    (gate.releaseProbeOwner token).1.attemptTokenMatches token = false := by
  by_cases owned : gate.probeOwner = some probe
  · simp [releaseProbeOwner, attemptTokenMatches, held, owned]
  · simp [releaseProbeOwner, attemptTokenMatches, held, owned]

theorem advance_not_matches (gate : ProbeGate) (token : AttemptToken) (probe : Nat)
    (held : token.probeId = some probe) :
    gate.advanceGeneration.attemptTokenMatches token = false := by
  simp [attemptTokenMatches, advanceGeneration, held]

structure Sound (gate : ProbeGate) (tokens : List AttemptToken) : Prop where
  generations : ∀ token ∈ tokens, token.generation ≤ gate.generation
  probes : ∀ token ∈ tokens, ∀ probe, token.probeId = some probe → probe ≤ gate.nextProbeId
  owner : ∀ probe, gate.probeOwner = some probe → probe ≤ gate.nextProbeId
  distinct : tokens.Pairwise fun a b => a.probeId = b.probeId → a.probeId = none

variable {gate : ProbeGate} {tokens : List AttemptToken}

theorem Sound.sublist {fewer : List AttemptToken} (sound : gate.Sound tokens)
    (sub : fewer.Sublist tokens) : gate.Sound fewer where
  generations token member := sound.generations token (sub.subset member)
  probes token member := sound.probes token (sub.subset member)
  owner := sound.owner
  distinct := sound.distinct.sublist sub

theorem Sound.perm {other : List AttemptToken} (sound : gate.Sound tokens)
    (same : tokens.Perm other) : gate.Sound other where
  generations token member := sound.generations token (same.mem_iff.mpr member)
  probes token member := sound.probes token (same.mem_iff.mpr member)
  owner := sound.owner
  distinct := (same.pairwise_iff fun apart shared => shared.symm ▸ apart shared.symm).mp sound.distinct

theorem Sound.release (sound : gate.Sound tokens) (token : AttemptToken) :
    (gate.releaseProbeOwner token).1.Sound tokens where
  generations := by simpa using sound.generations
  probes := by simpa using sound.probes
  owner probe owned := by
    rcases gate.releaseProbeOwner_owner token with none | same
    · simp [none] at owned
    · simpa using sound.owner probe (same ▸ owned)
  distinct := sound.distinct

theorem Sound.advance (sound : gate.Sound tokens)
    (room : tokens ≠ [] → gate.generation + 1 < 2 ^ 64) : gate.advanceGeneration.Sound tokens where
  generations token member := by
    have grown := nextCounter_eq (room (List.ne_nil_of_mem member))
    have bound := sound.generations token member
    simp only [advanceGeneration, grown]
    omega
  probes := sound.probes
  owner probe owned := by simp [advanceGeneration] at owned
  distinct := sound.distinct

theorem Sound.issue (sound : gate.Sound tokens) :
    gate.Sound (⟨gate.generation, none⟩ :: tokens) where
  generations := by
    intro token member
    rcases List.mem_cons.mp member with rfl | member
    · exact Nat.le_refl _
    · exact sound.generations token member
  probes := by
    intro token member probe held
    rcases List.mem_cons.mp member with rfl | member
    · cases held
    · exact sound.probes token member probe held
  owner := sound.owner
  distinct := List.pairwise_cons.mpr ⟨fun _ _ _ => rfl, sound.distinct⟩

theorem Sound.claim (sound : gate.Sound tokens) (room : gate.nextProbeId + 1 < 2 ^ 64) :
    gate.claimProbe.Sound (⟨gate.generation, some (nextCounter gate.nextProbeId)⟩ :: tokens) where
  generations := by
    intro token member
    rcases List.mem_cons.mp member with rfl | member
    · exact Nat.le_refl _
    · exact sound.generations token member
  probes := by
    intro token member probe held
    simp only [claimProbe, nextCounter_eq room]
    rcases List.mem_cons.mp member with rfl | member
    · simp only [nextCounter_eq room, Option.some.injEq] at held
      omega
    · have bound := sound.probes token member probe held
      omega
  owner probe owned := by
    simp only [claimProbe, Option.some.injEq] at owned ⊢
    omega
  distinct := by
    refine List.pairwise_cons.mpr ⟨fun token member same => ?_, sound.distinct⟩
    have bound := sound.probes token member _ same.symm
    rw [nextCounter_eq room] at bound
    omega

theorem Sound.count_probe (sound : gate.Sound tokens) (probe : Nat) :
    tokens.countP (fun token => token.probeId == some probe) ≤ 1 := by
  have apart := sound.distinct
  clear sound
  induction tokens with
  | nil => simp
  | cons token rest ih =>
    obtain ⟨first, apart⟩ := List.pairwise_cons.mp apart
    by_cases held : token.probeId = some probe
    · have others : rest.countP (fun token => token.probeId == some probe) = 0 := by
        apply List.countP_eq_zero.mpr
        intro other member same
        have clash := first other member (held.trans (beq_iff_eq.mp same).symm)
        rw [held] at clash
        cases clash
      simp [held, others]
    · simpa [held] using ih apart

theorem Sound.current_probe_unique (sound : gate.Sound tokens) {i j : Nat} {a b : AttemptToken}
    (left : tokens[i]? = some a) (right : tokens[j]? = some b)
    (probeA : a.probeId.isSome) (probeB : b.probeId.isSome)
    (currentA : gate.attemptTokenMatches a = true) (currentB : gate.attemptTokenMatches b = true) :
    i = j := by
  obtain ⟨p, hp⟩ := Option.isSome_iff_exists.mp probeA
  obtain ⟨q, hq⟩ := Option.isSome_iff_exists.mp probeB
  have ownerA := ((gate.matches_iff a).mp currentA).2 p hp
  have ownerB := ((gate.matches_iff b).mp currentB).2 q hq
  have same : p = q := Option.some.inj (ownerA.symm.trans ownerB)
  subst same
  have apart := List.pairwise_iff_getElem.mp sound.distinct
  obtain ⟨hi, atI⟩ := List.getElem?_eq_some_iff.mp left
  obtain ⟨hj, atJ⟩ := List.getElem?_eq_some_iff.mp right
  rcases Nat.lt_trichotomy i j with less | same | less
  · have clash := apart i j hi hj less
    simp [atI, atJ, hp, hq] at clash
  · exact same
  · have clash := apart j i hj hi less
    simp [atI, atJ, hp, hq] at clash

end ProbeGate

end CodexGate.Foundation
