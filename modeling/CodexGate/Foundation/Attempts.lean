import CodexGate.Foundation.ProbeGate

namespace CodexGate.Foundation

structure HeldToken where
  born : Nat
  token : AttemptToken
  deriving DecidableEq

/-- A circuit breaker seen from the attempts that run through it. A breaker without a deadline is
    closed; one with a deadline admits nothing until then and afterwards one probe at a time. -/
structure AttemptPool where
  gate : ProbeGate
  deadline : Option Int
  held : List HeldToken
  clock : Int
  steps : Nat

namespace AttemptPool

def tokens (pool : AttemptPool) : List AttemptToken := pool.held.map (·.token)

/-- Everything an operation can do to the pool. `recovery` is the cause that an operation needs to
    start a new generation without leaving a deadline. -/
inductive Effect (recovery : Prop) (pool next : AttemptPool) : Prop
  | kept (fewer : next.held.Sublist pool.held) (gate : next.gate = pool.gate)
      (deadline : next.deadline = pool.deadline)
  | released (attempt : HeldToken) (spent : pool.held.Perm (attempt :: next.held))
      (gate : next.gate = (pool.gate.releaseProbeOwner attempt.token).1)
      (deadline : next.deadline = pool.deadline)
  | advanced (token : AttemptToken) (fewer : next.held.Sublist pool.held)
      (gate : next.gate = pool.gate.advanceGeneration ∨
        next.gate = (pool.gate.releaseProbeOwner token).1.advanceGeneration)
      (cause : next.deadline.isSome ∨ recovery)
  | issued (held : next.held = ⟨pool.steps, ⟨pool.gate.generation, none⟩⟩ :: pool.held)
      (closed : pool.deadline = none) (gate : next.gate = pool.gate)
      (deadline : next.deadline = pool.deadline)
  | probed (held : next.held = ⟨pool.steps, ⟨pool.gate.generation,
        some (nextCounter pool.gate.nextProbeId)⟩⟩ :: pool.held)
      (elapsed : ∃ untilMs, pool.deadline = some untilMs ∧ untilMs ≤ next.clock)
      (free : pool.gate.probeOwner = none) (gate : next.gate = pool.gate.claimProbe)
      (deadline : next.deadline = pool.deadline)

/-- One operation: it counts as a step and does not turn the clock back. -/
structure Step (recovery : Prop) (pool next : AttemptPool) : Prop where
  steps : next.steps = pool.steps + 1
  later : pool.clock ≤ next.clock
  effect : Effect recovery pool next

/-- The two bounds by `steps` are why no counter wraps within `2 ^ 64` steps: the advance of a
    generation and the begin of an attempt are different steps. -/
structure Inv (pool : AttemptPool) : Prop where
  sound : pool.gate.Sound pool.tokens
  bornBefore : ∀ attempt ∈ pool.held, attempt.born < pool.steps
  generation : pool.gate.generation ≤ pool.steps + 1
  begunGeneration : pool.held ≠ [] → pool.gate.generation ≤ pool.steps
  probeId : pool.gate.nextProbeId ≤ pool.steps
  plainClosed : ∀ attempt ∈ pool.held, attempt.token.probeId = none →
    attempt.token.generation = pool.gate.generation → pool.deadline = none
  probeCooling : ∀ attempt ∈ pool.held, attempt.token.probeId.isSome →
    attempt.token.generation = pool.gate.generation →
    ∃ untilMs, pool.deadline = some untilMs ∧ untilMs ≤ pool.clock
  live : ∀ attempt ∈ pool.held, ∀ probe, attempt.token.probeId = some probe →
    attempt.token.generation = pool.gate.generation → pool.gate.probeOwner = some probe

variable {recovery : Prop} {pool next : AttemptPool}

theorem Inv.keep (inv : pool.Inv) (steps : next.steps = pool.steps + 1)
    (later : pool.clock ≤ next.clock) (sound : next.gate.Sound next.tokens)
    (fewer : next.held ⊆ pool.held) (generation : next.gate.generation = pool.gate.generation)
    (probeId : next.gate.nextProbeId = pool.gate.nextProbeId)
    (deadline : next.deadline = pool.deadline)
    (live : ∀ attempt ∈ next.held, ∀ probe, attempt.token.probeId = some probe →
      attempt.token.generation = next.gate.generation → next.gate.probeOwner = some probe) :
    next.Inv := by
  have bound := inv.generation
  have probeBound := inv.probeId
  refine ⟨sound, ?_, by omega, ?_, by omega, ?_, ?_, live⟩
  · intro attempt member
    have before := inv.bornBefore _ (fewer member)
    omega
  · intro _
    omega
  · intro attempt member plain same
    rw [deadline]
    exact inv.plainClosed _ (fewer member) plain (generation ▸ same)
  · intro attempt member probing same
    obtain ⟨untilMs, cooling, elapsed⟩ :=
      inv.probeCooling _ (fewer member) probing (generation ▸ same)
    exact ⟨untilMs, deadline ▸ cooling, Int.le_trans elapsed later⟩

theorem Inv.tokens_perm {attempt : HeldToken} {rest : List HeldToken} (inv : pool.Inv)
    (spent : pool.held.Perm (attempt :: rest)) :
    pool.gate.Sound (attempt.token :: rest.map (·.token)) :=
  inv.sound.perm (spent.map _)

theorem Inv.only_probe {attempt : HeldToken} {rest : List HeldToken} {probe : Nat}
    (inv : pool.Inv) (spent : pool.held.Perm (attempt :: rest))
    (probing : attempt.token.probeId = some probe) (owned : pool.gate.probeOwner = some probe)
    {other : HeldToken} (member : other ∈ rest)
    (same : other.token.generation = pool.gate.generation) : other.token.probeId = none := by
  cases probingOther : other.token.probeId with
  | none => rfl
  | some second =>
    have ownerOther := inv.live other (spent.mem_iff.mpr (List.mem_cons_of_mem _ member)) second
      probingOther same
    have shared : probe = second := Option.some.inj (owned.symm.trans ownerOther)
    have apart := (List.pairwise_cons.mp (inv.tokens_perm spent).distinct).1 other.token
      (List.mem_map_of_mem member)
    have clash := apart (by rw [probing, probingOther, shared])
    rw [probing] at clash
    cases clash

theorem Inv.release (inv : pool.Inv) (attempt : HeldToken) (steps : next.steps = pool.steps + 1)
    (later : pool.clock ≤ next.clock) (spent : pool.held.Perm (attempt :: next.held))
    (gate : next.gate = (pool.gate.releaseProbeOwner attempt.token).1)
    (deadline : next.deadline = pool.deadline) : next.Inv := by
  have fewer : next.held ⊆ pool.held :=
    fun _ member => spent.mem_iff.mpr (List.mem_cons_of_mem _ member)
  have generation : next.gate.generation = pool.gate.generation := by simp [gate]
  have sound : next.gate.Sound next.tokens := by
    rw [gate]
    exact ((inv.tokens_perm spent).sublist (List.sublist_cons_self _ _)).release attempt.token
  refine inv.keep steps later sound fewer generation (by simp [gate]) deadline ?_
  intro other member probe probing same
  have owner := inv.live other (fewer member) probe probing (generation ▸ same)
  rw [gate]
  rcases pool.gate.releaseProbeOwner_cases attempt.token with ⟨mine, held, owned⟩ | kept
  · have none := inv.only_probe spent held owned member (generation ▸ same)
    rw [probing] at none
    cases none
  · rw [kept]
    exact owner

theorem Inv.advance (inv : pool.Inv) (token : AttemptToken) (steps : next.steps = pool.steps + 1)
    (room : next.steps < 2 ^ 64) (fewer : next.held.Sublist pool.held)
    (gate : next.gate = pool.gate.advanceGeneration ∨
      next.gate = (pool.gate.releaseProbeOwner token).1.advanceGeneration) :
    next.Inv ∧ ∀ attempt ∈ next.held, attempt.token.generation < next.gate.generation := by
  have begun : next.held ≠ [] → pool.held ≠ [] := by
    intro some none
    rw [none] at fewer
    exact some (List.sublist_nil.mp fewer)
  have generation : next.gate.generation = nextCounter pool.gate.generation := by
    rcases gate with gate | gate <;> simp [gate, ProbeGate.advanceGeneration]
  have probe : next.gate.nextProbeId = pool.gate.nextProbeId := by
    rcases gate with gate | gate <;> simp [gate, ProbeGate.advanceGeneration]
  have free : pool.held ≠ [] → pool.gate.generation + 1 < 2 ^ 64 := by
    intro some
    have bound := inv.begunGeneration some
    omega
  have sound : next.gate.Sound pool.tokens := by
    have free : pool.tokens ≠ [] → pool.gate.generation + 1 < 2 ^ 64 := by
      intro some
      exact free (by simpa [tokens] using some)
    rcases gate with gate | gate
    · rw [gate]; exact inv.sound.advance free
    · rw [gate]; exact (inv.sound.release token).advance (by simpa using free)
  have stale : ∀ attempt ∈ next.held, attempt.token.generation < next.gate.generation := by
    intro attempt member
    have present := fewer.subset member
    have bound := inv.sound.generations attempt.token (List.mem_map_of_mem present)
    have grown := nextCounter_eq (free (List.ne_nil_of_mem present))
    omega
  have bound := inv.generation
  have probeBound := inv.probeId
  have grown := nextCounter_le pool.gate.generation
  refine ⟨⟨sound.sublist (fewer.map _), ?_, by omega, ?_, by omega, ?_, ?_, ?_⟩, stale⟩
  · intro attempt member
    have before := inv.bornBefore _ (fewer.subset member)
    omega
  · intro some
    have bound := inv.begunGeneration (begun some)
    omega
  · intro attempt member _ same
    have old := stale attempt member
    omega
  · intro attempt member _ same
    have old := stale attempt member
    omega
  · intro attempt member _ _ same
    have old := stale attempt member
    omega

theorem Inv.issue (inv : pool.Inv) (steps : next.steps = pool.steps + 1)
    (later : pool.clock ≤ next.clock)
    (held : next.held = ⟨pool.steps, ⟨pool.gate.generation, none⟩⟩ :: pool.held)
    (closed : pool.deadline = none) (gate : next.gate = pool.gate)
    (deadline : next.deadline = pool.deadline) : next.Inv := by
  have bound := inv.generation
  have probeBound := inv.probeId
  refine ⟨?_, ?_, ?_, ?_, ?_, ?_, ?_, ?_⟩ <;>
    simp only [tokens, held, List.map_cons, gate, deadline, steps]
  · exact inv.sound.issue
  · intro attempt member
    rcases List.mem_cons.mp member with rfl | member
    · exact Nat.lt_succ_self _
    · exact Nat.lt_succ_of_lt (inv.bornBefore _ member)
  · omega
  · intro _
    omega
  · omega
  · intro _ _ _ _
    exact closed
  · intro attempt member probing current
    rcases List.mem_cons.mp member with rfl | member
    · cases probing
    · obtain ⟨untilMs, cooling, elapsed⟩ := inv.probeCooling _ member probing current
      exact ⟨untilMs, cooling, Int.le_trans elapsed later⟩
  · intro attempt member probe probing current
    rcases List.mem_cons.mp member with rfl | member
    · cases probing
    · exact inv.live _ member probe probing current

theorem Inv.probe (inv : pool.Inv) (steps : next.steps = pool.steps + 1)
    (room : next.steps < 2 ^ 64)
    (held : next.held = ⟨pool.steps, ⟨pool.gate.generation,
      some (nextCounter pool.gate.nextProbeId)⟩⟩ :: pool.held)
    (elapsed : ∃ untilMs, pool.deadline = some untilMs ∧ untilMs ≤ next.clock)
    (free : pool.gate.probeOwner = none) (gate : next.gate = pool.gate.claimProbe)
    (deadline : next.deadline = pool.deadline) : next.Inv := by
  have bound := inv.generation
  have probeBound := inv.probeId
  have grown := nextCounter_le pool.gate.nextProbeId
  have generation : next.gate.generation = pool.gate.generation := by rw [gate]; rfl
  have probeId : next.gate.nextProbeId = nextCounter pool.gate.nextProbeId := by rw [gate]; rfl
  refine ⟨?_, ?_, by omega, ?_, by omega, ?_, ?_, ?_⟩
  · simp only [tokens, held, List.map_cons, gate]
    exact inv.sound.claim (by omega)
  · rw [held, steps]
    intro attempt member
    rcases List.mem_cons.mp member with rfl | member
    · exact Nat.lt_succ_self _
    · exact Nat.lt_succ_of_lt (inv.bornBefore _ member)
  · intro _
    omega
  · rw [held, deadline, generation]
    intro attempt member plain current
    rcases List.mem_cons.mp member with rfl | member
    · cases plain
    · exact inv.plainClosed _ member plain current
  · rw [deadline]
    intro _ _ _ _
    exact elapsed
  · rw [held, generation]
    intro attempt member probe probing current
    rcases List.mem_cons.mp member with rfl | member
    · rw [gate, ← probing]
      rfl
    · have owned := inv.live _ member probe probing current
      rw [free] at owned
      cases owned

theorem Inv.step (inv : pool.Inv) (taken : Step recovery pool next) (room : next.steps < 2 ^ 64) :
    next.Inv := by
  obtain ⟨steps, later, effect⟩ := taken
  cases effect with
  | kept fewer gate deadline =>
    have sound : next.gate.Sound next.tokens := by
      rw [gate]
      exact inv.sound.sublist (fewer.map _)
    refine inv.keep steps later sound fewer.subset (by rw [gate]) (by rw [gate]) deadline ?_
    rw [gate]
    exact fun attempt member => inv.live attempt (fewer.subset member)
  | released attempt spent gate deadline => exact inv.release attempt steps later spent gate deadline
  | advanced token fewer gate _ => exact (inv.advance token steps room fewer gate).1
  | issued held closed gate deadline => exact inv.issue steps later held closed gate deadline
  | probed held elapsed free gate deadline => exact inv.probe steps room held elapsed free gate deadline

/-- An unfinished attempt is stale, or runs plainly through a closed breaker, or is the probe of a
    breaker whose deadline has passed. -/
theorem Inv.standing (inv : pool.Inv) {attempt : HeldToken} (member : attempt ∈ pool.held) :
    (attempt.token.generation ≠ pool.gate.generation ∧
      pool.gate.attemptTokenMatches attempt.token = false) ∨
    (attempt.token.generation = pool.gate.generation ∧
      pool.gate.attemptTokenMatches attempt.token = true ∧
      attempt.token.probeId = none ∧ pool.deadline = none) ∨
    (attempt.token.generation = pool.gate.generation ∧
      pool.gate.attemptTokenMatches attempt.token = true ∧
      (∃ probe, attempt.token.probeId = some probe ∧ pool.gate.probeOwner = some probe) ∧
      ∃ untilMs, pool.deadline = some untilMs ∧ untilMs ≤ pool.clock) := by
  by_cases same : attempt.token.generation = pool.gate.generation
  · cases probing : attempt.token.probeId with
    | none =>
      have current := (pool.gate.matches_iff attempt.token).mpr ⟨same.symm, by simp [probing]⟩
      exact .inr (.inl ⟨same, current, rfl, inv.plainClosed attempt member probing same⟩)
    | some probe =>
      have owned := inv.live attempt member probe probing same
      have current := (pool.gate.matches_iff attempt.token).mpr ⟨same.symm, by simp [probing, owned]⟩
      have cooling := inv.probeCooling attempt member (by simp [probing]) same
      exact .inr (.inr ⟨same, current, ⟨probe, rfl, owned⟩, cooling⟩)
  · refine .inl ⟨same, Bool.eq_false_iff.mpr fun current => ?_⟩
    exact same ((pool.gate.matches_iff attempt.token).mp current).1.symm

/-- Attempts begun up to step `mark` belong to a generation that has ended. -/
def Retired (mark : Nat) (pool : AttemptPool) : Prop :=
  ∀ attempt ∈ pool.held, attempt.born ≤ mark → attempt.token.generation < pool.gate.generation

theorem Retired.not_matches {mark : Nat} (retired : pool.Retired mark) {attempt : HeldToken}
    (member : attempt ∈ pool.held) (old : attempt.born ≤ mark) :
    pool.gate.attemptTokenMatches attempt.token = false := by
  have past := retired attempt member old
  refine Bool.eq_false_iff.mpr fun current => ?_
  have same := ((pool.gate.matches_iff attempt.token).mp current).1
  omega

theorem Retired.step {mark : Nat} (retired : pool.Retired mark) (reached : mark < pool.steps)
    (inv : pool.Inv) (taken : Step recovery pool next) (room : next.steps < 2 ^ 64) :
    next.Retired mark := by
  obtain ⟨steps, later, effect⟩ := taken
  cases effect with
  | kept fewer gate _ =>
    intro attempt member old
    rw [gate]
    exact retired attempt (fewer.subset member) old
  | released spentAttempt spent gate _ =>
    intro attempt member old
    have present := spent.mem_iff.mpr (List.mem_cons_of_mem _ member)
    simpa [gate] using retired attempt present old
  | advanced token fewer gate _ =>
    intro attempt member _
    exact (inv.advance token steps room fewer gate).2 attempt member
  | issued held _ gate _ =>
    intro attempt member old
    rw [held] at member
    rw [gate]
    rcases List.mem_cons.mp member with rfl | member
    · exact absurd old (by simpa using reached)
    · exact retired attempt member old
  | probed held _ _ gate _ =>
    intro attempt member old
    rw [held] at member
    have generation : next.gate.generation = pool.gate.generation := by rw [gate]; rfl
    rw [generation]
    rcases List.mem_cons.mp member with rfl | member
    · exact absurd old (by simpa using reached)
    · exact retired attempt member old

theorem Step.generation_cases (taken : Step recovery pool next) :
    next.gate.generation = pool.gate.generation ∨
      (next.gate = pool.gate.advanceGeneration ∨
        ∃ token, next.gate = (pool.gate.releaseProbeOwner token).1.advanceGeneration) ∧
      next.held.Sublist pool.held := by
  cases taken.effect with
  | kept _ gate _ | issued _ _ gate _ => exact .inl (by rw [gate])
  | released attempt _ gate _ => exact .inl (by simp [gate])
  | probed _ _ _ gate _ => exact .inl (by rw [gate]; rfl)
  | advanced token fewer gate _ => exact .inr ⟨gate.imp_right fun gate => ⟨token, gate⟩, fewer⟩

theorem Step.retires (taken : Step recovery pool next) (inv : pool.Inv)
    (room : next.steps < 2 ^ 64) (changed : next.gate.generation ≠ pool.gate.generation) :
    next.Retired pool.steps := by
  obtain ⟨gate, fewer⟩ := taken.generation_cases.resolve_left changed
  intro attempt member _
  rcases gate with gate | ⟨token, gate⟩
  · exact (inv.advance ⟨0, none⟩ taken.steps room fewer (.inl gate)).2 attempt member
  · exact (inv.advance token taken.steps room fewer (.inr gate)).2 attempt member

theorem Step.keeps_deadline (taken : Step recovery pool next) (waiting : pool.deadline.isSome) :
    next.deadline.isSome ∨ recovery := by
  cases taken.effect with
  | kept _ _ deadline | released _ _ _ deadline => exact .inl (deadline ▸ waiting)
  | advanced _ _ _ cause => exact cause
  | issued _ _ _ deadline | probed _ _ _ _ deadline => exact .inl (deadline ▸ waiting)

end AttemptPool

end CodexGate.Foundation
