import CodexGate.Provider.Breaker

namespace CodexGate.Provider

open Foundation Health

abbrev BreakerHistory := List (Transition BreakerRun BreakerAction)

section Histories

variable (providerId : Int)

/-- The failures of the current generation since its last success. A change of generation by an
    opening, a recovery or a reset starts the count anew. -/
def accumulatedFailures : BreakerHistory → Nat
  | [] => 0
  | t :: earlier =>
    if (t.after.book.entry providerId).generation ≠ (t.before.book.entry providerId).generation then 0
    else if (currentSuccess providerId t).isSome then 0
    else if (currentFailure providerId t).isSome then accumulatedFailures earlier + 1
    else accumulatedFailures earlier

def Opens (t : Transition BreakerRun BreakerAction) : Prop :=
  (t.after.book.entry providerId).openUntilMs.isSome ∧
    ((t.before.book.entry providerId).openUntilMs = none ∨
      (t.after.book.entry providerId).generation ≠ (t.before.book.entry providerId).generation)

def Closes (t : Transition BreakerRun BreakerAction) : Prop :=
  (t.before.book.entry providerId).openUntilMs.isSome ∧
    (t.after.book.entry providerId).openUntilMs = none

/-- Neither a reset nor an opening nor a failure of the current generation. -/
def Undisturbed (t : Transition BreakerRun BreakerAction) : Prop :=
  t.action ≠ .reset ∧ ¬Opens providerId t ∧ currentFailure providerId t = none

/-- The current successes in a history that are of probes begun after step `mark`. -/
def probeSuccesses (mark : Nat) (history : BreakerHistory) : Nat :=
  history.countP fun t => (currentSuccess providerId t).any fun held =>
    mark < held.born && held.guard.token.probeId.isSome

def lastReset : BreakerHistory → Nat
  | [] => 0
  | ⟨_, .reset, _⟩ :: earlier => earlier.length + 1
  | _ :: earlier => lastReset earlier

end Histories

theorem lastReset_keep {t : Transition BreakerRun BreakerAction} (noReset : t.action ≠ .reset)
    (earlier : BreakerHistory) : lastReset (t :: earlier) = lastReset earlier := by
  obtain ⟨before, action, after⟩ := t
  cases action with
  | reset => exact absurd rfl noReset
  | _ => rfl

section Reports

variable {providerId : Int} {t : Transition BreakerRun BreakerAction} {held : HeldAttempt}

theorem currentSuccess_some (reported : currentSuccess providerId t = some held) :
    (∃ status latencyMs nowMs, t.action = .success held status latencyMs nowMs) ∧
      held.guard.token.generation = (t.before.book.entry providerId).generation := by
  unfold currentSuccess at reported
  split at reported
  · rename_i acted
    split at reported
    · rename_i same
      cases reported
      exact ⟨⟨_, _, _, acted⟩, same⟩
    · cases reported
  · cases reported

theorem probeSuccesses_other {mark : Nat} {history : BreakerHistory}
    (other : ∀ held, currentSuccess providerId t = some held → held.guard.token.probeId = none) :
    probeSuccesses providerId mark (t :: history) = probeSuccesses providerId mark history := by
  unfold probeSuccesses
  apply List.countP_cons_of_neg
  cases reported : currentSuccess providerId t with
  | none => simp
  | some held => simp [other held reported]

theorem currentFailure_some (reported : currentFailure providerId t = some held) :
    (∃ status errorType errorMessage nowMs,
      t.action = .failure held status errorType errorMessage nowMs) ∧
      held.guard.token.generation = (t.before.book.entry providerId).generation := by
  unfold currentFailure at reported
  split at reported
  · rename_i acted
    split at reported
    · rename_i same
      cases reported
      exact ⟨⟨_, _, _, _, acted⟩, same⟩
    · cases reported
  · cases reported

theorem currentSuccess_no_failure (reported : currentSuccess providerId t = some held) :
    currentFailure providerId t = none ∧ t.action ≠ .reset := by
  obtain ⟨⟨_, _, _, acted⟩, _⟩ := currentSuccess_some reported
  simp [currentFailure, acted]

theorem currentFailure_no_success (reported : currentFailure providerId t = some held) :
    currentSuccess providerId t = none ∧ t.action ≠ .reset := by
  obtain ⟨⟨_, _, _, _, acted⟩, _⟩ := currentFailure_some reported
  simp [currentSuccess, acted]

end Reports

/-- The history goes back to an opening after which nothing disturbed the recovery, and
    `successes` probes begun since then have succeeded. -/
def SinceOpening (providerId : Int) (history : BreakerHistory) (run : BreakerRun)
    (successes : Nat) : Prop :=
  ∃ recent opening earlier, history = recent ++ opening :: earlier ∧ Opens providerId opening ∧
    (∀ t ∈ recent, Undisturbed providerId t) ∧
    probeSuccesses providerId earlier.length recent = successes ∧
    (run.pool providerId).Retired earlier.length

structure TraceInv (provider : UpstreamProvider) (history : BreakerHistory) (run : BreakerRun) :
    Prop where
  inv : BreakerInv provider run
  steps : run.steps = history.length
  accumulated : (run.book.entry provider.id).openUntilMs = none →
    (run.book.entry provider.id).consecutiveFailures = accumulatedFailures provider.id history
  sinceOpening : (run.book.entry provider.id).openUntilMs.isSome →
    SinceOpening provider.id history run (run.book.entry provider.id).halfOpenSuccesses
  liveProbes : ∀ held ∈ run.outstanding, lastReset history ≤ held.born →
    held.guard.token.probeId.isSome →
    held.guard.token.generation = (run.book.entry provider.id).generation

section Steps

variable {provider : UpstreamProvider} {history : BreakerHistory} {run next : BreakerRun}
  {action : BreakerAction}

theorem TraceInv.fresh (provider : UpstreamProvider) (startMs : Int) :
    TraceInv provider [] (.fresh startMs) := by
  refine ⟨.fresh provider startMs, rfl, fun _ => ?_, fun waiting => ?_, fun _ member => ?_⟩
  · simp [BreakerRun.fresh, ProviderRuntimeBook.new, ProviderRuntimeBook.entry,
      ProviderRuntimeState.initial, accumulatedFailures]
  · simp [BreakerRun.fresh, ProviderRuntimeBook.new, ProviderRuntimeBook.entry,
      ProviderRuntimeState.initial] at waiting
  · cases member

theorem BreakerStep.success_member {held : HeldAttempt} {status latencyMs : Option Int} {nowMs : Int}
    (taken : BreakerStep provider run (.success held status latencyMs nowMs) next) :
    held ∈ run.outstanding ∧ (run.pool provider.id).held.Perm
      (held.held :: (next.pool provider.id).held) := by
  cases taken with
  | success later member => exact ⟨member, run.finish_spent member _ _⟩

theorem BreakerStep.failure_member {held : HeldAttempt} {status : Option Int}
    {errorType errorMessage : String} {nowMs : Int}
    (taken : BreakerStep provider run (.failure held status errorType errorMessage nowMs) next) :
    held ∈ run.outstanding ∧ (run.pool provider.id).held.Perm
      (held.held :: (next.pool provider.id).held) := by
  cases taken with
  | failure later member => exact ⟨member, run.finish_spent member _ _⟩

theorem begun_after {mark : Nat} (retired : (run.pool provider.id).Retired mark)
    (taken : BreakerStep provider run action next) {held : HeldAttempt}
    (reported : currentSuccess provider.id ⟨run, action, next⟩ = some held) : mark < held.born := by
  obtain ⟨⟨status, latencyMs, nowMs, acted⟩, same⟩ := currentSuccess_some reported
  simp only at acted
  subst acted
  refine Nat.lt_of_not_le fun old => ?_
  have past := retired held.held (held.mem_pool taken.success_member.1) old
  exact Nat.ne_of_lt past same

theorem opens_iff (enabled : provider.circuitBreakerEnabled = true)
    (trace : TraceInv provider history run) (taken : BreakerStep provider run action next) :
    Opens provider.id ⟨run, action, next⟩ ↔
      ∃ held, currentFailure provider.id ⟨run, action, next⟩ = some held ∧
        (held.guard.token.probeId.isSome ∨
          accumulatedFailures provider.id history + 1 =
            atLeastOne provider.circuitBreakerFailureThreshold) := by
  cases (taken.effects enabled trace.inv).2 with
  | quiet _ noFailure _ generation deadline _ _ =>
    simp only [Opens, noFailure, generation, deadline, ne_eq, not_true, or_false, reduceCtorEq,
      false_and, exists_false, iff_false, not_and]
    intro waiting closed
    rw [closed] at waiting
    cases waiting
  | plainSuccess held reported _ _ _ closed _ | recovered held reported _ _ _ closed _ _ =>
    simp [Opens, closed, (currentSuccess_no_failure reported).1]
  | probeSuccess held reported _ generation waiting deadline _ _ =>
    simp only [Opens, (currentSuccess_no_failure reported).1, generation, deadline, ne_eq, not_true,
      or_false, reduceCtorEq, false_and, exists_false, iff_false, not_and]
    intro _ closed
    rw [closed] at waiting
    cases waiting
  | counted held reported plain _ before closed failures short =>
    simp only [Opens, closed, reported, Option.isSome_none, Bool.false_eq_true, false_and,
      Option.some.injEq, exists_eq_left', plain, false_or, false_iff]
    rw [← trace.accumulated before, ← failures]
    exact Nat.ne_of_lt short
  | opened held reported generation cause opens _ =>
    have changed : Opens provider.id ⟨run, action, next⟩ :=
      ⟨opens, .inr (generation ▸ nextCounter_ne _)⟩
    refine ⟨fun _ => ⟨held, reported, ?_⟩, fun _ => changed⟩
    rcases cause with ⟨probing, _⟩ | ⟨_, closed, reached⟩
    · exact .inl probing
    · have below := trace.inv.counting closed
      rw [← trace.accumulated closed]
      exact .inr (by omega)
  | reset acted _ closed _ =>
    simp only at acted
    subst acted
    simp [Opens, closed, currentFailure]

theorem accumulated_step (enabled : provider.circuitBreakerEnabled = true)
    (trace : TraceInv provider history run) (taken : BreakerStep provider run action next)
    (stays : (next.book.entry provider.id).openUntilMs = none) :
    (next.book.entry provider.id).consecutiveFailures =
      accumulatedFailures provider.id (⟨run, action, next⟩ :: history) := by
  cases (taken.effects enabled trace.inv).2 with
  | quiet noSuccess noFailure _ generation deadline failures _ =>
    have known := trace.accumulated (deadline ▸ stays)
    simp [accumulatedFailures, generation, noSuccess, noFailure, failures, known]
  | plainSuccess held reported _ generation _ _ failures =>
    simp [accumulatedFailures, generation, reported, failures]
  | probeSuccess _ _ _ _ waiting deadline _ _ =>
    rw [← deadline, stays] at waiting
    cases waiting
  | recovered _ _ _ generation _ _ _ failures | reset _ generation _ failures =>
    simp [accumulatedFailures, generation, nextCounter_ne, failures]
  | counted held reported _ generation closed _ failures _ =>
    have known := trace.accumulated closed
    simp [accumulatedFailures, generation, reported, (currentFailure_no_success reported).1,
      failures, known]
  | opened _ _ _ _ opens _ =>
    rw [stays] at opens
    cases opens

theorem Undisturbed.of_quiet {t : Transition BreakerRun BreakerAction} (noReset : t.action ≠ .reset)
    (noFailure : currentFailure provider.id t = none)
    (generation : (t.after.book.entry provider.id).generation =
      (t.before.book.entry provider.id).generation)
    (waiting : (t.before.book.entry provider.id).openUntilMs.isSome) :
    Undisturbed provider.id t := by
  refine ⟨noReset, fun opens => ?_, noFailure⟩
  rcases opens.2 with closed | changed
  · rw [closed] at waiting
    cases waiting
  · exact changed generation

theorem SinceOpening.extend (more : Nat) {successes : Nat}
    (since : SinceOpening provider.id history run successes)
    (trace : TraceInv provider history run) (step : AttemptPool.Step True (run.pool provider.id)
      (next.pool provider.id)) (room : next.steps < 2 ^ 64)
    (calm : Undisturbed provider.id ⟨run, action, next⟩)
    (grown : ∀ mark recent, (run.pool provider.id).Retired mark →
      probeSuccesses provider.id mark (⟨run, action, next⟩ :: recent) =
        probeSuccesses provider.id mark recent + more) :
    SinceOpening provider.id (⟨run, action, next⟩ :: history) next (successes + more) := by
  obtain ⟨recent, opening, earlier, split, opens, calmBefore, counted, retired⟩ := since
  have reached : earlier.length < (run.pool provider.id).steps := by
    simp only [BreakerRun.pool, trace.steps, split, List.length_append, List.length_cons]
    omega
  refine ⟨⟨run, action, next⟩ :: recent, opening, earlier, by rw [split]; rfl, opens, ?_, ?_,
    retired.step reached trace.inv.pool step room⟩
  · intro t member
    rcases List.mem_cons.mp member with rfl | member
    · exact calm
    · exact calmBefore t member
  · rw [grown earlier.length recent retired, counted]

theorem sinceOpening_step (enabled : provider.circuitBreakerEnabled = true)
    (trace : TraceInv provider history run) (taken : BreakerStep provider run action next)
    (room : next.steps < 2 ^ 64)
    (waits : (next.book.entry provider.id).openUntilMs.isSome) :
    SinceOpening provider.id (⟨run, action, next⟩ :: history) next
      (next.book.entry provider.id).halfOpenSuccesses := by
  have step := taken.pool enabled trace.inv
  cases (taken.effects enabled trace.inv).2 with
  | quiet noSuccess noFailure noReset generation deadline _ successes =>
    have waiting := deadline ▸ waits
    rw [successes]
    apply (trace.sinceOpening waiting).extend 0 trace step room
    · exact .of_quiet noReset noFailure generation waiting
    · intro mark recent _
      exact probeSuccesses_other (by simp [noSuccess])
  | probeSuccess held reported probing generation waiting deadline successes _ =>
    obtain ⟨noFailure, noReset⟩ := currentSuccess_no_failure reported
    rw [successes]
    apply (trace.sinceOpening waiting).extend 1 trace step room
    · exact .of_quiet noReset noFailure generation waiting
    · intro mark recent retired
      have young := begun_after retired taken reported
      simp [probeSuccesses, reported, probing, young]
  | plainSuccess _ _ _ _ _ closed _ | recovered _ _ _ _ _ closed _ _
  | counted _ _ _ _ _ closed _ _ | reset _ _ closed _ =>
    rw [closed] at waits
    cases waits
  | opened held reported generation cause opens successes =>
    have changed : (next.pool provider.id).gate.generation ≠
        (run.pool provider.id).gate.generation := generation ▸ nextCounter_ne _
    have retired := step.retires trace.inv.pool room changed
    refine ⟨[], ⟨run, action, next⟩, history, rfl, ⟨opens, .inr changed⟩, ?_, ?_, ?_⟩
    · intro t member
      cases member
    · rw [successes]
      rfl
    · rw [← trace.steps]
      exact retired

theorem liveProbes_keep (trace : TraceInv provider history run)
    (effect : AttemptPool.Effect True (run.pool provider.id) (next.pool provider.id))
    (generation : (next.book.entry provider.id).generation = (run.book.entry provider.id).generation)
    {held : HeldAttempt} (member : held ∈ next.outstanding) (young : lastReset history ≤ held.born)
    (probing : held.guard.token.probeId.isSome) :
    held.guard.token.generation = (next.book.entry provider.id).generation := by
  have old : held.held ∈ (run.pool provider.id).held →
      held.guard.token.generation = (next.book.entry provider.id).generation := by
    intro present
    obtain ⟨other, memberOther, same⟩ := List.mem_map.mp present
    rw [HeldAttempt.held, HeldAttempt.held, HeldToken.mk.injEq] at same
    rw [← same.2] at probing ⊢
    exact (trace.liveProbes other memberOther (same.1 ▸ young) probing).trans generation.symm
  have here : held.held ∈ (next.pool provider.id).held := held.mem_pool member
  cases effect with
  | kept fewer _ _ => exact old (fewer.subset here)
  | released _ spent _ _ => exact old (spent.mem_iff.mpr (List.mem_cons_of_mem _ here))
  | advanced _ fewer _ _ => exact old (fewer.subset here)
  | issued grown _ _ _ | probed grown _ _ _ _ =>
    rw [grown] at here
    rcases List.mem_cons.mp here with same | present
    · rw [HeldAttempt.held, HeldToken.mk.injEq] at same
      rw [same.2]
      exact generation.symm
    · exact old present

theorem liveProbes_spent (trace : TraceInv provider history run) {attempt : HeldAttempt}
    (member : attempt ∈ run.outstanding)
    (spent : (run.pool provider.id).held.Perm (attempt.held :: (next.pool provider.id).held))
    (current : attempt.guard.token.generation = (run.book.entry provider.id).generation)
    (probing : attempt.guard.token.probeId.isSome) {held : HeldAttempt}
    (remains : held ∈ next.outstanding) (young : lastReset history ≤ held.born)
    (probe : held.guard.token.probeId.isSome) : False := by
  obtain ⟨probeId, isProbe⟩ := Option.isSome_iff_exists.mp probing
  have owned := trace.inv.pool.live attempt.held (attempt.mem_pool member) probeId isProbe current
  have here : held.held ∈ (next.pool provider.id).held := held.mem_pool remains
  obtain ⟨other, memberOther, same⟩ :=
    List.mem_map.mp (spent.mem_iff.mpr (List.mem_cons_of_mem _ here))
  rw [HeldAttempt.held, HeldAttempt.held, HeldToken.mk.injEq] at same
  have generation := trace.liveProbes other memberOther (same.1 ▸ young) (same.2 ▸ probe)
  rw [same.2] at generation
  have plain := trace.inv.pool.only_probe spent isProbe owned here generation
  simp only [HeldAttempt.held] at plain
  rw [plain] at probe
  cases probe

theorem liveProbes_step (enabled : provider.circuitBreakerEnabled = true)
    (trace : TraceInv provider history run) (taken : BreakerStep provider run action next)
    {held : HeldAttempt} (member : held ∈ next.outstanding)
    (young : lastReset (⟨run, action, next⟩ :: history) ≤ held.born)
    (probing : held.guard.token.probeId.isSome) :
    held.guard.token.generation = (next.book.entry provider.id).generation := by
  have effects := taken.effects enabled trace.inv
  cases effects.2 with
  | quiet _ _ noReset generation _ _ _ =>
    rw [lastReset_keep noReset] at young
    exact liveProbes_keep trace effects.1 generation member young probing
  | plainSuccess _ reported _ generation _ _ _ | probeSuccess _ reported _ generation _ _ _ _ =>
    rw [lastReset_keep (currentSuccess_no_failure reported).2] at young
    exact liveProbes_keep trace effects.1 generation member young probing
  | counted _ reported _ generation _ _ _ _ =>
    rw [lastReset_keep (currentFailure_no_success reported).2] at young
    exact liveProbes_keep trace effects.1 generation member young probing
  | recovered attempt reported isProbe _ _ _ _ _ =>
    rw [lastReset_keep (currentSuccess_no_failure reported).2] at young
    obtain ⟨⟨_, _, _, acted⟩, current⟩ := currentSuccess_some reported
    simp only at acted
    subst acted
    obtain ⟨present, spent⟩ := taken.success_member
    exact (liveProbes_spent trace present spent current isProbe member young probing).elim
  | opened attempt reported _ cause _ _ =>
    rw [lastReset_keep (currentFailure_no_success reported).2] at young
    obtain ⟨⟨_, _, _, _, acted⟩, current⟩ := currentFailure_some reported
    simp only at acted
    subst acted
    obtain ⟨present, spent⟩ := taken.failure_member
    rcases cause with ⟨isProbe, _⟩ | ⟨_, closed, _⟩
    · exact (liveProbes_spent trace present spent current isProbe member young probing).elim
    · -- a closed circuit has no probe of its generation that could be left
      have here : held.held ∈ (next.pool provider.id).held := held.mem_pool member
      obtain ⟨other, memberOther, same⟩ :=
        List.mem_map.mp (spent.mem_iff.mpr (List.mem_cons_of_mem _ here))
      rw [HeldAttempt.held, HeldAttempt.held, HeldToken.mk.injEq] at same
      have generation := trace.liveProbes other memberOther (same.1 ▸ young) (same.2 ▸ probing)
      obtain ⟨untilMs, cooling, _⟩ := trace.inv.pool.probeCooling other.held
        (other.mem_pool memberOther) (by rw [HeldAttempt.held, same.2]; exact probing) generation
      simp [BreakerRun.pool, closed] at cooling
  | reset acted _ _ _ =>
    simp only at acted
    subst acted
    cases taken with
    | reset =>
      have born := trace.inv.pool.bornBefore held.held (held.mem_pool member)
      have counted : (run.pool provider.id).steps = history.length := trace.steps
      simp only [lastReset, HeldAttempt.held] at young born
      omega

theorem TraceInv.step (enabled : provider.circuitBreakerEnabled = true)
    (trace : TraceInv provider history run) (taken : BreakerStep provider run action next)
    (room : next.steps < 2 ^ 64) : TraceInv provider (⟨run, action, next⟩ :: history) next where
  inv := taken.preserves enabled room trace.inv
  steps := by rw [taken.advances.1, trace.steps, List.length_cons]
  accumulated := accumulated_step enabled trace taken
  sinceOpening := sinceOpening_step enabled trace taken room
  liveProbes _ member := liveProbes_step enabled trace taken member

theorem recovers_step (enabled : provider.circuitBreakerEnabled = true)
    (trace : TraceInv provider history run) (taken : BreakerStep provider run action next)
    (closes : Closes provider.id ⟨run, action, next⟩) (noReset : action ≠ .reset) :
    ∃ since opening before, history = since ++ opening :: before ∧ Opens provider.id opening ∧
      (∀ t ∈ since, Undisturbed provider.id t) ∧
      atLeastOne provider.circuitBreakerHalfOpenSuccessThreshold ≤
        probeSuccesses provider.id before.length (⟨run, action, next⟩ :: since) := by
  obtain ⟨waited, closed⟩ := closes
  simp only at waited closed
  cases (taken.effects enabled trace.inv).2 with
  | recovered held reported probing _ waiting _ enough _ =>
    obtain ⟨since, opening, before, split, opens, calm, counted, retired⟩ :=
      trace.sinceOpening waiting
    have young := begun_after retired taken reported
    refine ⟨since, opening, before, split, opens, calm, ?_⟩
    rw [← counted] at enough
    simpa [probeSuccesses, reported, probing, young] using enough
  | quiet _ _ _ _ deadline _ _ | probeSuccess _ _ _ _ _ deadline _ _ =>
    rw [← deadline, closed] at waited
    cases waited
  | plainSuccess _ _ _ _ before _ _ | counted _ _ _ _ before _ _ _ =>
    rw [before] at waited
    cases waited
  | opened _ _ _ _ opens _ =>
    rw [closed] at opens
    cases opens
  | reset acted _ _ _ => exact absurd acted noReset

theorem at_most_one_probe (inv : BreakerInv provider run) (chosen : HeldAttempt → Bool)
    (owned : ∀ held ∈ run.outstanding, chosen held = true → ∃ probe,
      held.guard.token.probeId = some probe ∧
        (run.book.entry provider.id).probeOwner = some probe) :
    run.outstanding.countP chosen ≤ 1 := by
  cases owner : (run.book.entry provider.id).probeOwner with
  | none =>
    have none : run.outstanding.countP chosen = 0 := by
      apply List.countP_eq_zero.mpr
      intro held member isChosen
      obtain ⟨probe, _, owns⟩ := owned held member isChosen
      rw [owner] at owns
      cases owns
    omega
  | some probe =>
    have bound := inv.pool.sound.count_probe probe
    simp only [AttemptPool.tokens, BreakerRun.pool, List.map_map, List.countP_map] at bound
    refine Nat.le_trans (List.countP_mono_left fun held member isChosen => ?_) bound
    obtain ⟨mine, isProbe, owns⟩ := owned held member isChosen
    rw [owner] at owns
    simpa [HeldAttempt.held, isProbe] using owns.symm

end Steps

structure BreakerSafe (provider : UpstreamProvider) (history : BreakerHistory) (run : BreakerRun) :
    Prop where
  opensExactly : ∀ recent t earlier, history = recent ++ t :: earlier →
    (Opens provider.id t ↔ ∃ held, currentFailure provider.id t = some held ∧
      (held.guard.token.probeId.isSome ∨ accumulatedFailures provider.id earlier + 1 =
        atLeastOne provider.circuitBreakerFailureThreshold))
  blocked : ∀ nowMs, (run.book.entry provider.id).circuitState provider nowMs = .opened →
    (run.book.tryBeginAttempt provider nowMs).1 = none
  oneProbe : run.outstanding.countP (fun held => held.guard.token.probeId.isSome &&
    lastReset history ≤ held.born) ≤ 1
  oneCurrentProbe : run.outstanding.countP (fun held => held.guard.token.probeId.isSome &&
    held.guard.isCurrent run.book) ≤ 1
  recovers : ∀ recent t earlier, history = recent ++ t :: earlier → Closes provider.id t →
    t.action ≠ .reset → ∃ since opening before, earlier = since ++ opening :: before ∧
      Opens provider.id opening ∧ (∀ x ∈ since, Undisturbed provider.id x) ∧
      atLeastOne provider.circuitBreakerHalfOpenSuccessThreshold ≤
        probeSuccesses provider.id before.length (t :: since)

section Runs

variable {provider : UpstreamProvider} {history : BreakerHistory} {run : BreakerRun}

theorem breaker_trace (enabled : provider.circuitBreakerEnabled = true) {startMs : Int}
    (execution : Execution (BreakerStep provider) (.fresh startMs) history run)
    (short : history.length < 2 ^ 64) : TraceInv provider history run := by
  induction execution with
  | start => exact .fresh provider startMs
  | next reaching taken ih =>
    simp only [List.length_cons] at short
    have trace := ih (by omega)
    have steps := taken.advances.1
    have counted := trace.steps
    exact trace.step enabled taken (by omega)

theorem breaker_trace_at (enabled : provider.circuitBreakerEnabled = true) {startMs : Int}
    (execution : Execution (BreakerStep provider) (.fresh startMs) history run)
    (short : history.length < 2 ^ 64) {recent earlier : BreakerHistory}
    {t : Transition BreakerRun BreakerAction} (split : history = recent ++ t :: earlier) :
    TraceInv provider earlier t.before ∧ BreakerStep provider t.before t.action t.after := by
  subst split
  obtain ⟨before, taken, _⟩ := execution.split_at
  simp only [List.length_append, List.length_cons] at short
  exact ⟨breaker_trace enabled before (by omega), taken⟩

theorem providerRuntime_breaker_safety (enabled : provider.circuitBreakerEnabled = true)
    {startMs : Int} (execution : Execution (BreakerStep provider) (.fresh startMs) history run)
    (short : history.length < 2 ^ 64) : BreakerSafe provider history run := by
  have trace := breaker_trace enabled execution short
  refine ⟨?_, ?_, ?_, ?_, ?_⟩
  · intro recent t earlier split
    obtain ⟨before, taken⟩ := breaker_trace_at enabled execution short split
    exact opens_iff enabled before taken
  · intro nowMs opened
    rw [ProviderRuntimeState.circuitState_enabled enabled] at opened
    obtain ⟨untilMs, waiting, later⟩ := (circuitKind_opened_iff _ _).mp opened
    rw [ProviderRuntimeBook.tryBeginAttempt_guard,
      ProviderRuntimeState.tryBeginAttempt_blocked enabled _ _ _ waiting later]
    rfl
  · apply at_most_one_probe trace.inv
    intro held member young
    rw [Bool.and_eq_true, decide_eq_true_eq] at young
    have current := trace.liveProbes held member young.2 young.1
    obtain ⟨probe, isProbe⟩ := Option.isSome_iff_exists.mp young.1
    exact ⟨probe, isProbe, trace.inv.pool.live held.held (held.mem_pool member) probe isProbe current⟩
  · apply at_most_one_probe trace.inv
    intro held member current
    rw [Bool.and_eq_true] at current
    have accepted := ProviderRuntimeBook.isCurrent_entry current.2
    rw [trace.inv.owned held member] at accepted
    obtain ⟨probe, isProbe⟩ := Option.isSome_iff_exists.mp current.1
    exact ⟨probe, isProbe, (((ProbeGate.matches_iff _ _).mp accepted).2 probe isProbe)⟩
  · intro recent t earlier split closes noReset
    obtain ⟨before, taken⟩ := breaker_trace_at enabled execution short split
    exact recovers_step enabled before taken closes noReset

def singleTrialProvider : UpstreamProvider where
  id := 1
  providerType := "responses"
  enabled := true
  maxConcurrency := none
  circuitBreakerEnabled := true
  circuitBreakerFailureThreshold := i32 1
  circuitBreakerOpenMs := 30000
  circuitBreakerHalfOpenSuccessThreshold := i32 1

theorem providerRuntime_breaker_safety_first_failure :
    ∃ history run, history.length = 2 ∧ (run.book.entry 1).openUntilMs = some 30000 ∧
      BreakerSafe singleTrialProvider history run := by
  have begun : BreakerStep singleTrialProvider (.fresh 0) (.tryBeginAttempt 0) _ :=
    .begun (Int.le_refl 0) rfl
  have failed := (Execution.start.next begun).next (@BreakerStep.failure singleTrialProvider _
    ⟨0, singleTrialProvider, 1, none⟩ (some 503) "status" "" 0 (Int.le_refl 0)
    (by exact List.mem_cons_self))
  exact ⟨_, _, rfl, by decide, providerRuntime_breaker_safety (by decide) failed (by decide)⟩

theorem two_probes_outstanding :
    ∃ history run, Execution (BreakerStep singleTrialProvider) (.fresh 0) history run ∧
      history.length = 7 ∧
      run.outstanding.countP (fun held => held.guard.token.probeId.isSome) = 2 := by
  have begun : BreakerStep singleTrialProvider (.fresh 0) (.tryBeginAttempt 0) _ :=
    .begun (Int.le_refl 0) rfl
  have failed := (Execution.start.next begun).next (@BreakerStep.failure singleTrialProvider _
    ⟨0, singleTrialProvider, 1, none⟩ (some 503) "status" "" 0 (Int.le_refl 0)
    (by exact List.mem_cons_self))
  have probed := failed.next (@BreakerStep.begun singleTrialProvider _ 30000
    ⟨singleTrialProvider, 2, some 1⟩ (by decide) (by rfl))
  have reset := probed.next .reset
  have begunAgain := reset.next (@BreakerStep.begun singleTrialProvider _ 30000
    ⟨singleTrialProvider, 3, none⟩ (by decide) (by rfl))
  have failedAgain := begunAgain.next (@BreakerStep.failure singleTrialProvider _
    ⟨4, singleTrialProvider, 3, none⟩ (some 503) "status" "" 30000 (by decide)
    (by exact List.mem_cons_self))
  have probedAgain := failedAgain.next (@BreakerStep.begun singleTrialProvider _ 60000
    ⟨singleTrialProvider, 4, some 2⟩ (by decide) (by rfl))
  exact ⟨_, _, probedAgain, rfl, by decide⟩

def onlyReset (generation : Nat) : ProviderRuntimeState :=
  { ProviderRuntimeState.initial with generation := generation }

theorem onlyReset_reset {generation : Nat} (room : generation + 1 < 2 ^ 64) :
    (onlyReset generation).reset = onlyReset (generation + 1) := by
  simp [onlyReset, ProviderRuntimeState.reset, ProbeGate.advanceGeneration, nextCounter_eq room,
    ProviderRuntimeState.initial]

def firstAttempt : HeldAttempt := ⟨0, singleTrialProvider, 1, none⟩

theorem resets_reach {n : Nat} (room : n + 1 < 2 ^ 64) :
    ∃ history run, Execution (BreakerStep singleTrialProvider) (.fresh 0) history run ∧
      run.book.entry 1 = onlyReset (n + 1) ∧ run.outstanding = [firstAttempt] ∧ run.clock = 0 ∧
      ∀ mark, probeSuccesses 1 mark history = 0 := by
  induction n with
  | zero =>
    have begun : BreakerStep singleTrialProvider (.fresh 0) (.tryBeginAttempt 0) _ :=
      .begun (Int.le_refl 0) rfl
    exact ⟨_, _, Execution.start.next begun, rfl, rfl, rfl, fun mark => rfl⟩
  | succ n ih =>
    obtain ⟨history, run, execution, entry, outstanding, clock, none⟩ := ih (by omega)
    refine ⟨_, _, execution.next .reset, ?_, outstanding, clock, fun mark => ?_⟩
    · change (run.book.reset 1).entry 1 = _
      rw [ProviderRuntimeBook.reset, ProviderRuntimeBook.entry_put_same, entry, onlyReset_reset room]
    · rw [probeSuccesses_other (by simp [currentSuccess]), none mark]

def lastGuard : ProviderAttemptGuard := ⟨singleTrialProvider, 2 ^ 64 - 1, none⟩

def wrappedEntry : ProviderRuntimeState :=
  ((onlyReset (2 ^ 64 - 1)).finishFailure singleTrialProvider lastGuard.token (some 503) "status"
    "" 0).2

theorem wrapped_reach :
    ∃ history run, Execution (BreakerStep singleTrialProvider) (.fresh 0) history run ∧
      run.book.entry 1 = wrappedEntry ∧ run.outstanding = [firstAttempt] ∧ run.clock = 0 ∧
      ∀ mark, probeSuccesses 1 mark history = 0 := by
  obtain ⟨history, run, execution, entry, outstanding, clock, none⟩ :=
    @resets_reach (2 ^ 64 - 2) (by omega)
  have granted : (run.book.tryBeginAttempt singleTrialProvider 0).1 = some lastGuard := by
    rw [ProviderRuntimeBook.tryBeginAttempt_guard, show singleTrialProvider.id = 1 from rfl, entry]
    rfl
  have begunEntry : (run.book.tryBeginAttempt singleTrialProvider 0).2.entry 1 =
      onlyReset (2 ^ 64 - 1) := by
    have same := ProviderRuntimeBook.tryBeginAttempt_entry run.book singleTrialProvider 0
    rw [show singleTrialProvider.id = 1 from rfl, entry] at same
    exact same
  have begun := execution.next (.begun (Int.le_of_eq clock) granted)
  have failed := begun.next (@BreakerStep.failure singleTrialProvider _ ⟨run.steps, lastGuard⟩
    (some 503) "status" "" 0 (Int.le_refl 0) (by exact List.mem_cons_self))
  have failedEntry := @finish_failure_entry singleTrialProvider
    ⟨(run.book.tryBeginAttempt singleTrialProvider 0).2,
      ⟨run.steps, lastGuard⟩ :: run.outstanding, 0, run.steps + 1⟩
    ⟨run.steps, lastGuard⟩ rfl (some 503) "status" "" 0
  rw [show singleTrialProvider.id = 1 from rfl, begunEntry] at failedEntry
  refine ⟨_, _, failed, failedEntry, ?_, rfl, fun mark => ?_⟩
  · simp [BreakerRun.finish, outstanding]
  · rw [probeSuccesses_other (by simp [currentSuccess]), probeSuccesses_other (by simp [currentSuccess]),
      none mark]

theorem wrapped_generation_closes :
    ∃ history run t earlier, Execution (BreakerStep singleTrialProvider) (.fresh 0) history run ∧
      history = t :: earlier ∧ Closes 1 t ∧ t.action ≠ .reset ∧
      ∀ mark, probeSuccesses 1 mark history = 0 := by
  obtain ⟨history, run, execution, entry, outstanding, clock, none⟩ := wrapped_reach
  have finished := execution.next (@BreakerStep.success singleTrialProvider _ firstAttempt
    (some 200) Option.none 0 (Int.le_of_eq clock) (by simp [outstanding]))
  have closedEntry := @finish_success_entry singleTrialProvider run firstAttempt rfl (some 200)
    Option.none 0
  rw [show singleTrialProvider.id = 1 from rfl, entry] at closedEntry
  refine ⟨_, _, _, _, finished, rfl, ⟨?_, ?_⟩, by simp, fun mark => ?_⟩
  · simp only [entry]
    decide
  · simp only [closedEntry]
    rfl
  · rw [probeSuccesses_other, none mark]
    intro held reported
    obtain ⟨⟨_, _, _, acted⟩, _⟩ := currentSuccess_some reported
    cases acted
    rfl

/-- Neither claim about probes survives as it is said: two can be outstanding after a reset, and
    the circuit can close without any once the generation counter has wrapped. -/
theorem breaker_probe_claims_fail :
    (∃ history run, Execution (BreakerStep singleTrialProvider) (.fresh 0) history run ∧
      history.length = 7 ∧
      run.outstanding.countP (fun held => held.guard.token.probeId.isSome) = 2) ∧
    ∃ history run t earlier, Execution (BreakerStep singleTrialProvider) (.fresh 0) history run ∧
      history = t :: earlier ∧ Closes 1 t ∧ t.action ≠ .reset ∧
      ∀ mark, probeSuccesses 1 mark history = 0 :=
  ⟨two_probes_outstanding, wrapped_generation_closes⟩

end Runs

end CodexGate.Provider
