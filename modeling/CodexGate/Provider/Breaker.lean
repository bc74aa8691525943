import CodexGate.Foundation.Attempts
import CodexGate.Foundation.Execution
import CodexGate.Provider.Entries

namespace CodexGate.Provider

open Foundation Health

structure HeldAttempt where
  born : Nat
  guard : ProviderAttemptGuard
  deriving DecidableEq

def HeldAttempt.held (attempt : HeldAttempt) : HeldToken := ⟨attempt.born, attempt.guard.token⟩

structure BreakerRun where
  book : ProviderRuntimeBook
  outstanding : List HeldAttempt
  clock : Int
  steps : Nat

inductive BreakerAction
  | tryBeginAttempt (nowMs : Int)
  | success (held : HeldAttempt) (status latencyMs : Option Int) (nowMs : Int)
  | failure (held : HeldAttempt) (status : Option Int) (errorType errorMessage : String)
      (nowMs : Int)
  | neutral (held : HeldAttempt)
  | drop (held : HeldAttempt)
  | reset

namespace BreakerRun

def fresh (startMs : Int) : BreakerRun where
  book := .new
  outstanding := []
  clock := startMs
  steps := 0

def finish (run : BreakerRun) (held : HeldAttempt) (book : ProviderRuntimeBook) (nowMs : Int) :
    BreakerRun where
  book := book
  outstanding := run.outstanding.erase held
  clock := nowMs
  steps := run.steps + 1

def pool (providerId : Int) (run : BreakerRun) : AttemptPool where
  gate := (run.book.entry providerId).toProbeGate
  deadline := (run.book.entry providerId).openUntilMs
  held := run.outstanding.map (·.held)
  clock := run.clock
  steps := run.steps

end BreakerRun

/-- One operation on the breaker of `provider`. Every time that is read is at least the previous
    one; a neutral outcome, a drop and a reset read none. -/
inductive BreakerStep (provider : UpstreamProvider) (run : BreakerRun) :
    BreakerAction → BreakerRun → Prop
  | begun {nowMs : Int} {guard : ProviderAttemptGuard} (later : run.clock ≤ nowMs)
      (granted : (run.book.tryBeginAttempt provider nowMs).1 = some guard) :
      BreakerStep provider run (.tryBeginAttempt nowMs)
        ⟨(run.book.tryBeginAttempt provider nowMs).2, ⟨run.steps, guard⟩ :: run.outstanding, nowMs,
          run.steps + 1⟩
  | refused {nowMs : Int} (later : run.clock ≤ nowMs)
      (denied : (run.book.tryBeginAttempt provider nowMs).1 = none) :
      BreakerStep provider run (.tryBeginAttempt nowMs)
        ⟨(run.book.tryBeginAttempt provider nowMs).2, run.outstanding, nowMs, run.steps + 1⟩
  | success {held : HeldAttempt} {status latencyMs : Option Int} {nowMs : Int}
      (later : run.clock ≤ nowMs) (member : held ∈ run.outstanding) :
      BreakerStep provider run (.success held status latencyMs nowMs)
        (run.finish held (held.guard.success run.book status latencyMs nowMs) nowMs)
  | failure {held : HeldAttempt} {status : Option Int} {errorType errorMessage : String}
      {nowMs : Int} (later : run.clock ≤ nowMs) (member : held ∈ run.outstanding) :
      BreakerStep provider run (.failure held status errorType errorMessage nowMs)
        (run.finish held (held.guard.failure run.book status errorType errorMessage nowMs).2 nowMs)
  | neutral {held : HeldAttempt} (member : held ∈ run.outstanding) :
      BreakerStep provider run (.neutral held)
        (run.finish held (held.guard.neutral run.book) run.clock)
  | drop {held : HeldAttempt} (member : held ∈ run.outstanding) :
      BreakerStep provider run (.drop held) (run.finish held (held.guard.drop run.book) run.clock)
  | reset : BreakerStep provider run .reset
      ⟨run.book.reset provider.id, run.outstanding, run.clock, run.steps + 1⟩

def currentSuccess (providerId : Int) (t : Transition BreakerRun BreakerAction) :
    Option HeldAttempt :=
  match t.action with
  | .success held _ _ _ =>
    if held.guard.token.generation = (t.before.book.entry providerId).generation then some held
    else none
  | _ => none

def currentFailure (providerId : Int) (t : Transition BreakerRun BreakerAction) :
    Option HeldAttempt :=
  match t.action with
  | .failure held _ _ _ _ =>
    if held.guard.token.generation = (t.before.book.entry providerId).generation then some held
    else none
  | _ => none

/-- All that an operation can do to the entry's generation, deadline and two counters. -/
inductive BreakerEffect (provider : UpstreamProvider) (t : Transition BreakerRun BreakerAction)
    (before after : ProviderRuntimeState) : Prop
  | quiet (noSuccess : currentSuccess provider.id t = none)
      (noFailure : currentFailure provider.id t = none) (noReset : t.action ≠ .reset)
      (generation : after.generation = before.generation)
      (deadline : after.openUntilMs = before.openUntilMs)
      (failures : after.consecutiveFailures = before.consecutiveFailures)
      (successes : after.halfOpenSuccesses = before.halfOpenSuccesses)
  | plainSuccess (held : HeldAttempt) (reported : currentSuccess provider.id t = some held)
      (plain : held.guard.token.probeId = none) (generation : after.generation = before.generation)
      (closed : before.openUntilMs = none) (stays : after.openUntilMs = none)
      (failures : after.consecutiveFailures = 0)
  | probeSuccess (held : HeldAttempt) (reported : currentSuccess provider.id t = some held)
      (probing : held.guard.token.probeId.isSome) (generation : after.generation = before.generation)
      (waiting : before.openUntilMs.isSome) (deadline : after.openUntilMs = before.openUntilMs)
      (successes : after.halfOpenSuccesses = before.halfOpenSuccesses + 1)
      (short : after.halfOpenSuccesses <
        atLeastOne provider.circuitBreakerHalfOpenSuccessThreshold)
  | recovered (held : HeldAttempt) (reported : currentSuccess provider.id t = some held)
      (probing : held.guard.token.probeId.isSome)
      (generation : after.generation = nextCounter before.generation)
      (waiting : before.openUntilMs.isSome) (closes : after.openUntilMs = none)
      (enough : atLeastOne provider.circuitBreakerHalfOpenSuccessThreshold ≤
        before.halfOpenSuccesses + 1)
      (failures : after.consecutiveFailures = 0)
  | counted (held : HeldAttempt) (reported : currentFailure provider.id t = some held)
      (plain : held.guard.token.probeId = none) (generation : after.generation = before.generation)
      (closed : before.openUntilMs = none) (stays : after.openUntilMs = none)
      (failures : after.consecutiveFailures = before.consecutiveFailures + 1)
      (short : after.consecutiveFailures < atLeastOne provider.circuitBreakerFailureThreshold)
  | opened (held : HeldAttempt) (reported : currentFailure provider.id t = some held)
      (generation : after.generation = nextCounter before.generation)
      (cause : (held.guard.token.probeId.isSome ∧ before.openUntilMs.isSome) ∨
        (held.guard.token.probeId = none ∧ before.openUntilMs = none ∧
          atLeastOne provider.circuitBreakerFailureThreshold ≤ before.consecutiveFailures + 1))
      (opens : after.openUntilMs.isSome) (successes : after.halfOpenSuccesses = 0)
  | reset (action : t.action = .reset)
      (generation : after.generation = nextCounter before.generation)
      (closes : after.openUntilMs = none) (failures : after.consecutiveFailures = 0)

structure BreakerInv (provider : UpstreamProvider) (run : BreakerRun) : Prop where
  pool : (run.pool provider.id).Inv
  owned : ∀ held ∈ run.outstanding, held.guard.provider = provider
  counting : (run.book.entry provider.id).openUntilMs = none →
    (run.book.entry provider.id).consecutiveFailures <
      atLeastOne provider.circuitBreakerFailureThreshold
  recovering : (run.book.entry provider.id).openUntilMs.isSome →
    (run.book.entry provider.id).halfOpenSuccesses <
      atLeastOne provider.circuitBreakerHalfOpenSuccessThreshold

theorem BreakerInv.fresh (provider : UpstreamProvider) (startMs : Int) :
    BreakerInv provider (.fresh startMs) := by
  refine ⟨⟨⟨?_, ?_, ?_, ?_⟩, ?_, ?_, ?_, ?_, ?_, ?_, ?_⟩, ?_, ?_, ?_⟩ <;>
    simp [BreakerRun.fresh, BreakerRun.pool, AttemptPool.tokens, ProviderRuntimeBook.new,
      ProviderRuntimeBook.entry, ProviderRuntimeState.initial, atLeastOne_pos]

section Steps

variable {provider : UpstreamProvider} {run next : BreakerRun} {action : BreakerAction}

theorem HeldAttempt.mem_pool {held : HeldAttempt} {providerId : Int}
    (member : held ∈ run.outstanding) : held.held ∈ (run.pool providerId).held :=
  List.mem_map_of_mem member

theorem BreakerStep.advances (taken : BreakerStep provider run action next) :
    next.steps = run.steps + 1 ∧ run.clock ≤ next.clock := by
  cases taken with
  | begun later _ | refused later _ => exact ⟨rfl, later⟩
  | success later _ | failure later _ => exact ⟨rfl, later⟩
  | neutral | drop | reset => exact ⟨rfl, Int.le_refl _⟩

theorem BreakerRun.finish_fewer (held : HeldAttempt) (book : ProviderRuntimeBook) (nowMs : Int) :
    ((run.finish held book nowMs).pool provider.id).held.Sublist (run.pool provider.id).held :=
  List.erase_sublist.map _

theorem BreakerRun.finish_spent {held : HeldAttempt} (member : held ∈ run.outstanding)
    (book : ProviderRuntimeBook) (nowMs : Int) :
    (run.pool provider.id).held.Perm
      (held.held :: ((run.finish held book nowMs).pool provider.id).held) :=
  (List.perm_cons_erase member).map _

theorem finish_success_entry (held : HeldAttempt) (owned : held.guard.provider = provider)
    (status latencyMs : Option Int) (nowMs : Int) :
    (run.finish held (held.guard.success run.book status latencyMs nowMs) nowMs).book.entry
        provider.id =
      (run.book.entry provider.id).finishSuccess run.book.ewmaAlpha provider held.guard.token
        status latencyMs nowMs := by
  simp [BreakerRun.finish, ProviderAttemptGuard.success, ProviderRuntimeBook.finishSuccess, owned]

theorem finish_failure_entry (held : HeldAttempt) (owned : held.guard.provider = provider)
    (status : Option Int) (errorType errorMessage : String) (nowMs : Int) :
    (run.finish held (held.guard.failure run.book status errorType errorMessage nowMs).2
        nowMs).book.entry provider.id =
      ((run.book.entry provider.id).finishFailure provider held.guard.token status errorType
        errorMessage nowMs).2 := by
  simp [BreakerRun.finish, ProviderAttemptGuard.failure, ProviderRuntimeBook.finishFailure, owned]

theorem finish_neutral_entry (held : HeldAttempt) (owned : held.guard.provider = provider)
    (nowMs : Int) :
    (run.finish held (run.book.finishNeutral held.guard.provider.id held.guard.token)
        nowMs).book.entry provider.id =
      (run.book.entry provider.id).finishNeutral held.guard.token := by
  simp [BreakerRun.finish, owned]

theorem BreakerInv.standing (inv : BreakerInv provider run) {held : HeldAttempt}
    (member : held ∈ run.outstanding) :
    let entry := run.book.entry provider.id
    let token := held.guard.token
    (token.generation ≠ entry.generation ∧ entry.attemptTokenMatches token = false) ∨
    (token.generation = entry.generation ∧ entry.attemptTokenMatches token = true ∧
      token.probeId = none ∧ entry.openUntilMs = none) ∨
    (token.generation = entry.generation ∧ entry.attemptTokenMatches token = true ∧
      (∃ probe, token.probeId = some probe ∧ entry.probeOwner = some probe) ∧
      ∃ untilMs, entry.openUntilMs = some untilMs ∧ untilMs ≤ run.clock) :=
  inv.pool.standing (held.mem_pool member)

theorem BreakerEffect.of_gate {before after : ProviderRuntimeState}
    (noSuccess : currentSuccess provider.id ⟨run, action, next⟩ = none)
    (noFailure : currentFailure provider.id ⟨run, action, next⟩ = none) (noReset : action ≠ .reset)
    {gate : ProbeGate} (same : after = { before with toProbeGate := gate })
    (generation : gate.generation = before.generation) :
    BreakerEffect provider ⟨run, action, next⟩ before after := by
  apply BreakerEffect.quiet noSuccess noFailure noReset <;> rw [same]
  exact generation

theorem finishNeutral_effect (inv : BreakerInv provider run) {held : HeldAttempt}
    (member : held ∈ run.outstanding)
    (next_eq : next = run.finish held
      (run.book.finishNeutral held.guard.provider.id held.guard.token) run.clock)
    (neutral : action = .neutral held ∨ action = .drop held) :
    AttemptPool.Effect True (run.pool provider.id) (next.pool provider.id) ∧
      BreakerEffect provider ⟨run, action, next⟩ (run.book.entry provider.id)
        (next.book.entry provider.id) := by
  have entry := @finish_neutral_entry provider run held (inv.owned held member) run.clock
  have noSuccess : currentSuccess provider.id ⟨run, action, next⟩ = none := by
    rcases neutral with rfl | rfl <;> rfl
  have noFailure : currentFailure provider.id ⟨run, action, next⟩ = none := by
    rcases neutral with rfl | rfl <;> rfl
  have noReset : action ≠ .reset := by
    rcases neutral with rfl | rfl <;> simp
  subst next_eq
  rw [entry]
  rcases (run.book.entry provider.id).finishNeutral_cases held.guard.token with same | same
  · constructor
    · apply AttemptPool.Effect.kept (run.finish_fewer held _ _) <;>
        simp only [BreakerRun.pool, entry, same]
    · rw [same]
      exact .of_gate noSuccess noFailure noReset rfl rfl
  · constructor
    · apply AttemptPool.Effect.released held.held (run.finish_spent member _ _) <;>
        simp only [BreakerRun.pool, entry, same]
      rfl
    · exact .of_gate noSuccess noFailure noReset same (by simp)

theorem finishSuccess_effect (enabled : provider.circuitBreakerEnabled = true)
    (inv : BreakerInv provider run) {held : HeldAttempt} (member : held ∈ run.outstanding)
    (status latencyMs : Option Int) {nowMs : Int}
    (later : run.clock ≤ nowMs)
    (next_eq : next = run.finish held (held.guard.success run.book status latencyMs nowMs) nowMs) :
    AttemptPool.Effect True (run.pool provider.id) (next.pool provider.id) ∧
      BreakerEffect provider ⟨run, .success held status latencyMs nowMs, next⟩
        (run.book.entry provider.id) (next.book.entry provider.id) := by
  have entry := @finish_success_entry provider run held (inv.owned held member) status latencyMs nowMs
  subst next_eq
  rw [entry]
  rcases inv.standing member with
    ⟨old, stale⟩ | ⟨same, current, plain, closed⟩ |
      ⟨same, current, ⟨probe, probing, owned⟩, untilMs, cooling, elapsed⟩
  · have result := @ProviderRuntimeState.finishSuccess_stale provider run.book.ewmaAlpha _ _ status
      latencyMs nowMs stale
    constructor
    · apply AttemptPool.Effect.kept (run.finish_fewer held _ _) <;>
        simp only [BreakerRun.pool, entry, result]
    · have unreported : currentSuccess provider.id
          ⟨run, .success held status latencyMs nowMs, run.finish held
            (held.guard.success run.book status latencyMs nowMs) nowMs⟩ = none := if_neg old
      apply BreakerEffect.quiet unreported rfl (by simp) <;> rw [result]
  · obtain ⟨gate, stays, failures⟩ := ProviderRuntimeState.finishSuccess_plain run.book.ewmaAlpha _ _
      status latencyMs nowMs enabled current plain closed
    constructor
    · apply AttemptPool.Effect.kept (run.finish_fewer held _ _) <;>
        simp only [BreakerRun.pool, entry]
      · exact gate
      · exact stays.trans closed.symm
    · exact .plainSuccess held (if_pos same) plain (congrArg _ gate) closed stays failures
  · have isProbe : held.guard.token.probeId.isSome := by simp [probing]
    have waiting : (run.book.entry provider.id).openUntilMs.isSome := by simp [cooling]
    have below := inv.recovering waiting
    have small := atLeastOne_lt provider.circuitBreakerHalfOpenSuccessThreshold
    have exactSum : saturatingAddU32 (run.book.entry provider.id).halfOpenSuccesses 1 =
        (run.book.entry provider.id).halfOpenSuccesses + 1 :=
      saturatingAddU32_eq (by unfold u32Max; omega)
    by_cases enough : atLeastOne provider.circuitBreakerHalfOpenSuccessThreshold ≤
        saturatingAddU32 (run.book.entry provider.id).halfOpenSuccesses 1
    · obtain ⟨gate, closes, failures⟩ := ProviderRuntimeState.finishSuccess_probe_recovers
        run.book.ewmaAlpha _ _ status latencyMs nowMs enabled current untilMs cooling
        (Int.le_trans elapsed later) enough
      constructor
      · apply AttemptPool.Effect.advanced held.guard.token (run.finish_fewer held _ _) _ (.inr trivial)
        simp only [BreakerRun.pool, entry]
        exact .inr gate
      · refine .recovered held (if_pos same) isProbe ?_ waiting closes (by omega) failures
        rw [gate]
        simp [ProbeGate.advanceGeneration]
    · obtain ⟨gate, deadline, successes⟩ := ProviderRuntimeState.finishSuccess_probe_counts
        run.book.ewmaAlpha _ _ status latencyMs nowMs enabled current untilMs cooling
        (Int.le_trans elapsed later) (Nat.lt_of_not_le enough)
      constructor
      · apply AttemptPool.Effect.released held.held (run.finish_spent member _ _) <;>
          simp only [BreakerRun.pool, entry]
        · exact gate
        · exact deadline
      · refine .probeSuccess held (if_pos same) isProbe ?_ waiting deadline
          (successes.trans exactSum) (by omega)
        rw [gate]
        simp

theorem finishFailure_effect (enabled : provider.circuitBreakerEnabled = true)
    (inv : BreakerInv provider run) {held : HeldAttempt} (member : held ∈ run.outstanding)
    (status : Option Int) (errorType errorMessage : String) {nowMs : Int}
    (later : run.clock ≤ nowMs)
    (next_eq : next = run.finish held
      (held.guard.failure run.book status errorType errorMessage nowMs).2 nowMs) :
    AttemptPool.Effect True (run.pool provider.id) (next.pool provider.id) ∧
      BreakerEffect provider ⟨run, .failure held status errorType errorMessage nowMs, next⟩
        (run.book.entry provider.id) (next.book.entry provider.id) := by
  have entry := @finish_failure_entry provider run held (inv.owned held member) status errorType
    errorMessage nowMs
  subst next_eq
  rw [entry]
  rcases inv.standing member with
    ⟨old, stale⟩ | ⟨same, current, plain, closed⟩ |
      ⟨same, current, ⟨probe, probing, owned⟩, untilMs, cooling, elapsed⟩
  · have result := congrArg Prod.snd (@ProviderRuntimeState.finishFailure_stale provider _ _ status
      errorType errorMessage nowMs stale)
    constructor
    · apply AttemptPool.Effect.kept (run.finish_fewer held _ _) <;>
        simp only [BreakerRun.pool, entry, result]
    · have unreported : currentFailure provider.id
          ⟨run, .failure held status errorType errorMessage nowMs, run.finish held
            (held.guard.failure run.book status errorType errorMessage nowMs).2 nowMs⟩ = none :=
        if_neg old
      apply BreakerEffect.quiet rfl unreported (by simp) <;> rw [result]
  · have below := inv.counting closed
    have small := atLeastOne_lt provider.circuitBreakerFailureThreshold
    have exactSum : saturatingAddU32 (run.book.entry provider.id).consecutiveFailures 1 =
        (run.book.entry provider.id).consecutiveFailures + 1 :=
      saturatingAddU32_eq (by unfold u32Max; omega)
    by_cases reached : atLeastOne provider.circuitBreakerFailureThreshold ≤
        saturatingAddU32 (run.book.entry provider.id).consecutiveFailures 1
    · obtain ⟨_, gate, opens, successes⟩ := ProviderRuntimeState.finishFailure_opens _ _ status
        errorType errorMessage nowMs enabled current (.inr reached)
      constructor
      · apply AttemptPool.Effect.advanced held.guard.token (run.finish_fewer held _ _) _ (.inr trivial)
        simp only [BreakerRun.pool, entry]
        exact .inr gate
      · refine .opened held (if_pos same) ?_ (.inr ⟨plain, closed, by omega⟩) opens successes
        rw [gate]
        simp [ProbeGate.advanceGeneration]
    · obtain ⟨gate, stays, failures⟩ := ProviderRuntimeState.finishFailure_counts _ _ status
        errorType errorMessage nowMs enabled current plain closed (Nat.lt_of_not_le reached)
      constructor
      · apply AttemptPool.Effect.kept (run.finish_fewer held _ _) <;>
          simp only [BreakerRun.pool, entry]
        · exact gate
        · exact stays.trans closed.symm
      · exact .counted held (if_pos same) plain (congrArg _ gate) closed stays
          (failures.trans exactSum) (by omega)
  · have isProbe : held.guard.token.probeId.isSome := by simp [probing]
    have waiting : (run.book.entry provider.id).openUntilMs.isSome := by simp [cooling]
    have halfOpen := (circuitKind_halfOpen_iff (run.pool provider.id).deadline nowMs).mpr
      ⟨untilMs, cooling, Int.le_trans elapsed later⟩
    obtain ⟨_, gate, opens, successes⟩ := ProviderRuntimeState.finishFailure_opens _ _ status
      errorType errorMessage nowMs enabled current (.inl halfOpen)
    constructor
    · apply AttemptPool.Effect.advanced held.guard.token (run.finish_fewer held _ _) _ (.inr trivial)
      simp only [BreakerRun.pool, entry]
      exact .inr gate
    · refine .opened held (if_pos same) ?_ (.inl ⟨isProbe, waiting⟩) opens successes
      rw [gate]
      simp [ProbeGate.advanceGeneration]

theorem tryBeginAttempt_effect (enabled : provider.circuitBreakerEnabled = true) {nowMs : Int}
    (held : List HeldAttempt)
    (next_eq : next = ⟨(run.book.tryBeginAttempt provider nowMs).2, held, nowMs, run.steps + 1⟩)
    (grown : held = ((run.book.tryBeginAttempt provider nowMs).1.toList.map (⟨run.steps, ·⟩)) ++
      run.outstanding) :
    AttemptPool.Effect True (run.pool provider.id) (next.pool provider.id) ∧
      BreakerEffect provider ⟨run, .tryBeginAttempt nowMs, next⟩ (run.book.entry provider.id)
        (next.book.entry provider.id) := by
  subst next_eq grown
  simp only [ProviderRuntimeBook.tryBeginAttempt_guard, ProviderRuntimeBook.tryBeginAttempt_entry,
    BreakerRun.pool]
  rcases ProviderRuntimeState.tryBeginAttempt_cases enabled (run.book.entry provider.id) nowMs with
    ⟨closed, result⟩ | result | ⟨cooling, free, result⟩
  · rw [result]
    exact ⟨.issued rfl closed rfl rfl, .of_gate rfl rfl (by simp) rfl rfl⟩
  · rw [result]
    exact ⟨.kept (List.Sublist.refl _) rfl rfl, .of_gate rfl rfl (by simp) rfl rfl⟩
  · rw [result]
    exact ⟨.probed rfl cooling free rfl rfl, .of_gate rfl rfl (by simp) rfl rfl⟩

theorem BreakerStep.effects (enabled : provider.circuitBreakerEnabled = true)
    (taken : BreakerStep provider run action next) (inv : BreakerInv provider run) :
    AttemptPool.Effect True (run.pool provider.id) (next.pool provider.id) ∧
      BreakerEffect provider ⟨run, action, next⟩ (run.book.entry provider.id)
        (next.book.entry provider.id) := by
  cases taken with
  | begun later granted => exact tryBeginAttempt_effect enabled _ rfl (by simp [granted])
  | refused later denied => exact tryBeginAttempt_effect enabled _ rfl (by simp [denied])
  | success later member => exact finishSuccess_effect enabled inv member _ _ later rfl
  | failure later member => exact finishFailure_effect enabled inv member _ _ _ later rfl
  | neutral member => exact finishNeutral_effect inv member rfl (.inl rfl)
  | drop member => exact finishNeutral_effect inv member rfl (.inr rfl)
  | reset =>
    constructor
    · refine .advanced ⟨0, none⟩ (List.Sublist.refl _) (.inl ?_) (.inr trivial)
      simp [BreakerRun.pool, ProviderRuntimeBook.reset, ProviderRuntimeState.reset,
        ProbeGate.advanceGeneration]
    · apply BreakerEffect.reset rfl <;>
        simp [ProviderRuntimeBook.reset, ProviderRuntimeState.reset, ProbeGate.advanceGeneration]

theorem BreakerStep.pool (enabled : provider.circuitBreakerEnabled = true)
    (taken : BreakerStep provider run action next) (inv : BreakerInv provider run) :
    AttemptPool.Step True (run.pool provider.id) (next.pool provider.id) :=
  ⟨taken.advances.1, taken.advances.2, (taken.effects enabled inv).1⟩

theorem BreakerStep.owned (taken : BreakerStep provider run action next)
    (owned : ∀ held ∈ run.outstanding, held.guard.provider = provider) :
    ∀ held ∈ next.outstanding, held.guard.provider = provider := by
  cases taken with
  | @begun nowMs guard later granted =>
    intro held member
    rcases List.mem_cons.mp member with rfl | member
    · rw [ProviderRuntimeBook.tryBeginAttempt_guard] at granted
      obtain ⟨token, _, rfl⟩ := Option.map_eq_some_iff.mp granted
      rfl
    · exact owned held member
  | success | failure | neutral | drop =>
    intro held member
    exact owned held (List.erase_subset member)
  | refused | reset => exact owned

theorem BreakerEffect.bounded (effect : BreakerEffect provider ⟨run, action, next⟩
      (run.book.entry provider.id) (next.book.entry provider.id))
    (inv : BreakerInv provider run) :
    ((next.book.entry provider.id).openUntilMs = none →
      (next.book.entry provider.id).consecutiveFailures <
        atLeastOne provider.circuitBreakerFailureThreshold) ∧
    ((next.book.entry provider.id).openUntilMs.isSome →
      (next.book.entry provider.id).halfOpenSuccesses <
        atLeastOne provider.circuitBreakerHalfOpenSuccessThreshold) := by
  have failuresRoom := atLeastOne_pos provider.circuitBreakerFailureThreshold
  have successesRoom := atLeastOne_pos provider.circuitBreakerHalfOpenSuccessThreshold
  cases effect with
  | quiet _ _ _ _ deadline failures successes =>
    rw [deadline, failures, successes]
    exact ⟨inv.counting, inv.recovering⟩
  | plainSuccess _ _ _ _ _ closed failures | recovered _ _ _ _ _ closed _ failures
  | reset _ _ closed failures =>
    rw [closed, failures]
    exact ⟨fun _ => failuresRoom, fun waiting => by cases waiting⟩
  | counted _ _ _ _ _ closed _ short =>
    rw [closed]
    exact ⟨fun _ => short, fun waiting => by cases waiting⟩
  | probeSuccess _ _ _ _ waiting deadline _ short =>
    rw [deadline]
    refine ⟨fun closed => ?_, fun _ => short⟩
    rw [closed] at waiting
    cases waiting
  | opened _ _ _ _ opens successes =>
    rw [successes]
    refine ⟨fun closed => ?_, fun _ => successesRoom⟩
    rw [closed] at opens
    cases opens

theorem BreakerStep.preserves (enabled : provider.circuitBreakerEnabled = true)
    (taken : BreakerStep provider run action next) (room : next.steps < 2 ^ 64)
    (inv : BreakerInv provider run) : BreakerInv provider next :=
  have bounded := (taken.effects enabled inv).2.bounded inv
  ⟨inv.pool.step (taken.pool enabled inv) room, taken.owned inv.owned, bounded.1, bounded.2⟩

end Steps

end CodexGate.Provider
