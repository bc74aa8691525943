import CodexGate.Foundation.Attempts
import CodexGate.Foundation.Execution
import CodexGate.Health.Entries

namespace CodexGate.Health

open Foundation

structure HeldAttempt where
  born : Nat
  guard : RuntimeHealthAttemptGuard
  deriving DecidableEq

structure CircuitRun where
  book : RuntimeHealthBook
  outstanding : List HeldAttempt
  clock : Int
  steps : Nat

inductive CircuitAction
  | tryBeginAttempt (nowMs : Int)
  | success (held : HeldAttempt) (status latencyMs : Option Int) (nowMs : Int)
  | failure (held : HeldAttempt) (status : Option Int) (errorType errorMessage : Option String)
      (nowMs : Int)
  | neutral (held : HeldAttempt) (nowMs : Int)
  | drop (held : HeldAttempt) (nowMs : Int)
  | reset
  | deferUntil (untilMs : Int)

def CircuitRun.fresh (failureThreshold : Nat) (openDurationMs startMs : Int) : CircuitRun where
  book := .new failureThreshold openDurationMs
  outstanding := []
  clock := startMs
  steps := 0

def CircuitRun.finish (run : CircuitRun) (held : HeldAttempt) (book : RuntimeHealthBook)
    (nowMs : Int) : CircuitRun where
  book := book
  outstanding := run.outstanding.erase held
  clock := nowMs
  steps := run.steps + 1

/-- One operation on the entry of `id`. Every time that is read is at least the previous one. -/
inductive CircuitStep (id : Int) (run : CircuitRun) : CircuitAction → CircuitRun → Prop
  | begun {nowMs : Int} {guard : RuntimeHealthAttemptGuard} (later : run.clock ≤ nowMs)
      (granted : (run.book.tryBeginAttempt id nowMs).1 = some guard) :
      CircuitStep id run (.tryBeginAttempt nowMs)
        ⟨(run.book.tryBeginAttempt id nowMs).2, ⟨run.steps, guard⟩ :: run.outstanding, nowMs,
          run.steps + 1⟩
  | refused {nowMs : Int} (later : run.clock ≤ nowMs)
      (denied : (run.book.tryBeginAttempt id nowMs).1 = none) :
      CircuitStep id run (.tryBeginAttempt nowMs)
        ⟨(run.book.tryBeginAttempt id nowMs).2, run.outstanding, nowMs, run.steps + 1⟩
  | success {held : HeldAttempt} {status latencyMs : Option Int} {nowMs : Int}
      (later : run.clock ≤ nowMs) (member : held ∈ run.outstanding) :
      CircuitStep id run (.success held status latencyMs nowMs)
        (run.finish held (held.guard.success run.book status latencyMs nowMs) nowMs)
  | failure {held : HeldAttempt} {status : Option Int} {errorType errorMessage : Option String}
      {nowMs : Int} (later : run.clock ≤ nowMs) (member : held ∈ run.outstanding) :
      CircuitStep id run (.failure held status errorType errorMessage nowMs)
        (run.finish held (held.guard.failure run.book status errorType errorMessage nowMs) nowMs)
  | neutral {held : HeldAttempt} {nowMs : Int} (later : run.clock ≤ nowMs)
      (member : held ∈ run.outstanding) :
      CircuitStep id run (.neutral held nowMs)
        (run.finish held (held.guard.neutral run.book nowMs) nowMs)
  | drop {held : HeldAttempt} {nowMs : Int} (later : run.clock ≤ nowMs)
      (member : held ∈ run.outstanding) :
      CircuitStep id run (.drop held nowMs)
        (run.finish held (held.guard.drop run.book nowMs) nowMs)
  | reset : CircuitStep id run .reset
      ⟨run.book.reset id, run.outstanding, run.clock, run.steps + 1⟩
  | deferUntil {untilMs : Int} : CircuitStep id run (.deferUntil untilMs)
      ⟨run.book.deferUntil id untilMs, run.outstanding, run.clock, run.steps + 1⟩

def HeldAttempt.held (attempt : HeldAttempt) : HeldToken := ⟨attempt.born, attempt.guard.token⟩

def CircuitRun.pool (id : Int) (run : CircuitRun) : AttemptPool where
  gate := (run.book.entry id).toProbeGate
  deadline := (run.book.entry id).openUntilMs
  held := run.outstanding.map (·.held)
  clock := run.clock
  steps := run.steps

structure CircuitInv (id : Int) (run : CircuitRun) : Prop where
  pool : (run.pool id).Inv
  owned : ∀ held ∈ run.outstanding, held.guard.id = id

theorem CircuitInv.fresh (id : Int) (threshold : Nat) (openMs startMs : Int) :
    CircuitInv id (.fresh threshold openMs startMs) := by
  refine ⟨⟨⟨?_, ?_, ?_, ?_⟩, ?_, ?_, ?_, ?_, ?_, ?_, ?_⟩, ?_⟩ <;>
    simp [CircuitRun.fresh, CircuitRun.pool, AttemptPool.tokens, RuntimeHealthBook.new,
      RuntimeHealthBook.entry, RuntimeHealthState.initial]

def Recovery (id : Int) (run : CircuitRun) (action : CircuitAction)
    (begunAfter : HeldAttempt → Prop) : Prop :=
  action = .reset ∨ ∃ held status latencyMs nowMs, action = .success held status latencyMs nowMs ∧
    held ∈ run.outstanding ∧ begunAfter held ∧ held.guard.token.probeId.isSome ∧
    (run.book.entry id).attemptTokenMatches held.guard.token = true

section Steps

variable {id : Int} {run next : CircuitRun} {action : CircuitAction}

theorem HeldAttempt.mem_pool {held : HeldAttempt} (member : held ∈ run.outstanding) :
    held.held ∈ (run.pool id).held := List.mem_map_of_mem member

theorem CircuitStep.advances (taken : CircuitStep id run action next) :
    next.steps = run.steps + 1 ∧ run.clock ≤ next.clock := by
  cases taken with
  | begun later _ | refused later _ => exact ⟨rfl, later⟩
  | success later _ | failure later _ | neutral later _ | drop later _ => exact ⟨rfl, later⟩
  | reset | deferUntil => exact ⟨rfl, Int.le_refl _⟩

theorem finish_fewer (held : HeldAttempt) (book : RuntimeHealthBook) (nowMs : Int) :
    ((run.finish held book nowMs).pool id).held.Sublist (run.pool id).held :=
  List.erase_sublist.map _

theorem finish_spent (held : HeldAttempt) (member : held ∈ run.outstanding)
    (book : RuntimeHealthBook) (nowMs : Int) :
    (run.pool id).held.Perm (held.held :: ((run.finish held book nowMs).pool id).held) :=
  (List.perm_cons_erase member).map _

theorem finish_success_entry (held : HeldAttempt) (owned : held.guard.id = id)
    (status latencyMs : Option Int) (nowMs : Int) :
    (run.finish held (held.guard.success run.book status latencyMs nowMs) nowMs).book.entry id =
      (run.book.entry id).finishSuccess run.book.ewmaAlpha held.guard.token status latencyMs
        nowMs := by
  simp [CircuitRun.finish, RuntimeHealthAttemptGuard.success, RuntimeHealthBook.finishSuccess, owned]

theorem finish_failure_entry (held : HeldAttempt) (owned : held.guard.id = id)
    (status : Option Int) (errorType errorMessage : Option String) (nowMs : Int) :
    (run.finish held (held.guard.failure run.book status errorType errorMessage nowMs)
      nowMs).book.entry id =
      (run.book.entry id).finishFailure run.book.failureThreshold run.book.openDurationMs
        held.guard.token status errorType errorMessage nowMs := by
  simp [CircuitRun.finish, RuntimeHealthAttemptGuard.failure, RuntimeHealthBook.finishFailure, owned]

theorem finish_neutral_entry (held : HeldAttempt) (owned : held.guard.id = id) (nowMs : Int) :
    (run.finish held (run.book.finishNeutral held.guard.id held.guard.token nowMs)
      nowMs).book.entry id = (run.book.entry id).finishNeutral held.guard.token nowMs := by
  simp [CircuitRun.finish, owned]

theorem finishNeutral_effect (inv : CircuitInv id run) (held : HeldAttempt)
    (member : held ∈ run.outstanding) (nowMs : Int) (recovery : Prop) :
    AttemptPool.Effect recovery (run.pool id)
      ((run.finish held (run.book.finishNeutral held.guard.id held.guard.token nowMs)
        nowMs).pool id) := by
  have entry := @finish_neutral_entry id run held (inv.owned held member) nowMs
  have deadline := RuntimeHealthState.finishNeutral_openUntilMs (run.book.entry id)
    held.guard.token nowMs
  rcases RuntimeHealthState.finishNeutral_gate (run.book.entry id) held.guard.token nowMs with
    gate | gate
  · apply AttemptPool.Effect.kept (finish_fewer _ _ _) <;> simp only [CircuitRun.pool, entry]
    · exact gate
    · exact deadline
  · apply AttemptPool.Effect.released held.held (finish_spent held member _ _) <;>
      simp only [CircuitRun.pool, entry]
    · exact gate
    · exact deadline

theorem finishSuccess_effect (inv : CircuitInv id run) (held : HeldAttempt)
    (member : held ∈ run.outstanding) (status latencyMs : Option Int) (nowMs : Int)
    (later : run.clock ≤ nowMs) :
    AttemptPool.Effect
      (Recovery id run (.success held status latencyMs nowMs) fun _ => True) (run.pool id)
      ((run.finish held (held.guard.success run.book status latencyMs nowMs) nowMs).pool id) := by
  have entry := @finish_success_entry id run held (inv.owned held member) status latencyMs nowMs
  cases current : (run.book.entry id).attemptTokenMatches held.guard.token with
  | false =>
    apply AttemptPool.Effect.kept (finish_fewer _ _ _) <;>
      simp only [CircuitRun.pool, entry,
        RuntimeHealthState.finishSuccess_stale _ _ _ _ _ _ current]
  | true =>
    have same := (((run.book.entry id).matches_iff held.guard.token).mp current).1.symm
    cases probing : held.guard.token.probeId with
    | none =>
      have closed := inv.pool.plainClosed held.held (held.mem_pool member) probing same
      apply AttemptPool.Effect.kept (finish_fewer _ _ _) <;>
        simp only [CircuitRun.pool, entry]
      · exact RuntimeHealthState.finishSuccess_plain_gate _ _ _ _ _ _ current probing closed
      · exact (RuntimeHealthState.finishSuccess_closes _ _ _ _ _ _ current).trans closed.symm
    | some probe =>
      have isProbe : held.guard.token.probeId.isSome := by simp [probing]
      obtain ⟨untilMs, cooling, elapsed⟩ :=
        inv.pool.probeCooling held.held (held.mem_pool member) isProbe same
      refine .advanced held.guard.token (finish_fewer _ _ _) (.inr ?_) (.inr (.inr ?_))
      · simp only [CircuitRun.pool, entry]
        exact RuntimeHealthState.finishSuccess_probe_gate _ _ _ _ _ _ _ current cooling
          (Int.le_trans elapsed later)
      · exact ⟨held, status, latencyMs, nowMs, rfl, member, trivial, isProbe, current⟩

theorem finishFailure_effect (inv : CircuitInv id run) (held : HeldAttempt)
    (member : held ∈ run.outstanding) (status : Option Int)
    (errorType errorMessage : Option String) (nowMs : Int) (recovery : Prop) :
    AttemptPool.Effect recovery (run.pool id)
      ((run.finish held (held.guard.failure run.book status errorType errorMessage nowMs)
        nowMs).pool id) := by
  have entry := @finish_failure_entry id run held (inv.owned held member) status errorType
    errorMessage nowMs
  cases current : (run.book.entry id).attemptTokenMatches held.guard.token with
  | false =>
    apply AttemptPool.Effect.kept (finish_fewer _ _ _) <;>
      simp only [CircuitRun.pool, entry,
        RuntimeHealthState.finishFailure_stale _ _ _ _ _ _ _ _ current]
  | true =>
    obtain ⟨opens, gate⟩ := RuntimeHealthState.finishFailure_opens run.book.failureThreshold
      run.book.openDurationMs _ _ status errorType errorMessage nowMs current
    refine .advanced held.guard.token (finish_fewer _ _ _) (.inr ?_) (.inl ?_) <;>
      simp only [CircuitRun.pool, entry]
    · exact gate
    · exact opens

theorem CircuitStep.effect (taken : CircuitStep id run action next) (inv : CircuitInv id run) :
    AttemptPool.Effect (Recovery id run action fun _ => True) (run.pool id) (next.pool id) := by
  cases taken with
  | @begun nowMs guard later granted =>
    rw [RuntimeHealthBook.tryBeginAttempt_guard] at granted
    rcases (run.book.entry id).tryBeginAttempt_cases nowMs with
      ⟨closed, result⟩ | result | ⟨cooling, free, result⟩
    · simp only [result, Option.map_some, Option.some.injEq] at granted
      subst granted
      exact .issued rfl closed (by simp [CircuitRun.pool, result]) (by simp [CircuitRun.pool, result])
    · simp [result] at granted
    · simp only [result, Option.map_some, Option.some.injEq] at granted
      subst granted
      exact .probed rfl cooling free (by simp [CircuitRun.pool, result])
        (by simp [CircuitRun.pool, result])
  | @refused nowMs later denied =>
    rw [RuntimeHealthBook.tryBeginAttempt_guard] at denied
    rcases (run.book.entry id).tryBeginAttempt_cases nowMs with
      ⟨_, result⟩ | result | ⟨_, _, result⟩
    · simp [result] at denied
    · exact .kept (List.Sublist.refl _) (by simp [CircuitRun.pool, result])
        (by simp [CircuitRun.pool, result])
    · simp [result] at denied
  | success later member => exact finishSuccess_effect inv _ member _ _ _ later
  | failure later member => exact finishFailure_effect inv _ member _ _ _ _ _
  | neutral later member | drop later member => exact finishNeutral_effect inv _ member _ _
  | reset =>
    refine .advanced ⟨0, none⟩ (List.Sublist.refl _) (.inl ?_) (.inr (.inl rfl))
    simp [CircuitRun.pool, RuntimeHealthBook.reset, RuntimeHealthState.reset]
  | deferUntil =>
    refine .advanced ⟨0, none⟩ (List.Sublist.refl _) (.inl ?_) (.inl ?_) <;>
      simp [CircuitRun.pool, RuntimeHealthBook.deferUntil, RuntimeHealthState.deferUntil]

theorem CircuitStep.pool (taken : CircuitStep id run action next) (inv : CircuitInv id run) :
    AttemptPool.Step (Recovery id run action fun _ => True) (run.pool id) (next.pool id) :=
  ⟨taken.advances.1, taken.advances.2, taken.effect inv⟩

theorem CircuitStep.owned (taken : CircuitStep id run action next)
    (owned : ∀ held ∈ run.outstanding, held.guard.id = id) :
    ∀ held ∈ next.outstanding, held.guard.id = id := by
  cases taken with
  | @begun nowMs guard later granted =>
    intro held member
    rcases List.mem_cons.mp member with rfl | member
    · rw [RuntimeHealthBook.tryBeginAttempt_guard] at granted
      obtain ⟨token, _, rfl⟩ := Option.map_eq_some_iff.mp granted
      rfl
    · exact owned held member
  | success | failure | neutral | drop =>
    intro held member
    exact owned held (List.erase_subset member)
  | refused | reset | deferUntil => exact owned

theorem CircuitStep.preserves (taken : CircuitStep id run action next) (room : next.steps < 2 ^ 64)
    (inv : CircuitInv id run) : CircuitInv id next :=
  ⟨inv.pool.step (taken.pool inv) room, taken.owned inv.owned⟩

end Steps

end CodexGate.Health
