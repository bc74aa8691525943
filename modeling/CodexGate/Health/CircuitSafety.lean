import CodexGate.Health.Circuit

namespace CodexGate.Health

open Foundation

abbrev CircuitHistory := List (Transition CircuitRun CircuitAction)

/-- A failure of a current attempt or a deferral. Either leaves the circuit with a deadline. -/
def Opening (id : Int) (t : Transition CircuitRun CircuitAction) : Prop :=
  (∃ held status errorType errorMessage nowMs,
    t.action = .failure held status errorType errorMessage nowMs ∧
      (t.before.book.entry id).attemptTokenMatches held.guard.token = true) ∨
  ∃ untilMs, t.action = .deferUntil untilMs

def CircuitAction.result : CircuitAction → Option HeldAttempt
  | .success held _ _ _ | .failure held _ _ _ _ | .neutral held _ | .drop held _ => some held
  | .tryBeginAttempt _ | .reset | .deferUntil _ => none

/-- The entry differs at most in its two totals and in the latency average. -/
def CountsOnly (before after : RuntimeHealthState) : Prop :=
  after = { before with
    successCount := after.successCount
    failureCount := after.failureCount
    latencyEwmaMs := after.latencyEwmaMs }

section

variable {id : Int} {run next : CircuitRun} {action : CircuitAction}

theorem CircuitStep.stale_result (taken : CircuitStep id run action next) (inv : CircuitInv id run)
    {held : HeldAttempt} (reported : action.result = some held)
    (stale : (run.book.entry id).attemptTokenMatches held.guard.token = false) :
    CountsOnly (run.book.entry id) (next.book.entry id) := by
  cases taken with
  | begun | refused | reset | deferUntil => cases reported
  | success later member =>
    cases reported
    have owned := inv.owned held member
    simp [CountsOnly, CircuitRun.finish, RuntimeHealthAttemptGuard.success,
      RuntimeHealthBook.finishSuccess, owned, RuntimeHealthState.finishSuccess_stale _ _ _ _ _ _ stale]
  | failure later member =>
    cases reported
    have owned := inv.owned held member
    simp [CountsOnly, CircuitRun.finish, RuntimeHealthAttemptGuard.failure,
      RuntimeHealthBook.finishFailure, owned,
      RuntimeHealthState.finishFailure_stale _ _ _ _ _ _ _ _ stale]
  | neutral later member =>
    cases reported
    have owned := inv.owned held member
    simp [CountsOnly, CircuitRun.finish, RuntimeHealthAttemptGuard.neutral, owned,
      RuntimeHealthState.finishNeutral_stale _ _ _ stale]
  | drop later member =>
    cases reported
    have owned := inv.owned held member
    simp [CountsOnly, CircuitRun.finish, RuntimeHealthAttemptGuard.drop, owned,
      RuntimeHealthState.finishNeutral_stale _ _ _ stale]

theorem CircuitStep.result_outstanding (taken : CircuitStep id run action next)
    {held : HeldAttempt} (reported : action.result = some held) : held ∈ run.outstanding := by
  cases taken <;> cases reported <;> assumption

theorem Opening.retires (taken : CircuitStep id run action next)
    (opening : Opening id ⟨run, action, next⟩) (room : next.steps < 2 ^ 64)
    (inv : CircuitInv id run) :
    (next.book.entry id).openUntilMs.isSome ∧ (next.pool id).Retired run.steps := by
  have steps := taken.advances.1
  rcases opening with ⟨held, status, errorType, errorMessage, nowMs, acted, current⟩ | ⟨untilMs, acted⟩
  · simp only at acted current
    subst acted
    cases taken with
    | failure later member =>
      have entry := @finish_failure_entry id run held (inv.owned held member) status errorType
        errorMessage nowMs
      obtain ⟨opens, gate⟩ := RuntimeHealthState.finishFailure_opens run.book.failureThreshold
        run.book.openDurationMs _ _ status errorType errorMessage nowMs current
      refine ⟨entry ▸ opens, fun other member _ => ?_⟩
      exact (inv.pool.advance held.guard.token steps room (finish_fewer _ _ _)
        (.inr (by simp only [CircuitRun.pool, entry]; exact gate))).2 other member
  · simp only at acted
    subst acted
    cases taken with
    | deferUntil =>
      have gate : ((CircuitRun.mk (run.book.deferUntil id untilMs) run.outstanding run.clock
          (run.steps + 1)).pool id).gate = (run.pool id).gate.advanceGeneration := by
        simp [CircuitRun.pool, RuntimeHealthBook.deferUntil, RuntimeHealthState.deferUntil]
      have fewer : ((CircuitRun.mk (run.book.deferUntil id untilMs) run.outstanding run.clock
          (run.steps + 1)).pool id).held.Sublist (run.pool id).held := List.Sublist.refl _
      refine ⟨by simp [RuntimeHealthBook.deferUntil, RuntimeHealthState.deferUntil],
        fun other member _ => ?_⟩
      exact (inv.pool.advance ⟨0, none⟩ steps room fewer (.inl gate)).2 other member

end

section Runs

variable {id : Int} {start run : CircuitRun} {history : CircuitHistory}

theorem circuit_steps (execution : Execution (CircuitStep id) start history run) :
    run.steps = start.steps + history.length := by
  refine execution.invariant (P := fun history run => run.steps = start.steps + history.length)
    rfl fun history s action s' known taken => ?_
  have steps := taken.advances.1
  simp only [List.length_cons]
  omega

theorem circuit_invariant (execution : Execution (CircuitStep id) start history run)
    (base : CircuitInv id start) (short : run.steps < 2 ^ 64) : CircuitInv id run := by
  refine execution.invariant (P := fun _ run => run.steps < 2 ^ 64 → CircuitInv id run)
    (fun _ => base) (fun history s action s' known taken room => ?_) short
  have steps := taken.advances.1
  exact taken.preserves room (known (by omega))

/-- From an opening on, either the circuit was recovered through an attempt begun after it, or it
    still has a deadline; attempts begun before the opening stay retired in both cases. -/
theorem after_opening {mark : Nat} (execution : Execution (CircuitStep id) start history run)
    (base : CircuitInv id start) (deadline : (start.book.entry id).openUntilMs.isSome)
    (retired : (start.pool id).Retired mark) (reached : mark < start.steps)
    (short : run.steps < 2 ^ 64) :
    (run.pool id).Retired mark ∧
      ((∃ t ∈ history, Recovery id t.before t.action fun held => mark < held.born) ∨
        (run.book.entry id).openUntilMs.isSome) := by
  refine (execution.invariant
    (P := fun history run => mark < run.steps ∧ (run.steps < 2 ^ 64 → CircuitInv id run ∧
      (run.pool id).Retired mark ∧
      ((∃ t ∈ history, Recovery id t.before t.action fun held => mark < held.born) ∨
        (run.book.entry id).openUntilMs.isSome)))
    ⟨reached, fun _ => ⟨base, retired, .inr deadline⟩⟩
    fun history s action s' known taken => ?_).2 short |>.2
  obtain ⟨passed, known⟩ := known
  have steps := taken.advances.1
  refine ⟨by omega, fun room => ?_⟩
  obtain ⟨inv, retired, state⟩ := known (by omega)
  refine ⟨taken.preserves room inv, retired.step passed inv.pool (taken.pool inv) room, ?_⟩
  rcases state with ⟨t, member, recovered⟩ | deadline
  · exact .inl ⟨t, List.mem_cons_of_mem _ member, recovered⟩
  · rcases (taken.pool inv).keeps_deadline deadline with deadline | recovery
    · exact .inr deadline
    · refine .inl ⟨⟨s, action, s'⟩, List.mem_cons_self, ?_⟩
      rcases recovery with reset | ⟨held, status, latencyMs, nowMs, acted, member, _, probing, current⟩
      · exact .inl reset
      · refine .inr ⟨held, status, latencyMs, nowMs, acted, member, ?_, probing, current⟩
        refine Nat.lt_of_not_le fun old => ?_
        have gone := retired.not_matches (held.mem_pool member) old
        exact absurd current (by simpa [CircuitRun.pool, HeldAttempt.held] using gone)

/-- What a run on one id never breaks, whatever is outstanding and in whatever order. -/
structure CircuitSafe (id : Int) (history : CircuitHistory) (run : CircuitRun) : Prop where
  blocked : ∀ nowMs untilMs, (run.book.entry id).openUntilMs = some untilMs → untilMs > nowMs →
    (run.book.tryBeginAttempt id nowMs).1 = none
  oneProbe : ∀ a ∈ run.outstanding, ∀ b ∈ run.outstanding,
    a.guard.token.probeId.isSome → b.guard.token.probeId.isSome →
    a.guard.isCurrent run.book = true → b.guard.isCurrent run.book = true → a = b
  recovers : ∀ recent opening earlier, history = recent ++ opening :: earlier →
    Opening id opening → ∀ nowMs, (run.book.entry id).stateKind nowMs = .closed →
    ∃ t ∈ recent, Recovery id t.before t.action fun held => earlier.length < held.born
  lateResults : ∀ recent opening earlier, history = recent ++ opening :: earlier →
    Opening id opening → ∀ t ∈ recent, ∀ held, t.action.result = some held →
    held.born ≤ earlier.length → CountsOnly (t.before.book.entry id) (t.after.book.entry id)

theorem runtimeHealth_circuit_safety (failureThreshold : Nat) (openDurationMs startMs id : Int)
    {history : CircuitHistory} {run : CircuitRun}
    (execution : Execution (CircuitStep id) (.fresh failureThreshold openDurationMs startMs)
      history run)
    (short : history.length < 2 ^ 64) : CircuitSafe id history run := by
  have base := CircuitInv.fresh id failureThreshold openDurationMs startMs
  have counted := circuit_steps execution
  simp only [CircuitRun.fresh, Nat.zero_add] at counted
  have inv := circuit_invariant execution base (by omega)
  have opened : ∀ recent opening earlier, history = recent ++ opening :: earlier →
      Opening id opening → Execution (CircuitStep id) opening.after recent run ∧
        CircuitInv id opening.after ∧ (opening.after.book.entry id).openUntilMs.isSome ∧
        (opening.after.pool id).Retired earlier.length ∧
        opening.after.steps = earlier.length + 1 := by
    intro recent opening earlier split opens
    subst split
    obtain ⟨before, taken, after⟩ := execution.split_at
    have countedBefore := circuit_steps before
    have countedOpening := taken.advances.1
    simp only [CircuitRun.fresh, Nat.zero_add] at countedBefore
    simp only [List.length_append, List.length_cons] at short counted
    have invBefore := circuit_invariant before base (by omega)
    obtain ⟨deadline, retired⟩ := Opening.retires taken opens (by omega) invBefore
    rw [countedBefore] at retired
    exact ⟨after, taken.preserves (by omega) invBefore, deadline, retired, by omega⟩
  refine ⟨?_, ?_, ?_, ?_⟩
  · intro nowMs untilMs opened later
    rw [RuntimeHealthBook.tryBeginAttempt_guard,
      RuntimeHealthState.tryBeginAttempt_blocked _ _ _ opened later]
    rfl
  · intro a memberA b memberB probeA probeB currentA currentB
    obtain ⟨i, hi, atI⟩ := List.mem_iff_getElem.mp memberA
    obtain ⟨j, hj, atJ⟩ := List.mem_iff_getElem.mp memberB
    have entryA := RuntimeHealthBook.isCurrent_entry currentA
    have entryB := RuntimeHealthBook.isCurrent_entry currentB
    rw [inv.owned a memberA] at entryA
    rw [inv.owned b memberB] at entryB
    have same : i = j := inv.pool.sound.current_probe_unique
      (by simp [AttemptPool.tokens, CircuitRun.pool, List.getElem?_eq_getElem hi, atI,
        HeldAttempt.held])
      (by simp [AttemptPool.tokens, CircuitRun.pool, List.getElem?_eq_getElem hj, atJ,
        HeldAttempt.held]) probeA probeB entryA entryB
    subst same
    exact atI.symm.trans atJ
  · intro recent opening earlier split opens nowMs closed
    obtain ⟨after, invOpened, deadline, retired, reached⟩ := opened _ _ _ split opens
    rcases (after_opening after invOpened deadline retired (by omega) (by omega)).2 with
      recovered | pending
    · exact recovered
    · rw [(circuitKind_closed_iff _ _).mp closed] at pending
      cases pending
  · intro recent opening earlier split opens t member held reported old
    obtain ⟨after, invOpened, deadline, retired, reached⟩ := opened _ _ _ split opens
    obtain ⟨later, past, same⟩ := List.append_of_mem member
    subst same
    obtain ⟨reaching, taken, _⟩ := after.split_at
    have countedT := circuit_steps reaching
    have countedPast := taken.advances.1
    simp only [split, List.length_append, List.length_cons] at short
    have invT := circuit_invariant reaching invOpened (by omega)
    have retiredT := (after_opening reaching invOpened deadline retired (by omega) (by omega)).1
    exact taken.stale_result invT reported
      (retiredT.not_matches (held.mem_pool (taken.result_outstanding reported)) old)

/-- The first failure on entry 7 opens its circuit for thirty seconds. -/
theorem runtimeHealth_circuit_safety_first_failure :
    ∃ history run, history.length = 2 ∧
      (run.book.entry 7).openUntilMs = some 30000 ∧ CircuitSafe 7 history run := by
  have begun : CircuitStep 7 (.fresh 3 30000 0) (.tryBeginAttempt 0) _ :=
    .begun (Int.le_refl 0) rfl
  have failed := (Execution.start.next begun).next (@CircuitStep.failure 7 _ ⟨0, ⟨7, 1, none⟩⟩
    (some 503) none none 0 (Int.le_refl 0) (by exact List.mem_cons_self))
  exact ⟨_, _, rfl, by decide, runtimeHealth_circuit_safety 3 30000 0 7 failed (by decide)⟩

end Runs

end CodexGate.Health
