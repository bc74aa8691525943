import CodexGate.Foundation.Deadlines
import CodexGate.Foundation.Machine

namespace CodexGate.Provider

open Foundation

structure QuotaState where
  remainingRequests : Option Int
  remainingTokens : Option Int
  resetAtMs : Option Int
  cooldownUntilMs : Option Int
  consecutiveRateLimits : Nat
  updatedAtMs : Option Int
  deriving DecidableEq

namespace QuotaState

def initial : QuotaState where
  remainingRequests := none
  remainingTokens := none
  resetAtMs := none
  cooldownUntilMs := none
  consecutiveRateLimits := 0
  updatedAtMs := none

def expire (state : QuotaState) (nowMs : Int) : QuotaState :=
  let state := if state.resetAtMs.any (· ≤ nowMs) then
    { state with remainingRequests := none, remainingTokens := none, resetAtMs := none }
  else state
  if state.cooldownUntilMs.any (· ≤ nowMs) then { state with cooldownUntilMs := none } else state

/-- The condition that `is_available` and `reserve_request` both spell out. -/
def available (state : QuotaState) (nowMs : Int) : Bool :=
  state.cooldownUntilMs.all (· ≤ nowMs) &&
    !state.resetAtMs.any fun resetAt => resetAt > nowMs &&
      (state.remainingRequests.any (· ≤ 0) || state.remainingTokens.any (· ≤ 0))

theorem expire_expire (state : QuotaState) {now later : Int} (order : now ≤ later) :
    (state.expire now).expire later = state.expire later := by
  have overdue : ∀ deadline : Option Int, deadline.any (· ≤ now) = true →
      deadline.any (· ≤ later) = true := by
    intro deadline passed
    obtain ⟨moment, present, before⟩ := (Option.any_eq_true _ _).mp passed
    exact (Option.any_eq_true _ _).mpr ⟨moment, present, decide_eq_true
      ((of_decide_eq_true before).trans order)⟩
  have reset := overdue state.resetAtMs
  have cooled := overdue state.cooldownUntilMs
  unfold expire
  grind

theorem expire_cooldownUntilMs (state : QuotaState) (nowMs : Int) :
    (state.expire nowMs).cooldownUntilMs = state.cooldownUntilMs.filter (nowMs < ·) := by
  unfold expire
  cases cooldown : state.cooldownUntilMs with
  | none => split <;> simp [cooldown]
  | some untilMs =>
    by_cases past : untilMs ≤ nowMs
    · split <;> simp [cooldown, past, Option.filter]
    · split <;> simp [cooldown, past, Option.filter, Int.not_le.mp past]

def exhausted (state : QuotaState) : Bool :=
  state.remainingRequests.any (· ≤ 0) || state.remainingTokens.any (· ≤ 0)

theorem available_expire_iff (state : QuotaState) (nowMs : Int) :
    (state.expire nowMs).available nowMs = true ↔
      Passed state.cooldownUntilMs nowMs ∧
        (state.exhausted = true → Passed state.resetAtMs nowMs) := by
  cases cooldown : state.cooldownUntilMs <;> cases reset : state.resetAtMs <;>
    simp [available, expire, exhausted, cooldown, reset] <;> grind

end QuotaState

structure QuotaRuntimeView where
  remainingRequests : Option Int := none
  remainingTokens : Option Int := none
  resetAtMs : Option Int := none
  cooldownUntilMs : Option Int := none
  consecutiveRateLimits : Nat := 0
  updatedAtMs : Option Int := none

def QuotaState.toView (state : QuotaState) : QuotaRuntimeView where
  remainingRequests := state.remainingRequests
  remainingTokens := state.remainingTokens
  resetAtMs := state.resetAtMs
  cooldownUntilMs := state.cooldownUntilMs
  consecutiveRateLimits := state.consecutiveRateLimits
  updatedAtMs := state.updatedAtMs

def QuotaRuntimeView.blockedUntilMs (view : QuotaRuntimeView) : Option Int :=
  if view.remainingRequests.any (· ≤ 0) || view.remainingTokens.any (· ≤ 0) then view.resetAtMs
  else none

theorem blockedUntilMs_expire (state : QuotaState) (nowMs : Int) :
    (state.expire nowMs).toView.blockedUntilMs =
      if state.exhausted then state.resetAtMs.filter (nowMs < ·) else none := by
  unfold QuotaRuntimeView.blockedUntilMs QuotaState.toView QuotaState.expire QuotaState.exhausted
  cases reset : state.resetAtMs <;> grind

structure QuotaBook where
  byKey : HashMap Int QuotaState

namespace QuotaBook

def new : QuotaBook := ⟨∅⟩

def entry (book : QuotaBook) (keyId : Int) : QuotaState :=
  (book.byKey.lookup keyId).getD .initial

def put (book : QuotaBook) (keyId : Int) (state : QuotaState) : QuotaBook :=
  ⟨book.byKey.insert keyId state⟩

def isAvailable (book : QuotaBook) (keyId nowMs : Int) : Bool × QuotaBook :=
  match book.byKey.lookup keyId with
  | none => (true, book)
  | some state =>
    let expired := state.expire nowMs
    (expired.available nowMs, book.put keyId expired)

def reserveRequest (book : QuotaBook) (keyId nowMs : Int) : Bool × QuotaBook :=
  let expired := (book.entry keyId).expire nowMs
  if expired.available nowMs then
    (true, book.put keyId { expired with
      remainingRequests := expired.remainingRequests.map (saturatingSubI64 · 1) })
  else (false, book.put keyId expired)

def snapshot (book : QuotaBook) (keyId nowMs : Int) : QuotaRuntimeView × QuotaBook :=
  match book.byKey.lookup keyId with
  | none => ({}, book)
  | some state =>
    let expired := state.expire nowMs
    (expired.toView, book.put keyId expired)

@[simp] theorem entry_put_same (book : QuotaBook) (keyId : Int) (state : QuotaState) :
    (book.put keyId state).entry keyId = state := by
  simp [entry, put]

theorem entry_put_ne (book : QuotaBook) {keyId other : Int} (state : QuotaState)
    (apart : other ≠ keyId) : (book.put keyId state).entry other = book.entry other := by
  simp [entry, put, AList.lookup_insert_ne apart]

theorem reserveRequest_refused {book : QuotaBook} {keyId nowMs : Int}
    (refused : (book.reserveRequest keyId nowMs).1 = false) (other : Int) :
    (book.reserveRequest keyId nowMs).2.entry other = book.entry other ∨
      (book.reserveRequest keyId nowMs).2.entry other = (book.entry other).expire nowMs := by
  have blocked : ((book.entry keyId).expire nowMs).available nowMs = false := by
    cases available : ((book.entry keyId).expire nowMs).available nowMs with
    | false => rfl
    | true => simp [reserveRequest, available] at refused
  by_cases same : other = keyId
  · subst same
    simp [reserveRequest, blocked]
  · simp [reserveRequest, blocked, entry_put_ne book _ same]

def SameFrom (nowMs : Int) (book other : QuotaBook) : Prop :=
  ∀ keyId later, nowMs ≤ later → (other.byKey.lookup keyId).map (·.expire later) =
    (book.byKey.lookup keyId).map (·.expire later)

theorem SameFrom.refl (nowMs : Int) (book : QuotaBook) : SameFrom nowMs book book :=
  fun _ _ _ => rfl

theorem SameFrom.trans {nowMs : Int} {book middle last : QuotaBook}
    (first : SameFrom nowMs book middle) (second : SameFrom nowMs middle last) :
    SameFrom nowMs book last :=
  fun keyId later order => (second keyId later order).trans (first keyId later order)

theorem isAvailable_eq (book : QuotaBook) (keyId nowMs : Int) :
    (book.isAvailable keyId nowMs).1 =
      ((book.byKey.lookup keyId).map (·.expire nowMs)).all (·.available nowMs) := by
  unfold isAvailable
  cases book.byKey.lookup keyId <;> rfl

theorem snapshot_eq (book : QuotaBook) (keyId nowMs : Int) :
    (book.snapshot keyId nowMs).1 =
      ((book.byKey.lookup keyId).map (·.expire nowMs)).elim {} (·.toView) := by
  unfold snapshot
  cases book.byKey.lookup keyId <;> rfl

theorem snapshot_sameFrom (book : QuotaBook) (keyId nowMs : Int) :
    SameFrom nowMs book (book.snapshot keyId nowMs).2 := by
  intro other later order
  unfold snapshot
  cases found : book.byKey.lookup keyId with
  | none => rfl
  | some state =>
    by_cases same : other = keyId
    · subst same
      simp [put, found, QuotaState.expire_expire state order]
    · simp [put, AList.lookup_insert_ne same]

theorem SameFrom.snapshot {nowMs : Int} {book other : QuotaBook} (same : SameFrom nowMs book other)
    (keyId : Int) : (other.snapshot keyId nowMs).1 = (book.snapshot keyId nowMs).1 := by
  rw [snapshot_eq, snapshot_eq, same keyId nowMs (le_refl nowMs)]

theorem SameFrom.isAvailable {nowMs : Int} {book other : QuotaBook}
    (same : SameFrom nowMs book other) (keyId : Int) {later : Int} (order : nowMs ≤ later) :
    (other.isAvailable keyId later).1 = (book.isAvailable keyId later).1 := by
  rw [isAvailable_eq, isAvailable_eq, same keyId later order]

theorem isAvailable_later_iff (book : QuotaBook) (keyId : Int) {nowMs later : Int}
    (order : nowMs ≤ later) : (book.isAvailable keyId later).1 = true ↔
      Passed (book.snapshot keyId nowMs).1.cooldownUntilMs later ∧
        Passed (book.snapshot keyId nowMs).1.blockedUntilMs later := by
  rw [isAvailable_eq, snapshot_eq]
  cases book.byKey.lookup keyId with
  | none => simp [QuotaRuntimeView.blockedUntilMs]
  | some state =>
    have cooldown : (state.expire nowMs).toView.cooldownUntilMs =
        state.cooldownUntilMs.filter (nowMs < ·) := state.expire_cooldownUntilMs nowMs
    simp only [Option.map_some, Option.all_some, Option.elim_some,
      QuotaState.available_expire_iff, cooldown, blockedUntilMs_expire, passed_filter order]
    refine and_congr_right fun _ => ?_
    by_cases exhausted : state.exhausted = true
    · simp [exhausted, passed_filter order]
    · simp [exhausted]

end QuotaBook

end CodexGate.Provider
