import CodexGate.Provider.Model

namespace CodexGate.Resilience

open Foundation Provider

def maxAttempts : Nat := 3

structure AttemptBudget where
  used : Nat
  deadline : Nat
  setupCredit : Bool
  sentByProvider : HashMap Int Nat

/-- What `begin` reads while it runs: the clock three times, once after the sleep, and a draw. -/
structure BeginReadings where
  startedAt : Nat
  checkedAt : Nat
  jitterMs : Fin 251
  wokenAt : Nat
  deriving Inhabited

namespace AttemptBudget

def new (timeout now : Nat) : AttemptBudget where
  used := 0
  deadline := now + timeout
  setupCredit := false
  sentByProvider := ∅

def remaining (budget : AttemptBudget) (now : Nat) : Nat := budget.deadline - now

def available (budget : AttemptBudget) (now : Nat) : Bool :=
  budget.used < maxAttempts && budget.remaining now != 0

def sentTo (budget : AttemptBudget) (providerId : Int) : Nat :=
  (budget.sentByProvider.lookup providerId).getD 0

def providerAvailable (budget : AttemptBudget) (providerId : Int) (configuredMax : I32) : Bool :=
  budget.sentTo providerId < atLeastOne configuredMax

def noteSend (budget : AttemptBudget) (providerId : Int) : AttemptBudget :=
  { budget with
    sentByProvider := budget.sentByProvider.insert providerId (budget.sentTo providerId + 1) }

def begin (budget : AttemptBudget) (readings : BeginReadings) : Bool × AttemptBudget :=
  let budget := { budget with setupCredit := false }
  if !budget.available readings.startedAt then (false, budget)
  else
    let delay := (500 * 2 ^ (budget.used - 1) + readings.jitterMs.val) * 1000000
    if 0 < budget.used ∧ budget.remaining readings.checkedAt ≤ delay then (false, budget)
    else if budget.remaining readings.wokenAt = 0 then (false, budget)
    else (true, { budget with used := budget.used + 1 })

def creditConnectedSetup (budget : AttemptBudget) : AttemptBudget :=
  { budget with setupCredit := true }

def beginTurn (budget : AttemptBudget) (readings : BeginReadings) : Bool × AttemptBudget :=
  if budget.setupCredit then
    (budget.remaining readings.startedAt != 0, { budget with setupCredit := false })
  else budget.begin readings

def beginForProvider (budget : AttemptBudget) (providerId : Int) (configuredMax : I32)
    (turn : Bool) (readings : BeginReadings) : Bool × AttemptBudget :=
  if turn && budget.setupCredit then budget.beginTurn readings
  else if budget.providerAvailable providerId configuredMax then budget.begin readings
  else (false, budget)

@[simp] theorem sentTo_noteSend_same (budget : AttemptBudget) (providerId : Int) :
    (budget.noteSend providerId).sentTo providerId = budget.sentTo providerId + 1 := by
  simp [noteSend, sentTo]

theorem sentTo_noteSend_ne (budget : AttemptBudget) {providerId other : Int}
    (apart : other ≠ providerId) :
    (budget.noteSend providerId).sentTo other = budget.sentTo other := by
  simp [noteSend, sentTo, AList.lookup_insert_ne apart]

theorem begin_cases (budget : AttemptBudget) (readings : BeginReadings) :
    (budget.begin readings = (true, { budget with setupCredit := false, used := budget.used + 1 }) ∧
        budget.used < maxAttempts) ∨
      budget.begin readings = (false, { budget with setupCredit := false }) := by
  unfold begin
  dsimp only
  split
  · exact Or.inr rfl
  rename_i available
  split
  · exact Or.inr rfl
  split
  · exact Or.inr rfl
  · refine Or.inl ⟨rfl, ?_⟩
    simp only [Bool.not_eq_true', Bool.not_eq_false, AttemptBudget.available, Bool.and_eq_true,
      decide_eq_true_eq] at available
    exact available.1

/-- A turn begins with the credit of its connect, or with an attempt of its own on a provider
    that has room for it. -/
theorem beginForProvider_cases (budget : AttemptBudget) (providerId : Int) (configuredMax : I32)
    (turn : Bool) (readings : BeginReadings) :
    (turn = true ∧ budget.setupCredit = true ∧
        budget.beginForProvider providerId configuredMax turn readings =
          (true, { budget with setupCredit := false })) ∨
      (budget.providerAvailable providerId configuredMax = true ∧ budget.used < maxAttempts ∧
        budget.beginForProvider providerId configuredMax turn readings =
          (true, { budget with setupCredit := false, used := budget.used + 1 })) ∨
      ∃ credit, (credit = true → budget.setupCredit = true) ∧
        budget.beginForProvider providerId configuredMax turn readings =
          (false, { budget with setupCredit := credit }) := by
  unfold beginForProvider
  split
  · rename_i credited
    simp only [Bool.and_eq_true] at credited
    rw [beginTurn, if_pos credited.2]
    cases budget.remaining readings.startedAt != 0 with
    | true => exact Or.inl ⟨credited.1, credited.2, rfl⟩
    | false => exact Or.inr (Or.inr ⟨false, nofun, rfl⟩)
  split
  · rename_i available
    rcases budget.begin_cases readings with ⟨begins, room⟩ | refuses
    · exact Or.inr (Or.inl ⟨available, room, begins⟩)
    · exact Or.inr (Or.inr ⟨false, nofun, refuses⟩)
  · exact Or.inr (Or.inr ⟨budget.setupCredit, id, rfl⟩)

end AttemptBudget

end CodexGate.Resilience
