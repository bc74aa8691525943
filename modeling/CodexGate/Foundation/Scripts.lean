import Mathlib.Data.List.Basic

namespace CodexGate.Foundation

variable {σ π φ : Type}

abbrev Block (σ : Type) := σ → List (σ → σ)

def execute (statements : List (σ → σ)) (state : σ) : σ :=
  statements.foldl (fun reached statement => statement reached) state

namespace Block

def run (block : Block σ) (state : σ) : σ := execute (block state) state

def cut (block : Block σ) (done : Nat) (state : σ) : σ := execute ((block state).take done) state

end Block

def runAll (blocks : π → Block σ) (script : List π) (state : σ) : σ :=
  script.foldl (fun reached step => (blocks step).run reached) state

def stopped (blocks : π → Block σ) (script : List π) (steps statements : Nat) (state : σ) : σ :=
  match script[steps]? with
  | none => runAll blocks script state
  | some step => (blocks step).cut statements (runAll blocks (script.take steps) state)

section Execute

variable {blocks : π → Block σ}

theorem runAll_append (script later : List π) (state : σ) :
    runAll blocks (script ++ later) state = runAll blocks later (runAll blocks script state) :=
  List.foldl_append

theorem runAll_cons (step : π) (script : List π) (state : σ) :
    runAll blocks (step :: script) state = runAll blocks script ((blocks step).run state) := rfl

theorem execute_keeps {p : σ → Prop} {statements : List (σ → σ)}
    (each : ∀ statement ∈ statements, ∀ state, p state → p (statement state)) {state : σ}
    (held : p state) : p (execute statements state) := by
  induction statements generalizing state with
  | nil => exact held
  | cons statement rest ih =>
    exact ih (fun later there => each later (List.mem_cons_of_mem statement there))
      (each statement List.mem_cons_self state held)

theorem runAll_keeps {p : σ → Prop} {script : List π}
    (each : ∀ step ∈ script, ∀ state, ∀ statement ∈ blocks step state, ∀ reached,
      p reached → p (statement reached)) {state : σ} (held : p state) :
    p (runAll blocks script state) := by
  induction script generalizing state with
  | nil => exact held
  | cons step rest ih =>
    refine ih (fun later there => each later (List.mem_cons_of_mem step there)) ?_
    exact execute_keeps (each step List.mem_cons_self state) held

theorem cut_all {block : Block σ} {done : Nat} {state : σ} (all : (block state).length ≤ done) :
    block.cut done state = block.run state := by
  rw [Block.cut, Block.run, List.take_of_length_le all]

theorem run_unless (test : σ → Bool) (statements : List (σ → σ)) (state : σ) :
    Block.run (fun reached => if test reached then [] else statements) state =
      if test state then state else execute statements state := by
  rw [Block.run]
  split <;> rfl

theorem run_when (test : σ → Bool) (statements : List (σ → σ)) (state : σ) :
    Block.run (fun reached => if test reached then statements else []) state =
      if test state then execute statements state else state := by
  rw [Block.run]
  split <;> rfl

end Execute

/-- What a step needs to hold before it, what holds after it, and what it may undo. -/
structure Contract (π φ : Type) where
  needs : π → List φ
  facts : π → List φ
  breaks : π → φ → Bool

structure Contract.Sound (contract : Contract π φ) (blocks : π → Block σ) (holds : φ → σ → Prop) :
    Prop where
  gives : ∀ step state, (∀ fact ∈ contract.needs step, holds fact state) →
    ∀ fact ∈ contract.facts step, holds fact ((blocks step).run state)
  keeps : ∀ step fact statements state, contract.breaks step fact = false → holds fact state →
    holds fact ((blocks step).cut statements state)

namespace Contract

variable [DecidableEq φ] (contract : Contract π φ)

/-- Each step finds what it needs and breaks nothing that an earlier one has left. -/
def check : List φ → List π → Bool
  | _, [] => true
  | known, step :: rest =>
    (contract.needs step).all (fun fact => fact ∈ known) &&
      known.all (fun fact => !contract.breaks step fact) &&
      check (known ++ contract.facts step) rest

variable {contract} {blocks : π → Block σ} {holds : φ → σ → Prop}

omit [DecidableEq φ] in
theorem Sound.keeps_run (sound : contract.Sound blocks holds) {step : π} {fact : φ} {state : σ}
    (kept : contract.breaks step fact = false) (held : holds fact state) :
    holds fact ((blocks step).run state) := by
  have cut := sound.keeps step fact (blocks step state).length state kept held
  rwa [cut_all (Nat.le_refl _)] at cut

omit [DecidableEq φ] in
theorem Sound.keeps_runAll (sound : contract.Sound blocks holds) {script : List π} {fact : φ}
    {state : σ} (kept : ∀ step ∈ script, contract.breaks step fact = false)
    (held : holds fact state) : holds fact (runAll blocks script state) := by
  induction script generalizing state with
  | nil => exact held
  | cons step rest ih =>
    have after := sound.keeps_run (kept step List.mem_cons_self) held
    exact ih (fun later there => kept later (List.mem_cons_of_mem step there)) after

def restrict (contract : Contract π φ) (kind : φ → Bool) : Contract π φ where
  needs := contract.needs
  facts step := (contract.facts step).filter kind
  breaks := contract.breaks

omit [DecidableEq φ] in
theorem Sound.restrict (sound : contract.Sound blocks holds) (kind : φ → Bool) :
    (contract.restrict kind).Sound blocks holds where
  gives step state needed fact there := sound.gives step state needed fact (List.mem_of_mem_filter there)
  keeps := sound.keeps

theorem check_cons {known : List φ} {step : π} {rest : List π}
    (checked : contract.check known (step :: rest) = true) :
    (∀ fact ∈ contract.needs step, fact ∈ known) ∧
      (∀ fact ∈ known, contract.breaks step fact = false) ∧
      contract.check (known ++ contract.facts step) rest = true := by
  simp only [check, Bool.and_eq_true, List.all_eq_true, decide_eq_true_eq, Bool.not_eq_true'] at checked
  exact ⟨checked.1.1, checked.1.2, checked.2⟩

theorem Sound.established (sound : contract.Sound blocks holds) {known : List φ} {script : List π}
    {state : σ} (checked : contract.check known script = true)
    (held : ∀ fact ∈ known, holds fact state) :
    ∀ fact ∈ known ++ script.flatMap contract.facts, holds fact (runAll blocks script state) := by
  induction script generalizing known state with
  | nil =>
    intro fact there
    rw [List.flatMap_nil, List.append_nil] at there
    exact held fact there
  | cons step rest ih =>
    obtain ⟨needed, kept, rest_checked⟩ := check_cons checked
    have after : ∀ fact ∈ known ++ contract.facts step, holds fact ((blocks step).run state) := by
      intro fact there
      rcases List.mem_append.mp there with before | new
      · exact sound.keeps_run (kept fact before) (held fact before)
      · exact sound.gives step state (fun need needs => held need (needed need needs)) fact new
    have reached := ih rest_checked after
    rw [List.append_assoc, ← List.flatMap_cons] at reached
    exact reached

theorem check_append {known : List φ} {script later : List π}
    (checked : contract.check known (script ++ later) = true) :
    contract.check known script = true ∧
      contract.check (known ++ script.flatMap contract.facts) later = true := by
  induction script generalizing known with
  | nil => simpa [check] using checked
  | cons step rest ih =>
    rw [List.cons_append] at checked
    obtain ⟨needed, kept, rest_checked⟩ := check_cons checked
    have parts := ih rest_checked
    constructor
    · simp only [check, Bool.and_eq_true, List.all_eq_true, decide_eq_true_eq, Bool.not_eq_true']
      exact ⟨⟨needed, kept⟩, parts.1⟩
    · rw [List.flatMap_cons, ← List.append_assoc]
      exact parts.2

end Contract

/-! A script that is run again up to what the steps that have already been made may change. -/

section Again

variable {blocks : π → Block σ} {same : σ → σ → Prop}

theorem runAll_again (refl : ∀ state, same state state)
    (trans : ∀ {first second third}, same first second → same second third → same first third)
    {done : List π} {state : σ}
    (settled : ∀ step ∈ done, ∀ other, same other state → same ((blocks step).run other) other) :
    same (runAll blocks done state) state := by
  suffices general : ∀ other, same other state → same (runAll blocks done other) state from
    general state (refl state)
  induction done with
  | nil => exact fun other there => there
  | cons step rest ih =>
    intro other there
    have first := trans (settled step List.mem_cons_self other there) there
    exact ih (fun later after => settled later (List.mem_cons_of_mem step after)) _ first

end Again

end CodexGate.Foundation
