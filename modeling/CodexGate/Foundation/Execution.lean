import Mathlib.Data.List.Basic

namespace CodexGate.Foundation

structure Transition (σ α : Type) where
  before : σ
  action : α
  after : σ

/-- Finite runs of a labelled step relation, latest transition first in the history. -/
inductive Execution {σ α : Type} (step : σ → α → σ → Prop) (start : σ) :
    List (Transition σ α) → σ → Prop
  | start : Execution step start [] start
  | next {history : List (Transition σ α)} {s s' : σ} {action : α}
      (run : Execution step start history s) (taken : step s action s') :
      Execution step start (⟨s, action, s'⟩ :: history) s'

variable {σ α : Type} {step : σ → α → σ → Prop} {start : σ}

theorem Execution.invariant {P : List (Transition σ α) → σ → Prop} (base : P [] start)
    (keep : ∀ history s action s', P history s → step s action s' →
      P (⟨s, action, s'⟩ :: history) s')
    {history : List (Transition σ α)} {s : σ} (run : Execution step start history s) :
    P history s := by
  induction run with
  | start => exact base
  | next run taken ih => exact keep _ _ _ _ ih taken

theorem Execution.split {recent earlier : List (Transition σ α)} {s : σ}
    (run : Execution step start (recent ++ earlier) s) :
    ∃ middle, Execution step start earlier middle ∧ Execution step middle recent s := by
  induction recent generalizing s with
  | nil => exact ⟨s, run, .start⟩
  | cons latest recent ih =>
    cases run with
    | next run taken =>
      obtain ⟨middle, before, after⟩ := ih run
      exact ⟨middle, before, after.next taken⟩

theorem Execution.split_at {recent earlier : List (Transition σ α)} {t : Transition σ α} {s : σ}
    (run : Execution step start (recent ++ t :: earlier) s) :
    Execution step start earlier t.before ∧ step t.before t.action t.after ∧
      Execution step t.after recent s := by
  obtain ⟨middle, before, after⟩ := run.split
  cases before with
  | next before taken => exact ⟨before, taken, after⟩

theorem Execution.taken {history : List (Transition σ α)} {s : σ}
    (run : Execution step start history s) {t : Transition σ α} (member : t ∈ history) :
    step t.before t.action t.after := by
  obtain ⟨recent, earlier, same⟩ := List.append_of_mem member
  subst same
  exact run.split_at.2.1

/-- A property of each step of a history and the steps before it. -/
def Throughout (P : List (Transition σ α) → Transition σ α → Prop) : List (Transition σ α) → Prop
  | [] => True
  | t :: earlier => P earlier t ∧ Throughout P earlier

instance (P : List (Transition σ α) → Transition σ α → Prop) [∀ earlier t, Decidable (P earlier t)] :
    ∀ history, Decidable (Throughout P history)
  | [] => inferInstanceAs (Decidable True)
  | t :: earlier =>
    have := instDecidableThroughout P earlier
    inferInstanceAs (Decidable (P earlier t ∧ Throughout P earlier))

/-- The run of a system whose steps are computed; the latest action comes first. -/
def replay (compute : σ → α → Option σ) (start : σ) : List α → Option (List (Transition σ α) × σ)
  | [] => some ([], start)
  | action :: earlier => (replay compute start earlier).bind fun (history, s) =>
    (compute s action).map fun s' => (⟨s, action, s'⟩ :: history, s')

theorem replay_run {compute : σ → α → Option σ} {actions : List α}
    {history : List (Transition σ α)} {s : σ}
    (replayed : replay compute start actions = some (history, s)) :
    Execution (fun before action after => compute before action = some after) start history s := by
  induction actions generalizing history s with
  | nil =>
    cases replayed
    exact .start
  | cons action earlier ih =>
    obtain ⟨⟨history, s⟩, before, next⟩ := Option.bind_eq_some_iff.mp replayed
    obtain ⟨s', taken, same⟩ := Option.map_eq_some_iff.mp next
    cases same
    exact (ih before).next taken

end CodexGate.Foundation
