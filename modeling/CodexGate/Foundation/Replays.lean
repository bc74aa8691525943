import Mathlib.Data.List.Basic

namespace CodexGate.Foundation

variable {β φ ε : Type}

/-- A body of frames that ends or breaks off with an error; `repeats` where it gives its error
again when it is polled after it. -/
structure Incoming (φ ε : Type) where
  frames : List φ
  error : Option ε
  repeats : Bool

def Incoming.poll : Incoming φ ε → Option (Except ε φ) × Incoming φ ε
  | ⟨frame :: rest, error, repeats⟩ => (some (.ok frame), ⟨rest, error, repeats⟩)
  | ⟨[], some error, repeats⟩ =>
    (some (.error error), ⟨[], if repeats then some error else none, repeats⟩)
  | ⟨[], none, repeats⟩ => (none, ⟨[], none, repeats⟩)

/-- Polling until the end gives the frames and the error, if there is one. -/
inductive Reads (poll : β → Option (Except ε φ) × β) : β → List φ → Option ε → Prop
  | ended {body : β} (isOver : (poll body).1 = none) : Reads poll body [] none
  | broken {body : β} {error : ε} (failed : (poll body).1 = some (.error error)) :
    Reads poll body [] (some error)
  | frame {body : β} {frame : φ} {frames : List φ} {error : Option ε}
    (given : (poll body).1 = some (.ok frame)) (rest : Reads poll (poll body).2 frames error) :
    Reads poll body (frame :: frames) error

theorem Reads.unique {poll : β → Option (Except ε φ) × β} {body : β} {frames others : List φ}
    {error other : Option ε} (first : Reads poll body frames error)
    (second : Reads poll body others other) : frames = others ∧ error = other := by
  induction first generalizing others other with
  | ended isOver =>
    cases second with
    | ended _ => exact ⟨rfl, rfl⟩
    | broken failed => rw [isOver] at failed; cases failed
    | frame given _ => rw [isOver] at given; cases given
  | broken failed =>
    cases second with
    | ended isOver => rw [failed] at isOver; cases isOver
    | broken again =>
      rw [failed] at again
      cases again
      exact ⟨rfl, rfl⟩
    | frame given _ => rw [failed] at given; cases given
  | frame given _ ih =>
    cases second with
    | ended isOver => rw [given] at isOver; cases isOver
    | broken failed => rw [given] at failed; cases failed
    | frame again rest =>
      rw [given] at again
      cases again
      obtain ⟨rfl, rfl⟩ := ih rest
      exact ⟨rfl, rfl⟩

end CodexGate.Foundation
