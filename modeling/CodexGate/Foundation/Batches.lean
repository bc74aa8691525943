import Mathlib.Data.List.Basic
import Mathlib.Data.List.Sort

namespace CodexGate.Foundation

variable {ρ κ : Type} [LinearOrder κ] (key : ρ → κ)

def earliest (count : Nat) (rows : List ρ) : List ρ :=
  (rows.insertionSort fun a b => key a ≤ key b).take count

def countBefore (rows : List ρ) (k : κ) : Nat :=
  rows.countP fun row => key row < k

variable {key}

theorem mem_of_mem_earliest {count : Nat} {rows : List ρ} {row : ρ}
    (member : row ∈ earliest key count rows) : row ∈ rows :=
  (List.mem_insertionSort _).mp (List.mem_of_mem_take member)

theorem mem_take_iff {rows : List ρ} (sorted : rows.Pairwise fun a b => key a < key b) (row : ρ)
    (count : Nat) :
    row ∈ rows.take count ↔ row ∈ rows ∧ countBefore key rows (key row) < count := by
  induction rows generalizing count with
  | nil => simp
  | cons first rest ih =>
    obtain ⟨before, sorted⟩ := List.pairwise_cons.mp sorted
    cases count with
    | zero => simp
    | succ count =>
      rw [List.take_succ_cons, List.mem_cons, List.mem_cons, ih sorted]
      by_cases same : row = first
      · subst same
        have none_before : countBefore key (row :: rest) (key row) = 0 := by
          unfold countBefore
          rw [List.countP_eq_zero]
          intro other member
          rcases List.mem_cons.mp member with rfl | member
          · simp
          · simp [le_of_lt (before other member)]
        simp [none_before]
      · have counted (member : row ∈ rest) :
            countBefore key (first :: rest) (key row) = countBefore key rest (key row) + 1 := by
          simp [countBefore, before row member]
        constructor
        · rintro (rfl | ⟨member, few⟩)
          · exact absurd rfl same
          · have := counted member
            exact ⟨.inr member, by omega⟩
        · rintro ⟨rfl | member, few⟩
          · exact absurd rfl same
          · have := counted member
            exact .inr ⟨member, by omega⟩

theorem mem_earliest_iff {rows : List ρ} (distinct : (rows.map key).Nodup) (row : ρ) (count : Nat) :
    row ∈ earliest key count rows ↔ row ∈ rows ∧ countBefore key rows (key row) < count := by
  have permuted := rows.perm_insertionSort fun a b => key a ≤ key b
  have weakly := rows.pairwise_insertionSort fun a b => key a ≤ key b
  have apart : (rows.insertionSort fun a b => key a ≤ key b).Pairwise fun a b => key a ≠ key b := by
    have := (permuted.map key).nodup_iff.mpr distinct
    exact List.pairwise_map.mp this
  have strictly := (weakly.and apart).imp fun ⟨le, ne⟩ => lt_of_le_of_ne le ne
  rw [earliest, mem_take_iff strictly, permuted.mem_iff]
  unfold countBefore
  rw [permuted.countP_eq]

end CodexGate.Foundation

namespace CodexGate.Foundation

structure Outbox (ρ : Type) where
  buffer : List ρ
  stored : List ρ

namespace Outbox

variable {ρ : Type} (rejects : ρ → Bool)

def clean (batch : List ρ) : Bool := !batch.any rejects

def add (box : Outbox ρ) (rows : List ρ) : Outbox ρ := ⟨box.buffer ++ rows, box.stored⟩

/-- What waits is handed on as one batch, which is stored whole or dropped whole. -/
def send (box : Outbox ρ) : Outbox ρ :=
  ⟨[], if clean rejects box.buffer then box.stored ++ box.buffer else box.stored⟩

variable {rejects}

theorem send_send (box : Outbox ρ) : (box.send rejects).send rejects = box.send rejects := by
  simp [send, clean]

theorem send_empty {box : Outbox ρ} (empty : box.buffer = []) : box.send rejects = box := by
  obtain ⟨buffer, stored⟩ := box
  cases empty
  simp [send, clean]

inductive Moves (rejects : ρ → Bool) (box : Outbox ρ) (rows : List ρ) : Outbox ρ → Prop
  | hold : Moves rejects box rows (box.add rows)
  | send : Moves rejects box rows ((box.add rows).send rejects)

def batchOf (box : Outbox ρ) (rows : List ρ) (next : Outbox ρ) : List (List ρ) :=
  if next.buffer.isEmpty then [box.buffer ++ rows] else []

/-- All rows so far are in a batch that has left the box or wait in it, and the rows of clean batches
are stored. -/
structure Accounts (rejects : ρ → Bool) (start : List ρ) (batches : List (List ρ)) (rows : List ρ)
    (box : Outbox ρ) : Prop where
  every : batches.flatten ++ box.buffer = rows
  stored : box.stored = start ++ (batches.filter (clean rejects)).flatten

theorem Accounts.moves {start rows more : List ρ} {batches : List (List ρ)} {box next : Outbox ρ}
    (accounts : Accounts rejects start batches rows box) (moves : Moves rejects box more next) :
    Accounts rejects start (batches ++ batchOf box more next) (rows ++ more) next := by
  have all_sent : Accounts rejects start (batches ++ [box.buffer ++ more]) (rows ++ more)
      ((box.add more).send rejects) := by
    refine ⟨?_, ?_⟩
    · rw [← accounts.every]
      simp [add, send]
    · rw [List.filter_append, List.flatten_append, ← List.append_assoc, ← accounts.stored]
      by_cases whole : clean rejects (box.buffer ++ more) = true
      · simp [add, send, whole]
      · simp [add, send, whole]
  cases moves with
  | send => exact all_sent
  | hold =>
    unfold batchOf
    split
    · rename_i empty
      have nothing : (box.add more).buffer = [] := List.isEmpty_iff.mp empty
      have same := @send_empty ρ rejects (box.add more) nothing
      rwa [same] at all_sent
    · refine ⟨?_, ?_⟩
      · rw [← accounts.every]
        simp [add]
      · rw [List.append_nil]
        exact accounts.stored

end Outbox

end CodexGate.Foundation
