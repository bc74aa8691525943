import Mathlib

namespace CodexGate.Foundation

variable {α : Type} [Preorder α]

structure Tiled (windows : List (α × α)) : Prop where
  proper : ∀ window ∈ windows, window.1 < window.2
  adjacent : windows.IsChain fun window next => next.1 = window.2

theorem tiled_nil : Tiled ([] : List (α × α)) := ⟨by simp, .nil⟩

theorem Tiled.snoc {windows : List (α × α)} (tiled : Tiled windows) {start stop : α}
    (proper : start < stop) (follows : ∀ last ∈ windows.getLast?, start = last.2) :
    Tiled (windows ++ [(start, stop)]) := by
  refine ⟨?_, ?_⟩
  · intro window member
    obtain member | member := List.mem_append.mp member
    · exact tiled.proper window member
    · rw [List.mem_singleton] at member
      subst member
      exact proper
  · refine List.isChain_append.mpr ⟨tiled.adjacent, .singleton _, ?_⟩
    intro last there next member
    simp only [List.head?_cons, Option.mem_def, Option.some.injEq] at member
    subst member
    exact follows last there

theorem Tiled.of_snoc {windows : List (α × α)} {window : α × α}
    (tiled : Tiled (windows ++ [window])) :
    Tiled windows ∧ ∀ last ∈ windows.getLast?, window.1 = last.2 := by
  obtain ⟨before, _, follows⟩ := List.isChain_append.mp tiled.adjacent
  refine ⟨⟨fun other member => tiled.proper other (List.mem_append_left _ member), before⟩, ?_⟩
  intro last there
  exact follows last there window (by simp)

theorem Tiled.tail {window : α × α} {windows : List (α × α)} (tiled : Tiled (window :: windows)) :
    Tiled windows :=
  ⟨fun other member => tiled.proper other (List.mem_cons_of_mem _ member), tiled.adjacent.tail⟩

theorem Tiled.after {window : α × α} {windows : List (α × α)} (tiled : Tiled (window :: windows)) :
    ∀ later ∈ windows, window.2 ≤ later.1 := by
  induction windows generalizing window with
  | nil => simp
  | cons next windows ih =>
    have begins := (List.isChain_cons_cons.mp tiled.adjacent).1
    intro later member
    obtain same | member := List.mem_cons.mp member
    · rw [same, begins]
    · have nonempty := tiled.proper next (by simp)
      have rest := ih tiled.tail later member
      rw [begins] at nonempty
      exact nonempty.le.trans rest

theorem Tiled.end_le_last {windows : List (α × α)} (tiled : Tiled windows) {window last : α × α}
    (member : window ∈ windows) (ends : last ∈ windows.getLast?) : window.2 ≤ last.2 := by
  induction windows with
  | nil => cases member
  | cons first windows ih =>
    cases windows with
    | nil =>
      have same : first = last := by simpa using ends
      rw [List.mem_singleton.mp member, same]
    | cons next windows =>
      have later : last ∈ (next :: windows).getLast? := by simpa using ends
      obtain same | member := List.mem_cons.mp member
      · have inside := List.mem_of_getLast? later
        have before := tiled.after last inside
        rw [same]
        exact before.trans (tiled.proper last (List.mem_cons_of_mem _ inside)).le
      · exact ih tiled.tail member later

theorem Tiled.disjoint {windows : List (α × α)} (tiled : Tiled windows) :
    windows.Pairwise fun window later =>
      Disjoint (Set.Ico window.1 window.2) (Set.Ico later.1 later.2) := by
  induction windows with
  | nil => exact .nil
  | cons window windows ih =>
    refine List.pairwise_cons.mpr ⟨?_, ih tiled.tail⟩
    intro later member
    refine Set.disjoint_left.mpr fun moment inside within => ?_
    have ends := tiled.after later member
    exact lt_irrefl moment (inside.2.trans_le (ends.trans within.1))

end CodexGate.Foundation
