import Mathlib.Data.List.Basic

namespace CodexGate.Foundation

variable {α : Type} [DecidableEq α]

/-- The lines that `separator` completes, without it, and what follows the last one. -/
def splitLines (separator : α) : List α → List (List α) × List α
  | [] => ([], [])
  | a :: rest =>
    if a = separator then ([] :: (splitLines separator rest).1, (splitLines separator rest).2)
    else
      match splitLines separator rest with
      | ([], tail) => ([], a :: tail)
      | (line :: lines, tail) => ((a :: line) :: lines, tail)

/-- The runs of items that an item with `ends` closes, with that item, and what follows the last. -/
def splitRuns {α : Type} (ends : α → Bool) : List α → List (List α × α) × List α
  | [] => ([], [])
  | a :: rest =>
    if ends a then (([], a) :: (splitRuns ends rest).1, (splitRuns ends rest).2)
    else
      match splitRuns ends rest with
      | ([], tail) => ([], a :: tail)
      | ((run, last) :: runs, tail) => ((a :: run, last) :: runs, tail)

theorem splitLines_cons_separator (separator : α) (rest : List α) :
    splitLines separator (separator :: rest) =
      ([] :: (splitLines separator rest).1, (splitLines separator rest).2) := by
  simp [splitLines]

theorem splitLines_append (separator : α) (first second : List α) :
    splitLines separator (first ++ second) =
      ((splitLines separator first).1 ++
          (splitLines separator ((splitLines separator first).2 ++ second)).1,
        (splitLines separator ((splitLines separator first).2 ++ second)).2) := by
  induction first with
  | nil => rfl
  | cons a rest ih =>
    by_cases ends : a = separator
    · subst ends
      simp only [List.cons_append, splitLines_cons_separator, ih]
    · rcases split : splitLines separator rest with ⟨lines, tail⟩
      rw [split] at ih
      cases lines with
      | nil =>
        simp only [List.nil_append] at ih
        simp only [List.cons_append, splitLines, ends, if_false, split, ih, List.nil_append]
      | cons line lines =>
        simp only [List.cons_append, splitLines, ends, if_false, split, ih]

theorem splitLines_rest_length (separator : α) (items : List α) :
    (splitLines separator items).2.length ≤ items.length := by
  induction items with
  | nil => exact Nat.le_refl 0
  | cons a rest ih =>
    by_cases ends : a = separator
    · subst ends
      rw [splitLines_cons_separator]
      exact Nat.le_succ_of_le ih
    · rcases split : splitLines separator rest with ⟨_ | ⟨line, lines⟩, tail⟩
      · rw [split] at ih
        simp only [splitLines, ends, if_false, split, List.length_cons]
        exact Nat.succ_le_succ ih
      · rw [split] at ih
        simp only [splitLines, ends, if_false, split, List.length_cons]
        exact Nat.le_succ_of_le ih

theorem splitLines_rest (separator : α) (items : List α) :
    splitLines separator (splitLines separator items).2 = ([], (splitLines separator items).2) := by
  induction items with
  | nil => rfl
  | cons a rest ih =>
    by_cases ends : a = separator
    · subst ends
      rw [splitLines_cons_separator]
      exact ih
    · rcases split : splitLines separator rest with ⟨_ | ⟨line, lines⟩, tail⟩
      · rw [split] at ih
        simp only [splitLines, ends, if_false, split]
        rw [show splitLines separator tail = ([], tail) from ih]
      · rw [split] at ih
        simp only [splitLines, ends, if_false, split]
        exact ih

theorem splitLines_length (separator : α) (items : List α) :
    (splitLines separator items).1.length = items.count separator := by
  induction items with
  | nil => rfl
  | cons a rest ih =>
    by_cases ends : a = separator
    · subst ends
      rw [splitLines_cons_separator, List.count_cons_self, List.length_cons, ih]
    · rw [List.count_cons_of_ne ends, ← ih]
      rcases split : splitLines separator rest with ⟨_ | ⟨line, lines⟩, tail⟩
      · simp only [splitLines, ends, if_false, split]
      · simp only [splitLines, ends, if_false, split, List.length_cons]

theorem splitLines_singleton (separator : α) (items : List α) (a : α) :
    (splitLines separator ((splitLines separator items).2 ++ [a])).1.length ≤ 1 := by
  have none := splitLines_length separator (splitLines separator items).2
  rw [splitLines_rest, List.length_nil] at none
  rw [splitLines_length, List.count_append, ← none, Nat.zero_add]
  exact List.count_le_length

theorem splitLines_of_free {separator : α} {items : List α} (free : ∀ a ∈ items, a ≠ separator)
    (rest : List α) :
    splitLines separator (items ++ separator :: rest) =
      (items :: (splitLines separator rest).1, (splitLines separator rest).2) := by
  induction items with
  | nil => exact splitLines_cons_separator separator rest
  | cons a items ih =>
    have apart := free a List.mem_cons_self
    have later := ih fun b member => free b (List.mem_cons_of_mem a member)
    simp only [List.cons_append, splitLines, if_neg apart, later]

theorem splitLines_snoc_of_ne {separator a : α} (apart : a ≠ separator) (items : List α) :
    splitLines separator (items ++ [a]) =
      ((splitLines separator items).1, (splitLines separator items).2 ++ [a]) := by
  induction items with
  | nil => simp [splitLines, apart]
  | cons b items ih =>
    rcases split : splitLines separator items with ⟨_ | ⟨line, lines⟩, tail⟩ <;>
      rw [split] at ih <;> simp only [List.cons_append, splitLines, ih, split] <;> split <;> rfl

theorem splitLines_snoc_separator (separator : α) (items : List α) :
    splitLines separator (items ++ [separator]) =
      ((splitLines separator items).1 ++ [(splitLines separator items).2], []) := by
  induction items with
  | nil => simp [splitLines]
  | cons b items ih =>
    rcases split : splitLines separator items with ⟨_ | ⟨line, lines⟩, tail⟩ <;>
      rw [split] at ih <;> simp only [List.cons_append, splitLines, ih, split] <;> split <;> rfl

omit [DecidableEq α] in
theorem splitRuns_snoc (ends : α → Bool) (items : List α) (a : α) :
    splitRuns ends (items ++ [a]) =
      if ends a then
        ((splitRuns ends items).1 ++ [((splitRuns ends items).2, a)], [])
      else ((splitRuns ends items).1, (splitRuns ends items).2 ++ [a]) := by
  induction items with
  | nil => simp [splitRuns]
  | cons b items ih =>
    by_cases here : ends b = true <;> by_cases last : ends a = true
    · simp [splitRuns, here, last, ih]
    · simp [splitRuns, here, last, ih]
    · rcases split : splitRuns ends items with ⟨_ | ⟨run, runs⟩, tail⟩ <;>
        simp [splitRuns, here, last, ih, split]
    · rcases split : splitRuns ends items with ⟨_ | ⟨run, runs⟩, tail⟩ <;>
        simp [splitRuns, here, last, ih, split]

end CodexGate.Foundation
