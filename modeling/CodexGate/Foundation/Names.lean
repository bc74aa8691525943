import Mathlib.Data.List.Perm.Subperm

namespace CodexGate.Foundation

/-! Names that are taken from numbered candidates until one is free. -/

section Fresh

variable {α : Type} [DecidableEq α]

theorem exists_fresh {candidates blocked relevant : List α} (distinct : candidates.Nodup)
    (covered : ∀ candidate ∈ candidates, candidate ∈ blocked → candidate ∈ relevant)
    (fewer : relevant.length < candidates.length) :
    ∃ candidate ∈ candidates, candidate ∉ blocked := by
  by_contra taken
  simp only [not_exists, not_and, not_not] at taken
  have inside : candidates ⊆ relevant := fun candidate there => covered candidate there (taken candidate there)
  have bound := (List.subperm_of_subset distinct inside).length_le
  omega

theorem find_fresh {candidates blocked relevant : List α} (distinct : candidates.Nodup)
    (covered : ∀ candidate ∈ candidates, candidate ∈ blocked → candidate ∈ relevant)
    (fewer : relevant.length < candidates.length) :
    ∃ candidate ∈ candidates, candidate ∉ blocked ∧
      candidates.find? (fun candidate => candidate ∉ blocked) = some candidate := by
  obtain ⟨free, there, unused⟩ := exists_fresh distinct covered fewer
  cases found : candidates.find? (fun candidate => candidate ∉ blocked) with
  | none =>
    have none_free := List.find?_eq_none.mp found free there
    simp [unused] at none_free
  | some candidate =>
    have free := List.find?_some found
    exact ⟨candidate, List.mem_of_find?_eq_some found, by simpa using free, rfl⟩

end Fresh

section Numbered

theorem separated_inj {separator : Char} {start other last final : List Char}
    (clean : separator ∉ last) (pure : separator ∉ final)
    (same : start ++ separator :: last = other ++ separator :: final) :
    start = other ∧ last = final := by
  have ends : ∀ (start last : List Char), separator ∉ last →
      (start ++ separator :: last).reverse.takeWhile (· ≠ separator) = last.reverse := by
    intro start last clean
    rw [List.reverse_append, List.reverse_cons, List.append_assoc]
    rw [List.takeWhile_append_of_pos]
    · simp
    · intro c there
      have inside : c ∈ last := List.mem_reverse.mp there
      simpa using fun equal : c = separator => clean (equal ▸ inside)
  have lasts : last.reverse = final.reverse := by
    rw [← ends start last clean, ← ends other final pure, same]
  have equal : last = final := List.reverse_injective lasts
  subst equal
  exact ⟨List.append_cancel_right same, rfl⟩

theorem not_mem_toDigits {c : Char} (other : c.isDigit = false) (n : Nat) : c ∉ Nat.toDigits 10 n := by
  intro there
  have digit := Nat.isDigit_of_mem_toDigits (by decide) (by decide) there
  rw [other] at digit
  cases digit

theorem toDigits_inj {n m : Nat} (same : Nat.toDigits 10 n = Nat.toDigits 10 m) : n = m := by
  have back := congrArg (fun digits => Nat.ofDigitChars 10 digits 0) same
  simpa [Nat.ofDigitChars_ten_toDigits] using back

end Numbered

end CodexGate.Foundation
