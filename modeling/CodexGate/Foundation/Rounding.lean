import Mathlib.Algebra.Order.Field.Rat
import Mathlib.Algebra.Order.Group.Abs
import Mathlib.Tactic.Linarith
import Mathlib.Tactic.Positivity
import Mathlib.Tactic.Ring

namespace CodexGate.Foundation

/-- A result that is off by at most so many units of a relative precision, or of an absolute one below
one. -/
structure Within (precision units result exact : ℚ) : Prop where
  positive : 0 ≤ result
  error : |result - exact| ≤ units * precision * max 1 exact

/-- What an operation on numbers below a limit gives: the nearest one, or nothing past the limit. -/
def Rounded {α : Type} (value : α → ℚ) (limit precision : ℚ) (result : Option α) (exact : ℚ) : Prop :=
  match result with
  | none => limit ≤ exact
  | some found => exact < limit ∧ Within precision 1 (value found) exact

namespace Rounded

variable {α : Type} {value : α → ℚ} {limit precision exact : ℚ} {result : Option α}

theorem none_iff (rounded : Rounded value limit precision result exact) :
    result = none ↔ limit ≤ exact := by
  cases result with
  | none => exact ⟨fun _ => rounded, fun _ => rfl⟩
  | some found => exact ⟨nofun, fun past => absurd rounded.1 (not_lt.mpr past)⟩

theorem exists_of_lt (rounded : Rounded value limit precision result exact) (fits : exact < limit) :
    ∃ found, result = some found ∧ Within precision 1 (value found) exact := by
  cases result with
  | none => exact absurd fits (not_lt.mpr rounded)
  | some found => exact ⟨found, rfl, rounded.2⟩

end Rounded

namespace Within

variable {precision units more result other exact actual : ℚ}

theorem self (small : 0 ≤ precision) (units_nonneg : 0 ≤ units) (positive : 0 ≤ exact) :
    Within precision units exact exact := by
  refine ⟨positive, ?_⟩
  rw [sub_self, abs_zero]
  positivity

theorem le (within : Within precision units result exact) (few : units * precision ≤ 1) :
    result ≤ exact + max 1 exact := by
  have error := (abs_le.mp within.error).2
  have most := mul_le_mul_of_nonneg_right few (show 0 ≤ max 1 exact by positivity)
  linarith

theorem div (within : Within precision units result exact) {divisor : ℚ} (divides : 1 ≤ divisor)
    (small : 0 ≤ precision) (units_nonneg : 0 ≤ units) (few : units * precision ≤ 1)
    (rounded : Within precision 1 actual (result / divisor)) :
    Within precision (units + 2) actual (exact / divisor) := by
  have positive : 0 < divisor := by linarith
  have least : 1 ≤ max 1 (exact / divisor) := le_max_left _ _
  have largest : exact / divisor ≤ max 1 (exact / divisor) := le_max_right _ _
  have shrinks : max 1 exact / divisor ≤ max 1 (exact / divisor) := by
    rw [← max_div_div_right positive.le]
    exact max_le_max_right _ ((div_le_one positive).mpr divides)
  have quotient : result / divisor ≤ 2 * max 1 (exact / divisor) := by
    have above := div_le_div_of_nonneg_right (within.le few) positive.le
    rw [add_div] at above
    linarith
  have cut : |result / divisor - exact / divisor| ≤ units * precision * max 1 (exact / divisor) := by
    rw [← sub_div, abs_div, abs_of_pos positive]
    calc |result - exact| / divisor
        ≤ units * precision * max 1 exact / divisor := div_le_div_of_nonneg_right within.error positive.le
      _ = units * precision * (max 1 exact / divisor) := mul_div_assoc _ _ _
      _ ≤ units * precision * max 1 (exact / divisor) := mul_le_mul_of_nonneg_left shrinks (by positivity)
  have last : |actual - result / divisor| ≤ precision * (2 * max 1 (exact / divisor)) := by
    refine rounded.error.trans ?_
    rw [one_mul]
    exact mul_le_mul_of_nonneg_left (max_le (by linarith) quotient) small
  refine ⟨rounded.positive, ?_⟩
  calc |actual - exact / divisor|
      ≤ |actual - result / divisor| + |result / divisor - exact / divisor| := abs_sub_le _ _ _
    _ ≤ precision * (2 * max 1 (exact / divisor)) + units * precision * max 1 (exact / divisor) :=
        add_le_add last cut
    _ = (units + 2) * precision * max 1 (exact / divisor) := by ring

theorem add (first : Within precision units result exact) {exact' : ℚ} (exact_nonneg : 0 ≤ exact)
    (exact_nonneg' : 0 ≤ exact') (second : Within precision more other exact') (small : 0 ≤ precision)
    (units_nonneg : 0 ≤ units) (more_nonneg : 0 ≤ more) (few : (units + more) * precision ≤ 1)
    (rounded : Within precision 1 actual (result + other)) :
    Within precision (units + more + 2) actual (exact + exact') := by
  have least : 1 ≤ max 1 (exact + exact') := le_max_left _ _
  have largest : exact + exact' ≤ max 1 (exact + exact') := le_max_right _ _
  have left : |result - exact| ≤ units * precision * max 1 (exact + exact') :=
    first.error.trans (mul_le_mul_of_nonneg_left (max_le_max_left _ (by linarith)) (by positivity))
  have right : |other - exact'| ≤ more * precision * max 1 (exact + exact') :=
    second.error.trans (mul_le_mul_of_nonneg_left (max_le_max_left _ (by linarith)) (by positivity))
  have cut : |result + other - (exact + exact')| ≤ (units + more) * precision * max 1 (exact + exact') := by
    rw [add_sub_add_comm]
    calc |result - exact + (other - exact')|
        ≤ |result - exact| + |other - exact'| := abs_add_le _ _
      _ ≤ units * precision * max 1 (exact + exact') + more * precision * max 1 (exact + exact') :=
          add_le_add left right
      _ = (units + more) * precision * max 1 (exact + exact') := by ring
  have sum : result + other ≤ 2 * max 1 (exact + exact') := by
    have above := (abs_le.mp cut).2
    have most := mul_le_mul_of_nonneg_right few (show 0 ≤ max 1 (exact + exact') by positivity)
    linarith
  have last : |actual - (result + other)| ≤ precision * (2 * max 1 (exact + exact')) := by
    refine rounded.error.trans ?_
    rw [one_mul]
    exact mul_le_mul_of_nonneg_left (max_le (by linarith) sum) small
  refine ⟨rounded.positive, ?_⟩
  calc |actual - (exact + exact')|
      ≤ |actual - (result + other)| + |result + other - (exact + exact')| := abs_sub_le _ _ _
    _ ≤ precision * (2 * max 1 (exact + exact')) + (units + more) * precision * max 1 (exact + exact') :=
        add_le_add last cut
    _ = (units + more + 2) * precision * max 1 (exact + exact') := by ring

end Within

end CodexGate.Foundation
