import Mathlib.Algebra.Group.Int.Defs
import Mathlib.Algebra.Group.Nat.Defs
import Mathlib.Data.List.AList

namespace CodexGate.Foundation

/-- Finite maps with at most one value for each key. -/
abbrev HashMap (κ ν : Type) := AList fun _ : κ => ν

def retain {κ ν : Type} (keep : κ → ν → Bool) (table : HashMap κ ν) : HashMap κ ν where
  entries := table.entries.filter fun entry => keep entry.1 entry.2
  nodupKeys := table.nodupKeys.sublist (List.filter_sublist)

theorem lookup_retain {κ ν : Type} [DecidableEq κ] (keep : κ → ν → Bool) (table : HashMap κ ν)
    (key : κ) : (retain keep table).lookup key = (table.lookup key).filter (keep key) := by
  refine Option.ext fun row => ?_
  have kept : ⟨key, row⟩ ∈ (retain keep table).entries ↔
      ⟨key, row⟩ ∈ table.entries ∧ keep key row = true := List.mem_filter
  rw [← Option.mem_def, AList.mem_lookup_iff, kept, ← AList.mem_lookup_iff, Option.filter_eq_some_iff]
  rfl

abbrev I32 := { n : Int // -2 ^ 31 ≤ n ∧ n < 2 ^ 31 }

/-- The nearest `i32`. -/
def i32 (n : Int) : I32 := ⟨max (-2 ^ 31) (min n (2 ^ 31 - 1)), by omega⟩

def u32Max : Nat := 2 ^ 32 - 1
def u64Max : Nat := 2 ^ 64 - 1
def i64Max : Int := 2 ^ 63 - 1
def i64Min : Int := -2 ^ 63

def saturatingAddU32 (a b : Nat) : Nat := min (a + b) u32Max
def saturatingAddU64 (a b : Nat) : Nat := min (a + b) u64Max

/-- The nearest `i64`, which is what the saturating operations return. -/
def clampI64 (n : Int) : Int := max i64Min (min n i64Max)

def saturatingAddI64 (a b : Int) : Int := clampI64 (a + b)
def saturatingSubI64 (a b : Int) : Int := clampI64 (a - b)
def saturatingMulI64 (a b : Int) : Int := clampI64 (a * b)

/-- The `i64` that the operators leave of `n` in a release build. -/
def wrapI64 (n : Int) : Int := n.bmod (2 ^ 64)

/-- The `i32` that a cast or an operator leaves of `n` in a release build. -/
def wrapI32 (n : Int) : Int := n.bmod (2 ^ 32)

theorem clampI64_of_fits {n : Int} (low : i64Min ≤ n) (high : n ≤ i64Max) : clampI64 n = n := by
  unfold clampI64
  omega

theorem clampI64_le (n : Int) : clampI64 n ≤ i64Max := by
  unfold clampI64
  simp only [i64Min, i64Max]
  omega

theorem saturatingAddU32_pos (a : Nat) : 0 < saturatingAddU32 a 1 := by
  unfold saturatingAddU32 u32Max
  omega

theorem saturatingAddU32_eq {a b : Nat} (fits : a + b ≤ u32Max) : saturatingAddU32 a b = a + b :=
  Nat.min_eq_left fits

section Checks

variable {ε α β : Type}

def okOr (error : ε) : Option α → Except ε α
  | some value => .ok value
  | none => .error error

theorem okOr_eq_ok {error : ε} {found : Option α} {value : α} :
    okOr error found = .ok value ↔ found = some value := by
  cases found with
  | none => simp [okOr]
  | some there => simp [okOr]

theorem bind_eq_ok {first : Except ε α} {next : α → Except ε β} {result : β} :
    first >>= next = .ok result ↔ ∃ value, first = .ok value ∧ next value = .ok result := by
  cases first with
  | error error => simp [bind, Except.bind]
  | ok value => simp [bind, Except.bind]

theorem refused_eq_ok {refuse : Prop} [Decidable refuse] {error : ε} {next : Except ε α} {result : α} :
    (if refuse then .error error else next) = .ok result ↔ ¬ refuse ∧ next = .ok result := by
  by_cases refused : refuse
  · simp [refused]
  · simp [refused]

end Checks

end CodexGate.Foundation
