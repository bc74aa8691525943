import CodexGate.Foundation.Json
import Mathlib.Algebra.Order.Field.Rat
import Mathlib.Data.List.TakeWhile
import Mathlib.Tactic.FieldSimp
import Mathlib.Tactic.Positivity
import Mathlib.Tactic.Ring

namespace CodexGate.Foundation

/-- A decimal without a sign: a mantissa, and how many of its digits stand after the point. -/
structure PlainDecimal where
  mantissa : Nat
  scale : Nat
  deriving DecidableEq

namespace PlainDecimal

def value (d : PlainDecimal) : ℚ := d.mantissa / 10 ^ d.scale

def strip : Nat → Nat → PlainDecimal
  | mantissa, 0 => ⟨mantissa, 0⟩
  | mantissa, scale + 1 =>
    if mantissa % 10 = 0 then strip (mantissa / 10) scale else ⟨mantissa, scale + 1⟩

def normalize (d : PlainDecimal) : PlainDecimal := strip d.mantissa d.scale

def digits (d : PlainDecimal) : List Char :=
  List.replicate (d.scale + 1 - (Nat.toDigits 10 d.mantissa).length) '0' ++ Nat.toDigits 10 d.mantissa

def print (d : PlainDecimal) : String :=
  let whole := d.digits.length - d.scale
  if d.scale = 0 then String.ofList d.digits
  else String.ofList (d.digits.take whole ++ '.' :: d.digits.drop whole)

def parse (text : String) : Option PlainDecimal :=
  let whole := text.toList.takeWhile (· ≠ '.')
  match text.toList.dropWhile (· ≠ '.') with
  | [] => (parseDigits whole).map fun mantissa => ⟨mantissa, 0⟩
  | _ :: fraction => (parseDigits (whole ++ fraction)).map fun mantissa => ⟨mantissa, fraction.length⟩

def mul (a b : PlainDecimal) : PlainDecimal := ⟨a.mantissa * b.mantissa, a.scale + b.scale⟩

def add (a b : PlainDecimal) : PlainDecimal :=
  ⟨a.mantissa * 10 ^ b.scale + b.mantissa * 10 ^ a.scale, a.scale + b.scale⟩

def shift (a : PlainDecimal) (places : Nat) : PlainDecimal := ⟨a.mantissa, a.scale + places⟩

theorem value_nonneg (d : PlainDecimal) : 0 ≤ d.value := by
  unfold value
  positivity

@[simp] theorem value_mul (a b : PlainDecimal) : (a.mul b).value = a.value * b.value := by
  unfold value mul
  push_cast
  rw [pow_add]
  field_simp

@[simp] theorem value_add (a b : PlainDecimal) : (a.add b).value = a.value + b.value := by
  unfold value add
  push_cast
  rw [pow_add]
  field_simp

@[simp] theorem value_shift (a : PlainDecimal) (places : Nat) :
    (a.shift places).value = a.value / 10 ^ places := by
  unfold value shift
  rw [pow_add]
  field_simp

theorem value_strip (mantissa scale : Nat) : (strip mantissa scale).value = value ⟨mantissa, scale⟩ := by
  induction scale generalizing mantissa with
  | zero => rfl
  | succ scale ih =>
    rw [strip]
    split
    · rename_i zero
      have split := Nat.div_add_mod mantissa 10
      rw [zero, add_zero] at split
      rw [ih]
      unfold value
      rw [pow_succ, ← split]
      push_cast
      field_simp
      simp
    · rfl

@[simp] theorem value_normalize (d : PlainDecimal) : d.normalize.value = d.value := value_strip _ _

def Stripped (d : PlainDecimal) : Prop := d.scale = 0 ∨ d.mantissa % 10 ≠ 0

theorem strip_stripped (mantissa scale : Nat) : (strip mantissa scale).Stripped := by
  induction scale generalizing mantissa with
  | zero => exact .inl rfl
  | succ scale ih =>
    rw [strip]
    split
    · exact ih _
    · rename_i nonzero
      exact .inr nonzero

/-- Decimals that are equal and without trailing zeros are the same, the one with fewer places first. -/
theorem Stripped.eq_of_le {a b : PlainDecimal} (stripped : b.Stripped) (same : a.value = b.value)
    (places : a.scale ≤ b.scale) : a = b := by
  obtain ⟨m, s⟩ := a
  obtain ⟨n, t⟩ := b
  obtain ⟨more, rfl⟩ := Nat.exists_eq_add_of_le places
  have cross : n = m * 10 ^ more := by
    unfold value at same
    dsimp only at same
    rw [pow_add] at same
    have positive : (0 : ℚ) < 10 ^ s := by positivity
    field_simp at same
    exact_mod_cast same.symm
  cases more with
  | zero => simp [cross]
  | succ more =>
    rcases stripped with none | nonzero
    · simp at none
    · refine absurd ?_ nonzero
      show n % 10 = 0
      rw [cross, pow_succ, ← mul_assoc]
      exact Nat.mul_mod_left _ _

theorem normalize_eq_of_value {a b : PlainDecimal} (same : a.value = b.value) :
    a.normalize = b.normalize := by
  have same' : a.normalize.value = b.normalize.value := by simpa using same
  rcases Nat.le_total a.normalize.scale b.normalize.scale with fewer | more
  · exact (strip_stripped _ _).eq_of_le same' fewer
  · exact ((strip_stripped _ _).eq_of_le same'.symm more).symm

theorem parseDigits_zeros (zeros n : Nat) :
    parseDigits (List.replicate zeros '0' ++ Nat.toDigits 10 n) = some n := by
  induction zeros with
  | zero => exact Json.parseDigits_toDigits n
  | succ zeros ih =>
    have nonempty : List.replicate zeros '0' ++ Nat.toDigits 10 n ≠ [] := by simp
    unfold parseDigits at ih ⊢
    split at ih
    · rename_i read
      rw [List.replicate_succ, List.cons_append, if_pos ⟨by simp, by simpa using read.2⟩]
      exact ih
    · cases ih

theorem digits_length (d : PlainDecimal) : d.scale < d.digits.length := by
  unfold digits
  rw [List.length_append, List.length_replicate]
  omega

theorem digits_ne_point (d : PlainDecimal) : ∀ c ∈ d.digits, c ≠ '.' := by
  rintro c member rfl
  rcases List.mem_append.mp member with zero | digit
  · exact absurd (List.eq_of_mem_replicate zero) (by decide)
  · have isDigit := Nat.isDigit_of_mem_toDigits (by decide) (by decide) digit
    revert isDigit
    decide

theorem takeWhile_point {whole fraction : List Char} (before : ∀ c ∈ whole, c ≠ '.') :
    (whole ++ '.' :: fraction).takeWhile (· ≠ '.') = whole := by
  rw [List.takeWhile_append_of_pos (by simpa using before)]
  simp

theorem dropWhile_point {whole fraction : List Char} (before : ∀ c ∈ whole, c ≠ '.') :
    (whole ++ '.' :: fraction).dropWhile (· ≠ '.') = '.' :: fraction := by
  rw [List.dropWhile_append_of_pos (by simpa using before)]
  simp

theorem parse_print (d : PlainDecimal) : parse d.print = some d := by
  have read : parseDigits d.digits = some d.mantissa := parseDigits_zeros _ _
  have long := d.digits_length
  unfold parse print
  by_cases whole : d.scale = 0
  · have taken : d.digits.takeWhile (· ≠ '.') = d.digits :=
      List.takeWhile_eq_self_iff.mpr (by simpa using d.digits_ne_point)
    have dropped : d.digits.dropWhile (· ≠ '.') = [] :=
      List.dropWhile_eq_nil_iff.mpr (by simpa using d.digits_ne_point)
    simp only [if_pos whole, String.toList_ofList, dropped, taken, read, Option.map_some, Option.some.injEq]
    rw [← whole]
  · have before : ∀ c ∈ d.digits.take (d.digits.length - d.scale), c ≠ '.' := fun c member =>
      d.digits_ne_point c (List.mem_of_mem_take member)
    have fraction : (d.digits.drop (d.digits.length - d.scale)).length = d.scale := by
      rw [List.length_drop]
      omega
    simp only [if_neg whole, String.toList_ofList, takeWhile_point before, dropWhile_point before,
      List.take_append_drop, read, Option.map_some, fraction]

end PlainDecimal

end CodexGate.Foundation
