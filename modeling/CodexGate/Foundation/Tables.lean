import CodexGate.Foundation.Machine
import Mathlib.Algebra.BigOperators.Group.Finset.Basic

namespace CodexGate.Foundation

variable {κ κ' ν ν' M : Type} [DecidableEq κ] [DecidableEq κ']

def worth [Zero M] (weight : κ → ν → M) (table : HashMap κ ν) (key : κ) : M :=
  (table.lookup key).elim 0 (weight key)

def total [AddCommMonoid M] (weight : κ → ν → M) (table : HashMap κ ν) : M :=
  (table.entries.map fun entry => weight entry.1 entry.2).sum

section Worth

variable [Zero M] {weight : κ → ν → M}

theorem worth_of_lookup {table : HashMap κ ν} {key : κ} {row : ν}
    (found : table.lookup key = some row) : worth weight table key = weight key row := by
  rw [worth, found, Option.elim_some]

theorem worth_of_missing {table : HashMap κ ν} {key : κ} (missing : table.lookup key = none) :
    worth weight table key = 0 := by
  rw [worth, missing, Option.elim_none]

theorem worth_congr {table other : HashMap κ ν} {key : κ}
    (same : table.lookup key = other.lookup key) :
    worth weight table key = worth weight other key := by
  rw [worth, worth, same]

theorem worth_insert_self (table : HashMap κ ν) (key : κ) (row : ν) :
    worth weight (table.insert key row) key = weight key row :=
  worth_of_lookup (AList.lookup_insert table)

theorem worth_insert_of_ne (table : HashMap κ ν) {key other : κ} (row : ν) (apart : other ≠ key) :
    worth weight (table.insert key row) other = worth weight table other :=
  worth_congr (AList.lookup_insert_ne apart)

end Worth

section Total

variable [AddCommMonoid M] (weight : κ → ν → M)

omit [DecidableEq κ'] in
theorem total_eq_sum (table : HashMap κ ν) {keys : Finset κ}
    (held : ∀ key, key ∉ keys → table.lookup key = none) :
    total weight table = ∑ key ∈ keys, worth weight table key := by
  induction table using AList.insertRec generalizing keys with
  | H0 =>
    have nothing : ∀ key ∈ keys, worth weight (∅ : HashMap κ ν) key = 0 := fun key _ =>
      worth_of_missing (AList.lookup_empty key)
    rw [Finset.sum_eq_zero nothing]
    rfl
  | IH key row table fresh ih =>
    have inside : key ∈ keys := by
      by_contra outside
      have missing := held key outside
      rw [AList.lookup_insert] at missing
      cases missing
    have rest : ∀ other, other ∉ keys.erase key → table.lookup other = none := by
      intro other outside
      by_cases same : other = key
      · rw [same]
        exact AList.lookup_eq_none.mpr fresh
      · have missing := held other fun there => outside (Finset.mem_erase.mpr ⟨same, there⟩)
        rwa [AList.lookup_insert_ne same] at missing
    have others : ∀ other ∈ keys.erase key,
        worth weight (table.insert key row) other = worth weight table other := by
      intro other there
      exact worth_insert_of_ne table row (Finset.ne_of_mem_erase there)
    rw [← Finset.add_sum_erase keys _ inside, worth_insert_self, Finset.sum_congr rfl others, ← ih rest,
      total, AList.entries_insert_of_notMem fresh, List.map_cons, List.sum_cons]
    rfl

def keysOf (table : HashMap κ ν) : Finset κ := table.keys.toFinset

theorem missing_of_not_keysOf {table : HashMap κ ν} {key : κ} (outside : key ∉ keysOf table) :
    table.lookup key = none := by
  rw [AList.lookup_eq_none, AList.mem_keys]
  exact fun there => outside (List.mem_toFinset.mpr there)

theorem total_eq_add {ν₁ ν₂ : Type} {weight₁ : κ → ν₁ → M} {weight₂ : κ → ν₂ → M}
    {table : HashMap κ ν} {first : HashMap κ ν₁} {second : HashMap κ ν₂}
    (rows : ∀ key, worth weight table key = worth weight₁ first key + worth weight₂ second key) :
    total weight table = total weight₁ first + total weight₂ second := by
  let keys := keysOf table ∪ keysOf first ∪ keysOf second
  have whole : ∀ key, key ∉ keys → table.lookup key = none := fun key outside =>
    missing_of_not_keysOf fun there => outside (by simp [keys, there])
  have left : ∀ key, key ∉ keys → first.lookup key = none := fun key outside =>
    missing_of_not_keysOf fun there => outside (by simp [keys, there])
  have right : ∀ key, key ∉ keys → second.lookup key = none := fun key outside =>
    missing_of_not_keysOf fun there => outside (by simp [keys, there])
  rw [total_eq_sum weight table whole, total_eq_sum weight₁ first left,
    total_eq_sum weight₂ second right, ← Finset.sum_add_distrib]
  exact Finset.sum_congr rfl fun key _ => rows key

theorem total_replaced (table next : HashMap κ ν) (key : κ)
    (others : ∀ other, other ≠ key → worth weight next other = worth weight table other) :
    total weight next + worth weight table key = total weight table + worth weight next key := by
  let keys := keysOf next ∪ keysOf table ∪ {key}
  have within : ∀ {part : HashMap κ ν}, keysOf part ⊆ keys →
      ∀ other, other ∉ keys → part.lookup other = none := fun subset other outside =>
    missing_of_not_keysOf fun there => outside (subset there)
  have after := @within next fun _ there => by simp [keys, there]
  have before := @within table fun _ there => by simp [keys, there]
  have inside : key ∈ keys := by simp [keys]
  have rest : ∑ other ∈ keys.erase key, worth weight next other =
      ∑ other ∈ keys.erase key, worth weight table other :=
    Finset.sum_congr rfl fun other there => others other (Finset.ne_of_mem_erase there)
  rw [total_eq_sum weight next after, total_eq_sum weight table before,
    ← Finset.add_sum_erase keys _ inside, ← Finset.add_sum_erase keys (worth weight table) inside,
    rest]
  ac_rfl

end Total

section Rows

variable {ρ : Type}

def writeRows (place : ρ → κ) (record : Option ν → ρ → ν) (rows : List ρ) (table : HashMap κ ν) :
    HashMap κ ν :=
  rows.foldl (fun table row => table.insert (place row) (record (table.lookup (place row)) row)) table

variable {place : ρ → κ} {record : Option ν → ρ → ν}

theorem lookup_writeRows_of_not_mem {rows : List ρ} {table : HashMap κ ν} {key : κ}
    (elsewhere : ∀ row ∈ rows, place row ≠ key) :
    (writeRows place record rows table).lookup key = table.lookup key := by
  induction rows generalizing table with
  | nil => rfl
  | cons row rows ih =>
    have apart := elsewhere row List.mem_cons_self
    rw [writeRows, List.foldl_cons, ← writeRows,
      ih fun other member => elsewhere other (List.mem_cons_of_mem row member),
      AList.lookup_insert_ne apart.symm]

theorem lookup_writeRows_of_mem (record : Option ν → ρ → ν) (table : HashMap κ ν) {rows : List ρ}
    (distinct : (rows.map place).Nodup) {row : ρ} (member : row ∈ rows) :
    (writeRows place record rows table).lookup (place row) =
      some (record (table.lookup (place row)) row) := by
  induction rows generalizing table with
  | nil => cases member
  | cons first rows ih =>
    rw [List.map_cons, List.nodup_cons] at distinct
    obtain ⟨fresh, distinct⟩ := distinct
    rw [writeRows, List.foldl_cons, ← writeRows]
    rcases List.mem_cons.mp member with here | later
    · subst here
      rw [lookup_writeRows_of_not_mem, AList.lookup_insert]
      intro other there same
      exact fresh (List.mem_map.mpr ⟨other, there, same⟩)
    · have apart : place row ≠ place first := by
        intro same
        exact fresh (List.mem_map.mpr ⟨row, later, same⟩)
      rw [ih _ distinct later, AList.lookup_insert_ne apart]

end Rows

end CodexGate.Foundation
