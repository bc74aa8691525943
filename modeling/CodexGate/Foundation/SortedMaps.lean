import Mathlib.Data.List.Nodup
import Mathlib.Order.Lattice

/-! Maps as lists of entries in the order of their keys, each key once. -/

namespace CodexGate.Foundation.SortedMaps

variable {α β : Type} [LinearOrder α]

def Increasing (entries : List (α × β)) : Prop :=
  entries.Pairwise fun earlier later => earlier.1 < later.1

instance (entries : List (α × β)) : Decidable (Increasing entries) :=
  inferInstanceAs (Decidable (entries.Pairwise _))

def insert (key : α) (value : β) : List (α × β) → List (α × β)
  | [] => [(key, value)]
  | (k, v) :: rest =>
    if key < k then (key, value) :: (k, v) :: rest
    else if key = k then (key, value) :: rest
    else (k, v) :: insert key value rest

def remove (key : α) (entries : List (α × β)) : List (α × β) :=
  entries.filter fun entry => entry.1 ≠ key

section Lookup

variable {key other : α} {value : β} {entries : List (α × β)}

theorem lookup_insert_self (key : α) (value : β) (entries : List (α × β)) :
    (insert key value entries).lookup key = some value := by
  induction entries with
  | nil => simp [insert]
  | cons entry rest ih =>
    obtain ⟨k, v⟩ := entry
    unfold insert
    split
    · simp
    · split
      · simp
      · rename_i apart
        have missed : (key == k) = false := by simpa using apart
        simp [List.lookup_cons, missed, ih]

theorem lookup_insert_of_ne (value : β) (entries : List (α × β)) (apart : other ≠ key) :
    (insert key value entries).lookup other = entries.lookup other := by
  have missed : (other == key) = false := by simpa using apart
  induction entries with
  | nil => simp [insert, List.lookup_cons, missed]
  | cons entry rest ih =>
    obtain ⟨k, v⟩ := entry
    unfold insert
    split
    · simp [List.lookup_cons, missed]
    · split
      · rename_i same
        subst same
        simp [List.lookup_cons, missed]
      · simp [List.lookup_cons, ih]

theorem lookup_remove_self (key : α) (entries : List (α × β)) :
    (remove key entries).lookup key = none := by
  rw [List.lookup_eq_none_iff]
  intro entry there
  have apart : entry.1 ≠ key := by simpa using (List.mem_filter.mp there).2
  simpa using apart.symm

theorem lookup_remove_of_ne (entries : List (α × β)) (apart : other ≠ key) :
    (remove key entries).lookup other = entries.lookup other := by
  have missed : (other == key) = false := by simpa using apart
  induction entries with
  | nil => rfl
  | cons entry rest ih =>
    obtain ⟨k, v⟩ := entry
    unfold remove at ih ⊢
    by_cases same : k = key
    · simp [same, List.lookup_cons, missed, ← ih]
    · simp [same, List.lookup_cons, ← ih]

theorem length_insert_le (key : α) (value : β) (entries : List (α × β)) :
    (insert key value entries).length ≤ entries.length + 1 := by
  induction entries with
  | nil => simp [insert]
  | cons entry rest ih =>
    unfold insert
    split
    · simp
    · split
      · simp
      · simpa using ih

theorem mem_of_lookup (found : entries.lookup key = some value) : (key, value) ∈ entries := by
  induction entries with
  | nil => cases found
  | cons entry rest ih =>
    obtain ⟨k, v⟩ := entry
    rw [List.lookup_cons] at found
    split at found
    · rename_i same
      have keys : key = k := by simpa using same
      cases found
      rw [keys]
      exact List.mem_cons_self
    · exact List.mem_cons_of_mem _ (ih found)

theorem lookup_of_nodup (distinct : (entries.map Prod.fst).Nodup) (member : (key, value) ∈ entries) :
    entries.lookup key = some value := by
  cases found : entries.lookup key with
  | none =>
    have missing := List.lookup_eq_none_iff.mp found _ member
    simp at missing
  | some other =>
    have same := List.inj_on_of_nodup_map distinct (mem_of_lookup found) member rfl
    exact congrArg (fun entry => some entry.2) same

end Lookup

section Increasing

variable {key : α} {value : β} {entries others : List (α × β)}

theorem Increasing.tail {entry : α × β} (increasing : Increasing (entry :: entries)) :
    Increasing entries := (List.pairwise_cons.mp increasing).2

theorem Increasing.head {entry later : α × β} (increasing : Increasing (entry :: entries))
    (member : later ∈ entries) : entry.1 < later.1 :=
  (List.pairwise_cons.mp increasing).1 later member

theorem mem_insert {entry : α × β} (member : entry ∈ insert key value entries) :
    entry = (key, value) ∨ entry ∈ entries := by
  induction entries with
  | nil => exact .inl (List.mem_singleton.mp member)
  | cons first rest ih =>
    obtain ⟨k, v⟩ := first
    unfold insert at member
    split at member
    · exact List.mem_cons.mp member
    · split at member
      · rcases List.mem_cons.mp member with same | member
        · exact .inl same
        · exact .inr (List.mem_cons_of_mem _ member)
      · rcases List.mem_cons.mp member with same | member
        · exact .inr (same ▸ List.mem_cons_self)
        · rcases ih member with same | member
          · exact .inl same
          · exact .inr (List.mem_cons_of_mem _ member)

theorem Increasing.insert (increasing : Increasing entries) (key : α) (value : β) :
    Increasing (insert key value entries) := by
  induction entries with
  | nil => exact List.pairwise_singleton _ _
  | cons first rest ih =>
    obtain ⟨k, v⟩ := first
    unfold SortedMaps.insert
    split
    · rename_i before
      refine List.pairwise_cons.mpr ⟨fun later member => ?_, increasing⟩
      rcases List.mem_cons.mp member with same | member
      · rw [same]
        exact before
      · exact before.trans (increasing.head member)
    · rename_i notBefore
      split
      · rename_i same
        subst same
        exact List.pairwise_cons.mpr ⟨fun later member => increasing.head member, increasing.tail⟩
      · rename_i apart
        have after : k < key := lt_of_le_of_ne (not_lt.mp notBefore) (Ne.symm apart)
        refine List.pairwise_cons.mpr ⟨fun later member => ?_, ih increasing.tail⟩
        rcases mem_insert member with same | member
        · rw [same]
          exact after
        · exact increasing.head member

theorem Increasing.remove (increasing : Increasing entries) (key : α) :
    Increasing (remove key entries) := List.Pairwise.filter _ increasing

theorem Increasing.filter (increasing : Increasing entries) (keep : α × β → Bool) :
    Increasing (entries.filter keep) := List.Pairwise.filter keep increasing

theorem Increasing.nodup (increasing : Increasing entries) : (entries.map Prod.fst).Nodup :=
  List.pairwise_map.mpr (increasing.imp fun before => before.ne)

theorem Increasing.lookup_of_mem (increasing : Increasing entries)
    (member : (key, value) ∈ entries) : entries.lookup key = some value :=
  lookup_of_nodup increasing.nodup member

theorem Increasing.ext (left : Increasing entries) (right : Increasing others)
    (same : ∀ key, entries.lookup key = others.lookup key) : entries = others := by
  have nodup : ∀ {some : List (α × β)}, Increasing some → some.Nodup := fun increasing =>
    increasing.imp fun before equal => (equal ▸ before).false
  have members : ∀ entry, entry ∈ entries ↔ entry ∈ others := by
    intro entry
    constructor
    · intro member
      exact mem_of_lookup ((same entry.1).symm.trans (left.lookup_of_mem member))
    · intro member
      exact mem_of_lookup ((same entry.1).trans (right.lookup_of_mem member))
  have perm := (List.perm_ext_iff_of_nodup (nodup left) (nodup right)).mpr members
  exact perm.eq_of_pairwise (fun a b _ _ before after => absurd after before.not_gt) left right

theorem Increasing.eq_of_mem_iff (left : Increasing entries) (right : Increasing others)
    (same : ∀ entry, entry ∈ entries ↔ entry ∈ others) : entries = others := by
  apply left.ext right
  intro key
  apply Option.ext
  intro value
  constructor
  · intro found
    exact right.lookup_of_mem ((same _).mp (mem_of_lookup found))
  · intro found
    exact left.lookup_of_mem ((same _).mpr (mem_of_lookup found))

end Increasing

section InKeyOrder

def inKeyOrder (entries : List (α × β)) : List (α × β) :=
  entries.mergeSort fun left right => left.1 ≤ right.1

theorem inKeyOrder_perm (entries : List (α × β)) : (inKeyOrder entries).Perm entries :=
  List.mergeSort_perm _ _

@[simp] theorem mem_inKeyOrder {entries : List (α × β)} {entry : α × β} :
    entry ∈ inKeyOrder entries ↔ entry ∈ entries := (inKeyOrder_perm entries).mem_iff

theorem inKeyOrder_increasing {entries : List (α × β)} (distinct : (entries.map Prod.fst).Nodup) :
    Increasing (inKeyOrder entries) := by
  have sorted : (inKeyOrder entries).Pairwise fun left right => left.1 ≤ right.1 := by
    refine (List.pairwise_mergeSort ?_ ?_ _).imp fun le => of_decide_eq_true le
    · intro a b c first second
      simp only [decide_eq_true_eq] at first second ⊢
      exact first.trans second
    · intro a b
      simpa using le_total a.1 b.1
  have nodup : ((inKeyOrder entries).map Prod.fst).Nodup :=
    ((inKeyOrder_perm entries).map _).nodup_iff.mpr distinct
  exact (sorted.and (List.pairwise_map.mp nodup)).imp fun both => lt_of_le_of_ne both.1 both.2

theorem inKeyOrder_of_increasing {entries : List (α × β)} (increasing : Increasing entries) :
    inKeyOrder entries = entries :=
  (inKeyOrder_increasing increasing.nodup).eq_of_mem_iff increasing fun _ => mem_inKeyOrder

end InKeyOrder

end CodexGate.Foundation.SortedMaps
