import CodexGate.Foundation.Machine
import Mathlib.Data.List.MinMax

/-! Tables of bounded size that make room by dropping the entry that was used last the longest ago. -/

namespace CodexGate.Foundation

variable {κ ν : Type} [DecidableEq κ]

def size (table : HashMap κ ν) : Nat := table.keys.length

section Size

variable {table : HashMap κ ν} {key : κ}

omit [DecidableEq κ] in
theorem size_retain_le (keep : κ → ν → Bool) (table : HashMap κ ν) :
    size (retain keep table) ≤ size table := by
  unfold size AList.keys List.keys
  rw [List.length_map, List.length_map]
  exact List.length_filter_le _ _

theorem size_erase_le (key : κ) (table : HashMap κ ν) : size (table.erase key) ≤ size table := by
  unfold size
  rw [AList.keys_erase]
  exact List.length_erase_le

theorem size_erase (member : key ∈ table) : size (table.erase key) + 1 = size table := by
  unfold size
  rw [AList.keys_erase]
  exact List.length_erase_add_one (AList.mem_keys.mp member)

theorem size_insert (member : key ∈ table) (row : ν) : size (table.insert key row) = size table := by
  unfold size
  rw [AList.keys_insert, List.length_cons]
  exact List.length_erase_add_one (AList.mem_keys.mp member)

theorem size_insert_le (key : κ) (row : ν) (table : HashMap κ ν) :
    size (table.insert key row) ≤ size table + 1 := by
  unfold size
  rw [AList.keys_insert, List.length_cons]
  exact Nat.succ_le_succ List.length_erase_le

omit [DecidableEq κ] in
theorem size_le_of_mem {other : HashMap κ ν} (inside : ∀ key ∈ table, key ∈ other) :
    size table ≤ size other :=
  (List.subperm_of_subset table.keys_nodup fun key member => inside key member).length_le

theorem size_foldl_erase_le (keys : List κ) (table : HashMap κ ν) :
    size (keys.foldl (fun table key => table.erase key) table) ≤ size table := by
  induction keys generalizing table with
  | nil => exact le_refl _
  | cons key rest ih => exact (ih (table.erase key)).trans (size_erase_le key table)

theorem mem_of_lookup_eq_some {row : ν} (found : table.lookup key = some row) : key ∈ table :=
  AList.lookup_isSome.mp (by rw [found]; rfl)

end Size

structure Iteration (κ ν : Type) where
  order : HashMap κ ν → List κ
  complete : ∀ table, (order table).Perm table.keys

namespace Iteration

variable (iteration : Iteration κ ν) (used : ν → Int) {table : HashMap κ ν} {key : κ}

def plain : Iteration κ ν where
  order := AList.keys
  complete _ := .refl _

def lastUse (table : HashMap κ ν) (key : κ) : Int := (table.lookup key).elim 0 used

/-- `iter().min_by_key(..)`: the first of the entries whose last use is the longest ago. -/
def oldest (table : HashMap κ ν) : Option κ :=
  @List.argmin _ _ Int.instLinearOrder.toPreorder Int.decLt (lastUse used table)
    (iteration.order table)

theorem oldest_mem (found : iteration.oldest used table = some key) : key ∈ table :=
  AList.mem_keys.mpr ((iteration.complete table).mem_iff.mp (List.argmin_mem found))

theorem oldest_le {row other : ν} {next : κ} (found : iteration.oldest used table = some key)
    (here : table.lookup key = some row) (there : table.lookup next = some other) :
    used row ≤ used other := by
  have member : next ∈ iteration.order table :=
    (iteration.complete table).mem_iff.mpr (AList.mem_keys.mp (mem_of_lookup_eq_some there))
  have least := List.le_of_mem_argmin member found
  unfold lastUse at least
  rw [here, there] at least
  exact least

theorem oldest_eq_none (missing : iteration.oldest used table = none) : size table = 0 := by
  have empty : iteration.order table = [] := List.argmin_eq_none.mp missing
  have same := (iteration.complete table).length_eq
  rw [empty] at same
  exact same.symm

/-- `while table.len() >= limit { table.remove(oldest) }`, with the keys that were removed. -/
def evict (limit : Nat) : Nat → HashMap κ ν → HashMap κ ν × List κ
  | 0, table => (table, [])
  | fuel + 1, table =>
    if limit ≤ size table then
      match iteration.oldest used table with
      | some key =>
        let (left, gone) := evict limit fuel (table.erase key)
        (left, key :: gone)
      | none => (table, [])
    else (table, [])

/-- Room for one more entry: in a full table the expired entries go first, and then the oldest for
as long as it is full. -/
def makeRoom (expired : ν → Bool) (limit : Nat) (table : HashMap κ ν) : HashMap κ ν × List κ :=
  if size table < limit then (table, [])
  else
    let live := retain (fun _ row => !expired row) table
    iteration.evict used limit (size live) live

structure Evicted (limit : Nat) (before after : HashMap κ ν) (gone : List κ) : Prop where
  left : ∀ key row, after.lookup key = some row → before.lookup key = some row
  kept : ∀ key, key ∉ gone → after.lookup key = before.lookup key
  dropped : ∀ key ∈ gone, key ∈ before ∧ after.lookup key = none
  full : gone ≠ [] → limit ≤ size before
  oldest : ∀ key ∈ gone, ∀ row, before.lookup key = some row →
    ∀ next other, after.lookup next = some other → used row ≤ used other

theorem evict_evicted (limit fuel : Nat) (table : HashMap κ ν) :
    Evicted used limit table (iteration.evict used limit fuel table).1
      (iteration.evict used limit fuel table).2 := by
  have nothing : ∀ table : HashMap κ ν, Evicted used limit table table [] := fun table =>
    ⟨fun _ _ found => found, fun _ _ => rfl, fun _ member => absurd member List.not_mem_nil,
      fun some_ => absurd rfl some_, fun _ member => absurd member List.not_mem_nil⟩
  induction fuel generalizing table with
  | zero => exact nothing table
  | succ fuel ih =>
    unfold evict
    split
    · rename_i full
      split
      · rename_i key found
        have member := iteration.oldest_mem used found
        have rest := ih (table.erase key)
        have left : ∀ next row, (iteration.evict used limit fuel (table.erase key)).1.lookup next =
            some row → next ≠ key ∧ table.lookup next = some row := by
          intro next row there
          have erased := rest.left next row there
          by_cases same : next = key
          · rw [same, AList.lookup_erase] at erased
            cases erased
          · exact ⟨same, by rwa [AList.lookup_erase_ne same] at erased⟩
        constructor
        · exact fun next row there => (left next row there).2
        · intro next outside
          rw [List.mem_cons, not_or] at outside
          show (iteration.evict used limit fuel (table.erase key)).1.lookup next = _
          rw [rest.kept next outside.2, AList.lookup_erase_ne outside.1]
        · intro next inside
          rcases List.mem_cons.mp inside with rfl | inside
          · refine ⟨member, Option.eq_none_iff_forall_ne_some.mpr fun row there => ?_⟩
            exact (left next row there).1 rfl
          · obtain ⟨there, none⟩ := rest.dropped next inside
            exact ⟨(AList.mem_erase.mp there).2, none⟩
        · exact fun _ => full
        · intro next inside row here other held there
          rcases List.mem_cons.mp inside with rfl | inside
          · exact iteration.oldest_le used found here (left other held there).2
          · have apart : next ≠ key := (AList.mem_erase.mp (rest.dropped next inside).1).1
            exact rest.oldest next inside row (by rwa [AList.lookup_erase_ne apart]) other held there
      · exact nothing table
    · exact nothing table

theorem size_evict {limit : Nat} (positive : 0 < limit) (fuel : Nat) (table : HashMap κ ν)
    (enough : size table ≤ fuel) : size (iteration.evict used limit fuel table).1 < limit := by
  induction fuel generalizing table with
  | zero => exact lt_of_le_of_lt enough positive
  | succ fuel ih =>
    unfold evict
    split
    · split
      · rename_i key found
        have less := size_erase (iteration.oldest_mem used found)
        exact ih (table.erase key) (by omega)
      · rename_i missing
        rw [iteration.oldest_eq_none used missing]
        exact positive
    · rename_i room
      exact Nat.lt_of_not_le room

theorem size_makeRoom {limit : Nat} (positive : 0 < limit) (expired : ν → Bool)
    (table : HashMap κ ν) : size (iteration.makeRoom used expired limit table).1 < limit := by
  unfold makeRoom
  split
  · rename_i room
    exact room
  · exact iteration.size_evict used positive _ _ (le_refl _)

structure RoomMade (expired : ν → Bool) (limit : Nat) (before after : HashMap κ ν) (gone : List κ) :
    Prop where
  left : ∀ key row, after.lookup key = some row → before.lookup key = some row
  same : size before < limit → after = before ∧ gone = []
  dropped : ∀ key ∈ gone, after.lookup key = none
  /-- Who is dropped and has not expired is dropped when no expired entry is left, from a table that
  the others alone fill, and has been used no later than any entry that stays. -/
  unexpired : ∀ key row, before.lookup key = some row → expired row = false →
    after.lookup key = none → key ∈ gone ∧
      limit ≤ size (retain (fun _ row => !expired row) before) ∧
      ∀ next other, after.lookup next = some other → expired other = false ∧ used row ≤ used other

theorem makeRoom_made (expired : ν → Bool) (limit : Nat) (table : HashMap κ ν) :
    RoomMade used expired limit table (iteration.makeRoom used expired limit table).1
      (iteration.makeRoom used expired limit table).2 := by
  unfold makeRoom
  split
  · rename_i room
    refine ⟨fun _ _ found => found, fun _ => ⟨rfl, rfl⟩,
      fun _ member => absurd member List.not_mem_nil, ?_⟩
    intro key row found _ missing
    rw [found] at missing
    cases missing
  · rename_i full
    have evicted := iteration.evict_evicted used limit
      (size (retain (fun _ row => !expired row) table)) (retain (fun _ row => !expired row) table)
    have live : ∀ key row, (retain (fun _ row => !expired row) table).lookup key = some row ↔
        table.lookup key = some row ∧ expired row = false := by
      intro key row
      rw [lookup_retain, Option.filter_eq_some_iff]
      simp
    constructor
    · exact fun key row there => ((live key row).mp (evicted.left key row there)).1
    · exact fun room => absurd room full
    · exact fun key member => (evicted.dropped key member).2
    · intro key row found fresh missing
      have there := (live key row).mpr ⟨found, fresh⟩
      have member : key ∈ (iteration.evict used limit
          (size (retain (fun _ row => !expired row) table))
          (retain (fun _ row => !expired row) table)).2 := by
        by_contra outside
        rw [evicted.kept key outside, there] at missing
        cases missing
      refine ⟨member, evicted.full (List.ne_nil_of_mem member), fun next other stays => ?_⟩
      exact ⟨((live next other).mp (evicted.left next other stays)).2,
        evicted.oldest key member row there next other stays⟩

end Iteration

/-- An entry is stored under the key, and an unexpired entry has only gone when the unexpired ones
alone filled the table, no expired one is left, and none that stays has been used before it. -/
structure Inserts (used : ν → Int) (expired : ν → Bool) (limit : Nat) (key : κ)
    (before after : HashMap κ ν) : Prop where
  stored : key ∈ after
  evicted : ∀ gone row, gone ≠ key → before.lookup gone = some row → expired row = false →
    gone ∉ after → limit ≤ size (retain (fun _ row => !expired row) before) ∧
      ∀ next other, next ≠ key → after.lookup next = some other →
        expired other = false ∧ used row ≤ used other

section Inserts

variable {used : ν → Int} {expired : ν → Bool} {limit : Nat} {key : κ}
  {before middle room : HashMap κ ν}

theorem Inserts.replace (row : ν) (kept : ∀ other, other ≠ key → other ∈ before → other ∈ room) :
    Inserts used expired limit key before (room.insert key row) := by
  refine ⟨(AList.mem_insert _).mpr (.inl rfl), fun gone held apart found _ missing => ?_⟩
  have there := kept gone apart (mem_of_lookup_eq_some found)
  exact absurd ((AList.mem_insert _).mpr (.inr there)) missing

theorem Iteration.RoomMade.inserts {gone : List κ} (made : RoomMade used expired limit middle room gone)
    (row : ν) (same : ∀ other, other ≠ key → middle.lookup other = before.lookup other)
    (sub : ∀ other held, middle.lookup other = some held → before.lookup other = some held) :
    Inserts used expired limit key before (room.insert key row) := by
  refine ⟨(AList.mem_insert _).mpr (.inl rfl), fun lost held apart found fresh missing => ?_⟩
  have dropped : room.lookup lost = none := by
    rw [← AList.lookup_insert_ne apart]
    exact AList.lookup_eq_none.mpr missing
  obtain ⟨-, full, rest⟩ :=
    made.unexpired lost held ((same lost apart).trans found) fresh dropped
  refine ⟨full.trans (size_le_of_mem fun other member => ?_), fun next other away stays => ?_⟩
  · obtain ⟨entry, there⟩ := Option.isSome_iff_exists.mp (AList.lookup_isSome.mpr member)
    rw [lookup_retain, Option.filter_eq_some_iff] at there
    have live : (retain (fun _ row => !expired row) before).lookup other = some entry := by
      rw [lookup_retain, Option.filter_eq_some_iff]
      exact ⟨sub other entry there.1, there.2⟩
    exact mem_of_lookup_eq_some live
  · rw [AList.lookup_insert_ne away] at stays
    exact rest next other stays

end Inserts

end CodexGate.Foundation
