import CodexGate.Types
import Mathlib.Data.List.Rotate
import Mathlib.Data.Set.Basic

namespace CodexGate.Routing

open Foundation

structure KeyRotationBook where
  offsets : HashMap Int Nat

namespace KeyRotationBook

def new : KeyRotationBook := ⟨∅⟩

def offset (self : KeyRotationBook) (providerId : Int) : Nat :=
  (self.offsets.lookup providerId).getD 0

def rotateProvider {κ : Type} (self : KeyRotationBook) (providerId : Int) (keys : List κ) :
    List κ × KeyRotationBook :=
  if keys.length ≤ 1 then (keys, self)
  else
    let start := self.offset providerId % keys.length
    (keys.drop start ++ keys.take start,
      { offsets := self.offsets.insert providerId
          ((self.offset providerId + 1) % 2 ^ 64 % keys.length) })

def orderKeysForProvider (self : KeyRotationBook) (priority : Int → I32) (providerId : Int)
    (strategy : String) (rankedKeys : List UpstreamKey) : List UpstreamKey × KeyRotationBook :=
  if strategy = "round_robin" then
    self.rotateProvider providerId (rankedKeys.mergeSort fun left right => left.id ≤ right.id)
  else if strategy = "ordered" then
    (rankedKeys.mergeSort fun left right =>
      (priority left.id).val < (priority right.id).val ∨
        (priority left.id).val = (priority right.id).val ∧ left.id ≤ right.id, self)
  else (rankedKeys, self)

section

variable {κ : Type} (self : KeyRotationBook) (providerId : Int) (keys : List κ)

theorem rotateProvider_eq_rotate :
    (self.rotateProvider providerId keys).1 = keys.rotate (self.offset providerId) := by
  unfold rotateProvider
  split
  · rename_i few
    match keys, few with
    | [], _ => rfl
    | [key], _ => rw [List.rotate_singleton]
  · exact List.rotate_eq_drop_append_take_mod.symm

theorem offset_rotateProvider :
    (self.rotateProvider providerId keys).2.offset providerId =
      if keys.length ≤ 1 then self.offset providerId
      else (self.offset providerId + 1) % 2 ^ 64 % keys.length := by
  unfold rotateProvider
  split
  · rfl
  · simp [offset]

theorem offset_rotateProvider_other {other : Int} (apart : other ≠ providerId) :
    (self.rotateProvider providerId keys).2.offset other = self.offset other := by
  unfold rotateProvider
  split
  · rfl
  · simp [offset, apart]

theorem orderKeysForProvider_perm (priority : Int → I32) (strategy : String)
    (rankedKeys : List UpstreamKey) :
    (self.orderKeysForProvider priority providerId strategy rankedKeys).1.Perm rankedKeys := by
  unfold orderKeysForProvider
  split
  · rw [rotateProvider_eq_rotate]
    exact (List.rotate_perm _ _).trans (List.mergeSort_perm _ _)
  · split
    · exact List.mergeSort_perm _ _
    · exact List.Perm.refl _

end

end KeyRotationBook

structure KeyList (κ : Type) where
  keys : List κ
  nodup : keys.Nodup
  fits : keys.length < 2 ^ 64

section Runs

variable {κ : Type} (providerId : Int) (calls : Nat → KeyList κ)

def bookBefore : Nat → KeyRotationBook
  | 0 => .new
  | t + 1 => ((bookBefore t).rotateProvider providerId (calls t).keys).2

def rotated (t : Nat) : List κ :=
  ((bookBefore providerId calls t).rotateProvider providerId (calls t).keys).1

def InfinitelyOften (happens : Nat → Prop) : Prop := ∀ bound, ∃ t, bound ≤ t ∧ happens t

def ReturnedFirst (key : κ) (t : Nat) : Prop := (rotated providerId calls t).head? = some key

/-- Every list that is passed again and again has each of its keys returned first again and again,
and while it alone is passed, once in a round. -/
structure RoundRobin : Prop where
  rotates : ∀ t, (rotated providerId calls t).IsRotated (calls t).keys
  returns : ∀ list, InfinitelyOften (fun t => calls t = list) → ∀ key ∈ list.keys,
    InfinitelyOften fun t => calls t = list ∧ ReturnedFirst providerId calls key t
  turns : ∀ list t, (∀ i < list.keys.length, calls (t + i) = list) → ∀ key ∈ list.keys,
    ∃! i, i < list.keys.length ∧ ReturnedFirst providerId calls key (t + i)

def OneList (lists : Set (KeyList κ)) : Prop :=
  ∀ list ∈ lists, ∀ other ∈ lists, 1 < list.keys.length → 1 < other.keys.length → list = other

def offsetBefore (t : Nat) : Nat := (bookBefore providerId calls t).offset providerId

theorem rotated_eq (t : Nat) :
    rotated providerId calls t = (calls t).keys.rotate (offsetBefore providerId calls t) :=
  KeyRotationBook.rotateProvider_eq_rotate _ _ _

theorem offsetBefore_lt (t : Nat) : offsetBefore providerId calls t + 1 < 2 ^ 64 := by
  induction t with
  | zero => exact Nat.one_lt_two_pow (by decide)
  | succ t ih =>
    have moved := KeyRotationBook.offset_rotateProvider (bookBefore providerId calls t) providerId
      (calls t).keys
    change (bookBefore providerId calls (t + 1)).offset providerId + 1 < 2 ^ 64
    rw [bookBefore, moved]
    split
    · exact ih
    · rename_i many
      have fits := (calls t).fits
      have below := Nat.mod_lt ((offsetBefore providerId calls t + 1) % 2 ^ 64)
        (show 0 < (calls t).keys.length by omega)
      unfold offsetBefore at below
      omega

theorem offsetBefore_succ (t : Nat) :
    offsetBefore providerId calls (t + 1) =
      if (calls t).keys.length ≤ 1 then offsetBefore providerId calls t
      else (offsetBefore providerId calls t + 1) % (calls t).keys.length := by
  have small := Nat.mod_eq_of_lt (offsetBefore_lt providerId calls t)
  have moved := KeyRotationBook.offset_rotateProvider (bookBefore providerId calls t) providerId
    (calls t).keys
  rw [offsetBefore, bookBefore, moved]
  unfold offsetBefore at small ⊢
  rw [small]

theorem returnedFirst_iff {list : KeyList κ} {t : Nat} (passed : calls t = list) {key : κ} :
    ReturnedFirst providerId calls key t ↔
      list.keys[offsetBefore providerId calls t % list.keys.length]? = some key := by
  rw [ReturnedFirst, rotated_eq, passed, ← List.rotate_mod]
  cases keys : list.keys with
  | nil => simp
  | cons first rest =>
    have below := Nat.mod_lt (offsetBefore providerId calls t) (List.length_pos_of_ne_nil
      (List.cons_ne_nil first rest))
    rw [List.head?_rotate below]

theorem rotates_always (t : Nat) : (rotated providerId calls t).IsRotated (calls t).keys := by
  rw [rotated_eq]
  exact List.IsRotated.forall _ _

theorem mod_succ {n offset turn : Nat} (same : offset % n = turn % n) :
    (offset + 1) % n = (turn + 1) % n := by
  rw [Nat.add_mod, same, ← Nat.add_mod]

theorem offsetBefore_turn {list : KeyList κ} (some_key : 0 < list.keys.length) {t : Nat}
    (passed : calls t = list) :
    offsetBefore providerId calls (t + 1) % list.keys.length =
      (offsetBefore providerId calls t + 1) % list.keys.length := by
  rw [offsetBefore_succ, passed]
  split
  · have single : list.keys.length = 1 := by omega
    rw [single, Nat.mod_one, Nat.mod_one]
  · rw [Nat.mod_mod]

theorem offsetBefore_along {list : KeyList κ} (some_key : 0 < list.keys.length) {t i : Nat}
    (passed : ∀ earlier < i, calls (t + earlier) = list) :
    offsetBefore providerId calls (t + i) % list.keys.length =
      (offsetBefore providerId calls t + i) % list.keys.length := by
  induction i with
  | zero => rfl
  | succ i ih =>
    have before := ih fun earlier below => passed earlier (by omega)
    rw [← Nat.add_assoc, offsetBefore_turn providerId calls some_key (passed i (by omega))]
    exact mod_succ before

theorem exists_unique_turn (offset : Nat) {place n : Nat} (inside : place < n) :
    ∃! i, i < n ∧ (offset + i) % n = place := by
  have start := Nat.mod_lt offset (show 0 < n by omega)
  have turn : ∀ i < n, (offset + i) % n =
      if n ≤ offset % n + i then offset % n + i - n else offset % n + i := by
    intro i below
    rw [Nat.add_mod_eq_ite, Nat.mod_eq_of_lt below]
  refine ⟨if offset % n ≤ place then place - offset % n else place + n - offset % n, ?_, ?_⟩
  · have below : (if offset % n ≤ place then place - offset % n else place + n - offset % n) < n := by
      split <;> omega
    refine ⟨below, ?_⟩
    rw [turn _ below]
    split <;> split <;> omega
  · rintro i ⟨below, reached⟩
    rw [turn i below] at reached
    split at reached <;> split <;> omega

theorem turns_always {list : KeyList κ} {t : Nat}
    (passed : ∀ i < list.keys.length, calls (t + i) = list) {key : κ} (member : key ∈ list.keys) :
    ∃! i, i < list.keys.length ∧ ReturnedFirst providerId calls key (t + i) := by
  obtain ⟨place, inside, there⟩ := List.mem_iff_getElem.mp member
  have some_key : 0 < list.keys.length := by omega
  have exactly : ∀ i < list.keys.length, ReturnedFirst providerId calls key (t + i) ↔
      (offsetBefore providerId calls t + i) % list.keys.length = place := by
    intro i below
    have along := offsetBefore_along providerId calls some_key (t := t) (i := i)
      fun earlier before => passed earlier (by omega)
    rw [returnedFirst_iff providerId calls (passed i below), along]
    constructor
    · intro first
      obtain ⟨turn, same⟩ := List.getElem?_eq_some_iff.mp first
      exact (list.nodup.getElem_inj_iff).mp (same.trans there.symm)
    · intro same
      rw [same, List.getElem?_eq_getElem inside, there]
  obtain ⟨i, ⟨below, reached⟩, only⟩ :=
    exists_unique_turn (offsetBefore providerId calls t) inside
  refine ⟨i, ⟨below, (exactly i below).mpr reached⟩, ?_⟩
  rintro other ⟨below, first⟩
  exact only other ⟨below, (exactly other below).mp first⟩

/-- From any call on, a list that is passed again and again comes to any turn, if the calls
between leave the offset. -/
theorem reaches_turn {list : KeyList κ} (some_key : 0 < list.keys.length)
    (again : InfinitelyOften fun t => calls t = list)
    (alone : ∀ t, calls t ≠ list → (calls t).keys.length ≤ 1) (ahead bound : Nat) :
    ∃ t, bound ≤ t ∧ calls t = list ∧ offsetBefore providerId calls t % list.keys.length =
      (offsetBefore providerId calls bound + ahead) % list.keys.length := by
  have next : ∀ bound, ∃ t, bound ≤ t ∧ calls t = list ∧
      offsetBefore providerId calls t = offsetBefore providerId calls bound := by
    intro bound
    obtain ⟨far, late, passed⟩ := again bound
    obtain ⟨gap, rfl⟩ := Nat.exists_eq_add_of_le late
    clear late
    induction gap generalizing bound with
    | zero => exact ⟨bound, Nat.le_refl _, passed, rfl⟩
    | succ gap ih =>
      by_cases here : calls bound = list
      · exact ⟨bound, Nat.le_refl _, here, rfl⟩
      · obtain ⟨t, later, same, still⟩ := ih (bound + 1) (by rw [← passed]; congr 1; omega)
        rw [offsetBefore_succ, if_pos (alone bound here)] at still
        exact ⟨t, by omega, same, still⟩
  induction ahead generalizing bound with
  | zero =>
    obtain ⟨t, late, passed, still⟩ := next bound
    exact ⟨t, late, passed, by rw [still, Nat.add_zero]⟩
  | succ ahead ih =>
    obtain ⟨t, late, passed, reached⟩ := ih bound
    obtain ⟨later, after, again, still⟩ := next (t + 1)
    refine ⟨later, by omega, again, ?_⟩
    rw [still, offsetBefore_turn providerId calls some_key passed]
    exact mod_succ reached

theorem returns_of_alone {list : KeyList κ} (again : InfinitelyOften fun t => calls t = list)
    (alone : 1 < list.keys.length → ∀ t, calls t ≠ list → (calls t).keys.length ≤ 1) {key : κ}
    (member : key ∈ list.keys) :
    InfinitelyOften fun t => calls t = list ∧ ReturnedFirst providerId calls key t := by
  intro bound
  obtain ⟨place, inside, there⟩ := List.mem_iff_getElem.mp member
  have returned : ∀ t, calls t = list →
      offsetBefore providerId calls t % list.keys.length = place →
        ReturnedFirst providerId calls key t := by
    intro t passed reached
    rw [returnedFirst_iff providerId calls passed, reached, List.getElem?_eq_getElem inside, there]
  by_cases many : 1 < list.keys.length
  · obtain ⟨ahead, ⟨-, reached⟩, -⟩ :=
      exists_unique_turn (offsetBefore providerId calls bound) inside
    obtain ⟨t, late, passed, same⟩ :=
      reaches_turn providerId calls (by omega) again (alone many) ahead bound
    exact ⟨t, late, passed, returned t passed (same.trans reached)⟩
  · obtain ⟨t, late, passed⟩ := again bound
    have single : list.keys.length = 1 := by omega
    refine ⟨t, late, passed, returned t passed ?_⟩
    rw [single, Nat.mod_one]
    omega

def alternating (list other : KeyList κ) (t : Nat) : KeyList κ :=
  if t % other.keys.length = 0 then list else other

theorem offsetBefore_alternating {list other : KeyList κ} (many : 1 < list.keys.length)
    (otherMany : 1 < other.keys.length) (t : Nat) :
    offsetBefore providerId (alternating list other) t = t % other.keys.length := by
  induction t with
  | zero => rw [Nat.zero_mod]; rfl
  | succ t ih =>
    rw [offsetBefore_succ, ih]
    unfold alternating
    by_cases first : t % other.keys.length = 0
    · have next : (t + 1) % other.keys.length = 1 := by
        rw [Nat.add_mod, first, Nat.zero_add, Nat.mod_mod, Nat.mod_eq_of_lt otherMany]
      rw [if_pos first, if_neg (by omega), first, Nat.zero_add, Nat.mod_eq_of_lt many, next]
    · rw [if_neg first, if_neg (by omega), Nat.mod_add_mod]

theorem alternating_starves {list other : KeyList κ} (many : 1 < list.keys.length)
    (otherMany : 1 < other.keys.length) (apart : list ≠ other) :
    ¬ RoundRobin providerId (alternating list other) := by
  intro fair
  have first_only : ∀ t, alternating list other t = list → t % other.keys.length = 0 := by
    intro t passed
    by_contra later
    rw [alternating, if_neg later] at passed
    exact apart passed.symm
  have again : InfinitelyOften fun t => alternating list other t = list := by
    intro bound
    refine ⟨bound * other.keys.length, Nat.le_mul_of_pos_right bound (by omega), ?_⟩
    exact if_pos (Nat.mul_mod_left _ _)
  obtain ⟨t, -, passed, first⟩ := fair.returns list again _ (List.getElem_mem many) 0
  rw [returnedFirst_iff providerId _ passed, offsetBefore_alternating providerId many otherMany,
    first_only t passed, Nat.zero_mod, List.getElem?_eq_getElem (by omega), Option.some.injEq] at first
  exact absurd (list.nodup.getElem_inj_iff.mp first) (by decide)

/-- Whatever lists come in whatever order, the keys are used in turns exactly if there are no two
lists of more than one key. -/
theorem rotations_fair_iff (lists : Set (KeyList κ)) :
    (∀ calls : Nat → KeyList κ, (∀ t, calls t ∈ lists) → RoundRobin providerId calls) ↔
      OneList lists := by
  constructor
  · intro fair list member other otherMember many otherMany
    by_contra apart
    refine alternating_starves providerId many otherMany apart (fair _ fun t => ?_)
    unfold alternating
    split
    · exact member
    · exact otherMember
  · intro one calls within
    refine ⟨rotates_always providerId calls, fun list again key member => ?_,
      fun list t passed key member => turns_always providerId calls passed member⟩
    refine returns_of_alone providerId calls again (fun many t apart => ?_) member
    obtain ⟨s, -, passed⟩ := again 0
    by_contra few
    have listed : list ∈ lists := passed ▸ within s
    exact apart (one _ (within t) list listed (by omega) many)

end Runs

def chatKeys : KeyList Nat := ⟨[1, 2], by decide, by decide⟩

def imageKeys : KeyList Nat := ⟨[3, 4], by decide, by decide⟩

theorem mixed_calls_starve :
    ¬ ∀ (providerId : Int) (calls : Nat → KeyList Nat), RoundRobin providerId calls := by
  intro fair
  have apart : chatKeys ≠ imageKeys := fun same => absurd (congrArg KeyList.keys same) (by decide)
  exact alternating_starves 7 (by decide) (by decide) apart (fair 7 (alternating chatKeys imageKeys))

end CodexGate.Routing
