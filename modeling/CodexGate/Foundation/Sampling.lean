import Mathlib.Data.List.Basic
import Mathlib.Data.List.MinMax
import Mathlib.Data.List.Sort

/-! Lists that are put in an order by repeated random choices. Every outcome of the choices is covered,
and a step that would stop the program gives no result. -/

namespace CodexGate.Foundation

variable {α : Type}

/-- What the random choices come out as: the first argument counts them, the second bounds them. -/
structure Draws where
  draw : Nat → Nat → Nat
  draw_lt : ∀ count bound, 0 < bound → draw count bound < bound

def Draws.least : Draws := ⟨fun _ _ => 0, fun _ _ positive => positive⟩

def Draws.below (draws : Draws) (count bound : Nat) : Option Nat :=
  if 0 < bound then some (draws.draw count bound) else none

theorem Draws.below_eq_some (draws : Draws) (count : Nat) {bound : Nat} (positive : 0 < bound) :
    ∃ drawn < bound, draws.below count bound = some drawn :=
  ⟨_, draws.draw_lt count bound positive, if_pos positive⟩

/-- `Vec::swap_remove`: the last element takes the place of the one that is removed. -/
def swapRemove (items : List α) (index : Nat) : Option (α × List α) :=
  if index < items.length then
    items.getLast?.map fun last => (items.dropLast.getD index last, items.dropLast.set index last)
  else none

section SwapRemove

variable {items rest : List α} {item : α} {index : Nat}

theorem swapRemove_perm (removed : swapRemove items index = some (item, rest)) :
    (item :: rest).Perm items := by
  unfold swapRemove at removed
  split at removed
  · obtain ⟨last, found, same⟩ := Option.map_eq_some_iff.mp removed
    cases same
    have whole : items.dropLast ++ [last] = items :=
      List.dropLast_append_getLast? last found
    have moved := List.getD_set_perm_cons items.dropLast index last
    exact moved.trans ((List.perm_append_singleton last _).symm.trans (.of_eq whole))
  · cases removed

theorem swapRemove_item (removed : swapRemove items index = some (item, rest)) :
    items[index]? = some item := by
  unfold swapRemove at removed
  split at removed
  · rename_i inside
    obtain ⟨last, found, same⟩ := Option.map_eq_some_iff.mp removed
    cases same
    have whole : items.dropLast ++ [last] = items :=
      List.dropLast_append_getLast? last found
    have length := congrArg List.length whole
    rw [List.length_append, List.length_singleton] at length
    rw [← whole, List.dropLast_concat, List.getD_eq_getElem?_getD]
    by_cases before : index < items.dropLast.length
    · rw [List.getElem?_append_left before, List.getElem?_eq_getElem before]
      rfl
    · have behind : index = items.dropLast.length := by omega
      rw [List.getElem?_append_right (Nat.not_lt.mp before), behind, Nat.sub_self,
        List.getElem?_eq_none (le_refl _)]
      rfl
  · cases removed

theorem swapRemove_isSome (inside : index < items.length) :
    (swapRemove items index).isSome = true := by
  unfold swapRemove
  have some_ := List.ne_nil_of_length_pos (Nat.zero_lt_of_lt inside)
  rw [if_pos inside, Option.isSome_map, List.getLast?_eq_some_getLast some_]
  rfl

theorem swapRemove_length (removed : swapRemove items index = some (item, rest)) :
    rest.length + 1 = items.length :=
  (swapRemove_perm removed).length_eq

end SwapRemove

section Drain

variable (settled : List α → Option (List α)) (choose : Nat → List α → Option Nat)

/-- A loop that removes the item it chooses for as long as the items are not settled. -/
def drain : Nat → Nat → List α → Option (List α × Nat)
  | fuel, count, items =>
    match settled items, fuel with
    | some tail, _ => some (tail, count)
    | none, 0 => none
    | none, fuel + 1 => do
      let index ← choose count items
      let (item, rest) ← swapRemove items index
      let (out, count) ← drain fuel (count + 1) rest
      return (item :: out, count)

variable {settled choose} {fuel count after : Nat} {items out : List α}

theorem drain_cases (drained : drain settled choose fuel count items = some (out, after)) :
    settled items = some out ∧ after = count ∨
    settled items = none ∧ ∃ fuel' index item rest out', fuel = fuel' + 1 ∧
      choose count items = some index ∧ swapRemove items index = some (item, rest) ∧
      drain settled choose fuel' (count + 1) rest = some (out', after) ∧ out = item :: out' := by
  unfold drain at drained
  split at drained
  · rename_i tail stays
    cases drained
    exact .inl ⟨stays, rfl⟩
  · cases drained
  · rename_i fuel' goes
    simp only [Option.bind_eq_bind, Option.bind_eq_some_iff, Prod.exists] at drained
    obtain ⟨index, chosen, item, rest, removed, out', after', later, same⟩ := drained
    cases same
    exact .inr ⟨goes, fuel', index, item, rest, out', rfl, chosen, removed, later, rfl⟩

theorem drain_perm (settles : ∀ items tail, settled items = some tail → tail.Perm items)
    (drained : drain settled choose fuel count items = some (out, after)) : out.Perm items := by
  induction fuel generalizing count items out with
  | zero =>
    rcases drain_cases drained with ⟨stays, -⟩ | ⟨-, fuel', -, -, -, -, positive, -⟩
    · exact settles items out stays
    · cases positive
  | succ fuel ih =>
    rcases drain_cases drained with ⟨stays, -⟩ | ⟨-, fuel', index, item, rest, out', less, -, removed,
      later, rfl⟩
    · exact settles items out stays
    · cases less
      exact ((ih later).cons item).trans (swapRemove_perm removed)

theorem drain_isSome {P : List α → Prop} (empty : (settled []).isSome = true)
    (fewer : ∀ items item rest, P items → (item :: rest).Perm items → P rest)
    (chooses : ∀ count items, P items → settled items = none →
      ∃ index < items.length, choose count items = some index)
    (holds : P items) (enough : items.length ≤ fuel) :
    (drain settled choose fuel count items).isSome = true := by
  induction fuel generalizing count items with
  | zero =>
    have none := List.eq_nil_of_length_eq_zero (Nat.le_zero.mp enough)
    obtain ⟨tail, stays⟩ := Option.isSome_iff_exists.mp empty
    unfold drain
    rw [none, stays]
    rfl
  | succ fuel ih =>
    unfold drain
    split
    · rfl
    · rename_i same
      cases same
    · rename_i fuel' goes same
      cases same
      obtain ⟨index, inside, chosen⟩ := chooses count items holds goes
      obtain ⟨⟨item, rest⟩, removed⟩ := Option.isSome_iff_exists.mp (swapRemove_isSome inside)
      have less := swapRemove_length removed
      have later := @ih (count + 1) _
        (fewer items item rest holds (swapRemove_perm removed)) (by omega)
      obtain ⟨⟨out, after⟩, drained⟩ := Option.isSome_iff_exists.mp later
      rw [chosen]
      simp only [Option.bind_eq_bind, Option.bind_some, removed, drained]
      rfl

end Drain

section Peel

variable (place : α → Int) (arrange : Nat → List α → Option (List α × Nat))

/-- A loop that takes the items of the least place off, arranges them, and goes on with the others. -/
def peel : Nat → Nat → List α → Option (List α × Nat)
  | fuel, count, items =>
    match (items.map place).min?, fuel with
    | none, _ => some ([], count)
    | some _, 0 => none
    | some best, fuel + 1 => do
      let (first, count) ← arrange count (items.filter (place · = best))
      let (out, count) ← peel fuel count (items.filter (place · ≠ best))
      return (first ++ out, count)

variable {place arrange} {fuel count after : Nat} {items out : List α}

theorem peel_cases (peeled : peel place arrange fuel count items = some (out, after)) :
    items = [] ∧ out = [] ∨
    ∃ best fuel' middle first later, (items.map place).min? = some best ∧ fuel = fuel' + 1 ∧
      arrange count (items.filter (place · = best)) = some (first, middle) ∧
      peel place arrange fuel' middle (items.filter (place · ≠ best)) = some (later, after) ∧
      out = first ++ later := by
  unfold peel at peeled
  split at peeled
  · rename_i empty
    cases peeled
    exact .inl ⟨List.map_eq_nil_iff.mp (List.min?_eq_none_iff.mp empty), rfl⟩
  · cases peeled
  · rename_i best fuel' found
    simp only [Option.bind_eq_bind, Option.bind_eq_some_iff, Prod.exists] at peeled
    obtain ⟨first, middle, arranged, later, after', rest, same⟩ := peeled
    cases same
    exact .inr ⟨best, fuel', middle, first, later, found, rfl, arranged, rest, rfl⟩

theorem filter_place_perm (best : Int) (items : List α) :
    (items.filter (place · = best) ++ items.filter (place · ≠ best)).Perm items := by
  have parts := List.filter_append_perm (place · = best) items
  simpa only [decide_not] using parts

theorem filter_group {best : Int} {item : α} (apart : place item ≠ best) (items : List α) :
    (items.filter (place · ≠ best)).filter (place · = place item) =
      items.filter (place · = place item) := by
  rw [List.filter_filter]
  refine List.filter_congr fun other _ => ?_
  by_cases equal : place other = place item
  · simp [equal, apart]
  · simp [equal]

/-- Of what went in that comes out which is kept, and the arrangement of each group is in it as it
was made. -/
structure Peeled (place : α → Int) (keep : α → Bool)
    (arrange : Nat → List α → Option (List α × Nat)) (items out : List α) : Prop where
  perm : out.Perm (items.filter keep)
  sorted : out.Pairwise fun left right => place left ≤ place right
  groups : ∀ item ∈ items, ∃ count after, arrange count (items.filter (place · = place item)) =
    some (out.filter (place · = place item), after)

theorem peel_peeled {keep : α → Bool} (arranges : ∀ count group first after,
      arrange count group = some (first, after) → first.Perm (group.filter keep))
    (peeled : peel place arrange fuel count items = some (out, after)) :
    Peeled place keep arrange items out := by
  induction fuel generalizing count items out with
  | zero =>
    rcases peel_cases peeled with ⟨rfl, rfl⟩ | ⟨-, fuel', -, -, -, -, positive, -⟩
    · exact ⟨.refl _, .nil, fun _ member => absurd member List.not_mem_nil⟩
    · cases positive
  | succ fuel ih =>
    rcases peel_cases peeled with ⟨rfl, rfl⟩ |
      ⟨best, fuel', middle, first, later, found, less, arranged, rest, rfl⟩
    · exact ⟨.refl _, .nil, fun _ member => absurd member List.not_mem_nil⟩
    · cases less
      have tail := ih rest
      have head := arranges _ _ _ _ arranged
      have least : ∀ item ∈ items, best ≤ place item := by
        intro item member
        exact (List.min?_eq_some_iff.mp found).2 _ (List.mem_map_of_mem member)
      have here : ∀ item ∈ first, place item = best := by
        intro item member
        have held := (List.mem_filter.mp (head.mem_iff.mp member)).1
        exact of_decide_eq_true (List.mem_filter.mp held).2
      have there : ∀ item ∈ later, item ∈ items ∧ place item ≠ best := by
        intro item member
        have held := (List.mem_filter.mp (tail.perm.mem_iff.mp member)).1
        exact ⟨(List.mem_filter.mp held).1, of_decide_eq_true (List.mem_filter.mp held).2⟩
      refine ⟨?_, ?_, fun item member => ?_⟩
      · have parts := (@filter_place_perm _ place best items).filter keep
        rw [List.filter_append] at parts
        exact (head.append tail.perm).trans parts
      · refine List.pairwise_append.mpr ⟨?_, tail.sorted, fun left inFirst right inLater => ?_⟩
        · exact List.pairwise_of_forall_mem_list fun left inside right inside' =>
            ((here left inside).trans (here right inside').symm).le
        · rw [here left inFirst]
          exact least right (there right inLater).1
      · by_cases same : place item = best
        · have all : first.filter (place · = best) = first :=
            List.filter_eq_self.mpr fun other inside => decide_eq_true (here other inside)
          have none : later.filter (place · = best) = [] :=
            List.filter_eq_nil_iff.mpr fun other inside => by
              simpa using (there other inside).2
          rw [same, List.filter_append, all, none, List.append_nil]
          exact ⟨_, _, arranged⟩
        · obtain ⟨count', after', group⟩ :=
            tail.groups item (List.mem_filter.mpr ⟨member, decide_eq_true same⟩)
          have none : first.filter (place · = place item) = [] :=
            List.filter_eq_nil_iff.mpr fun other inside => by
              simpa [here other inside] using Ne.symm same
          rw [List.filter_append, none, List.nil_append]
          rw [filter_group same items] at group
          exact ⟨count', after', group⟩

theorem pairwise_of_groups {R : α → α → Prop}
    (groups : ∀ item ∈ out, (out.filter (place · = place item)).Pairwise R) :
    out.Pairwise fun left right => place left = place right → R left right := by
  refine List.pairwise_iff_forall_sublist.mpr fun {left right} sub same => ?_
  have inside : left ∈ out := sub.subset (.head _)
  have kept : [left, right].filter (place · = place left) = [left, right] := by
    simp [same]
  have sub := sub.filter (place · = place left)
  rw [kept] at sub
  exact List.pairwise_iff_forall_sublist.mp (groups left inside) sub

theorem peel_isSome (arranges : ∀ count, ∀ item ∈ items,
      (arrange count (items.filter (place · = place item))).isSome = true)
    (enough : items.length ≤ fuel) : (peel place arrange fuel count items).isSome = true := by
  induction fuel generalizing count items with
  | zero =>
    have none := List.eq_nil_of_length_eq_zero (Nat.le_zero.mp enough)
    rw [none]
    rfl
  | succ fuel ih =>
    unfold peel
    split
    · rfl
    · rename_i same
      cases same
    · rename_i best fuel' found same
      cases same
      obtain ⟨item, member, same⟩ := List.mem_map.mp (List.min?_mem found)
      have head := arranges count item member
      rw [same] at head
      obtain ⟨⟨first, middle⟩, arranged⟩ := Option.isSome_iff_exists.mp head
      have shorter : (items.filter (place · ≠ best)).length ≤ fuel := by
        have less : (items.filter (place · ≠ best)).length < items.length :=
          List.length_filter_lt_length_iff_exists.mpr ⟨item, member, by simp [same]⟩
        omega
      have later : (peel place arrange fuel middle (items.filter (place · ≠ best))).isSome = true := by
        refine ih (fun count' other inside => ?_) shorter
        obtain ⟨held, apart⟩ := List.mem_filter.mp inside
        rw [filter_group (of_decide_eq_true apart) items]
        exact arranges count' other held
      obtain ⟨⟨out, after⟩, rest⟩ := Option.isSome_iff_exists.mp later
      rw [arranged]
      simp only [Option.bind_eq_bind, Option.bind_some, rest]
      rfl

end Peel

section Runs

variable (place : α → Int) (arrange : Nat → List α → Option (List α × Nat))

/-- A loop that arranges the items from the first one on that have its place, and goes on behind
them. -/
def runs : Nat → Nat → List α → Option (List α × Nat)
  | _, count, [] => some ([], count)
  | 0, _, _ :: _ => none
  | fuel + 1, count, first :: rest => do
    let (here, count) ← arrange count (first :: rest.takeWhile (place · = place first))
    let (out, count) ← runs fuel count (rest.dropWhile (place · = place first))
    return (here ++ out, count)

variable {place} {items : List α}

theorem takeWhile_sorted {least : Int} (low : ∀ item ∈ items, least ≤ place item)
    (sorted : items.Pairwise fun left right => place left ≤ place right) :
    items.takeWhile (place · = least) = items.filter (place · = least) ∧
      items.dropWhile (place · = least) = items.filter (place · ≠ least) := by
  induction items with
  | nil => exact ⟨rfl, rfl⟩
  | cons first rest ih =>
    have behind := List.pairwise_cons.mp sorted
    by_cases same : place first = least
    · have tail := ih (fun item member => low item (.tail _ member)) behind.2
      simp only [same, List.takeWhile_cons, List.dropWhile_cons, List.filter_cons, decide_true,
        if_true, ne_eq, not_true_eq_false, decide_false, Bool.false_eq_true, if_false]
      exact ⟨congrArg _ tail.1, tail.2⟩
    · have above : least < place first := lt_of_le_of_ne (low first (.head _)) (Ne.symm same)
      have others : ∀ item ∈ first :: rest, place item ≠ least := by
        intro item member
        rcases List.mem_cons.mp member with rfl | member
        · exact same
        · exact (above.trans_le (behind.1 item member)).ne'
      have none : (first :: rest).filter (place · = least) = [] :=
        List.filter_eq_nil_iff.mpr fun item member => by simpa using others item member
      have all : (first :: rest).filter (place · ≠ least) = first :: rest :=
        List.filter_eq_self.mpr fun item member => by simpa using others item member
      rw [none, all]
      simp [same]

theorem runs_eq_peel (sorted : items.Pairwise fun left right => place left ≤ place right)
    (fuel count : Nat) : runs place arrange fuel count items = peel place arrange fuel count items := by
  induction fuel generalizing count items with
  | zero => cases items <;> rfl
  | succ fuel ih =>
    cases items with
    | nil => rfl
    | cons first rest =>
      have behind := List.pairwise_cons.mp sorted
      have least : ((first :: rest).map place).min? = some (place first) := by
        rw [List.min?_eq_some_iff]
        refine ⟨.head _, fun other member => ?_⟩
        obtain ⟨item, inside, rfl⟩ := List.mem_map.mp member
        rcases List.mem_cons.mp inside with rfl | inside
        · exact le_refl _
        · exact behind.1 item inside
      have parts := takeWhile_sorted behind.1 behind.2
      have here : (first :: rest).filter (place · = place first) =
          first :: rest.takeWhile (place · = place first) := by
        rw [parts.1]
        simp
      have there : (first :: rest).filter (place · ≠ place first) =
          rest.dropWhile (place · = place first) := by
        rw [parts.2]
        simp
      unfold runs peel
      rw [least]
      simp only [here, there]
      have tail : (rest.dropWhile (place · = place first)).Pairwise
          fun left right => place left ≤ place right :=
        behind.2.sublist (List.dropWhile_sublist _)
      simp only [ih tail]

end Runs

end CodexGate.Foundation
