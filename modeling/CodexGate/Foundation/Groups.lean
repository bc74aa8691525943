import CodexGate.Foundation.Machine
import CodexGate.Foundation.SortedMaps
import Mathlib.Algebra.BigOperators.Group.List.Basic
import Mathlib.Data.List.Dedup
import Mathlib.Data.List.Perm.Basic

namespace CodexGate.Foundation

variable {α κ M : Type} [DecidableEq κ]

def rowsOf (key : α → κ) (rows : List α) (k : κ) : List α := rows.filter fun row => key row = k

def groupRows (key : α → κ) (rows : List α) : List (κ × List α) :=
  (rows.map key).dedup.map fun k => (k, rowsOf key rows k)

variable {key : α → κ} {rows : List α}

@[simp] theorem mem_rowsOf {k : κ} {row : α} : row ∈ rowsOf key rows k ↔ row ∈ rows ∧ key row = k := by
  simp [rowsOf]

theorem mem_groupRows {group : κ × List α} :
    group ∈ groupRows key rows ↔ (∃ row ∈ rows, key row = group.1) ∧ group.2 = rowsOf key rows group.1 := by
  obtain ⟨k, members⟩ := group
  simp only [groupRows, List.mem_map, List.mem_dedup, Prod.mk.injEq]
  constructor
  · rintro ⟨found, occurs, rfl, rfl⟩
    exact ⟨occurs, rfl⟩
  · rintro ⟨occurs, rfl⟩
    exact ⟨k, occurs, rfl, rfl⟩

theorem groupRows_keys : (groupRows key rows).map (·.1) = (rows.map key).dedup := by
  simp [groupRows, Function.comp_def]

theorem groupRows_nodup : ((groupRows key rows).map (·.1)).Nodup := by
  rw [groupRows_keys]
  exact List.nodup_dedup _

theorem rowsOf_filter_ne {k other : κ} (apart : other ≠ k) :
    rowsOf key (rows.filter fun row => !decide (key row = k)) other = rowsOf key rows other := by
  rw [rowsOf, List.filter_filter]
  apply List.filter_congr
  intro row _
  by_cases here : key row = other
  · simp [here, apart]
  · simp [here]

theorem flatMap_rowsOf_perm {keys : List κ} (nodup : keys.Nodup) (all : ∀ row ∈ rows, key row ∈ keys) :
    (keys.flatMap (rowsOf key rows)).Perm rows := by
  induction keys generalizing rows with
  | nil =>
    cases rows with
    | nil => rfl
    | cons row rest => exact absurd (all row (by simp)) (by simp)
  | cons k keys ih =>
    obtain ⟨fresh, nodup⟩ := List.nodup_cons.mp nodup
    have others : ∀ row ∈ rows.filter fun row => !decide (key row = k), key row ∈ keys := by
      intro row member
      obtain ⟨member, apart⟩ := List.mem_filter.mp member
      rcases List.mem_cons.mp (all row member) with here | later
      · simp [here] at apart
      · exact later
    have rest := ih nodup others
    have same : keys.flatMap (rowsOf key (rows.filter fun row => !decide (key row = k))) =
        keys.flatMap (rowsOf key rows) := by
      simp only [List.flatMap_def]
      congr 1
      apply List.map_congr_left
      intro other member
      apply rowsOf_filter_ne
      rintro rfl
      exact fresh member
    rw [same] at rest
    rw [List.flatMap_cons]
    exact (rest.append_left _).trans (List.filter_append_perm _ rows)

theorem groupRows_perm : ((groupRows key rows).flatMap (·.2)).Perm rows := by
  have spread : (groupRows key rows).flatMap (·.2) = (rows.map key).dedup.flatMap (rowsOf key rows) := by
    simp only [groupRows, List.flatMap_def, List.map_map, Function.comp_def]
  rw [spread]
  refine flatMap_rowsOf_perm (List.nodup_dedup _) ?_
  intro row member
  exact List.mem_dedup.mpr (List.mem_map_of_mem member)

theorem groupRows_sum [AddCommMonoid M] (weight : α → M) :
    ((groupRows key rows).map fun group => (group.2.map weight).sum).sum = (rows.map weight).sum := by
  have spread := (@groupRows_perm α κ _ key rows).map weight
  rw [← spread.sum_eq, List.map_flatMap]
  generalize groupRows key rows = groups
  induction groups with
  | nil => rfl
  | cons group groups ih => simp only [List.map_cons, List.sum_cons, List.flatMap_cons, List.sum_append, ih]

theorem groupRows_of_key {k : κ} {row : α} (member : row ∈ rows) (here : key row = k) :
    (k, rowsOf key rows k) ∈ groupRows key rows :=
  mem_groupRows.mpr ⟨⟨row, member, here⟩, rfl⟩

theorem rowsOf_filter {p : κ → Bool} {k : κ} (kept : p k = true) :
    rowsOf key (rows.filter fun row => p (key row)) k = rowsOf key rows k := by
  rw [rowsOf, rowsOf, List.filter_filter]
  apply List.filter_congr
  intro row _
  by_cases here : key row = k
  · simp [here, kept]
  · simp [here]

theorem groupRows_filter (p : κ → Bool) :
    ((groupRows key rows).filter fun group => p group.1).Perm
      (groupRows key (rows.filter fun row => p (key row))) := by
  have nodup : ∀ rows : List α, (groupRows key rows).Nodup := fun _ => groupRows_nodup.of_map
  apply (List.perm_ext_iff_of_nodup ((nodup _).filter _) (nodup _)).mpr
  intro group
  rw [List.mem_filter, mem_groupRows, mem_groupRows]
  constructor
  · rintro ⟨⟨⟨row, there, here⟩, members⟩, kept⟩
    have inside : row ∈ rows.filter fun row => p (key row) :=
      List.mem_filter.mpr ⟨there, (congrArg p here).trans kept⟩
    exact ⟨⟨row, inside, here⟩, members.trans (rowsOf_filter kept).symm⟩
  · rintro ⟨⟨row, inside, here⟩, members⟩
    obtain ⟨there, kept⟩ := List.mem_filter.mp inside
    rw [here] at kept
    exact ⟨⟨⟨row, there, here⟩, members.trans (rowsOf_filter kept)⟩, kept⟩

/-- What is looked up under a key is worked out from its rows, as long as no rows count for nothing. -/
theorem lookup_groups {β : Type} {groups : List (κ × List α)} (perm : groups.Perm (groupRows key rows))
    (f : List α → β) (k : κ) :
    ((groups.map fun group => (group.1, f group.2)).lookup k).getD (f []) = f (rowsOf key rows k) := by
  cases found : (groups.map fun group => (group.1, f group.2)).lookup k with
  | some value =>
    obtain ⟨before, after, split, -⟩ := List.lookup_eq_some_iff.mp found
    have member : (k, value) ∈ groups.map fun group => (group.1, f group.2) := by simp [split]
    obtain ⟨group, there, same⟩ := List.mem_map.mp member
    have members := (mem_groupRows.mp (perm.mem_iff.mp there)).2
    cases same
    rw [members]
    rfl
  | none =>
    have none : rowsOf key rows k = [] := by
      rw [List.eq_nil_iff_forall_not_mem]
      intro row member
      obtain ⟨member, here⟩ := mem_rowsOf.mp member
      have there := perm.mem_iff.mpr (groupRows_of_key member here)
      have apart := List.lookup_eq_none_iff.mp found _ (List.mem_map_of_mem there)
      simp at apart
    rw [none]
    rfl

section Ordered

variable {ι : Type} [LinearOrder ι]

def orderedGroups (key : α → ι) (rows : List α) : List (ι × List α) :=
  (groupRows key rows).mergeSort fun left right => left.1 ≤ right.1

theorem orderedGroups_perm (key : α → ι) (rows : List α) :
    (orderedGroups key rows).Perm (groupRows key rows) :=
  List.mergeSort_perm _ _

theorem orderedGroups_increasing (key : α → ι) (rows : List α) :
    ((orderedGroups key rows).map (·.1)).Pairwise (· < ·) := by
  have increasing : SortedMaps.Increasing (orderedGroups key rows) :=
    SortedMaps.inKeyOrder_increasing groupRows_nodup
  exact List.pairwise_map.mpr increasing

theorem filterMap_increasing {γ : Type} {nameOf : γ → ι} {groups : List (ι × α)} {f : ι × α → Option γ}
    (rises : (groups.map (·.1)).Pairwise (· < ·))
    (named : ∀ group ∈ groups, ∀ kept, f group = some kept → nameOf kept = group.1) :
    (groups.filterMap f).Pairwise fun left right => nameOf left < nameOf right := by
  rw [List.pairwise_filterMap]
  refine (List.pairwise_map.mp rises).imp_of_mem fun firstThere secondThere before => ?_
  intro a isA b isB
  rw [named _ firstThere a isA, named _ secondThere b isB]
  exact before

end Ordered

section Ranks

open Std (TransCmp OrientedCmp ReflCmp)

variable {α β : Type} {cmp : α → α → Ordering} [TransCmp cmp]

theorem descending_trans (f : β → α) : TransCmp fun left right => cmp (f right) (f left) where
  eq_swap {first second} := @OrientedCmp.eq_swap _ cmp _ (f second) (f first)
  isLE_trans first second := @TransCmp.isLE_trans _ cmp _ _ _ _ second first

theorem filter_lt_of_sorted {before after : List α} {a : α}
    (sorted : (before ++ a :: after).Pairwise fun left right => cmp left right = .lt) :
    (before ++ a :: after).filter (fun other => cmp other a = .lt) = before := by
  obtain ⟨-, rest, across⟩ := List.pairwise_append.mp sorted
  have first : before.filter (fun other => cmp other a = .lt) = before := by
    rw [List.filter_eq_self]
    intro other there
    exact decide_eq_true (across other there a (List.mem_cons_self ..))
  have last : (a :: after).filter (fun other => cmp other a = .lt) = [] := by
    rw [List.filter_eq_nil_iff]
    intro other there
    rcases List.mem_cons.mp there with rfl | there
    · simp [ReflCmp.compare_self]
    · have behind := (List.pairwise_cons.mp rest).1 other there
      simp [OrientedCmp.gt_of_lt behind]
  rw [List.filter_append, first, last, List.append_nil]

theorem mem_take_mergeSort_iff {items : List α} (apart : items.Pairwise fun left right => cmp left right ≠ .eq)
    {a : α} (member : a ∈ items) (n : Nat) :
    a ∈ (items.mergeSort fun left right => (cmp left right).isLE).take n ↔
      (items.filter fun other => cmp other a = .lt).length < n := by
  have perm := List.mergeSort_perm items fun left right => (cmp left right).isLE
  have ordered : (items.mergeSort fun left right => (cmp left right).isLE).Pairwise
      fun left right => (cmp left right).isLE = true := by
    apply List.pairwise_mergeSort
    · intro first second third
      exact TransCmp.isLE_trans
    · intro first second
      rw [@OrientedCmp.eq_swap _ cmp _ second first]
      cases cmp first second <;> rfl
  have distinct := (perm.pairwise_iff fun unequal equal => unequal (OrientedCmp.eq_symm equal)).mpr apart
  rw [← (perm.filter _).length_eq]
  generalize items.mergeSort (fun left right => (cmp left right).isLE) = sorted at perm ordered distinct ⊢
  obtain ⟨before, after, rfl⟩ := List.append_of_mem (perm.mem_iff.mpr member)
  have increasing := ordered.and distinct |>.imp fun ⟨le, ne⟩ =>
    (Ordering.isLE_iff_eq_lt_or_eq_eq.mp le).resolve_right ne
  rw [filter_lt_of_sorted increasing]
  constructor
  · intro early
    by_contra late
    rw [List.take_append_of_le_length (Nat.le_of_not_lt late)] at early
    have less := (List.pairwise_append.mp increasing).2.2 a (List.mem_of_mem_take early) a (List.mem_cons_self ..)
    have self : cmp a a = .eq := ReflCmp.compare_self
    rw [self] at less
    cases less
  · intro early
    rw [List.take_append, List.mem_append]
    right
    rw [List.take_cons (Nat.sub_pos_of_lt early)]
    exact List.mem_cons_self ..

end Ranks

/-! Rows that are added up under their keys one after the other; an addition can fail. -/

section Tallies

variable {β : Type} (step : β → α → Option β) (start : β) (keyOf : α → Option κ)

def tallyRow (table : HashMap κ β) (row : α) : Option (HashMap κ β) :=
  match keyOf row with
  | none => some table
  | some k => (step ((table.lookup k).getD start) row).map fun tally => table.insert k tally

def keyedRows (rows : List α) (k : κ) : List α := rows.filter fun row => keyOf row = some k

/-- Each key has the tally of its rows, and no key is without rows. -/
structure Tallied (rows : List α) (table : HashMap κ β) : Prop where
  tally : ∀ k, (keyedRows keyOf rows k).foldlM step start = some ((table.lookup k).getD start)
  occurs : ∀ k, (table.lookup k).isSome = true ↔ keyedRows keyOf rows k ≠ []

variable {step start keyOf} {table : HashMap κ β}

theorem Tallied.nil : Tallied step start keyOf [] (∅ : HashMap κ β) := by
  constructor
  · intro k
    simp [keyedRows]
  · intro k
    simp [keyedRows]

theorem keyedRows_concat_self {k : κ} {row : α} (here : keyOf row = some k) :
    keyedRows keyOf (rows ++ [row]) k = keyedRows keyOf rows k ++ [row] := by
  simp [keyedRows, here]

theorem keyedRows_concat_of_ne {k : κ} {row : α} (apart : keyOf row ≠ some k) :
    keyedRows keyOf (rows ++ [row]) k = keyedRows keyOf rows k := by
  simp [keyedRows, apart]

theorem Tallied.skip (tallied : Tallied step start keyOf rows table) {row : α} (keyless : keyOf row = none) :
    Tallied step start keyOf (rows ++ [row]) table := by
  have same : ∀ k, keyedRows keyOf (rows ++ [row]) k = keyedRows keyOf rows k := by
    intro k
    apply keyedRows_concat_of_ne
    simp [keyless]
  constructor
  · intro k
    rw [same]
    exact tallied.tally k
  · intro k
    rw [same]
    exact tallied.occurs k

theorem Tallied.insert (tallied : Tallied step start keyOf rows table) {row : α} {k : κ} {next : β}
    (here : keyOf row = some k) (added : step ((table.lookup k).getD start) row = some next) :
    Tallied step start keyOf (rows ++ [row]) (table.insert k next) := by
  constructor
  · intro other
    by_cases same : other = k
    · subst same
      rw [keyedRows_concat_self here, List.foldlM_append, tallied.tally, AList.lookup_insert]
      simp [added]
    · have apart : keyOf row ≠ some other := by
        rw [here]
        simpa using Ne.symm same
      rw [keyedRows_concat_of_ne apart, AList.lookup_insert_ne same]
      exact tallied.tally other
  · intro other
    by_cases same : other = k
    · subst same
      rw [keyedRows_concat_self here, AList.lookup_insert]
      simp
    · have apart : keyOf row ≠ some other := by
        rw [here]
        simpa using Ne.symm same
      rw [keyedRows_concat_of_ne apart, AList.lookup_insert_ne same]
      exact tallied.occurs other

theorem Tallied.concat {next : HashMap κ β} (tallied : Tallied step start keyOf rows table) {row : α}
    (added : tallyRow step start keyOf table row = some next) :
    Tallied step start keyOf (rows ++ [row]) next := by
  unfold tallyRow at added
  cases here : keyOf row with
  | none =>
    rw [here] at added
    cases added
    exact tallied.skip here
  | some k =>
    rw [here] at added
    obtain ⟨tally, stepped, rfl⟩ := Option.map_eq_some_iff.mp added
    exact tallied.insert here stepped

theorem Tallied.tallyRow_exists (tallied : Tallied step start keyOf rows table) {row : α}
    (sums : ∀ k, ((keyedRows keyOf (rows ++ [row]) k).foldlM step start).isSome = true) :
    ∃ next, tallyRow step start keyOf table row = some next := by
  unfold tallyRow
  cases here : keyOf row with
  | none => exact ⟨table, rfl⟩
  | some k =>
    have sum := sums k
    rw [keyedRows_concat_self here, List.foldlM_append, tallied.tally] at sum
    obtain ⟨tally, added⟩ := Option.isSome_iff_exists.mp sum
    have stepped : step ((table.lookup k).getD start) row = some tally := by simpa using added
    refine ⟨table.insert k tally, ?_⟩
    show Option.map _ (step ((table.lookup k).getD start) row) = _
    rw [stepped]
    rfl

end Tallies

end CodexGate.Foundation
