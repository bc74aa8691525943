import Mathlib.Data.List.Basic

namespace CodexGate.Foundation

/-! A table whose rows are never removed: a row is retired, and a new version is inserted. -/

/-- The columns of a table that its primary key and the unique index of its active rows read. -/
structure Versioning (ρ ι σ : Type) where
  key : ρ → ι
  scope : ρ → σ
  active : ρ → Bool
  retire : ρ → ρ
  key_retire : ∀ row, key (retire row) = key row
  scope_retire : ∀ row, scope (retire row) = scope row
  active_retire : ∀ row, active (retire row) = false
  retire_retire : ∀ row, retire (retire row) = retire row

inductive Change (ρ ι : Type)
  | retire (key : ι)
  | insert (row : ρ)

namespace Versioning

variable {ρ ι σ : Type} (v : Versioning ρ ι σ)

def Compatible (row other : ρ) : Prop :=
  v.key row ≠ v.key other ∧ ¬(v.active row ∧ v.active other ∧ v.scope row = v.scope other)

def Indexed (rows : List ρ) : Prop := rows.Pairwise v.Compatible

def Same (row other : ρ) : Prop := other = row ∨ other = v.retire row

section Rows

variable {v}

theorem Same.retire {row other : ρ} (same : v.Same row other) : v.Same row (v.retire other) := by
  obtain same | same := same
  · rw [same]
    exact .inr rfl
  · rw [same, v.retire_retire]
    exact .inr rfl

theorem Same.trans {row other third : ρ} (same : v.Same row other) (next : v.Same other third) :
    v.Same row third := by
  obtain next | next := next
  · rw [next]
    exact same
  · rw [next]
    exact same.retire

theorem Same.key {row other : ρ} (same : v.Same row other) : v.key other = v.key row := by
  obtain same | same := same
  · rw [same]
  · rw [same, v.key_retire]

theorem Same.active {row other : ρ} (same : v.Same row other) (active : v.active other = true) :
    other = row := by
  obtain same | same := same
  · exact same
  · rw [same, v.active_retire] at active
    cases active

theorem Compatible.symm {row other : ρ} (compatible : v.Compatible row other) :
    v.Compatible other row :=
  ⟨fun same => compatible.1 same.symm,
    fun ⟨other, row, same⟩ => compatible.2 ⟨row, other, same.symm⟩⟩

theorem Compatible.same {row other row' other' : ρ} (compatible : v.Compatible row other)
    (left : v.Same row row') (right : v.Same other other') : v.Compatible row' other' := by
  constructor
  · rw [left.key, right.key]
    exact compatible.1
  · rintro ⟨leftActive, rightActive, scope⟩
    have leftIs := left.active leftActive
    have rightIs := right.active rightActive
    subst leftIs rightIs
    exact compatible.2 ⟨leftActive, rightActive, scope⟩

theorem Indexed.map {rows : List ρ} (indexed : v.Indexed rows) {f : ρ → ρ}
    (same : ∀ row, v.Same row (f row)) : v.Indexed (rows.map f) :=
  List.pairwise_map.mpr (indexed.imp fun compatible => compatible.same (same _) (same _))

theorem Indexed.eq_of_key {rows : List ρ} (indexed : v.Indexed rows) {row other : ρ}
    (member : row ∈ rows) (there : other ∈ rows) (same : v.key row = v.key other) :
    row = other := by
  have apart : rows.Pairwise fun row other => v.key row = v.key other → row = other :=
    indexed.imp fun compatible same => absurd same compatible.1
  refine apart.forall_of_forall_of_flip (fun _ _ _ => rfl) ?_ member there same
  exact indexed.imp fun compatible same => absurd same.symm compatible.1

end Rows

section Changes

variable [DecidableEq ι]

def retireAt (key : ι) (row : ρ) : ρ := if v.key row = key then v.retire row else row

def apply (rows : List ρ) : Change ρ ι → List ρ
  | .retire key => rows.map (v.retireAt key)
  | .insert row => rows ++ [row]

def view (changes : List (Change ρ ι)) (rows : List ρ) : List ρ := changes.foldl v.apply rows

def retiring : List (Change ρ ι) → ρ → ρ
  | [], row => row
  | .retire key :: changes, row => retiring changes (v.retireAt key row)
  | .insert _ :: changes, row => retiring changes row

variable {v}

theorem retireAt_same (key : ι) (row : ρ) : v.Same row (v.retireAt key row) := by
  unfold retireAt
  split
  · exact .inr rfl
  · exact .inl rfl

theorem Same.retireAt {row other : ρ} (same : v.Same row other) (key : ι) :
    v.Same (v.retireAt key row) (v.retireAt key other) := by
  unfold Versioning.retireAt
  rw [same.key]
  split
  · obtain same | same := same
    · rw [same]
      exact .inl rfl
    · rw [same, v.retire_retire]
      exact .inl rfl
  · exact same

theorem retiring_same (changes : List (Change ρ ι)) (row : ρ) :
    v.Same row (v.retiring changes row) := by
  induction changes generalizing row with
  | nil => exact .inl rfl
  | cons change changes ih =>
    cases change with
    | retire key => exact (retireAt_same key row).trans (ih _)
    | insert => exact ih row

theorem Same.retiring {row other : ρ} (same : v.Same row other) (changes : List (Change ρ ι)) :
    v.Same (v.retiring changes row) (v.retiring changes other) := by
  induction changes generalizing row other with
  | nil => exact same
  | cons change changes ih =>
    cases change with
    | retire key => exact ih (same.retireAt key)
    | insert => exact ih same

theorem retiring_eq_or (changes : List (Change ρ ι)) (row : ρ) :
    v.retiring changes row = row ∨ .retire (v.key row) ∈ changes := by
  induction changes with
  | nil => exact .inl rfl
  | cons change changes ih =>
    cases change with
    | retire key =>
      by_cases same : v.key row = key
      · subst same
        exact .inr (List.mem_cons_self ..)
      · have kept : v.retireAt key row = row := if_neg same
        rw [Versioning.retiring, kept]
        exact ih.imp_right (List.mem_cons_of_mem _)
    | insert => exact ih.imp_right (List.mem_cons_of_mem _)

@[simp] theorem view_nil (rows : List ρ) : v.view [] rows = rows := rfl

theorem view_append (changes : List (Change ρ ι)) (rows more : List ρ) :
    v.view changes (rows ++ more) = rows.map (v.retiring changes) ++ v.view changes more := by
  induction changes generalizing rows more with
  | nil => simp [Versioning.retiring]
  | cons change changes ih =>
    cases change with
    | retire key =>
      have viewed := ih (rows.map (v.retireAt key)) (more.map (v.retireAt key))
      rw [← List.map_append, List.map_map] at viewed
      exact viewed
    | insert row =>
      have viewed := ih rows (more ++ [row])
      rw [← List.append_assoc] at viewed
      exact viewed

/-- The rows of the table stay in front, and what a transaction inserts does not depend on them. -/
theorem view_eq (changes : List (Change ρ ι)) (rows : List ρ) :
    v.view changes rows = rows.map (v.retiring changes) ++ v.view changes [] := by
  rw [← view_append, List.append_nil]

theorem view_kept (changes : List (Change ρ ι)) {rows : List ρ} {row : ρ} (member : row ∈ rows) :
    ∃ kept ∈ v.view changes rows, v.Same row kept := by
  rw [view_eq]
  exact ⟨_, List.mem_append_left _ (List.mem_map_of_mem member), retiring_same changes row⟩

theorem view_mono (changes : List (Change ρ ι)) {rows later : List ρ}
    (kept : ∀ row ∈ rows, ∃ stays ∈ later, v.Same row stays) :
    ∀ row ∈ v.view changes rows, ∃ stays ∈ v.view changes later, v.Same row stays := by
  intro row member
  rw [view_eq] at member
  rw [view_eq]
  obtain member | member := List.mem_append.mp member
  · obtain ⟨stored, inside, is⟩ := List.mem_map.mp member
    obtain ⟨stays, there, same⟩ := kept stored inside
    rw [← is]
    exact ⟨_, List.mem_append_left _ (List.mem_map_of_mem there), same.retiring changes⟩
  · exact ⟨row, List.mem_append_right _ member, .inl rfl⟩

theorem Indexed.retire {rows : List ρ} (indexed : v.Indexed rows) (key : ι) :
    v.Indexed (v.apply rows (.retire key)) :=
  indexed.map (retireAt_same key)

theorem Indexed.insert {rows : List ρ} (indexed : v.Indexed rows) {row : ρ}
    (fits : ∀ other ∈ rows, v.Compatible other row) : v.Indexed (v.apply rows (.insert row)) := by
  refine List.pairwise_append.mpr ⟨indexed, List.pairwise_singleton _ _, ?_⟩
  intro other member new there
  rw [List.mem_singleton.mp there]
  exact fits other member

/-- A transaction still sees an indexed table after another one has committed, if the rows that
the two insert can stand together. -/
theorem Indexed.commit {changes committed : List (Change ρ ι)} {rows : List ρ}
    (mine : v.Indexed (v.view changes rows)) (theirs : v.Indexed (v.view committed rows))
    (apart : ∀ row ∈ v.view committed [], ∀ other ∈ v.view changes [], v.Compatible row other) :
    v.Indexed (v.view changes (v.view committed rows)) := by
  rw [view_eq] at mine
  obtain ⟨_, own, across⟩ := List.pairwise_append.mp mine
  rw [view_eq]
  refine List.pairwise_append.mpr ⟨theirs.map (retiring_same changes), own, ?_⟩
  intro row member other there
  obtain ⟨before, inside, is⟩ := List.mem_map.mp member
  rw [← is]
  rw [view_eq] at inside
  obtain inside | inside := List.mem_append.mp inside
  · obtain ⟨first, stored, is⟩ := List.mem_map.mp inside
    rw [← is]
    exact (across _ (List.mem_map_of_mem stored) other there).same
      ((retiring_same committed first).retiring changes) (.inl rfl)
  · exact (apart before inside other there).same (retiring_same changes before) (.inl rfl)

end Changes

end Versioning

end CodexGate.Foundation
