import CodexGate.Admin.RoutePolicies

namespace CodexGate.Admin.Policies

open Foundation Routing

def HasTarget (id : Int) (policy : RoutePolicy) : Prop :=
  ∃ target ∈ policy.targets, target.providerId = id

structure PolicyWellFormed (policy : RoutePolicy) : Prop where
  distinct : (policy.targets.map RouteTarget.providerId).Nodup
  bounded : ∀ target ∈ policy.targets, 0 ≤ target.priority.1 ∧ 1 ≤ target.weight.1

structure Integrity (store : PolicyStore) : Prop where
  default : ∃ row, store.policies.lookup "*" = some row
  wellFormed : ∀ {name row}, store.policies.lookup name = some row → PolicyWellFormed row.policy
  exist : ∀ {name row}, store.policies.lookup name = some row →
    ∀ target ∈ row.policy.targets, target.providerId ∈ store.providers

/-- The columns agree with the JSON, and what is still to be given out is not in use. -/
structure Consistent (store : PolicyStore) : Prop where
  named : ∀ {name row}, store.policies.lookup name = some row → row.policy.modelName = name
  ids : ∀ id ∈ store.providers, id < store.nextId
  born : ∀ {name row}, store.policies.lookup name = some row → row.born < store.nextRow

section Policies

variable {policy : RoutePolicy}

theorem PolicyWellFormed.filter (wellFormed : PolicyWellFormed policy) (keep : RouteTarget → Bool)
    (name : String) :
    PolicyWellFormed { policy with modelName := name, targets := policy.targets.filter keep } where
  distinct := wellFormed.distinct.sublist (List.filter_sublist.map _)
  bounded target member := wellFormed.bounded target (List.mem_of_mem_filter member)

theorem PolicyWellFormed.without (wellFormed : PolicyWellFormed policy) (id : Int) :
    PolicyWellFormed (withoutTarget id policy) :=
  wellFormed.filter _ _

theorem PolicyWellFormed.with (wellFormed : PolicyWellFormed policy) {id : Int}
    (absent : ¬ HasTarget id policy) (scheduling : Scheduling) (weighted : Bool) :
    PolicyWellFormed (withTarget (scheduling.target id) weighted policy) := by
  constructor
  · have apart : ∀ member ∈ policy.targets.map RouteTarget.providerId, member ≠ id := by
      intro member inside same
      obtain ⟨target, there, is⟩ := List.mem_map.mp inside
      exact absent ⟨target, there, is.trans same⟩
    have added := wellFormed.distinct.append (List.nodup_singleton id) (by
      intro member inside single
      exact apart member inside (List.mem_singleton.mp single))
    show ((policy.targets ++ [scheduling.target id]).map RouteTarget.providerId).Nodup
    rw [List.map_append]
    exact added
  · intro target member
    rcases List.mem_append.mp member with before | new
    · exact wellFormed.bounded target before
    · rw [List.mem_singleton.mp new]
      exact ⟨scheduling.priority_valid, scheduling.weight_valid⟩

theorem mem_without {id : Int} {target : RouteTarget} :
    target ∈ (withoutTarget id policy).targets ↔ target ∈ policy.targets ∧ target.providerId ≠ id := by
  simp [withoutTarget]

theorem hasTarget_without (id : Int) : ¬ HasTarget id (withoutTarget id policy) := by
  rintro ⟨target, member, same⟩
  exact (mem_without.mp member).2 same

theorem HasTarget.of_without {id other : Int} (has : HasTarget id (withoutTarget other policy)) :
    HasTarget id policy := by
  obtain ⟨target, member, same⟩ := has
  exact ⟨target, (mem_without.mp member).1, same⟩

theorem without_without (id : Int) :
    withoutTarget id (withoutTarget id policy) = withoutTarget id policy := by
  simp [withoutTarget]

end Policies

namespace PolicyStore

variable {store : PolicyStore}

theorem lookup_updatePolicy (name : String) (policy : RoutePolicy) (other : String) :
    (store.updatePolicy name policy).policies.lookup other =
      if other = name then (store.policies.lookup name).map fun row => { row with policy }
      else store.policies.lookup other := by
  unfold updatePolicy
  split
  next missing =>
    split
    next same => rw [same, missing, Option.map_none]
    · rfl
  next row there =>
    split
    next same => rw [same, AList.lookup_insert, there, Option.map_some]
    next different => exact AList.lookup_insert_ne different

theorem updatePolicy_same (store : PolicyStore) (name : String) (policy : RoutePolicy) :
    (store.updatePolicy name policy).nextId = store.nextId ∧
      (store.updatePolicy name policy).nextRow = store.nextRow := by
  unfold updatePolicy
  split <;> exact ⟨rfl, rfl⟩

theorem updatePolicy_providers (store : PolicyStore) (name : String) (policy : RoutePolicy) :
    (store.updatePolicy name policy).providers = store.providers := by
  unfold updatePolicy
  split <;> rfl

def savedRow (store : PolicyStore) (policy : RoutePolicy) : PolicyRow :=
  (store.policies.lookup policy.modelName).elim ⟨store.nextRow, policy⟩ fun row => { row with policy }

theorem savedRow_policy (store : PolicyStore) (policy : RoutePolicy) :
    (store.savedRow policy).policy = policy := by
  unfold savedRow
  cases store.policies.lookup policy.modelName <;> rfl

theorem lookup_saveRoutePolicy (policy : RoutePolicy) (other : String) :
    (store.saveRoutePolicy policy).policies.lookup other =
      if other = policy.modelName then some (store.savedRow policy)
      else store.policies.lookup other := by
  unfold saveRoutePolicy savedRow
  split
  next missing =>
    split
    next same => rw [same, AList.lookup_insert, missing, Option.elim_none]
    next different => exact AList.lookup_insert_ne different
  next row there =>
    split
    next same => rw [same, AList.lookup_insert, there, Option.elim_some]
    next different => exact AList.lookup_insert_ne different

theorem savedRow_born (store : PolicyStore) (policy : RoutePolicy) :
    (store.savedRow policy).born < (store.saveRoutePolicy policy).nextRow ∨
      ∃ row, store.policies.lookup policy.modelName = some row ∧
        (store.savedRow policy).born = row.born := by
  unfold saveRoutePolicy savedRow
  cases store.policies.lookup policy.modelName with
  | none => exact .inl (Nat.lt_succ_self _)
  | some row => exact .inr ⟨row, rfl, rfl⟩

theorem saveRoutePolicy_same (store : PolicyStore) (policy : RoutePolicy) :
    (store.saveRoutePolicy policy).nextId = store.nextId ∧
      store.nextRow ≤ (store.saveRoutePolicy policy).nextRow := by
  unfold saveRoutePolicy
  split
  · exact ⟨rfl, Nat.le_succ _⟩
  · exact ⟨rfl, Nat.le_refl _⟩

theorem saveRoutePolicy_providers (store : PolicyStore) (policy : RoutePolicy) :
    (store.saveRoutePolicy policy).providers = store.providers := by
  unfold saveRoutePolicy
  split <;> rfl

theorem lookup_deletePolicy {name other : String} {row : PolicyRow}
    (found : (store.deletePolicy name).policies.lookup other = some row) :
    store.policies.lookup other = some row ∧ (other = name → name = "*") := by
  unfold deletePolicy at found
  split at found
  next default => exact ⟨found, fun _ => default⟩
  · by_cases same : other = name
    · rw [same] at found
      rw [AList.lookup_erase] at found
      cases found
    · rw [AList.lookup_erase_ne same] at found
      exact ⟨found, fun is => absurd is same⟩

theorem mem_rows {name : String} {row : PolicyRow} (found : store.policies.lookup name = some row) :
    (name, row.born) ∈ store.rows := by
  have member : ⟨name, row⟩ ∈ store.policies.entries := AList.mem_lookup_iff.mp found
  rw [rows, List.mem_mergeSort]
  exact List.mem_map.mpr ⟨_, member, rfl⟩

end PolicyStore

section Dropping

variable {store : PolicyStore} (id : Int)

def ReadFrom (store : PolicyStore) (read : List RoutePolicy) : Prop :=
  ∀ policy ∈ read, ∀ row, store.policies.lookup policy.modelName = some row →
    row.policy = policy ∨ row.policy = withoutTarget id policy

theorem lookup_dropTarget_of_has {policy : RoutePolicy} (has : HasTarget id policy) (name : String) :
    (dropTarget id store policy).policies.lookup name =
      if name = policy.modelName then
        (store.policies.lookup policy.modelName).map fun row =>
          { row with policy := withoutTarget id policy }
      else store.policies.lookup name := by
  have any : (policy.targets.any fun target => target.providerId = id) = true := by
    simpa [HasTarget] using has
  rw [dropTarget, if_pos any, PolicyStore.lookup_updatePolicy]

theorem dropTarget_of_not {policy : RoutePolicy} (hasNot : ¬ HasTarget id policy) :
    dropTarget id store policy = store := by
  have none_ : ¬ (policy.targets.any fun target => target.providerId = id) = true := by
    simpa [HasTarget] using hasNot
  rw [dropTarget, if_neg none_]

structure SameBesides (store after : PolicyStore) : Prop where
  providers : after.providers = store.providers
  nextId : after.nextId = store.nextId
  nextRow : after.nextRow = store.nextRow

theorem dropTarget_same (store : PolicyStore) (id : Int) (policy : RoutePolicy) :
    SameBesides store (dropTarget id store policy) := by
  unfold dropTarget
  split
  · exact ⟨PolicyStore.updatePolicy_providers _ _ _, (PolicyStore.updatePolicy_same _ _ _).1,
      (PolicyStore.updatePolicy_same _ _ _).2⟩
  · exact ⟨rfl, rfl, rfl⟩

theorem foldl_same (store : PolicyStore) (id : Int) (read : List RoutePolicy) :
    SameBesides store (read.foldl (dropTarget id) store) := by
  induction read generalizing store with
  | nil => exact ⟨rfl, rfl, rfl⟩
  | cons policy read ih =>
    have first := dropTarget_same store id policy
    have rest := ih (dropTarget id store policy)
    exact ⟨rest.providers.trans first.providers, rest.nextId.trans first.nextId,
      rest.nextRow.trans first.nextRow⟩

structure Trimmed (row after : PolicyRow) : Prop where
  born : after.born = row.born
  policy : after.policy = row.policy ∨ after.policy = withoutTarget id row.policy

variable {id}

theorem Trimmed.trans {row after last : PolicyRow} (first : Trimmed id row after)
    (second : Trimmed id after last) : Trimmed id row last := by
  refine ⟨second.born.trans first.born, ?_⟩
  rcases first.policy with same | trimmed
  · rw [← same]
    exact second.policy
  · rcases second.policy with same | again
    · exact .inr (same.trans trimmed)
    · rw [again, trimmed, without_without]
      exact .inr rfl

theorem Trimmed.has {row after : PolicyRow} (trimmed : Trimmed id row after) {other : Int}
    (has : HasTarget other after.policy) : HasTarget other row.policy := by
  rcases trimmed.policy with same | without
  · rwa [same] at has
  · rw [without] at has
    exact has.of_without

def Drops (id : Int) (names : List String) (store after : PolicyStore) : Prop :=
  ∀ name, (store.policies.lookup name = none ∧ after.policies.lookup name = none) ∨
    ∃ row row', store.policies.lookup name = some row ∧ after.policies.lookup name = some row' ∧
      Trimmed id row row' ∧ (name ∉ names → row' = row) ∧ (name ∈ names → ¬ HasTarget id row'.policy)

theorem Drops.nil (store : PolicyStore) : Drops id [] store store := by
  intro name
  cases found : store.policies.lookup name with
  | none => exact .inl ⟨rfl, rfl⟩
  | some row => exact .inr ⟨row, row, rfl, rfl, ⟨rfl, .inl rfl⟩, fun _ => rfl, by simp⟩

theorem Drops.trans {names more : List String} {store after last : PolicyStore}
    (first : Drops id names store after) (second : Drops id more after last) :
    Drops id (names ++ more) store last := by
  intro name
  rcases first name with ⟨missing, still⟩ | ⟨row, row', found, then_, trimmed, kept, lost⟩
  · rcases second name with ⟨_, last⟩ | ⟨_, _, there, _⟩
    · exact .inl ⟨missing, last⟩
    · rw [still] at there
      cases there
  · rcases second name with ⟨gone, _⟩ | ⟨_, row'', there, last, again, keeps, loses⟩
    · rw [then_] at gone
      cases gone
    · rw [then_] at there
      cases there
      refine .inr ⟨row, row'', found, last, trimmed.trans again, ?_, ?_⟩
      · intro outside
        rw [List.mem_append, not_or] at outside
        rw [keeps outside.2, kept outside.1]
      · intro inside has
        rcases List.mem_append.mp inside with before | now
        · exact lost before (again.has has)
        · exact loses now has

theorem Drops.found {names : List String} {store after : PolicyStore}
    (drops : Drops id names store after) {name : String} {row' : PolicyRow}
    (found : after.policies.lookup name = some row') :
    ∃ row, store.policies.lookup name = some row ∧ Trimmed id row row' ∧
      (name ∉ names → row' = row) ∧ (name ∈ names → ¬ HasTarget id row'.policy) := by
  rcases drops name with ⟨_, missing⟩ | ⟨row, other, stored, there, rest⟩
  · rw [found] at missing
    cases missing
  · rw [found] at there
    cases there
    exact ⟨row, stored, rest⟩

theorem dropTarget_drops {policy : RoutePolicy} (read : ReadFrom id store [policy]) :
    Drops id [policy.modelName] store (dropTarget id store policy) := by
  intro name
  by_cases has : HasTarget id policy
  · rw [lookup_dropTarget_of_has id has]
    by_cases same : name = policy.modelName
    · subst same
      rw [if_pos rfl]
      cases found : store.policies.lookup policy.modelName with
      | none => exact .inl ⟨rfl, rfl⟩
      | some row =>
        have written : withoutTarget id policy = withoutTarget id row.policy := by
          rcases read policy List.mem_cons_self row found with is | is
          · rw [is]
          · rw [is, without_without]
        refine .inr ⟨row, _, rfl, rfl, ⟨rfl, .inr written⟩, ?_, fun _ => hasTarget_without id⟩
        exact fun outside => absurd List.mem_cons_self outside
    · rw [if_neg same]
      cases store.policies.lookup name with
      | none => exact .inl ⟨rfl, rfl⟩
      | some row =>
        refine .inr ⟨row, row, rfl, rfl, ⟨rfl, .inl rfl⟩, fun _ => rfl, ?_⟩
        exact fun inside => absurd (List.mem_singleton.mp inside) same
  · rw [dropTarget_of_not id has]
    cases found : store.policies.lookup name with
    | none => exact .inl ⟨rfl, rfl⟩
    | some row =>
      refine .inr ⟨row, row, rfl, rfl, ⟨rfl, .inl rfl⟩, fun _ => rfl, ?_⟩
      intro inside still
      have same := List.mem_singleton.mp inside
      subst same
      rcases read policy List.mem_cons_self row found with is | is
      · rw [is] at still
        exact has still
      · rw [is] at still
        exact hasTarget_without id still

theorem ReadFrom.dropTarget {policy : RoutePolicy} {rest : List RoutePolicy}
    (read : ReadFrom id store (policy :: rest)) : ReadFrom id (dropTarget id store policy) rest := by
  intro other member row found
  by_cases has : HasTarget id policy
  · rw [lookup_dropTarget_of_has id has] at found
    split at found
    next same =>
      obtain ⟨stored, there, is⟩ := Option.map_eq_some_iff.mp found
      have mine : withoutTarget id policy = withoutTarget id stored.policy := by
        rcases read policy List.mem_cons_self stored there with as_ | as_
        · rw [as_]
        · rw [as_, without_without]
      have others : withoutTarget id stored.policy = withoutTarget id other := by
        rw [← same] at there
        rcases read other (List.mem_cons_of_mem _ member) stored there with as_ | as_
        · rw [as_]
        · rw [as_, without_without]
      rw [← is]
      exact .inr (mine.trans others)
    · exact read other (List.mem_cons_of_mem _ member) row found
  · rw [dropTarget_of_not id has] at found
    exact read other (List.mem_cons_of_mem _ member) row found

theorem foldl_drops {read : List RoutePolicy} (reads : ReadFrom id store read) :
    Drops id (read.map RoutePolicy.modelName) store (read.foldl (dropTarget id) store) := by
  induction read generalizing store with
  | nil => exact Drops.nil store
  | cons policy rest ih =>
    have first := dropTarget_drops fun other member =>
      reads other (List.mem_of_mem_head? (List.mem_singleton.mp member ▸ rfl))
    exact first.trans (ih reads.dropTarget)

end Dropping

end CodexGate.Admin.Policies
