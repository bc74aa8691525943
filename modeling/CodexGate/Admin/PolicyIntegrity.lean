import CodexGate.Admin.PolicyRows

namespace CodexGate.Admin.Policies

open Foundation Routing

/-- A deletion has read the rows that it holds as they are, and it will see every row with the
target that it is to remove. -/
structure Covered (target : Int) (names : List (String × Nat)) (read : List RoutePolicy)
    (store : PolicyStore) : Prop where
  asRead : ∀ policy ∈ read, ∃ born, store.policies.lookup policy.modelName = some ⟨born, policy⟩
  covered : ∀ {name row}, store.policies.lookup name = some row →
    name = "*" ∨ HasTarget target row.policy →
      name ∈ read.map RoutePolicy.modelName ∨ (name, row.born) ∈ names

structure Reserved (id : Int) (store : PolicyStore) : Prop where
  given : id < store.nextId
  absent : id ∉ store.providers

def StageSound (store : PolicyStore) (operation : Operation) : Stage → Prop
  | .waiting | .ended => True
  | .inserted id => Reserved id store
  | .extending id policy => Reserved id store ∧ ∃ born, store.policies.lookup "*" = some ⟨born, policy⟩
  | .replacing policy => ∃ born, store.policies.lookup "*" = some ⟨born, policy⟩
  | .locking names read => ∀ id, operation = .deleteUpstreamProvider id → Covered id names read store
  | .saving policy => PolicyWellFormed policy

def Stage.reserved : Stage → Option Int
  | .inserted id | .extending id _ => some id
  | .waiting | .replacing _ | .locking _ _ | .saving _ | .ended => none

structure Respects (store after : PolicyStore) (operation : Operation) (stage : Stage) : Prop where
  locked : ∀ name ∈ stage.locks, after.policies.lookup name = store.policies.lookup name
  reserved : ∀ id ∈ stage.reserved, Reserved id store → Reserved id after
  covered : ∀ {id names read}, operation = .deleteUpstreamProvider id → stage = .locking names read →
    ∀ {name row'}, after.policies.lookup name = some row' → name = "*" ∨ HasTarget id row'.policy →
      (∃ row, store.policies.lookup name = some row ∧ row.born = row'.born ∧
        (name = "*" ∨ HasTarget id row.policy)) ∨ (name, row'.born) ∈ names

theorem StageSound.respects {store after : PolicyStore} {operation : Operation} {stage : Stage}
    (sound : StageSound store operation stage) (respects : Respects store after operation stage) :
    StageSound after operation stage := by
  cases stage with
  | waiting => trivial
  | ended => trivial
  | inserted id => exact respects.reserved id rfl sound
  | extending id policy =>
    obtain ⟨reserved, born, there⟩ := sound
    refine ⟨respects.reserved id rfl reserved, born, ?_⟩
    rw [respects.locked "*" List.mem_cons_self]
    exact there
  | replacing policy =>
    obtain ⟨born, there⟩ := sound
    refine ⟨born, ?_⟩
    rw [respects.locked "*" List.mem_cons_self]
    exact there
  | saving policy => exact sound
  | locking names read =>
    intro id is
    have covered := sound id is
    constructor
    · intro policy member
      obtain ⟨born, there⟩ := covered.asRead policy member
      refine ⟨born, ?_⟩
      rw [respects.locked policy.modelName (List.mem_map_of_mem member)]
      exact there
    · intro name row' found concerns
      rcases respects.covered is rfl found concerns with ⟨row, before, born, concerned⟩ | waiting
      · rw [← born]
        exact covered.covered before concerned
      · exact .inr waiting

theorem Respects.of_same {store after : PolicyStore} {operation : Operation} {stage : Stage}
    (policies : after.policies = store.policies)
    (reserved : ∀ id ∈ stage.reserved, Reserved id store → Reserved id after) :
    Respects store after operation stage where
  locked name _ := by rw [policies]
  reserved := reserved
  covered := by
    intro id names read _ _ name row' found concerns
    rw [policies] at found
    exact .inl ⟨row', found, rfl, concerns⟩

structure Sets (store after : PolicyStore) (name : String) (row : PolicyRow) : Prop where
  here : after.policies.lookup name = some row
  there : ∀ other, other ≠ name → after.policies.lookup other = store.policies.lookup other

theorem updatePolicy_sets {store : PolicyStore} {name : String} {row : PolicyRow}
    (stored : store.policies.lookup name = some row) (policy : RoutePolicy) :
    Sets store (store.updatePolicy name policy) name { row with policy } where
  here := by rw [PolicyStore.lookup_updatePolicy, if_pos rfl, stored, Option.map_some]
  there other different := by rw [PolicyStore.lookup_updatePolicy, if_neg different]

theorem saveRoutePolicy_sets (store : PolicyStore) (policy : RoutePolicy) :
    Sets store (store.saveRoutePolicy policy) policy.modelName (store.savedRow policy) where
  here := by rw [PolicyStore.lookup_saveRoutePolicy, if_pos rfl]
  there other different := by rw [PolicyStore.lookup_saveRoutePolicy, if_neg different]

section Sets

variable {store after : PolicyStore} {name : String} {row : PolicyRow}

theorem Sets.cases (sets : Sets store after name row) {other : String} {found : PolicyRow}
    (is : after.policies.lookup other = some found) :
    other = name ∧ found = row ∨ other ≠ name ∧ store.policies.lookup other = some found := by
  by_cases same : other = name
  · rw [same, sets.here] at is
    exact .inl ⟨same, (Option.some.inj is).symm⟩
  · rw [sets.there other same] at is
    exact .inr ⟨same, is⟩

theorem Sets.integrity (sets : Sets store after name row) (integrity : Integrity store)
    (providers : store.providers ⊆ after.providers) (wellFormed : PolicyWellFormed row.policy)
    (exist : ∀ target ∈ row.policy.targets, target.providerId ∈ after.providers) :
    Integrity after := by
  constructor
  · by_cases same : "*" = name
    · rw [same]
      exact ⟨row, sets.here⟩
    · rw [sets.there "*" same]
      exact integrity.default
  · intro other found is
    rcases sets.cases is with ⟨_, same⟩ | ⟨_, before⟩
    · rw [same]
      exact wellFormed
    · exact integrity.wellFormed before
  · intro other found is target member
    rcases sets.cases is with ⟨_, same⟩ | ⟨_, before⟩
    · rw [same] at member
      exact exist target member
    · exact providers (integrity.exist before target member)

theorem Sets.consistent (sets : Sets store after name row) (consistent : Consistent store)
    (named : row.policy.modelName = name) (born : row.born < after.nextRow)
    (rows : store.nextRow ≤ after.nextRow) (ids : ∀ id ∈ after.providers, id < after.nextId) :
    Consistent after := by
  refine ⟨?_, ids, ?_⟩
  · intro other found is
    rcases sets.cases is with ⟨here, same⟩ | ⟨_, before⟩
    · rw [same, here]
      exact named
    · exact consistent.named before
  · intro other found is
    rcases sets.cases is with ⟨_, same⟩ | ⟨_, before⟩
    · rw [same]
      exact born
    · exact (consistent.born before).trans_le rows

theorem Sets.respects (sets : Sets store after name row) {operation : Operation} {stage : Stage}
    (unlocked : name ∉ stage.locks)
    (reserved : ∀ id ∈ stage.reserved, Reserved id store → Reserved id after)
    (seen : ∀ {id names read}, operation = .deleteUpstreamProvider id → stage = .locking names read →
      name = "*" ∨ HasTarget id row.policy →
        (∃ before, store.policies.lookup name = some before ∧ before.born = row.born ∧ name = "*") ∨
          (name, row.born) ∈ names) : Respects store after operation stage where
  locked other member := by
    apply sets.there
    intro same
    exact unlocked (same ▸ member)
  reserved := reserved
  covered := by
    intro id names read is at_ other found there concerns
    rcases sets.cases there with ⟨here, same⟩ | ⟨_, before⟩
    · rw [here] at concerns ⊢
      rw [same] at concerns ⊢
      rcases seen is at_ concerns with ⟨old, stored, born, default⟩ | waiting
      · exact .inl ⟨old, stored, born, .inl default⟩
      · exact .inr waiting
    · exact .inl ⟨found, before, rfl, concerns⟩

end Sets

variable {ι : Type} {operations : ι → Operation}

structure Sound (operations : ι → Operation) (state : PolicyState ι) : Prop where
  integrity : Integrity state.store
  consistent : Consistent state.store
  stages : ∀ i, StageSound state.store (operations i) (state.stages i)
  exclusive : ∀ i j, i ≠ j → ∀ name ∈ (state.stages i).locks, name ∉ (state.stages j).locks
  apart : ∀ i j, i ≠ j → ∀ id ∈ (state.stages i).reserved, id ∉ (state.stages j).reserved

/-- The provider is there, and a deletion of it that is under way will still see the row. -/
def Lasts (operations : ι → Operation) (state : PolicyState ι) (name : String) (id : Int) : Prop :=
  id ∈ state.store.providers ∧ ∀ j names read, operations j = .deleteUpstreamProvider id →
    state.stages j = .locking names read →
      ∃ row, state.store.policies.lookup name = some row ∧ (name, row.born) ∈ names

structure Advances (operations : ι → Operation) (state : PolicyState ι) (i : ι)
    (after : PolicyStore) (stage : Stage) : Prop where
  integrity : Integrity after
  consistent : Consistent after
  holds : StageSound after (operations i) stage
  respects : ∀ j, j ≠ i → Respects state.store after (operations j) (state.stages j)
  locks : ∀ name ∈ stage.locks, name ∈ (state.stages i).locks ∨
    ∀ j, j ≠ i → name ∉ (state.stages j).locks
  reserved : ∀ id ∈ stage.reserved, id ∈ (state.stages i).reserved ∨
    ∀ j, j ≠ i → id ∉ (state.stages j).reserved

theorem exclusive_update [DecidableEq ι] {α : Type} {P : Stage → α → Prop} {stages : ι → Stage}
    (exclusive : ∀ i j, i ≠ j → ∀ a, P (stages i) a → ¬ P (stages j) a) {i : ι} {stage : Stage}
    (takes : ∀ a, P stage a → P (stages i) a ∨ ∀ j, j ≠ i → ¬ P (stages j) a) :
    ∀ j k, j ≠ k → ∀ a, P (Function.update stages i stage j) a →
      ¬ P (Function.update stages i stage k) a := by
  have apart : ∀ j, j ≠ i → ∀ a, P stage a → ¬ P (stages j) a := by
    intro j other a taken
    rcases takes a taken with before | free
    · exact exclusive i j (Ne.symm other) a before
    · exact free j other
  intro j k different a
  by_cases here : j = i
  · subst here
    rw [Function.update_self, Function.update_of_ne (Ne.symm different)]
    exact apart k (Ne.symm different) a
  · rw [Function.update_of_ne here]
    by_cases there : k = i
    · subst there
      rw [Function.update_self]
      exact fun member taken => apart j here a taken member
    · rw [Function.update_of_ne there]
      exact exclusive j k different a

theorem Sound.advance [DecidableEq ι] {state : PolicyState ι} (sound : Sound operations state) {i : ι}
    {after : PolicyStore} {stage : Stage} (advances : Advances operations state i after stage) :
    Sound operations ⟨after, Function.update state.stages i stage⟩ where
  integrity := advances.integrity
  consistent := advances.consistent
  stages := by
    intro j
    show StageSound after (operations j) (Function.update state.stages i stage j)
    by_cases here : j = i
    · subst here
      rw [Function.update_self]
      exact advances.holds
    · rw [Function.update_of_ne here]
      exact (sound.stages j).respects (advances.respects j here)
  exclusive := exclusive_update (P := fun stage name => name ∈ stage.locks) sound.exclusive
    advances.locks
  apart := exclusive_update (P := fun stage id => id ∈ stage.reserved) sound.apart
    advances.reserved

section Advances

variable {state : PolicyState ι} (sound : Sound operations state) {i : ι}

include sound

theorem Sound.still {stage : Stage} (holds : StageSound state.store (operations i) stage)
    (locks : ∀ name ∈ stage.locks, name ∈ (state.stages i).locks ∨
      ∀ j, j ≠ i → name ∉ (state.stages j).locks)
    (reserved : ∀ id ∈ stage.reserved, id ∈ (state.stages i).reserved) :
    Advances operations state i state.store stage where
  integrity := sound.integrity
  consistent := sound.consistent
  holds := holds
  respects _ _ := Respects.of_same rfl fun _ _ reserved => reserved
  locks := locks
  reserved id member := .inl (reserved id member)

theorem Sound.ended : Advances operations state i state.store .ended :=
  sound.still trivial (fun _ member => absurd member List.not_mem_nil) (fun _ member => nomatch member)

theorem Sound.waiting_saving {policy : RoutePolicy} (wellFormed : PolicyWellFormed policy) :
    Advances operations state i state.store (.saving policy) :=
  sound.still wellFormed (fun _ member => absurd member List.not_mem_nil)
    (fun _ member => nomatch member)

theorem Sound.not_locked {name : String} (mine : name ∈ (state.stages i).locks) {j : ι}
    (other : j ≠ i) : name ∉ (state.stages j).locks :=
  sound.exclusive i j (Ne.symm other) name mine

theorem Sound.setDefault {after : PolicyStore} {row : PolicyRow} {born : Nat} {policy : RoutePolicy}
    (locked : "*" ∈ (state.stages i).locks)
    (stored : state.store.policies.lookup "*" = some ⟨born, policy⟩)
    (sets : Sets state.store after "*" row) (sameBorn : row.born = born)
    (sameRows : after.nextRow = state.store.nextRow) (integrity : Integrity after)
    (ids : ∀ id ∈ after.providers, id < after.nextId) (named : row.policy.modelName = "*")
    (reserved : ∀ j, j ≠ i → ∀ id ∈ (state.stages j).reserved, Reserved id state.store →
      Reserved id after) : Advances operations state i after .ended where
  integrity := integrity
  consistent := by
    apply sets.consistent sound.consistent named ?_ (Nat.le_of_eq sameRows.symm) ids
    rw [sameBorn, sameRows]
    exact sound.consistent.born stored
  holds := trivial
  respects j other := by
    apply sets.respects (sound.not_locked locked other) (reserved j other)
    intro id names read _ _ _
    exact .inl ⟨_, stored, sameBorn.symm, rfl⟩
  locks _ member := absurd member List.not_mem_nil
  reserved _ member := nomatch member

theorem Sound.reserves {j : ι} {id : Int} (member : id ∈ (state.stages j).reserved) :
    Reserved id state.store := by
  have mine := sound.stages j
  cases at_ : state.stages j with
  | inserted other =>
    rw [at_] at mine member
    cases member
    exact mine
  | extending other policy =>
    rw [at_] at mine member
    cases member
    exact mine.1
  | waiting | replacing _ | locking _ _ | saving _ | ended =>
    rw [at_] at member
    cases member

theorem Sound.reserve : Advances operations state i
    { state.store with nextId := state.store.nextId + 1 } (.inserted state.store.nextId) where
  integrity := ⟨sound.integrity.default, sound.integrity.wellFormed, sound.integrity.exist⟩
  consistent :=
    ⟨sound.consistent.named, fun id member => (sound.consistent.ids id member).trans (Int.lt_succ _),
      sound.consistent.born⟩
  holds := ⟨Int.lt_succ _, fun member => (sound.consistent.ids _ member).false⟩
  respects _ _ := Respects.of_same rfl fun _ _ reserved =>
    ⟨reserved.given.trans (Int.lt_succ _), reserved.absent⟩
  locks _ member := absurd member List.not_mem_nil
  reserved id member := by
    cases member
    exact .inr fun j _ theirs => (sound.reserves theirs).given.false

theorem Sound.extend {id : Int} {policy : RoutePolicy} (at_ : state.stages i = .extending id policy)
    (scheduling : Scheduling) (weighted : Bool) :
    Advances operations state i ((state.store.addProvider id).updatePolicy "*"
      (withTarget (scheduling.target id) weighted policy)) .ended := by
  have mine := sound.stages i
  rw [at_] at mine
  obtain ⟨reserved, born, stored⟩ := mine
  have here : (state.store.addProvider id).policies.lookup "*" = some ⟨born, policy⟩ := stored
  have setting := updatePolicy_sets here (withTarget (scheduling.target id) weighted policy)
  have sets : Sets state.store ((state.store.addProvider id).updatePolicy "*"
      (withTarget (scheduling.target id) weighted policy)) "*" _ := ⟨setting.here, setting.there⟩
  have same := PolicyStore.updatePolicy_same (state.store.addProvider id) "*"
    (withTarget (scheduling.target id) weighted policy)
  have providers := PolicyStore.updatePolicy_providers (state.store.addProvider id) "*"
    (withTarget (scheduling.target id) weighted policy)
  have absent : ¬ HasTarget id policy := by
    rintro ⟨target, member, is⟩
    exact reserved.absent (is ▸ sound.integrity.exist stored target member)
  apply sound.setDefault (by rw [at_]; exact List.mem_cons_self) stored sets rfl same.2
  · apply sets.integrity sound.integrity
    · rw [providers]
      exact Finset.subset_insert _ _
    · exact (sound.integrity.wellFormed stored).with absent scheduling weighted
    · intro target member
      rw [providers]
      rcases List.mem_append.mp member with before | new
      · exact Finset.mem_insert_of_mem (sound.integrity.exist stored target before)
      · rw [List.mem_singleton.mp new]
        exact Finset.mem_insert_self _ _
  · intro other member
    rw [providers] at member
    rw [same.1]
    rcases Finset.mem_insert.mp member with here | there
    · rw [here]
      exact reserved.given
    · exact sound.consistent.ids other there
  · have named : policy.modelName = "*" := sound.consistent.named stored
    exact named
  · intro j other id' theirs before
    refine ⟨?_, ?_⟩
    · rw [same.1]
      exact before.given
    · rw [providers]
      intro member
      rcases Finset.mem_insert.mp member with here | there
      · rw [here] at theirs
        exact sound.apart i j (Ne.symm other) id (by rw [at_]; rfl) theirs
      · exact before.absent there

theorem Sound.lockDefault {stage : Stage}
    (free : ∀ j ≠ i, "*" ∉ (state.stages j).locks) (holds : StageSound state.store (operations i) stage)
    (locks : stage.locks = ["*"]) (reserved : stage.reserved = (state.stages i).reserved) :
    Advances operations state i state.store stage := by
  apply sound.still holds
  · intro name member
    rw [locks] at member
    rw [List.mem_singleton.mp member]
    exact .inr free
  · intro id member
    rwa [← reserved]

theorem Sound.insertProviderBundle {scheduling : Scheduling} {weighted : Bool} {move : Move}
    (next : Policies.insertProviderBundle scheduling weighted state.store (state.stages i) = some move)
    (unlocked : ∀ name ∈ move.row, ∀ j ≠ i, name ∉ (state.stages j).locks) :
    Advances operations state i move.store move.stage := by
  have mine := sound.stages i
  unfold Policies.insertProviderBundle at next
  split at next
  · cases next
    exact sound.reserve
  next id at_ =>
    rw [at_] at mine
    split at next
    · cases next
      exact sound.ended
    next row stored =>
      cases next
      have holds : StageSound state.store (operations i) (.extending id row.policy) :=
        ⟨mine, row.born, stored⟩
      apply sound.lockDefault (unlocked "*" rfl) holds rfl
      rw [at_]
      rfl
  next id policy at_ =>
    cases next
    exact sound.extend at_ scheduling weighted
  · cases next

theorem Sound.replace {policy : RoutePolicy} (at_ : state.stages i = .replacing policy) {id : Int}
    (exists_ : id ∈ state.store.providers) (scheduling : Scheduling) (weighted : Bool) :
    Advances operations state i (state.store.updatePolicy "*"
      (withTarget (scheduling.target id) weighted (withoutTarget id policy))) .ended := by
  have mine := sound.stages i
  rw [at_] at mine
  obtain ⟨born, stored⟩ := mine
  have sets := updatePolicy_sets stored
    (withTarget (scheduling.target id) weighted (withoutTarget id policy))
  have same := PolicyStore.updatePolicy_same state.store "*"
    (withTarget (scheduling.target id) weighted (withoutTarget id policy))
  have providers := PolicyStore.updatePolicy_providers state.store "*"
    (withTarget (scheduling.target id) weighted (withoutTarget id policy))
  apply sound.setDefault (by rw [at_]; exact List.mem_cons_self) stored sets rfl same.2
  · apply sets.integrity sound.integrity
    · rw [providers]
    · exact ((sound.integrity.wellFormed stored).without id).with (hasTarget_without id) scheduling
        weighted
    · intro target member
      rw [providers]
      rcases List.mem_append.mp member with before | new
      · exact sound.integrity.exist stored target (mem_without.mp before).1
      · rw [List.mem_singleton.mp new]
        exact exists_
  · intro other member
    rw [providers] at member
    rw [same.1]
    exact sound.consistent.ids other member
  · have named : policy.modelName = "*" := sound.consistent.named stored
    exact named
  · intro j other id' theirs before
    refine ⟨?_, ?_⟩
    · rw [same.1]
      exact before.given
    · rw [providers]
      exact before.absent

theorem Sound.snapshot : Advances operations state i state.store (.locking state.store.rows []) := by
  apply sound.still
  · intro id _
    refine ⟨fun _ member => absurd member List.not_mem_nil, fun found _ => ?_⟩
    exact .inr (PolicyStore.mem_rows found)
  · exact fun _ member => absurd member List.not_mem_nil
  · exact fun _ member => nomatch member

theorem Sound.passOver {name : String} {born : Nat} {names : List (String × Nat)}
    {read : List RoutePolicy} (at_ : state.stages i = .locking ((name, born) :: names) read)
    (gone : ∀ row, state.store.policies.lookup name = some row → row.born ≠ born) :
    Advances operations state i state.store (.locking names read) := by
  have mine := sound.stages i
  rw [at_] at mine
  apply sound.still
  · intro id is
    have covered := mine id is
    refine ⟨covered.asRead, fun found concerns => ?_⟩
    rcases covered.covered found concerns with before | waits
    · exact .inl before
    · rcases List.mem_cons.mp waits with here | later
      · cases here
        exact absurd rfl (gone _ found)
      · exact .inr later
  · intro other member
    rw [at_]
    exact .inl member
  · exact fun _ member => nomatch member

theorem Sound.lockNext {name : String} {row : PolicyRow} {names : List (String × Nat)}
    {read : List RoutePolicy} (at_ : state.stages i = .locking ((name, row.born) :: names) read)
    (stored : state.store.policies.lookup name = some row)
    (free : ∀ j ≠ i, name ∉ (state.stages j).locks) :
    Advances operations state i state.store (.locking names (read ++ [row.policy])) := by
  have mine := sound.stages i
  rw [at_] at mine
  have named := sound.consistent.named stored
  apply sound.still
  · intro id is
    have covered := mine id is
    constructor
    · intro policy member
      rcases List.mem_append.mp member with before | new
      · exact covered.asRead policy before
      · rw [List.mem_singleton.mp new, named]
        exact ⟨row.born, stored⟩
    · intro other found there concerns
      rw [List.map_append]
      rcases covered.covered there concerns with before | waits
      · exact .inl (List.mem_append_left _ before)
      · rcases List.mem_cons.mp waits with here | later
        · rw [(Prod.mk.inj here).1]
          refine .inl (List.mem_append_right _ ?_)
          rw [List.map_singleton, named]
          exact List.mem_singleton_self _
        · exact .inr later
  · intro other member
    rw [at_]
    have inside : other ∈ (read ++ [row.policy]).map RoutePolicy.modelName := member
    rw [List.map_append] at inside
    rcases List.mem_append.mp inside with before | new
    · exact .inl before
    · rw [List.map_singleton, named] at new
      rw [List.mem_singleton.mp new]
      exact .inr free
  · exact fun _ member => nomatch member

theorem Sound.commitDeletion {id : Int} {read : List RoutePolicy}
    (is : operations i = .deleteUpstreamProvider id) (at_ : state.stages i = .locking [] read) :
    Advances operations state i ((read.foldl (dropTarget id) state.store).removeProvider id) .ended := by
  have covered : Covered id [] read state.store := by
    have mine := sound.stages i
    rw [at_] at mine
    exact mine id is
  have locks : (state.stages i).locks = read.map RoutePolicy.modelName := by
    rw [at_]
    rfl
  have reads : ReadFrom id state.store read := by
    intro policy member row found
    obtain ⟨born, there⟩ := covered.asRead policy member
    rw [there] at found
    cases found
    exact .inl rfl
  have drops := foldl_drops reads
  have same := foldl_same state.store id read
  have gone : ∀ {name row'}, (read.foldl (dropTarget id) state.store).policies.lookup name = some row' →
      ¬ HasTarget id row'.policy := by
    intro name row' found
    obtain ⟨row, stored, trimmed, kept, lost⟩ := drops.found found
    by_cases inside : name ∈ read.map RoutePolicy.modelName
    · exact lost inside
    · intro has
      rcases covered.covered stored (.inr (trimmed.has has)) with member | waits
      · exact inside member
      · exact absurd waits List.not_mem_nil
  have providers : ((read.foldl (dropTarget id) state.store).removeProvider id).providers =
      state.store.providers.erase id := congrArg (Finset.erase · id) same.providers
  refine ⟨⟨?_, ?_, ?_⟩, ⟨?_, ?_, ?_⟩, trivial, ?_, fun _ member => absurd member List.not_mem_nil,
    fun _ member => nomatch member⟩
  · obtain ⟨row, default⟩ := sound.integrity.default
    rcases drops "*" with ⟨missing, _⟩ | ⟨_, row', _, there, _⟩
    · rw [default] at missing
      cases missing
    · exact ⟨row', there⟩
  · intro name row' found
    obtain ⟨row, stored, trimmed, _, _⟩ := drops.found found
    rcases trimmed.policy with as_ | as_
    · rw [as_]
      exact sound.integrity.wellFormed stored
    · rw [as_]
      exact (sound.integrity.wellFormed stored).without id
  · intro name row' found target member
    obtain ⟨row, stored, trimmed, _, _⟩ := drops.found found
    obtain ⟨original, there, same⟩ := trimmed.has ⟨target, member, rfl⟩
    rw [providers, Finset.mem_erase]
    refine ⟨fun is_ => gone found ⟨target, member, is_⟩, ?_⟩
    rw [← same]
    exact sound.integrity.exist stored original there
  · intro name row' found
    obtain ⟨row, stored, trimmed, _, _⟩ := drops.found found
    have named := sound.consistent.named stored
    rcases trimmed.policy with as_ | as_
    · rw [as_]
      exact named
    · rw [as_]
      exact named
  · intro other member
    rw [providers] at member
    have before := sound.consistent.ids other (Finset.mem_of_mem_erase member)
    exact same.nextId ▸ before
  · intro name row' found
    obtain ⟨row, stored, trimmed, _, _⟩ := drops.found found
    rw [trimmed.born]
    exact same.nextRow ▸ sound.consistent.born stored
  · intro j other
    constructor
    · intro name theirs
      have outside : name ∉ read.map RoutePolicy.modelName := by
        intro mine
        rw [← locks] at mine
        exact sound.not_locked mine other theirs
      rcases drops name with ⟨missing, still⟩ | ⟨row, row', stored, there, _, kept, _⟩
      · exact still.trans missing.symm
      · rw [stored]
        exact there.trans (congrArg some (kept outside))
    · intro other' _ before
      refine ⟨same.nextId ▸ before.given, ?_⟩
      rw [providers]
      exact fun member => before.absent (Finset.mem_of_mem_erase member)
    · intro other' names read' _ _ name row' found concerns
      obtain ⟨row, stored, trimmed, _, _⟩ := drops.found found
      exact .inl ⟨row, stored, trimmed.born.symm, concerns.imp_right trimmed.has⟩

theorem Sound.save {policy : RoutePolicy} (wellFormed : PolicyWellFormed policy)
    (lasts : ∀ target ∈ policy.targets, Lasts operations state policy.modelName target.providerId)
    (free : ∀ j ≠ i, policy.modelName ∉ (state.stages j).locks) :
    Advances operations state i (state.store.saveRoutePolicy policy) .ended := by
  have sets := saveRoutePolicy_sets state.store policy
  have same := PolicyStore.saveRoutePolicy_same state.store policy
  have providers := PolicyStore.saveRoutePolicy_providers state.store policy
  have saved := PolicyStore.savedRow_policy state.store policy
  have born := PolicyStore.savedRow_born state.store policy
  refine ⟨?_, ?_, trivial, ?_, fun _ member => absurd member List.not_mem_nil,
    fun _ member => nomatch member⟩
  · apply sets.integrity sound.integrity
    · rw [providers]
    · rw [saved]
      exact wellFormed
    · intro target member
      rw [saved] at member
      rw [providers]
      exact (lasts target member).1
  · apply sets.consistent sound.consistent
    · rw [saved]
    · rcases born with new | ⟨row, stored, born⟩
      · exact new
      · rw [born]
        exact (sound.consistent.born stored).trans_le same.2
    · exact same.2
    · intro id member
      rw [providers] at member
      rw [same.1]
      exact sound.consistent.ids id member
  · intro j other
    apply sets.respects (free j other)
    · intro id _ reserved
      refine ⟨?_, ?_⟩
      · rw [same.1]
        exact reserved.given
      · rw [providers]
        exact reserved.absent
    · intro id names read is at_ concerns
      rw [saved] at concerns
      rcases concerns with default | ⟨target, member, target_is⟩
      · obtain ⟨row, stored⟩ := sound.integrity.default
        rw [← default] at stored
        refine .inl ⟨row, stored, ?_, default⟩
        rw [PolicyStore.savedRow, stored, Option.elim_some]
      · rw [← target_is] at is
        obtain ⟨row, stored, waits⟩ := (lasts target member).2 j names read is at_
        rw [PolicyStore.savedRow, stored, Option.elim_some]
        exact .inr waits

theorem Sound.remove {name : String} (free : ∀ j ≠ i, name ∉ (state.stages j).locks) :
    Advances operations state i (state.store.deletePolicy name) .ended := by
  by_cases default : name = "*"
  · rw [PolicyStore.deletePolicy, if_pos default]
    exact sound.ended
  have kept : ∀ other, other ≠ name →
      (state.store.deletePolicy name).policies.lookup other = state.store.policies.lookup other := by
    intro other different
    rw [PolicyStore.deletePolicy, if_neg default]
    exact AList.lookup_erase_ne different
  have same : (state.store.deletePolicy name).providers = state.store.providers ∧
      (state.store.deletePolicy name).nextId = state.store.nextId ∧
      (state.store.deletePolicy name).nextRow = state.store.nextRow := by
    rw [PolicyStore.deletePolicy, if_neg default]
    exact ⟨rfl, rfl, rfl⟩
  have before : ∀ {other row}, (state.store.deletePolicy name).policies.lookup other = some row →
      state.store.policies.lookup other = some row := fun found =>
    (PolicyStore.lookup_deletePolicy found).1
  refine ⟨⟨?_, fun found => sound.integrity.wellFormed (before found), ?_⟩,
    ⟨fun found => sound.consistent.named (before found), ?_, ?_⟩, trivial, ?_,
    fun _ member => absurd member List.not_mem_nil, fun _ member => nomatch member⟩
  · rw [kept "*" (Ne.symm default)]
    exact sound.integrity.default
  · rw [same.1]
    exact fun found => sound.integrity.exist (before found)
  · rw [same.1, same.2.1]
    exact sound.consistent.ids
  · rw [same.2.2]
    exact fun found => sound.consistent.born (before found)
  · intro j other
    refine ⟨fun locked theirs => kept locked fun is => free j other (is ▸ theirs), ?_, ?_⟩
    · intro id _ reserved
      refine ⟨?_, ?_⟩
      · rw [same.2.1]
        exact reserved.given
      · rw [same.1]
        exact reserved.absent
    · intro id names read _ _ locked row found concerns
      exact .inl ⟨row, before found, rfl, concerns⟩

theorem Sound.deleteUpstreamProvider {id : Int} {move : Move}
    (is : operations i = .deleteUpstreamProvider id)
    (next : Policies.deleteUpstreamProvider id state.store (state.stages i) = some move)
    (free : ∀ name ∈ move.row, ∀ j ≠ i, name ∉ (state.stages j).locks) :
    Advances operations state i move.store move.stage := by
  unfold Policies.deleteUpstreamProvider at next
  split at next
  · cases next
    exact sound.snapshot
  next name born names read at_ =>
    split at next
    next missing =>
      cases next
      refine sound.passOver at_ fun row found => ?_
      rw [missing] at found
      cases found
    next row stored =>
      split at next
      next same =>
        cases next
        rw [← same] at at_
        exact sound.lockNext at_ stored (free name rfl)
      next other =>
        cases next
        refine sound.passOver at_ fun row' found => ?_
        rw [stored] at found
        cases found
        exact other
  next read at_ =>
    cases next
    exact sound.commitDeletion is at_
  · cases next

theorem Sound.updateDefaultRouteTarget {id : Int} {scheduling : Scheduling} {weighted : Bool}
    {move : Move}
    (next : Policies.updateDefaultRouteTarget id scheduling weighted state.store (state.stages i) =
      some move)
    (exists_ : ∀ policy, state.stages i = .replacing policy → id ∈ state.store.providers)
    (free : ∀ name ∈ move.row, ∀ j ≠ i, name ∉ (state.stages j).locks) :
    Advances operations state i move.store move.stage := by
  unfold Policies.updateDefaultRouteTarget at next
  split at next
  next at_ =>
    split at next
    · cases next
      exact sound.ended
    next row stored =>
      cases next
      have holds : StageSound state.store (operations i) (.replacing row.policy) := ⟨row.born, stored⟩
      apply sound.lockDefault (free "*" rfl) holds rfl
      rw [at_]
      rfl
  next policy at_ =>
    cases next
    exact sound.replace at_ (exists_ policy at_) scheduling weighted
  · cases next

theorem Sound.adaptLegacyRoute {model : String} {enabled : Bool} {ids : List Int} {move : Move}
    (next : Policies.adaptLegacyRoute model enabled ids state.store (state.stages i) = some move)
    (lasts : ∀ policy, state.stages i = .saving policy → ∀ target ∈ policy.targets,
      Lasts operations state policy.modelName target.providerId)
    (free : ∀ name ∈ move.row, ∀ j ≠ i, name ∉ (state.stages j).locks) :
    Advances operations state i move.store move.stage := by
  have mine := sound.stages i
  unfold Policies.adaptLegacyRoute at next
  split at next
  · split at next
    · cases next
      exact sound.remove (free model rfl)
    · split at next
      · cases next
        exact sound.ended
      next row stored =>
        cases next
        exact sound.waiting_saving ((sound.integrity.wellFormed stored).filter _ _)
  next policy at_ =>
    cases next
    rw [at_] at mine
    exact sound.save mine (lasts policy at_) (free policy.modelName rfl)
  · cases next

theorem Sound.putRoute {requested : RoutePolicy} {move : Move}
    (next : Policies.putRoute requested state.store (state.stages i) = some move)
    (lasts : ∀ policy, state.stages i = .saving policy → ∀ target ∈ policy.targets,
      Lasts operations state policy.modelName target.providerId)
    (free : ∀ name ∈ move.row, ∀ j ≠ i, name ∉ (state.stages j).locks) :
    Advances operations state i move.store move.stage := by
  have mine := sound.stages i
  unfold Policies.putRoute at next
  split at next
  · split at next
    next valid =>
      cases next
      apply sound.waiting_saving
      have checked := of_decide_eq_true valid.1
      refine ⟨checked.2.2.2, fun target member => ?_⟩
      exact of_decide_eq_true (List.all_eq_true.mp checked.2.2.1 target member)
    · cases next
      exact sound.ended
  next policy at_ =>
    cases next
    rw [at_] at mine
    exact sound.save mine (lasts policy at_) (free policy.modelName rfl)
  · cases next

theorem Sound.deleteRoute {model : String} {move : Move}
    (next : Policies.deleteRoute model state.store (state.stages i) = some move)
    (free : ∀ name ∈ move.row, ∀ j ≠ i, name ∉ (state.stages j).locks) :
    Advances operations state i move.store move.stage := by
  unfold Policies.deleteRoute at next
  split at next
  · split at next
    · cases next
      exact sound.ended
    · cases next
      exact sound.remove (free model rfl)
  · cases next

theorem Sound.fail [DecidableEq ι] : Sound operations ⟨state.store, Function.update state.stages i .ended⟩ :=
  sound.advance sound.ended

end Advances

/-- A policy is saved only where its targets last, and a target of the default route is replaced
only while its provider is there. -/
def Heeds (operations : ι → Operation) (taken : Transition (PolicyState ι) (CallStep ι)) : Prop :=
  match taken.action with
  | .fails _ => True
  | .moves i =>
    match taken.before.stages i, operations i with
    | .saving policy, _ => ∀ target ∈ policy.targets,
        Lasts operations taken.before policy.modelName target.providerId
    | .replacing _, .updateDefaultRouteTarget id _ _ => id ∈ taken.before.store.providers
    | _, _ => True

theorem Sound.step [DecidableEq ι] {database : Database} {state next : PolicyState ι}
    (sound : Sound operations state) {action : CallStep ι}
    (taken : PolicyStep database operations state action next)
    (heeds : Heeds operations ⟨state, action, next⟩) : Sound operations next := by
  cases taken with
  | fails running => exact sound.fail
  | @moves i move moved free =>
    have lasts : ∀ policy, state.stages i = .saving policy → ∀ target ∈ policy.targets,
        Lasts operations state policy.modelName target.providerId := by
      intro policy at_
      simp only [Heeds, at_] at heeds
      exact heeds
    apply sound.advance
    cases is : operations i with
    | insertProviderBundle scheduling weighted =>
      rw [is] at moved
      exact sound.insertProviderBundle moved free.1
    | deleteUpstreamProvider id =>
      rw [is] at moved
      exact sound.deleteUpstreamProvider is moved free.1
    | updateDefaultRouteTarget id scheduling weighted =>
      rw [is] at moved
      apply sound.updateDefaultRouteTarget moved ?_ free.1
      intro policy at_
      simp only [Heeds, at_, is] at heeds
      exact heeds
    | adaptLegacyRoute model enabled ids =>
      rw [is] at moved
      exact sound.adaptLegacyRoute moved lasts free.1
    | putRoute policy =>
      rw [is] at moved
      exact sound.putRoute moved lasts free.1
    | deleteRoute model =>
      rw [is] at moved
      exact sound.deleteRoute moved free.1

theorem sound_start {store : PolicyStore} (consistent : Consistent store) (integrity : Integrity store) :
    Sound operations (.start store) where
  integrity := integrity
  consistent := consistent
  stages _ := trivial
  exclusive _ _ _ _ member := absurd member List.not_mem_nil
  apart _ _ _ _ member := nomatch member

/-- In every state of a run that heeds the providers the policies are as they should be, also while
operations are in progress. -/
theorem policyRun_integrity [DecidableEq ι] {database : Database} {store : PolicyStore} (consistent : Consistent store)
    (integrity : Integrity store) {history : List (Transition (PolicyState ι) (CallStep ι))}
    {state : PolicyState ι} (run : PolicyRun database operations store history state)
    (heeds : ∀ taken ∈ history, Heeds operations taken) : Integrity state.store := by
  have sound : Sound operations state := by
    induction run with
    | start => exact sound_start consistent integrity
    | next run taken ih =>
      obtain ⟨now, before⟩ := List.forall_mem_cons.mp heeds
      exact (ih before).step taken now
  exact sound.integrity

section Overlap

def toFirst : RouteTarget := ⟨1, i32 0, i32 1⟩

def policyFor (name : String) : RoutePolicy where
  modelName := name
  mode := "ordered"
  sticky := true
  failover := true
  targets := [toFirst]

def oneProvider : PolicyStore where
  providers := {1}
  nextId := 2
  policies := (∅ : HashMap String PolicyRow).insert "*" ⟨0, policyFor "*"⟩
  nextRow := 1

def putOrDelete : Bool → Operation
  | true => .putRoute (policyFor "gpt")
  | false => .deleteUpstreamProvider 1

theorem oneProvider_lookup {name : String} {row : PolicyRow}
    (found : oneProvider.policies.lookup name = some row) : name = "*" ∧ row = ⟨0, policyFor "*"⟩ := by
  by_cases default : name = "*"
  · rw [default, oneProvider, AList.lookup_insert] at found
    exact ⟨default, (Option.some.inj found).symm⟩
  · rw [oneProvider, AList.lookup_insert_ne default] at found
    cases found

theorem oneProvider_consistent : Consistent oneProvider where
  named found := by
    obtain ⟨rfl, rfl⟩ := oneProvider_lookup found
    rfl
  ids := by decide
  born found := by
    obtain ⟨rfl, rfl⟩ := oneProvider_lookup found
    decide

theorem oneProvider_integrity : Integrity oneProvider where
  default := ⟨_, AList.lookup_insert _⟩
  wellFormed found := by
    obtain ⟨rfl, rfl⟩ := oneProvider_lookup found
    exact ⟨by decide, by decide⟩
  exist found := by
    obtain ⟨rfl, rfl⟩ := oneProvider_lookup found
    decide

theorem oneProvider_rows : oneProvider.rows = [("*", 0)] := by
  simp [PolicyStore.rows, oneProvider]

abbrev OverlapRun (database : Database) :
    List (Transition (PolicyState Bool) (CallStep Bool)) → PolicyState Bool → Prop :=
  PolicyRun database putOrDelete oneProvider

theorem OverlapRun.move {database : Database}
    {history : List (Transition (PolicyState Bool) (CallStep Bool))} {state : PolicyState Bool}
    (run : OverlapRun database history state) (i : Bool) {move : Move}
    (next : (putOrDelete i).move state.store (state.stages i) = some move)
    (nothing : (state.stages (!i)).locks = [] ∧ ¬ (state.stages (!i)).InTransaction) :
    OverlapRun database
      (⟨state, .moves i, move.store, Function.update state.stages i move.stage⟩ :: history)
      ⟨move.store, Function.update state.stages i move.stage⟩ := by
  have only : ∀ j, j ≠ i → j = !i := fun j other => Bool.eq_not_of_ne other
  apply Execution.next run
  apply PolicyStep.moves next
  refine ⟨fun name _ j other => ?_, fun _ _ j other => ?_⟩
  · rw [only j other, nothing.1]
    exact List.not_mem_nil
  · rw [only j other]
    exact nothing.2

theorem overlap_start (database : Database) : OverlapRun database [] (.start oneProvider) := .start

/-- The policy is saved while its provider is there. -/
theorem policyRun_integrity_put : ∃ history state, OverlapRun .sqlite history state ∧
    Integrity state.store ∧ ∃ row, state.store.policies.lookup "gpt" = some row := by
  have reads := OverlapRun.move (overlap_start .sqlite) true rfl ⟨rfl, id⟩
  have run := OverlapRun.move reads true rfl ⟨rfl, id⟩
  refine ⟨_, _, run, ?_, ⟨1, policyFor "gpt"⟩, rfl⟩
  apply policyRun_integrity oneProvider_consistent oneProvider_integrity run
  refine List.forall_mem_cons.mpr ⟨?_, List.forall_mem_cons.mpr ⟨trivial, by simp⟩⟩
  intro target member
  rw [List.mem_singleton.mp member]
  refine ⟨Finset.mem_singleton_self _, ?_⟩
  intro j names read is at_
  cases j with
  | true => cases is
  | false => cases at_

def Dangles (database : Database) : Prop :=
  ∃ history state, OverlapRun database history state ∧ (∀ i, state.stages i = .ended) ∧
    ¬ Integrity state.store

theorem overlap_dangles (database : Database) : Dangles database := by
  have reads := OverlapRun.move (overlap_start database) true rfl ⟨rfl, id⟩
  have finds := OverlapRun.move reads false rfl ⟨rfl, id⟩
  have locking : deleteUpstreamProvider 1 oneProvider (.locking oneProvider.rows []) =
      some ⟨some "*", true, oneProvider, .locking [] [policyFor "*"]⟩ := by
    rw [oneProvider_rows]
    rfl
  have locks := OverlapRun.move finds false locking ⟨rfl, id⟩
  have deletes := OverlapRun.move locks false rfl ⟨rfl, id⟩
  have saves := OverlapRun.move deletes true rfl ⟨rfl, id⟩
  refine ⟨_, _, saves, fun i => by cases i <;> rfl, fun integrity => ?_⟩
  have member := @Integrity.exist _ integrity "gpt" ⟨1, policyFor "gpt"⟩ rfl toFirst
    List.mem_cons_self
  revert member
  decide

theorem policyRun_dangling : Dangles .sqlite ∧ Dangles .postgres :=
  ⟨overlap_dangles .sqlite, overlap_dangles .postgres⟩

end Overlap

end CodexGate.Admin.Policies
