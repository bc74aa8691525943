import CodexGate.Authorization.Model
import Mathlib.Tactic.Tauto

namespace CodexGate.Authorization

open Foundation

theorem AuthStore.mem_granted {store : AuthStore} {key provider : Nat} :
    (key, provider) ∈ store.granted ↔
      ∃ group, (key, group) ∈ store.keyGroups ∧ (group, provider) ∈ store.providerGroups := by
  simp only [granted, Finset.mem_biUnion, Finset.mem_image, Finset.mem_filter, Prod.mk.injEq,
    Prod.exists]
  constructor
  · rintro ⟨_, _, member, _, _, ⟨grants, rfl⟩, rfl, rfl⟩
    exact ⟨_, member, grants⟩
  · rintro ⟨group, member, grants⟩
    exact ⟨key, group, member, group, provider, ⟨grants, rfl⟩, rfl, rfl⟩

theorem mem_deletedRows {recording deleting : AuthStore} {key provider : Nat} :
    (key, provider) ∈ deletedRows recording deleting ↔ (key, provider) ∈ deleting.allowed ∧
      (key ∈ deleting.recorded ∨ key ∈ recording.keys) ∧ key ∉ deleting.direct := by
  simp [deletedRows]

theorem mem_insertedRows {recording inserting : AuthStore} {key provider : Nat} :
    (key, provider) ∈ insertedRows recording inserting ↔ (key, provider) ∈ inserting.granted ∧
      (key ∈ inserting.recorded ∨ key ∈ recording.keys) ∧ key ∉ inserting.direct := by
  simp [insertedRows]

theorem mem_bundleRows {provider key id : Nat} {groups : Finset Nat} {inserting : AuthStore} :
    (key, id) ∈ bundleRows provider groups inserting ↔ id = provider ∧ key ∈ inserting.recorded ∧
      key ∉ inserting.direct ∧ ∃ group ∈ groups, (key, group) ∈ inserting.keyGroups := by
  simp only [bundleRows, Finset.mem_image, Finset.mem_filter, Prod.mk.injEq, Prod.exists]
  constructor
  · rintro ⟨_, group, ⟨member, listed, recorded, compat⟩, rfl, rfl⟩
    exact ⟨rfl, recorded, compat, group, listed, member⟩
  · rintro ⟨rfl, recorded, compat, group, listed, member⟩
    exact ⟨key, group, ⟨member, listed, recorded, compat⟩, rfl, rfl⟩

structure AuthStore.Referential (store : AuthStore) : Prop where
  keyGroups : ∀ key group, (key, group) ∈ store.keyGroups → key ∈ store.keys
  providerGroups : ∀ group provider, (group, provider) ∈ store.providerGroups →
    provider ∈ store.providers
  allowed : ∀ key provider, (key, provider) ∈ store.allowed →
    key ∈ store.keys ∧ provider ∈ store.providers

/-- A compatibility key is allowed the providers of its groups. -/
def AuthStore.FollowsGroups (store : AuthStore) : Prop :=
  ∀ key ∈ store.keys, key ∉ store.direct → ∀ provider,
    (key, provider) ∈ store.allowed ↔ (key, provider) ∈ store.granted

def AuthStore.Registered (store : AuthStore) : Prop :=
  ∀ key group, (key, group) ∈ store.keyGroups → key ∈ store.recorded

def Op.reads : Op → List AuthStore
  | .refresh (.recorded recording) => [recording]
  | .refresh (.deleted recording deleting) => [recording, deleting]
  | .refresh (.inserted recording deleting inserting) => [recording, deleting, inserting]
  | .createProvider _ (some inserting) => [inserting]
  | _ => []

/-- What an operation refers to exists, and it has read rows that refer to existing rows. -/
structure Op.Sound (store : AuthStore) (op : Op) : Prop where
  keys : op.pinnedKeys ⊆ store.keys
  providers : op.pinnedProviders ⊆ store.providers
  reads : ∀ read ∈ op.reads, read.Referential

namespace AuthWorld

/-- A directly authorized key is allowed the providers last saved for it that still exist. -/
def FollowsSaved (world : AuthWorld) : Prop :=
  ∀ key ∈ world.store.direct, ∀ provider, (key, provider) ∈ world.store.allowed ↔
    provider ∈ world.saved key ∧ provider ∈ world.store.providers

def Quiet (world : AuthWorld) : Prop := ∀ who, world.ops.lookup who = none

def Refreshing (world : AuthWorld) : Prop :=
  ∃ who op, world.ops.lookup who = some op ∧ op.refreshes = true

def OtherRefreshes (world : AuthWorld) (who : Nat) : Prop :=
  ∃ other op, other ≠ who ∧ world.ops.lookup other = some op ∧ op.refreshes = true

def Compatible (store : AuthStore) (rows : Finset (Nat × Nat)) : Prop :=
  ∀ row ∈ rows, row.1 ∉ store.direct

/-- A commit of an operation that has read rows before. A refresh, and a new provider, must find what
they have read as it was, unless an operation is going to refresh after them; a saved set must have
found all rows of its key; and a deleted group must still be empty. -/
def Commits (world : AuthWorld) (who : Nat) (spared : Finset (Nat × Nat)) : Op → Prop
  | .refresh (.inserted recording deleting inserting) =>
    (spared = ∅ ∧ ∀ read ∈ [recording, deleting, inserting], read.compatible = world.store.compatible) ∨
      (world.OtherRefreshes who ∧ Compatible world.store (deletedRows recording deleting) ∧
        Compatible world.store (insertedRows recording inserting))
  | .replaceAllowed key ids (.inserted deleting) =>
    ∀ provider, (key, provider) ∈ world.store.allowed →
      ((key, provider) ∈ deleting.allowed ∧ (key, provider) ∉ spared) ∨ provider ∈ ids
  | .createProvider groups (some inserting) =>
    inserting.compatible = world.store.compatible ∨
      (world.Refreshing ∧ Compatible world.store (bundleRows world.nextProvider groups inserting))
  | .deleteGroup group _ => (∀ key, (key, group) ∉ world.store.keyGroups) ∧
    ∀ provider, (group, provider) ∉ world.store.providerGroups
  | _ => True

/-- An operation that fails with a refresh to do leaves it to another one, or there is none to do. -/
def Fails (world : AuthWorld) (who : Nat) (op : Op) : Prop :=
  op.refreshes = true →
    world.OtherRefreshes who ∨ world.store.FollowsGroups ∧ world.store.Registered

def Orderly (t : Move) : Prop :=
  match t.action with
  | .commit who spared => ∀ op, t.before.ops.lookup who = some op → t.before.Commits who spared op
  | .fail who => ∀ op, t.before.ops.lookup who = some op → t.before.Fails who op
  | _ => True

structure Sound (world : AuthWorld) : Prop where
  referential : world.store.Referential
  saved : world.FollowsSaved
  oldProviders : ∀ provider ∈ world.store.providers, provider < world.nextProvider
  oldSaved : ∀ key, ∀ provider ∈ world.saved key, provider < world.nextProvider
  oldKeys : ∀ key ∈ world.store.keys, key < world.nextKey
  directKeys : ∀ key ∈ world.store.direct, key ∈ world.store.keys
  ops : ∀ who op, world.ops.lookup who = some op → op.Sound world.store
  groups : world.store.FollowsGroups ∧ world.store.Registered ∨ world.Refreshing

variable {world next : AuthWorld} {who : Nat} {op : Op}

theorem lookup_setOp : (world.setOp who op).ops.lookup who = some op := AList.lookup_insert _

theorem lookup_setOp_other {other : Nat} (apart : other ≠ who) :
    (world.setOp who op).ops.lookup other = world.ops.lookup other := AList.lookup_insert_ne apart

theorem lookup_endOp : (world.endOp who).ops.lookup who = none := AList.lookup_erase ..

theorem lookup_endOp_other {other : Nat} (apart : other ≠ who) :
    (world.endOp who).ops.lookup other = world.ops.lookup other := AList.lookup_erase_ne apart

theorem OtherRefreshes.kept (others : world.OtherRefreshes who)
    (same : ∀ other, other ≠ who → next.ops.lookup other = world.ops.lookup other) :
    next.Refreshing := by
  obtain ⟨other, op, apart, there, refreshes⟩ := others
  exact ⟨other, op, (same other apart).trans there, refreshes⟩

theorem Refreshing.others (refreshing : world.Refreshing) (there : world.ops.lookup who = some op)
    (quiet : op.refreshes = false) : world.OtherRefreshes who := by
  obtain ⟨other, refresh, found, refreshes⟩ := refreshing
  refine ⟨other, refresh, ?_, found, refreshes⟩
  rintro rfl
  cases there.symm.trans found
  rw [quiet] at refreshes
  cases refreshes

theorem Refreshing.setOp (refreshing : world.Refreshing)
    (goes_on : ∀ before, world.ops.lookup who = some before → before.refreshes = true →
      op.refreshes = true) : (world.setOp who op).Refreshing := by
  obtain ⟨other, refresh, found, refreshes⟩ := refreshing
  by_cases this_op : other = who
  · subst this_op
    exact ⟨other, op, lookup_setOp, goes_on refresh found refreshes⟩
  · exact ⟨other, refresh, (lookup_setOp_other this_op).trans found, refreshes⟩

end AuthWorld

theorem Op.Sound.mono {store larger : AuthStore} {op : Op} (sound : op.Sound store)
    (keys : store.keys ⊆ larger.keys) (providers : store.providers ⊆ larger.providers) :
    op.Sound larger where
  keys := sound.keys.trans keys
  providers := sound.providers.trans providers
  reads := sound.reads

namespace AuthWorld

variable {world next : AuthWorld} {who : Nat} {op : Op}

theorem ops_setOp {store : AuthStore}
    (sound : ∀ other before, world.ops.lookup other = some before → before.Sound store)
    (op_sound : op.Sound store) :
    ∀ other after, (world.setOp who op).ops.lookup other = some after → after.Sound store := by
  intro other after there
  by_cases this_op : other = who
  · subst this_op
    cases lookup_setOp.symm.trans there
    exact op_sound
  · exact sound other after ((lookup_setOp_other this_op).symm.trans there)

theorem ops_endOp {store : AuthStore}
    (sound : ∀ other before, world.ops.lookup other = some before → before.Sound store) :
    ∀ other after, (world.endOp who).ops.lookup other = some after → after.Sound store := by
  intro other after there
  by_cases this_op : other = who
  · subst this_op
    cases lookup_endOp.symm.trans there
  · exact sound other after ((lookup_endOp_other this_op).symm.trans there)

theorem Sound.setOp (sound : world.Sound) (op_sound : op.Sound world.store)
    (goes_on : ∀ before, world.ops.lookup who = some before → before.refreshes = true →
      op.refreshes = true) : (world.setOp who op).Sound where
  referential := sound.referential
  saved := sound.saved
  oldProviders := sound.oldProviders
  oldSaved := sound.oldSaved
  oldKeys := sound.oldKeys
  directKeys := sound.directKeys
  ops := ops_setOp sound.ops op_sound
  groups := sound.groups.imp_right fun refreshing => refreshing.setOp goes_on

theorem begin_sound {task : Task} (sound : world.Sound) (free : world.ops.lookup who = none) :
    (world.setOp who (.start task)).Sound := by
  refine sound.setOp ?_ ?_
  · cases task <;> exact ⟨Finset.empty_subset _, Finset.empty_subset _, by simp [Op.start, Op.reads]⟩
  · intro before there
    cases free.symm.trans there

theorem fail_sound (sound : world.Sound) (there : world.ops.lookup who = some op)
    (fails : world.Fails who op) : (world.endOp who).Sound where
  referential := sound.referential
  saved := sound.saved
  oldProviders := sound.oldProviders
  oldSaved := sound.oldSaved
  oldKeys := sound.oldKeys
  directKeys := sound.directKeys
  ops := ops_endOp sound.ops
  groups := by
    have left (others : world.OtherRefreshes who) : (world.endOp who).Refreshing :=
      others.kept fun other apart => lookup_endOp_other apart
    by_cases refreshes : op.refreshes = true
    · exact (fails refreshes).symm.imp_right left
    · refine sound.groups.imp_right fun refreshing => left (refreshing.others there ?_)
      simpa using refreshes

theorem inserted_keys (recording : AuthStore) {inserting : AuthStore} (read : inserting.Referential) :
    (insertedRows recording inserting).image Prod.fst ⊆ inserting.keys ∧
      (insertedRows recording inserting).image Prod.snd ⊆ inserting.providers := by
  constructor
  · intro key member
    obtain ⟨⟨_, provider⟩, row, rfl⟩ := Finset.mem_image.mp member
    obtain ⟨group, in_group, -⟩ := AuthStore.mem_granted.mp (mem_insertedRows.mp row).1
    exact read.keyGroups _ group in_group
  · intro provider member
    obtain ⟨⟨key, _⟩, row, rfl⟩ := Finset.mem_image.mp member
    obtain ⟨group, -, grants⟩ := AuthStore.mem_granted.mp (mem_insertedRows.mp row).1
    exact read.providerGroups group _ grants

theorem statement_sound (sound : world.Sound) (there : world.ops.lookup who = some op)
    (taken : world.statement who op = some next) : next.Sound := by
  have before := sound.ops who op there
  have goes_on {after : Op} (same : op.refreshes = true → after.refreshes = true) :
      ∀ earlier, world.ops.lookup who = some earlier → earlier.refreshes = true →
        after.refreshes = true := by
    intro earlier found refreshes
    cases there.symm.trans found
    exact same refreshes
  have reads_more {read : AuthStore} {reads : List AuthStore}
      (earlier : ∀ read ∈ reads, read.Referential) (member : read ∈ reads ++ [world.store]) :
      read.Referential := by
    rcases List.mem_append.mp member with member | member
    · exact earlier read member
    · cases List.mem_singleton.mp member
      exact sound.referential
  cases op with
  | providerGroups | keyGroups => cases taken
  | refresh stage =>
    cases stage with
    | start =>
      cases taken
      refine sound.setOp ⟨Finset.Subset.refl _, Finset.empty_subset _, ?_⟩ (goes_on fun _ => rfl)
      exact fun read member => reads_more before.reads member
    | recorded recording =>
      cases taken
      refine sound.setOp ⟨before.keys, Finset.empty_subset _, ?_⟩ (goes_on fun _ => rfl)
      exact fun read member => reads_more before.reads member
    | deleted recording deleting =>
      obtain ⟨-, same⟩ := Option.ite_none_right_eq_some.mp taken
      cases same
      have rows := inserted_keys recording sound.referential
      refine sound.setOp ⟨Finset.union_subset before.keys rows.1, rows.2, ?_⟩ (goes_on fun _ => rfl)
      exact fun read member => reads_more before.reads member
    | inserted => cases taken
  | replaceAllowed key ids stage =>
    cases stage with
    | start =>
      obtain ⟨exists_key, same⟩ := Option.ite_none_right_eq_some.mp taken
      cases same
      refine sound.setOp ⟨?_, Finset.empty_subset _, by simp [Op.reads]⟩ (goes_on fun quiet => quiet)
      exact Finset.singleton_subset_iff.mpr exists_key
    | deleted deleting =>
      obtain ⟨exist, same⟩ := Option.ite_none_right_eq_some.mp taken
      cases same
      exact sound.setOp ⟨before.keys, exist, by simp [Op.reads]⟩ (goes_on fun quiet => quiet)
    | inserted => cases taken
  | createProvider groups read =>
    cases read with
    | none =>
      obtain ⟨-, same⟩ := Option.ite_none_right_eq_some.mp taken
      cases same
      refine sound.setOp ⟨?_, Finset.empty_subset _, ?_⟩ (goes_on fun quiet => quiet)
      · intro key member
        obtain ⟨⟨_, provider⟩, row, rfl⟩ := Finset.mem_image.mp member
        obtain ⟨-, -, -, group, -, in_group⟩ := mem_bundleRows.mp row
        exact sound.referential.keyGroups _ group in_group
      · exact fun read member => reads_more before.reads member
    | some => cases taken
  | deleteGroup group found =>
    cases found with
    | true => cases taken
    | false =>
      obtain ⟨-, same⟩ := Option.ite_none_right_eq_some.mp taken
      cases same
      exact sound.setOp ⟨Finset.empty_subset _, Finset.empty_subset _, by simp [Op.reads]⟩
        (goes_on fun quiet => quiet)

theorem memberships_sound {store : AuthStore} (sound : world.Sound)
    (referential : store.Referential) (keys : store.keys = world.store.keys)
    (providers : store.providers = world.store.providers) (direct : store.direct = world.store.direct)
    (allowed : store.allowed = world.store.allowed) :
    Sound { world.setOp who (.refresh .start) with store := store } where
  referential := referential
  saved := by
    intro key member provider
    have before := sound.saved key (direct ▸ member) provider
    show (key, provider) ∈ store.allowed ↔ _ ∧ provider ∈ store.providers
    rw [allowed, providers]
    exact before
  oldProviders provider member := sound.oldProviders provider (providers ▸ member)
  oldSaved := sound.oldSaved
  oldKeys key member := sound.oldKeys key (keys ▸ member)
  directKeys := by
    intro key member
    show key ∈ store.keys
    rw [keys]
    exact sound.directKeys key (direct ▸ member)
  ops := by
    have kept : ∀ other before, world.ops.lookup other = some before → before.Sound store := by
      intro other before there
      exact (sound.ops other before there).mono keys.symm.subset providers.symm.subset
    exact ops_setOp kept ⟨Finset.empty_subset _, Finset.empty_subset _, by simp [Op.reads]⟩
  groups := .inr ⟨who, .refresh .start, lookup_setOp, rfl⟩

theorem providerGroups_sound {provider : Nat} {groups : Finset Nat} {spared : Finset (Nat × Nat)}
    (sound : world.Sound) (taken : world.commit who spared (.providerGroups provider groups) = some next) :
    next.Sound := by
  obtain ⟨⟨exists_provider, -⟩, same⟩ := Option.ite_none_right_eq_some.mp taken
  cases same
  refine memberships_sound sound ?_ rfl rfl rfl rfl
  refine ⟨sound.referential.keyGroups, ?_, sound.referential.allowed⟩
  intro group member row
  rcases Finset.mem_union.mp row with old | new
  · exact sound.referential.providerGroups group member (Finset.mem_filter.mp old).1
  · obtain ⟨_, -, same⟩ := Finset.mem_image.mp new
    cases same
    exact exists_provider

theorem keyGroups_sound {key : Nat} {groups : Finset Nat} {spared : Finset (Nat × Nat)}
    (sound : world.Sound) (taken : world.commit who spared (.keyGroups key groups) = some next) :
    next.Sound := by
  obtain ⟨⟨exists_key, -⟩, same⟩ := Option.ite_none_right_eq_some.mp taken
  cases same
  refine memberships_sound sound ?_ rfl rfl rfl rfl
  refine ⟨?_, sound.referential.providerGroups, sound.referential.allowed⟩
  intro member group row
  rcases Finset.mem_union.mp row with old | new
  · exact sound.referential.keyGroups member group (Finset.mem_filter.mp old).1
  · obtain ⟨_, -, same⟩ := Finset.mem_image.mp new
    cases same
    exact exists_key

theorem compatible_eq {read store : AuthStore} (same : read.compatible = store.compatible) :
    read.keyGroups = store.keyGroups ∧ read.granted = store.granted ∧ read.recorded = store.recorded ∧
      read.direct = store.direct ∧ ∀ key provider, key ∉ store.direct →
        ((key, provider) ∈ read.allowed ↔ (key, provider) ∈ store.allowed) := by
  have fields := AuthStore.mk.inj same
  obtain ⟨-, -, -, keyGroups, providerGroups, recorded, direct, allowed⟩ := fields
  refine ⟨keyGroups, ?_, recorded, direct, ?_⟩
  · rw [AuthStore.granted, keyGroups, providerGroups]
    rfl
  · intro key provider compat
    have row := Finset.ext_iff.mp allowed (key, provider)
    simp only [Finset.mem_filter, direct] at row
    tauto

def refreshed (world : AuthWorld) (spared : Finset (Nat × Nat))
    (recording deleting inserting : AuthStore) : AuthStore :=
  { world.store with
    recorded := world.store.recorded ∪ recording.keys
    allowed := world.store.allowed \ (deletedRows recording deleting \ spared) ∪
      insertedRows recording inserting }

theorem refreshed_follows {recording deleting inserting : AuthStore} (read : recording.Referential)
    (same : ∀ read ∈ [recording, deleting, inserting], read.compatible = world.store.compatible) :
    (refreshed world ∅ recording deleting inserting).FollowsGroups ∧
      (refreshed world ∅ recording deleting inserting).Registered := by
  obtain ⟨recording_groups, -, -, -, recording_allowed⟩ := compatible_eq (same recording (by simp))
  obtain ⟨-, -, -, deleting_direct, deleting_allowed⟩ := compatible_eq (same deleting (by simp))
  obtain ⟨-, granted, -, inserting_direct, -⟩ := compatible_eq (same inserting (by simp))
  have listed : ∀ key group, (key, group) ∈ world.store.keyGroups → key ∈ recording.keys := by
    intro key group member
    exact read.keyGroups key group (recording_groups ▸ member)
  constructor
  · intro key _ compat provider
    have compat : key ∉ world.store.direct := compat
    show (key, provider) ∈ _ ∪ _ ↔ (key, provider) ∈ world.store.granted
    rw [Finset.mem_union, Finset.mem_sdiff, Finset.sdiff_empty, mem_deletedRows, mem_insertedRows,
      granted, deleting_direct, inserting_direct, deleting_allowed key provider compat]
    constructor
    · rintro (⟨there, kept⟩ | ⟨grants, -⟩)
      · have before := (recording_allowed key provider compat).mpr there
        exact absurd ⟨there, .inr (read.allowed key provider before).1, compat⟩ kept
      · exact grants
    · intro grants
      obtain ⟨group, member, -⟩ := AuthStore.mem_granted.mp grants
      exact .inr ⟨grants, .inr (listed key group member), compat⟩
  · intro key group member
    exact Finset.mem_union_right _ (listed key group member)

theorem refresh_sound {recording deleting inserting : AuthStore} {spared : Finset (Nat × Nat)}
    (sound : world.Sound)
    (there : world.ops.lookup who = some (.refresh (.inserted recording deleting inserting)))
    (commits : world.Commits who spared (.refresh (.inserted recording deleting inserting))) :
    Sound { world.endOp who with store := refreshed world spared recording deleting inserting } := by
  have before := sound.ops who _ there
  have compat : Compatible world.store (deletedRows recording deleting) ∧
      Compatible world.store (insertedRows recording inserting) := by
    rcases commits with ⟨-, same⟩ | ⟨-, deleted, inserted⟩
    · have deleting_direct := (compatible_eq (same deleting (by simp))).2.2.2.1
      have inserting_direct := (compatible_eq (same inserting (by simp))).2.2.2.1
      refine ⟨fun row member => ?_, fun row member => ?_⟩
      · exact deleting_direct ▸ (mem_deletedRows.mp member).2.2
      · exact inserting_direct ▸ (mem_insertedRows.mp member).2.2
    · exact ⟨deleted, inserted⟩
  have other_ops : ∀ other op, (world.endOp who).ops.lookup other = some op →
      op.Sound (refreshed world spared recording deleting inserting) :=
    ops_endOp fun other op found => (sound.ops other op found).mono (Finset.Subset.refl _)
      (Finset.Subset.refl _)
  refine ⟨⟨sound.referential.keyGroups, sound.referential.providerGroups, ?_⟩, ?_, sound.oldProviders,
    sound.oldSaved, sound.oldKeys, sound.directKeys, other_ops, ?_⟩
  · intro key provider member
    rcases Finset.mem_union.mp member with old | new
    · exact sound.referential.allowed key provider (Finset.mem_sdiff.mp old).1
    · have key_there := before.keys (Finset.mem_union_right _ (Finset.mem_image_of_mem Prod.fst new))
      exact ⟨key_there, before.providers (Finset.mem_image_of_mem Prod.snd new)⟩
  · intro key direct provider
    have direct : key ∈ world.store.direct := direct
    have untouched : (key, provider) ∉ deletedRows recording deleting :=
      fun member => compat.1 _ member direct
    have not_added : (key, provider) ∉ insertedRows recording inserting :=
      fun member => compat.2 _ member direct
    show (key, provider) ∈ _ ∪ _ ↔
      provider ∈ world.saved key ∧ provider ∈ world.store.providers
    rw [← sound.saved key direct provider]
    simp [untouched, not_added]
  · rcases commits with ⟨rfl, same⟩ | ⟨others, -⟩
    · exact .inl (refreshed_follows (before.reads recording (by simp [Op.reads])) same)
    · exact .inr (others.kept fun other apart => lookup_endOp_other apart)

theorem replace_sound {key : Nat} {ids : Finset Nat} {deleting : AuthStore}
    {spared : Finset (Nat × Nat)} (sound : world.Sound)
    (there : world.ops.lookup who = some (.replaceAllowed key ids (.inserted deleting)))
    (commits : world.Commits who spared (.replaceAllowed key ids (.inserted deleting)))
    (taken : world.commit who spared (.replaceAllowed key ids (.inserted deleting)) = some next) :
    next.Sound := by
  cases taken
  have before := sound.ops who _ there
  have exists_key : key ∈ world.store.keys := before.keys (Finset.mem_singleton_self key)
  have exist : ids ⊆ world.store.providers := before.providers
  have other_rows {other provider : Nat} (apart : other ≠ key) :
      (other, provider) ∈ world.store.allowed \ ((deleting.allowed.filter fun row => row.1 = key) \
          spared) ∪ ids.image (fun id => (key, id)) ↔ (other, provider) ∈ world.store.allowed := by
    simp [apart, Ne.symm apart]
  have own_rows (provider : Nat) :
      (key, provider) ∈ world.store.allowed \ ((deleting.allowed.filter fun row => row.1 = key) \
          spared) ∪ ids.image (fun id => (key, id)) ↔ provider ∈ ids := by
    simp only [Finset.mem_union, Finset.mem_sdiff, Finset.mem_filter, Finset.mem_image, Prod.mk.injEq,
      true_and, exists_eq_right, and_true]
    constructor
    · rintro (⟨old, kept⟩ | new)
      · rcases commits provider old with gone | saved
        · exact absurd gone kept
        · exact saved
      · exact new
    · exact .inr
  refine ⟨⟨sound.referential.keyGroups, sound.referential.providerGroups, ?_⟩, ?_, sound.oldProviders,
    ?_, sound.oldKeys, ?_, ?_, ?_⟩
  · intro other provider member
    by_cases this_key : other = key
    · subst this_key
      exact ⟨exists_key, exist ((own_rows provider).mp member)⟩
    · exact sound.referential.allowed other provider ((other_rows this_key).mp member)
  · intro other direct provider
    show (other, provider) ∈ _ ∪ _ ↔ provider ∈ Function.update world.saved key ids other ∧
      provider ∈ world.store.providers
    by_cases this_key : other = key
    · subst this_key
      rw [own_rows, Function.update_self]
      exact ⟨fun saved => ⟨saved, exist saved⟩, And.left⟩
    · rw [other_rows this_key, Function.update_of_ne this_key]
      exact sound.saved other (Finset.mem_of_mem_insert_of_ne direct this_key) provider
  · intro other provider saved
    by_cases this_key : other = key
    · subst this_key
      have saved : provider ∈ Function.update world.saved other ids other := saved
      rw [Function.update_self] at saved
      exact sound.oldProviders provider (exist saved)
    · have saved : provider ∈ Function.update world.saved key ids other := saved
      rw [Function.update_of_ne this_key] at saved
      exact sound.oldSaved other provider saved
  · intro other direct
    rcases Finset.mem_insert.mp direct with rfl | direct
    · exact exists_key
    · exact sound.directKeys other direct
  · exact ops_endOp fun other op found => (sound.ops other op found).mono (Finset.Subset.refl _)
      (Finset.Subset.refl _)
  · rcases sound.groups with ⟨follows, registered⟩ | refreshing
    · left
      constructor
      · intro other member compat provider
        have compat : other ∉ insert key world.store.direct := compat
        rw [Finset.mem_insert, not_or] at compat
        exact (other_rows compat.1).trans (follows other member compat.2 provider)
      · intro other group member
        exact Finset.mem_insert_of_mem (registered other group member)
    · exact .inr ((refreshing.others there rfl).kept fun other apart => lookup_endOp_other apart)

theorem createProvider_sound {groups : Finset Nat} {inserting : AuthStore}
    {spared : Finset (Nat × Nat)} (sound : world.Sound)
    (there : world.ops.lookup who = some (.createProvider groups (some inserting)))
    (commits : world.Commits who spared (.createProvider groups (some inserting)))
    (taken : world.commit who spared (.createProvider groups (some inserting)) = some next) :
    next.Sound := by
  cases taken
  have before := sound.ops who _ there
  have unborn : world.nextProvider ∉ world.store.providers :=
    fun member => Nat.lt_irrefl _ (sound.oldProviders _ member)
  have compat : Compatible world.store (bundleRows world.nextProvider groups inserting) := by
    rcases commits with same | ⟨-, compat⟩
    · intro row member
      have direct := (compatible_eq same).2.2.2.1
      exact direct ▸ (mem_bundleRows.mp member).2.2.1
    · exact compat
  have bundle_key {key provider : Nat}
      (member : (key, provider) ∈ bundleRows world.nextProvider groups inserting) :
      key ∈ world.store.keys := by
    obtain ⟨-, recorded, compat, group⟩ := mem_bundleRows.mp member
    have pinned : (key, 0) ∈ bundleRows 0 groups inserting :=
      mem_bundleRows.mpr ⟨rfl, recorded, compat, group⟩
    exact before.keys (Finset.mem_image_of_mem Prod.fst pinned)
  refine ⟨⟨sound.referential.keyGroups, ?_, ?_⟩, ?_, ?_, ?_, sound.oldKeys, sound.directKeys, ?_, ?_⟩
  · intro group provider member
    rcases Finset.mem_union.mp member with old | new
    · exact Finset.mem_insert_of_mem (sound.referential.providerGroups group provider old)
    · obtain ⟨_, -, same⟩ := Finset.mem_image.mp new
      cases same
      exact Finset.mem_insert_self _ _
  · intro key provider member
    rcases Finset.mem_union.mp member with old | new
    · obtain ⟨key_there, provider_there⟩ := sound.referential.allowed key provider old
      exact ⟨key_there, Finset.mem_insert_of_mem provider_there⟩
    · have same := (mem_bundleRows.mp new).1
      exact ⟨bundle_key new, same ▸ Finset.mem_insert_self _ _⟩
  · intro key direct provider
    show (key, provider) ∈ _ ∪ _ ↔
      provider ∈ world.saved key ∧ provider ∈ insert world.nextProvider world.store.providers
    have not_added : (key, provider) ∉ bundleRows world.nextProvider groups inserting :=
      fun member => compat _ member direct
    have unsaved : provider ∈ world.saved key → provider ≠ world.nextProvider := by
      rintro saved rfl
      exact Nat.lt_irrefl _ (sound.oldSaved key _ saved)
    have kept := sound.saved key direct provider
    simp only [Finset.mem_union, Finset.mem_insert, not_added, or_false, kept]
    tauto
  · intro provider member
    rcases Finset.mem_insert.mp member with rfl | old
    · exact Nat.lt_succ_self _
    · exact Nat.lt_succ_of_lt (sound.oldProviders provider old)
  · intro key provider saved
    exact Nat.lt_succ_of_lt (sound.oldSaved key provider saved)
  · exact ops_endOp fun other op found => (sound.ops other op found).mono (Finset.Subset.refl _)
      (Finset.subset_insert _ _)
  · have left (refreshing : world.Refreshing) : (world.endOp who).Refreshing :=
      (refreshing.others there rfl).kept fun other apart => lookup_endOp_other apart
    rcases sound.groups with ⟨follows, registered⟩ | refreshing
    · rcases commits with same | ⟨refreshing, -⟩
      · left
        refine ⟨?_, registered⟩
        obtain ⟨keyGroups, -, recorded, direct, -⟩ := compatible_eq same
        intro key member compat provider
        show (key, provider) ∈ _ ∪ _ ↔ _
        rw [Finset.mem_union, follows key member compat provider, AuthStore.mem_granted,
          mem_bundleRows, AuthStore.mem_granted, keyGroups, recorded, direct]
        constructor
        · rintro (⟨group, in_group, grants⟩ | ⟨rfl, -, -, group, listed, in_group⟩)
          · exact ⟨group, in_group, Finset.mem_union_left _ grants⟩
          · exact ⟨group, in_group, Finset.mem_union_right _ (Finset.mem_image_of_mem _ listed)⟩
        · rintro ⟨group, in_group, grants⟩
          rcases Finset.mem_union.mp grants with old | new
          · exact .inl ⟨group, in_group, old⟩
          · obtain ⟨_, listed, same⟩ := Finset.mem_image.mp new
            cases same
            exact .inr ⟨rfl, registered key group in_group, compat, group, listed, in_group⟩
      · exact .inr (left refreshing)
    · exact .inr (left refreshing)

theorem deleteGroup_sound {group : Nat} {found : Bool} {spared : Finset (Nat × Nat)}
    (sound : world.Sound) (there : world.ops.lookup who = some (.deleteGroup group found))
    (commits : world.Commits who spared (.deleteGroup group found))
    (taken : world.commit who spared (.deleteGroup group found) = some next) : next.Sound := by
  cases found with
  | false => cases taken
  | true =>
    obtain ⟨-, same⟩ := Option.ite_none_right_eq_some.mp taken
    have keyGroups : (world.store.keyGroups.filter fun row => row.2 ≠ group) =
        world.store.keyGroups := by
      refine Finset.filter_true_of_mem ?_
      rintro ⟨key, other⟩ member rfl
      exact commits.1 key member
    have providerGroups : (world.store.providerGroups.filter fun row => row.1 ≠ group) =
        world.store.providerGroups := by
      refine Finset.filter_true_of_mem ?_
      rintro ⟨other, provider⟩ member rfl
      exact commits.2 provider member
    rw [keyGroups, providerGroups] at same
    cases same
    refine ⟨⟨sound.referential.keyGroups, sound.referential.providerGroups,
      sound.referential.allowed⟩, sound.saved, sound.oldProviders, sound.oldSaved, sound.oldKeys,
      sound.directKeys, ?_, ?_⟩
    · exact ops_endOp fun other op found => (sound.ops other op found).mono (Finset.Subset.refl _)
        (Finset.Subset.refl _)
    · exact sound.groups.imp_right fun refreshing =>
        (refreshing.others there rfl).kept fun other apart => lookup_endOp_other apart

theorem not_pinned {pins : Op → Finset Nat} {id : Nat} (free : world.unpinned pins id = true)
    (there : world.ops.lookup who = some op) : id ∉ pins op := by
  have entry : ⟨who, op⟩ ∈ world.ops.entries := AList.mem_lookup_iff.mp there
  simpa using List.all_eq_true.mp free _ entry

theorem deleteKey_sound {key : Nat} (sound : world.Sound) (taken : world.deleteKey key = some next) :
    next.Sound := by
  obtain ⟨free, same⟩ := Option.ite_none_right_eq_some.mp taken
  cases same
  refine ⟨⟨?_, sound.referential.providerGroups, ?_⟩, ?_, sound.oldProviders, sound.oldSaved, ?_, ?_,
    ?_, ?_⟩
  · intro other group member
    obtain ⟨member, apart⟩ := Finset.mem_filter.mp member
    exact Finset.mem_erase.mpr ⟨apart, sound.referential.keyGroups other group member⟩
  · intro other provider member
    obtain ⟨member, apart⟩ := Finset.mem_filter.mp member
    obtain ⟨key_there, provider_there⟩ := sound.referential.allowed other provider member
    exact ⟨Finset.mem_erase.mpr ⟨apart, key_there⟩, provider_there⟩
  · intro other direct provider
    obtain ⟨apart, direct⟩ := Finset.mem_erase.mp direct
    rw [← sound.saved other direct provider]
    show (other, provider) ∈ Finset.filter _ _ ↔ _
    simp [apart]
  · intro other member
    exact sound.oldKeys other (Finset.mem_of_mem_erase member)
  · intro other direct
    obtain ⟨apart, direct⟩ := Finset.mem_erase.mp direct
    exact Finset.mem_erase.mpr ⟨apart, sound.directKeys other direct⟩
  · intro who op there
    have before := sound.ops who op there
    refine ⟨?_, before.providers, before.reads⟩
    intro pinned member
    refine Finset.mem_erase.mpr ⟨?_, before.keys member⟩
    rintro rfl
    exact not_pinned free there member
  · refine sound.groups.imp_left ?_
    rintro ⟨follows, registered⟩
    constructor
    · intro other member compat provider
      obtain ⟨apart, member⟩ := Finset.mem_erase.mp member
      have compat : other ∉ world.store.direct :=
        fun direct => compat (Finset.mem_erase.mpr ⟨apart, direct⟩)
      have before := follows other member compat provider
      rw [AuthStore.mem_granted] at before
      rw [AuthStore.mem_granted]
      simpa [apart] using before
    · intro other group member
      obtain ⟨member, apart⟩ := Finset.mem_filter.mp member
      exact Finset.mem_erase.mpr ⟨apart, registered other group member⟩

theorem deleteProvider_sound {provider : Nat} (sound : world.Sound)
    (taken : world.deleteProvider provider = some next) : next.Sound := by
  obtain ⟨free, same⟩ := Option.ite_none_right_eq_some.mp taken
  cases same
  refine ⟨⟨sound.referential.keyGroups, ?_, ?_⟩, ?_, ?_, sound.oldSaved, sound.oldKeys,
    sound.directKeys, ?_, ?_⟩
  · intro group other member
    obtain ⟨member, apart⟩ := Finset.mem_filter.mp member
    exact Finset.mem_erase.mpr ⟨apart, sound.referential.providerGroups group other member⟩
  · intro key other member
    obtain ⟨member, apart⟩ := Finset.mem_filter.mp member
    obtain ⟨key_there, provider_there⟩ := sound.referential.allowed key other member
    exact ⟨key_there, Finset.mem_erase.mpr ⟨apart, provider_there⟩⟩
  · intro key direct other
    have before := sound.saved key direct other
    show (key, other) ∈ Finset.filter _ _ ↔ _ ∧ other ∈ Finset.erase _ _
    rw [Finset.mem_filter, Finset.mem_erase, before]
    tauto
  · intro other member
    exact sound.oldProviders other (Finset.mem_of_mem_erase member)
  · intro who op there
    have before := sound.ops who op there
    refine ⟨before.keys, ?_, before.reads⟩
    intro pinned member
    refine Finset.mem_erase.mpr ⟨?_, before.providers member⟩
    rintro rfl
    exact not_pinned free there member
  · refine sound.groups.imp_left ?_
    rintro ⟨follows, registered⟩
    refine ⟨?_, registered⟩
    intro key member compat other
    have before := follows key member compat other
    rw [AuthStore.mem_granted] at before
    show (key, other) ∈ Finset.filter _ _ ↔ _
    rw [AuthStore.mem_granted, Finset.mem_filter, before]
    constructor
    · rintro ⟨⟨group, in_group, grants⟩, apart⟩
      exact ⟨group, in_group, Finset.mem_filter.mpr ⟨grants, apart⟩⟩
    · rintro ⟨group, in_group, grants⟩
      obtain ⟨grants, apart⟩ := Finset.mem_filter.mp grants
      exact ⟨⟨group, in_group, grants⟩, apart⟩

theorem createKey_sound (sound : world.Sound) :
    Sound { world with
      store := { world.store with keys := insert world.nextKey world.store.keys }
      nextKey := world.nextKey + 1 } := by
  have unborn : world.nextKey ∉ world.store.keys :=
    fun member => Nat.lt_irrefl _ (sound.oldKeys _ member)
  refine ⟨⟨?_, sound.referential.providerGroups, ?_⟩, sound.saved, sound.oldProviders, sound.oldSaved,
    ?_, ?_, ?_, ?_⟩
  · intro key group member
    exact Finset.mem_insert_of_mem (sound.referential.keyGroups key group member)
  · intro key provider member
    obtain ⟨key_there, provider_there⟩ := sound.referential.allowed key provider member
    exact ⟨Finset.mem_insert_of_mem key_there, provider_there⟩
  · intro key member
    rcases Finset.mem_insert.mp member with rfl | old
    · exact Nat.lt_succ_self _
    · exact Nat.lt_succ_of_lt (sound.oldKeys key old)
  · intro key direct
    exact Finset.mem_insert_of_mem (sound.directKeys key direct)
  · intro who op there
    exact (sound.ops who op there).mono (Finset.subset_insert _ _) (Finset.Subset.refl _)
  · refine sound.groups.imp_left ?_
    rintro ⟨follows, registered⟩
    refine ⟨?_, registered⟩
    intro key member compat provider
    rcases Finset.mem_insert.mp member with rfl | old
    · have no_row : (world.nextKey, provider) ∉ world.store.allowed :=
        fun row => unborn (sound.referential.allowed _ _ row).1
      have no_group : (world.nextKey, provider) ∉ world.store.granted := by
        intro row
        obtain ⟨group, in_group, -⟩ := AuthStore.mem_granted.mp row
        exact unborn (sound.referential.keyGroups _ _ in_group)
      exact iff_of_false no_row no_group
    · exact follows key old compat provider

theorem createGroup_sound (sound : world.Sound) :
    Sound { world with
      store := { world.store with groups := insert world.nextGroup world.store.groups }
      nextGroup := world.nextGroup + 1 } where
  referential := ⟨sound.referential.keyGroups, sound.referential.providerGroups,
    sound.referential.allowed⟩
  saved := sound.saved
  oldProviders := sound.oldProviders
  oldSaved := sound.oldSaved
  oldKeys := sound.oldKeys
  directKeys := sound.directKeys
  ops who op there := (sound.ops who op there).mono (Finset.Subset.refl _) (Finset.Subset.refl _)
  groups := sound.groups

theorem commit_sound {spared : Finset (Nat × Nat)} (sound : world.Sound)
    (there : world.ops.lookup who = some op) (commits : world.Commits who spared op)
    (taken : world.commit who spared op = some next) : next.Sound := by
  cases op with
  | providerGroups => exact providerGroups_sound sound taken
  | keyGroups => exact keyGroups_sound sound taken
  | refresh stage =>
    cases stage with
    | inserted recording deleting inserting =>
      cases taken
      exact refresh_sound sound there commits
    | start | recorded | deleted => cases taken
  | replaceAllowed key ids stage =>
    cases stage with
    | inserted => exact replace_sound sound there commits taken
    | start | deleted => cases taken
  | createProvider groups read =>
    cases read with
    | some => exact createProvider_sound sound there commits taken
    | none => cases taken
  | deleteGroup => exact deleteGroup_sound sound there commits taken

theorem step_sound {action : AuthAction} (sound : world.Sound)
    (orderly : Orderly ⟨world, action, next⟩) (taken : world.step action = some next) :
    next.Sound := by
  cases action with
  | begin who task =>
    cases free : world.ops.lookup who with
    | none =>
      simp only [step, free, Option.some.injEq] at taken
      subst taken
      exact begin_sound sound free
    | some op => simp [step, free] at taken
  | statement who =>
    obtain ⟨op, there, taken⟩ := Option.bind_eq_some_iff.mp taken
    exact statement_sound sound there taken
  | commit who spared =>
    obtain ⟨op, there, taken⟩ := Option.bind_eq_some_iff.mp taken
    exact commit_sound sound there (orderly op there) taken
  | fail who =>
    obtain ⟨op, there, same⟩ := Option.map_eq_some_iff.mp taken
    cases same
    exact fail_sound sound there (orderly op there)
  | createKey =>
    cases taken
    exact createKey_sound sound
  | createGroup =>
    cases taken
    exact createGroup_sound sound
  | deleteKey key => exact deleteKey_sound sound taken
  | deleteProvider provider => exact deleteProvider_sound sound taken

end AuthWorld

structure LegacyGroups where
  keys : Finset Nat
  groups : Finset Nat
  providers : Finset Nat
  keyGroups : Finset (Nat × Nat)
  providerGroups : Finset (Nat × Nat)
  nextKey : Nat
  nextGroup : Nat
  nextProvider : Nat
  keysExist : ∀ row ∈ keyGroups, row.1 ∈ keys
  providersExist : ∀ row ∈ providerGroups, row.2 ∈ providers
  oldKeys : ∀ key ∈ keys, key < nextKey
  oldProviders : ∀ provider ∈ providers, provider < nextProvider

namespace LegacyGroups

variable (legacy : LegacyGroups)

def store : AuthStore where
  keys := legacy.keys
  groups := legacy.groups
  providers := legacy.providers
  keyGroups := legacy.keyGroups
  providerGroups := legacy.providerGroups
  recorded := legacy.keys
  direct := ∅
  allowed := legacy.keyGroups.biUnion fun row =>
    (legacy.providerGroups.filter fun membership => membership.1 = row.2).image
      fun membership => (row.1, membership.2)

def migrated : AuthWorld where
  store := legacy.store
  ops := ∅
  saved := fun _ => ∅
  nextKey := legacy.nextKey
  nextGroup := legacy.nextGroup
  nextProvider := legacy.nextProvider

theorem migrated_sound : legacy.migrated.Sound where
  referential := by
    refine ⟨fun key group => legacy.keysExist (key, group),
      fun group provider => legacy.providersExist (group, provider), ?_⟩
    intro key provider member
    have grants : (key, provider) ∈ legacy.store.granted := member
    obtain ⟨group, in_group, grants⟩ := AuthStore.mem_granted.mp grants
    exact ⟨legacy.keysExist (key, group) in_group, legacy.providersExist (group, provider) grants⟩
  saved := by
    intro key direct
    cases Finset.notMem_empty key direct
  oldProviders := legacy.oldProviders
  oldSaved := by
    intro key provider saved
    cases Finset.notMem_empty provider saved
  oldKeys := legacy.oldKeys
  directKeys := by
    intro key direct
    cases Finset.notMem_empty key direct
  ops := by
    intro who op there
    rw [show legacy.migrated.ops.lookup who = none from AList.lookup_empty who] at there
    cases there
  groups := .inl ⟨fun _ _ _ _ => Iff.rfl, fun key group => legacy.keysExist (key, group)⟩

end LegacyGroups

namespace AuthWorld

theorem run_sound {legacy : LegacyGroups} {history : List Move} {world : AuthWorld}
    (run : Run legacy.migrated history world) (orderly : ∀ t ∈ history, Orderly t) : world.Sound := by
  induction run with
  | start => exact legacy.migrated_sound
  | next run taken ih =>
    have before := ih fun t member => orderly t (List.mem_cons_of_mem _ member)
    exact step_sound before (orderly _ List.mem_cons_self) taken

/-- The rows are those of the saved sets and of the groups whenever no operation is in progress, in
the runs whose commits and failures are orderly. -/
theorem run_authorizations {legacy : LegacyGroups} {history : List Move} {world : AuthWorld}
    (run : Run legacy.migrated history world) (orderly : ∀ t ∈ history, Orderly t)
    (quiet : world.Quiet) : world.FollowsSaved ∧ world.store.FollowsGroups := by
  have sound := run_sound run orderly
  rcases sound.groups with ⟨follows, -⟩ | ⟨who, op, there, -⟩
  · exact ⟨sound.saved, follows⟩
  · rw [quiet who] at there
    cases there

abbrev oneGroup : LegacyGroups where
  keys := {0}
  groups := {0}
  providers := {0}
  keyGroups := {(0, 0)}
  providerGroups := {(0, 0)}
  nextKey := 1
  nextGroup := 1
  nextProvider := 1
  keysExist := by decide
  providersExist := by decide
  oldKeys := by decide
  oldProviders := by decide

abbrev oneGroupStart : AuthWorld := oneGroup.migrated

def leavesGroup : List AuthAction := [.commit 0 ∅, .begin 0 (.providerGroups 0 ∅)]

theorem run_authorizations_fails : ∃ (legacy : LegacyGroups) (history : List Move) (world : AuthWorld),
    Run legacy.migrated history world ∧ world.Quiet ∧
      ¬(world.FollowsSaved ∧ world.store.FollowsGroups) := by
  have replayed : ∃ run, replay step oneGroupStart (.fail 0 :: leavesGroup) = some run ∧
      run.2.ops.entries = [] ∧ 0 ∈ run.2.store.keys ∧ 0 ∉ run.2.store.direct ∧
      (0, 0) ∈ run.2.store.allowed ∧ (0, 0) ∉ run.2.store.granted :=
    ⟨_, rfl, by decide, by decide, by decide, by decide, by decide⟩
  obtain ⟨⟨history, world⟩, replayed, ended, key, compat, allowed, denied⟩ := replayed
  refine ⟨oneGroup, history, world, replay_run replayed, ?_, ?_⟩
  · intro who
    have empty : world.ops = ∅ := AList.ext ended
    rw [empty]
    exact AList.lookup_empty who
  · rintro ⟨-, follows⟩
    exact denied ((follows 0 key compat 0).mp allowed)

def ordered (t : Move) : Bool :=
  match t.action with
  | .commit who spared =>
    match t.before.ops.lookup who with
    | some (.refresh (.inserted recording deleting inserting)) =>
      spared = ∅ && [recording, deleting, inserting].all fun read =>
        read.compatible = t.before.store.compatible
    | some (.providerGroups ..) => true
    | _ => false
  | .fail _ => false
  | _ => true

theorem orderly_of_ordered {t : Move} (ordered : ordered t = true) : Orderly t := by
  unfold Orderly
  unfold AuthWorld.ordered at ordered
  split
  · rename_i who spared same
    rw [same] at ordered
    intro op there
    simp only [there] at ordered
    split at ordered
    · rename_i found
      cases found
      simp only [Bool.and_eq_true, decide_eq_true_iff, List.all_eq_true] at ordered
      exact .inl ordered
    · rename_i found
      cases found
      trivial
    · cases ordered
  · rename_i who same
    rw [same] at ordered
    cases ordered
  · trivial

theorem run_authorizations_leaves : ∃ (history : List Move) (world : AuthWorld),
    Run oneGroup.migrated history world ∧ world.store.providerGroups = ∅ ∧
      world.FollowsSaved ∧ world.store.FollowsGroups := by
  have replayed : ∃ run, replay step oneGroupStart
      ([.commit 0 ∅, .statement 0, .statement 0, .statement 0] ++ leavesGroup) = some run ∧
      run.2.ops.entries = [] ∧ run.2.store.providerGroups = ∅ ∧ run.1.all ordered = true :=
    ⟨_, rfl, by decide, by decide, by decide⟩
  obtain ⟨⟨history, world⟩, replayed, ended, left, all_ordered⟩ := replayed
  have run : Run oneGroup.migrated history world := replay_run replayed
  have quiet : world.Quiet := by
    intro who
    have empty : world.ops = ∅ := AList.ext ended
    rw [empty]
    exact AList.lookup_empty who
  have orderly : ∀ t ∈ history, Orderly t :=
    fun t member => orderly_of_ordered (List.all_eq_true.mp all_ordered t member)
  exact ⟨history, world, run, left, run_authorizations run orderly quiet⟩

end AuthWorld

end CodexGate.Authorization
