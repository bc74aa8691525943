import CodexGate.Pricing.ContextTiers

namespace CodexGate.Pricing

open Foundation

variable {Decimal : Type}

theorem filter_eq_singleton {α : Type} {p : α → Bool} {items : List α} {item : α} (distinct : items.Nodup) :
    items.filter p = [item] ↔ item ∈ items ∧ p item = true ∧ ∀ other ∈ items, p other = true → other = item := by
  have members : ∀ other, other ∈ items.filter p ↔ other ∈ items ∧ p other = true := fun _ => List.mem_filter
  constructor
  · intro single
    obtain ⟨member, passes⟩ := (members item).mp (by simp [single])
    refine ⟨member, passes, fun other there also => ?_⟩
    have inside := (members other).mpr ⟨there, also⟩
    simpa [single] using inside
  · rintro ⟨member, passes, only⟩
    have nodup : (items.filter p).Nodup := distinct.filter _
    refine List.perm_singleton.mp ((List.perm_ext_iff_of_nodup nodup (List.nodup_singleton _)).mpr ?_)
    intro other
    rw [members, List.mem_singleton]
    constructor
    · exact fun both => only other both.1 both.2
    · rintro rfl
      exact ⟨member, passes⟩

section Kept

variable {models : List CatalogRecord} {model : CatalogRecord}

theorem mem_orderedGroups {group : String × List CatalogRecord}
    (member : group ∈ orderedGroups (·.modelName) models) :
    group.2 = rowsOf (·.modelName) models group.1 :=
  (mem_groupRows.mp ((orderedGroups_perm _ _).mem_iff.mp member)).2

theorem mem_keptModels :
    model ∈ keptModels models ↔ rowsOf (·.modelName) models model.modelName = [model] := by
  unfold keptModels
  rw [List.mem_filterMap]
  constructor
  · rintro ⟨⟨name, members⟩, member, single⟩
    have rows := mem_orderedGroups member
    dsimp only at rows single
    split at single
    · cases single
      have named : model ∈ rowsOf (·.modelName) models name := by simp [← rows]
      rw [(mem_rowsOf.mp named).2, ← rows]
    · cases single
  · intro alone
    have member : model ∈ rowsOf (·.modelName) models model.modelName := by simp [alone]
    have group : (model.modelName, rowsOf (·.modelName) models model.modelName) ∈
        groupRows (·.modelName) models := groupRows_of_key (mem_rowsOf.mp member).1 rfl
    exact ⟨_, (orderedGroups_perm _ _).mem_iff.mpr group, by rw [alone]⟩

theorem keptModels_increasing : (keptModels models).Pairwise fun a b => a.modelName < b.modelName := by
  apply filterMap_increasing (orderedGroups_increasing (·.modelName) models)
  intro group member kept single
  have rows := mem_orderedGroups member
  split at single
  · rename_i found
    cases single
    have inside : kept ∈ rowsOf (·.modelName) models group.1 := by simp [← rows, found]
    exact (mem_rowsOf.mp inside).2
  · cases single

theorem keptModels_nodup : ((keptModels models).map (·.modelName)).Nodup :=
  List.pairwise_map.mpr (keptModels_increasing.imp fun before => before.ne)

end Kept

section Aliases

variable {canonical : List String} {kept : List CatalogRecord} {model : CatalogRecord}

theorem dedup_eq_singleton {α : Type} [DecidableEq α] {items : List α} {item : α} :
    items.dedup = [item] ↔ item ∈ items ∧ ∀ other ∈ items, other = item := by
  constructor
  · intro single
    have members : ∀ other, other ∈ items ↔ other = item := by
      intro other
      rw [← List.mem_dedup, single, List.mem_singleton]
    exact ⟨(members item).mpr rfl, fun other member => (members other).mp member⟩
  · rintro ⟨member, only⟩
    have nodup := List.nodup_dedup items
    have inside : item ∈ items.dedup := List.mem_dedup.mpr member
    cases found : items.dedup with
    | nil => simp [found] at inside
    | cons first rest =>
      rw [found] at nodup
      have all : ∀ other ∈ first :: rest, other = item := by
        intro other there
        exact only other (List.mem_dedup.mp (found ▸ there))
      cases rest with
      | nil => rw [all first (by simp)]
      | cons second rest =>
        have same := (all first (by simp)).trans (all second (by simp)).symm
        simp [same] at nodup

theorem mem_aliasClaims {name : String} {index : Nat} :
    (name, index) ∈ aliasClaims canonical kept ↔
      ∃ owner, kept[index]? = some owner ∧ name ∈ owner.aliases ∧ name ≠ "" ∧ name ∉ canonical := by
  simp only [aliasClaims, List.mem_flatMap, List.mem_map, List.mem_filter, Prod.exists, Prod.mk.injEq,
    List.mem_zipIdx_iff_getElem?, Bool.and_eq_true, decide_eq_true_eq, Bool.not_eq_true', ne_eq]
  constructor
  · rintro ⟨owner, place, there, claimed, ⟨inside, named, other⟩, rfl, rfl⟩
    exact ⟨owner, there, inside, named, by simpa using other⟩
  · rintro ⟨owner, there, inside, named, other⟩
    exact ⟨owner, index, there, name, ⟨inside, named, by simpa using other⟩, rfl, rfl⟩

theorem mem_aliasModels (distinct : kept.Nodup) :
    model ∈ aliasModels canonical kept ↔ ∃ owner ∈ kept, model = owner.rename model.modelName ∧
      model.modelName ∈ owner.aliases ∧ model.modelName ≠ "" ∧ model.modelName ∉ canonical ∧
      ∀ other ∈ kept, model.modelName ∈ other.aliases → other = owner := by
  unfold aliasModels
  rw [List.mem_filterMap]
  have places : ∀ name index, index ∈ (rowsOf (·.1) (aliasClaims canonical kept) name).map (·.2) ↔
      (name, index) ∈ aliasClaims canonical kept := by
    intro name index
    simp only [List.mem_map, mem_rowsOf, Prod.exists, exists_eq_right]
  constructor
  · rintro ⟨⟨name, claims⟩, member, single⟩
    have rows := (mem_groupRows.mp ((orderedGroups_perm _ _).mem_iff.mp member)).2
    dsimp only at rows single
    split at single
    · rename_i index only
      obtain ⟨owner, there, rfl⟩ := Option.map_eq_some_iff.mp single
      rw [rows, dedup_eq_singleton, places] at only
      obtain ⟨claimed, alone⟩ := only
      obtain ⟨found, here, inside, named, free⟩ := mem_aliasClaims.mp claimed
      rw [there] at here
      cases here
      refine ⟨owner, List.mem_of_getElem? there, rfl, inside, named, free, ?_⟩
      intro other member claims
      obtain ⟨place, found⟩ := List.getElem?_of_mem member
      have same := alone place ((places name place).mpr (mem_aliasClaims.mpr ⟨other, found, claims, named, free⟩))
      rw [same, there] at found
      exact (Option.some.inj found).symm
    · cases single
  · rintro ⟨owner, member, same, inside, named, free, alone⟩
    obtain ⟨index, there⟩ := List.getElem?_of_mem member
    have claimed := mem_aliasClaims.mpr ⟨owner, there, inside, named, free⟩
    have group : (model.modelName, rowsOf Prod.fst (aliasClaims canonical kept) model.modelName) ∈
        groupRows Prod.fst (aliasClaims canonical kept) := groupRows_of_key claimed rfl
    refine ⟨_, (orderedGroups_perm _ _).mem_iff.mpr group, ?_⟩
    have only : ((rowsOf Prod.fst (aliasClaims canonical kept) model.modelName).map (·.2)).dedup = [index] := by
      rw [dedup_eq_singleton]
      refine ⟨(places _ _).mpr claimed, fun place other => ?_⟩
      obtain ⟨found, here, claims, -⟩ := mem_aliasClaims.mp ((places _ _).mp other)
      have equal := alone found (List.mem_of_getElem? here) claims
      rw [equal] at here
      exact (List.getElem?_inj (List.getElem?_eq_some_iff.mp here).1 distinct).mp (here.trans there.symm)
    dsimp only
    rw [only]
    exact Option.map_eq_some_iff.mpr ⟨owner, there, same.symm⟩

theorem aliasModels_increasing :
    (aliasModels canonical kept).Pairwise fun a b => a.modelName < b.modelName := by
  apply filterMap_increasing (orderedGroups_increasing (·.1) (aliasClaims canonical kept))
  intro group _ found single
  split at single
  · obtain ⟨owner, -, rfl⟩ := Option.map_eq_some_iff.mp single
    rfl
  · cases single

end Aliases

structure DocumentRow where
  model : Option CatalogRecord
  aliases : List String

def modelsOf (rows : List DocumentRow) : List CatalogRecord := rows.filterMap (·.model)

def idRows (rows : List DocumentRow) (name : String) : List CatalogRecord :=
  rowsOf (·.modelName) (modelsOf rows) name

def claimants (rows : List DocumentRow) (name : String) : List DocumentRow :=
  rows.filter fun row => row.aliases.contains name

def WellFormed (rows : List DocumentRow) : Prop :=
  ∀ row ∈ rows, ∀ model, row.model = some model → row.aliases = model.aliases

def IsKept (rows : List DocumentRow) (row : DocumentRow) : Prop :=
  ∃ model, row.model = some model ∧ idRows rows model.modelName = [model]

structure NamesSettled (rows : List DocumentRow) (returned : List CatalogRecord) : Prop where
  distinct : (returned.map (·.modelName)).Nodup
  named : ∀ model ∈ returned, model.modelName ≠ ""
  own : ∀ model, idRows rows model.modelName = [model] → model ∈ returned
  shared : ∀ name, 1 < (idRows rows name).length → ∀ model ∈ returned, model.modelName ≠ name
  claimed : ∀ name, idRows rows name = [] → ((∃ model ∈ returned, model.modelName = name) ↔
    name ≠ "" ∧ ∃ row, claimants rows name = [row])
  carried : ∀ model ∈ returned, idRows rows model.modelName = [] → ∃ row owner,
    claimants rows model.modelName = [row] ∧ row.model = some owner ∧ model = owner.rename model.modelName

def keptClaimants (rows : List DocumentRow) (name : String) : List CatalogRecord :=
  (keptModels (modelsOf rows)).filter fun model => model.aliases.contains name

/-- When rows that are not kept do not matter: none of them is the only one to claim an alias, or claims
it beside exactly one that is kept. And the only row of an id has a name. -/
structure Undisputed (rows : List DocumentRow) : Prop where
  named : ∀ model, idRows rows model.modelName = [model] → model.modelName ≠ ""
  claimed : ∀ name, name ≠ "" → idRows rows name = [] →
    (∃ row ∈ claimants rows name, ¬ IsKept rows row) →
      (keptClaimants rows name).length ≠ 1 ∧ (claimants rows name).length ≠ 1

def finalModels (rows : List DocumentRow) : List CatalogRecord :=
  keptModels (modelsOf rows) ++
    aliasModels ((modelsOf rows).map (·.modelName)) (keptModels (modelsOf rows))

section Rows

variable {rows : List DocumentRow} {name : String} {model : CatalogRecord}

theorem idRows_eq_nil : idRows rows name = [] ↔ name ∉ (modelsOf rows).map (·.modelName) := by
  rw [idRows, List.eq_nil_iff_forall_not_mem, List.mem_map]
  constructor
  · rintro none ⟨model, member, named⟩
    exact none model (mem_rowsOf.mpr ⟨member, named⟩)
  · rintro free model member
    obtain ⟨inside, named⟩ := mem_rowsOf.mp member
    exact free ⟨model, inside, named⟩

theorem mem_modelsOf : model ∈ modelsOf rows ↔ ∃ row ∈ rows, row.model = some model := by
  simp [modelsOf]

theorem mem_kept : model ∈ keptModels (modelsOf rows) ↔ idRows rows model.modelName = [model] :=
  mem_keptModels

theorem kept_mem (kept : model ∈ keptModels (modelsOf rows)) : model ∈ modelsOf rows := by
  have alone := mem_kept.mp kept
  have member : model ∈ idRows rows model.modelName := by simp [alone]
  exact (mem_rowsOf.mp member).1

theorem keptClaimants_eq {owner : CatalogRecord} :
    keptClaimants rows name = [owner] ↔ owner ∈ keptModels (modelsOf rows) ∧ name ∈ owner.aliases ∧
      ∀ other ∈ keptModels (modelsOf rows), name ∈ other.aliases → other = owner := by
  rw [keptClaimants, filter_eq_singleton keptModels_nodup.of_map]
  simp only [List.contains_iff_mem]

theorem alias_returned (free : idRows rows name = []) :
    (∃ model ∈ finalModels rows, model.modelName = name) ↔
      name ≠ "" ∧ ∃ owner, keptClaimants rows name = [owner] := by
  have distinct : (keptModels (modelsOf rows)).Nodup := keptModels_nodup.of_map
  constructor
  · rintro ⟨model, member, rfl⟩
    rcases List.mem_append.mp member with kept | made
    · have alone := mem_kept.mp kept
      rw [free] at alone
      cases alone
    · obtain ⟨owner, kept, -, claims, named, -, only⟩ := (mem_aliasModels distinct).mp made
      exact ⟨named, owner, keptClaimants_eq.mpr ⟨kept, claims, only⟩⟩
  · rintro ⟨named, owner, single⟩
    obtain ⟨kept, claims, only⟩ := keptClaimants_eq.mp single
    refine ⟨owner.rename name, List.mem_append_right _ ?_, rfl⟩
    exact (mem_aliasModels distinct).mpr ⟨owner, kept, rfl, claims, named, idRows_eq_nil.mp free, only⟩

theorem alias_data (member : model ∈ finalModels rows) (free : idRows rows model.modelName = []) :
    ∃ owner, keptClaimants rows model.modelName = [owner] ∧ model = owner.rename model.modelName := by
  have distinct : (keptModels (modelsOf rows)).Nodup := keptModels_nodup.of_map
  rcases List.mem_append.mp member with kept | made
  · have alone := mem_kept.mp kept
    rw [free] at alone
    cases alone
  · obtain ⟨owner, kept, same, claims, -, -, only⟩ := (mem_aliasModels distinct).mp made
    exact ⟨owner, keptClaimants_eq.mpr ⟨kept, claims, only⟩, same⟩

theorem finalModels_nodup : ((finalModels rows).map (·.modelName)).Nodup := by
  have distinct : (keptModels (modelsOf rows)).Nodup := keptModels_nodup.of_map
  rw [finalModels, List.map_append, List.nodup_append]
  refine ⟨keptModels_nodup, ?_, ?_⟩
  · exact List.pairwise_map.mpr (aliasModels_increasing.imp fun before => before.ne)
  · intro name kept other made same
    subst same
    obtain ⟨model, there, rfl⟩ := List.mem_map.mp kept
    obtain ⟨made, inside, named⟩ := List.mem_map.mp made
    obtain ⟨owner, -, -, -, -, free, -⟩ := (mem_aliasModels distinct).mp inside
    apply free
    rw [named]
    exact List.mem_map_of_mem (kept_mem there)

theorem two_rows {owner : CatalogRecord} {first second : DocumentRow}
    (sub : [first, second].Sublist rows) (firstModel : first.model = some owner)
    (secondModel : second.model = some owner) : idRows rows owner.modelName ≠ [owner] := by
  intro alone
  have models := sub.filterMap (·.model)
  simp only [List.filterMap_cons, firstModel, secondModel, List.filterMap_nil] at models
  have named := models.filter fun model => decide (model.modelName = owner.modelName)
  simp only [List.filter_cons, decide_true, if_true, List.filter_nil] at named
  have longer := named.length_le
  have single : (idRows rows owner.modelName).length = 1 := by rw [alone]; rfl
  unfold idRows rowsOf modelsOf at single
  rw [single] at longer
  simp at longer

variable (formed : WellFormed rows)

include formed

theorem claimants_of_kept (all : ∀ row ∈ claimants rows name, IsKept rows row) {owner : CatalogRecord} :
    keptClaimants rows name = [owner] ↔ ∃ row, claimants rows name = [row] ∧ row.model = some owner := by
  have member : ∀ row, row ∈ claimants rows name ↔ row ∈ rows ∧ name ∈ row.aliases := by simp [claimants]
  constructor
  · intro single
    obtain ⟨kept, claims, only⟩ := keptClaimants_eq.mp single
    obtain ⟨row, there, modelled⟩ := mem_modelsOf.mp (kept_mem kept)
    have claimed := (member row).mpr ⟨there, by rw [formed row there owner modelled]; exact claims⟩
    -- Every row that claims the alias has the owner for its model.
    have owned : ∀ row ∈ claimants rows name, row.model = some owner := by
      intro other inside
      obtain ⟨model, modelled, alone⟩ := all other inside
      obtain ⟨there, claims⟩ := (member other).mp inside
      rw [formed other there model modelled] at claims
      rw [modelled, only model (mem_kept.mpr alone) claims]
    cases found : claimants rows name with
    | nil => simp [found] at claimed
    | cons first rest =>
      cases rest with
      | nil => exact ⟨first, rfl, owned first (by simp [found])⟩
      | cons second rest =>
        have sub : [first, second].Sublist rows := by
          have inside : [first, second].Sublist (claimants rows name) := by simp [found]
          exact inside.trans List.filter_sublist
        exact absurd (mem_kept.mp kept)
          (two_rows sub (owned first (by simp [found])) (owned second (by simp [found])))
  · rintro ⟨row, single, modelled⟩
    have inside : row ∈ claimants rows name := by simp [single]
    obtain ⟨there, claims⟩ := (member row).mp inside
    obtain ⟨model, same, alone⟩ := all row inside
    rw [modelled] at same
    cases same
    rw [formed row there owner modelled] at claims
    refine keptClaimants_eq.mpr ⟨mem_kept.mpr alone, claims, fun other kept also => ?_⟩
    obtain ⟨row', there', modelled'⟩ := mem_modelsOf.mp (kept_mem kept)
    have other_claims : row' ∈ claimants rows name :=
      (member row').mpr ⟨there', by rw [formed row' there' other modelled']; exact also⟩
    rw [single, List.mem_singleton] at other_claims
    rw [other_claims, modelled] at modelled'
    exact (Option.some.inj modelled').symm

theorem namesSettled_iff : NamesSettled rows (finalModels rows) ↔ Undisputed rows := by
  constructor
  · intro settled
    refine ⟨fun model alone => settled.named model (List.mem_append_left _ (mem_kept.mpr alone)), ?_⟩
    rintro name named free ⟨dropped, claims, unkept⟩
    -- An alias that is returned is claimed by one row, which is kept.
    have disputed : ¬ ∃ model ∈ finalModels rows, model.modelName = name := by
      rintro ⟨model, member, rfl⟩
      obtain ⟨row, owner, single, modelled, -⟩ := settled.carried model member free
      obtain ⟨other, keptSingle, -⟩ := alias_data member free
      obtain ⟨kept, also, -⟩ := keptClaimants_eq.mp keptSingle
      obtain ⟨row', there, modelled'⟩ := mem_modelsOf.mp (kept_mem kept)
      have claims' : row' ∈ claimants rows model.modelName := by
        simp only [claimants, List.mem_filter, List.contains_iff_mem]
        exact ⟨there, by rw [formed row' there other modelled']; exact also⟩
      rw [single, List.mem_singleton] at claims claims'
      apply unkept
      rw [claims, ← claims']
      exact ⟨other, modelled', mem_kept.mp kept⟩
    constructor
    · intro one
      obtain ⟨owner, single⟩ := List.length_eq_one_iff.mp one
      exact disputed ((alias_returned free).mpr ⟨named, owner, single⟩)
    · intro one
      obtain ⟨row, single⟩ := List.length_eq_one_iff.mp one
      exact disputed ((settled.claimed name free).mpr ⟨named, row, single⟩)
  · intro undisputed
    -- Where a row that is not kept claims an alias, neither count is one.
    have agree : ∀ name, name ≠ "" → idRows rows name = [] →
        (∀ owner, keptClaimants rows name = [owner] →
          ∃ row, claimants rows name = [row] ∧ row.model = some owner) ∧
        (∀ row, claimants rows name = [row] → ∃ owner, keptClaimants rows name = [owner]) := by
      intro name named free
      by_cases all : ∀ row ∈ claimants rows name, IsKept rows row
      · refine ⟨fun owner single => (claimants_of_kept formed all).mp single, fun row single => ?_⟩
        obtain ⟨owner, modelled, -⟩ := all row (by simp [single])
        exact ⟨owner, (claimants_of_kept formed all).mpr ⟨row, single, modelled⟩⟩
      · push Not at all
        obtain ⟨notKept, notOne⟩ := undisputed.claimed name named free all
        refine ⟨fun owner single => absurd ?_ notKept, fun row single => absurd ?_ notOne⟩
        · rw [single]
          rfl
        · rw [single]
          rfl
    refine {
      distinct := finalModels_nodup
      named := ?_
      own := fun model alone => List.mem_append_left _ (mem_kept.mpr alone)
      shared := ?_
      claimed := ?_
      carried := ?_ }
    · intro model member
      rcases List.mem_append.mp member with kept | made
      · exact undisputed.named model (mem_kept.mp kept)
      · obtain ⟨owner, -, -, -, named, -⟩ := (mem_aliasModels keptModels_nodup.of_map).mp made
        exact named
    · rintro name many model member rfl
      rcases List.mem_append.mp member with kept | made
      · rw [mem_kept.mp kept] at many
        simp at many
      · obtain ⟨owner, -, -, -, -, free, -⟩ := (mem_aliasModels keptModels_nodup.of_map).mp made
        rw [idRows_eq_nil.mpr free] at many
        simp at many
    · intro name free
      rw [alias_returned free]
      constructor
      · rintro ⟨named, owner, single⟩
        obtain ⟨row, only, -⟩ := (agree name named free).1 owner single
        exact ⟨named, row, only⟩
      · rintro ⟨named, row, single⟩
        exact ⟨named, (agree name named free).2 row single⟩
    · intro model member free
      obtain ⟨owner, single, same⟩ := alias_data member free
      have named := ((alias_returned free).mp ⟨model, member, rfl⟩).1
      obtain ⟨row, only, modelled⟩ := (agree _ named free).1 owner single
      exact ⟨row, owner, only, modelled, same⟩

end Rows

section Documents

variable (crates : CatalogCrates Decimal)

def tableRows (version : String) (rows : List Json) : List DocumentRow :=
  rows.map fun row =>
    ⟨(rowName row).map fun name => (tableRecord crates version name row).1,
      strings (indexJson row "aliases")⟩

def litellmRows (version : String) (rows : List (String × Json)) : List DocumentRow :=
  (rows.filter fun row => row.1 ≠ "sample_spec").map fun row =>
    ⟨if row.1 = "" ∨ row.2.asObject.isNone then none
      else some (litellmRecord crates version row.1 row.2).1, []⟩

def legacyRows (version : String) (rows : List (String × Toml)) : List DocumentRow :=
  (rows.filter fun row => row.1 ≠ "metadata").map fun row =>
    ⟨some (legacyRecord crates version row.1 row.2).1, []⟩

def documentRows (bytes : List UInt8) : List DocumentRow :=
  let hash := crates.hash bytes
  if startsObject bytes then
    match crates.fromSlice bytes with
    | .error _ => []
    | .ok root =>
      if (root.get "schema").isNone then litellmRows crates hash (root.asObject.getD [])
      else
        tableRows crates ((indexJson root "version").asStr.getD hash)
          ((indexJson root "models").asArray.getD [])
  else
    match crates.parseToml bytes with
    | .error _ => []
    | .ok doc => legacyRows crates (legacyVersion doc hash) (legacyModels doc)

variable {crates}

theorem tableRecord_aliases (version name : String) (row : Json) :
    (tableRecord crates version name row).1.aliases = strings (indexJson row "aliases") := by
  unfold tableRecord
  dsimp only
  split <;> rfl

theorem litellmRecord_aliases (version name : String) (row : Json) :
    (litellmRecord crates version name row).1.aliases = [] := by
  unfold litellmRecord
  dsimp only
  split <;> rfl

theorem legacyRecord_aliases (version name : String) (item : Toml) :
    (legacyRecord crates version name item).1.aliases = [] := by
  unfold legacyRecord
  dsimp only
  split <;> rfl

theorem documentRows_formed (bytes : List UInt8) : WellFormed (documentRows crates bytes) := by
  have none : WellFormed [] := fun row member => absurd member List.not_mem_nil
  unfold documentRows
  dsimp only
  split
  · split
    · exact none
    · split
      · intro row member model modelled
        obtain ⟨field, -, rfl⟩ := List.mem_map.mp member
        dsimp only at modelled
        split at modelled
        · cases modelled
        · cases modelled
          exact (litellmRecord_aliases _ _ _).symm
      · intro row member model modelled
        obtain ⟨json, -, rfl⟩ := List.mem_map.mp member
        obtain ⟨name, -, rfl⟩ := Option.map_eq_some_iff.mp modelled
        exact (tableRecord_aliases _ _ _).symm
  · split
    · exact none
    · intro row member model modelled
      obtain ⟨field, -, rfl⟩ := List.mem_map.mp member
      cases modelled
      exact (legacyRecord_aliases _ _ _).symm

theorem foldl_models {ρ : Type} {step : Parsing → ρ → Parsing} {modelled : ρ → Option CatalogRecord}
    (each : ∀ state row, (step state row).1 = state.1 ++ (modelled row).toList) (rows : List ρ)
    (state : Parsing) : (rows.foldl step state).1 = state.1 ++ rows.filterMap modelled := by
  induction rows generalizing state with
  | nil => simp
  | cons row rest ih =>
    rw [List.foldl_cons, ih, each, List.append_assoc]
    cases found : modelled row <;> simp [found]

theorem tableRow_models (version : String) (rows : List Json) :
    (rows.foldl (tableRow crates version) ([], 0)).1 = modelsOf (tableRows crates version rows) := by
  have each : ∀ state row, (tableRow crates version state row).1 =
      state.1 ++ ((rowName row).map fun name => (tableRecord crates version name row).1).toList := by
    intro state row
    unfold tableRow
    cases rowName row <;> simp
  rw [foldl_models each, List.nil_append, modelsOf, tableRows, List.filterMap_map]
  rfl

theorem litellmRow_models (version : String) (rows : List (String × Json)) :
    (rows.foldl (litellmRow crates version) ([], 0)).1 = modelsOf (litellmRows crates version rows) := by
  have each : ∀ state row, (litellmRow crates version state row).1 = state.1 ++
      (if row.1 = "sample_spec" then none else if row.1 = "" ∨ row.2.asObject.isNone then none
        else some (litellmRecord crates version row.1 row.2).1).toList := by
    intro state row
    unfold litellmRow
    split
    · simp
    · split <;> simp
  rw [foldl_models each, List.nil_append, modelsOf, litellmRows, List.filterMap_map, List.filterMap_filter]
  congr 1
  funext row
  by_cases sample : row.1 = "sample_spec" <;> simp [sample]

theorem legacyRow_models (version : String) (rows : List (String × Toml)) :
    (rows.foldl (legacyRow crates version) ([], 0)).1 = modelsOf (legacyRows crates version rows) := by
  have each : ∀ state row, (legacyRow crates version state row).1 = state.1 ++
      (if row.1 = "metadata" then none else some (legacyRecord crates version row.1 row.2).1).toList := by
    intro state row
    unfold legacyRow
    split <;> simp
  rw [foldl_models each, List.nil_append, modelsOf, legacyRows, List.filterMap_map, List.filterMap_filter]
  congr 1
  funext row
  by_cases metadata : row.1 = "metadata" <;> simp [metadata]

theorem finalize_eq_ok {version : String} {models : List CatalogRecord} {failed : Nat}
    {result : ParsedCatalog} :
    finalize version models failed = .ok result ↔
      (∃ model ∈ keptModels models, model.priceData.isSome = true) ∧
        result = (version, keptModels models ++ aliasModels (models.map (·.modelName)) (keptModels models),
          failed + sharedRows models) := by
  have priced : (keptModels models).all (·.priceData.isNone) = false ↔
      ∃ model ∈ keptModels models, model.priceData.isSome = true := by
    simp [Option.isSome_iff_ne_none]
  rw [← priced, finalize]
  cases (keptModels models).all (·.priceData.isNone) <;> simp [eq_comm]

theorem parse_models {bytes : List UInt8} {version : String} {models : List CatalogRecord} {failed : Nat}
    (parsed : parse crates bytes = .ok (version, models, failed)) :
    models = finalModels (documentRows crates bytes) := by
  -- The models that `finalize` is given, whatever it counts.
  have ended : ∀ {version' : String} {state : Parsing} {rows : List DocumentRow},
      state.1 = modelsOf rows → finalize version' state.1 state.2 = .ok (version, models, failed) →
      models = finalModels rows := by
    intro version' state rows same finalized
    rw [same] at finalized
    obtain ⟨-, same⟩ := finalize_eq_ok.mp finalized
    cases same
    rfl
  unfold parse at parsed
  unfold documentRows
  dsimp only at parsed ⊢
  split at parsed
  · rename_i object
    rw [if_pos object]
    obtain ⟨root, read, parsed⟩ := bind_eq_ok.mp parsed
    rw [read]
    dsimp only
    split at parsed
    · rename_i schema
      rw [if_pos schema]
      obtain ⟨rows, isObject, parsed⟩ := bind_eq_ok.mp parsed
      rw [okOr_eq_ok.mp isObject]
      exact ended (litellmRow_models _ _) parsed
    · rename_i schema
      rw [if_neg schema]
      obtain ⟨-, parsed⟩ := refused_eq_ok.mp parsed
      obtain ⟨rows, isArray, parsed⟩ := bind_eq_ok.mp parsed
      rw [okOr_eq_ok.mp isArray]
      exact ended (tableRow_models _ _) parsed
  · rename_i object
    rw [if_neg object]
    obtain ⟨doc, read, parsed⟩ := bind_eq_ok.mp parsed
    rw [read]
    exact ended (legacyRow_models _ _) parsed

/-- The names of a catalogue are unambiguous exactly if its rows that are not kept dispute no alias. -/
theorem parse_names_iff {bytes : List UInt8} {version : String} {models : List CatalogRecord} {failed : Nat}
    (parsed : parse crates bytes = .ok (version, models, failed)) :
    NamesSettled (documentRows crates bytes) models ↔ Undisputed (documentRows crates bytes) := by
  rw [parse_models parsed]
  exact namesSettled_iff (documentRows_formed bytes)

end Documents

def offer : Json :=
  .object [("charges", .object [("prompt", .object [("price", .string "1"),
    ("unit", .string "per_M_tokens")])])]

def namedTable (models : List Json) : Json :=
  .object [("currency", .string "USD"), ("models", .array models),
    ("schema", .string "cchp.pricing-table/v1"), ("version", .string "v1")]

def ownerRow : Json :=
  .object [("aliases", .array [.string "x"]), ("model_name", .string "a"), ("pricing", .array [offer])]

def sharedRow (aliases : List Json) : Json :=
  .object [("aliases", .array aliases), ("model_name", .string "d")]

section Tables

variable {crates : CatalogCrates Decimal} {models : List Json} {bytes : List UInt8}

theorem documentRows_table (object : startsObject bytes = true)
    (read : crates.fromSlice bytes = .ok (namedTable models)) :
    documentRows crates bytes = tableRows crates "v1" models := by
  unfold documentRows
  dsimp only
  rw [if_pos object, read]
  rfl

theorem parse_table (object : startsObject bytes = true)
    (read : crates.fromSlice bytes = .ok (namedTable models))
    (priced : ∃ model, idRows (documentRows crates bytes) model.modelName = [model] ∧
      model.priceData.isSome = true) :
    ∃ failed, parse crates bytes = .ok ("v1", finalModels (documentRows crates bytes), failed) := by
  have rows := @tableRow_models _ crates "v1" models
  rw [documentRows_table object read] at priced ⊢
  obtain ⟨model, alone, some⟩ := priced
  cases looped : models.foldl (tableRow crates "v1") ([], 0) with
  | mk listed failed =>
    rw [looped] at rows
    have finalized : finalize "v1" listed failed = .ok ("v1",
        finalModels (tableRows crates "v1" models), failed + sharedRows listed) := by
      rw [finalize_eq_ok]
      dsimp only at rows
      rw [rows]
      exact ⟨⟨model, mem_kept.mpr alone, some⟩, rfl⟩
    refine ⟨failed + sharedRows listed, ?_⟩
    unfold parse
    dsimp only
    rw [if_pos object]
    refine bind_eq_ok.mpr ⟨namedTable models, read, ?_⟩
    have schema : (namedTable models).get "schema" = Option.some (.string "cchp.pricing-table/v1") := rfl
    have currency : (namedTable models).get "currency" = Option.some (.string "USD") := rfl
    rw [if_neg (by simp [schema])]
    refine refused_eq_ok.mpr ⟨?_, bind_eq_ok.mpr ⟨models, rfl, ?_⟩⟩
    · simp [indexJson, schema, currency, Json.ofOption]
    have version : (indexJson (namedTable models) "version").asStr.getD (crates.hash bytes) = "v1" := rfl
    rw [version, looped]
    exact finalized

end Tables

theorem tableRecord_name (crates : CatalogCrates Decimal) (version name : String) (row : Json) :
    (tableRecord crates version name row).1.modelName = name := by
  unfold tableRecord
  dsimp only
  split <;> rfl

def tableCrates (models : List Json) : CatalogCrates PlainDecimal := plainCatalog (namedTable models) []

def modelOf (models : List Json) (name : String) (row : Json) : CatalogRecord :=
  (tableRecord (tableCrates models) "v1" name row).1

def disputedModels : List Json := [ownerRow, sharedRow [.string "x"], sharedRow []]

theorem ownerRow_priced : (modelOf disputedModels "a" ownerRow).priceData.isSome = true := by
  decide +kernel

def disputedText : String :=
  "\x7b\"currency\": \"USD\", \"schema\": \"cchp.pricing-table/v1\", \"version\": \"v1\", \"models\": [" ++
    "\x7b\"aliases\": [\"x\"], \"model_name\": \"a\", \"pricing\": [\x7b\"charges\": \x7b\"prompt\": " ++
    "\x7b\"price\": \"1\", \"unit\": \"per_M_tokens\"\x7d\x7d\x7d]\x7d, " ++
    "\x7b\"aliases\": [\"x\"], \"model_name\": \"d\"\x7d, \x7b\"aliases\": [], \"model_name\": \"d\"\x7d]\x7d"

theorem disputedText_object : startsObject (utf8Bytes disputedText) = true := by decide +kernel

theorem disputedRows : documentRows (tableCrates disputedModels) (utf8Bytes disputedText) =
    [⟨some (modelOf disputedModels "a" ownerRow), ["x"]⟩,
      ⟨some (modelOf disputedModels "d" (sharedRow [.string "x"])), ["x"]⟩,
      ⟨some (modelOf disputedModels "d" (sharedRow [])), []⟩] := by
  rw [documentRows_table disputedText_object rfl]
  rfl

/-- The alias is returned although two rows claim it. -/
theorem disputedModels_unsettled : ∃ models failed,
    parse (tableCrates disputedModels) (utf8Bytes disputedText) = .ok ("v1", models, failed) ∧
      ¬ NamesSettled (documentRows (tableCrates disputedModels) (utf8Bytes disputedText)) models := by
  have formed : WellFormed (documentRows (tableCrates disputedModels) (utf8Bytes disputedText)) :=
    documentRows_formed (utf8Bytes disputedText)
  have rows := disputedRows
  have read : (tableCrates disputedModels).fromSlice (utf8Bytes disputedText) =
      .ok (namedTable disputedModels) := rfl
  obtain ⟨failed, parsed⟩ := parse_table disputedText_object read ⟨modelOf disputedModels "a" ownerRow,
    by simp [rows, idRows, rowsOf, modelsOf, modelOf, tableRecord_name], ownerRow_priced⟩
  refine ⟨_, failed, parsed, ?_⟩
  rw [namesSettled_iff formed]
  intro undisputed
  rw [rows] at undisputed
  -- The row that shares its id claims the alias, beside the only one that is kept.
  have counts := undisputed.claimed "x" (by decide)
    (by simp [idRows, rowsOf, modelsOf, modelOf, tableRecord_name])
    ⟨⟨some (modelOf disputedModels "d" (sharedRow [.string "x"])), ["x"]⟩, by simp [claimants], ?_⟩
  · apply counts.1
    refine List.length_eq_one_iff.mpr ⟨modelOf disputedModels "a" ownerRow, keptClaimants_eq.mpr ⟨?_, ?_, ?_⟩⟩
    · exact mem_kept.mpr (by simp [idRows, rowsOf, modelsOf, modelOf, tableRecord_name])
    · simp [modelOf, tableRecord_aliases, ownerRow, strings, indexJson, Json.get, Json.ofOption,
        Json.asArray, Json.asStr]
    · intro other kept _
      have member := kept_mem kept
      have alone := mem_kept.mp kept
      simp only [modelsOf, List.filterMap_cons, List.filterMap_nil, List.mem_cons, List.not_mem_nil,
        or_false] at member
      rcases member with rfl | rfl | rfl
      · rfl
      · simp [idRows, rowsOf, modelsOf, modelOf, tableRecord_name] at alone
      · simp [idRows, rowsOf, modelsOf, modelOf, tableRecord_name] at alone
  · rintro ⟨model, same, alone⟩
    cases same
    simp [idRows, rowsOf, modelsOf, modelOf, tableRecord_name] at alone

def ownerText : String :=
  "\x7b\"currency\": \"USD\", \"schema\": \"cchp.pricing-table/v1\", \"version\": \"v1\", \"models\": [" ++
    "\x7b\"aliases\": [\"x\"], \"model_name\": \"a\", \"pricing\": [\x7b\"charges\": \x7b\"prompt\": " ++
    "\x7b\"price\": \"1\", \"unit\": \"per_M_tokens\"\x7d\x7d\x7d]\x7d]\x7d"

theorem ownerText_object : startsObject (utf8Bytes ownerText) = true := by decide +kernel

theorem ownerRow_settled : ∃ models failed,
    parse (tableCrates [ownerRow]) (utf8Bytes ownerText) = .ok ("v1", models, failed) ∧
      NamesSettled (documentRows (tableCrates [ownerRow]) (utf8Bytes ownerText)) models := by
  have rows : documentRows (tableCrates [ownerRow]) (utf8Bytes ownerText) =
      [⟨some (modelOf [ownerRow] "a" ownerRow), ["x"]⟩] := by
    rw [documentRows_table ownerText_object rfl]
    rfl
  have alone : idRows (documentRows (tableCrates [ownerRow]) (utf8Bytes ownerText)) "a" =
      [modelOf [ownerRow] "a" ownerRow] := by
    simp [rows, idRows, rowsOf, modelsOf, modelOf, tableRecord_name]
  have named : (modelOf [ownerRow] "a" ownerRow).modelName = "a" := tableRecord_name _ _ _ _
  have read : (tableCrates [ownerRow]).fromSlice (utf8Bytes ownerText) = .ok (namedTable [ownerRow]) := rfl
  obtain ⟨failed, parsed⟩ := parse_table ownerText_object read
    ⟨modelOf [ownerRow] "a" ownerRow, by rw [named, alone], by decide +kernel⟩
  refine ⟨_, failed, parsed, (parse_names_iff parsed).mpr ⟨?_, ?_⟩⟩
  · intro model single
    have member : model ∈ idRows (documentRows (tableCrates [ownerRow]) (utf8Bytes ownerText))
        model.modelName := by simp [single]
    have inside := (mem_rowsOf.mp member).1
    simp only [rows, modelsOf, List.filterMap_cons, List.filterMap_nil, List.mem_singleton] at inside
    rw [inside, named]
    decide
  · rintro name - - ⟨row, claims, unkept⟩
    have member := (List.mem_filter.mp claims).1
    rw [rows, List.mem_singleton] at member
    subst member
    exact absurd ⟨_, rfl, by rw [named]; exact alone⟩ unkept

end CodexGate.Pricing
