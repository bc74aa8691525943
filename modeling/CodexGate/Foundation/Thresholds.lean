import CodexGate.Foundation.Machine
import CodexGate.Foundation.SortedMaps
import Mathlib.Logic.Function.Basic

/-! Values of several kinds, each of which holds above a threshold until a higher one sets it again. -/

namespace CodexGate.Foundation.Thresholds

variable {κ ν : Type} [DecidableEq κ]

structure Setting (κ ν : Type) where
  above : Int
  kind : κ
  value : ν

abbrev Table (κ ν : Type) := List (Int × (κ → Option ν))

def valueAt (table : Table κ ν) (threshold : Int) (kind : κ) : Option ν :=
  (table.lookup threshold).bind fun update => update kind

def set (table : Table κ ν) (setting : Setting κ ν) : Table κ ν :=
  let update := (table.lookup setting.above).getD fun _ => none
  SortedMaps.insert setting.above (Function.update update setting.kind (some setting.value)) table

def tableOf (settings : List (Setting κ ν)) : Table κ ν := settings.foldl set []

def lastAt (threshold : Int) (kind : κ) : List (Setting κ ν) → Option ν
  | [] => none
  | setting :: rest =>
    (lastAt threshold kind rest).or
      (if setting.above = threshold ∧ setting.kind = kind then some setting.value else none)

theorem valueAt_set (table : Table κ ν) (setting : Setting κ ν) (threshold : Int) (kind : κ) :
    valueAt (set table setting) threshold kind =
      if setting.above = threshold ∧ setting.kind = kind then some setting.value
      else valueAt table threshold kind := by
  unfold valueAt set
  by_cases here : setting.above = threshold
  · subst here
    rw [SortedMaps.lookup_insert_self, Option.bind_some]
    by_cases same : setting.kind = kind
    · subst same
      simp
    · rw [Function.update_of_ne (Ne.symm same), if_neg (fun both => same both.2)]
      cases table.lookup setting.above <;> rfl
  · rw [SortedMaps.lookup_insert_of_ne _ _ (Ne.symm here), if_neg (fun both => here both.1)]

theorem valueAt_foldl (settings : List (Setting κ ν)) (table : Table κ ν) (threshold : Int) (kind : κ) :
    valueAt (settings.foldl set table) threshold kind =
      (lastAt threshold kind settings).or (valueAt table threshold kind) := by
  induction settings generalizing table with
  | nil => rfl
  | cons setting rest ih =>
    rw [List.foldl_cons, ih, valueAt_set, lastAt, Option.or_assoc]
    split <;> simp

theorem valueAt_tableOf (settings : List (Setting κ ν)) (threshold : Int) (kind : κ) :
    valueAt (tableOf settings) threshold kind = lastAt threshold kind settings := by
  rw [tableOf, valueAt_foldl]
  exact Option.or_none

theorem lastAt_eq_some {settings : List (Setting κ ν)} {threshold : Int} {kind : κ} {value : ν}
    (found : lastAt threshold kind settings = some value) : ⟨threshold, kind, value⟩ ∈ settings := by
  induction settings with
  | nil => cases found
  | cons setting rest ih =>
    rw [lastAt, Option.or_eq_some_iff] at found
    rcases found with later | ⟨-, here⟩
    · exact List.mem_cons_of_mem _ (ih later)
    · split at here
      · rename_i same
        obtain ⟨rfl, rfl⟩ := same
        cases here
        exact List.mem_cons_self
      · cases here

theorem lastAt_isSome {settings : List (Setting κ ν)} {setting : Setting κ ν}
    (member : setting ∈ settings) : (lastAt setting.above setting.kind settings).isSome = true := by
  induction settings with
  | nil => cases member
  | cons first rest ih =>
    rw [lastAt, Option.isSome_or]
    rcases List.mem_cons.mp member with rfl | later
    · simp
    · simp [ih later]

theorem lastAt_of_mem {settings : List (Setting κ ν)} {setting : Setting κ ν}
    (member : setting ∈ settings)
    (alone : ∀ other ∈ settings, other.above = setting.above → other.kind = setting.kind →
      other.value = setting.value) :
    lastAt setting.above setting.kind settings = some setting.value := by
  obtain ⟨value, found⟩ := Option.isSome_iff_exists.mp (lastAt_isSome member)
  have same : value = setting.value := alone _ (lastAt_eq_some found) rfl rfl
  rw [found, same]

theorem increasing_tableOf (settings : List (Setting κ ν)) : SortedMaps.Increasing (tableOf settings) := by
  have kept : ∀ table : Table κ ν, SortedMaps.Increasing table →
      SortedMaps.Increasing (settings.foldl set table) := by
    induction settings with
    | nil => exact fun table increasing => increasing
    | cons setting rest ih => exact fun table increasing => ih _ (increasing.insert _ _)
  exact kept [] .nil

theorem lookup_isSome_foldl (settings : List (Setting κ ν)) (table : Table κ ν) (threshold : Int) :
    ((settings.foldl set table).lookup threshold).isSome = true ↔
      (∃ setting ∈ settings, setting.above = threshold) ∨ (table.lookup threshold).isSome = true := by
  induction settings generalizing table with
  | nil => simp
  | cons setting rest ih =>
    rw [List.foldl_cons, ih]
    by_cases here : setting.above = threshold
    · subst here
      simp [set, SortedMaps.lookup_insert_self]
    · rw [set, SortedMaps.lookup_insert_of_ne _ _ (Ne.symm here)]
      simp [here]

theorem mem_tableOf_keys (settings : List (Setting κ ν)) (threshold : Int) :
    threshold ∈ (tableOf settings).map (·.1) ↔ ∃ setting ∈ settings, setting.above = threshold := by
  have found := lookup_isSome_foldl settings [] threshold
  simp only [List.lookup_nil, Option.isSome_none, Bool.false_eq_true, or_false] at found
  rw [← found]
  constructor
  · intro member
    obtain ⟨⟨key, update⟩, there, rfl⟩ := List.mem_map.mp member
    have looked := (increasing_tableOf settings).lookup_of_mem there
    exact Option.isSome_iff_exists.mpr ⟨update, looked⟩
  · intro found
    obtain ⟨update, looked⟩ := Option.isSome_iff_exists.mp found
    exact List.mem_map_of_mem (SortedMaps.mem_of_lookup looked)

theorem length_tableOf_le (settings : List (Setting κ ν)) : (tableOf settings).length ≤ settings.length := by
  have grown : ∀ table : Table κ ν,
      (settings.foldl set table).length ≤ table.length + settings.length := by
    induction settings with
    | nil => simp
    | cons setting rest ih =>
      intro table
      have first : (set table setting).length ≤ table.length + 1 := SortedMaps.length_insert_le _ _ _
      have later := ih (set table setting)
      rw [List.foldl_cons, List.length_cons]
      omega
  simpa [tableOf] using grown []

def readSettings {ε ρ : Type} (read : ρ → Except ε (Option (Setting κ ν))) (items : List ρ) :
    List (Setting κ ν) := items.filterMap fun item => (read item).toOption.join

omit [DecidableEq κ] in
theorem mem_readSettings {ε ρ : Type} {read : ρ → Except ε (Option (Setting κ ν))} {items : List ρ}
    {setting : Setting κ ν} :
    setting ∈ readSettings read items ↔ ∃ item ∈ items, read item = .ok (some setting) := by
  rw [readSettings, List.mem_filterMap]
  apply exists_congr
  intro item
  cases read item <;> simp [Except.toOption]

/-- A loop that reads a setting out of each item, or none, and keeps a table with what else it counts. -/
theorem foldlM_settings {ε ρ σ : Type} {read : ρ → Except ε (Option (Setting κ ν))}
    {step : σ → ρ → Except ε σ} (tableIn : σ → Table κ ν)
    (each : ∀ state item table, (∃ next, step state item = .ok next ∧ tableIn next = table) ↔
      ∃ setting, read item = .ok setting ∧ table = setting.toList.foldl set (tableIn state))
    {items : List ρ} {state : σ} {table : Table κ ν} :
    (∃ final, items.foldlM step state = .ok final ∧ tableIn final = table) ↔
      (∀ item ∈ items, ∃ setting, read item = .ok setting) ∧
        table = (readSettings read items).foldl set (tableIn state) := by
  induction items generalizing state with
  | nil =>
    constructor
    · rintro ⟨final, looped, rfl⟩
      cases looped
      exact ⟨by simp, rfl⟩
    · rintro ⟨-, rfl⟩
      exact ⟨state, rfl, rfl⟩
  | cons item rest ih =>
    have whole : ∀ setting, read item = .ok setting → ∀ table, (readSettings read (item :: rest)).foldl set table =
        (readSettings read rest).foldl set (setting.toList.foldl set table) := by
      intro setting here table
      rw [readSettings, List.filterMap_cons, here]
      cases setting <;> rfl
    rw [List.foldlM_cons, List.forall_mem_cons]
    constructor
    · rintro ⟨final, looped, rfl⟩
      obtain ⟨next, first, later⟩ := bind_eq_ok.mp looped
      obtain ⟨setting, here, kept⟩ := (each state item _).mp ⟨next, first, rfl⟩
      obtain ⟨others, same⟩ := ih.mp ⟨final, later, rfl⟩
      exact ⟨⟨⟨setting, here⟩, others⟩, by rw [same, kept, whole setting here]⟩
    · rintro ⟨⟨⟨setting, here⟩, others⟩, rfl⟩
      obtain ⟨next, first, kept⟩ := (each state item _).mpr ⟨setting, here, rfl⟩
      obtain ⟨final, looped, same⟩ := ih.mpr ⟨others, by rw [whole setting here, kept]⟩
      exact ⟨final, bind_eq_ok.mpr ⟨next, first, looped⟩, same⟩

def overlay (current update : κ → Option ν) : κ → Option ν := fun kind => (update kind).or (current kind)

def inherit (current : κ → Option ν) : Table κ ν → Table κ ν
  | [] => []
  | (threshold, update) :: rest =>
    (threshold, overlay current update) :: inherit (overlay current update) rest

omit [DecidableEq κ] in
@[simp] theorem inherit_keys (current : κ → Option ν) (table : Table κ ν) :
    (inherit current table).map (·.1) = table.map (·.1) := by
  induction table generalizing current with
  | nil => rfl
  | cons entry rest ih => simp [inherit, ih]

/-- What holds for a number: what is set by the highest threshold below it that sets anything, or the
base. -/
def Holds (base : Option ν) (content : Int → Option ν) (number : Int) (value : Option ν) : Prop :=
  (∃ threshold < number, content threshold = value ∧ value ≠ none ∧
      ∀ other, threshold < other → other < number → content other = none) ∨
    ((∀ threshold < number, content threshold = none) ∧ value = base)

namespace Holds

variable {base : Option ν} {content : Int → Option ν} {number more : Int} {value other : Option ν}

omit [DecidableEq κ] in
theorem unique (holds : Holds base content number value) (also : Holds base content number other) :
    value = other := by
  rcases holds with ⟨threshold, below, here, set, above⟩ | ⟨none, rfl⟩
  · rcases also with ⟨threshold', below', here', set', above'⟩ | ⟨none', -⟩
    · rcases Int.lt_trichotomy threshold threshold' with lt | rfl | gt
      · rw [← here', above threshold' lt below'] at set'
        exact absurd rfl set'
      · rw [← here, here']
      · rw [← here, above' threshold gt below] at set
        exact absurd rfl set
    · rw [← here, none' threshold below] at set
      exact absurd rfl set
  · rcases also with ⟨threshold', below', here', set', -⟩ | ⟨-, rfl⟩
    · rw [← here', none threshold' below'] at set'
      exact absurd rfl set'
    · rfl

omit [DecidableEq κ] in
theorem extend (holds : Holds base content number value) (le : number ≤ more)
    (quiet : ∀ threshold, number ≤ threshold → threshold < more → content threshold = none) :
    Holds base content more value := by
  rcases holds with ⟨threshold, below, here, set, above⟩ | ⟨none, same⟩
  · refine .inl ⟨threshold, by omega, here, set, fun other after before => ?_⟩
    rcases lt_or_ge other number with early | late
    · exact above other after early
    · exact quiet other late before
  · refine .inr ⟨fun threshold before => ?_, same⟩
    rcases lt_or_ge threshold number with early | late
    · exact none threshold early
    · exact quiet threshold late before

end Holds

omit [DecidableEq κ] in
theorem valueAt_eq_none {table : Table κ ν} {threshold : Int} (missing : threshold ∉ table.map (·.1))
    (kind : κ) : valueAt table threshold kind = none := by
  have unset : table.lookup threshold = none := by
    rw [List.lookup_eq_none_iff]
    intro entry member
    have apart : threshold ≠ entry.1 := fun same => missing (same ▸ List.mem_map_of_mem member)
    simpa using apart
  rw [valueAt, unset]
  rfl

omit [DecidableEq κ] in
theorem valueAt_cons_of_ne {entry : Int × (κ → Option ν)} {table : Table κ ν} {threshold : Int}
    (apart : threshold ≠ entry.1) (kind : κ) :
    valueAt (entry :: table) threshold kind = valueAt table threshold kind := by
  have missed : (threshold == entry.1) = false := by simpa using apart
  rw [valueAt, List.lookup_cons, missed]
  rfl

omit [DecidableEq κ] in
theorem inherit_holds {table : Table κ ν} (increasing : SortedMaps.Increasing table)
    {base : κ → Option ν} {threshold : Int} {values : κ → Option ν}
    (member : (threshold, values) ∈ inherit base table) (kind : κ) :
    Holds (base kind) (fun t => valueAt table t kind) (threshold + 1) (values kind) := by
  induction table generalizing base with
  | nil => cases member
  | cons entry rest ih =>
    obtain ⟨first, update⟩ := entry
    have here : valueAt ((first, update) :: rest) first kind = update kind := by
      simp [valueAt]
    have before : ∀ t < first, valueAt ((first, update) :: rest) t kind = none := by
      intro t lower
      apply valueAt_eq_none
      intro member
      obtain ⟨entry, there, rfl⟩ := List.mem_map.mp member
      rcases List.mem_cons.mp there with rfl | later
      · exact lt_irrefl _ lower
      · exact absurd (increasing.head later) (by simpa using lower.le)
    rcases List.mem_cons.mp member with same | later
    · cases same
      unfold overlay
      cases set : update kind with
      | none =>
        refine .inr ⟨fun t lower => ?_, by simp⟩
        rcases eq_or_lt_of_le (Int.lt_add_one_iff.mp lower) with rfl | lower
        · exact here.trans set
        · exact before t lower
      | some value =>
        refine .inl ⟨threshold, by omega, here.trans (by simp [set]), by simp, fun t above below => ?_⟩
        omega
    · have beyond : first < threshold := by
        have key : threshold ∈ (inherit (overlay base update) rest).map (·.1) :=
          List.mem_map_of_mem later
        rw [inherit_keys] at key
        obtain ⟨entry, there, rfl⟩ := List.mem_map.mp key
        exact increasing.head there
      -- What the rest sets is what the whole sets above the first threshold.
      have quiet : ∀ t ≤ first, valueAt rest t kind = none := by
        intro t lower
        apply valueAt_eq_none
        intro member
        obtain ⟨entry, there, rfl⟩ := List.mem_map.mp member
        exact absurd (increasing.head there) (by simpa using lower)
      rcases ih increasing.tail later with ⟨t, below, set, some, above⟩ | ⟨none, inherited⟩
      · have after : first < t := by
          by_contra le
          exact some (set.symm.trans (quiet t (by omega)))
        refine .inl ⟨t, below, ?_, some, fun other gt lt => ?_⟩
        · exact (valueAt_cons_of_ne (by simpa using after.ne') kind).trans set
        · exact (valueAt_cons_of_ne (by simpa using (after.trans gt).ne') kind).trans (above other gt lt)
      · have unset : ∀ t < threshold + 1, first < t → valueAt ((first, update) :: rest) t kind = .none := by
          intro t lt after
          rw [valueAt_cons_of_ne (by simpa using after.ne')]
          exact none t lt
        rw [inherited]
        unfold overlay
        cases set : update kind with
        | none =>
          refine .inr ⟨fun t lt => ?_, by simp⟩
          rcases Int.lt_trichotomy t first with lower | rfl | upper
          · exact before t lower
          · exact here.trans set
          · exact unset t lt upper
        | some value =>
          exact .inl ⟨first, by omega, here.trans (by simp [set]), by simp, fun t gt lt => unset t lt gt⟩

def inForce (base : κ → Option ν) : Table κ ν → Int → κ → Option ν
  | [], _ => base
  | (threshold, values) :: rest, number =>
    if threshold < number then inForce values rest number else base

omit [DecidableEq κ] in
theorem inForce_eq {base : κ → Option ν} {table : Table κ ν} (increasing : SortedMaps.Increasing table)
    (number : Int) :
    inForce base table number = base ∧ (∀ entry ∈ table, number ≤ entry.1) ∨
      ∃ entry ∈ table, inForce base table number = entry.2 ∧ entry.1 < number ∧
        ∀ other ∈ table, other.1 < number → other.1 ≤ entry.1 := by
  induction table generalizing base with
  | nil => exact .inl ⟨rfl, by simp⟩
  | cons first rest ih =>
    rw [inForce]
    split
    · rename_i below
      right
      rcases @ih first.2 increasing.tail with ⟨same, above⟩ | ⟨entry, member, same, lower, largest⟩
      · refine ⟨first, List.mem_cons_self, same, below, fun other member under => ?_⟩
        rcases List.mem_cons.mp member with rfl | later
        · exact le_refl _
        · exact absurd (above other later) (by omega)
      · refine ⟨entry, List.mem_cons_of_mem _ member, same, lower, fun other there under => ?_⟩
        rcases List.mem_cons.mp there with rfl | later
        · exact (increasing.head member).le
        · exact largest other later under
    · rename_i above
      refine .inl ⟨rfl, fun entry member => ?_⟩
      rcases List.mem_cons.mp member with rfl | later
      · exact not_lt.mp above
      · exact (not_lt.mp above).trans (increasing.head later).le

omit [DecidableEq κ] in
theorem inherit_increasing {table : Table κ ν} (increasing : SortedMaps.Increasing table)
    (base : κ → Option ν) : SortedMaps.Increasing (inherit base table) := by
  have keys := List.pairwise_map.mpr increasing
  rw [← inherit_keys base] at keys
  exact List.pairwise_map.mp keys

omit [DecidableEq κ] in
theorem inForce_holds {table : Table κ ν} (increasing : SortedMaps.Increasing table) (base : κ → Option ν)
    (number : Int) (kind : κ) :
    Holds (base kind) (fun threshold => valueAt table threshold kind) number
      (inForce base (inherit base table) number kind) := by
  have keyed : ∀ threshold, valueAt table threshold kind ≠ none →
      ∃ entry ∈ inherit base table, entry.1 = threshold := by
    intro threshold set
    by_contra missing
    apply set
    apply valueAt_eq_none
    rw [← inherit_keys base]
    intro member
    obtain ⟨entry, there, same⟩ := List.mem_map.mp member
    exact missing ⟨entry, there, same⟩
  rcases inForce_eq (inherit_increasing increasing base) number with
    ⟨same, above⟩ | ⟨entry, member, same, below, largest⟩
  · rw [same]
    refine .inr ⟨fun threshold lower => ?_, rfl⟩
    by_contra set
    obtain ⟨entry, there, rfl⟩ := keyed threshold set
    exact absurd (above entry there) (by omega)
  · rw [same]
    apply (inherit_holds increasing member kind).extend
    · omega
    · intro threshold after before
      by_contra set
      obtain ⟨other, there, rfl⟩ := keyed threshold set
      have le := largest other there before
      omega

omit [DecidableEq κ] in
theorem inForce_of_le {base : κ → Option ν} {table : Table κ ν} {number : Int}
    (above : ∀ entry ∈ table, number ≤ entry.1) : inForce base table number = base := by
  cases table with
  | nil => rfl
  | cons first rest => exact if_neg (not_lt.mpr (above first List.mem_cons_self))

omit [DecidableEq κ] in
/-- Tables have the same entries, as far as values are told apart, exactly if they have the same
thresholds and the same holds for every number. -/
theorem forall₂_inForce {W : Type} (shown : Option ν → W) {table other : Table κ ν}
    (increasing : SortedMaps.Increasing table) (also : SortedMaps.Increasing other)
    {base otherBase : κ → Option ν} (based : ∀ kind, shown (base kind) = shown (otherBase kind)) :
    List.Forall₂ (fun left right => left.1 = right.1 ∧ ∀ kind, shown (left.2 kind) = shown (right.2 kind))
        table other ↔
      table.map (·.1) = other.map (·.1) ∧ ∀ number kind,
        shown (inForce base table number kind) = shown (inForce otherBase other number kind) := by
  induction table generalizing other base otherBase with
  | nil =>
    cases other with
    | nil => simpa [inForce] using based
    | cons right others => exact ⟨nofun, fun same => by simp at same⟩
  | cons left rest ih =>
    cases other with
    | nil => exact ⟨nofun, fun same => by simp at same⟩
    | cons right others =>
      rw [List.forall₂_cons, List.map_cons, List.map_cons, List.cons.injEq]
      constructor
      · rintro ⟨⟨keys, values⟩, later⟩
        obtain ⟨restKeys, restValues⟩ := (ih increasing.tail also.tail values).mp later
        refine ⟨⟨keys, restKeys⟩, fun number kind => ?_⟩
        rw [inForce, inForce, ← keys]
        split
        · exact restValues number kind
        · exact based kind
      · rintro ⟨⟨keys, restKeys⟩, values⟩
        -- Just above the first threshold nothing later counts yet.
        have first : ∀ kind, shown (left.2 kind) = shown (right.2 kind) := by
          intro kind
          have just := values (left.1 + 1) kind
          rw [inForce, inForce, ← keys, if_pos (by omega), if_pos (by omega)] at just
          rw [inForce_of_le, inForce_of_le] at just
          · exact just
          · intro entry member
            have rises := also.head member
            omega
          · intro entry member
            have rises := increasing.head member
            omega
        refine ⟨⟨keys, first⟩, (ih increasing.tail also.tail first).mpr ⟨restKeys, fun number kind => ?_⟩⟩
        rcases lt_or_ge left.1 number with beyond | within
        · have there := values number kind
          rw [inForce, inForce, ← keys, if_pos beyond, if_pos beyond] at there
          exact there
        · rw [inForce_of_le, inForce_of_le]
          · exact first kind
          · intro entry member
            have rises := also.head member
            omega
          · intro entry member
            have rises := increasing.head member
            omega

end CodexGate.Foundation.Thresholds
