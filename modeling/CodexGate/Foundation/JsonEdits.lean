import CodexGate.Foundation.Json

/-! Values that are put at a path of an object, or removed from it. -/

namespace CodexGate.Foundation.Json

open SortedMaps

structure Edit where
  path : List String
  value : Option Json

def put (key : String) : Option Json → List (String × Json) → List (String × Json)
  | some value, members => SortedMaps.insert key value members
  | none, members => SortedMaps.remove key members

def isObject : Option Json → Bool
  | some (.object _) => true
  | _ => false

def readAt : List String → Option Json → Option Json
  | [], value => value
  | key :: rest, value => readAt rest ((entries value).lookup key)

/-- What is in the way of a value becomes an object; a removal leaves it. -/
def editAt : List String → Option Json → Option Json → Option Json
  | [], value, _ => value
  | key :: rest, value, old =>
    if value.isNone && !isObject old then old
    else some (.object (put key (editAt rest value ((entries old).lookup key)) (entries old)))

def editAll (edits : List Edit) (old : Option Json) : Option Json :=
  edits.foldl (fun old edit => editAt edit.path edit.value old) old

def under (key : String) (edits : List Edit) : List Edit :=
  edits.filterMap fun edit =>
    match edit.path with
    | [] => none
    | first :: rest => if first = key then some ⟨rest, edit.value⟩ else none

section Put

variable {key other : String} {members : List (String × Json)}

theorem lookup_put_self (key : String) (value : Option Json) (members : List (String × Json)) :
    (put key value members).lookup key = value := by
  cases value with
  | some value => exact lookup_insert_self key value members
  | none => exact lookup_remove_self key members

theorem lookup_put_of_ne (value : Option Json) (members : List (String × Json))
    (apart : other ≠ key) : (put key value members).lookup other = members.lookup other := by
  cases value with
  | some value => exact lookup_insert_of_ne value members apart
  | none => exact lookup_remove_of_ne members apart

theorem Increasing.put (increasing : Increasing members) (key : String) (value : Option Json) :
    Increasing (put key value members) := by
  cases value with
  | some value => exact increasing.insert key value
  | none => exact increasing.remove key

theorem put_lookup (increasing : Increasing members) (key : String) :
    put key (members.lookup key) members = members := by
  refine (Increasing.put increasing key _).ext increasing fun other => ?_
  by_cases same : other = key
  · rw [same, lookup_put_self]
  · rw [lookup_put_of_ne _ _ same]

end Put

section Edits

variable {edits : List Edit} {old : Option Json}

theorem editAt_cons (key : String) (rest : List String) (value old : Option Json) :
    editAt (key :: rest) value old =
      if value.isNone && !isObject old then old
      else some (.object (put key (editAt rest value ((entries old).lookup key)) (entries old))) :=
  rfl

theorem entries_editAt (key : String) (rest : List String) (value old : Option Json) :
    editAt (key :: rest) value old = old ∧ value = none ∧ isObject old = false ∨
      editAt (key :: rest) value old =
        some (.object (put key (editAt rest value ((entries old).lookup key)) (entries old))) := by
  rw [editAt_cons]
  split
  · rename_i left
    obtain ⟨gone, other⟩ := Bool.and_eq_true_iff.mp left
    exact .inl ⟨rfl, Option.isNone_iff_eq_none.mp gone, by simpa using other⟩
  · exact .inr rfl

theorem readAt_editAt_self (path : List String) (value : Json) (old : Option Json) :
    readAt path (editAt path (some value) old) = some value := by
  induction path generalizing old with
  | nil => rfl
  | cons key rest ih =>
    rcases entries_editAt key rest (some value) old with ⟨-, absurd_, -⟩ | edited
    · cases absurd_
    · rw [edited, readAt]
      show readAt rest ((put key _ (entries old)).lookup key) = _
      rw [lookup_put_self]
      exact ih _

def Apart (path other : List String) : Prop := ¬ path <+: other ∧ ¬ other <+: path

theorem Apart.tail {key : String} {path other : List String}
    (apart : Apart (key :: path) (key :: other)) : Apart path other :=
  ⟨fun before => apart.1 (List.cons_prefix_cons.mpr ⟨rfl, before⟩),
    fun before => apart.2 (List.cons_prefix_cons.mpr ⟨rfl, before⟩)⟩

theorem readAt_editAt_of_apart {path other : List String} (apart : Apart path other)
    (value old : Option Json) : readAt path (editAt other value old) = readAt path old := by
  induction other generalizing path old with
  | nil => exact absurd (List.nil_prefix) apart.2
  | cons key rest ih =>
    cases path with
    | nil => exact absurd (List.nil_prefix) apart.1
    | cons first path =>
      rcases entries_editAt key rest value old with ⟨left, -, -⟩ | edited
      · rw [left]
      · rw [edited, readAt, readAt]
        show readAt path ((put key _ (entries old)).lookup first) = _
        by_cases same : first = key
        · subst same
          rw [lookup_put_self]
          exact ih apart.tail _
        · rw [lookup_put_of_ne _ _ same]

/-- The value put last at a path is there, when nothing on the way to it or below it is edited
later. -/
theorem readAt_editAll (before : List Edit) {path : List String} {value : Json}
    {after : List Edit} (apart : ∀ later ∈ after, Apart path later.path) (old : Option Json) :
    readAt path (editAll (before ++ ⟨path, some value⟩ :: after) old) = some value := by
  have kept : ∀ held, readAt path held = some value →
      readAt path (editAll after held) = some value := by
    intro held there
    induction after generalizing held with
    | nil => exact there
    | cons edit rest ih =>
      refine ih (fun later member => apart later (List.mem_cons_of_mem _ member)) _ ?_
      rw [readAt_editAt_of_apart (apart edit List.mem_cons_self)]
      exact there
  unfold editAll
  rw [List.foldl_append]
  exact kept _ (readAt_editAt_self path value _)

theorem editAll_const (whole : ∃ edit ∈ edits, edit.path = []) (old other : Option Json) :
    editAll edits old = editAll edits other := by
  induction edits generalizing old other with
  | nil =>
    obtain ⟨edit, member, -⟩ := whole
    cases member
  | cons first rest ih =>
    by_cases here : first.path = []
    · unfold editAll
      rw [List.foldl_cons, List.foldl_cons, here]
      rfl
    · obtain ⟨edit, member, is⟩ := whole
      rcases List.mem_cons.mp member with rfl | member
      · exact absurd is here
      · exact ih ⟨edit, member, is⟩ _ _

theorem under_cons_self (key : String) (path : List String) (value : Option Json)
    (rest : List Edit) : under key (⟨key :: path, value⟩ :: rest) = ⟨path, value⟩ :: under key rest := by
  simp [under]

theorem under_cons_of_ne {key first : String} (path : List String) (value : Option Json)
    (rest : List Edit) (apart : first ≠ key) :
    under key (⟨first :: path, value⟩ :: rest) = under key rest := by
  simp [under, apart]

theorem editAll_object (inner : ∀ edit ∈ edits, edit.path ≠ []) {members : List (String × Json)}
    (increasing : Increasing members) :
    ∃ after, editAll edits (some (.object members)) = some (.object after) ∧ Increasing after ∧
      ∀ key, after.lookup key = editAll (under key edits) (members.lookup key) := by
  induction edits generalizing members with
  | nil => exact ⟨members, rfl, increasing, fun _ => rfl⟩
  | cons edit rest ih =>
    obtain ⟨path, value⟩ := edit
    cases path with
    | nil => exact absurd rfl (inner ⟨[], value⟩ List.mem_cons_self)
    | cons first path =>
      have one : editAt (first :: path) value (some (.object members)) =
          some (.object (put first (editAt path value (members.lookup first)) members)) := by
        rw [editAt_cons]
        rw [if_neg (by simp [isObject])]
        rfl
      obtain ⟨after, all, ordered, each⟩ := ih
        (fun edit member => inner edit (List.mem_cons_of_mem _ member))
        (Increasing.put increasing first (editAt path value (members.lookup first)))
      refine ⟨after, ?_, ordered, fun key => ?_⟩
      · unfold editAll at all ⊢
        rw [List.foldl_cons, one]
        exact all
      · rw [each key]
        by_cases same : first = key
        · subst same
          rw [lookup_put_self, under_cons_self]
          rfl
        · rw [lookup_put_of_ne _ _ (Ne.symm same), under_cons_of_ne _ _ _ same]

theorem editAt_empty (path : List String) (value : Option Json) (gone : value = none) :
    editAt path value none = none := by
  subst gone
  cases path <;> rfl

theorem editAll_other (inner : ∀ edit ∈ edits, edit.path ≠ []) (other : isObject old = false) :
    editAll edits old = old ∨ editAll edits old = editAll edits (some (.object [])) := by
  induction edits with
  | nil => exact .inl rfl
  | cons edit rest ih =>
    obtain ⟨path, value⟩ := edit
    have none_there : entries old = [] := by
      cases old with
      | none => rfl
      | some value => cases value <;> first | rfl | cases other
    cases path with
    | nil => exact absurd rfl (inner ⟨[], value⟩ List.mem_cons_self)
    | cons first path =>
      cases value with
      | some value =>
        refine .inr ?_
        have same : editAt (first :: path) (some value) old =
            editAt (first :: path) (some value) (some (.object [])) := by
          rw [editAt_cons, editAt_cons, none_there]
          rfl
        unfold editAll
        rw [List.foldl_cons, List.foldl_cons, same]
      | none =>
        have left : editAt (first :: path) none old = old := by
          rw [editAt_cons]
          rw [if_pos (by simp [other])]
        have empty : editAt (first :: path) none (some (.object [])) = some (.object []) := by
          rw [editAt_cons]
          rw [if_neg (by simp [isObject])]
          show some (Json.object (put first (editAt path none none) [])) = _
          rw [editAt_empty path none rfl]
          rfl
        unfold editAll at ih ⊢
        rw [List.foldl_cons, List.foldl_cons, left, empty]
        exact ih fun edit member => inner edit (List.mem_cons_of_mem _ member)

def Proper (value : Option Json) : Prop := ∀ held, value = some held → held.Ordered

theorem Proper.lookup {members : List (String × Json)} (ordered : (Json.object members).Ordered)
    (key : String) : Proper (members.lookup key) :=
  fun _ found => ordered.get found

theorem ordered_object {members : List (String × Json)} (increasing : Increasing members)
    (each : ∀ key, Proper (members.lookup key)) : (Json.object members).Ordered :=
  .object increasing fun member inside =>
    each member.1 member.2 (increasing.lookup_of_mem inside)

theorem Proper.edit {path : List String} {value : Option Json} (new : Proper value)
    (proper : Proper old) : Proper (editAt path value old) := by
  induction path generalizing old with
  | nil => exact new
  | cons key rest ih =>
    rcases entries_editAt key rest value old with ⟨left, -, -⟩ | edited
    · rw [left]
      exact proper
    have inside : (Json.object (entries old)).Ordered := by
      cases old with
      | none => exact .object List.Pairwise.nil fun member there => by cases there
      | some held =>
        cases held with
        | object members => exact proper _ rfl
        | _ => exact .object List.Pairwise.nil fun member there => by cases there
    rw [edited]
    rintro held ⟨⟩
    refine ordered_object (Increasing.put inside.increasing key _) fun other => ?_
    by_cases same : other = key
    · rw [same, lookup_put_self]
      exact ih (.lookup inside key)
    · rw [lookup_put_of_ne _ _ same]
      exact .lookup inside other

theorem Proper.editAll (new : ∀ edit ∈ edits, Proper edit.value) (proper : Proper old) :
    Proper (editAll edits old) := by
  induction edits generalizing old with
  | nil => exact proper
  | cons edit rest ih =>
    have first : Proper (editAt edit.path edit.value old) :=
      (new edit List.mem_cons_self).edit proper
    exact ih (fun edit member => new edit (List.mem_cons_of_mem _ member)) first

theorem mem_under {key : String} {edit : Edit} (member : edit ∈ under key edits) :
    ⟨key :: edit.path, edit.value⟩ ∈ edits := by
  obtain ⟨⟨path, value⟩, inside, found⟩ := List.mem_filterMap.mp member
  cases path with
  | nil => cases found
  | cons first rest =>
    dsimp only at found
    split at found
    · rename_i same
      cases found
      rw [← same]
      exact inside
    · cases found

/-- The induction is on how deep the edits reach: an edit of the whole decides alone, and otherwise
each member is edited by itself. -/
theorem editAll_editAll_bounded (depth : Nat) (short : ∀ edit ∈ edits, edit.path.length ≤ depth)
    (new : ∀ edit ∈ edits, Proper edit.value) (proper : Proper old) :
    editAll edits (editAll edits old) = editAll edits old := by
  induction depth generalizing edits old with
  | zero =>
    cases edits with
    | nil => rfl
    | cons edit rest =>
      have whole : edit.path = [] :=
        List.eq_nil_of_length_eq_zero (Nat.le_zero.mp (short edit List.mem_cons_self))
      exact editAll_const ⟨edit, List.mem_cons_self, whole⟩ _ _
  | succ depth ih =>
    by_cases whole : ∃ edit ∈ edits, edit.path = []
    · exact editAll_const whole _ _
    have inner : ∀ edit ∈ edits, edit.path ≠ [] := fun edit member is => whole ⟨edit, member, is⟩
    have object : ∀ members, (Json.object members).Ordered →
        editAll edits (editAll edits (some (.object members))) =
          editAll edits (some (.object members)) := by
      intro members ordered
      obtain ⟨after, once, increasing, each⟩ := editAll_object inner ordered.increasing
      obtain ⟨again, twice, increasing', each'⟩ := editAll_object inner increasing
      rw [once, twice]
      have same : again = after := by
        refine increasing'.ext increasing fun key => ?_
        rw [each' key, each key]
        refine ih ?_ ?_ (.lookup ordered key)
        · intro edit member
          have long := short _ (mem_under member)
          simpa using long
        · exact fun edit member => new ⟨key :: edit.path, edit.value⟩ (mem_under member)
      rw [same]
    cases is : isObject old with
    | true =>
      unfold isObject at is
      split at is
      · rename_i members
        exact object members (proper _ rfl)
      · cases is
    | false =>
      rcases editAll_other inner is with left | made
      · rw [left, left]
      · rw [made]
        exact object [] (.object List.Pairwise.nil fun member there => by cases there)

theorem exists_depth (edits : List Edit) : ∃ depth, ∀ edit ∈ edits, edit.path.length ≤ depth := by
  induction edits with
  | nil => exact ⟨0, fun edit member => by cases member⟩
  | cons first rest ih =>
    obtain ⟨depth, short⟩ := ih
    refine ⟨max first.path.length depth, fun edit member => ?_⟩
    rcases List.mem_cons.mp member with rfl | member
    · exact le_max_left _ _
    · exact (short edit member).trans (le_max_right _ _)

theorem editAll_editAll (new : ∀ edit ∈ edits, Proper edit.value) (proper : Proper old) :
    editAll edits (editAll edits old) = editAll edits old := by
  obtain ⟨depth, short⟩ := exists_depth edits
  exact editAll_editAll_bounded depth short new proper

end Edits

end CodexGate.Foundation.Json
