import CodexGate.Pricing.Model

namespace CodexGate.Pricing

open Foundation

variable {Card : Type}

theorem PriceDb.view_append (db : PriceDb Card) (writes more : List (Write Card)) :
    db.view (writes ++ more) = (db.view writes).view more :=
  List.foldl_append

@[simp] theorem PriceDb.view_nil (db : PriceDb Card) : db.view [] = db := rfl

theorem PriceDb.view_cons (db : PriceDb Card) (write : Write Card) (writes : List (Write Card)) :
    db.view (write :: writes) = (write.apply db).view writes := rfl

theorem changes_append (writes more : List (Write Card)) :
    changes (writes ++ more) = changes writes ++ changes more :=
  List.filterMap_append

theorem PriceDb.view_prices (db : PriceDb Card) (writes : List (Write Card)) :
    (db.view writes).prices = (versioning Card).view (changes writes) db.prices := by
  induction writes generalizing db with
  | nil => rfl
  | cons write writes ih =>
    rw [view_cons, ih]
    cases write with
    | price | fence | withdraw | catalog | missing | advance => rfl

theorem PriceDb.view_control {writes : List (Write Card)} (db : PriceDb Card)
    (unlocked : writes.any Write.locksControl = false) :
    (db.view writes).control = db.control := by
  induction writes generalizing db with
  | nil => rfl
  | cons write writes ih =>
    obtain ⟨first, rest⟩ := Bool.or_eq_false_iff.mp unlocked
    rw [view_cons, ih _ rest]
    cases write with
    | price | withdraw | catalog | missing => rfl
    | fence | advance => cases first

def Write.advances : Write Card → Bool
  | .advance .. => true
  | _ => false

theorem PriceDb.view_generation {writes : List (Write Card)} (db : PriceDb Card)
    (same : writes.any Write.advances = false) :
    (db.view writes).control.catalogGeneration = db.control.catalogGeneration := by
  induction writes generalizing db with
  | nil => rfl
  | cons write writes ih =>
    obtain ⟨first, rest⟩ := Bool.or_eq_false_iff.mp same
    rw [view_cons, ih _ rest]
    cases write with
    | price | fence | withdraw | catalog | missing => rfl
    | advance => cases first

theorem compatible_of_not_clashes {row other : PriceRow Card} (apart : clashes row other = false) :
    (versioning Card).Compatible row other := by
  unfold clashes at apart
  simp only [Bool.or_eq_false_iff, decide_eq_false_iff_not] at apart
  refine ⟨apart.1, ?_⟩
  rintro ⟨active, otherActive, scope⟩
  have active : row.active = true := active
  have otherActive : other.active = true := otherActive
  have scope : row.scope = other.scope := scope
  have clash := apart.2
  rw [active, otherActive, scope] at clash
  simp at clash

def OneRow (writes : List (Write Card)) : Prop :=
  (∃ row, writes = [.price (.insert row)]) ∨ ∀ row, .price (.insert row) ∉ writes

theorem indexed_of_noInsert {writes : List (Write Card)} {db : PriceDb Card}
    (indexed : (versioning Card).Indexed db.prices)
    (none : ∀ row, .price (.insert row) ∉ writes) :
    (versioning Card).Indexed (db.view writes).prices := by
  induction writes generalizing db with
  | nil => exact indexed
  | cons write writes ih =>
    have rest : ∀ row, Write.price (.insert row) ∉ writes := fun row member =>
      none row (List.mem_cons_of_mem _ member)
    rw [PriceDb.view_cons]
    cases write with
    | price change =>
      cases change with
      | retire key => exact ih (indexed.retire key) rest
      | insert row => exact absurd (List.mem_cons_self ..) (none row)
    | fence | withdraw | catalog | missing | advance => exact ih indexed rest

theorem indexed_view {writes : List (Write Card)} {view : PriceDb Card}
    (indexed : (versioning Card).Indexed view.prices) (oneRow : OneRow writes)
    (fits : writes.any (Write.violates view) = false) :
    (versioning Card).Indexed (view.view writes).prices := by
  obtain ⟨row, is⟩ | none := oneRow
  · subst is
    refine indexed.insert fun other member => ?_
    simp only [List.any_cons, List.any_nil, Bool.or_false, Write.violates] at fits
    have apart := List.any_eq_false.mp fits other member
    exact (compatible_of_not_clashes (Bool.not_eq_true _ ▸ apart)).symm
  · exact indexed_of_noInsert indexed none

theorem inserted_append (writes more : List (Write Card)) :
    inserted (writes ++ more) = (versioning Card).view (changes more) (inserted writes) := by
  unfold inserted
  rw [changes_append]
  exact List.foldl_append

theorem inserted_of_noInsert {more : List (Write Card)}
    (none : ∀ row, .price (.insert row) ∉ more) (writes : List (Write Card)) :
    ∀ row ∈ inserted (writes ++ more), ∃ before ∈ inserted writes,
      (versioning Card).Same before row := by
  have empty : inserted more = [] := by
    unfold inserted
    induction more with
    | nil => rfl
    | cons write more ih =>
      have rest : ∀ row, Write.price (.insert row) ∉ more := fun row member =>
        none row (List.mem_cons_of_mem _ member)
      cases write with
      | price change =>
        cases change with
        | retire key => exact ih rest
        | insert row => exact absurd (List.mem_cons_self ..) (none row)
      | fence | withdraw | catalog | missing | advance => exact ih rest
  intro row member
  rw [inserted_append, Versioning.view_eq] at member
  unfold inserted at empty
  rw [empty, List.append_nil] at member
  obtain ⟨before, inside, is⟩ := List.mem_map.mp member
  rw [← is]
  exact ⟨before, inside, Versioning.retiring_same _ before⟩

/-- Two open transactions whose writes the locks and the indexes let stand together. -/
structure Apart (writes other : List (Write Card)) : Prop where
  rows : ∀ row ∈ inserted writes, ∀ more ∈ inserted other,
    (versioning Card).Compatible row more
  control : writes.any Write.locksControl = true → other.any Write.locksControl = false

theorem Apart.symm {writes other : List (Write Card)} (apart : Apart writes other) :
    Apart other writes := by
  refine ⟨fun row member more there => (apart.rows more there row member).symm, ?_⟩
  intro locked
  cases mine : writes.any Write.locksControl with
  | false => rfl
  | true =>
    have free := apart.control mine
    rw [locked] at free
    cases free

theorem apart_nil (other : List (Write Card)) : Apart [] other :=
  ⟨fun _ member => absurd member List.not_mem_nil, fun locked => Bool.noConfusion locked⟩

theorem Apart.append {writes more : List (Write Card)} {other : Call Card}
    (apart : Apart writes other.writes) (oneRow : OneRow more)
    (free : more.any (Write.waitsFor other) = false) : Apart (writes ++ more) other.writes := by
  constructor
  · obtain ⟨new, is⟩ | none := oneRow
    · subst is
      simp only [List.any_cons, List.any_nil, Bool.or_false, Write.waitsFor] at free
      intro row member third there
      rw [inserted_append] at member
      obtain member | member := List.mem_append.mp member
      · exact apart.rows row member third there
      · rw [List.mem_singleton.mp member]
        have clash := List.any_eq_false.mp free third there
        exact compatible_of_not_clashes (Bool.not_eq_true _ ▸ clash)
    · intro row member third there
      obtain ⟨before, inside, same⟩ := inserted_of_noInsert none writes row member
      exact (apart.rows before inside third there).same same (.inl rfl)
  · intro locked
    rw [List.any_append, Bool.or_eq_true] at locked
    obtain locked | locked := locked
    · exact apart.control locked
    · obtain ⟨write, member, locks⟩ := List.any_eq_true.mp locked
      have waits := List.any_eq_false.mp free write member
      cases write with
      | fence | advance =>
        simpa only [Write.waitsFor, Bool.not_eq_true] using waits
      | price | withdraw | catalog | missing => cases locks

theorem Apart.commit {writes committed : List (Write Card)} {db : PriceDb Card}
    (apart : Apart writes committed)
    (mine : (versioning Card).Indexed (db.view writes).prices)
    (theirs : (versioning Card).Indexed (db.view committed).prices) :
    (versioning Card).Indexed ((db.view committed).view writes).prices := by
  rw [PriceDb.view_prices] at mine theirs
  rw [PriceDb.view_prices, PriceDb.view_prices]
  exact mine.commit theirs fun row member other there =>
    (apart.rows other there row member).symm

theorem view_prices_kept (db : PriceDb Card) (writes : List (Write Card)) :
    ∀ row ∈ db.prices, ∃ kept ∈ (db.view writes).prices, (versioning Card).Same row kept := by
  intro row member
  rw [PriceDb.view_prices]
  exact Versioning.view_kept (changes writes) member

end CodexGate.Pricing
