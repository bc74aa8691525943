import Mathlib.Order.Bounds.Basic
import Mathlib.Order.MinMax

namespace CodexGate.Foundation

section Deadlines

variable {α : Type} [LinearOrder α]

def Passed (deadline : Option α) (time : α) : Prop := ∀ moment ∈ deadline, moment ≤ time

instance (deadline : Option α) (time : α) : Decidable (Passed deadline time) :=
  inferInstanceAs (Decidable (∀ moment ∈ deadline, moment ≤ time))

@[simp] theorem passed_none (time : α) : Passed none time := by
  intro moment none
  cases none

@[simp] theorem passed_some {moment time : α} : Passed (some moment) time ↔ moment ≤ time := by
  simp [Passed]

theorem Passed.mono {deadline : Option α} {time later : α} (passed : Passed deadline time)
    (order : time ≤ later) : Passed deadline later :=
  fun moment present => (passed moment present).trans order

theorem passed_filter {deadline : Option α} {now time : α} (later : now ≤ time) :
    Passed (deadline.filter (now < ·)) time ↔ Passed deadline time := by
  cases deadline with
  | none => rfl
  | some moment =>
    by_cases ahead : now < moment
    · simp [Option.filter, ahead]
    · simp [Option.filter, ahead, (not_lt.mp ahead).trans later]

def latest (deadlines : List (Option α)) : Option α := (deadlines.filterMap id).max?

theorem passed_max {moments : List α} {time : α} :
    Passed moments.max? time ↔ ∀ moment ∈ moments, moment ≤ time := by
  cases last : moments.max? with
  | none =>
    rw [List.max?_eq_none_iff] at last
    subst last
    simp
  | some moment =>
    rw [passed_some]
    exact List.max?_le_iff last

theorem passed_latest {deadlines : List (Option α)} {time : α} :
    Passed (latest deadlines) time ↔ ∀ deadline ∈ deadlines, Passed deadline time := by
  rw [latest, passed_max]
  constructor
  · intro passed deadline member moment present
    exact passed moment (List.mem_filterMap.mpr ⟨deadline, member, present⟩)
  · intro passed moment member
    obtain ⟨deadline, member, present⟩ := List.mem_filterMap.mp member
    exact passed deadline member moment present

theorem latest_isSome {deadlines : List (Option α)} {moment : α}
    (member : some moment ∈ deadlines) : ∃ last, latest deadlines = some last := by
  have present : moment ∈ deadlines.filterMap id :=
    List.mem_filterMap.mpr ⟨some moment, member, rfl⟩
  exact Option.isSome_iff_exists.mp (List.isSome_max?_of_mem present)

theorem latest_reached_iff {deadlines : List (Option α)} {moment time : α}
    (member : some moment ∈ deadlines) : (∃ last ∈ latest deadlines, last ≤ time) ↔
      ∀ deadline ∈ deadlines, Passed deadline time := by
  obtain ⟨last, isLast⟩ := latest_isSome member
  rw [← passed_latest, isLast, passed_some]
  simp

theorem exists_passed [NoMaxOrder α] (now : α) (deadlines : List (Option α)) :
    ∃ time, now < time ∧ ∀ deadline ∈ deadlines, Passed deadline time := by
  obtain ⟨last, isLast⟩ := latest_isSome (List.mem_cons_self (a := some now) (l := deadlines))
  obtain ⟨time, later⟩ := exists_gt last
  have passed := passed_latest.mp (isLast ▸ passed_some.mpr later.le)
  have reached : now ≤ last :=
    passed_some.mp (passed_latest.mp (isLast ▸ passed_some.mpr (le_refl last)) _
      List.mem_cons_self)
  exact ⟨time, reached.trans_lt later, fun deadline member =>
    passed deadline (List.mem_cons_of_mem _ member)⟩

theorem isLeast_reached {moments : List α} {first : α} (found : moments.min? = some first) :
    IsLeast {time | ∃ moment ∈ moments, moment ≤ time} first := by
  rw [List.min?_eq_some_iff] at found
  refine ⟨⟨first, found.1, le_refl first⟩, ?_⟩
  rintro time ⟨moment, member, reached⟩
  exact (found.2 moment member).trans reached

def FirstAfter (now : α) (holds : α → Prop) : Option α → Prop
  | some first => IsLeast {time | now < time ∧ holds time} first
  | none => ∀ time, now < time → ¬holds time

theorem firstAfter_congr {now : α} {holds other : α → Prop} (answer : Option α)
    (agree : ∀ time, now < time → (holds time ↔ other time)) :
    FirstAfter now holds answer ↔ FirstAfter now other answer := by
  cases answer with
  | none => exact forall₂_congr fun time later => not_congr (agree time later)
  | some first =>
    have same : {time | now < time ∧ holds time} = {time | now < time ∧ other time} :=
      Set.ext fun time => and_congr_right (agree time)
    unfold FirstAfter
    rw [same]

/-- The first of several moments, if it is still to come, is when a condition first holds: one of
    them has been reached whenever the condition holds, or it never does and none is to come. -/
theorem firstAfter_min_iff {now : α} {holds : α → Prop} {moments : List α}
    (lasts : ∀ {time later}, holds time → time ≤ later → holds later) (notYet : ¬holds now) :
    FirstAfter now holds (moments.min?.filter (now < ·)) ↔
      (∃ time, now < time ∧ holds time) ∧
          (∀ time, now ≤ time → ((∃ moment ∈ moments, moment ≤ time) ↔ holds time)) ∨
        (∀ time, now < time → ¬holds time) ∧ (moments = [] ∨ ∃ moment ∈ moments, moment ≤ now) := by
  cases found : moments.min? with
  | none =>
    rw [List.min?_eq_none_iff] at found
    subst found
    simp only [Option.filter_none, FirstAfter, List.not_mem_nil, false_and, exists_false, false_iff,
      true_or, and_true]
    constructor
    · exact Or.inr
    · rintro (⟨⟨time, ahead, held⟩, agree⟩ | never)
      · exact absurd held (agree time ahead.le)
      · exact never
  | some first =>
    obtain ⟨reached, least⟩ := isLeast_reached found
    have nonempty : moments ≠ [] := by
      rintro rfl
      cases found
    by_cases ahead : now < first
    · have unreached : ¬∃ moment ∈ moments, moment ≤ now :=
        fun reached => not_lt.mpr (least reached) ahead
      simp only [Option.filter, ahead, decide_true, if_true, FirstAfter, nonempty, unreached,
        or_self, and_false, or_false]
      constructor
      · rintro ⟨⟨_, held⟩, earliest⟩
        refine ⟨⟨first, ahead, held⟩, fun time later => ⟨fun reached => ?_, fun holding => ?_⟩⟩
        · exact lasts held (least reached)
        · rcases later.lt_or_eq with later | same
          · obtain ⟨moment, member, before⟩ := reached
            exact ⟨moment, member, before.trans (earliest ⟨later, holding⟩)⟩
          · exact absurd (same ▸ holding) notYet
      · rintro ⟨_, agree⟩
        refine ⟨⟨ahead, (agree first ahead.le).mp reached⟩, ?_⟩
        rintro time ⟨later, holding⟩
        exact least ((agree time later.le).mpr holding)
    · have past : ∃ moment ∈ moments, moment ≤ now := by
        obtain ⟨moment, member, before⟩ := reached
        exact ⟨moment, member, before.trans (not_lt.mp ahead)⟩
      simp only [Option.filter, ahead, decide_false, Bool.false_eq_true, if_false, FirstAfter, past,
        or_true, and_true]
      constructor
      · exact Or.inr
      · rintro (⟨_, agree⟩ | never)
        · exact absurd ((agree now (le_refl now)).mp past) notYet
        · exact never

end Deadlines

end CodexGate.Foundation
