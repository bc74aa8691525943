import Mathlib.Data.Set.Defs
import Mathlib.Logic.Function.Basic

namespace CodexGate.Foundation

inductive Custodian (τ : Type)
  /-- It has not had the lease. -/
  | outside
  /-- It has the lease and will present the token. -/
  | presenting (token : τ)
  /-- It has the lease and the new token, which is not stored. -/
  | exchanged (token : τ)
  /-- It will not touch the token any more; the lease may still be its own. -/
  | past

/-- A stored token that is good for one exchange, and the lease under which parties `ι` take
turns in exchanging it. -/
structure Custody (ι τ : Type) where
  stored : τ
  spent : Set τ
  holder : Option ι
  role : ι → Custodian τ

namespace Custody

variable {ι τ : Type} [DecidableEq ι]

def turn (custody : Custody ι τ) (party : ι) (role : Custodian τ) : Custody ι τ :=
  { custody with role := Function.update custody.role party role }

/-- The steps in which the lease is taken only when it is free, and with the stored token. -/
inductive Step (custody : Custody ι τ) : Custody ι τ → Prop
  | idle : Step custody custody
  | take (party : ι) (outside : custody.role party = .outside)
      (free : ∀ other, custody.holder = some other → other = party) :
    Step custody { custody.turn party (.presenting custody.stored) with holder := some party }
  | exchange (party : ι) {token fresh : τ} {spent : Set τ}
      (presents : custody.role party = .presenting token) (unused : fresh ∉ spent) :
    Step custody { custody.turn party (.exchanged fresh) with spent := spent }
  | release (party : ι) {token : τ} (presents : custody.role party = .presenting token) :
    Step custody { custody.turn party .past with holder := none }
  | store (party : ι) {token : τ} (received : custody.role party = .exchanged token) :
    Step custody { custody.turn party .past with holder := none, stored := token }
  | abandon (party : ι) : Step custody (custody.turn party .past)

structure Sound (custody : Custody ι τ) : Prop where
  presenting : ∀ party token, custody.role party = .presenting token →
    custody.holder = some party ∧ token = custody.stored ∧ custody.stored ∉ custody.spent
  exchanged : ∀ party token, custody.role party = .exchanged token →
    custody.holder = some party ∧ token ∉ custody.spent
  outside : ∀ party, custody.role party = .outside → custody.holder ≠ some party
  free : custody.holder = none → custody.stored ∉ custody.spent

theorem turn_cases {custody : Custody ι τ} {party other : ι} {role found : Custodian τ}
    (held : (custody.turn party role).role other = found) :
    other = party ∧ role = found ∨ other ≠ party ∧ custody.role other = found := by
  have read : Function.update custody.role party role other = found := held
  by_cases same : other = party
  · subst same
    rw [Function.update_self] at read
    exact .inl ⟨rfl, read⟩
  · rw [Function.update_of_ne same] at read
    exact .inr ⟨same, read⟩

theorem turn_same {custody : Custody ι τ} {party : ι} {role : Custodian τ}
    (same : custody.role party = role) : custody.turn party role = custody := by
  unfold turn
  rw [← same, Function.update_eq_self]

omit [DecidableEq ι] in
theorem Sound.alone {custody : Custody ι τ} (sound : Sound custody) {party other : ι}
    (holds : custody.holder = some party) (apart : other ≠ party) :
    (∀ token, custody.role other ≠ .presenting token) ∧
      ∀ token, custody.role other ≠ .exchanged token := by
  refine ⟨fun token role => ?_, fun token role => ?_⟩
  · have same := (sound.presenting other token role).1
    rw [holds] at same
    exact apart (Option.some.inj same).symm
  · have same := (sound.exchanged other token role).1
    rw [holds] at same
    exact apart (Option.some.inj same).symm

theorem Sound.giveBack {custody : Custody ι τ} (sound : Sound custody) {party : ι}
    (holds : custody.holder = some party) {stored : τ} (unspent : stored ∉ custody.spent) :
    Sound { custody.turn party .past with holder := none, stored := stored } := by
  refine ⟨?_, ?_, fun _ _ held => absurd held (by simp), fun _ => unspent⟩
  · intro other token role
    obtain ⟨_, past⟩ | ⟨apart, role⟩ := turn_cases role
    · cases past
    · exact absurd role ((sound.alone holds apart).1 token)
  · intro other token role
    obtain ⟨_, past⟩ | ⟨apart, role⟩ := turn_cases role
    · cases past
    · exact absurd role ((sound.alone holds apart).2 token)

theorem Sound.abandon {custody : Custody ι τ} (sound : Sound custody) (party : ι) :
    Sound (custody.turn party .past) := by
  refine ⟨?_, ?_, ?_, sound.free⟩
  · intro other token role
    obtain ⟨_, past⟩ | ⟨_, role⟩ := turn_cases role
    · cases past
    · exact sound.presenting other token role
  · intro other token role
    obtain ⟨_, past⟩ | ⟨_, role⟩ := turn_cases role
    · cases past
    · exact sound.exchanged other token role
  · intro other role
    obtain ⟨_, past⟩ | ⟨_, role⟩ := turn_cases role
    · cases past
    · exact sound.outside other role

theorem Sound.step {custody after : Custody ι τ} (sound : Sound custody)
    (taken : Step custody after) : Sound after := by
  cases taken with
  | idle => exact sound
  | take party outside available =>
    have free : custody.holder = none := by
      cases holds : custody.holder with
      | none => rfl
      | some other =>
        have same := available other holds
        subst same
        exact absurd holds (sound.outside other outside)
    have nobody : ∀ other token, custody.role other ≠ .presenting token ∧
        custody.role other ≠ .exchanged token := by
      intro other token
      refine ⟨fun role => ?_, fun role => ?_⟩
      · have holds := (sound.presenting other token role).1
        rw [free] at holds
        cases holds
      · have holds := (sound.exchanged other token role).1
        rw [free] at holds
        cases holds
    refine ⟨?_, ?_, ?_, fun none => absurd none (by simp)⟩
    · intro other token role
      obtain ⟨same, taken⟩ | ⟨_, role⟩ := turn_cases role
      · cases taken
        exact ⟨congrArg some same.symm, rfl, sound.free free⟩
      · exact absurd role (nobody other token).1
    · intro other token role
      obtain ⟨_, taken⟩ | ⟨_, role⟩ := turn_cases role
      · cases taken
      · exact absurd role (nobody other token).2
    · intro other role
      obtain ⟨_, taken⟩ | ⟨apart, _⟩ := turn_cases role
      · cases taken
      · exact fun holds => apart (Option.some.inj holds).symm
  | exchange party presents unused =>
    obtain ⟨holds, same, unspent⟩ := sound.presenting party _ presents
    refine ⟨?_, ?_, ?_, fun none => absurd (holds.symm.trans none) (by simp)⟩
    · intro other token role
      obtain ⟨_, received⟩ | ⟨apart, role⟩ := turn_cases role
      · cases received
      · exact absurd role ((sound.alone holds apart).1 token)
    · intro other token role
      obtain ⟨same, received⟩ | ⟨apart, role⟩ := turn_cases role
      · cases received
        exact ⟨holds.trans (congrArg some same.symm), unused⟩
      · exact absurd role ((sound.alone holds apart).2 token)
    · intro other role
      obtain ⟨_, received⟩ | ⟨_, role⟩ := turn_cases role
      · cases received
      · exact sound.outside other role
  | release party presents =>
    obtain ⟨holds, _, unspent⟩ := sound.presenting party _ presents
    exact sound.giveBack holds unspent
  | store party received =>
    obtain ⟨holds, unspent⟩ := sound.exchanged party _ received
    exact sound.giveBack holds unspent
  | abandon party => exact sound.abandon party

end Custody

end CodexGate.Foundation
