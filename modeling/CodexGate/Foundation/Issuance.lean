import Mathlib.Logic.Function.Basic

namespace CodexGate.Foundation

/-- Tokens that are issued to parties `ι`, each of them to be stored in place of the one before. -/
structure Issuance (ι τ : Type) where
  stored : τ
  pending : ι → Option τ
  /-- Every token that was ever issued or stored. -/
  known : List τ

namespace Issuance

variable {ι τ : Type} [DecidableEq ι]

/-- No token is issued twice. -/
inductive Step (issuance : Issuance ι τ) : Issuance ι τ → Prop
  | issue (party : ι) {token : τ} (fresh : token ∉ issuance.known) :
    Step issuance
      { issuance with
        pending := Function.update issuance.pending party (some token)
        known := token :: issuance.known }
  | store (party : ι) {token : τ} (received : issuance.pending party = some token) :
    Step issuance
      { issuance with
        stored := token
        pending := Function.update issuance.pending party none }
  | discard (party : ι) :
    Step issuance { issuance with pending := Function.update issuance.pending party none }

structure Sound (issuance : Issuance ι τ) : Prop where
  stored : issuance.stored ∈ issuance.known
  pending : ∀ party token, issuance.pending party = some token →
    token ∈ issuance.known ∧ token ≠ issuance.stored
  apart : ∀ party other token, issuance.pending party = some token →
    issuance.pending other = some token → party = other

structure Settled (issuance : Issuance ι τ) (token : τ) : Prop where
  known : token ∈ issuance.known
  unpending : ∀ party, issuance.pending party ≠ some token

variable {issuance after : Issuance ι τ} {party other : ι} {token : τ}

theorem update_cases {pending : ι → Option τ} {change : Option τ}
    (held : Function.update pending party change other = some token) :
    other = party ∧ change = some token ∨ other ≠ party ∧ pending other = some token := by
  by_cases same : other = party
  · subst same
    rw [Function.update_self] at held
    exact .inl ⟨rfl, held⟩
  · rw [Function.update_of_ne same] at held
    exact .inr ⟨same, held⟩

theorem update_none {pending : ι → Option τ}
    (held : Function.update pending party none other = some token) :
    other ≠ party ∧ pending other = some token := by
  rcases update_cases held with ⟨-, none⟩ | there
  · cases none
  · exact there

theorem Sound.step (sound : issuance.Sound) (taken : Step issuance after) : after.Sound := by
  cases taken with
  | issue party fresh =>
    refine ⟨List.mem_cons_of_mem _ sound.stored, ?_, ?_⟩
    · intro other token held
      rcases update_cases held with ⟨-, issued⟩ | ⟨-, held⟩
      · cases issued
        refine ⟨.head _, fun same => ?_⟩
        rw [show _ = issuance.stored from same] at fresh
        exact fresh sound.stored
      · exact ⟨List.mem_cons_of_mem _ (sound.pending other token held).1, (sound.pending other token held).2⟩
    · intro first second token here there
      rcases update_cases here with ⟨rfl, issued⟩ | ⟨-, here⟩
      · rcases update_cases there with ⟨rfl, -⟩ | ⟨-, there⟩
        · rfl
        · cases issued
          exact absurd (sound.pending second _ there).1 fresh
      · rcases update_cases there with ⟨-, issued⟩ | ⟨-, there⟩
        · cases issued
          exact absurd (sound.pending first _ here).1 fresh
        · exact sound.apart first second token here there
  | store party received =>
    refine ⟨(sound.pending party _ received).1, ?_, ?_⟩
    · intro other token held
      obtain ⟨apart, pends⟩ := update_none held
      refine ⟨(sound.pending other token pends).1, fun same => ?_⟩
      rw [show token = _ from same] at pends
      exact apart (sound.apart other party _ pends received)
    · intro first second token here there
      exact sound.apart first second token (update_none here).2 (update_none there).2
  | discard party =>
    refine ⟨sound.stored, ?_, ?_⟩
    · exact fun other token held => sound.pending other token (update_none held).2
    · exact fun first second token here there =>
        sound.apart first second token (update_none here).2 (update_none there).2

omit [DecidableEq ι] in
theorem Sound.settled (sound : issuance.Sound) : issuance.Settled issuance.stored where
  known := sound.stored
  unpending party held := (sound.pending party _ held).2 rfl

theorem Settled.step (settled : issuance.Settled token) (taken : Step issuance after) :
    after.Settled token := by
  cases taken with
  | issue party fresh =>
    refine ⟨List.mem_cons_of_mem _ settled.known, fun other held => ?_⟩
    rcases update_cases held with ⟨-, issued⟩ | ⟨-, held⟩
    · cases issued
      exact fresh settled.known
    · exact settled.unpending other held
  | store party received =>
    exact ⟨settled.known, fun other held => settled.unpending other (update_none held).2⟩
  | discard party =>
    exact ⟨settled.known, fun other held => settled.unpending other (update_none held).2⟩

theorem Settled.replaced (settled : issuance.Settled token) (taken : Step issuance after)
    (replaced : issuance.stored ≠ token) : after.stored ≠ token := by
  cases taken with
  | issue party fresh => exact replaced
  | store party received =>
    rintro rfl
    exact settled.unpending party received
  | discard party => exact replaced

end Issuance

end CodexGate.Foundation
