import CodexGate.Foundation.Execution
import Mathlib.Logic.Function.Basic

namespace CodexGate.Foundation.Merges

/-! Requests that copy a record, merge the fields which they name into the copy, and write it back. -/

structure Fields (ρ φ : Type) where
  Value : φ → Type
  get : ρ → ∀ field, Value field

namespace Fields

variable {ρ φ : Type} (fields : Fields ρ φ)

/-- The fields that a request names, with the values that it gives. -/
abbrev Naming := ∀ field, Option (fields.Value field)

end Fields

section

variable {ρ φ ε ω α ι : Type} [DecidableEq φ] (fields : Fields ρ φ)

/-- A copy of the record is merged, and a statement sets the columns of the fields `sets` to it. -/
structure Edit (named : fields.Naming) (ε α : Type) where
  sets : List φ
  prepare : ε → ρ → Except α ρ
  save : ρ → ρ → ρ
  merges : ∀ {env copy row}, prepare env copy = .ok row → ∀ stored field,
    fields.get (save row stored) field =
      if field ∈ sets then (named field).getD (fields.get copy field) else fields.get stored field

variable {fields}

def Edit.Total {named : fields.Naming} (edit : Edit fields named ε α) : Prop :=
  ∀ env copy, ∃ row, edit.prepare env copy = .ok row

inductive Part (named : fields.Naming) (ε ω α : Type)
  | edit (edit : Edit fields named ε α)
  | aside (statement : ω)

def Part.Total {named : fields.Naming} : Part named ε ω α → Prop
  | .edit merging => merging.Total
  | .aside _ => True

def Part.sets {named : fields.Naming} : Part named ε ω α → List φ
  | .edit merging => merging.sets
  | .aside _ => []

structure Request (named : fields.Naming) (ε ω α : Type) where
  first : Edit fields named ε α
  rest : List (Part named ε ω α)
  total : ∀ part ∈ rest, part.Total
  covers : ∀ field, named field ≠ none → ∃ part ∈ .edit first :: rest, field ∈ part.sets

inductive Progress (named : fields.Naming) (ε ω α : Type)
  | waiting (set : List φ) (parts : List (Part named ε ω α))
  | holding (set : List φ) (copy : ρ) (edit : Edit fields named ε α)
    (parts : List (Part named ε ω α))
  | ended (set : List φ) (refusal : Option α)

inductive Act (ε α : Type)
  | read
  | write (env : ε)
  | aside
  /-- The statement that comes next fails, and nothing is written by it. -/
  | fail (refusal : α)

namespace Progress

variable {named : fields.Naming}

def set : Progress named ε ω α → List φ
  | waiting set _ | holding set _ _ _ | ended set _ => set

def Succeeded : Progress named ε ω α → Prop
  | ended _ refusal => refusal = none
  | waiting _ _ | holding _ _ _ _ => False

def Ended : Progress named ε ω α → Prop
  | ended _ _ => True
  | waiting _ _ | holding _ _ _ _ => False

def start (request : Request named ε ω α) : Progress named ε ω α :=
  waiting [] (.edit request.first :: request.rest)

def after (set : List φ) : List (Part named ε ω α) → Progress named ε ω α
  | [] => ended set none
  | part :: parts => waiting set (part :: parts)

def act (stored : ρ) : Progress named ε ω α → Act ε α → Option (ρ × Progress named ε ω α)
  | waiting set (.edit edit :: parts), .read => some (stored, holding set stored edit parts)
  | waiting set (.aside _ :: parts), .aside => some (stored, after set parts)
  | holding set copy edit parts, .write env =>
    match edit.prepare env copy with
    | .error refusal => some (stored, ended set (some refusal))
    | .ok row => some (edit.save row stored, after (set ++ edit.sets) parts)
  | waiting set _, .fail refusal | holding set _ _ _, .fail refusal =>
    some (stored, ended set (some refusal))
  | _, _ => none

/-- A request writes back no field that it does not name and that has changed since it read the
record, and it does not fail once it has written. -/
def Heeds (stored : ρ) : Progress named ε ω α → Act ε α → Prop
  | holding _ copy edit _, .write env => ∀ row, edit.prepare env copy = .ok row →
    ∀ field ∈ edit.sets, named field = none → fields.get copy field = fields.get stored field
  | waiting set _, .fail _ | holding set _ _ _, .fail _ => set = []
  | _, _ => True

end Progress

structure Editing (naming : ι → fields.Naming) (ε ω α : Type) where
  stored : ρ
  requests : ∀ i, Progress (naming i) ε ω α

namespace Editing

variable {naming : ι → fields.Naming} [DecidableEq ι]

def start (initial : ρ) (requests : ∀ i, Request (naming i) ε ω α) : Editing naming ε ω α where
  stored := initial
  requests := fun i => .start (requests i)

def step (state : Editing naming ε ω α) : ι × Act ε α → Option (Editing naming ε ω α)
  | (i, act) => ((state.requests i).act state.stored act).map fun (stored, progress) =>
    { stored, requests := Function.update state.requests i progress }

abbrev Run (initial : ρ) (requests : ∀ i, Request (naming i) ε ω α) :
    List (Transition (Editing naming ε ω α) (ι × Act ε α)) → Editing naming ε ω α → Prop :=
  Execution (fun state action next => state.step action = some next) (start initial requests)

def Heeds (taken : Transition (Editing naming ε ω α) (ι × Act ε α)) : Prop :=
  (taken.before.requests taken.action.1).Heeds taken.before.stored taken.action.2

/-- No field is lost: it keeps its value unless a successful request names it, and then it has a
value that one of these gives it. -/
structure Merged (initial : ρ) (state : Editing naming ε ω α) : Prop where
  unnamed : ∀ field, (∀ i, (state.requests i).Succeeded → naming i field = none) →
    fields.get state.stored field = fields.get initial field
  named : ∀ field, (∃ i, (state.requests i).Succeeded ∧ naming i field ≠ none) →
    ∃ i, (state.requests i).Succeeded ∧ naming i field = some (fields.get state.stored field)

end Editing

namespace Progress

variable {named : fields.Naming}

def Covers (set : List φ) (parts : List (Part named ε ω α)) : Prop :=
  ∀ field, named field ≠ none → field ∈ set ∨ ∃ part ∈ parts, field ∈ part.sets

structure Going (set : List φ) (first : Part named ε ω α) (rest : List (Part named ε ω α)) :
    Prop where
  covers : Covers set (first :: rest)
  total : ∀ part ∈ rest, part.Total
  unwritten : set = [] ∨ first.Total

def Sound : Progress named ε ω α → Prop
  | waiting set parts => ∀ first rest, parts = first :: rest → Going set first rest
  | holding set _ edit parts => Going set (.edit edit) parts
  | ended set none => ∀ field, named field ≠ none → field ∈ set
  | ended set (some _) => set = []

theorem Sound.succeeded {progress : Progress named ε ω α} (sound : progress.Sound)
    (ended : progress.Ended) {field : φ} (member : field ∈ progress.set) : progress.Succeeded := by
  cases progress with
  | waiting set parts => exact ended.elim
  | holding set copy edit parts => exact ended.elim
  | ended set refusal =>
    cases refusal with
    | none => rfl
    | some refusal =>
      have nothing : set = [] := sound
      rw [Progress.set, nothing] at member
      exact absurd member List.not_mem_nil

theorem Sound.sets {progress : Progress named ε ω α} (sound : progress.Sound)
    (success : progress.Succeeded) {field : φ} (names : named field ≠ none) :
    field ∈ progress.set := by
  cases progress with
  | waiting set parts => exact success.elim
  | holding set copy edit parts => exact success.elim
  | ended set refusal =>
    cases success
    exact sound field names

theorem sound_start (request : Request named ε ω α) : (start request).Sound := by
  rintro first rest ⟨⟩
  exact ⟨fun field names => .inr (request.covers field names), request.total, .inl rfl⟩

inductive Taken (stored : ρ) : Progress named ε ω α → Act ε α → ρ → Progress named ε ω α → Prop
  | read {set edit parts} :
    Taken stored (waiting set (.edit edit :: parts)) .read stored (holding set stored edit parts)
  | aside {set statement parts} :
    Taken stored (waiting set (.aside statement :: parts)) .aside stored (after set parts)
  | written {set copy edit parts env row} (prepared : edit.prepare env copy = .ok row) :
    Taken stored (holding set copy edit parts) (.write env) (edit.save row stored)
      (after (set ++ edit.sets) parts)
  | refused {set copy edit parts env refusal} (prepared : edit.prepare env copy = .error refusal) :
    Taken stored (holding set copy edit parts) (.write env) stored (ended set (some refusal))
  | failedWaiting {set parts refusal} :
    Taken stored (waiting set parts) (.fail refusal) stored (ended set (some refusal))
  | failedHolding {set copy edit parts refusal} :
    Taken stored (holding set copy edit parts) (.fail refusal) stored (ended set (some refusal))

theorem act_taken {stored stored' : ρ} {progress progress' : Progress named ε ω α} {act : Act ε α}
    (taken : progress.act stored act = some (stored', progress')) :
    Taken stored progress act stored' progress' := by
  unfold Progress.act at taken
  split at taken
  · cases taken
    exact .read
  · cases taken
    exact .aside
  · split at taken
    next prepared =>
      cases taken
      exact .refused prepared
    next prepared =>
      cases taken
      exact .written prepared
  · cases taken
    exact .failedWaiting
  · cases taken
    exact .failedHolding
  · cases taken

theorem Going.after {set : List φ} {part : Part named ε ω α} {parts : List (Part named ε ω α)}
    (going : Going set part parts) : (Progress.after (set ++ part.sets) parts).Sound := by
  have covered : Covers (set ++ part.sets) parts := by
    intro field names
    rcases going.covers field names with before | ⟨by_, member, sets⟩
    · exact .inl (List.mem_append_left _ before)
    · rcases List.mem_cons.mp member with same | member
      · rw [same] at sets
        exact .inl (List.mem_append_right _ sets)
      · exact .inr ⟨by_, member, sets⟩
  cases parts with
  | nil =>
    intro field names
    rcases covered field names with member | ⟨_, member, _⟩
    · exact member
    · exact absurd member List.not_mem_nil
  | cons next rest =>
    rintro first others ⟨⟩
    have total := List.forall_mem_cons.mp going.total
    exact ⟨covered, total.2, .inr total.1⟩

theorem sound_taken {stored stored' : ρ} {progress progress' : Progress named ε ω α} {act : Act ε α}
    (sound : progress.Sound) (heeds : progress.Heeds stored act)
    (taken : Taken stored progress act stored' progress') : progress'.Sound := by
  cases taken with
  | read => exact sound _ _ rfl
  | aside =>
    have going := (sound _ _ rfl).after
    rwa [Part.sets, List.append_nil] at going
  | written => exact Going.after sound
  | refused prepared =>
    rcases sound.unwritten with nothing | total
    · exact nothing
    · obtain ⟨row, ready⟩ := total _ _
      rw [prepared] at ready
      cases ready
  | failedWaiting => exact heeds
  | failedHolding => exact heeds

theorem set_after (set : List φ) (parts : List (Part named ε ω α)) :
    (Progress.after set parts).set = set := by
  cases parts <;> rfl

theorem set_taken {stored stored' : ρ} {progress progress' : Progress named ε ω α} {act : Act ε α}
    (taken : Taken stored progress act stored' progress') : progress.set ⊆ progress'.set := by
  cases taken with
  | read | refused | failedWaiting | failedHolding => exact List.Subset.refl _
  | aside =>
    rw [set_after]
    exact List.Subset.refl _
  | written =>
    rw [set_after]
    exact List.subset_append_left _ _

theorem get_taken {stored stored' : ρ} {progress progress' : Progress named ε ω α} {act : Act ε α}
    (heeds : progress.Heeds stored act) (taken : Taken stored progress act stored' progress')
    (field : φ) :
    (fields.get stored' field = fields.get stored field ∧
        (field ∈ progress'.set → field ∈ progress.set ∨ named field = none)) ∨
      (field ∈ progress'.set ∧ named field = some (fields.get stored' field)) := by
  cases taken with
  | read | refused | failedWaiting | failedHolding => exact .inl ⟨rfl, .inl⟩
  | aside =>
    rw [set_after]
    exact .inl ⟨rfl, .inl⟩
  | @written set copy edit parts env row prepared =>
    rw [set_after]
    have merged := edit.merges prepared stored field
    by_cases sets : field ∈ edit.sets
    · rw [if_pos sets] at merged
      cases given : named field with
      | none =>
        rw [given, Option.getD_none] at merged
        have current := heeds row prepared field sets given
        exact .inl ⟨merged.trans current, fun _ => .inr rfl⟩
      | some value =>
        rw [given, Option.getD_some] at merged
        rw [merged]
        exact .inr ⟨List.mem_append_right _ sets, rfl⟩
    · rw [if_neg sets] at merged
      refine .inl ⟨merged, fun member => .inl ?_⟩
      exact (List.mem_append.mp member).resolve_right sets

end Progress

namespace Editing

variable {naming : ι → fields.Naming} [DecidableEq ι]

/-- Each field has its initial value, which no request has set, or one that a request has set. -/
structure Accounted (initial : ρ) (state : Editing naming ε ω α) : Prop where
  sound : ∀ i, (state.requests i).Sound
  fields : ∀ field,
    (fields.get state.stored field = fields.get initial field ∧
        ∀ i, field ∈ (state.requests i).set → naming i field = none) ∨
      ∃ i, field ∈ (state.requests i).set ∧ naming i field = some (fields.get state.stored field)

omit [DecidableEq ι] in
theorem accounted_start (initial : ρ) (requests : ∀ i, Request (naming i) ε ω α) :
    Accounted initial (start initial requests) := by
  constructor
  · intro i
    exact Progress.sound_start (requests i)
  · intro field
    refine .inl ⟨rfl, fun i member => ?_⟩
    exact absurd member List.not_mem_nil

theorem Accounted.step {initial : ρ} {state next : Editing naming ε ω α} {action : ι × Act ε α}
    (accounted : Accounted initial state) (heeds : Heeds ⟨state, action, next⟩)
    (taken : state.step action = some next) : Accounted initial next := by
  obtain ⟨i, act⟩ := action
  obtain ⟨⟨stored, progress⟩, acted, same⟩ := Option.map_eq_some_iff.mp taken
  have did := Progress.act_taken acted
  subst same
  have own : Function.update state.requests i progress i = progress := Function.update_self ..
  have others : ∀ j, j ≠ i → Function.update state.requests i progress j = state.requests j :=
    fun j other => Function.update_of_ne other _ _
  have grows : ∀ j, (state.requests j).set ⊆ (Function.update state.requests i progress j).set := by
    intro j
    by_cases here : j = i
    · subst here
      rw [own]
      exact Progress.set_taken did
    · rw [others j here]
      exact List.Subset.refl _
  constructor
  · intro j
    by_cases here : j = i
    · subst here
      show (Function.update state.requests j progress j).Sound
      rw [own]
      exact Progress.sound_taken (accounted.sound j) heeds did
    · show (Function.update state.requests i progress j).Sound
      rw [others j here]
      exact accounted.sound j
  · intro field
    rcases Progress.get_taken heeds did field with ⟨kept, sets⟩ | ⟨sets, gives⟩
    · rcases accounted.fields field with ⟨initially, nobody⟩ | ⟨j, before, gave⟩
      · refine .inl ⟨kept.trans initially, fun j member => ?_⟩
        change field ∈ (Function.update state.requests i progress j).set at member
        by_cases here : j = i
        · subst here
          rw [own] at member
          rcases sets member with before | unnamed
          · exact nobody j before
          · exact unnamed
        · rw [others j here] at member
          exact nobody j member
      · refine .inr ⟨j, grows j before, ?_⟩
        rw [gave]
        exact congrArg some kept.symm
    · refine .inr ⟨i, ?_, gives⟩
      show field ∈ (Function.update state.requests i progress i).set
      rw [own]
      exact sets

theorem Run.act {initial : ρ} {requests : ∀ i, Request (naming i) ε ω α}
    {history : List (Transition (Editing naming ε ω α) (ι × Act ε α))}
    {state next : Editing naming ε ω α} (run : Run initial requests history state)
    (action : ι × Act ε α) (taken : state.step action = some next) :
    Run initial requests (⟨state, action, next⟩ :: history) next :=
  Execution.next run taken

theorem Run.accounted {initial : ρ} {requests : ∀ i, Request (naming i) ε ω α}
    {history : List (Transition (Editing naming ε ω α) (ι × Act ε α))}
    {state : Editing naming ε ω α} (run : Run initial requests history state)
    (heeds : ∀ taken ∈ history, Heeds taken) : Accounted initial state := by
  induction run with
  | start => exact accounted_start initial requests
  | next run taken ih =>
    obtain ⟨now, before⟩ := List.forall_mem_cons.mp heeds
    exact (ih before).step now taken

omit [DecidableEq ι] in
theorem Accounted.merged {initial : ρ} {state : Editing naming ε ω α}
    (accounted : Accounted initial state) (ended : ∀ i, (state.requests i).Ended) :
    Merged initial state := by
  have succeeds : ∀ i field, field ∈ (state.requests i).set → (state.requests i).Succeeded :=
    fun i field member => (accounted.sound i).succeeded (ended i) member
  have sets : ∀ i field, (state.requests i).Succeeded → naming i field ≠ none →
      field ∈ (state.requests i).set :=
    fun i field success names => (accounted.sound i).sets success names
  constructor
  · intro field nobody
    rcases accounted.fields field with ⟨initially, _⟩ | ⟨i, member, gives⟩
    · exact initially
    · rw [nobody i (succeeds i field member)] at gives
      cases gives
  · rintro field ⟨i, success, names⟩
    rcases accounted.fields field with ⟨_, unset⟩ | ⟨j, member, gives⟩
    · exact absurd (unset i (sets i field success names)) names
    · exact ⟨j, succeeds j field member, gives⟩

end Editing

end

end CodexGate.Foundation.Merges
