import Mathlib.Data.List.Basic

namespace CodexGate.Foundation

variable {ω σ κ : Type}

/-- A stage of a request: a query, a write that commits by itself where `ready`, or a cache emptied. -/
inductive Stage (ω σ κ : Type)
  | query (name : ω)
  | write (name : ω) (ready : σ → Bool) (change : σ → σ)
  | empty (cache : κ)

/-- `unseen` are the writes that have committed since a cache was emptied last. -/
structure Progress (ω σ κ : Type) where
  store : σ
  committed : List ω
  unseen : κ → List ω

namespace Stage

variable (fails : ω → Bool)

def stops (store : σ) : Stage ω σ κ → Bool
  | query name => fails name
  | write name ready _ => fails name || !ready store
  | empty _ => false

def writes : List (Stage ω σ κ) → List ω
  | [] => []
  | write name _ _ :: rest => name :: writes rest
  | query _ :: rest | empty _ :: rest => writes rest

def changed (store : σ) : Stage ω σ κ → σ
  | write _ _ change => change store
  | query _ | empty _ => store

def carry [DecidableEq κ] (progress : Progress ω σ κ) : Stage ω σ κ → Progress ω σ κ
  | query _ => progress
  | write name _ change =>
    { store := change progress.store
      committed := progress.committed ++ [name]
      unseen := fun cache => progress.unseen cache ++ [name] }
  | empty emptied =>
    { progress with
      unseen := fun cache => if cache = emptied then [] else progress.unseen cache }

/-- The stages in turn up to the first that stops, and whether there was none. -/
def perform [DecidableEq κ] : List (Stage ω σ κ) → Progress ω σ κ → Progress ω σ κ × Bool
  | [], progress => (progress, true)
  | stage :: rest, progress =>
    if stage.stops fails progress.store then (progress, false)
    else perform rest (stage.carry progress)

def Steady (stages : List (Stage ω σ κ)) : Prop :=
  ∀ earlier ∈ stages, ∀ later ∈ stages, ∀ (fails : ω → Bool) (store : σ),
    later.stops fails (earlier.changed store) = later.stops fails store

def Keeps {ν : Type} (view : σ → ν) (stage : Stage ω σ κ) : Prop :=
  ∀ store, view (stage.changed store) = view store

def Looks {ν : Type} (view : σ → ν) (stage : Stage ω σ κ) : Prop :=
  ∀ (fails : ω → Bool) (store other : σ), view store = view other →
    stage.stops fails store = stage.stops fails other

def Writes (P : ω → Prop) : Stage ω σ κ → Prop
  | write name _ _ => P name
  | query _ | empty _ => True

def Empties (cache : κ) : Stage ω σ κ → Prop
  | empty emptied => emptied = cache
  | query _ | write _ _ _ => False

section Writes

@[simp] theorem writes_query (name : ω) (rest : List (Stage ω σ κ)) :
    writes (query name :: rest) = writes rest := rfl

@[simp] theorem writes_write (name : ω) (ready : σ → Bool) (change : σ → σ)
    (rest : List (Stage ω σ κ)) : writes (write name ready change :: rest) = name :: writes rest := rfl

@[simp] theorem writes_empty (cache : κ) (rest : List (Stage ω σ κ)) :
    writes (empty cache :: rest) = writes rest := rfl

theorem writes_append (stages later : List (Stage ω σ κ)) :
    writes (stages ++ later) = writes stages ++ writes later := by
  induction stages with
  | nil => rfl
  | cons stage rest ih => cases stage <;> simp [ih]

theorem writes_forall {P : ω → Prop} {stages : List (Stage ω σ κ)}
    (each : ∀ stage ∈ stages, stage.Writes P) : ∀ name ∈ writes stages, P name := by
  induction stages with
  | nil => exact fun name there => by cases there
  | cons stage rest ih =>
    have both := List.forall_mem_cons.mp each
    cases stage with
    | query name => exact ih both.2
    | write name ready change => exact List.forall_mem_cons.mpr ⟨both.1, ih both.2⟩
    | empty cache => exact ih both.2

end Writes

variable [DecidableEq κ] {fails}

theorem carry_store (progress : Progress ω σ κ) (stage : Stage ω σ κ) :
    (stage.carry progress).store = stage.changed progress.store := by
  cases stage <;> rfl

theorem carry_committed (progress : Progress ω σ κ) (stage : Stage ω σ κ) :
    (stage.carry progress).committed = progress.committed ++ writes [stage] := by
  cases stage <;> simp [carry, writes]

theorem carry_unseen {cache : κ} (progress : Progress ω σ κ) {stage : Stage ω σ κ}
    (kept : ¬ stage.Empties cache) :
    (stage.carry progress).unseen cache = progress.unseen cache ++ writes [stage] := by
  cases stage with
  | query name => simp [carry, writes]
  | write name ready change => rfl
  | empty emptied =>
    have other : cache ≠ emptied := fun same => kept same.symm
    simp [carry, writes, other]

theorem perform_cons {stage : Stage ω σ κ} {rest : List (Stage ω σ κ)} {progress : Progress ω σ κ}
    (goes : stage.stops fails progress.store = false) :
    perform fails (stage :: rest) progress = perform fails rest (stage.carry progress) := by
  simp [perform, goes]

theorem perform_stopped {stage : Stage ω σ κ} {rest : List (Stage ω σ κ)}
    {progress : Progress ω σ κ} (stops : stage.stops fails progress.store = true) :
    perform fails (stage :: rest) progress = (progress, false) := by
  simp [perform, stops]

theorem perform_done {stages : List (Stage ω σ κ)} {progress after : Progress ω σ κ}
    (done : perform fails stages progress = (after, true)) :
    after.store = stages.foldl changed progress.store ∧
      after.committed = progress.committed ++ writes stages := by
  induction stages generalizing progress with
  | nil =>
    cases done
    exact ⟨rfl, (List.append_nil _).symm⟩
  | cons stage rest ih =>
    cases goes : stage.stops fails progress.store with
    | true =>
      rw [perform_stopped goes] at done
      cases done
    | false =>
      rw [perform_cons goes] at done
      have rest_done := ih done
      rw [carry_store, carry_committed] at rest_done
      refine ⟨rest_done.1, ?_⟩
      rw [rest_done.2, List.append_assoc, ← writes_append, List.singleton_append]

theorem perform_append (stages later : List (Stage ω σ κ)) (progress : Progress ω σ κ) :
    perform fails (stages ++ later) progress =
      if (perform fails stages progress).2 then perform fails later (perform fails stages progress).1
      else ((perform fails stages progress).1, false) := by
  induction stages generalizing progress with
  | nil => rfl
  | cons stage rest ih =>
    cases goes : stage.stops fails progress.store with
    | true => rw [List.cons_append, perform_stopped goes, perform_stopped goes]; rfl
    | false => rw [List.cons_append, perform_cons goes, perform_cons goes, ih]

theorem perform_unseen (fails : ω → Bool) {cache : κ} {stages : List (Stage ω σ κ)} (progress : Progress ω σ κ)
    (kept : ∀ stage ∈ stages, ¬ stage.Empties cache) :
    ∃ names, (perform fails stages progress).1.unseen cache = progress.unseen cache ++ names ∧
      (perform fails stages progress).1.committed = progress.committed ++ names := by
  induction stages generalizing progress with
  | nil => exact ⟨[], (List.append_nil _).symm, (List.append_nil _).symm⟩
  | cons stage rest ih =>
    have kept_rest : ∀ later ∈ rest, ¬ later.Empties cache := fun later there =>
      kept later (List.mem_cons_of_mem stage there)
    cases goes : stage.stops fails progress.store with
    | true =>
      rw [perform_stopped goes]
      exact ⟨[], (List.append_nil _).symm, (List.append_nil _).symm⟩
    | false =>
      rw [perform_cons goes]
      obtain ⟨names, unseen, committed⟩ := ih (stage.carry progress) kept_rest
      have kept_first := kept stage List.mem_cons_self
      rw [carry_unseen progress kept_first, List.append_assoc] at unseen
      rw [carry_committed, List.append_assoc] at committed
      exact ⟨writes [stage] ++ names, unseen, committed⟩

theorem mem_unseen {cache : κ} {name : ω} (stages : List (Stage ω σ κ))
    {progress : Progress ω σ κ}
    (unseen : name ∈ (perform fails stages progress).1.unseen cache) :
    name ∈ progress.unseen cache ∨ name ∈ writes stages := by
  induction stages generalizing progress with
  | nil => exact .inl unseen
  | cons stage rest ih =>
    cases goes : stage.stops fails progress.store with
    | true =>
      rw [perform_stopped goes] at unseen
      exact .inl unseen
    | false =>
      rw [perform_cons goes] at unseen
      have before := ih unseen
      cases stage with
      | query query_name => exact before
      | write write_name ready change =>
        simp only [carry, List.mem_append, List.mem_singleton] at before
        simp only [writes_write, List.mem_cons]
        tauto
      | empty emptied =>
        by_cases same : cache = emptied
        · simp only [carry, if_pos same, List.not_mem_nil, false_or] at before
          exact .inr before
        · simp only [carry, if_neg same] at before
          exact before

theorem unseen_emptied {cache : κ} {before after : List (Stage ω σ κ)} {progress : Progress ω σ κ}
    (last : writes after = [])
    (done : (perform fails (before ++ .empty cache :: after) progress).2 = true) :
    (perform fails (before ++ .empty cache :: after) progress).1.unseen cache = [] := by
  rw [perform_append] at done ⊢
  split at done
  · rename_i first_done
    rw [if_pos first_done, perform_cons rfl]
    apply List.eq_nil_iff_forall_not_mem.mpr
    intro name unseen
    rcases mem_unseen after unseen with there | there
    · simp [carry] at there
    · rw [last] at there
      cases there
  · cases done

/-- The first write of a request that stops on its way is still unseen by a cache that it would only
have emptied at its end. -/
theorem unseen_interrupted {cache : κ} {name : ω} {ready : σ → Bool} {change : σ → σ}
    {middle : List (Stage ω σ κ)} {progress : Progress ω σ κ}
    (kept : ∀ stage ∈ middle, ¬ stage.Empties cache)
    (goes : (write name ready change : Stage ω σ κ).stops fails progress.store = false)
    (stopped : (perform fails (write name ready change :: middle ++ [.empty cache]) progress).2 = false) :
    name ∈ (perform fails (write name ready change :: middle ++ [.empty cache]) progress).1.unseen
      cache := by
  rw [perform_append] at stopped ⊢
  split at stopped
  · cases stopped
  · rename_i interrupted
    rw [if_neg interrupted, perform_cons goes]
    obtain ⟨names, unseen, -⟩ :=
      perform_unseen fails (carry progress (write name ready change)) kept
    rw [unseen]
    apply List.mem_append_left
    exact List.mem_append_right _ (List.mem_singleton_self name)

omit [DecidableEq κ] in
/-- A request is steady if its stages look at a part of the store that its changes leave alone. -/
theorem Steady.of_view {ν : Type} {stages : List (Stage ω σ κ)} (view : σ → ν)
    (kept : ∀ stage ∈ stages, stage.Keeps view) (looks : ∀ stage ∈ stages, stage.Looks view) :
    Steady stages := fun earlier before later after fails store =>
  looks later after fails _ _ (kept earlier before store)

omit [DecidableEq κ] in
theorem Steady.tail {stage : Stage ω σ κ} {rest : List (Stage ω σ κ)}
    (steady : Steady (stage :: rest)) : Steady rest := fun earlier before later after =>
  steady earlier (List.mem_cons_of_mem stage before) later (List.mem_cons_of_mem stage after)

theorem perform_done_iff {stages : List (Stage ω σ κ)} (steady : Steady stages)
    (progress : Progress ω σ κ) :
    (perform fails stages progress).2 = true ↔
      ∀ stage ∈ stages, stage.stops fails progress.store = false := by
  induction stages generalizing progress with
  | nil => simp [perform]
  | cons stage rest ih =>
    cases goes : stage.stops fails progress.store with
    | true => simp [perform_stopped goes, goes]
    | false =>
      have same : ∀ later ∈ rest,
          later.stops fails (stage.carry progress).store = later.stops fails progress.store := by
        intro later there
        rw [carry_store]
        exact steady stage List.mem_cons_self later (List.mem_cons_of_mem stage there) fails _
      rw [perform_cons goes, ih steady.tail (stage.carry progress), List.forall_mem_cons]
      constructor
      · intro all
        exact ⟨goes, fun later there => same later there ▸ all later there⟩
      · intro all later there
        rw [same later there]
        exact all.2 later there

end Stage

end CodexGate.Foundation
