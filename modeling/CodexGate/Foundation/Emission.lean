import Mathlib.Data.List.Basic

namespace CodexGate.Foundation

structure Emission (σ ε : Type) where
  events : List ε
  state : σ

namespace Emission

variable {σ ε α : Type}

def silent (s : σ) : Emission σ ε := ⟨[], s⟩

def andThen (first : Emission σ ε) (next : σ → Emission σ ε) : Emission σ ε :=
  ⟨first.events ++ (next first.state).events, (next first.state).state⟩

def forEach (step : σ → α → Emission σ ε) (s : σ) : List α → Emission σ ε
  | [] => silent s
  | item :: rest => (step s item).andThen fun s => forEach step s rest

def mapState (f : σ → σ) (e : Emission σ ε) : Emission σ ε := ⟨e.events, f e.state⟩

def unlessStopped (stop : σ → Bool) (step : σ → α → Emission σ ε) (s : σ) (item : α) :
    Emission σ ε :=
  if stop s then silent s else step s item

/-- `condition` holds of every item in the state the loop has reached when it comes to it. -/
def Along (step : σ → α → Emission σ ε) (condition : σ → α → Prop) (s : σ) : List α → Prop
  | [] => True
  | item :: rest => condition s item ∧ Along step condition (step s item).state rest

/-- The weakest precondition: `P` holds of the whole history once `e` is added to `past`. -/
def Reaches (e : Emission σ ε) (past : List ε) (P : List ε → σ → Prop) : Prop :=
  P (past ++ e.events) e.state

variable {P Q : List ε → σ → Prop} {past : List ε} {s : σ}

@[simp]
theorem silent_events (s : σ) : (silent s : Emission σ ε).events = [] := rfl

@[simp]
theorem silent_state (s : σ) : (silent s : Emission σ ε).state = s := rfl

@[simp]
theorem andThen_events (first : Emission σ ε) (next : σ → Emission σ ε) :
    (first.andThen next).events = first.events ++ (next first.state).events := rfl

@[simp]
theorem andThen_state (first : Emission σ ε) (next : σ → Emission σ ε) :
    (first.andThen next).state = (next first.state).state := rfl

@[simp]
theorem silent_andThen (s : σ) (next : σ → Emission σ ε) : (silent s).andThen next = next s := by
  simp [andThen]

theorem andThen_silent (first : Emission σ ε) : first.andThen silent = first := by
  simp [andThen]

theorem andThen_assoc (first : Emission σ ε) (next last : σ → Emission σ ε) :
    (first.andThen next).andThen last = first.andThen fun s => (next s).andThen last := by
  simp [andThen]

@[simp]
theorem forEach_nil (step : σ → α → Emission σ ε) (s : σ) : forEach step s [] = silent s := rfl

@[simp]
theorem forEach_cons (step : σ → α → Emission σ ε) (s : σ) (item : α) (rest : List α) :
    forEach step s (item :: rest) = (step s item).andThen fun s => forEach step s rest := rfl

theorem forEach_append (step : σ → α → Emission σ ε) (s : σ) (items more : List α) :
    forEach step s (items ++ more) =
      (forEach step s items).andThen fun s => forEach step s more := by
  induction items generalizing s with
  | nil => simp
  | cons item rest ih => simp only [List.cons_append, forEach_cons, ih, andThen_assoc]

theorem reaches_silent (holds : P past s) : (silent s).Reaches past P := by
  simpa [Reaches] using holds

theorem Reaches.andThen {first : Emission σ ε} {next : σ → Emission σ ε}
    (reached : first.Reaches past Q)
    (step : ∀ past s, Q past s → (next s).Reaches past P) :
    (first.andThen next).Reaches past P := by
  have holds := step _ _ reached
  simpa [Reaches, List.append_assoc] using holds

theorem Reaches.weaken {e : Emission σ ε} (reached : e.Reaches past Q)
    (weaker : ∀ past s, Q past s → P past s) : e.Reaches past P :=
  weaker _ _ reached

theorem reaches_forEach {step : σ → α → Emission σ ε} {items : List α}
    (keeps : ∀ past s item, item ∈ items → P past s → (step s item).Reaches past P)
    (holds : P past s) : (forEach step s items).Reaches past P := by
  induction items generalizing past s with
  | nil => exact reaches_silent holds
  | cons item rest ih =>
    have first := keeps past s item List.mem_cons_self holds
    apply Reaches.andThen first
    intro past s holds
    exact ih (fun past s item member => keeps past s item (List.mem_cons_of_mem _ member)) holds

theorem reaches_forEach_each {step : σ → α → Emission σ ε} {D : α → List ε → σ → Prop}
    {items : List α} (keeps : ∀ past s item, P past s → (step s item).Reaches past P)
    (does : ∀ past s item, P past s → (step s item).Reaches past (D item))
    (stays : ∀ past s item other, P past s → D other past s → (step s item).Reaches past (D other))
    (holds : P past s) :
    (forEach step s items).Reaches past fun past s => P past s ∧ ∀ item ∈ items, D item past s := by
  have extended : ∀ (handled rest : List α) past s, P past s → (∀ item ∈ handled, D item past s) →
      (forEach step s rest).Reaches past fun past s =>
        P past s ∧ ∀ item ∈ handled ++ rest, D item past s := by
    intro handled rest
    induction rest generalizing handled with
    | nil =>
      intro past s holds done
      rw [List.append_nil]
      exact reaches_silent ⟨holds, done⟩
    | cons item rest ih =>
      intro past s holds done
      rw [List.append_cons]
      have remaining := ih (handled ++ [item]) _ _ (keeps past s item holds) (by
        intro other member
        rcases List.mem_append.mp member with member | member
        · exact stays past s item other holds (done other member)
        · rw [List.mem_singleton.mp member]
          exact does past s item holds)
      simpa [Reaches, List.append_assoc] using remaining
  exact extended [] items past s holds fun item member => by cases member

theorem reaches_forEach_left {step : σ → α → Emission σ ε} {R : List α → List ε → σ → Prop}
    (does : ∀ item rest past s, R (item :: rest) past s → (step s item).Reaches past (R rest))
    {items : List α} (holds : R items past s) : (forEach step s items).Reaches past (R []) := by
  induction items generalizing past s with
  | nil => exact reaches_silent holds
  | cons item rest ih =>
    apply Reaches.andThen (does item rest past s holds)
    intro past s holds
    exact ih holds

theorem reaches_forEach_along {step : σ → α → Emission σ ε} {condition : σ → α → Prop}
    {items : List α}
    (keeps : ∀ past s item, P past s → condition s item → (step s item).Reaches past P)
    (along : Along step condition s items) (holds : P past s) :
    (forEach step s items).Reaches past P := by
  induction items generalizing past s with
  | nil => exact reaches_silent holds
  | cons item rest ih =>
    have first := keeps past s item holds along.1
    have remaining := ih along.2 first
    simpa [Reaches, List.append_assoc] using remaining

/-- Where every item that misses the condition spoils the history for good, a history that is
not spoilt comes from items that all met it. -/
theorem along_of_unspoilt {step : σ → α → Emission σ ε} {condition : σ → α → Prop}
    {Spoilt : List ε → Prop} {items : List α}
    (keeps : ∀ past s item, P past s → condition s item → (step s item).Reaches past P)
    (spoils : ∀ past s item, P past s → ¬condition s item → Spoilt (past ++ (step s item).events))
    (lasting : ∀ past more, Spoilt past → Spoilt (past ++ more))
    (holds : P past s) (unspoilt : ¬Spoilt (past ++ (forEach step s items).events)) :
    Along step condition s items := by
  induction items generalizing past s with
  | nil => trivial
  | cons item rest ih =>
    rw [forEach_cons, andThen_events, ← List.append_assoc] at unspoilt
    have met : condition s item := by
      by_contra missed
      exact unspoilt (lasting _ _ (spoils past s item holds missed))
    exact ⟨met, ih (keeps past s item holds met) unspoilt⟩

theorem mapState_andThen {f : σ → σ} {next : σ → Emission σ ε}
    (commutes : ∀ s, next (f s) = (next s).mapState f) (first : Emission σ ε) :
    (first.mapState f).andThen next = (first.andThen next).mapState f := by
  simp only [andThen, mapState, commutes]

theorem forEach_mapState {f : σ → σ} {step : σ → α → Emission σ ε}
    (commutes : ∀ s item, step (f s) item = (step s item).mapState f) (s : σ) (items : List α) :
    forEach step (f s) items = (forEach step s items).mapState f := by
  induction items generalizing s with
  | nil => rfl
  | cons item rest ih => rw [forEach_cons, forEach_cons, commutes, mapState_andThen ih]

theorem along_append {step : σ → α → Emission σ ε} {condition : σ → α → Prop} {s : σ}
    {items more : List α} :
    Along step condition s (items ++ more) ↔
      Along step condition s items ∧ Along step condition (forEach step s items).state more := by
  induction items generalizing s with
  | nil => simp [Along]
  | cons item rest ih => simp only [List.cons_append, Along, ih, forEach_cons, andThen_state, and_assoc]

theorem Along.of_forall {step : σ → α → Emission σ ε} {condition : σ → α → Prop}
    (holds : ∀ s item, condition s item) (s : σ) (items : List α) : Along step condition s items := by
  induction items generalizing s with
  | nil => trivial
  | cons item rest ih => exact ⟨holds s item, ih _⟩

theorem Along.imp {step : σ → α → Emission σ ε} {condition weaker : σ → α → Prop} {s : σ}
    {items : List α} (along : Along step condition s items)
    (implies : ∀ s item, condition s item → weaker s item) : Along step weaker s items := by
  induction items generalizing s with
  | nil => trivial
  | cons item rest ih => exact ⟨implies s item along.1, ih along.2⟩

section Stopped

variable {stop : σ → Bool} {step : σ → α → Emission σ ε}
  (lasting : ∀ s item, stop s = true → stop (step s item).state = true)

abbrev QuietOnceStopped (stop : σ → Bool) (step : σ → α → Emission σ ε) (s : σ) (items : List α) :
    Prop :=
  Along step (fun s item => stop s = true → (step s item).events = []) s items

include lasting

theorem stopped_forEach {s : σ} (stopped : stop s = true) (items : List α) :
    stop (forEach step s items).state = true := by
  induction items generalizing s with
  | nil => exact stopped
  | cons item rest ih => exact ih (lasting s item stopped)

theorem quiet_events {s : σ} (stopped : stop s = true) {items : List α}
    (quiet : QuietOnceStopped stop step s items) : (forEach step s items).events = [] := by
  induction items generalizing s with
  | nil => rfl
  | cons item rest ih =>
    rw [forEach_cons, andThen_events, quiet.1 stopped, ih (lasting s item stopped) quiet.2]
    rfl

omit lasting in
theorem forEach_unlessStopped_stopped {s : σ} (stopped : stop s = true) (items : List α) :
    forEach (unlessStopped stop step) s items = silent s := by
  induction items with
  | nil => rfl
  | cons item rest ih => rw [forEach_cons, unlessStopped, if_pos stopped, silent_andThen, ih]

omit lasting in
theorem unlessStopped_running {s : σ} (running : stop s = false) (item : α) :
    unlessStopped stop step s item = step s item := by
  rw [unlessStopped, if_neg (by simp [running])]

theorem forEach_unlessStopped_eq {s : σ} {items : List α}
    (running : stop (forEach step s items).state = false) :
    forEach (unlessStopped stop step) s items = forEach step s items := by
  induction items generalizing s with
  | nil => rfl
  | cons item rest ih =>
    by_cases stopped : stop s = true
    · rw [stopped_forEach lasting stopped] at running
      cases running
    · rw [forEach_cons, forEach_cons, unlessStopped, if_neg stopped]
      simp only [andThen, ih running]

omit lasting in
theorem forEach_unlessStopped_stop {s : σ} {items : List α}
    (stopped : stop (forEach step s items).state = true) :
    stop (forEach (unlessStopped stop step) s items).state = true := by
  induction items generalizing s with
  | nil => exact stopped
  | cons item rest ih =>
    by_cases now : stop s = true
    · rw [forEach_unlessStopped_stopped now]
      exact now
    · rw [forEach_cons, unlessStopped, if_neg now]
      exact ih stopped

omit lasting in
theorem quiet_of_events_length {s : σ} {items : List α}
    (same : (forEach step s items).events.length ≤
      (forEach (unlessStopped stop step) s items).events.length) :
    QuietOnceStopped stop step s items := by
  induction items generalizing s with
  | nil => trivial
  | cons item rest ih =>
    by_cases stopped : stop s = true
    · rw [forEach_unlessStopped_stopped stopped, silent_events, forEach_cons,
        andThen_events, List.length_append, List.length_nil] at same
      have now : (step s item).events = [] := List.eq_nil_of_length_eq_zero (by omega)
      refine ⟨fun _ => now, ih ?_⟩
      omega
    · rw [forEach_cons, forEach_cons, unlessStopped, if_neg stopped, andThen_events,
        andThen_events, List.length_append, List.length_append] at same
      exact ⟨fun ended => absurd ended stopped, ih (by omega)⟩

end Stopped

theorem forEach_events_eq_nil {step : σ → α → Emission σ ε} {condition : σ → α → Prop}
    (exactly : ∀ s item, (step s item).events = [] ↔ condition s item) (s : σ) (items : List α) :
    (forEach step s items).events = [] ↔ Along step condition s items := by
  induction items generalizing s with
  | nil => simp [Along]
  | cons item rest ih => rw [forEach_cons, andThen_events, List.append_eq_nil_iff, exactly, ih, Along]

end Emission

end CodexGate.Foundation
