import CodexGate.Pricing.Transactions

namespace CodexGate.Pricing

open Foundation

variable {Card : Type}

/-- The price with this id is the one the job recorded for its model, and a manual one is among
the selected. -/
def Replaceable (call : ApplyCall Card) (prices : List (PriceRow Card)) (id : Int) : Prop :=
  ∃ row ∈ prices, row.id = id ∧ row.providerId = none ∧
    call.job.expected.lookup row.modelName = some id ∧
      (row.source = .manual → row.modelName ∈ call.selected)

structure Fenced (db : PriceDb Card) (writes : List (Write Card)) (call : ApplyCall Card) : Prop where
  locked : writes.any Write.locksControl = true
  owner : db.control.owner = some call.owner
  lease : call.nowMs < db.control.leaseUntilMs

structure Checked (db : PriceDb Card) (writes : List (Write Card)) (call : ApplyCall Card) : Prop
    extends Fenced db writes call where
  generation : db.control.catalogGeneration = call.job.catalogGeneration

def ApplyPhase.Sound (db : PriceDb Card) (writes : List (Write Card)) (call : ApplyCall Card) :
    ApplyPhase Card → Prop
  | .fence => writes = []
  | .check => writes.any Write.advances = false ∧ Fenced db writes call
  | .commit => Checked db writes call ∧
    (db.view writes).control.catalogGeneration = call.job.catalogGeneration + 1
  | .deactivate _ _ currentId _ => writes.any Write.advances = false ∧ Checked db writes call ∧
    Replaceable call (db.view writes).prices currentId
  | _ => writes.any Write.advances = false ∧ Checked db writes call

def Call.Sound (db : PriceDb Card) (call : Call Card) : Prop :=
  match call.task with
  | .prepare _ _ => call.writes = []
  | .returned _ => call.writes = []
  | .admin _ => call.writes.any Write.locksControl = false
  | .apply apply phase => phase.Sound db call.writes apply ∧
    ∀ id, .price (.retire id) ∈ call.writes → Replaceable apply (db.view call.writes).prices id

theorem Replaceable.mono {call : ApplyCall Card} {prices later : List (PriceRow Card)} {id : Int}
    (replaceable : Replaceable call prices id)
    (kept : ∀ row ∈ prices, ∃ stays ∈ later, (versioning Card).Same row stays) :
    Replaceable call later id := by
  obtain ⟨row, member, is, everywhere, recorded, selected⟩ := replaceable
  obtain ⟨stays, there, same⟩ := kept row member
  refine ⟨stays, there, ?_⟩
  obtain same | same := same
  · rw [same]
    exact ⟨is, everywhere, recorded, selected⟩
  · rw [same]
    exact ⟨is, everywhere, recorded, selected⟩

structure Untouched (db later : PriceDb Card) (writes : List (Write Card)) : Prop where
  kept : ∀ row ∈ db.prices, ∃ stays ∈ later.prices, (versioning Card).Same row stays
  control : writes.any Write.locksControl = true → later.control = db.control

theorem Untouched.view {db later : PriceDb Card} {writes : List (Write Card)}
    (untouched : Untouched db later writes) :
    ∀ row ∈ (db.view writes).prices, ∃ stays ∈ (later.view writes).prices,
      (versioning Card).Same row stays := by
  rw [PriceDb.view_prices, PriceDb.view_prices]
  exact Versioning.view_mono (changes writes) untouched.kept

theorem Fenced.untouched {db later : PriceDb Card} {writes : List (Write Card)}
    {call : ApplyCall Card} (fenced : Fenced db writes call)
    (untouched : Untouched db later writes) : Fenced later writes call := by
  refine ⟨fenced.locked, ?_, ?_⟩
  · rw [untouched.control fenced.locked]
    exact fenced.owner
  · rw [untouched.control fenced.locked]
    exact fenced.lease

theorem Checked.untouched {db later : PriceDb Card} {writes : List (Write Card)}
    {call : ApplyCall Card} (checked : Checked db writes call)
    (untouched : Untouched db later writes) : Checked later writes call := by
  refine ⟨checked.toFenced.untouched untouched, ?_⟩
  rw [untouched.control checked.locked]
  exact checked.generation

theorem PriceDb.view_control_congr {db later : PriceDb Card} (writes : List (Write Card))
    (same : later.control = db.control) : (later.view writes).control = (db.view writes).control := by
  induction writes generalizing db later with
  | nil => exact same
  | cons write writes ih =>
    refine ih ?_
    cases write with
    | price | withdraw | catalog | missing => exact same
    | fence | advance =>
      simp only [Write.apply]
      rw [same]

theorem ApplyPhase.Sound.untouched {db later : PriceDb Card} {writes : List (Write Card)}
    {call : ApplyCall Card} {phase : ApplyPhase Card} (sound : phase.Sound db writes call)
    (untouched : Untouched db later writes) : phase.Sound later writes call := by
  cases phase with
  | fence => exact sound
  | check => exact ⟨sound.1, sound.2.untouched untouched⟩
  | commit =>
    refine ⟨sound.1.untouched untouched, ?_⟩
    rw [PriceDb.view_control_congr writes (untouched.control sound.1.locked)]
    exact sound.2
  | deactivate =>
    exact ⟨sound.1, sound.2.1.untouched untouched, sound.2.2.mono untouched.view⟩
  | withdraw | catalog | select | insert | clearMissing | recordMissing | advance =>
    exact ⟨sound.1, sound.2.untouched untouched⟩

theorem Call.Sound.untouched {db later : PriceDb Card} {call : Call Card} (sound : call.Sound db)
    (untouched : Untouched db later call.writes) : call.Sound later := by
  unfold Call.Sound at *
  split at sound
  · exact sound
  · exact sound
  · exact sound
  · exact ⟨sound.1.untouched untouched,
      fun id member => (sound.2 id member).mono untouched.view⟩

theorem globalPrice_some {prices : List (PriceRow Card)} {modelName : String} {row : PriceRow Card}
    (found : globalPrice prices modelName = some row) :
    row ∈ prices ∧ row.active = true ∧ row.providerId = none ∧ row.modelName = modelName := by
  have matched := List.find?_some found
  simp only [PriceRow.isGlobal, Bool.and_eq_true, Option.isNone_iff_eq_none,
    decide_eq_true_eq] at matched
  exact ⟨List.mem_of_find?_eq_some found, matched.1, matched.2.1, matched.2.2⟩

theorem Fenced.append {db : PriceDb Card} {writes : List (Write Card)} {call : ApplyCall Card}
    (fenced : Fenced db writes call) (more : List (Write Card)) :
    Fenced db (writes ++ more) call := by
  refine ⟨?_, fenced.owner, fenced.lease⟩
  rw [List.any_append, fenced.locked, Bool.true_or]

theorem Checked.append {db : PriceDb Card} {writes : List (Write Card)} {call : ApplyCall Card}
    (checked : Checked db writes call) (more : List (Write Card)) :
    Checked db (writes ++ more) call :=
  ⟨checked.toFenced.append more, checked.generation⟩

theorem notAdvanced_append {writes more : List (Write Card)}
    (first : writes.any Write.advances = false) (next : more.any Write.advances = false) :
    (writes ++ more).any Write.advances = false := by
  rw [List.any_append, first, next]
  rfl

theorem Checked.counting {db : PriceDb Card} {writes : List (Write Card)} {call : ApplyCall Card}
    (checked : Checked db writes call) (count : Counts → Counts) :
    Checked db writes (call.counting count) :=
  ⟨⟨checked.locked, checked.owner, checked.lease⟩, checked.generation⟩

variable [DecidableEq Card]

theorem ApplyCall.next_sound {db : PriceDb Card} {writes more : List (Write Card)}
    {call : ApplyCall Card} {phase : ApplyPhase Card} {newId : Int} {task : Task Card}
    (sound : phase.Sound db writes call)
    (taken : call.next (db.view writes) newId phase = .write more task) :
    ∃ later phase', task = .apply later phase' ∧ later.job = call.job ∧
      later.selected = call.selected ∧ phase'.Sound db (writes ++ more) later ∧ OneRow more ∧
      ∀ id, .price (.retire id) ∈ more → Replaceable call (db.view writes).prices id := by
  have plain : ∀ {more : List (Write Card)}, more = [] →
      OneRow more ∧ ∀ id, .price (.retire id) ∈ more →
        Replaceable call (db.view writes).prices id := by
    rintro _ rfl
    exact ⟨.inr fun row => List.not_mem_nil, fun id member => absurd member List.not_mem_nil⟩
  cases phase with
  | fence =>
    simp only [ApplyCall.next] at taken
    split at taken
    · rename_i held
      cases taken
      unfold ApplyPhase.Sound at sound
      subst sound
      simp only [PriceDb.view_nil, SyncControl.heldBy, Bool.and_eq_true] at held
      have fenced : Fenced db [.fence (call.nowMs + syncLeaseMs)] call :=
        ⟨rfl, of_decide_eq_true held.1, of_decide_eq_true held.2⟩
      refine ⟨call, .check, rfl, rfl, rfl, ⟨rfl, fenced⟩, .inr ?_, ?_⟩
      · simp
      · simp
    · cases taken
  | check =>
    simp only [ApplyCall.next] at taken
    split at taken
    · rename_i same
      cases taken
      rw [PriceDb.view_generation db sound.1] at same
      refine ⟨_, .withdraw, rfl, rfl, rfl, ?_, (plain rfl).1, (plain rfl).2⟩
      rw [List.append_nil]
      exact ⟨sound.1, (Checked.mk sound.2 same).counting _⟩
    · cases taken
  | withdraw =>
    cases taken
    refine ⟨call, _, rfl, rfl, rfl, ⟨notAdvanced_append sound.1 rfl, sound.2.append _⟩, .inr ?_, ?_⟩
    · simp
    · simp
  | catalog models =>
    cases models with
    | nil =>
      cases taken
      refine ⟨call, _, rfl, rfl, rfl, ?_, (plain rfl).1, (plain rfl).2⟩
      rw [List.append_nil]
      exact sound
    | cons model models =>
      cases taken
      have working : ∀ entry, (writes ++ [Write.catalog entry]).any Write.advances = false ∧
          Checked db (writes ++ [Write.catalog entry]) call :=
        fun entry => ⟨notAdvanced_append sound.1 rfl, sound.2.append _⟩
      refine ⟨call, _, rfl, rfl, rfl, ?_, .inr ?_, ?_⟩
      · cases model.priceData with
        | none => exact working _
        | some card => exact working _
      · simp
      · simp
  | select modelName card models =>
    simp only [ApplyCall.next, ApplyCall.current] at taken
    split at taken
    · cases taken
    · rename_i expected
      have expected := not_not.mp expected
      split at taken
      · rename_i row found
        obtain ⟨member, active, everywhere, name⟩ := globalPrice_some found
        split at taken
        · cases taken
          refine ⟨_, _, rfl, rfl, rfl, ?_, (plain rfl).1, (plain rfl).2⟩
          rw [List.append_nil]
          exact ⟨sound.1, sound.2.counting _⟩
        · rename_i chosen
          split at taken
          · cases taken
            refine ⟨_, _, rfl, rfl, rfl, ?_, (plain rfl).1, (plain rfl).2⟩
            rw [List.append_nil]
            exact ⟨sound.1, sound.2.counting _⟩
          · cases taken
            refine ⟨_, _, rfl, rfl, rfl, ?_, (plain rfl).1, (plain rfl).2⟩
            rw [List.append_nil]
            refine ⟨sound.1, sound.2, row, member, rfl, everywhere, ?_, ?_⟩
            · rw [name, ← expected, found]
              rfl
            · intro manual
              rw [name]
              simpa using fun unselected => chosen ⟨manual, unselected⟩
      · cases taken
        refine ⟨_, _, rfl, rfl, rfl, ?_, (plain rfl).1, (plain rfl).2⟩
        rw [List.append_nil]
        exact ⟨sound.1, sound.2.counting _⟩
  | deactivate modelName card currentId models =>
    simp only [ApplyCall.next] at taken
    split at taken
    · cases taken
      refine ⟨_, _, rfl, rfl, rfl,
        ⟨notAdvanced_append sound.1 rfl, (sound.2.1.append _).counting _⟩, .inr ?_, ?_⟩
      · simp
      · intro id member
        cases List.mem_singleton.mp member
        exact sound.2.2
    · cases taken
  | insert modelName card models =>
    cases taken
    refine ⟨call, _, rfl, rfl, rfl, ⟨notAdvanced_append sound.1 rfl, sound.2.append _⟩,
      .inl ⟨_, rfl⟩, ?_⟩
    simp
  | clearMissing | recordMissing =>
    cases taken
    refine ⟨call, _, rfl, rfl, rfl, ⟨notAdvanced_append sound.1 rfl, sound.2.append _⟩, .inr ?_, ?_⟩
    · simp
    · simp
  | advance =>
    cases taken
    refine ⟨call, _, rfl, rfl, rfl, ⟨sound.2.append _, ?_⟩, .inr ?_, ?_⟩
    · rw [PriceDb.view_append]
      have before := PriceDb.view_generation db sound.1
      rw [sound.2.generation] at before
      rw [← before]
      rfl
    · simp
    · simp
  | commit => cases taken

omit [DecidableEq Card] in
theorem adminNext_sound {db : PriceDb Card} {writes more : List (Write Card)}
    {phase : AdminPhase Card} {newId : Int} {task : Task Card}
    (unlocked : writes.any Write.locksControl = false)
    (taken : adminNext (db.view writes) newId phase = .write more task) :
    (∃ phase', task = .admin phase') ∧ OneRow more ∧
      (writes ++ more).any Write.locksControl = false := by
  have adds : more.any Write.locksControl = false →
      (writes ++ more).any Write.locksControl = false := by
    intro free
    rw [List.any_append, unlocked, free]
    rfl
  cases phase with
  | clear providerId modelName price =>
    cases taken
    refine ⟨⟨_, rfl⟩, .inr ?_, adds ?_⟩
    · simp
    · rw [List.any_map]
      exact List.any_eq_false.mpr fun row _ => by simp [Write.locksControl]
  | select priceId replacement =>
    simp only [adminNext] at taken
    split at taken
    · cases taken
      exact ⟨⟨_, rfl⟩, .inr fun row => List.not_mem_nil, adds rfl⟩
    · cases taken
  | deactivate row replacement =>
    cases taken
    refine ⟨?_, .inr ?_, adds rfl⟩
    · cases replacement with
      | none => exact ⟨_, rfl⟩
      | some price => exact ⟨_, rfl⟩
    · simp
  | insert providerId modelName price =>
    cases taken
    exact ⟨⟨_, rfl⟩, .inl ⟨_, rfl⟩, adds rfl⟩
  | commit => cases taken

omit [DecidableEq Card] in
theorem retire_mem_append {writes more : List (Write Card)} {call : ApplyCall Card}
    {db : PriceDb Card}
    (before : ∀ id, .price (.retire id) ∈ writes → Replaceable call (db.view writes).prices id)
    (next : ∀ id, .price (.retire id) ∈ more → Replaceable call (db.view writes).prices id) :
    ∀ id, .price (.retire id) ∈ writes ++ more →
      Replaceable call (db.view (writes ++ more)).prices id := by
  intro id member
  rw [PriceDb.view_append]
  refine Replaceable.mono ?_ (view_prices_kept (db.view writes) more)
  obtain member | member := List.mem_append.mp member
  · exact before id member
  · exact next id member

theorem Call.Sound.write {db : PriceDb Card} {call : Call Card} {more : List (Write Card)}
    {newId : Int} {task : Task Card} (sound : call.Sound db)
    (taken : call.task.next (db.view call.writes) newId = some (.write more task)) :
    OneRow more ∧ Call.Sound db { writes := call.writes ++ more, task := task } := by
  obtain ⟨writes, current⟩ := call
  unfold Call.Sound at sound
  cases current with
  | returned error => cases taken
  | prepare job phase =>
    have empty : more = [] ∧ ∃ job' phase', task = .prepare job' phase' := by
      simp only [Task.next, Option.some.injEq] at taken
      cases phase with
      | readGeneration =>
        cases taken
        exact ⟨rfl, _, _, rfl⟩
      | readPrices =>
        cases taken
        exact ⟨rfl, _, _, rfl⟩
      | readSources prices =>
        simp only [prepareNext] at taken
        split at taken <;> cases taken
    obtain ⟨rfl, job', phase', rfl⟩ := empty
    dsimp only at sound
    subst sound
    exact ⟨.inr fun row => List.not_mem_nil, rfl⟩
  | admin phase =>
    simp only [Task.next, Option.some.injEq] at taken
    obtain ⟨⟨phase', rfl⟩, oneRow, unlocked⟩ := adminNext_sound sound taken
    exact ⟨oneRow, unlocked⟩
  | apply apply phase =>
    simp only [Task.next, Option.some.injEq] at taken
    obtain ⟨later, phase', rfl, job, selected, next, oneRow, replaces⟩ :=
      ApplyCall.next_sound sound.1 taken
    refine ⟨oneRow, next, ?_⟩
    intro id member
    have replaceable := retire_mem_append sound.2 replaces id member
    unfold Replaceable at *
    rw [job, selected]
    exact replaceable

end CodexGate.Pricing
