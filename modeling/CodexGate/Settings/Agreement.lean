import CodexGate.Settings.Updates

namespace CodexGate.Settings

open Foundation

namespace RuntimeSettings

variable {ι : Type} [DecidableEq ι]

def publishing (t : Move ι) : Option (SettingKey × Json) :=
  match t.action.act with
  | .publish => (t.before.calls t.action.who).map fun call => (call.key, call.value)
  | _ => none

def published (stored : StoredSettings) : List (Move ι) → StoredSettings
  | [] => stored
  | t :: earlier =>
    match publishing t with
    | some (key, value) => Function.update (published stored earlier) key (some value)
    | none => published stored earlier

/-- A row that still has the value of a call, or that of another call that has yet to publish it. -/
def HasRow (settings : RuntimeSettings ι) (who : ι) (call : Update) : Prop :=
  settings.stored call.key = some call.value ∨ ∃ other later, other ≠ who ∧
    settings.calls other = some later ∧ later.stored = true ∧ later.key = call.key ∧
    settings.stored call.key = some later.value

/-- Where a call publishes, its snapshot undoes nothing that has been published since it was taken,
its row has not been overwritten, and a wider capture finds no tail cut by the one before. -/
structure Publishes (crates : Crates) (config : Config) (earlier : StoredSettings)
    (settings : RuntimeSettings ι) (who : ι) (call : Update) : Prop where
  fresh : settings.current.applyValue crates call.key call.value = .ok call.next
  row : settings.HasRow who call
  uncut : call.key = .usageCaptureBytes →
    call.next.usageCaptureBytes ≤ settings.current.usageCaptureBytes ∨
      settings.current.usageCaptureTailBytes = wantedTail config earlier

def InTurn (crates : Crates) (config : Config) (stored : StoredSettings) (earlier : List (Move ι))
    (t : Move ι) : Prop :=
  t.action.act = .publish → ∀ call, t.before.calls t.action.who = some call →
    Publishes crates config (published stored earlier) t.before t.action.who call

/-- The settings are those of the rows they have been published with, and each row of the database
is one of these or that of a call that has yet to publish it. -/
structure Current (crates : Crates) (config : Config) (rows : StoredSettings)
    (settings : RuntimeSettings ι) : Prop where
  accepted : ∀ key value, rows key = some value → Accepts crates key value
  loaded : settings.current = loaded config rows
  stored : ∀ key, settings.stored key = rows key ∨ ∃ who call, settings.calls who = some call ∧
    call.stored = true ∧ call.key = key ∧ settings.stored key = some call.value

variable {crates : Crates} {config : Config} {rows : StoredSettings}
  {settings next : RuntimeSettings ι} {who : ι}

theorem setCall_self (call : Option Update) : (settings.setCall who call).calls who = call :=
  Function.update_self ..

theorem setCall_other {other : ι} (apart : other ≠ who) (call : Option Update) :
    (settings.setCall who call).calls other = settings.calls other :=
  Function.update_of_ne apart ..

theorem Current.setCall {call : Option Update} (current : Current crates config rows settings)
    (unstored : ∀ before, settings.calls who = some before → before.stored = false) :
    Current crates config rows (settings.setCall who call) where
  accepted := current.accepted
  loaded := current.loaded
  stored key := by
    rcases current.stored key with same | ⟨other, later, there, stored, rest⟩
    · exact .inl same
    · right
      have apart : other ≠ who := by
        rintro rfl
        rw [unstored later there] at stored
        cases stored
      exact ⟨other, later, (setCall_other apart call).trans there, stored, rest⟩

theorem begin_current {key : String} {value : Json} (current : Current crates config rows settings)
    (idle : settings.calls who = none) :
    Current crates config rows (settings.begin crates who key value) := by
  have none_before : ∀ before, settings.calls who = some before → before.stored = false := by
    intro before there
    rw [idle] at there
    cases there
  unfold begin
  split
  · split
    · exact current.setCall none_before
    · exact current
  · exact current

theorem store_current {key : SettingKey} {value : Json} {after : RuntimeSettingsSnapshot}
    (current : Current crates config rows settings) (call : settings.calls who = some ⟨key, value, after, false⟩) :
    Current crates config rows
      ((settings.upsertRuntimeSetting key value).setCall who (some ⟨key, value, after, true⟩)) where
  accepted := current.accepted
  loaded := current.loaded
  stored other := by
    by_cases this_key : other = key
    · subst this_key
      right
      refine ⟨who, ⟨other, value, after, true⟩, ?_, rfl, rfl, ?_⟩
      · exact setCall_self _
      · exact Function.update_self ..
    · have untouched : (settings.upsertRuntimeSetting key value).stored other = settings.stored other :=
        Function.update_of_ne this_key ..
      have before : Current crates config rows
          (settings.setCall who (some ⟨key, value, after, true⟩)) := by
        refine current.setCall ?_
        intro before there
        cases call.symm.trans there
        rfl
      rcases before.stored other with same | ⟨j, later, there, stored, same_key, row⟩
      · exact .inl (untouched.trans same)
      · exact .inr ⟨j, later, there, stored, same_key, untouched.trans row⟩

theorem publish_current {call : Update} (current : Current crates config rows settings)
    (there : settings.calls who = some call)
    (publishes : Publishes crates config rows settings who call) :
    Current crates config (Function.update rows call.key (some call.value))
      { settings.setCall who none with current := call.next } where
  accepted key value found := by
    by_cases this_key : key = call.key
    · subst this_key
      rw [Function.update_self] at found
      cases found
      exact ⟨_, _, publishes.fresh⟩
    · rw [Function.update_of_ne this_key] at found
      exact current.accepted key value found
  loaded := by
    have fresh := publishes.fresh
    rw [current.loaded] at fresh
    refine applyValue_loaded fresh fun is_bytes => ?_
    have uncut := publishes.uncut is_bytes
    rw [current.loaded] at uncut
    exact uncut
  stored key := by
    have waiting {other : ι} {later : Update} (apart : other ≠ who)
        (before : settings.calls other = some later) :
        (settings.setCall who none).calls other = some later :=
      (setCall_other apart none).trans before
    by_cases this_key : key = call.key
    · subst this_key
      rcases publishes.row with own | ⟨other, later, apart, before, stored, same_key, row⟩
      · left
        rw [Function.update_self]
        exact own
      · exact .inr ⟨other, later, waiting apart before, stored, same_key, row⟩
    · rcases current.stored key with same | ⟨other, later, before, stored, same_key, row⟩
      · left
        rw [Function.update_of_ne this_key]
        exact same
      · have apart : other ≠ who := by
          rintro rfl
          cases there.symm.trans before
          exact this_key same_key.symm
        exact .inr ⟨other, later, waiting apart before, stored, same_key, row⟩

omit [DecidableEq ι] in
theorem published_other {stored : StoredSettings} {history : List (Move ι)} {t : Move ι}
    (silent : t.action.act ≠ .publish) : published stored (t :: history) = published stored history := by
  have nothing : publishing t = none := by
    unfold publishing
    split
    · contradiction
    · rfl
  simp only [published, nothing]

theorem step_current {stored : StoredSettings} {history : List (Move ι)} {action : SettingsAction ι}
    (current : Current crates config (published stored history) settings)
    (turn : InTurn crates config stored history ⟨settings, action, next⟩)
    (taken : settings.step crates action = some next) :
    Current crates config (published stored (⟨settings, action, next⟩ :: history)) next := by
  obtain ⟨who, act⟩ := action
  unfold step at taken
  dsimp only at taken
  generalize call_of : settings.calls who = found at taken
  unfold stepOf at taken
  split at taken
  · cases taken
    rw [published_other (by simp)]
    exact begin_current current call_of
  · rw [published_other (by simp)]
    split at taken
    · cases taken
      refine current.setCall fun before there => ?_
      cases call_of.symm.trans there
      rfl
    · cases taken
      exact store_current current call_of
  · rename_i key value after
    cases taken
    have publishes := turn rfl _ call_of
    have rows_after : published stored (⟨settings, ⟨who, .publish⟩,
        { settings.setCall who none with current := after }⟩ :: history) =
        Function.update (published stored history) key (some value) := by
      simp only [published, publishing, call_of, Option.map_some]
    rw [rows_after]
    exact publish_current current call_of publishes
  · cases taken

/-- Whenever no call is in progress the settings are those that `load` would build, in the runs whose
calls publish in turn. -/
theorem run_current {stored : StoredSettings} {start : RuntimeSettingsSnapshot}
    {history : List (Move ι)} (read : load crates config stored = .ok start)
    (run : Run crates (loadedFrom stored start) history settings)
    (turns : Throughout (InTurn crates config stored) history) (quiet : settings.Quiet) :
    load crates config settings.stored = .ok settings.current := by
  obtain ⟨same, accepted⟩ := load_ok read
  have kept : Throughout (InTurn crates config stored) history →
      Current crates config (published stored history) settings := by
    refine run.invariant (P := fun history settings => Throughout (InTurn crates config stored) history →
      Current crates config (published stored history) settings) ?_ ?_
    · intro _
      exact ⟨accepted, same, fun _ => .inl rfl⟩
    · intro history before action after ih taken turns
      exact step_current (ih turns.2) turns.1 taken
  have current := kept turns
  have rows : settings.stored = published stored history := by
    funext key
    rcases current.stored key with same | ⟨who, call, there, -⟩
    · exact same
    · rw [quiet who] at there
      cases there
  rw [rows, current.loaded]
  exact load_loaded current.accepted

def noCrates : Crates := ⟨fun _ => .error "", fun _ => ""⟩

abbrev eightBytes : Config := ⟨.default, true, .weighted, 8, 4, 30, 400⟩

abbrev eightBytesStart : RuntimeSettings Unit := loadedFrom (fun _ => none) (.fromConfig eightBytes)

def setsBytes (bytes : String) : List (SettingsAction Unit) :=
  [⟨(), .publish⟩, ⟨(), .store false⟩, ⟨(), .begin "usage_capture_bytes" (.number bytes)⟩]

theorem run_current_fails : ∃ (history : List (Move Unit)) (settings : RuntimeSettings Unit),
    load noCrates eightBytes (fun _ => none) = .ok eightBytesStart.current ∧
      Run noCrates eightBytesStart history settings ∧ settings.Quiet ∧
      load noCrates eightBytes settings.stored ≠ .ok settings.current := by
  have replayed : ∃ run, replay (step noCrates) eightBytesStart
      (setsBytes "8" ++ setsBytes "1") = some run ∧ (run.2.calls ()).isNone = true ∧
      run.2.current.usageCaptureTailBytes = 1 ∧
      (load noCrates eightBytes run.2.stored).toOption.map
        RuntimeSettingsSnapshot.usageCaptureTailBytes = some 4 :=
    ⟨_, rfl, by decide, by decide, by decide⟩
  obtain ⟨⟨history, settings⟩, replayed, idle, small, wide⟩ := replayed
  refine ⟨history, settings, rfl, replay_run replayed, ?_, ?_⟩
  · intro who
    exact Option.isNone_iff_eq_none.mp idle
  · intro same
    rw [same] at wide
    have tail : settings.current.usageCaptureTailBytes = 4 := Option.some.inj wide
    exact absurd (small.symm.trans tail) (by decide)

theorem run_current_narrowed : ∃ (history : List (Move Unit)) (settings : RuntimeSettings Unit),
    Run noCrates eightBytesStart history settings ∧ settings.current.usageCaptureBytes = 6 ∧
      load noCrates eightBytes settings.stored = .ok settings.current := by
  have replayed : ∃ run, replay (step noCrates) eightBytesStart (setsBytes "6") = some run ∧
      (run.2.calls ()).isNone = true ∧ run.2.current.usageCaptureBytes = 6 ∧
      Throughout (InTurn noCrates eightBytes (fun _ => none)) run.1 := by
    refine ⟨_, rfl, by decide, by decide, And.intro ?_ (And.intro ?_ (And.intro ?_ trivial))⟩
    · intro _ call there
      obtain rfl := Option.some.inj there
      exact ⟨rfl, .inl rfl, fun _ => .inl (by decide)⟩
    all_goals
      intro publish
      cases publish
  obtain ⟨⟨history, settings⟩, replayed, idle, narrowed, turns⟩ := replayed
  have run := replay_run replayed
  have quiet : settings.Quiet := fun _ => Option.isNone_iff_eq_none.mp idle
  exact ⟨history, settings, run, narrowed, run_current rfl run turns quiet⟩

end RuntimeSettings

end CodexGate.Settings
