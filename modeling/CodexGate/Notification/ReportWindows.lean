import CodexGate.Foundation.Windows
import CodexGate.Notification.Reports

namespace CodexGate.Notification

open Foundation

variable {schedule : Schedule} {occurrences : Set Int} {ruleId : Int}

abbrev ReportStep (schedule : Schedule) (ruleId : Int) (before : ReportStore)
    (action : ReportAction) (after : ReportStore) : Prop :=
  reportStep schedule ruleId before action = some after

def ReportStore.ends (store : ReportStore) : List Int := store.windows.map (·.2)

def WindowsTile (windows : List (Int × Int)) : Prop :=
  (windows.Pairwise fun window later =>
    Disjoint (Set.Ico window.1 window.2) (Set.Ico later.1 later.2)) ∧
  windows.IsChain fun window next => next.1 = window.2

/-- The last window end as the worker read it, and the window of the report that the step
creates. -/
def creation (ruleId : Int) (t : Transition ReportStore ReportAction) :
    Option (Option Int × Int × Int) :=
  match t.action with
  | .create owner outcome =>
    match (t.before.workers owner).map ReportWorker.phase with
    | some (.creating lastWindowEndMs fromMs boundary) =>
      if outcome.applied &&
          !t.before.clashes (ReportStore.scheduledReport ruleId fromMs boundary) then
        some (lastWindowEndMs, fromMs, boundary)
      else none
    | _ => none
  | _ => none

/-- The rule as the instance read it ends its last window where the latest report ended, before
the boundary that is due. Where it has no last window, the latest report ended one occurrence
before that boundary. -/
def UpToDate (schedule : Schedule) (ruleId : Int) (t : Transition ReportStore ReportAction) :
    Prop :=
  ∀ lastWindowEndMs fromMs boundary, creation ruleId t = some (lastWindowEndMs, fromMs, boundary) →
    ∀ latest ∈ t.before.windows.getLast?,
      lastWindowEndMs = some latest.2 ∧ latest.2 < boundary ∨
        lastWindowEndMs = none ∧ schedule.previousOccurrence boundary = some latest.2

namespace ReportStore

@[simp] theorem enter_windows (store : ReportStore) (owner : String) (worker : ReportWorker)
    (phase : ReportPhase) : (store.enter owner worker phase).windows = store.windows := rfl

@[simp] theorem leave_windows (store : ReportStore) (owner : String) :
    (store.leave owner).windows = store.windows := rfl

@[simp] theorem setRule_windows (store : ReportStore) (rule : Rule) :
    (store.setRule rule).windows = store.windows := rfl

@[simp] theorem leaves_setRule_windows (outcome : CallOutcome) (store : ReportStore)
    (rule : Rule) : (outcome.leaves store (store.setRule rule)).windows = store.windows := by
  obtain same | same := outcome.leaves_cases store (store.setRule rule)
  · rw [same]
  · rw [same, setRule_windows]

theorem createRun_windows (store : ReportStore) (ruleId fromMs boundary nowMs : Int) :
    (store.createRun ruleId fromMs boundary nowMs).windows =
      if store.clashes (scheduledReport ruleId fromMs boundary) then store.windows
      else store.windows ++ [(fromMs, boundary)] := by
  unfold createRun
  dsimp only
  split <;> rfl

end ReportStore

open ReportStore

def windowsAfter (ruleId : Int) (t : Transition ReportStore ReportAction) : List (Int × Int) :=
  match creation ruleId t with
  | some (_, window) => t.before.windows ++ [window]
  | none => t.before.windows

theorem stepReport_windows {before after : ReportStore} {owner : String} {worker : ReportWorker}
    {action : ReportAction} (acts : action.owner = some owner)
    (here : before.workers owner = some worker)
    (taken : stepReport schedule ruleId before owner worker action = some after) :
    after.windows = windowsAfter ruleId ⟨before, action, after⟩ := by
  unfold windowsAfter creation
  cases action with
  | tick | poll | edit | cleanup => cases acts
  | create caller outcome =>
    cases acts
    simp only [stepReport] at taken
    split at taken
    · rename_i lastWindowEndMs fromMs boundary phase
      simp only [here, Option.map_some, phase]
      cases taken
      rw [enter_windows]
      cases applied : outcome.applied with
      | false => simp [CallOutcome.leaves, applied]
      | true =>
        simp only [CallOutcome.leaves, applied, if_true, createRun_windows, Bool.true_and]
        cases clash : before.clashes (scheduledReport ruleId fromMs boundary) <;> simp
    · cases taken
  | list | claim | prepare | complete | release | crash =>
    simp only [stepReport] at taken
    repeat' split at taken
    all_goals cases taken
    all_goals simp

theorem step_windows {before after : ReportStore} {action : ReportAction}
    (taken : ReportStep schedule ruleId before action after) :
    after.windows = windowsAfter ruleId ⟨before, action, after⟩ := by
  unfold ReportStep reportStep at taken
  cases action with
  | tick | poll | edit | cleanup =>
    dsimp only at taken
    split at taken
    · cases taken
      first
        | rfl
        | (split <;> rfl)
    · cases taken
  | list owner | claim owner _ | prepare owner _ | create owner _ | complete owner _
  | release owner _ | crash owner =>
    obtain ⟨worker, here, moved⟩ := Option.bind_eq_some_iff.mp taken
    exact stepReport_windows rfl here moved

/-! Where the window ends that the rule and the instances carry come from. -/

def ReportWorker.Sound (schedule : Schedule) (ends : List Int) (worker : ReportWorker) : Prop :=
  match worker.phase with
  | .polling | .releasing => True
  | .listed lastWindowEndMs | .claimed lastWindowEndMs => ∀ last ∈ lastWindowEndMs, last ∈ ends
  | .creating lastWindowEndMs fromMs boundary =>
    (∀ last ∈ lastWindowEndMs, last ∈ ends) ∧
      schedule.window lastWindowEndMs worker.nowMs = some (fromMs, boundary)
  | .completing boundary => boundary ∈ ends

structure ReportStore.Sound (schedule : Schedule) (ruleId : Int) (store : ReportStore) : Prop where
  rowsKnown : ∀ row ∈ store.rows, ∃ fromMs boundary,
    row.report = scheduledReport ruleId fromMs boundary ∧ boundary ∈ store.ends
  ruleKnown : ∀ last ∈ store.rule.lastWindowEndMs, last ∈ store.ends
  workersSound : ∀ owner worker, store.workers owner = some worker →
    worker.Sound schedule store.ends

theorem ReportWorker.Sound.mono {ends more : List Int} {worker : ReportWorker}
    (sound : worker.Sound schedule ends) (kept : ∀ last ∈ ends, last ∈ more) :
    worker.Sound schedule more := by
  unfold ReportWorker.Sound at *
  split at sound
  · exact True.intro
  · exact True.intro
  · exact fun last member => kept last (sound last member)
  · exact fun last member => kept last (sound last member)
  · exact ⟨fun last member => kept last (sound.1 last member), sound.2⟩
  · exact kept _ sound

namespace ReportStore

theorem Sound.enter {store : ReportStore} (sound : store.Sound schedule ruleId) {owner : String}
    {worker : ReportWorker} {phase : ReportPhase}
    (entered : ReportWorker.Sound schedule store.ends { worker with phase := phase }) :
    (store.enter owner worker phase).Sound schedule ruleId := by
  refine ⟨sound.rowsKnown, sound.ruleKnown, ?_⟩
  intro other known there
  by_cases same : other = owner
  · subst same
    simp only [ReportStore.enter, Function.update_self, Option.some.injEq] at there
    subst there
    exact entered
  · simp only [ReportStore.enter, Function.update_of_ne same] at there
    exact sound.workersSound other known there

theorem Sound.leave {store : ReportStore} (sound : store.Sound schedule ruleId) (owner : String) :
    (store.leave owner).Sound schedule ruleId := by
  refine ⟨sound.rowsKnown, sound.ruleKnown, ?_⟩
  intro other known there
  by_cases same : other = owner
  · subst same
    simp [ReportStore.leave] at there
  · simp only [ReportStore.leave, Function.update_of_ne same] at there
    exact sound.workersSound other known there

theorem Sound.setRule {store : ReportStore} (sound : store.Sound schedule ruleId) {rule : Rule}
    (known : ∀ last ∈ rule.lastWindowEndMs, last ∈ store.ends) :
    (store.setRule rule).Sound schedule ruleId :=
  ⟨sound.rowsKnown, known, sound.workersSound⟩

theorem Sound.leaves {store changed : ReportStore} (sound : store.Sound schedule ruleId)
    (changes : changed.Sound schedule ruleId) (outcome : CallOutcome) :
    (outcome.leaves store changed).Sound schedule ruleId := by
  obtain same | same := outcome.leaves_cases store changed
  · rw [same]
    exact sound
  · rw [same]
    exact changes

theorem Sound.createRun {store : ReportStore} (sound : store.Sound schedule ruleId)
    (fromMs boundary nowMs : Int) :
    (store.createRun ruleId fromMs boundary nowMs).Sound schedule ruleId ∧
      boundary ∈ (store.createRun ruleId fromMs boundary nowMs).ends := by
  unfold ReportStore.createRun
  dsimp only
  split
  · rename_i clash
    refine ⟨sound, ?_⟩
    obtain ⟨row, member, clashes⟩ := List.any_eq_true.mp clash
    obtain ⟨rowFrom, rowTo, is, known⟩ := sound.rowsKnown row member
    simp only [Report.clashes, is, scheduledReport, Bool.and_eq_true, decide_eq_true_eq] at clashes
    rw [clashes.2]
    exact known
  · have kept : ∀ last ∈ store.ends, last ∈ store.ends ++ [boundary] :=
      fun last member => List.mem_append_left _ member
    have ends : ∀ rows, ReportStore.ends
        { store with rows := rows, windows := store.windows ++ [(fromMs, boundary)] } =
          store.ends ++ [boundary] := by
      intro rows
      simp [ReportStore.ends]
    refine ⟨⟨?_, ?_, ?_⟩, ?_⟩
    · intro row member
      rw [ends]
      obtain member | member := List.mem_append.mp member
      · obtain ⟨rowFrom, rowTo, is, known⟩ := sound.rowsKnown row member
        exact ⟨rowFrom, rowTo, is, kept rowTo known⟩
      · rw [List.mem_singleton] at member
        subst member
        exact ⟨fromMs, boundary, rfl, by simp⟩
    · intro last member
      rw [ends]
      exact kept last (sound.ruleKnown last member)
    · intro owner worker there
      rw [ends]
      exact (sound.workersSound owner worker there).mono kept
    · rw [ends]
      simp

end ReportStore

theorem Rule.release_lastWindowEndMs (rule : Rule) (owner : String) (retryAtMs : Int) :
    (rule.release owner retryAtMs).lastWindowEndMs = rule.lastWindowEndMs := by
  unfold Rule.release
  split <;> rfl

theorem Rule.complete_lastWindowEndMs (rule : Rule) (owner : String)
    (nextRunAtMs boundary : Int) :
    (rule.complete owner nextRunAtMs (some boundary)).lastWindowEndMs =
      if rule.ownedBy owner then some boundary else rule.lastWindowEndMs := by
  unfold Rule.complete
  split <;> rfl

theorem stepReport_sound {before after : ReportStore} {owner : String} {worker : ReportWorker}
    {action : ReportAction} (sound : before.Sound schedule ruleId)
    (here : before.workers owner = some worker)
    (taken : stepReport schedule ruleId before owner worker action = some after) :
    after.Sound schedule ruleId := by
  have mine := sound.workersSound owner worker here
  unfold ReportWorker.Sound at mine
  cases action with
  | tick | poll | edit | cleanup => cases taken
  | list =>
    simp only [stepReport] at taken
    split at taken
    · split at taken
      · cases taken
        exact sound.enter sound.ruleKnown
      · cases taken
        exact sound.leave owner
    · cases taken
  | claim _ outcome =>
    simp only [stepReport] at taken
    split at taken
    · rename_i lastWindowEndMs phase
      rw [phase] at mine
      have known : ∀ last ∈ (before.rule.claim owner worker.nowMs).lastWindowEndMs,
          last ∈ before.ends := sound.ruleKnown
      have claimed := sound.leaves (sound.setRule known) outcome
      split at taken
      · cases taken
        split
        · refine claimed.enter ?_
          unfold ReportStore.ends
          rw [leaves_setRule_windows]
          exact mine
        · exact claimed.leave owner
      · cases taken
        exact sound.leave owner
    · cases taken
  | prepare _ prepared =>
    simp only [stepReport] at taken
    split at taken
    · rename_i lastWindowEndMs phase
      rw [phase] at mine
      split at taken
      · rename_i fromMs boundary window
        cases taken
        exact sound.enter ⟨mine, window⟩
      · cases taken
        exact sound.enter True.intro
    · cases taken
  | create _ outcome =>
    simp only [stepReport] at taken
    split at taken
    · rename_i lastWindowEndMs fromMs boundary phase
      cases taken
      obtain ⟨created, ends⟩ := sound.createRun fromMs boundary worker.nowMs
      refine (sound.leaves created outcome).enter ?_
      cases ok : outcome.ok with
      | false => exact True.intro
      | true =>
        unfold CallOutcome.leaves
        rw [CallOutcome.applied_of_ok ok]
        exact ends
    · cases taken
  | complete _ outcome =>
    simp only [stepReport] at taken
    split at taken
    · rename_i boundary phase
      rw [phase] at mine
      split at taken
      · rename_i next _
        have known : ∀ last ∈ (before.rule.complete owner next (some boundary)).lastWindowEndMs,
            last ∈ before.ends := by
          rw [Rule.complete_lastWindowEndMs]
          split
          · intro last member
            cases member
            exact mine
          · exact sound.ruleKnown
        have completed := sound.leaves (sound.setRule known) outcome
        cases taken
        split
        · exact completed.leave owner
        · exact completed.enter True.intro
      · cases taken
        exact sound.enter True.intro
    · cases taken
  | release _ outcome =>
    simp only [stepReport] at taken
    split at taken
    · cases taken
      refine (sound.leaves (sound.setRule ?_) outcome).leave owner
      rw [Rule.release_lastWindowEndMs]
      exact sound.ruleKnown
    · cases taken
  | crash =>
    cases taken
    exact sound.leave owner

theorem step_sound {before after : ReportStore} {action : ReportAction}
    (sound : before.Sound schedule ruleId)
    (taken : ReportStep schedule ruleId before action after) : after.Sound schedule ruleId := by
  unfold ReportStep reportStep at taken
  cases action with
  | tick nowMs =>
    dsimp only at taken
    split at taken
    · cases taken
      exact ⟨sound.rowsKnown, sound.ruleKnown, sound.workersSound⟩
    · cases taken
  | poll owner =>
    dsimp only at taken
    split at taken
    · cases taken
      exact sound.enter True.intro
    · cases taken
  | edit enabled nowMs =>
    dsimp only at taken
    split at taken
    · cases taken
      split
      · exact sound.setRule sound.ruleKnown
      · exact sound
    · cases taken
  | cleanup nowMs =>
    dsimp only at taken
    split at taken
    · cases taken
      exact ⟨fun row member => sound.rowsKnown row (List.mem_of_mem_filter member),
        sound.ruleKnown, sound.workersSound⟩
    · cases taken
  | list owner | claim owner _ | prepare owner _ | create owner _ | complete owner _
  | release owner _ | crash owner =>
    obtain ⟨worker, here, moved⟩ := Option.bind_eq_some_iff.mp taken
    exact stepReport_sound sound here moved

theorem Schedule.Lawful.previous_lt (lawful : schedule.Lawful occurrences) {atMs occurrence : Int}
    (found : schedule.previousOccurrence atMs = some occurrence) : occurrence < atMs :=
  ((lawful.previous atMs occurrence).mp found).1.2

theorem Schedule.window_cases {lastWindowEndMs : Option Int} {nowMs fromMs boundary : Int}
    (window : schedule.window lastWindowEndMs nowMs = some (fromMs, boundary)) :
    lastWindowEndMs = some fromMs ∧ fromMs < boundary ∨
      (∀ last ∈ lastWindowEndMs, boundary ≤ last) ∧
        schedule.previousOccurrence boundary = some fromMs := by
  unfold Schedule.window at window
  obtain ⟨found, _, chosen⟩ := Option.bind_eq_some_iff.mp window
  cases lastWindowEndMs with
  | none =>
    obtain ⟨previous, is, same⟩ := Option.map_eq_some_iff.mp chosen
    cases same
    exact .inr ⟨by simp, is⟩
  | some value =>
    dsimp only at chosen
    split at chosen
    · rename_i earlier
      cases chosen
      exact .inl ⟨rfl, earlier⟩
    · rename_i notEarlier
      obtain ⟨previous, is, same⟩ := Option.map_eq_some_iff.mp chosen
      cases same
      refine .inr ⟨?_, is⟩
      intro last member
      cases member
      exact Int.not_lt.mp notEarlier

theorem Schedule.Lawful.window_proper (lawful : schedule.Lawful occurrences)
    {lastWindowEndMs : Option Int} {nowMs fromMs boundary : Int}
    (window : schedule.window lastWindowEndMs nowMs = some (fromMs, boundary)) :
    fromMs < boundary := by
  obtain ⟨_, earlier⟩ | ⟨_, found⟩ := Schedule.window_cases window
  · exact earlier
  · exact lawful.previous_lt found

theorem creation_sound {t : Transition ReportStore ReportAction}
    (sound : t.before.Sound schedule ruleId) {lastWindowEndMs : Option Int} {fromMs boundary : Int}
    (created : creation ruleId t = some (lastWindowEndMs, fromMs, boundary)) :
    (∀ last ∈ lastWindowEndMs, last ∈ t.before.ends) ∧
      ∃ nowMs, schedule.window lastWindowEndMs nowMs = some (fromMs, boundary) := by
  unfold creation at created
  split at created
  · rename_i owner outcome _
    split at created
    · rename_i phase
      split at created
      · cases created
        obtain ⟨worker, here, creating⟩ := Option.map_eq_some_iff.mp phase
        have mine := sound.workersSound owner worker here
        unfold ReportWorker.Sound at mine
        rw [creating] at mine
        exact ⟨mine.1, worker.nowMs, mine.2⟩
      · cases created
    · cases created
  · cases created

theorem begins_iff_upToDate (lawful : schedule.Lawful occurrences) {windows : List (Int × Int)}
    (tiled : Tiled windows) {latest : Int × Int} (last : latest ∈ windows.getLast?)
    {lastWindowEndMs : Option Int} {nowMs fromMs boundary : Int}
    (known : ∀ value ∈ lastWindowEndMs, value ∈ windows.map (·.2))
    (window : schedule.window lastWindowEndMs nowMs = some (fromMs, boundary)) :
    fromMs = latest.2 ↔
      lastWindowEndMs = some latest.2 ∧ latest.2 < boundary ∨
        lastWindowEndMs = none ∧ schedule.previousOccurrence boundary = some latest.2 := by
  obtain ⟨is, earlier⟩ | ⟨notEarlier, found⟩ := Schedule.window_cases window
  · rw [is]
    constructor
    · intro begins
      rw [← begins]
      exact .inl ⟨rfl, earlier⟩
    · rintro (⟨same, _⟩ | ⟨none, _⟩)
      · exact Option.some.inj same
      · cases none
  · cases lastWindowEndMs with
    | none =>
      rw [found]
      simp
    | some value =>
      -- A last window end that is not before the boundary ends after the window chosen here.
      have late := notEarlier value rfl
      have before := lawful.previous_lt found
      obtain ⟨window, member, ends⟩ := List.mem_map.mp (known value rfl)
      have reached := tiled.end_le_last member last
      constructor
      · intro begins
        omega
      · rintro (⟨same, early⟩ | ⟨none, _⟩)
        · have same := Option.some.inj same
          omega
        · cases none

structure ReportStore.Fresh (store : ReportStore) : Prop where
  noRows : store.rows = []
  noWindows : store.windows = []
  noLastWindow : store.rule.lastWindowEndMs = none
  noWorkers : ∀ owner, store.workers owner = none

theorem ReportStore.Fresh.sound {store : ReportStore} (fresh : store.Fresh) :
    store.Sound schedule ruleId := by
  refine ⟨?_, ?_, ?_⟩
  · rw [fresh.noRows]
    intro row member
    cases member
  · rw [fresh.noLastWindow]
    intro last member
    cases member
  · intro owner worker there
    rw [fresh.noWorkers owner] at there
    cases there

theorem windowsTile_iff {windows : List (Int × Int)}
    (proper : ∀ window ∈ windows, window.1 < window.2) : WindowsTile windows ↔ Tiled windows :=
  ⟨fun tile => ⟨proper, tile.2⟩, fun tiled => ⟨tiled.disjoint, tiled.adjacent⟩⟩

structure ReportHistory (schedule : Schedule) (ruleId : Int)
    (history : List (Transition ReportStore ReportAction)) (store : ReportStore) : Prop where
  sound : store.Sound schedule ruleId
  proper : ∀ window ∈ store.windows, window.1 < window.2
  tiled : Tiled store.windows ↔ ∀ t ∈ history, UpToDate schedule ruleId t

theorem step_reportHistory (lawful : schedule.Lawful occurrences)
    {history : List (Transition ReportStore ReportAction)} {before after : ReportStore}
    {action : ReportAction} (kept : ReportHistory schedule ruleId history before)
    (taken : ReportStep schedule ruleId before action after) :
    ReportHistory schedule ruleId (⟨before, action, after⟩ :: history) after := by
  have windows := step_windows taken
  unfold windowsAfter at windows
  cases created : creation ruleId ⟨before, action, after⟩ with
  | none =>
    rw [created] at windows
    dsimp only at windows
    refine ⟨step_sound kept.sound taken, ?_, ?_⟩
    · rw [windows]
      exact kept.proper
    · have upToDate : UpToDate schedule ruleId ⟨before, action, after⟩ := by
        intro lastWindowEndMs fromMs boundary some
        rw [created] at some
        cases some
      rw [windows, kept.tiled]
      simp [upToDate]
  | some report =>
    obtain ⟨lastWindowEndMs, fromMs, boundary⟩ := report
    rw [created] at windows
    dsimp only at windows
    obtain ⟨known, nowMs, window⟩ := creation_sound kept.sound created
    have positive := lawful.window_proper window
    refine ⟨step_sound kept.sound taken, ?_, ?_⟩
    · rw [windows]
      intro other member
      obtain member | member := List.mem_append.mp member
      · exact kept.proper other member
      · rw [List.mem_singleton.mp member]
        exact positive
    · rw [windows, List.forall_mem_cons]
      constructor
      · intro tiled
        obtain ⟨earlier, follows⟩ := tiled.of_snoc
        refine ⟨?_, kept.tiled.mp earlier⟩
        intro someLast someFrom someBoundary some latest last
        rw [created] at some
        cases some
        exact (begins_iff_upToDate lawful earlier last known window).mp (follows latest last)
      · rintro ⟨upToDate, rest⟩
        have earlier := kept.tiled.mpr rest
        refine earlier.snoc positive fun latest last => ?_
        exact (begins_iff_upToDate lawful earlier last known window).mpr
          (upToDate lastWindowEndMs fromMs boundary created latest last)

theorem run_reportHistory (lawful : schedule.Lawful occurrences) {start final : ReportStore}
    {history : List (Transition ReportStore ReportAction)} (fresh : start.Fresh)
    (run : Execution (ReportStep schedule ruleId) start history final) :
    ReportHistory schedule ruleId history final := by
  refine Execution.invariant (P := ReportHistory schedule ruleId) ?_ ?_ run
  · refine ⟨fresh.sound, ?_, ?_⟩
    · rw [fresh.noWindows]
      intro window member
      cases member
    · rw [fresh.noWindows]
      simp [tiled_nil]
  · intro history before action after kept taken
    exact step_reportHistory lawful kept taken

/-- The windows of the scheduled reports tile time exactly when every report that is created is
computed from a rule that was read up to date. -/
theorem reportWindows_tile_iff (lawful : schedule.Lawful occurrences) {start final : ReportStore}
    {history : List (Transition ReportStore ReportAction)} (fresh : start.Fresh)
    (run : Execution (ReportStep schedule ruleId) start history final) :
    WindowsTile final.windows ↔ ∀ t ∈ history, UpToDate schedule ruleId t := by
  have kept := run_reportHistory lawful fresh run
  rw [windowsTile_iff kept.proper]
  exact kept.tiled

def minutely : Schedule where
  previousOccurrence := fun atMs => some ((atMs - 1) / 60000 * 60000)
  nextOccurrence := fun atMs => some (atMs / 60000 * 60000 + 60000)

def minutes : Set Int := {moment | moment % 60000 = 0}

theorem minutely_lawful : minutely.Lawful minutes := by
  have greatest : ∀ atMs, IsGreatest {moment ∈ minutes | moment < atMs}
      ((atMs - 1) / 60000 * 60000) := by
    intro atMs
    refine ⟨⟨?_, ?_⟩, ?_⟩
    · show (atMs - 1) / 60000 * 60000 % 60000 = 0
      omega
    · show (atMs - 1) / 60000 * 60000 < atMs
      omega
    · rintro moment ⟨whole, before⟩
      have whole : moment % 60000 = 0 := whole
      omega
  have least : ∀ atMs, IsLeast {moment ∈ minutes | atMs < moment}
      (atMs / 60000 * 60000 + 60000) := by
    intro atMs
    refine ⟨⟨?_, ?_⟩, ?_⟩
    · show (atMs / 60000 * 60000 + 60000) % 60000 = 0
      omega
    · show atMs < atMs / 60000 * 60000 + 60000
      omega
    · rintro moment ⟨whole, behind⟩
      have whole : moment % 60000 = 0 := whole
      omega
  constructor
  · intro atMs occurrence
    constructor
    · intro found
      cases found
      exact greatest atMs
    · intro is
      exact congrArg some ((greatest atMs).unique is)
  · intro atMs occurrence
    constructor
    · intro found
      cases found
      exact least atMs
    · intro is
      exact congrArg some ((least atMs).unique is)

def freshStore : ReportStore where
  clockMs := 100000
  rule := { enabled := true, nextRunAtMs := 120000, lastWindowEndMs := none, lease := none }
  rows := []
  windows := []
  workers := fun _ => none

theorem freshStore_fresh : freshStore.Fresh := ⟨rfl, rfl, rfl, fun _ => rfl⟩

/-- A report is created, and its completion has that outcome; the latest action comes first. -/
def processing (owner : String) (nowMs : Int) (completed : CallOutcome) : List ReportAction :=
  [.complete owner completed, .create owner .done, .prepare owner true, .claim owner .done,
    .list owner, .poll owner, .tick nowMs]

/-- The second report is stored, but its completion fails and the rule is released; the next minute
reports its window again. -/
def overlapping : List ReportAction :=
  processing "a" 240000 .done ++
    ReportAction.release "a" .done :: processing "a" 180000 (.failed false) ++
      processing "a" 120000 .done

def adjacent : List ReportAction := processing "b" 240000 .done ++ processing "a" 120000 .done

theorem minute_reported_twice :
    ¬ ∀ (occurrences : Set Int) (schedule : Schedule) (ruleId : Int) (start final : ReportStore)
        (history : List (Transition ReportStore ReportAction)),
      schedule.Lawful occurrences → start.Fresh →
        Execution (ReportStep schedule ruleId) start history final →
          WindowsTile final.windows := by
  intro tile
  have replayed : ∃ run, replay (reportStep minutely 7) freshStore overlapping = some run ∧
      run.2.windows = [(60000, 120000), (120000, 180000), (120000, 240000)] :=
    ⟨_, rfl, by decide⟩
  obtain ⟨⟨history, final⟩, run, windows⟩ := replayed
  have tiled := tile minutes minutely 7 freshStore final history minutely_lawful freshStore_fresh
    (replay_run run)
  rw [windows] at tiled
  have begins := (List.isChain_cons_cons.mp (List.isChain_cons_cons.mp tiled.2).2).1
  exact absurd begins (by decide)

/-- Two instances take turns; the second reports the minutes since the first. -/
theorem reportWindows_tile_iff_adjacent : ∃ history final,
    Execution (ReportStep minutely 7) freshStore history final ∧
      final.windows = [(60000, 120000), (120000, 240000)] ∧
      (WindowsTile final.windows ↔ ∀ t ∈ history, UpToDate minutely 7 t) := by
  have replayed : ∃ run, replay (reportStep minutely 7) freshStore adjacent = some run ∧
      run.2.windows = [(60000, 120000), (120000, 240000)] :=
    ⟨_, rfl, by decide⟩
  obtain ⟨⟨history, final⟩, run, windows⟩ := replayed
  exact ⟨history, final, replay_run run, windows,
    reportWindows_tile_iff minutely_lawful freshStore_fresh (replay_run run)⟩

end CodexGate.Notification
