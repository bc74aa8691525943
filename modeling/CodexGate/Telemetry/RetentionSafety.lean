import CodexGate.Telemetry.Retention

namespace CodexGate.Telemetry

open Foundation

namespace RequestLogTable

variable (table : RequestLogTable) (cutoffTimeMs limit : Int)

theorem before_ages : ((table.before cutoffTimeMs).map RequestLogRow.age).Nodup := by
  have ids : ((table.before cutoffTimeMs).map RequestLogRow.id).Nodup :=
    table.distinct.sublist (List.filter_sublist.map RequestLogRow.id)
  refine List.pairwise_map.mpr ((List.pairwise_map.mp ids).imp ?_)
  intro a b apart same
  exact apart (congrArg (fun age => (ofLex age).2) same)

theorem eq_of_id {a b : RequestLogRow} (first : a ∈ table.rows) (second : b ∈ table.rows)
    (same : a.id = b.id) : a = b :=
  List.inj_on_of_nodup_map table.distinct first second same

theorem mem_delete_iff {row : RequestLogRow} (member : row ∈ table.rows) :
    row ∈ (table.deleteRequestLogsBefore cutoffTimeMs limit).1.rows ↔
      (row.timeMs < cutoffTimeMs → limitRows limit ≤
        countBefore RequestLogRow.age (table.before cutoffTimeMs) row.age) := by
  have removed : row.id ∈ (earliest RequestLogRow.age (limitRows limit)
      (table.before cutoffTimeMs)).map RequestLogRow.id ↔
      row ∈ earliest RequestLogRow.age (limitRows limit) (table.before cutoffTimeMs) := by
    constructor
    · intro listed
      obtain ⟨other, chosen, same⟩ := List.mem_map.mp listed
      have there : other ∈ table.rows := List.mem_of_mem_filter (mem_of_mem_earliest chosen)
      rw [← table.eq_of_id there member same]
      exact chosen
    · exact List.mem_map_of_mem
  have old : row ∈ table.before cutoffTimeMs ↔ row.timeMs < cutoffTimeMs := by
    simp [before, member]
  show row ∈ List.filter _ table.rows ↔ _
  rw [List.mem_filter, decide_eq_true_iff, removed, mem_earliest_iff (table.before_ages cutoffTimeMs),
    old]
  constructor
  · rintro ⟨-, kept⟩ early
    exact Nat.le_of_not_lt fun few => kept ⟨early, few⟩
  · intro shielded
    exact ⟨member, fun ⟨early, few⟩ => Nat.not_lt.mpr (shielded early) few⟩

theorem mem_insert {rows : List RequestLogRow} {row : RequestLogRow} (member : row ∈ table.rows) :
    row ∈ (table.insertRequestLogs rows).rows := by
  unfold insertRequestLogs
  split
  · exact List.mem_append_left rows member
  · exact member

end RequestLogTable

namespace RetentionWorld

variable {ι : Type} [DecidableEq ι]

def Archived (world : RetentionWorld ι) (row : RequestLogRow) : Prop :=
  ∃ batch ∈ world.archive, row ∈ batch

def ArchivesFirst (t : Move ι) : Prop :=
  ∀ row ∈ t.before.table.rows, row ∉ t.after.table.rows → t.before.Archived row

def Archives : RequestLogAction ι → Prop
  | .retention _ (.start policy _) => policy.requestLogArchiveEnabled = true
  | _ => True

structure Deletes (world : RetentionWorld ι) (action : RequestLogAction ι) (inst : Retention)
    (cutoffTimeMs : Int) (rows : List RequestLogRow) : Prop where
  acts : ∃ who answer, action = .retention who (.delete answer) ∧ answer ≠ .failed ∧
    world.instances who = some inst
  phase : ∃ batches, inst.phase = .deleting cutoffTimeMs batches rows

/-- Where an instance deletes, each row older than its cutoff that is neither in the batch it has
listed nor in an archived one has as many rows before it as the delete may remove. -/
def Shielded (t : Move ι) : Prop :=
  ∀ inst cutoffTimeMs rows, Deletes t.before t.action inst cutoffTimeMs rows →
    ∀ row ∈ t.before.table.before cutoffTimeMs, row ∉ rows → ¬t.before.Archived row →
      RequestLogTable.limitRows inst.policy.batch ≤
        countBefore RequestLogRow.age (t.before.table.before cutoffTimeMs) row.age

structure Careful (archive : List (List RequestLogRow)) (inst : Retention) : Prop where
  archives : inst.policy.requestLogArchiveEnabled = true
  listed : ∀ cutoffTimeMs batches rows, inst.phase = .deleting cutoffTimeMs batches rows →
    rows ∈ archive

def Sound (world : RetentionWorld ι) : Prop :=
  ∀ who inst, world.instances who = some inst → Careful world.archive inst

theorem Careful.mono {archive more : List (List RequestLogRow)} {inst : Retention}
    (careful : Careful archive inst) (grows : archive ⊆ more) : Careful more inst where
  archives := careful.archives
  listed cutoffTimeMs batches rows phase := grows (careful.listed cutoffTimeMs batches rows phase)

theorem Careful.quiet {archive : List (List RequestLogRow)} {inst : Retention}
    (archives : inst.policy.requestLogArchiveEnabled = true)
    (quiet : ∀ cutoffTimeMs batches rows, inst.phase ≠ .deleting cutoffTimeMs batches rows) :
    Careful archive inst where
  archives := archives
  listed cutoffTimeMs batches rows phase := absurd phase (quiet cutoffTimeMs batches rows)

theorem Sound.update {world next : RetentionWorld ι} {who : ι} {inst : Retention}
    (sound : world.Sound) (grows : world.archive ⊆ next.archive)
    (changed : next.instances = Function.update world.instances who (some inst))
    (careful : Careful next.archive inst) : next.Sound := by
  intro other found there
  rw [changed, Function.update_apply] at there
  split at there
  · cases there
    exact careful
  · exact (sound other found there).mono grows

theorem begin_sound {world : RetentionWorld ι} {who : ι} {inst : Retention} {nowMs : Int}
    (sound : world.Sound) (archives : inst.policy.requestLogArchiveEnabled = true) :
    (world.begin who inst nowMs).Sound := by
  unfold begin
  split
  · exact sound
  · dsimp only
    split
    all_goals exact sound.update (List.Subset.refl _) rfl (.quiet archives (by simp))

theorem list_sound {world : RetentionWorld ι} {who : ι} {inst : Retention} {cutoffTimeMs : Int}
    {batches : Nat} {fails : Bool} (sound : world.Sound)
    (archives : inst.policy.requestLogArchiveEnabled = true) :
    (world.list who inst cutoffTimeMs batches fails).Sound := by
  unfold list
  dsimp only
  rw [if_pos archives]
  split
  all_goals exact sound.update (List.Subset.refl _) rfl (.quiet archives (by simp))

theorem archiveRows_sound {world : RetentionWorld ι} {who : ι} {inst : Retention}
    {cutoffTimeMs : Int} {batches : Nat} {rows : List RequestLogRow} {fails : Bool}
    (sound : world.Sound) (archives : inst.policy.requestLogArchiveEnabled = true) :
    (world.archiveRows who inst cutoffTimeMs batches rows fails).Sound := by
  unfold archiveRows
  split
  · exact sound.update (List.Subset.refl _) rfl (.quiet archives (by simp))
  · refine sound.update (List.subset_cons_self rows world.archive) rfl ⟨archives, ?_⟩
    rintro _ _ _ ⟨⟩
    exact List.mem_cons_self

theorem delete_sound {world : RetentionWorld ι} {who : ι} {inst : Retention} {cutoffTimeMs : Int}
    {batches : Nat} {answer : DeleteAnswer} (sound : world.Sound)
    (archives : inst.policy.requestLogArchiveEnabled = true) :
    (world.delete who inst cutoffTimeMs batches answer).Sound := by
  have next_quiet (a : Int) (b : Nat) (rows : List RequestLogRow) (n : Nat) :
      RetentionPhase.next cutoffTimeMs n ≠ .deleting a b rows := by cases n <;> simp [RetentionPhase.next]
  cases answer with
  | failed => exact sound.update (List.Subset.refl _) rfl (.quiet archives (by simp))
  | lost => exact sound.update (List.Subset.refl _) rfl (.quiet archives (by simp))
  | removed =>
    refine sound.update (List.Subset.refl _) rfl (.quiet archives ?_)
    intro a b rows
    dsimp only
    split
    · simp
    · exact next_quiet a b rows batches

inductive Goes (world : RetentionWorld ι) (who : ι) :
    Option Retention → RetentionAction → RetentionWorld ι → Prop
  | start {found : Option Retention} {policy : ArchivingPolicy} {nowMs : Int} {inst : Retention}
      (policy_of : inst.policy = policy) :
      Goes world who found (.start policy nowMs) (world.enter who inst .idle)
  | begin {inst : Retention} {nowMs : Int} (phase : inst.phase = .idle) :
      Goes world who (some inst) (.begin nowMs) (world.begin who inst nowMs)
  | list {inst : Retention} {cutoffTimeMs : Int} {batches : Nat} {fails : Bool}
      (phase : inst.phase = .listing cutoffTimeMs (batches + 1)) :
      Goes world who (some inst) (.list fails) (world.list who inst cutoffTimeMs batches fails)
  | archive {inst : Retention} {cutoffTimeMs : Int} {batches : Nat} {rows : List RequestLogRow}
      {fails : Bool} (phase : inst.phase = .archiving cutoffTimeMs batches rows) :
      Goes world who (some inst) (.archive fails)
        (world.archiveRows who inst cutoffTimeMs batches rows fails)
  | delete {inst : Retention} {cutoffTimeMs : Int} {batches : Nat} {rows : List RequestLogRow}
      {answer : DeleteAnswer} (phase : inst.phase = .deleting cutoffTimeMs batches rows) :
      Goes world who (some inst) (.delete answer) (world.delete who inst cutoffTimeMs batches answer)

theorem stepOf_goes {world next : RetentionWorld ι} {who : ι} {found : Option Retention}
    {act : RetentionAction} (taken : world.stepOf who found act = some next) :
    Goes world who found act next := by
  unfold stepOf at taken
  split at taken
  · cases taken
    exact .start rfl
  · split at taken
    all_goals try cases taken
    · exact .begin ‹_›
    · exact .list ‹_›
    · exact .archive ‹_›
    · exact .delete ‹_›
  · cases taken

theorem step_sound {world next : RetentionWorld ι} {action : RequestLogAction ι}
    (sound : world.Sound) (archives : Archives action) (taken : world.step action = some next) :
    next.Sound := by
  cases action with
  | insert rows =>
    cases taken
    exact sound
  | retention who act =>
    change world.stepOf who (world.instances who) act = some next at taken
    generalize at_who : world.instances who = found at taken
    have goes := stepOf_goes taken
    cases goes with
    | start policy_of =>
      subst policy_of
      exact sound.update (List.Subset.refl _) rfl (.quiet archives (by simp))
    | begin => exact begin_sound sound (sound who _ at_who).archives
    | list => exact list_sound sound (sound who _ at_who).archives
    | archive => exact archiveRows_sound sound (sound who _ at_who).archives
    | delete => exact delete_sound sound (sound who _ at_who).archives

theorem begin_table (world : RetentionWorld ι) (who : ι) (inst : Retention) (nowMs : Int) :
    (world.begin who inst nowMs).table = world.table := by
  unfold begin
  split
  · rfl
  · dsimp only
    split <;> rfl

theorem list_table (world : RetentionWorld ι) (who : ι) (inst : Retention) (cutoffTimeMs : Int)
    (batches : Nat) (fails : Bool) :
    (world.list who inst cutoffTimeMs batches fails).table = world.table := by
  unfold list
  dsimp only
  split
  · rfl
  · split <;> rfl

theorem archiveRows_table (world : RetentionWorld ι) (who : ι) (inst : Retention)
    (cutoffTimeMs : Int) (batches : Nat) (rows : List RequestLogRow) (fails : Bool) :
    (world.archiveRows who inst cutoffTimeMs batches rows fails).table = world.table := by
  unfold archiveRows
  split <;> rfl

theorem delete_table (world : RetentionWorld ι) (who : ι) (inst : Retention) (cutoffTimeMs : Int)
    (batches : Nat) (answer : DeleteAnswer) :
    (world.delete who inst cutoffTimeMs batches answer).table =
      if answer = .failed then world.table
      else (world.table.deleteRequestLogsBefore cutoffTimeMs inst.policy.batch).1 := by
  cases answer <;> rfl

omit [DecidableEq ι] in
theorem Deletes.answer {world : RetentionWorld ι} {who : ι} {act : RetentionAction}
    {inst : Retention} {cutoffTimeMs : Int} {rows : List RequestLogRow}
    (deletes : Deletes world (.retention who act) inst cutoffTimeMs rows) :
    ∃ answer, act = .delete answer ∧ answer ≠ .failed ∧ world.instances who = some inst := by
  obtain ⟨other, answer, same, succeeds, there⟩ := deletes.acts
  cases same
  exact ⟨answer, rfl, succeeds, there⟩

def Taken (world : RetentionWorld ι) (action : RequestLogAction ι) (row : RequestLogRow) : Prop :=
  ∃ inst cutoffTimeMs rows, Deletes world action inst cutoffTimeMs rows ∧
    row.timeMs < cutoffTimeMs ∧
    countBefore RequestLogRow.age (world.table.before cutoffTimeMs) row.age <
      RequestLogTable.limitRows inst.policy.batch

omit [DecidableEq ι] in
theorem delete_taken_iff {world : RetentionWorld ι} {who : ι} {inst : Retention}
    {cutoffTimeMs : Int} {batches : Nat} {rows : List RequestLogRow} {answer : DeleteAnswer}
    (there : world.instances who = some inst)
    (phase : inst.phase = .deleting cutoffTimeMs batches rows) (succeeds : answer ≠ .failed)
    (row : RequestLogRow) :
    Taken world (.retention who (.delete answer)) row ↔ row.timeMs < cutoffTimeMs ∧
      countBefore RequestLogRow.age (world.table.before cutoffTimeMs) row.age <
        RequestLogTable.limitRows inst.policy.batch := by
  constructor
  · rintro ⟨other, cutoff, listed, deletes, early, few⟩
    obtain ⟨_, _, _, again⟩ := deletes.answer
    cases there.symm.trans again
    obtain ⟨_, same⟩ := deletes.phase
    cases phase.symm.trans same
    exact ⟨early, few⟩
  · rintro ⟨early, few⟩
    exact ⟨inst, cutoffTimeMs, rows, ⟨⟨who, answer, rfl, succeeds, there⟩, batches, phase⟩, early, few⟩

theorem removed_iff {world next : RetentionWorld ι} {action : RequestLogAction ι}
    (taken : world.step action = some next) {row : RequestLogRow} (member : row ∈ world.table.rows) :
    row ∉ next.table.rows ↔ Taken world action row := by
  have kept (stays : row ∈ next.table.rows) (quiet : ¬Taken world action row) :
      row ∉ next.table.rows ↔ Taken world action row :=
    iff_of_false (not_not.mpr stays) quiet
  cases action with
  | insert rows =>
    cases taken
    refine kept (world.table.mem_insert member) ?_
    rintro ⟨_, _, _, ⟨⟨_, _, same, _⟩, _⟩, _⟩
    cases same
  | retention who act =>
    change world.stepOf who (world.instances who) act = some next at taken
    generalize at_who : world.instances who = found at taken
    have other_act (differs : ∀ answer, act ≠ .delete answer) :
        ¬Taken world (.retention who act) row := by
      rintro ⟨_, _, _, deletes, _⟩
      obtain ⟨answer, same, _⟩ := deletes.answer
      exact differs answer same
    have goes := stepOf_goes taken
    cases goes with
    | start => exact kept member (other_act (by simp))
    | begin =>
      refine kept ?_ (other_act (by simp))
      rw [begin_table]
      exact member
    | list =>
      refine kept ?_ (other_act (by simp))
      rw [list_table]
      exact member
    | archive =>
      refine kept ?_ (other_act (by simp))
      rw [archiveRows_table]
      exact member
    | @delete inst cutoffTimeMs batches rows answer phase =>
      by_cases fails : answer = .failed
      · have stays : row ∈ (world.delete who inst cutoffTimeMs batches answer).table.rows := by
          rw [delete_table, if_pos fails]
          exact member
        refine kept stays ?_
        rintro ⟨_, _, _, deletes, _⟩
        obtain ⟨_, same, succeeds, _⟩ := deletes.answer
        cases same
        exact succeeds fails
      · rw [delete_table, if_neg fails, delete_taken_iff at_who phase fails,
          world.table.mem_delete_iff _ _ member]
        simp only [Classical.not_imp, not_le]

theorem archivesFirst_iff {t : Move ι} (sound : t.before.Sound)
    (taken : t.before.step t.action = some t.after) : ArchivesFirst t ↔ Shielded t := by
  constructor
  · intro first inst cutoffTimeMs rows deletes row old _ unarchived
    have member : row ∈ t.before.table.rows := List.mem_of_mem_filter old
    have early : row.timeMs < cutoffTimeMs := by
      have := List.of_mem_filter old
      simpa using this
    by_contra few
    have gone := (removed_iff taken member).mpr
      ⟨inst, cutoffTimeMs, rows, deletes, early, Nat.lt_of_not_le few⟩
    exact unarchived (first row member gone)
  · intro shielded row member gone
    obtain ⟨inst, cutoffTimeMs, rows, deletes, early, few⟩ := (removed_iff taken member).mp gone
    by_contra unarchived
    have old : row ∈ t.before.table.before cutoffTimeMs := by
      simp [RequestLogTable.before, member, early]
    have unlisted : row ∉ rows := by
      intro listed
      obtain ⟨_, _, _, _, there⟩ := deletes.acts
      obtain ⟨_, phase⟩ := deletes.phase
      exact unarchived ⟨rows, (sound _ inst there).listed _ _ _ phase, listed⟩
    have many := shielded inst cutoffTimeMs rows deletes row old unlisted unarchived
    omega

theorem run_sound {table : RequestLogTable} {history : List (Move ι)} {world : RetentionWorld ι}
    (run : Run (idle table) history world) (archives : ∀ t ∈ history, Archives t.action) :
    world.Sound := by
  induction run with
  | start =>
    intro who inst there
    cases there
  | next run taken ih =>
    have before := ih fun t member => archives t (List.mem_cons_of_mem _ member)
    exact step_sound before (archives _ List.mem_cons_self) taken

/-- Every row is archived before it is deleted in the runs whose deletes are shielded. -/
theorem run_archivesFirst {table : RequestLogTable} {history : List (Move ι)}
    {world : RetentionWorld ι} (run : Run (idle table) history world)
    (archives : ∀ t ∈ history, Archives t.action) :
    (∀ t ∈ history, ArchivesFirst t) ↔ ∀ t ∈ history, Shielded t := by
  have same : ∀ t ∈ history, (ArchivesFirst t ↔ Shielded t) := by
    intro t member
    obtain ⟨recent, earlier, rfl⟩ := List.append_of_mem member
    obtain ⟨before, taken, -⟩ := run.split_at
    refine archivesFirst_iff (run_sound before ?_) taken
    intro u there
    exact archives u (List.mem_append_right _ (List.mem_cons_of_mem _ there))
  constructor
  · intro first t member
    exact (same t member).mp (first t member)
  · intro shielded t member
    exact (same t member).mpr (shielded t member)

def logAt (id : String) (timeMs : Int) : RequestLogRow where
  id := id
  timeMs := timeMs
  apiKeyId := 1
  providerId := none
  endpointId := none
  upstreamKeyId := none
  apiFormat := "responses"
  upstreamApiFormat := none
  model := none
  httpStatus := none
  errorType := none
  errorMessage := none
  usage := ⟨0, 0, 0, 0, 0⟩
  usageObserved := false
  priceVersionId := none
  priceTierIndex := none
  tStreamMs := none
  tFirstByteMs := none
  tFirstTokenMs := none
  durationMs := none
  spanKind := "request"
  transport := "http"
  parentId := none
  wsSessionId := none
  ttftSource := none
  requestedReasoningEffort := none
  upstreamReasoningEffort := none
  requestedServiceTier := none
  upstreamServiceTier := none
  serviceTier := none
  routingTrace := none
  createdAtMs := timeMs

abbrev twoLogs : RequestLogTable where
  rows := [logAt "a" 1, logAt "b" 2]
  distinct := by decide

abbrev oneADay : ArchivingPolicy := .new 1 0 1000 1 true

abbrev twoLogsWorld : RetentionWorld Bool := idle twoLogs

def firstBatch (who : Bool) : List (RequestLogAction Bool) :=
  [.retention who (.delete .removed), .retention who (.archive false), .retention who (.list false),
    .retention who (.begin (2 * millisPerDay)), .retention who (.start oneADay 0)]

def bothDelete : List (RequestLogAction Bool) :=
  [.retention true (.delete .removed), .retention false (.delete .removed)] ++
    (firstBatch true).tail ++ (firstBatch false).tail

def archivesBool (t : Move Bool) : Bool :=
  match t.action with
  | .retention _ (.start policy _) => policy.requestLogArchiveEnabled
  | _ => true

theorem archives_of_all {history : List (Move Bool)} (all : history.all archivesBool = true) :
    ∀ t ∈ history, Archives t.action := by
  intro t member
  have there := List.all_eq_true.mp all t member
  unfold archivesBool at there
  unfold Archives
  split
  · simp_all
  · trivial

def losesSecond (t : Move Bool) : Bool :=
  t.before.table.rows.any (fun row => row.id = "b") && t.after.table.rows.isEmpty &&
    t.before.archive.all fun batch => batch.all fun row => row.id = "a"

theorem not_archivesFirst {t : Move Bool} (loses : losesSecond t = true) : ¬ArchivesFirst t := by
  simp only [losesSecond, Bool.and_eq_true, List.any_eq_true, List.all_eq_true, decide_eq_true_iff,
    List.isEmpty_iff] at loses
  obtain ⟨⟨⟨row, member, second⟩, empty⟩, archived⟩ := loses
  intro first
  have gone : row ∉ t.after.table.rows := by simp [empty]
  obtain ⟨batch, there, listed⟩ := first row member gone
  have same := archived batch there row listed
  rw [second] at same
  exact absurd same (by decide)

theorem run_archivesFirst_fails : ∃ (table : RequestLogTable) (history : List (Move Bool))
    (world : RetentionWorld Bool), Run (idle table) history world ∧
      (∀ t ∈ history, Archives t.action) ∧ ¬∀ t ∈ history, ArchivesFirst t := by
  have replayed : ∃ run, replay step twoLogsWorld bothDelete = some run ∧
      run.1.all archivesBool = true ∧ run.1.any losesSecond = true :=
    ⟨_, rfl, by decide, by decide⟩
  obtain ⟨⟨history, world⟩, replayed, archives, loses⟩ := replayed
  refine ⟨twoLogs, history, world, replay_run replayed, archives_of_all archives, ?_⟩
  intro first
  obtain ⟨t, member, loses⟩ := List.any_eq_true.mp loses
  exact not_archivesFirst loses (first t member)

theorem run_archivesFirst_alone : ∃ (history : List (Move Bool)) (world : RetentionWorld Bool),
    Run (idle twoLogs) history world ∧ (∀ t ∈ history, Archives t.action) ∧
      world.table.rows.length = 1 ∧
      ((∀ t ∈ history, ArchivesFirst t) ↔ ∀ t ∈ history, Shielded t) := by
  have replayed : ∃ run, replay step twoLogsWorld (firstBatch false) = some run ∧
      run.1.all archivesBool = true ∧ run.2.table.rows.length = 1 :=
    ⟨_, rfl, by decide, by decide⟩
  obtain ⟨⟨history, world⟩, replayed, archives, left⟩ := replayed
  have run := replay_run replayed
  have careful := archives_of_all archives
  exact ⟨history, world, run, careful, left, run_archivesFirst run careful⟩

/-- Retentions keep at least so many days, up to the latest time at which one begins. -/
def promises (days : Nat) (latestMs : Int) : RequestLogAction ι → Bool
  | .retention _ (.start policy _) =>
    policy.requestLogRetentionDays == 0 || days ≤ policy.requestLogRetentionDays
  | .retention _ (.begin nowMs) => nowMs ≤ latestMs
  | _ => true

def youngest (days : Nat) (latestMs : Int) : Int :=
  saturatingSubI64 latestMs (saturatingMulI64 days millisPerDay)

def cutoffOf : RetentionPhase → Option Int
  | .idle => none
  | .listing cutoffTimeMs _ | .archiving cutoffTimeMs _ _ | .deleting cutoffTimeMs _ _ =>
    some cutoffTimeMs

structure Patient (days : Nat) (latestMs : Int) (inst : Retention) : Prop where
  keeps : 0 < inst.policy.requestLogRetentionDays → days ≤ inst.policy.requestLogRetentionDays
  cutoff : ∀ cutoffTimeMs, cutoffOf inst.phase = some cutoffTimeMs →
    cutoffTimeMs ≤ youngest days latestMs

def AllPatient (days : Nat) (latestMs : Int) (instances : ι → Option Retention) : Prop :=
  ∀ who inst, instances who = some inst → Patient days latestMs inst

section Young

variable {days : Nat} {latestMs : Int} {world next : RetentionWorld ι} {inst : Retention}

theorem AllPatient.update {instances : ι → Option Retention} (all : AllPatient days latestMs instances)
    (who : ι) (patient : Patient days latestMs inst) :
    AllPatient days latestMs (Function.update instances who (some inst)) := by
  intro other found there
  rw [Function.update_apply] at there
  split at there
  · cases there
    exact patient
  · exact all other found there

theorem Patient.moved (patient : Patient days latestMs inst) {moved : Retention}
    (policy : moved.policy = inst.policy)
    (cutoff : cutoffOf moved.phase = none ∨ cutoffOf moved.phase = cutoffOf inst.phase) :
    Patient days latestMs moved := by
  refine ⟨policy ▸ patient.keeps, fun cutoffTimeMs here => ?_⟩
  rcases cutoff with none | same
  · rw [none] at here
    cases here
  · exact patient.cutoff _ (same.symm.trans here)

theorem cutoff_le {more : Nat} (keeps : days ≤ more) {nowMs : Int} (order : nowMs ≤ latestMs) :
    saturatingSubI64 nowMs (saturatingMulI64 more millisPerDay) ≤ youngest days latestMs := by
  have longer : (days : Int) * millisPerDay ≤ more * millisPerDay :=
    Int.mul_le_mul_of_nonneg_right (Int.ofNat_le.mpr keeps) (by unfold millisPerDay; omega)
  unfold youngest saturatingSubI64 saturatingMulI64 clampI64
  exact max_le_max (le_refl _) (min_le_min (Int.sub_le_sub order
    (max_le_max (le_refl _) (min_le_min longer (le_refl _)))) (le_refl _))

theorem step_patient {action : RequestLogAction ι} (patient : AllPatient days latestMs world.instances)
    (promised : promises days latestMs action = true) (taken : world.step action = some next) :
    AllPatient days latestMs next.instances := by
  cases action with
  | insert rows =>
    cases taken
    exact patient
  | retention who act =>
    change world.stepOf who (world.instances who) act = some next at taken
    generalize at_who : world.instances who = found at taken
    cases stepOf_goes taken with
    | start policy_of =>
      subst policy_of
      refine patient.update who ⟨fun positive => ?_, fun _ none => by cases none⟩
      simpa [promises, Nat.pos_iff_ne_zero.mp positive] using promised
    | begin =>
      have own := patient who _ at_who
      unfold begin
      split
      · exact patient
      dsimp only
      split
      · rename_i positive
        refine patient.update who ⟨own.keeps, fun _ here => ?_⟩
        cases here
        exact cutoff_le (own.keeps positive) (by simpa [promises] using promised)
      · exact patient.update who (own.moved rfl (.inl rfl))
    | list phase =>
      have own := patient who _ at_who
      unfold list
      dsimp only
      split
      · exact patient.update who (own.moved rfl (.inl rfl))
      split
      all_goals exact patient.update who (own.moved rfl (.inr (by rw [phase]; rfl)))
    | archive phase =>
      have own := patient who _ at_who
      unfold archiveRows
      split
      · exact patient.update who (own.moved rfl (.inl rfl))
      · exact patient.update who (own.moved rfl (.inr (by rw [phase]; rfl)))
    | @delete inst cutoffTimeMs batches rows answer phase =>
      have own := patient who _ at_who
      have next_cutoff (n : Nat) : cutoffOf (.next cutoffTimeMs n) = none ∨
          cutoffOf (.next cutoffTimeMs n) = cutoffOf inst.phase := by
        rw [phase]
        cases n with
        | zero => exact .inl rfl
        | succ n => exact .inr rfl
      cases answer with
      | failed => exact patient.update who (own.moved rfl (.inl rfl))
      | lost => exact patient.update who (own.moved rfl (.inl rfl))
      | removed =>
        refine patient.update who (own.moved rfl ?_)
        dsimp only
        split
        · exact .inl rfl
        · exact next_cutoff batches

theorem run_patient {table : RequestLogTable} {history : List (Move ι)}
    (run : Run (idle table) history world)
    (promised : ∀ t ∈ history, promises days latestMs t.action = true) :
    AllPatient days latestMs world.instances := by
  induction run with
  | start =>
    intro who inst there
    cases there
  | next run taken ih =>
    have before := ih fun t member => promised t (List.mem_cons_of_mem _ member)
    exact step_patient before (promised _ List.mem_cons_self) taken

/-- No row is deleted while it is younger than every retention keeps rows. -/
theorem run_keepsYoung {table : RequestLogTable} {history : List (Move ι)}
    (run : Run (idle table) history world) (days : Nat) (latestMs : Int)
    (promised : ∀ t ∈ history, promises days latestMs t.action = true) :
    ∀ t ∈ history, ∀ row ∈ t.before.table.rows, youngest days latestMs ≤ row.timeMs →
      row ∈ t.after.table.rows := by
  intro t member row there young
  obtain ⟨recent, earlier, rfl⟩ := List.append_of_mem member
  obtain ⟨before, taken, -⟩ := run.split_at
  have patient : AllPatient days latestMs t.before.instances := run_patient before fun u here =>
    promised u (List.mem_append_right _ (List.mem_cons_of_mem _ here))
  by_contra gone
  obtain ⟨inst, cutoffTimeMs, rows, deletes, early, -⟩ := (removed_iff taken there).mp gone
  obtain ⟨_, _, _, _, at_who⟩ := deletes.acts
  obtain ⟨_, phase⟩ := deletes.phase
  have reached := (patient _ inst at_who).cutoff cutoffTimeMs (by rw [phase]; rfl)
  omega

theorem run_keepsYoung_day : ∃ (history : List (Move Bool)) (world : RetentionWorld Bool),
    Run (idle twoLogs) history world ∧ world.table.rows.length = 1 ∧
      ∀ t ∈ history, ∀ row ∈ t.before.table.rows, millisPerDay ≤ row.timeMs →
        row ∈ t.after.table.rows := by
  have replayed : ∃ run, replay step twoLogsWorld (firstBatch false) = some run ∧
      run.1.all (promises 1 (2 * millisPerDay) ·.action) = true ∧ run.2.table.rows.length = 1 :=
    ⟨_, rfl, by decide, by decide⟩
  obtain ⟨⟨history, world⟩, replayed, promised, left⟩ := replayed
  have run := replay_run replayed
  exact ⟨history, world, run, left, run_keepsYoung run 1 (2 * millisPerDay)
    (List.all_eq_true.mp promised)⟩

end Young

end RetentionWorld

end CodexGate.Telemetry
