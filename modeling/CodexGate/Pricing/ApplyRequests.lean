import CodexGate.Pricing.Resync

namespace CodexGate.Pricing

open Foundation
open SyncTables

variable {Decimal ι : Type}

structure ApplyRequest where
  sourceVersion : String
  useCloud : List String

def jobAgeMs : Int := 86400000

def checkJob (request : ApplyRequest) (stored : Option SyncJob) (nowMs : Int) : Except String SyncJob :=
  match stored with
  | none => .error "preview not found or expired"
  | some job =>
    if job.status ≠ .preview ∨ job.sourceVersion ≠ request.sourceVersion ∨
        jobAgeMs < nowMs - job.createdAtMs then
      .error "preview version is stale; create a new preview"
    else if request.useCloud.any fun name => !job.conflicts.any fun conflict => conflict.modelName = name then
      .error "unknown manual conflict selection"
    else .ok job

def saveSyncJob (nowMs : Int) (job : SyncJob) : Option SyncJob :=
  if job.createdAtMs < nowMs - jobAgeMs then none else some job

inductive RequestPhase
  | arrived
  | checked (job : SyncJob)
  | leased (job : SyncJob)
  | running (job : SyncJob)
  | returned (job : SyncJob) (committed : Bool)
  | recorded (committed : Bool)
  | ended (committed : Bool)
  | refused (error : String)

namespace RequestPhase

def job : RequestPhase → Option SyncJob
  | checked job | leased job | running job | returned job _ => some job
  | arrived | recorded _ | ended _ | refused _ => none

def committed : RequestPhase → Bool
  | returned _ committed | recorded committed | ended committed => committed
  | arrived | checked _ | leased _ | running _ | refused _ => false

def acquired : RequestPhase → Bool
  | leased _ | running _ | returned .. | recorded _ | ended _ => true
  | arrived | checked _ | refused _ => false

def hasWritten : RequestPhase → Bool
  | running _ | returned .. | recorded _ | ended _ => true
  | arrived | checked _ | leased _ | refused _ => false

def beats : RequestPhase → Bool
  | running _ | returned .. | recorded _ => true
  | arrived | checked _ | leased _ | ended _ | refused _ => false

def hasReported : RequestPhase → Bool
  | recorded committed | ended committed => committed
  | arrived | checked _ | leased _ | running _ | returned .. | refused _ => false

def isOver : RequestPhase → Bool
  | ended _ | refused _ => true
  | arrived | checked _ | leased _ | running _ | returned .. | recorded _ => false

end RequestPhase

structure ApplyStore (ι : Type) where
  stored : Option SyncJob
  tables : SyncTables
  phases : ι → RequestPhase

inductive RequestAction (ι : Type)
  | read (i : ι) (nowMs : Int)
  | lease (i : ι) (nowMs : Int)
  | start (i : ι) (nowMs : Int)
  | renew (i : ι) (nowMs : Int)
  /-- `apply_sync`, which can fail in the database; `pending` is the error of the reconciliation. -/
  | apply (i : ι) (nowMs : Int) (newId : List StoredPrice → Int) (failure pending : Option String)
  | record (i : ι) (finishedMs nowMs : Int)
  | release (i : ι) (works : Bool)
  /-- The database fails before the lease is acquired. -/
  | fail (i : ι) (error : String)

namespace ApplyStore

def initial (preview : SyncJob) (tables : SyncTables) : ApplyStore ι where
  stored := some preview
  tables := tables
  phases _ := .arrived

variable [DecidableEq ι]

def enter (store : ApplyStore ι) (i : ι) (phase : RequestPhase) : ApplyStore ι :=
  { store with phases := Function.update store.phases i phase }

def setControl (store : ApplyStore ι) (control : SyncControl) : ApplyStore ι :=
  { store with tables := { store.tables with control := control } }

section Steps

variable (crates : PriceCrates Decimal) (requests : ι → ApplyRequest) (owners : ι → String)

def failed (job : SyncJob) (error : String) : SyncJob :=
  { job with
    status := .failed
    error := some error }

def applied (store : ApplyStore ι) (i : ι) (job : SyncJob) (pending : Option String) :
    Except String Progress → ApplyStore ι
  | .ok (tables, counts) =>
    { store with tables := tables }.enter i (.returned
      { job with
        counts := counts
        status := .applied
        error := pending.or job.error } true)
  | .error error => store.enter i (.returned (failed job error) false)

def step (store : ApplyStore ι) : RequestAction ι → Option (ApplyStore ι)
  | .read i nowMs =>
    match store.phases i with
    | .arrived =>
      some (store.enter i (match checkJob (requests i) store.stored nowMs with
        | .ok job => .checked job
        | .error error => .refused error))
    | _ => none
  | .lease i nowMs =>
    match store.phases i with
    | .checked job =>
      if store.tables.control.leaseUntilMs ≤ nowMs then
        some ((store.setControl (store.tables.control.lease (owners i) job.id nowMs)).enter i (.leased job))
      else some (store.enter i (.refused "a price sync task is already running"))
    | _ => none
  | .start i nowMs =>
    match store.phases i with
    | .leased job =>
      let job :=
        { job with
          status := .running
          kind := .apply
          finishedAtMs := none }
      some ({ store with stored := saveSyncJob nowMs job }.enter i (.running job))
    | _ => none
  | .renew i nowMs =>
    if (store.phases i).beats then
      some (store.setControl (store.tables.control.renew (owners i) nowMs))
    else none
  | .apply i nowMs newId failure pending =>
    match store.phases i with
    | .running job =>
      some (store.applied i job pending (match failure with
        | some error => .error error
        | none => applySync crates store.tables ⟨job, (requests i).useCloud, owners i, nowMs, newId⟩))
    | _ => none
  | .record i finishedMs nowMs =>
    match store.phases i with
    | .returned job committed =>
      let job :=
        { job with
          finishedAtMs := some finishedMs
          models := []
          expected := ∅
          conflicts := [] }
      some ({ store with stored := saveSyncJob nowMs job }.enter i (.recorded committed))
    | _ => none
  | .release i works =>
    match store.phases i with
    | .recorded committed =>
      let released := if works then store.setControl (store.tables.control.release (owners i)) else store
      some (released.enter i (.ended committed))
    | _ => none
  | .fail i error =>
    match store.phases i with
    | .arrived | .checked _ => some (store.enter i (.refused error))
    | _ => none

abbrev Step (before : ApplyStore ι) (action : RequestAction ι) (after : ApplyStore ι) : Prop :=
  before.step crates requests owners action = some after

end Steps

def isApplied (store : ApplyStore ι) : Bool := store.stored.any fun job => job.status = .applied

structure StatusFollows (store : ApplyStore ι) : Prop where
  applied : store.isApplied = true ↔ ∃ i, (store.phases i).committed = true
  preview : (store.stored.map (·.status)) = some .preview → ∀ i, (store.phases i).acquired = false

def misreports (store : ApplyStore ι) : RequestAction ι → Bool
  | .start _ _ => store.isApplied
  | .record i _ nowMs =>
    store.isApplied || (match store.phases i with
      | .returned job true => job.createdAtMs < nowMs - jobAgeMs
      | _ => false)
  | _ => false

section Steps

variable {crates : PriceCrates Decimal} {requests : ι → ApplyRequest} {owners : ι → String}

theorem applyModel_control {call : Application} {progress next : Progress} {model : CatalogRecord}
    (applied : applyModel crates call progress model = .ok next) : next.1.control = progress.1.control := by
  have inserted : ∀ {progress : Progress} {modelName : String} {card : Json},
      insertPrice crates call progress modelName card = .ok next → next.1.control = progress.1.control := by
    intro progress modelName card inserted
    obtain ⟨-, inserted⟩ := refused_eq_ok.mp inserted
    cases inserted
    rfl
  unfold applyModel at applied
  dsimp only at applied
  split at applied
  · cases applied
    rfl
  · obtain ⟨-, applied⟩ := refused_eq_ok.mp applied
    unfold applyPrice at applied
    dsimp only at applied
    split at applied
    · have kept := inserted applied
      exact kept
    · split at applied
      · cases applied
        rfl
      · obtain ⟨old, -, applied⟩ := bind_eq_ok.mp applied
        split at applied
        · cases applied
          rfl
        · obtain ⟨-, applied⟩ := refused_eq_ok.mp applied
          have kept := inserted applied
          exact kept

theorem applyModels_control {call : Application} {models : List CatalogRecord} {progress next : Progress}
    (applied : models.foldlM (applyModel crates call) progress = .ok next) :
    next.1.control = progress.1.control := by
  induction models generalizing progress with
  | nil =>
    cases applied
    rfl
  | cons model rest ih =>
    obtain ⟨middle, first, later⟩ := bind_eq_ok.mp applied
    exact (ih later).trans (applyModel_control first)

theorem applySync_generation {tables later : SyncTables} {call : Application} {counts : Counts}
    (applied : applySync crates tables call = .ok (later, counts)) :
    tables.control.catalogGeneration = call.job.catalogGeneration ∧
      later.control.catalogGeneration = call.job.catalogGeneration + 1 := by
  obtain ⟨-, generation, progress, looped, same⟩ := applySync_eq_ok.mp applied
  cases same
  refine ⟨generation, ?_⟩
  have kept := applyModels_control looped
  dsimp only
  rw [kept, ← generation]
  rfl

inductive Effect (before : ApplyStore ι) : RequestAction ι → ApplyStore ι → Prop
  | renews {i : ι} {nowMs : Int} (after : ApplyStore ι) (stored : after.stored = before.stored)
    (phases : after.phases = before.phases)
    (generation : after.tables.control.catalogGeneration = before.tables.control.catalogGeneration) :
    Effect before (.renew i nowMs) after
  | moves {action : RequestAction ι} (i : ι) (phase : RequestPhase) (after : ApplyStore ι)
    (quiet : before.misreports action = false) (stored : after.stored = before.stored)
    (phases : after.phases = Function.update before.phases i phase)
    (generation : after.tables.control.catalogGeneration = before.tables.control.catalogGeneration)
    (committed : phase.committed = (before.phases i).committed)
    (reported : phase.hasReported = (before.phases i).hasReported)
    (written : phase.hasWritten = (before.phases i).hasWritten)
    (unreturned : ∀ job committed, phase ≠ .returned job committed)
    (job : ∀ job, phase.job = some job →
      (before.phases i).job = some job ∨ before.stored = some job ∧ job.status = .preview) :
    Effect before action after
  | starts {i : ι} {nowMs : Int} (held job : SyncJob) (here : before.phases i = .leased held)
    (running : job.status = .running) (same : job.catalogGeneration = held.catalogGeneration) :
    Effect before (.start i nowMs) ({ before with stored := saveSyncJob nowMs job }.enter i (.running job))
  | returns {i : ι} {nowMs : Int} {newId : List StoredPrice → Int} {failure pending : Option String}
    (tables : SyncTables) (held job : SyncJob) (committed : Bool) (here : before.phases i = .running held)
    (status : job.status = if committed then .applied else .failed)
    (same : job.catalogGeneration = held.catalogGeneration)
    (generation : if committed then
        before.tables.control.catalogGeneration = held.catalogGeneration ∧
          tables.control.catalogGeneration = held.catalogGeneration + 1
      else tables = before.tables) :
    Effect before (.apply i nowMs newId failure pending)
      ({ before with tables := tables }.enter i (.returned job committed))
  | records {i : ι} {finishedMs nowMs : Int} (held job : SyncJob) (committed : Bool)
    (here : before.phases i = .returned held committed) (status : job.status = held.status)
    (created : job.createdAtMs = held.createdAtMs) :
    Effect before (.record i finishedMs nowMs)
      ({ before with stored := saveSyncJob nowMs job }.enter i (.recorded committed))

theorem checkJob_ok {request : ApplyRequest} {stored : Option SyncJob} {nowMs : Int} {job : SyncJob}
    (checked : checkJob request stored nowMs = .ok job) : stored = some job ∧ job.status = .preview := by
  unfold checkJob at checked
  split at checked
  · cases checked
  · obtain ⟨fits, checked⟩ := refused_eq_ok.mp checked
    obtain ⟨-, checked⟩ := refused_eq_ok.mp checked
    cases checked
    rw [not_or, not_not] at fits
    exact ⟨rfl, fits.1⟩

theorem step_effect {before after : ApplyStore ι} {action : RequestAction ι}
    (taken : Step crates requests owners before action after) : Effect before action after := by
  unfold Step step at taken
  cases action with
  | read i nowMs =>
    dsimp only at taken
    split at taken
    · rename_i arrived
      cases taken
      cases checked : checkJob (requests i) before.stored nowMs with
      | ok job =>
        refine .moves i (.checked job) _ rfl rfl rfl rfl ?_ ?_ ?_ (fun _ _ same => by cases same) ?_
        · rw [arrived]; rfl
        · rw [arrived]; rfl
        · rw [arrived]; rfl
        · intro other same
          cases same
          exact .inr (checkJob_ok checked)
      | error error =>
        refine .moves i (.refused error) _ rfl rfl rfl rfl ?_ ?_ ?_
          (fun _ _ same => by cases same) (fun _ none => by cases none)
        · rw [arrived]; rfl
        · rw [arrived]; rfl
        · rw [arrived]; rfl
    · cases taken
  | lease i nowMs =>
    dsimp only at taken
    split at taken
    · rename_i job here
      split at taken
      · rename_i free
        cases taken
        refine .moves i (.leased job) _ rfl rfl rfl ?_ ?_ ?_ ?_ (fun _ _ same => by cases same) ?_
        · unfold setControl SyncControl.lease
          dsimp only [enter]
          rw [if_pos free]
        · rw [here]; rfl
        · rw [here]; rfl
        · rw [here]; rfl
        · intro other same
          cases same
          exact .inl (by rw [here]; rfl)
      · cases taken
        refine .moves i (.refused _) _ rfl rfl rfl rfl ?_ ?_ ?_
          (fun _ _ same => by cases same) (fun _ none => by cases none)
        · rw [here]; rfl
        · rw [here]; rfl
        · rw [here]; rfl
    · cases taken
  | start i nowMs =>
    dsimp only at taken
    split at taken
    · rename_i job here
      cases taken
      exact .starts job _ here rfl rfl
    · cases taken
  | renew i nowMs =>
    dsimp only at taken
    split at taken
    · cases taken
      refine .renews _ rfl rfl ?_
      unfold setControl SyncControl.renew
      dsimp only
      split <;> rfl
    · cases taken
  | apply i nowMs newId failure pending =>
    dsimp only at taken
    split at taken
    · rename_i job here
      cases taken
      cases failure with
      | some error => exact .returns before.tables job _ false here rfl rfl rfl
      | none =>
        dsimp only
        cases result : applySync crates before.tables
            ⟨job, (requests i).useCloud, owners i, nowMs, newId⟩ with
        | error error => exact .returns before.tables job _ false here rfl rfl rfl
        | ok progress =>
          obtain ⟨tables, counts⟩ := progress
          exact .returns tables job _ true here rfl rfl (applySync_generation result)
    · cases taken
  | record i finishedMs nowMs =>
    dsimp only at taken
    split at taken
    · rename_i job committed here
      cases taken
      exact .records job _ committed here rfl rfl
    · cases taken
  | release i works =>
    dsimp only at taken
    split at taken
    · rename_i committed here
      cases taken
      refine .moves i (.ended committed) _ rfl ?_ ?_ ?_ ?_ ?_ ?_
          (fun _ _ same => by cases same) (fun _ none => by cases none)
      · cases works <;> rfl
      · cases works <;> rfl
      · have kept : (before.tables.control.release (owners i)).catalogGeneration =
            before.tables.control.catalogGeneration := by
          unfold SyncControl.release
          split <;> rfl
        cases works with
        | false => rfl
        | true => exact kept
      · rw [here]; rfl
      · rw [here]; rfl
      · rw [here]; rfl
    · cases taken
  | fail i error =>
    dsimp only at taken
    have refuse : (before.phases i).committed = false → (before.phases i).hasReported = false →
        (before.phases i).hasWritten = false →
        Effect before (.fail i error) (before.enter i (.refused error)) := by
      intro committed reported written
      refine .moves i (.refused error) _ rfl rfl rfl rfl ?_ ?_ ?_ (fun _ _ same => by cases same)
        (fun _ none => by cases none)
      · rw [committed]; rfl
      · rw [reported]; rfl
      · rw [written]; rfl
    split at taken
    · rename_i here
      cases taken
      exact refuse (by rw [here]; rfl) (by rw [here]; rfl) (by rw [here]; rfl)
    · rename_i here
      cases taken
      exact refuse (by rw [here]; rfl) (by rw [here]; rfl) (by rw [here]; rfl)
    · cases taken

structure Sound (preview : SyncJob) (store : ApplyStore ι) : Prop where
  previewed : ∀ job, store.stored = some job → job.status = .preview →
    job = preview ∧ ∀ i, (store.phases i).hasWritten = false
  held : ∀ i job, (store.phases i).job = some job → job.catalogGeneration = preview.catalogGeneration
  result : ∀ i job committed, store.phases i = .returned job committed →
    job.status = if committed then .applied else .failed
  generation : ∀ i, (store.phases i).committed = true →
    preview.catalogGeneration < store.tables.control.catalogGeneration
  alone : ∀ i j, (store.phases i).committed = true → (store.phases j).committed = true → i = j
  applied : store.isApplied = true → ∃ i, (store.phases i).hasReported = true

/-- An application has committed and been saved, and the job is not stored as applied. -/
def Misreported (store : ApplyStore ι) : Prop :=
  store.isApplied = false ∧ ∃ i, (store.phases i).hasReported = true

theorem hasReported_committed {phase : RequestPhase} (reported : phase.hasReported = true) :
    phase.committed = true := by
  cases phase <;> first | exact reported | cases reported

omit [DecidableEq ι] in
theorem Sound.initial {preview : SyncJob} (tables : SyncTables) (isPreview : preview.status = .preview) :
    (ApplyStore.initial preview tables : ApplyStore ι).Sound preview where
  previewed job stored _ := by
    cases stored
    exact ⟨rfl, fun _ => rfl⟩
  held i job none := by cases none
  result i job committed none := by cases none
  generation i none := by cases none
  alone i j none := by cases none
  applied stored := by
    have status : decide (preview.status = .applied) = true := stored
    rw [isPreview] at status
    cases status

theorem stored_save {nowMs : Int} {job stored : SyncJob} (saved : saveSyncJob nowMs job = some stored) :
    stored = job := by
  unfold saveSyncJob at saved
  split at saved
  · cases saved
  · cases saved
    rfl

theorem update_same {α : Type} {phases : ι → RequestPhase} {ask : RequestPhase → α} {i : ι}
    {phase : RequestPhase} (same : ask phase = ask (phases i)) (j : ι) :
    ask (Function.update phases i phase j) = ask (phases j) := by
  by_cases here : j = i
  · subst here
    rw [Function.update_self, same]
  · rw [Function.update_of_ne here]

theorem update_of_update {phases : ι → RequestPhase} {P : RequestPhase → Prop} {i : ι} {phase : RequestPhase}
    (new : P phase) (old : ∀ j, P (phases j)) (j : ι) : P (Function.update phases i phase j) := by
  by_cases here : j = i
  · subst here
    rw [Function.update_self]
    exact new
  · rw [Function.update_of_ne here]
    exact old j

theorem Sound.effect {preview : SyncJob} {before after : ApplyStore ι} {action : RequestAction ι}
    (sound : before.Sound preview) (effect : Effect before action after) : after.Sound preview := by
  cases effect with
  | renews _ stored phases generation =>
    have applied : after.isApplied = before.isApplied := by rw [isApplied, isApplied, stored]
    constructor
    · rw [stored, phases]
      exact sound.previewed
    · rw [phases]
      exact sound.held
    · rw [phases]
      exact sound.result
    · rw [phases, generation]
      exact sound.generation
    · rw [phases]
      exact sound.alone
    · rw [applied, phases]
      exact sound.applied
  | moves i phase _ _ stored phases generation committed reported written unreturned job =>
    have applied : after.isApplied = before.isApplied := by rw [isApplied, isApplied, stored]
    constructor
    · intro kept here isPreview
      rw [stored] at here
      refine ⟨(sound.previewed kept here isPreview).1, fun j => ?_⟩
      rw [phases, update_same written]
      exact (sound.previewed kept here isPreview).2 j
    · rw [phases]
      refine update_of_update (P := fun phase => ∀ job, phase.job = some job →
        job.catalogGeneration = preview.catalogGeneration) ?_ sound.held
      intro other same
      rcases job other same with old | ⟨read, isPreview⟩
      · exact sound.held i other old
      · rw [(sound.previewed other read isPreview).1]
    · rw [phases]
      refine update_of_update (P := fun phase => ∀ job committed, phase = .returned job committed →
        job.status = if committed then .applied else .failed) ?_ sound.result
      exact fun other committed same => absurd same (unreturned other committed)
    · intro j
      rw [phases, update_same committed, generation]
      exact sound.generation j
    · intro j k
      rw [phases, update_same committed, update_same committed]
      exact sound.alone j k
    · rw [applied]
      intro isApplied
      obtain ⟨j, has⟩ := sound.applied isApplied
      refine ⟨j, ?_⟩
      rw [phases, update_same reported]
      exact has
  | @starts i nowMs held job here running same =>
    have committed : (RequestPhase.running job).committed = (before.phases i).committed := by
      rw [here]; rfl
    constructor
    · intro kept stored isPreview
      rw [stored_save stored, running] at isPreview
      cases isPreview
    · refine update_of_update (P := fun phase => ∀ job, phase.job = some job →
        job.catalogGeneration = preview.catalogGeneration) ?_ sound.held
      intro other own
      cases own
      exact same.trans (sound.held i held (by rw [here]; rfl))
    · refine update_of_update (P := fun phase => ∀ job committed, phase = .returned job committed →
        job.status = if committed then .applied else .failed) ?_ sound.result
      exact fun _ _ differs => by cases differs
    · intro j
      dsimp only [enter]
      rw [update_same committed]
      exact sound.generation j
    · intro j k
      dsimp only [enter]
      rw [update_same committed, update_same committed]
      exact sound.alone j k
    · intro isApplied
      obtain ⟨stored, saved, status⟩ := Option.any_eq_true _ _ |>.mp isApplied
      rw [stored_save saved, running] at status
      cases status
  | @returns i nowMs newId failure pending tables held job committed here status same generation =>
    have isHeld := sound.held i held (by rw [here]; rfl)
    have written : (RequestPhase.returned job committed).hasWritten = (before.phases i).hasWritten := by
      rw [here]; rfl
    have reported : (RequestPhase.returned job committed).hasReported = (before.phases i).hasReported := by
      rw [here]; rfl
    have uncommitted : (before.phases i).committed = false := by rw [here]; rfl
    -- Who commits finds the generation of the preview, so nobody has committed before.
    have counted : (∀ j, (Function.update before.phases i (.returned job committed) j).committed = true →
          preview.catalogGeneration < tables.control.catalogGeneration) ∧
        ∀ j k, (Function.update before.phases i (.returned job committed) j).committed = true →
          (Function.update before.phases i (.returned job committed) k).committed = true → j = k := by
      cases committed with
      | false =>
        have kept : (RequestPhase.returned job false).committed = (before.phases i).committed :=
          uncommitted.symm
        obtain rfl : tables = before.tables := generation
        constructor
        · intro j
          rw [update_same kept]
          exact sound.generation j
        · intro j k
          rw [update_same kept, update_same kept]
          exact sound.alone j k
      | true =>
        obtain ⟨first, next⟩ : before.tables.control.catalogGeneration = held.catalogGeneration ∧
          tables.control.catalogGeneration = held.catalogGeneration + 1 := generation
        rw [isHeld] at first next
        have only : ∀ j, (Function.update before.phases i (.returned job true) j).committed = true →
            j = i := by
          intro j has
          by_contra apart
          rw [Function.update_of_ne apart] at has
          have beyond := sound.generation j has
          omega
        exact ⟨fun j _ => by omega, fun j k has also => (only j has).trans (only k also).symm⟩
    refine ⟨?_, ?_, ?_, counted.1, counted.2, ?_⟩
    · intro kept stored isPreview
      refine ⟨(sound.previewed kept stored isPreview).1, fun j => ?_⟩
      dsimp only [enter]
      rw [update_same written]
      exact (sound.previewed kept stored isPreview).2 j
    · refine update_of_update (P := fun phase => ∀ job, phase.job = some job →
        job.catalogGeneration = preview.catalogGeneration) ?_ sound.held
      intro other own
      cases own
      exact same.trans isHeld
    · refine update_of_update (P := fun phase => ∀ job committed, phase = .returned job committed →
        job.status = if committed then .applied else .failed) ?_ sound.result
      intro other also equal
      cases equal
      exact status
    · intro isApplied
      obtain ⟨j, has⟩ := sound.applied isApplied
      refine ⟨j, ?_⟩
      dsimp only [enter]
      rw [update_same reported]
      exact has
  | @records i finishedMs nowMs held job committed here status created =>
    have same : (RequestPhase.recorded committed).committed = (before.phases i).committed := by
      rw [here]; rfl
    have result := sound.result i held committed here
    constructor
    · intro kept stored isPreview
      rw [stored_save stored, status, result] at isPreview
      cases committed <;> cases isPreview
    · refine update_of_update (P := fun phase => ∀ job, phase.job = some job →
        job.catalogGeneration = preview.catalogGeneration) ?_ sound.held
      exact fun _ own => by cases own
    · refine update_of_update (P := fun phase => ∀ job committed, phase = .returned job committed →
        job.status = if committed then .applied else .failed) ?_ sound.result
      exact fun _ _ differs => by cases differs
    · intro j
      dsimp only [enter]
      rw [update_same same]
      exact sound.generation j
    · intro j k
      dsimp only [enter]
      rw [update_same same, update_same same]
      exact sound.alone j k
    · intro isApplied
      obtain ⟨stored, saved, isStatus⟩ := Option.any_eq_true _ _ |>.mp isApplied
      rw [stored_save saved, status, result] at isStatus
      refine ⟨i, ?_⟩
      dsimp only [enter]
      rw [Function.update_self]
      cases committed with
      | false => cases isStatus
      | true => rfl

theorem isApplied_save {store : ApplyStore ι} {nowMs : Int} {job : SyncJob} {i : ι} {phase : RequestPhase} :
    ({ store with stored := saveSyncJob nowMs job }.enter i phase).isApplied =
      (decide (job.status = .applied) && !decide (job.createdAtMs < nowMs - jobAgeMs)) := by
  unfold isApplied saveSyncJob enter
  dsimp only
  split <;> rename_i old <;> simp [old]

theorem misreported_step {preview : SyncJob} {before after : ApplyStore ι} {action : RequestAction ι}
    (sound : before.Sound preview) (effect : Effect before action after) :
    after.Misreported ↔ before.Misreported ∨ before.misreports action = true := by
  cases effect with
  | renews _ stored phases generation =>
    rw [Misreported, Misreported, isApplied, isApplied, stored, phases]
    simp [misreports]
  | moves i phase _ quiet stored phases generation committed reported written unreturned job =>
    rw [Misreported, Misreported, isApplied, isApplied, stored, phases, quiet]
    simp only [update_same reported, Bool.false_eq_true, or_false]
  | @starts i nowMs held job here running same =>
    have reported : (RequestPhase.running job).hasReported = (before.phases i).hasReported := by
      rw [here]; rfl
    have unapplied :
        ({ before with stored := saveSyncJob nowMs job }.enter i (.running job)).isApplied = false := by
      rw [isApplied_save, running]
      rfl
    have phases : ∀ j, (Function.update before.phases i (.running job) j).hasReported =
        (before.phases j).hasReported := update_same reported
    rw [Misreported, unapplied, Misreported, misreports]
    simp only [enter, phases, true_and]
    have backed := sound.applied
    cases stored : before.isApplied with
    | true => simpa using backed stored
    | false => simp
  | @returns i nowMs newId failure pending tables held job committed here status same generation =>
    have reported : (RequestPhase.returned job committed).hasReported = (before.phases i).hasReported := by
      rw [here]; rfl
    have phases : ∀ j, (Function.update before.phases i (.returned job committed) j).hasReported =
        (before.phases j).hasReported := update_same reported
    rw [Misreported, Misreported]
    simp only [enter, phases, misreports, isApplied, Bool.false_eq_true, or_false]
  | @records i finishedMs nowMs held job committed here status created =>
    have result := sound.result i held committed here
    have backed := sound.applied
    rw [Misreported, isApplied_save, status, result, created, Misreported, misreports, here]
    cases committed with
    | false =>
      have reported : (RequestPhase.recorded false).hasReported = (before.phases i).hasReported := by
        rw [here]; rfl
      have phases : ∀ j, (Function.update before.phases i (.recorded false) j).hasReported =
          (before.phases j).hasReported := update_same reported
      simp only [enter, phases]
      cases stored : before.isApplied with
      | true => simpa using backed stored
      | false => simp
    | true =>
      -- Nobody else has committed, so the job is not stored as applied.
      have none_before : ∀ j, (before.phases j).hasReported = false := by
        intro j
        rw [← Bool.not_eq_true]
        intro has
        have same := sound.alone j i (hasReported_committed has) (by rw [here]; rfl)
        rw [same, here] at has
        cases has
      have unapplied : before.isApplied = false := by
        rw [← Bool.not_eq_true]
        intro has
        obtain ⟨j, reported⟩ := backed has
        rw [none_before] at reported
        cases reported
      have now : ∃ j, (Function.update before.phases i (.recorded true) j).hasReported = true :=
        ⟨i, by rw [Function.update_self]; rfl⟩
      simp [enter, now, none_before, unapplied]

theorem run_misreported {preview : SyncJob} {start final : ApplyStore ι} (sound : start.Sound preview)
    (fresh : ¬ start.Misreported) {history : List (Transition (ApplyStore ι) (RequestAction ι))}
    (run : Execution (Step crates requests owners) start history final) :
    final.Sound preview ∧ (final.Misreported ↔ ∃ t ∈ history, t.before.misreports t.action = true) := by
  refine run.invariant (P := fun history store => store.Sound preview ∧
    (store.Misreported ↔ ∃ t ∈ history, t.before.misreports t.action = true)) ⟨sound, by simpa using fresh⟩ ?_
  intro history before action after ⟨sound, same⟩ taken
  have effect := step_effect taken
  refine ⟨sound.effect effect, ?_⟩
  rw [misreported_step sound effect, same]
  simp [or_comm]

omit [DecidableEq ι] in
theorem Sound.follows_iff {preview : SyncJob} {store : ApplyStore ι} (sound : store.Sound preview)
    (finished : ∀ i, (store.phases i).isOver = true) : store.StatusFollows ↔ ¬ store.Misreported := by
  have reported : ∀ i, (store.phases i).hasReported = (store.phases i).committed := by
    intro i
    have ended := finished i
    generalize store.phases i = phase at ended ⊢
    cases phase <;> first | rfl | cases ended
  constructor
  · intro follows misreported
    obtain ⟨i, has⟩ := misreported.2
    have isApplied := follows.applied.mpr ⟨i, hasReported_committed has⟩
    rw [misreported.1] at isApplied
    cases isApplied
  · intro told
    refine ⟨⟨fun isApplied => ?_, fun ⟨i, has⟩ => ?_⟩, fun isPreview i => ?_⟩
    · obtain ⟨i, has⟩ := sound.applied isApplied
      exact ⟨i, hasReported_committed has⟩
    · by_contra unapplied
      exact told ⟨Bool.not_eq_true _ ▸ unapplied, i, (reported i).trans has⟩
    · obtain ⟨job, stored, status⟩ := Option.map_eq_some_iff.mp isPreview
      have unwritten := (sound.previewed job stored status).2 i
      have ended := finished i
      generalize store.phases i = phase at ended unwritten ⊢
      cases phase <;> simp_all [RequestPhase.isOver, RequestPhase.hasWritten, RequestPhase.acquired]

/-- Once all requests are over, the status of the job follows them exactly if none of them wrote over a job
that was stored as applied, or saved its own success too late for the job to be kept. -/
theorem statusFollows_iff {preview : SyncJob} (isPreview : preview.status = .preview) {tables : SyncTables}
    {final : ApplyStore ι} {history : List (Transition (ApplyStore ι) (RequestAction ι))}
    (run : Execution (Step crates requests owners) (initial preview tables) history final)
    (finished : ∀ i, (final.phases i).isOver = true) :
    final.StatusFollows ↔ ∀ t ∈ history, t.before.misreports t.action = false := by
  have fresh : ¬ (initial preview tables : ApplyStore ι).Misreported := by
    intro misreported
    obtain ⟨i, has⟩ := misreported.2
    cases has
  obtain ⟨sound, misreported⟩ := run_misreported (Sound.initial tables isPreview) fresh run
  rw [sound.follows_iff finished, misreported]
  simp

end Steps

def listedModel : CatalogRecord where
  modelName := "m"
  priceData := some (storedJson "1")
  displayName := "m"
  brand := ""
  aliases := []
  quoteProvider := ""
  sourceVersion := "v1"
  adaptation := "supported"
  metadata := .object []

def ownPreview : SyncJob :=
  { SyncJob.started "a" .preview "u" 1 with
    status := .preview
    sourceVersion := "v1"
    finishedAtMs := some 2
    counts := { manualPreserved := 1 }
    conflicts :=
      [{ modelName := "m"
         localId := 7
         localPrice := storedJson "2"
         cloudPrice := storedJson "1" }]
    models := [listedModel]
    expected := (∅ : HashMap String Int).insert "m" 7 }

def freeTables : SyncTables :=
  { ownTables with control := ownTables.control.release "first" }

def servedFrom (i : ι) (nowMs : Int) : List (RequestAction ι) :=
  [.release i true, .record i (nowMs + 3) (nowMs + 3), .apply i (nowMs + 2) (fun _ => 8) none none,
    .start i (nowMs + 1), .lease i nowMs]

def twoRequests : Bool → ApplyRequest := fun _ => ⟨"v1", []⟩

def twoOwners : Bool → String := fun first => if first then "first" else "second"

def requestRun (actions : List (RequestAction Bool)) :
    Option (List (Transition (ApplyStore Bool) (RequestAction Bool)) × ApplyStore Bool) :=
  replay (step storeCrates twoRequests twoOwners) (initial ownPreview freeTables) actions

def lateActions : List (RequestAction Bool) :=
  servedFrom false 20 ++ servedFrom true 10 ++ [.read false 3, .read true 3]

theorem lateActions_failed : (requestRun lateActions).map (fun run => (run.2.stored.map (·.status),
    (run.2.phases true).committed, (run.2.phases true).isOver, (run.2.phases false).isOver)) =
      some (some .failed, true, true, true) := by
  decide +kernel

theorem requestRun_ran {actions : List (RequestAction Bool)} {α : Type}
    {summary : List (Transition (ApplyStore Bool) (RequestAction Bool)) × ApplyStore Bool → α} {seen : α}
    (summed : (requestRun actions).map summary = some seen) :
    ∃ history final, Execution (Step storeCrates twoRequests twoOwners)
      (initial ownPreview freeTables) history final ∧
        summary (history, final) = seen := by
  obtain ⟨⟨history, final⟩, ran, same⟩ := Option.map_eq_some_iff.mp summed
  exact ⟨history, final, replay_run ran, same⟩

/-- The application of the first request has committed, and the job is stored as failed. -/
theorem lateActions_misreport : ∃ history final, Execution (Step storeCrates twoRequests twoOwners)
      (initial ownPreview freeTables) history final ∧
    (∀ i, (final.phases i).isOver = true) ∧ ¬ final.StatusFollows := by
  obtain ⟨history, final, run, same⟩ := requestRun_ran lateActions_failed
  simp only [Prod.mk.injEq] at same
  obtain ⟨status, committed, first, second⟩ := same
  refine ⟨history, final, run, Bool.forall_bool.mpr ⟨second, first⟩, fun follows => ?_⟩
  have isApplied := follows.applied.mpr ⟨true, committed⟩
  obtain ⟨job, stored, isStatus⟩ := Option.any_eq_true _ _ |>.mp isApplied
  rw [stored, Option.map_some, Option.some.injEq] at status
  rw [status] at isStatus
  cases isStatus

def lateRead : List (RequestAction Bool) := .read false 20 :: servedFrom true 10 ++ [.read true 3]

theorem lateRead_quiet : (requestRun lateRead).map (fun run => ((run.2.phases true).isOver,
    (run.2.phases false).isOver, run.1.all fun t => t.before.misreports t.action = false)) =
      some (true, true, true) := by
  decide +kernel

theorem lateRead_follows : ∃ history final, Execution (Step storeCrates twoRequests twoOwners)
      (initial ownPreview freeTables) history final ∧
    (∀ i, (final.phases i).isOver = true) ∧ final.StatusFollows := by
  obtain ⟨history, final, run, same⟩ := requestRun_ran lateRead_quiet
  simp only [Prod.mk.injEq] at same
  obtain ⟨first, second, quiet⟩ := same
  have finished : ∀ i, (final.phases i).isOver = true := Bool.forall_bool.mpr ⟨second, first⟩
  refine ⟨history, final, run, finished, (statusFollows_iff rfl run finished).mpr fun t member => ?_⟩
  simpa using List.all_eq_true.mp quiet t member

end ApplyStore

end CodexGate.Pricing
