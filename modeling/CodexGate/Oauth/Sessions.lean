import CodexGate.Foundation.Execution
import CodexGate.Foundation.Machine
import CodexGate.Foundation.Text
import Mathlib.Data.Finset.Erase
import Mathlib.Data.Finset.Insert
import Mathlib.Logic.Function.Basic

namespace CodexGate.Oauth

open Foundation

def deviceSessionTtlMs : Int := 15 * 60 * 1000
def browserSessionTtlMs : Int := 5 * 60 * 1000
def deviceSessionTombstoneMs : Int := 5 * 60 * 1000

inductive SessionStatus
  | pending
  | completed
  | failed
  | cancelled
  | expired
  deriving DecidableEq

inductive SessionStage
  | waitingForUser
  | exchanging
  | finalizing
  | finished
  deriving DecidableEq

inductive CodexOAuthFlow
  | browser
  | device
  deriving DecidableEq

inductive SessionFlowData
  | device (deviceAuthId userCode : String)
  | browser (state codeVerifier : String) (callbackClaimed : Bool)
  deriving DecidableEq

abbrev SessionTarget := Int × Option Int

structure SessionRecord where
  providerId : Int
  replaceKeyId : Option Int
  flowData : SessionFlowData
  stage : SessionStage
  expiresAtMs : Int
  terminalAtMs : Option Int
  status : SessionStatus
  cancelRequested : Bool
  keyId : Option Int
  errorCode : Option String
  deriving DecidableEq

structure BrowserCallback where
  state : String
  code : Option String
  error : Option String
  deriving DecidableEq

namespace SessionRecord

def target (record : SessionRecord) : SessionTarget := (record.providerId, record.replaceKeyId)

def expire (record : SessionRecord) (nowMs : Int) : SessionRecord :=
  { record with
    status := .expired
    stage := .finished
    terminalAtMs := some nowMs
    errorCode := some "oauth_session_expired"
    cancelRequested := true }

def observe (record : SessionRecord) (nowMs : Int) : SessionRecord :=
  if record.status = .pending ∧ record.stage ≠ .finalizing ∧ record.expiresAtMs ≤ nowMs then
    record.expire nowMs
  else record

def cancel (record : SessionRecord) (nowMs : Int) : SessionRecord :=
  if record.status = .pending ∧ record.stage ≠ .finalizing then
    { record with
      cancelRequested := true
      status := .cancelled
      stage := .finished
      terminalAtMs := some nowMs
      errorCode := none }
  else record

def claimCallback (record : SessionRecord) (callback : BrowserCallback) (nowMs : Int) :
    SessionRecord × Except String (String × String) :=
  match record.flowData with
  | .device .. => (record, .error "oauth_flow_mismatch")
  | .browser state codeVerifier callbackClaimed =>
    let claimed : SessionFlowData := .browser state codeVerifier true
    if state ≠ callback.state then (record, .error "oauth_state_invalid")
    else if record.status ≠ .pending then (record, .error "oauth_session_not_pending")
    else if record.expiresAtMs ≤ nowMs then
      (record.expire nowMs, .error "oauth_session_expired")
    else if callbackClaimed then (record, .error "oauth_callback_already_submitted")
    else if callback.error.isSome then
      ({ record with
          flowData := claimed
          status := .failed
          stage := .finished
          terminalAtMs := some nowMs
          errorCode := some "oauth_authorization_failed" },
        .error "oauth_authorization_failed")
    else
      match callback.code with
      | none => (record, .error "oauth_callback_code_missing")
      | some code =>
        ({ record with flowData := claimed, stage := .exchanging }, .ok (code, codeVerifier))

def cancelled (record : SessionRecord) : Bool :=
  record.status ≠ .pending || record.cancelRequested

def markStage (record : SessionRecord) (stage : SessionStage) : SessionRecord :=
  if record.cancelled then record else { record with stage := stage }

def markError (record : SessionRecord) (status : SessionStatus) (code : String) (nowMs : Int) :
    SessionRecord :=
  if record.status ≠ .pending then record
  else
    { record with
      status := status
      stage := .finished
      terminalAtMs := some nowMs
      errorCode := some code }

def markCompleted (record : SessionRecord) (keyId nowMs : Int) : SessionRecord :=
  if record.cancelled then record
  else
    { record with
      status := .completed
      stage := .finished
      terminalAtMs := some nowMs
      keyId := some keyId }

def retained (nowMs : Int) (record : SessionRecord) : Bool :=
  if record.status = .pending then
    nowMs < saturatingAddI64 record.expiresAtMs deviceSessionTombstoneMs
  else record.terminalAtMs.all fun terminal =>
    nowMs < saturatingAddI64 terminal deviceSessionTombstoneMs

end SessionRecord

/-- A token bundle, by what `parse_id_token` makes of it: the account id, or the code of the
error. -/
structure TokenBundle where
  claims : Except String String

/-- Where the task that ends a login stands between two of its locks or awaits. -/
inductive RunnerPhase
  | polling
  | polled
  /-- The device is authorized, and its code is to be exchanged. -/
  | authorized (code : String)
  | exchangingDevice (code : String)
  | exchangingBrowser (code codeVerifier : String)
  /-- `finish_token_bundle` begins. -/
  | exchanged (bundle : TokenBundle)
  | parsing (bundle : TokenBundle)
  | gating
  /-- It waits for the save gate. -/
  | waiting
  | holding
  | expiring
  | targeting
  | saving (target : SessionTarget)
  /-- The database has reported an error; the save may have taken effect. -/
  | saveFailed (applied : Bool)
  | finalizing (keyId : Int)
  | completing (keyId : Int)
  /-- The session is to be marked, and the task ends. -/
  | failing (status : SessionStatus) (code : String)

inductive Visit
  | get
  | cancel
  | callback (callback : BrowserCallback)
  deriving DecidableEq

inductive SessionTask
  /-- `start_session` has reserved the target. -/
  | starting (target : SessionTarget) (nowMs : Int) (flow : CodexOAuthFlow)
  /-- A request waits for the save gate of the session. -/
  | visiting (sessionId : String) (nowMs : Int) (visit : Visit)
  | running (sessionId : String) (phase : RunnerPhase)

inductive RunnerInput
  | proceed
  /-- The device code is not authorized yet, or it is. -/
  | polled (poll : Except String (Option String))
  | exchanged (result : Except String TokenBundle)
  /-- The key that the login is saved for; or an error, and whether the save took effect. -/
  | saved (result : Except Bool Int)

structure SessionStore where
  clockMs : Int
  sessions : HashMap String SessionRecord
  startingTargets : Finset SessionTarget
  tasks : Nat → Option SessionTask
  /-- The task that holds the save gate of a session. -/
  gates : String → Option Nat
  /-- The ids that sessions were given. -/
  issued : List String

namespace SessionStore

def prune (store : SessionStore) (nowMs : Int) : SessionStore :=
  { store with sessions := retain (fun _ record => record.retained nowMs) store.sessions }

def become (store : SessionStore) (id : Nat) (task : SessionTask) : SessionStore :=
  { store with tasks := Function.update store.tasks id (some task) }

def leave (store : SessionStore) (id : Nat) (sessionId : String) : SessionStore :=
  { store with
    tasks := Function.update store.tasks id none
    gates := Function.update store.gates sessionId
      (if store.gates sessionId = some id then none else store.gates sessionId) }

def hold (store : SessionStore) (id : Nat) (sessionId : String) : SessionStore :=
  { store with gates := Function.update store.gates sessionId (some id) }

def change (store : SessionStore) (sessionId : String) (f : SessionRecord → SessionRecord) :
    SessionStore :=
  match store.sessions.lookup sessionId with
  | some record => { store with sessions := store.sessions.insert sessionId (f record) }
  | none => store

def targetReserved (store : SessionStore) (target : SessionTarget) : Bool :=
  target ∈ store.startingTargets || store.sessions.entries.any fun entry =>
    entry.2.status = .pending && entry.2.target = target

def cancelled (store : SessionStore) (sessionId : String) : Bool :=
  (store.sessions.lookup sessionId).all (·.cancelled)

/-- What `session_poll_snapshot` reads: whether a cancellation is requested, and the time of
expiry. -/
def pollSnapshot (store : SessionStore) (sessionId : String) : Option (Bool × Int) :=
  (store.sessions.lookup sessionId).bind fun record =>
    match record.flowData with
    | .device .. =>
      if record.status = .pending ∧ record.stage = .waitingForUser then
        some (record.cancelRequested, record.expiresAtMs)
      else none
    | .browser .. => none

end SessionStore

def stepRunner (store : SessionStore) (id : Nat) (sessionId : String) (phase : RunnerPhase)
    (input : RunnerInput) : Option SessionStore :=
  let become (phase : RunnerPhase) := store.become id (.running sessionId phase)
  match phase, input with
  | .polling, .proceed =>
    some (match store.pollSnapshot sessionId with
      | none => store.leave id sessionId
      | some (cancelRequested, expiresAtMs) =>
        if cancelRequested then store.leave id sessionId
        else if expiresAtMs ≤ store.clockMs then become (.failing .expired "oauth_session_expired")
        else become .polled)
  | .polled, .polled poll =>
    some (match poll with
      | .ok none => become .polling
      | .ok (some code) => become (.authorized code)
      | .error code => become (.failing .failed code))
  | .authorized code, .proceed =>
    some (if store.cancelled sessionId then store.leave id sessionId
      else (store.change sessionId (·.markStage .exchanging)).become id
        (.running sessionId (.exchangingDevice code)))
  | .exchangingDevice _, .exchanged result | .exchangingBrowser _ _, .exchanged result =>
    some (match result with
      | .ok bundle => become (.exchanged bundle)
      | .error code => become (.failing .failed code))
  | .exchanged bundle, .proceed =>
    some (if store.cancelled sessionId then store.leave id sessionId else become (.parsing bundle))
  | .parsing bundle, .proceed =>
    some (match bundle.claims with
      | .error code => become (.failing .failed code)
      | .ok accountId =>
        if (trim accountId).isEmpty then become (.failing .failed "account_claim_missing")
        else become .gating)
  | .gating, .proceed =>
    some (if (store.sessions.lookup sessionId).isSome then become .waiting
      else store.leave id sessionId)
  | .waiting, .proceed =>
    if store.gates sessionId = none then
      some ((store.hold id sessionId).become id (.running sessionId .holding))
    else none
  | .holding, .proceed =>
    some (if store.cancelled sessionId then store.leave id sessionId else become .expiring)
  | .expiring, .proceed =>
    some (if (store.sessions.lookup sessionId).all (·.expiresAtMs ≤ store.clockMs) then
        become (.failing .expired "oauth_session_expired")
      else become .targeting)
  | .targeting, .proceed =>
    some (match store.sessions.lookup sessionId with
      | some record => become (.saving record.target)
      | none => store.leave id sessionId)
  | .saving _, .saved result =>
    some (match result with
      | .ok keyId => become (.finalizing keyId)
      | .error applied => become (.saveFailed applied))
  | .saveFailed _, .proceed =>
    some ((store.change sessionId (·.markError .failed "credential_save_failed" store.clockMs)).leave
      id sessionId)
  | .finalizing keyId, .proceed =>
    some (if store.cancelled sessionId then store.leave id sessionId
      else ((store.change sessionId (·.markStage .finalizing)).leave id sessionId).become id
        (.running sessionId (.completing keyId)))
  -- The quota and the models are fetched in between.
  | .completing keyId, .proceed =>
    some ((store.change sessionId (·.markCompleted keyId store.clockMs)).leave id sessionId)
  | .failing status code, .proceed =>
    some ((store.change sessionId (·.markError status code store.clockMs)).leave id sessionId)
  | _, _ => none

inductive SessionAction
  | tick (nowMs : Int)
  | start (id : Nat) (target : SessionTarget) (flow : CodexOAuthFlow)
  /-- The session is made and inserted, with the device and user codes or with the state and the
  verifier; `runner` is the task that polls for a device. -/
  | insert (id : Nat) (sessionId : String) (codes : String × String) (runner : Nat)
  /-- A request ends before its session is inserted or the gate is its. -/
  | abandon (id : Nat)
  | visit (id : Nat) (sessionId : String) (visit : Visit)
  /-- A callback comes without the id of its session. -/
  | redirect (id : Nat) (sessionId : String) (callback : BrowserCallback)
  /-- The request has the gate and reads the session; `runner` is the task it may start. -/
  | enter (id : Nat) (runner : Nat)
  | run (id : Nat) (input : RunnerInput)

namespace SessionStore

def insert (store : SessionStore) (id : Nat) (target : SessionTarget) (nowMs : Int)
    (flow : CodexOAuthFlow) (sessionId : String) (codes : String × String) (runner : Nat) :
    SessionStore :=
  let record : SessionRecord :=
    { providerId := target.1
      replaceKeyId := target.2
      flowData := match flow with
        | .device => .device codes.1 codes.2
        | .browser => .browser codes.1 codes.2 false
      stage := .waitingForUser
      expiresAtMs := saturatingAddI64 nowMs (match flow with
        | .device => deviceSessionTtlMs
        | .browser => browserSessionTtlMs)
      terminalAtMs := none
      status := .pending
      cancelRequested := false
      keyId := none
      errorCode := none }
  let inserted : SessionStore :=
    { store with
      sessions := store.sessions.insert sessionId record
      startingTargets := store.startingTargets.erase target
      tasks := Function.update store.tasks id none
      issued := sessionId :: store.issued }
  match flow with
  | .device => inserted.become runner (.running sessionId .polling)
  | .browser => inserted

def enter (store : SessionStore) (sessionId : String) (nowMs : Int) (runner : Nat) : Visit →
    SessionStore
  | .get => store.change sessionId (·.observe nowMs)
  | .cancel => store.change sessionId (·.cancel nowMs)
  | .callback callback =>
    match store.sessions.lookup sessionId with
    | none => store
    | some record =>
      let changed := store.change sessionId fun record => (record.claimCallback callback nowMs).1
      match (record.claimCallback callback nowMs).2 with
      | .ok (code, codeVerifier) =>
        changed.become runner (.running sessionId (.exchangingBrowser code codeVerifier))
      | .error _ => changed

def visitor (store : SessionStore) (id : Nat) (sessionId : String) (visit : Visit) : SessionStore :=
  let pruned := store.prune store.clockMs
  if (pruned.sessions.lookup sessionId).isSome then
    pruned.become id (.visiting sessionId store.clockMs visit)
  else pruned

end SessionStore

def sessionStep (store : SessionStore) : SessionAction → Option SessionStore
  | .tick nowMs => if store.clockMs ≤ nowMs then some { store with clockMs := nowMs } else none
  | .start id target flow =>
    if store.tasks id = none then
      let pruned := store.prune store.clockMs
      some (if pruned.targetReserved target then pruned
        else { pruned.become id (.starting target store.clockMs flow) with
          startingTargets := insert target store.startingTargets })
    else none
  | .insert id sessionId codes runner =>
    match store.tasks id with
    | some (.starting target nowMs flow) =>
      if sessionId ∉ store.issued ∧ store.tasks runner = none then
        some (store.insert id target nowMs flow sessionId codes runner)
      else none
    | _ => none
  | .abandon id =>
    match store.tasks id with
    | some (.starting target _ _) =>
      some
        { store with
          tasks := Function.update store.tasks id none
          startingTargets := store.startingTargets.erase target }
    | some (.visiting ..) => some { store with tasks := Function.update store.tasks id none }
    | _ => none
  | .visit id sessionId visit =>
    if store.tasks id = none then some (store.visitor id sessionId visit) else none
  | .redirect id sessionId callback =>
    -- A session is found by its state.
    let found := ((store.prune store.clockMs).sessions.lookup sessionId).any fun record =>
      match record.flowData with
      | .browser state _ _ => state = callback.state
      | .device .. => false
    if store.tasks id = none then
      some (if found then store.visitor id sessionId (.callback callback)
        else store.prune store.clockMs)
    else none
  | .enter id runner =>
    match store.tasks id with
    | some (.visiting sessionId nowMs visit) =>
      if store.gates sessionId = none ∧ store.tasks runner = none then
        some (({ store with tasks := Function.update store.tasks id none } : SessionStore).enter
          sessionId nowMs runner visit)
      else none
    | _ => none
  | .run id input =>
    match store.tasks id with
    | some (.running sessionId phase) => stepRunner store id sessionId phase input
    | _ => none

end CodexGate.Oauth
