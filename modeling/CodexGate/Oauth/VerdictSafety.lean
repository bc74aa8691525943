import CodexGate.Oauth.VerdictSteps

namespace CodexGate.Oauth

open Foundation Routing

variable {codec : IdTokenCodec}

abbrev KeyTransition := Transition KeyWorld KeyAction

abbrev KeyStep (codec : IdTokenCodec) (before : KeyWorld) (action : KeyAction) (after : KeyWorld) :
    Prop := keyStep codec before action = some after

def KeyWorld.row (key : KeyWorld) : AccountRow := key.world.row

def readBy (t : KeyTransition) : Option Nat :=
  match t.action with
  | .prepare action => if action.reads then some action.caller else none
  | _ => none

inductive Reliance
  | credentials
  | status
  deriving DecidableEq

def Keeps (t : KeyTransition) : Reliance → Prop
  | .credentials => t.after.row.accessToken = t.before.row.accessToken ∧
    t.after.row.credentials = t.before.row.credentials
  | .status => t.after.row.authStatus = t.before.row.authStatus

def Since (what : Reliance) (call : Nat) : List KeyTransition → Prop
  | [] => True
  | t :: earlier => readBy t = some call ∨ Keeps t what ∧ Since what call earlier

/-- The call on whose read a status rests that the step is about to store over another. -/
def reliance (t : KeyTransition) : Option (Nat × Reliance) :=
  match t.action with
  | .judge id =>
    match t.before.uses id with
    | some { kind, phase := .answered sending answer } =>
      match verdict kind sending.replayed answer with
      | some (.status status _) =>
        if t.before.row.authStatus = status then none else some (sending.call, .credentials)
      | _ => none
    | _ => none
  | .prepare (.mark id) =>
    if t.before.row.authStatus = authStatusReauthRequired then none else some (id, .credentials)
  | .prepare (.persist id _) =>
    match t.before.world.phase id with
    | some (.persisting account _) =>
      if t.before.row.ownedBy id ∧ account.authStatus ≠ authStatusActive then some (id, .status)
      else none
    | _ => none
  | _ => none

/-- Nobody has replaced, since they were read, the credentials that a verdict is about or the status
that a refresh stores again. -/
def Undisturbed (earlier : List KeyTransition) (t : KeyTransition) : Prop :=
  ∀ call what, reliance t = some (call, what) → Since what call earlier

instance (t : KeyTransition) : ∀ what, Decidable (Keeps t what)
  | .credentials => inferInstanceAs (Decidable (_ ∧ _))
  | .status => inferInstanceAs (Decidable (_ = _))

instance (what : Reliance) (call : Nat) : ∀ earlier, Decidable (Since what call earlier)
  | [] => inferInstanceAs (Decidable True)
  | t :: earlier =>
    have := instDecidableSince what call earlier
    inferInstanceAs (Decidable (readBy t = some call ∨ Keeps t what ∧ Since what call earlier))

instance (earlier : List KeyTransition) (t : KeyTransition) : Decidable (Undisturbed earlier t) :=
  decidable_of_iff (∀ relied ∈ reliance t, Since relied.2 relied.1 earlier)
    ⟨fun since call what relies => since (call, what) relies,
      fun since (call, what) relies => since call what relies⟩

def Disables (t : KeyTransition) : Prop :=
  t.after.row.authStatus ≠ t.before.row.authStatus ∧
    (t.after.row.authStatus = authStatusReauthRequired ∨
      t.after.row.authStatus = authStatusForbidden)

def Refuses (t : KeyTransition) (id : Nat) (account : CodexOAuthAccount) : Prop :=
  ∃ answer error, t.action = .prepare (.request id answer) ∧
    t.before.world.phase id = some (.refreshing account) ∧ refreshTokens answer = .error error

def Answers (t : KeyTransition) (id : Nat) (kind : UseKind) (sending : Sending) (answer : Answer) :
    Prop :=
  t.action = .answer id answer ∧
    t.after.uses id = some { kind := kind, phase := .answered sending answer }

/-- The status comes from an answer to a request or a refresh with the credentials that are stored
when it is. -/
inductive Justified (earlier : List KeyTransition) (t : KeyTransition) : Prop
  | answered (id : Nat) (kind : UseKind) (sending : Sending) (answer : Answer) (error : String)
      (judges : t.action = .judge id)
      (there : t.before.uses id = some { kind := kind, phase := .answered sending answer })
      (r : KeyTransition) (inside : r ∈ earlier) (answers : Answers r id kind sending answer)
      (verdict : verdict kind sending.replayed answer = some (.status t.after.row.authStatus error))
      (stored : sending.auth = preparedAuth t.before.row.findCodexOauthAccount)
  | refused (id : Nat) (account : CodexOAuthAccount) (marks : t.action = .prepare (.mark id))
      (r : KeyTransition) (inside : r ∈ earlier) (refuses : Refuses r id account)
      (stored : account.credentials = t.before.row.credentials)

variable {earlier : List KeyTransition} {t : KeyTransition} {id : Nat} {phase : Phase}

theorem Since.here {what : Reliance} {call : Nat} (since : Since what call (t :: earlier))
    (notRead : readBy t ≠ some call) : Keeps t what ∧ Since what call earlier :=
  since.resolve_left notRead

def SameCredentials (account : CodexOAuthAccount) (row : AccountRow) : Prop :=
  account.accessToken = row.accessToken ∧ account.credentials = row.credentials

structure CallKept (earlier : List KeyTransition) (row : AccountRow) (id : Nat) (phase : Phase) :
    Prop where
  usable : phase ≠ .unusable
  nonblank : ∀ account, phase.account = some account → trim account.credentials.refreshToken ≠ ""
  credentials : ∀ account, phase.account = some account → Since .credentials id earlier →
    SameCredentials account row
  status : ∀ account, phase.account = some account → Since .status id earlier →
    account.authStatus = row.authStatus
  auth : ∀ auth, phase = .prepared auth → Since .credentials id earlier →
    auth = preparedAuth row.findCodexOauthAccount
  refused : ∀ account error, phase = .refused account error → ∃ r ∈ earlier, Refuses r id account
  rejected : ∀ error, phase = .rejected error → ∃ r ∈ earlier, ∃ account, Refuses r id account ∧
    (Since .credentials id earlier → SameCredentials account row)

theorem CallKept.plain {row : AccountRow} (plain : phase.plain = true)
    (account : phase.account = none) : CallKept earlier row id phase := by
  have unlike : ∀ {P : Prop} {other : Phase}, other.plain = false → phase = other → P := by
    intro P other isFalse is
    rw [is, isFalse] at plain
    cases plain
  have nothing : ∀ {P : CodexOAuthAccount → Prop}, ∀ other, phase.account = some other → P other := by
    intro P other is
    rw [account] at is
    cases is
  exact ⟨fun is => unlike rfl is, nothing, nothing, nothing, fun _ is => unlike rfl is,
    fun _ _ is => unlike rfl is, fun _ is => unlike rfl is⟩

theorem CallKept.stay (kept : CallKept earlier t.before.row id phase) (notRead : readBy t ≠ some id) :
    CallKept (t :: earlier) t.after.row id phase := by
  have same : ∀ account, Since .credentials id (t :: earlier) →
      (Since .credentials id earlier → SameCredentials account t.before.row) →
        SameCredentials account t.after.row := by
    intro account since before
    have keeps := since.here notRead
    have known := before keeps.2
    exact ⟨known.1.trans keeps.1.1.symm, known.2.trans keeps.1.2.symm⟩
  constructor
  · exact kept.usable
  · exact kept.nonblank
  · exact fun account has since => same account since (kept.credentials account has)
  · intro account has since
    have keeps := since.here notRead
    exact (kept.status account has keeps.2).trans keeps.1.symm
  · intro auth is since
    have keeps := since.here notRead
    have known := kept.auth auth is keeps.2
    rw [known]
    unfold preparedAuth AccountRow.findCodexOauthAccount
    dsimp only
    rw [keeps.1.1, keeps.1.2]
  · intro account error is
    obtain ⟨r, inside, refuses⟩ := kept.refused account error is
    exact ⟨r, List.mem_cons_of_mem _ inside, refuses⟩
  · intro error is
    obtain ⟨r, inside, account, refuses, before⟩ := kept.rejected error is
    exact ⟨r, List.mem_cons_of_mem _ inside, account, refuses, fun since => same account since before⟩

theorem SameAccount.prepared {before after : AccountRow} (same : SameAccount before after) :
    preparedAuth before.findCodexOauthAccount = preparedAuth after.findCodexOauthAccount := by
  unfold preparedAuth AccountRow.findCodexOauthAccount
  dsimp only
  rw [same.1, same.2.1]

theorem CallKept.move (kept : CallKept earlier t.before.row id phase) {action : Action}
    {next : Phase} (move : Move t.before.row action phase next)
    (nonblank : trim t.before.row.credentials.refreshToken ≠ "")
    (reads : action.reads = true ↔ readBy t = some id)
    (same : action.reads = true → SameAccount t.before.row t.after.row)
    (requests : ∀ other answer, action = .request other answer →
      t.action = .prepare (.request id answer) ∧ t.before.world.phase id = some phase) :
    CallKept (t :: earlier) t.after.row id next := by
  have quiet : action.reads = false → readBy t ≠ some id := by
    intro isFalse is
    rw [reads.mpr is] at isFalse
    cases isFalse
  cases move with
  | unusable blank => exact absurd blank nonblank
  | loaded isRead nowMs left =>
    have found := same isRead
    constructor
    case nonblank =>
      rintro account ⟨⟩
      exact nonblank
    case credentials =>
      rintro account ⟨⟩ _
      exact ⟨found.1.symm, found.2.1.symm⟩
    case status =>
      rintro account ⟨⟩ _
      exact found.2.2.symm
    all_goals simp
  | prepared isRead =>
    constructor
    case auth =>
      rintro auth ⟨⟩ _
      exact (same isRead).prepared
    all_goals simp [Phase.account]
  | carried plain carries =>
    have unlike : ∀ {P : Prop} {other : Phase}, other.plain = false → next = other → P := by
      intro P other isFalse is
      rw [is, isFalse] at plain
      cases plain
    refine ⟨fun is => unlike rfl is, ?_, ?_, ?_, fun _ is => unlike rfl is,
      fun _ _ is => unlike rfl is, fun _ is => unlike rfl is⟩
    · intro account has
      exact kept.nonblank account (carries account has).1
    · intro account has
      have before := carries account has
      exact (kept.stay (quiet before.2)).credentials account before.1
    · intro account has
      have before := carries account has
      exact (kept.stay (quiet before.2)).status account before.1
  | refused account error other answer isRequest before answered =>
    have stays := kept.stay (quiet (by rw [isRequest]; rfl))
    have has : phase.account = some account := by rw [before]; rfl
    have asked := requests other answer isRequest
    rw [before] at asked
    constructor
    case nonblank =>
      rintro account ⟨⟩
      exact stays.nonblank _ has
    case credentials =>
      rintro account ⟨⟩
      exact stays.credentials _ has
    case status =>
      rintro account ⟨⟩
      exact stays.status _ has
    case refused =>
      rintro account error ⟨⟩
      exact ⟨t, List.mem_cons_self .., answer, _, asked.1, asked.2, answered⟩
    all_goals simp
  | rejected account error before isQuiet =>
    have stays := kept.stay (quiet isQuiet)
    have has : phase.account = some account := by rw [before]; rfl
    constructor
    case rejected =>
      rintro error ⟨⟩
      obtain ⟨r, inside, refuses⟩ := stays.refused account error before
      exact ⟨r, inside, account, refuses, stays.credentials account has⟩
    all_goals simp [Phase.account]

def UsePhase.sending : UsePhase → Option Sending
  | .preparing .. => none
  | .sent sending | .answered sending _ | .judged sending => some sending

structure KeyKept (earlier : List KeyTransition) (key : KeyWorld) : Prop where
  nonblank : trim key.row.credentials.refreshToken ≠ ""
  calls : ∀ id call, key.world.calls id = some call → CallKept earlier key.row id call.phase
  prepared : ∀ id use sending, key.uses id = some use → use.phase.sending = some sending →
    key.world.phase sending.call = some (.prepared sending.auth)
  answered : ∀ id kind sending answer,
    key.uses id = some { kind := kind, phase := .answered sending answer } →
      ∃ r ∈ earlier, Answers r id kind sending answer

theorem stepCall_prepared {before after : World} {action : Action} {call : PrepareCall}
    {auth : PreparedCodexAuth} (isOver : call.phase = .prepared auth)
    (taken : stepCall codec before action.caller call action = some after) : False := by
  cases action <;> simp [stepCall, isOver] at taken

theorem prepared_stays {before after : World} {action : Action}
    (taken : PrepareStep codec before action after) {call : Nat} {auth : PreparedCodexAuth}
    (prepared : before.phase call = some (.prepared auth)) :
    after.phase call = some (.prepared auth) := by
  obtain ⟨prepare, found, is⟩ := Option.map_eq_some_iff.mp prepared
  unfold PrepareStep step at taken
  split at taken
  · rename_i other there
    obtain ⟨next, move, calls⟩ := stepCall_moved taken
    have apart : call ≠ action.caller := by
      intro same
      rw [same, there] at found
      cases found
      exact stepCall_prepared is taken
    unfold World.phase
    rw [calls, Function.update_of_ne apart, found, Option.map_some, is]
  · rename_i none
    split at taken
    · rename_i id gateway forceRefresh allowForbidden
      have apart : call ≠ id := by
        intro same
        rw [same] at found
        exact absurd (none.symm.trans found) nofun
      cases taken
      unfold World.phase
      dsimp only
      rw [Function.update_of_ne apart, found, Option.map_some, is]
    · cases taken

theorem calls_kept (nonblank : trim t.before.row.credentials.refreshToken ≠ "")
    (calls : ∀ id call, t.before.world.calls id = some call →
      CallKept earlier t.before.row id call.phase)
    {action : Action} (taken : PrepareStep codec t.before.world action t.after.world)
    (reads : readBy t = if action.reads then some action.caller else none)
    (requests : ∀ other answer, action = .request other answer → t.action = .prepare action) :
    ∀ id call, t.after.world.calls id = some call →
      CallKept (t :: earlier) t.after.row id call.phase := by
  have same : action.reads = true → SameAccount t.before.row t.after.row := (step_row taken).read
  intro id call found
  unfold PrepareStep step at taken
  split at taken
  · rename_i own there
    obtain ⟨next, move, moved⟩ := stepCall_moved taken
    rw [moved] at found
    by_cases caller : id = action.caller
    · subst caller
      rw [Function.update_self] at found
      cases found
      refine (calls action.caller own there).move move nonblank ?_ same ?_
      · rw [reads]
        split <;> simp_all
      · intro other answer is
        have acts := requests other answer is
        subst is
        exact ⟨acts, phase_of_call there⟩
    · rw [Function.update_of_ne caller] at found
      refine (calls id call found).stay ?_
      rw [reads]
      split
      · exact fun is => caller (Option.some.inj is).symm
      · exact nofun
  · split at taken
    · rename_i own gateway forceRefresh allowForbidden _
      have notRead : readBy t ≠ some id := by
        rw [reads]
        exact nofun
      have after : t.after.world.calls = Function.update t.before.world.calls own _ :=
        (congrArg World.calls (Option.some.inj taken)).symm
      rw [after] at found
      by_cases caller : id = own
      · subst caller
        rw [Function.update_self] at found
        cases found
        exact .plain rfl rfl
      · rw [Function.update_of_ne caller] at found
        exact (calls id call found).stay notRead
    · cases taken

theorem refreshed_nonblank {account : CodexOAuthAccount} {refreshed : RefreshTokenBundle}
    {claims : Option IdTokenClaims} (nonblank : trim account.credentials.refreshToken ≠ "") :
    trim (World.refreshedCredentials account refreshed claims).refreshToken ≠ "" := by
  unfold World.refreshedCredentials
  dsimp only
  cases fresh : rotated refreshed with
  | none => exact nonblank
  | some token =>
    have filtered := (Option.filter_eq_some_iff.mp fresh).2
    exact of_decide_eq_true filtered

theorem nonblank_kept (kept : KeyKept earlier t.before) {action : Action}
    (taken : PrepareStep codec t.before.world action t.after.world) :
    trim t.after.row.credentials.refreshToken ≠ "" := by
  have row := step_row taken
  unfold KeyWorld.row
  generalize t.after.world.row = stored at row
  cases row with
  | same same =>
    rw [same.2.1]
    exact kept.nonblank
  | marked => exact kept.nonblank
  | stored id nowMs account refreshed claims row there owned credentials status =>
    obtain ⟨call, found, is⟩ := Option.map_eq_some_iff.mp there
    have has : call.phase.account = some account := by rw [is]; rfl
    rw [credentials]
    exact refreshed_nonblank ((kept.calls id call found).nonblank account has)

def UsesMove (t : KeyTransition) : Prop :=
  ∀ id use, t.after.uses id = some use → t.before.uses id = some use ∨
    (∀ sending, use.phase.sending = some sending →
      t.before.world.phase sending.call = some (.prepared sending.auth)) ∧
    ∀ sending answer, use.phase = .answered sending answer → t.action = .answer id answer

theorem usesMove_update {id : Nat} {moved : Option Use}
    (after : t.after.uses = Function.update t.before.uses id moved)
    (prepared : ∀ use sending, moved = some use → use.phase.sending = some sending →
      t.before.world.phase sending.call = some (.prepared sending.auth))
    (answered : ∀ use sending answer, moved = some use → use.phase = .answered sending answer →
      t.action = .answer id answer) : UsesMove t := by
  intro other use found
  rw [after] at found
  by_cases same : other = id
  · subst same
    rw [Function.update_self] at found
    exact .inr ⟨fun sending => prepared use sending found,
      fun sending answer => answered use sending answer found⟩
  · rw [Function.update_of_ne same] at found
    exact .inl found

theorem KeyKept.next (kept : KeyKept earlier t.before)
    (nonblank : trim t.after.row.credentials.refreshToken ≠ "")
    (calls : ∀ id call, t.after.world.calls id = some call →
      CallKept (t :: earlier) t.after.row id call.phase)
    (stays : ∀ call auth, t.before.world.phase call = some (.prepared auth) →
      t.after.world.phase call = some (.prepared auth))
    (uses : UsesMove t) : KeyKept (t :: earlier) t.after := by
  refine ⟨nonblank, calls, ?_, ?_⟩
  · intro id use sending found has
    rcases uses id use found with before | ⟨prepared, _⟩
    · exact stays _ _ (kept.prepared id use sending before has)
    · exact stays _ _ (prepared sending has)
  · intro id kind sending answer found
    rcases uses id _ found with before | ⟨_, answered⟩
    · obtain ⟨r, inside, answers⟩ := kept.answered id kind sending answer before
      exact ⟨r, List.mem_cons_of_mem _ inside, answers⟩
    · exact ⟨t, List.mem_cons_self .., answered sending answer rfl, found⟩

theorem KeyKept.step (kept : KeyKept earlier t.before) {action : Action}
    (taken : PrepareStep codec t.before.world action t.after.world)
    (reads : readBy t = if action.reads then some action.caller else none)
    (requests : ∀ other answer, action = .request other answer → t.action = .prepare action)
    (uses : UsesMove t) : KeyKept (t :: earlier) t.after :=
  kept.next (nonblank_kept kept taken) (calls_kept kept.nonblank kept.calls taken reads requests)
    (fun _ _ => prepared_stays taken) uses

theorem KeyKept.still (kept : KeyKept earlier t.before)
    (calls : t.after.world.calls = t.before.world.calls) (reads : readBy t = none)
    (nonblank : trim t.after.row.credentials.refreshToken ≠ "") (uses : UsesMove t) :
    KeyKept (t :: earlier) t.after := by
  have phases : t.after.world.phase = t.before.world.phase := by
    unfold World.phase
    rw [calls]
  refine kept.next nonblank ?_ ?_ uses
  · rw [calls]
    intro id call found
    have notRead : readBy t ≠ some id := by
      rw [reads]
      exact nofun
    exact (kept.calls id call found).stay notRead
  · rw [phases]
    exact fun _ _ => id

theorem loginOf_nonblank {token : TokenResponse} {nowMs : Int} {login : SaveCodexLogin}
    (is : loginOf codec token nowMs = some login) : trim login.refreshToken ≠ "" := by
  unfold loginOf at is
  dsimp only at is
  split at is
  · cases is
  · rename_i complete
    split at is
    · cases is
    · split at is
      · cases is
      · cases is
        exact fun blank => complete (.inr (.inl blank))

@[simp] theorem judge_credentials (row : AccountRow) (verdict : Verdict) :
    (row.judge verdict).credentials = row.credentials := by
  cases verdict <;> rfl

theorem prepare_kept {before after : KeyWorld} (kept : KeyKept earlier before)
    {action : KeyAction} {id call gateway : Nat} {kind : UseKind} {forceRefresh : Bool}
    (taken : before.prepare codec id kind call gateway forceRefresh = some after)
    (reads : readBy ⟨before, action, after⟩ = none) :
    KeyKept (⟨before, action, after⟩ :: earlier) after := by
  obtain ⟨world, stepped, is⟩ := Option.map_eq_some_iff.mp taken
  subst is
  refine @KeyKept.step codec earlier ⟨before, action, _⟩ kept _ stepped reads
    (fun other answer is => by cases is) ?_
  refine @usesMove_update _ id (some _) rfl ?_ ?_
  · rintro use sending ⟨⟩ has
    cases has
  · rintro use sending answer ⟨⟩ is
    cases is

theorem goes_on {before key : KeyWorld} (kept : KeyKept earlier before) {action : KeyAction}
    {id : Nat} {use next : Use} {sending : Sending} (there : before.uses id = some use)
    (has : use.phase.sending = some sending)
    (same : ∀ other, next.phase.sending = some other →
      other.call = sending.call ∧ other.auth = sending.auth)
    (answered : ∀ other answer, next.phase = .answered other answer → action = .answer id answer)
    (reads : readBy ⟨before, action, key.become id next⟩ = none)
    (calls : key.world.calls = before.world.calls) (uses : key.uses = before.uses)
    (nonblank : trim key.row.credentials.refreshToken ≠ "") :
    KeyKept (⟨before, action, key.become id next⟩ :: earlier) (key.become id next) := by
  refine @KeyKept.still earlier ⟨before, action, _⟩ kept calls reads nonblank ?_
  have after : (key.become id next).uses = Function.update before.uses id (some next) := by
    unfold KeyWorld.become
    rw [uses]
  refine @usesMove_update _ id (some next) after ?_ ?_
  · rintro use other ⟨⟩ is
    have known := same other is
    rw [known.1, known.2]
    exact kept.prepared id _ sending there has
  · rintro use other answer ⟨⟩ is
    exact answered other answer is

theorem step_keyKept {before after : KeyWorld} {action : KeyAction}
    (kept : KeyKept earlier before) (taken : KeyStep codec before action after) :
    KeyKept (⟨before, action, after⟩ :: earlier) after := by
  unfold KeyStep keyStep at taken
  cases action with
  | prepare action =>
    obtain ⟨world, stepped, is⟩ := Option.map_eq_some_iff.mp taken
    subst is
    exact @KeyKept.step codec earlier ⟨before, .prepare action, _⟩ kept action stepped rfl
      (fun _ _ _ => rfl) fun _ _ found => .inl found
  | login token nowMs =>
    obtain ⟨login, saved, is⟩ := Option.map_eq_some_iff.mp taken
    subst is
    exact @KeyKept.still earlier ⟨before, .login token nowMs, _⟩ kept rfl rfl
      (loginOf_nonblank saved) fun _ _ found => .inl found
  | use id kind call gateway =>
    dsimp only at taken
    split at taken
    · exact prepare_kept kept taken rfl
    · cases taken
  | send id =>
    dsimp only at taken
    split at taken
    · split at taken
      · rename_i auth prepared
        cases taken
        refine @KeyKept.still earlier ⟨before, .send id, _⟩ kept rfl rfl kept.nonblank ?_
        refine @usesMove_update _ id (some _) rfl ?_ ?_
        · rintro use sending ⟨⟩ ⟨⟩
          exact prepared
        · rintro use sending answer ⟨⟩ is
          cases is
      · cases taken
    · cases taken
  | answer id answer =>
    dsimp only at taken
    split at taken
    · rename_i here
      cases taken
      refine goes_on kept here rfl ?_ ?_ rfl rfl rfl kept.nonblank
      · rintro other ⟨⟩
        exact ⟨rfl, rfl⟩
      · rintro other answer ⟨⟩
        rfl
    · rename_i here
      split at taken
      · cases taken
        refine goes_on kept here rfl ?_ ?_ rfl rfl rfl kept.nonblank
        · rintro other ⟨⟩
          exact ⟨rfl, rfl⟩
        · rintro other answer ⟨⟩
          rfl
      · cases taken
    · rename_i here
      split at taken
      · cases taken
        refine goes_on kept here rfl ?_ ?_ rfl rfl rfl kept.nonblank
        · rintro other ⟨⟩
          exact ⟨rfl, rfl⟩
        · rintro other answer ⟨⟩
          rfl
      · cases taken
    · cases taken
  | resend id =>
    dsimp only at taken
    split at taken
    · rename_i here
      split at taken
      · cases taken
      · cases taken
        refine goes_on kept here rfl ?_ (fun other answer is => by cases is) rfl rfl rfl kept.nonblank
        rintro other ⟨⟩
        exact ⟨rfl, rfl⟩
    · cases taken
  | replay id call gateway =>
    dsimp only at taken
    split at taken
    · split at taken
      · cases taken
      · exact prepare_kept kept taken rfl
    · cases taken
  | judge id =>
    dsimp only at taken
    split at taken
    · rename_i kind sending answer here
      obtain ⟨verdict, _, is⟩ := Option.map_eq_some_iff.mp taken
      subst is
      refine goes_on kept here rfl ?_ (fun other answer is => by cases is) rfl rfl rfl ?_
      · rintro other ⟨⟩
        exact ⟨rfl, rfl⟩
      · show trim (before.row.judge verdict).credentials.refreshToken ≠ ""
        rw [judge_credentials]
        exact kept.nonblank
    · cases taken
  | finish id =>
    dsimp only at taken
    split at taken
    · cases taken
    · cases taken
      exact @KeyKept.still earlier ⟨before, .finish id, _⟩ kept rfl rfl kept.nonblank
        (@usesMove_update _ id none rfl (fun use sending gone => by cases gone)
          fun use sending answer gone => by cases gone)

theorem active_not_disabled {status : String} (active : status = authStatusActive)
    (disabled : status = authStatusReauthRequired ∨ status = authStatusForbidden) : False := by
  rw [active] at disabled
  exact absurd disabled (by decide)

theorem prepare_justified {before : KeyWorld} {action : Action} {world : World}
    (kept : KeyKept earlier before) (taken : PrepareStep codec before.world action world)
    (undisturbed : Undisturbed earlier ⟨before, .prepare action, { before with world := world }⟩)
    (disables : Disables ⟨before, .prepare action, { before with world := world }⟩) :
    Justified earlier ⟨before, .prepare action, { before with world := world }⟩ := by
  have row := step_row taken
  have changed : world.row.authStatus ≠ before.row.authStatus := disables.1
  have disabled : world.row.authStatus = authStatusReauthRequired ∨
      world.row.authStatus = authStatusForbidden := disables.2
  generalize stored : world.row = after at row changed disabled
  cases row with
  | same same => exact absurd same.2.2 changed
  | marked id phase error there cause =>
    obtain ⟨call, found, is⟩ := Option.map_eq_some_iff.mp there
    have known := kept.calls id call found
    rw [is] at known
    rcases cause with unusable | ⟨error, rejected⟩
    · exact absurd unusable known.usable
    · obtain ⟨r, inside, account, refuses, same⟩ := known.rejected error rejected
      have since := undisturbed id .credentials (if_neg fun is => changed is.symm)
      exact .refused id account rfl r inside refuses (same since).2
  | stored id nowMs account refreshed claims row there owned credentials status =>
    obtain ⟨call, found, is⟩ := Option.map_eq_some_iff.mp there
    have has : call.phase.account = some account := by rw [is]; rfl
    have notActive : account.authStatus ≠ authStatusActive := fun active =>
      active_not_disabled (status.trans active) disabled
    have relies : reliance ⟨before, .prepare (.persist id nowMs), { before with world := world }⟩ =
        some (id, .status) := by
      unfold reliance
      dsimp only
      rw [there]
      exact if_pos ⟨owned, notActive⟩
    have same := (kept.calls id call found).status account has (undisturbed id .status relies)
    exact absurd (status.trans same) changed

theorem judge_justified {before after : KeyWorld} {id : Nat} (kept : KeyKept earlier before)
    (taken : KeyStep codec before (.judge id) after)
    (undisturbed : Undisturbed earlier ⟨before, .judge id, after⟩)
    (disables : Disables ⟨before, .judge id, after⟩) :
    Justified earlier ⟨before, .judge id, after⟩ := by
  obtain ⟨changed, disabled⟩ := disables
  unfold KeyStep keyStep at taken
  dsimp only at taken
  split at taken
  · rename_i kind sending answer here
    obtain ⟨judged, found, is⟩ := Option.map_eq_some_iff.mp taken
    have row : after.row = before.row.judge judged := by
      rw [← is]
      rfl
    dsimp only at changed disabled
    rw [row] at changed disabled
    cases judged with
    | quotaSuccess => exact absurd disabled fun disabled => active_not_disabled rfl disabled
    | temporary error => exact absurd rfl changed
    | status status error =>
      have relies : reliance ⟨before, .judge id, after⟩ = some (sending.call, .credentials) := by
        unfold reliance
        dsimp only
        rw [here]
        dsimp only
        rw [found]
        exact if_neg fun is => changed is.symm
      have since := undisturbed sending.call .credentials relies
      obtain ⟨r, inside, answers⟩ := kept.answered id kind sending answer here
      have prepared := kept.prepared id _ sending here rfl
      obtain ⟨call, there, is⟩ := Option.map_eq_some_iff.mp prepared
      have auth := (kept.calls sending.call call there).auth sending.auth is since
      have stored : after.row.authStatus = status := by
        rw [row]
        rfl
      refine .answered id kind sending answer error rfl here r inside answers ?_ auth
      rw [found, stored]
  · cases taken

theorem prepare_status {before after : KeyWorld} {id call gateway : Nat} {kind : UseKind}
    {forceRefresh : Bool} (taken : before.prepare codec id kind call gateway forceRefresh = some after) :
    after.row.authStatus = before.row.authStatus := by
  obtain ⟨world, stepped, is⟩ := Option.map_eq_some_iff.mp taken
  have row := step_row stepped
  subst is
  show world.row.authStatus = _
  generalize world.row = stored at row
  cases row with
  | same same => exact same.2.2

theorem justified_of_disables {before after : KeyWorld} {action : KeyAction}
    (kept : KeyKept earlier before) (taken : KeyStep codec before action after)
    (undisturbed : Undisturbed earlier ⟨before, action, after⟩)
    (disables : Disables ⟨before, action, after⟩) : Justified earlier ⟨before, action, after⟩ := by
  have unchanged : after.row.authStatus = before.row.authStatus →
      Justified earlier ⟨before, action, after⟩ := fun same => absurd same disables.1
  cases action with
  | prepare action =>
    obtain ⟨world, stepped, is⟩ := Option.map_eq_some_iff.mp taken
    subst is
    exact prepare_justified kept stepped undisturbed disables
  | login token nowMs =>
    obtain ⟨login, _, is⟩ := Option.map_eq_some_iff.mp taken
    subst is
    exact absurd disables.2 fun disabled => active_not_disabled rfl disabled
  | judge id => exact judge_justified kept taken undisturbed disables
  | use id kind call gateway =>
    unfold KeyStep keyStep at taken
    dsimp only at taken
    split at taken
    · exact unchanged (prepare_status taken)
    · cases taken
  | replay id call gateway =>
    unfold KeyStep keyStep at taken
    dsimp only at taken
    split at taken
    · split at taken
      · cases taken
      · exact unchanged (prepare_status taken)
    · cases taken
  | send id | answer id answer | resend id | finish id =>
    unfold KeyStep keyStep at taken
    dsimp only at taken
    repeat' split at taken
    all_goals cases taken
    all_goals exact unchanged rfl

structure KeyWorld.Fresh (key : KeyWorld) : Prop where
  nonblank : trim key.row.credentials.refreshToken ≠ ""
  calls : ∀ id, key.world.calls id = none
  uses : ∀ id, key.uses id = none

theorem run_keyKept {start final : KeyWorld} {history : List KeyTransition} (fresh : start.Fresh)
    (run : Execution (KeyStep codec) start history final) : KeyKept history final := by
  refine run.invariant ?_ fun _ _ _ _ kept taken => step_keyKept kept taken
  refine ⟨fresh.nonblank, ?_, ?_, ?_⟩
  · intro id call found
    rw [fresh.calls] at found
    cases found
  · intro id use sending found
    rw [fresh.uses] at found
    cases found
  · intro id kind sending answer found
    rw [fresh.uses] at found
    cases found

/-- Only an answer to the stored credentials disables an account, where no verdict waits while the
credentials that it is about are replaced. -/
theorem verdicts_current {start final : KeyWorld} {history : List KeyTransition}
    (fresh : start.Fresh) (run : Execution (KeyStep codec) start history final)
    (undisturbed : Throughout Undisturbed history) :
    Throughout (fun earlier t => Disables t → Justified earlier t) history := by
  induction run with
  | start => exact True.intro
  | next run taken ih =>
    have before := ih undisturbed.2
    exact ⟨justified_of_disables (run_keyKept fresh run) taken undisturbed.1, before⟩

def validKey : KeyWorld where
  world := { expiredWorld with row := { expiredWorld.row with tokenExpiresAtMs := some 1000000 } }
  uses _ := none

theorem validKey_fresh : validKey.Fresh := ⟨by decide, fun _ => rfl, fun _ => rfl⟩

def secondRotation : TokenAnswer :=
  .granted
    { accessToken := "access2", refreshToken := some "refresh2", idToken := none, expiresIn := none }

def refreshSteps (call : Nat) (answer : TokenAnswer) : List KeyAction :=
  [.prepare (.reload call), .prepare (.persist call 20), .prepare (.request call answer),
    .prepare (.acquire call), .prepare (.load call 10), .prepare (.lock call)]

def replayedProxy : List KeyAction :=
  .send 1 :: refreshSteps 2 rotation ++
    [.replay 1 2 0, .answer 1 (.response 401 []), .send 1, .prepare (.load 1 10),
      .prepare (.lock 1), .use 1 .proxy 1 0]

theorem verdicts_current_replayed : ∃ history final,
    Execution (KeyStep plainCodec) validKey history final ∧
      final.row.authStatus = authStatusReauthRequired ∧
        Throughout (fun earlier t => Disables t → Justified earlier t) history := by
  have replayed : ∃ run, replay (keyStep plainCodec) validKey
      (.judge 1 :: .answer 1 (.response 401 []) :: replayedProxy) = some run ∧
        run.2.row.authStatus = authStatusReauthRequired ∧ Throughout Undisturbed run.1 :=
    ⟨_, rfl, by decide, by decide⟩
  obtain ⟨⟨history, final⟩, ran, status, undisturbed⟩ := replayed
  have run := replay_run ran
  exact ⟨history, final, run, status, verdicts_current validKey_fresh run undisturbed⟩

/-- While the second answer is under way, a request for the models refreshes the token again. -/
def lateRejection : List KeyAction :=
  [.judge 1, .answer 1 (.response 401 [])] ++ refreshSteps 4 secondRotation ++
    [.replay 2 4 0, .answer 2 (.response 401 []), .send 2, .prepare (.load 3 10),
      .prepare (.lock 3), .use 2 .models 3 0] ++ replayedProxy

/-- A late answer to a replaced token disables the account. -/
theorem late_rejection_disables : ∃ history final,
    Execution (KeyStep plainCodec) validKey history final ∧ validKey.Fresh ∧
      final.row.accessToken = "access2" ∧ final.row.authStatus = authStatusReauthRequired ∧
        ¬ Throughout (fun earlier t => Disables t → Justified earlier t) history := by
  have replayed : ∃ run, replay (keyStep plainCodec) validKey lateRejection = some run ∧
      run.2.row.accessToken = "access2" ∧ run.2.row.authStatus = authStatusReauthRequired ∧
        ∃ t earlier kind sending answer, run.1 = t :: earlier ∧ t.action = .judge 1 ∧
          t.before.uses 1 = some { kind := kind, phase := .answered sending answer } ∧
            sending.auth.accessToken = "access1" ∧ t.before.row.accessToken = "access2" ∧
              Disables t :=
    ⟨_, rfl, by decide, by decide, _, _, _, _, _, rfl, rfl, rfl, by decide, by decide, by decide,
      .inl (by decide)⟩
  obtain ⟨⟨history, final⟩, ran, token, status, t, earlier, kind, sending, answer, is, judges, there,
    used, stored, disables⟩ := replayed
  refine ⟨history, final, replay_run ran, validKey_fresh, token, status, fun current => ?_⟩
  dsimp only at is
  subst is
  cases current.1 disables with
  | answered id kind' sending' answer' error judged found r inside answers verdict same =>
    rw [judges] at judged
    cases judged
    rw [there] at found
    cases found
    have tokens := congrArg PreparedCodexAuth.accessToken same
    rw [used] at tokens
    exact absurd (tokens.trans stored) (by decide)
  | refused id account marks =>
    rw [judges] at marks
    cases marks

end CodexGate.Oauth
