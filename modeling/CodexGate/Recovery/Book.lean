import CodexGate.Recovery.EncryptedContent
import CodexGate.Foundation.Eviction
import CodexGate.Foundation.Execution

namespace CodexGate.Recovery

open Foundation

def maxDigestsPerSession : Nat := 512
def maxSessions : Nat := 1024

structure Session where
  digests : List Digest
  lastSeenMs : Int

structure RecoveryBook where
  sessions : HashMap String Session
  ttlMs : Int
  maxSessions : Nat

namespace RecoveryBook

def new (ttlMs limit : Nat) : RecoveryBook where
  sessions := ∅
  ttlMs := min ttlMs i64Max
  maxSessions := max 1 (min limit Recovery.maxSessions)

def idle (book : RecoveryBook) (session : Session) (nowMs : Int) : Bool :=
  book.ttlMs ≤ saturatingSubI64 nowMs session.lastSeenMs

def lookup (book : RecoveryBook) (key : String) (nowMs : Int) : List Digest × RecoveryBook :=
  match book.sessions.lookup key with
  | none => ([], book)
  | some session =>
    if book.idle session nowMs then ([], { book with sessions := book.sessions.erase key })
    else (session.digests, { book with
      sessions := book.sessions.insert key { session with lastSeenMs := nowMs } })

def evictOldest (book : RecoveryBook) (iteration : Iteration String Session)
    (sessions : HashMap String Session) : HashMap String Session :=
  if book.maxSessions ≤ size sessions then
    match iteration.oldest Session.lastSeenMs sessions with
    | some oldest => sessions.erase oldest
    | none => sessions
  else sessions

def makeRoom (book : RecoveryBook) (key : String) (nowMs : Int)
    (iteration : Iteration String Session) : HashMap String Session :=
  let retained := retain (fun _ session => !book.idle session nowMs) book.sessions
  if key ∈ retained then retained else book.evictOldest iteration retained

def pushDigest (digests : List Digest) (digest : Digest) : List Digest :=
  if digest ∈ digests then digests
  else if maxDigestsPerSession ≤ digests.length then digests.tail ++ [digest]
  else digests ++ [digest]

def remember (book : RecoveryBook) (key : String) (digests : List Digest) (nowMs : Int)
    (iteration : Iteration String Session) : RecoveryBook :=
  if digests.isEmpty then book
  else
    let sessions := book.makeRoom key nowMs iteration
    let known := ((sessions.lookup key).map Session.digests).getD []
    { book with sessions := sessions.insert key ⟨digests.foldl pushDigest known, nowMs⟩ }

end RecoveryBook

inductive BookCall
  | lookup (key : String) (nowMs : Int)
  | remember (key : String) (digests : List Digest) (nowMs : Int)
    (iteration : Iteration String Session)

def BookCall.nowMs : BookCall → Int
  | .lookup _ nowMs | .remember _ _ nowMs _ => nowMs

def BookCall.key : BookCall → String
  | .lookup key _ | .remember key _ _ _ => key

def RecoveryBook.call (book : RecoveryBook) : BookCall → RecoveryBook
  | .lookup key nowMs => (book.lookup key nowMs).2
  | .remember key digests nowMs iteration => book.remember key digests nowMs iteration

structure BookWorld where
  book : RecoveryBook
  nowMs : Int

def BookWorld.step (world : BookWorld) (call : BookCall) (next : BookWorld) : Prop :=
  world.nowMs ≤ call.nowMs ∧ next = ⟨world.book.call call, call.nowMs⟩

section Digests

variable {digests known : List Digest} {digest : Digest}

theorem mem_pushDigest {other : Digest} (member : other ∈ RecoveryBook.pushDigest known digest) :
    other = digest ∨ other ∈ known := by
  unfold RecoveryBook.pushDigest at member
  split at member
  · exact .inr member
  · split at member
    · rcases List.mem_append.mp member with member | member
      · exact .inr (List.mem_of_mem_tail member)
      · exact .inl (List.mem_singleton.mp member)
    · rcases List.mem_append.mp member with member | member
      · exact .inr member
      · exact .inl (List.mem_singleton.mp member)

theorem mem_foldl_pushDigest {other : Digest}
    (member : other ∈ digests.foldl RecoveryBook.pushDigest known) :
    other ∈ digests ∨ other ∈ known := by
  induction digests generalizing known with
  | nil => exact .inr member
  | cons digest rest ih =>
    rcases ih member with member | member
    · exact .inl (List.mem_cons_of_mem _ member)
    · rcases mem_pushDigest member with same | member
      · exact .inl (same ▸ List.mem_cons_self)
      · exact .inr member

def Few (digests : List Digest) : Prop := digests.Nodup ∧ digests.length ≤ maxDigestsPerSession

theorem Few.snoc (nodup : known.Nodup) (fresh : digest ∉ known)
    (room : known.length < maxDigestsPerSession) : Few (known ++ [digest]) := by
  constructor
  · refine List.nodup_append.mpr ⟨nodup, List.nodup_singleton _, fun other member one is => ?_⟩
    rw [List.mem_singleton.mp is]
    rintro rfl
    exact fresh member
  · rw [List.length_append]
    exact room

theorem Few.push (few : Few known) (digest : Digest) :
    Few (RecoveryBook.pushDigest known digest) := by
  unfold RecoveryBook.pushDigest
  split
  · exact few
  · rename_i fresh
    split
    · rename_i full
      have length : known.tail.length < maxDigestsPerSession := by
        have room := few.2
        rw [List.length_tail]
        unfold maxDigestsPerSession at full room ⊢
        omega
      exact .snoc (few.1.sublist (List.tail_sublist known))
        (fun member => fresh (List.mem_of_mem_tail member)) length
    · rename_i room
      exact .snoc few.1 fresh (Nat.lt_of_not_le room)

theorem Few.foldl (few : Few known) (digests : List Digest) :
    Few (digests.foldl RecoveryBook.pushDigest known) := by
  induction digests generalizing known with
  | nil => exact few
  | cons digest rest ih => exact ih (few.push digest)

end Digests

section Calls

variable {book : RecoveryBook} {key other : String} {nowMs : Int}

theorem idle_eq_false_iff (fits : 0 ≤ book.ttlMs ∧ book.ttlMs ≤ i64Max) (session : Session) :
    book.idle session nowMs = false ↔ nowMs - session.lastSeenMs < book.ttlMs := by
  unfold RecoveryBook.idle saturatingSubI64 clampI64
  rw [decide_eq_false_iff_not]
  have floor : i64Min < 0 := by decide
  omega

def Live (book : RecoveryBook) (key : String) (nowMs : Int) (session : Session) : Prop :=
  book.sessions.lookup key = some session ∧ nowMs - session.lastSeenMs < book.ttlMs

inductive Kept (book : RecoveryBook) (call : BookCall) (key : String) (after : Session) : Prop
  | untouched (before : book.sessions.lookup key = some after)
  | seen (nowMs : Int) (is : call = .lookup key nowMs) (before : Session)
    (live : Live book key nowMs before) (same : after = { before with lastSeenMs := nowMs })
  | grown (digests : List Digest) (nowMs : Int) (iteration : Iteration String Session)
    (is : call = .remember key digests nowMs iteration) (known : List Digest)
    (same : after = ⟨digests.foldl RecoveryBook.pushDigest known, nowMs⟩)
    (from_ : known = [] ∨ ∃ before, Live book key nowMs before ∧ known = before.digests)

theorem lookup_evictOldest {iteration : Iteration String Session}
    {sessions : HashMap String Session} {session : Session}
    (found : (book.evictOldest iteration sessions).lookup key = some session) :
    sessions.lookup key = some session := by
  unfold RecoveryBook.evictOldest at found
  split at found
  · split at found
    · rename_i oldest _
      by_cases same : key = oldest
      · rw [same, AList.lookup_erase] at found
        cases found
      · rwa [AList.lookup_erase_ne same] at found
    · exact found
  · exact found

theorem makeRoom_live (fits : 0 ≤ book.ttlMs ∧ book.ttlMs ≤ i64Max) {iteration : Iteration String Session} {session : Session}
    (found : (book.makeRoom other nowMs iteration).lookup key = some session) :
    Live book key nowMs session := by
  have retained : (retain (fun _ session => !book.idle session nowMs) book.sessions).lookup key =
      some session := by
    unfold RecoveryBook.makeRoom at found
    dsimp only at found
    split at found
    · exact found
    · exact lookup_evictOldest found
  rw [lookup_retain, Option.filter_eq_some_iff] at retained
  exact ⟨retained.1, (idle_eq_false_iff fits session).mp (by simpa using retained.2)⟩

theorem call_kept (fits : 0 ≤ book.ttlMs ∧ book.ttlMs ≤ i64Max) {call : BookCall}
    {after : Session}
    (found : (book.call call).sessions.lookup key = some after) : Kept book call key after := by
  cases call with
  | lookup asked nowMs =>
    unfold RecoveryBook.call RecoveryBook.lookup at found
    dsimp only at found
    split at found
    · exact .untouched found
    · rename_i session there
      split at found
      · by_cases same : key = asked
        · subst same
          rw [AList.lookup_erase] at found
          cases found
        · rw [AList.lookup_erase_ne same] at found
          exact .untouched found
      · rename_i used
        by_cases same : key = asked
        · subst same
          rw [AList.lookup_insert] at found
          cases found
          have inUse := (idle_eq_false_iff fits session).mp (by simpa using used)
          exact .seen nowMs rfl session ⟨there, inUse⟩ rfl
        · rw [AList.lookup_insert_ne same] at found
          exact .untouched found
  | remember asked digests nowMs iteration =>
    unfold RecoveryBook.call RecoveryBook.remember at found
    dsimp only at found
    split at found
    · exact .untouched found
    by_cases same : key = asked
    · subst same
      rw [AList.lookup_insert] at found
      cases found
      refine .grown digests nowMs iteration rfl _ rfl ?_
      cases there : (book.makeRoom key nowMs iteration).lookup key with
      | none => exact .inl rfl
      | some before => exact .inr ⟨before, makeRoom_live fits there, rfl⟩
    · rw [AList.lookup_insert_ne same] at found
      exact .untouched (makeRoom_live fits found).1

theorem size_evictOldest (positive : 0 < book.maxSessions) {sessions : HashMap String Session}
    (iteration : Iteration String Session) (bounded : size sessions ≤ book.maxSessions) :
    size (book.evictOldest iteration sessions) < book.maxSessions := by
  unfold RecoveryBook.evictOldest
  split
  · split
    · rename_i oldest found
      have less := size_erase (iteration.oldest_mem Session.lastSeenMs found)
      omega
    · rename_i missing
      rw [iteration.oldest_eq_none Session.lastSeenMs missing]
      exact positive
  · rename_i room
    exact Nat.lt_of_not_le room

theorem call_maxSessions (book : RecoveryBook) (call : BookCall) :
    (book.call call).maxSessions = book.maxSessions := by
  cases call with
  | lookup key nowMs =>
    unfold RecoveryBook.call RecoveryBook.lookup
    dsimp only
    split
    · rfl
    · split <;> rfl
  | remember key digests nowMs iteration =>
    unfold RecoveryBook.call RecoveryBook.remember
    dsimp only
    split <;> rfl

theorem call_ttlMs (book : RecoveryBook) (call : BookCall) :
    (book.call call).ttlMs = book.ttlMs := by
  cases call with
  | lookup key nowMs =>
    unfold RecoveryBook.call RecoveryBook.lookup
    dsimp only
    split
    · rfl
    · split <;> rfl
  | remember key digests nowMs iteration =>
    unfold RecoveryBook.call RecoveryBook.remember
    dsimp only
    split <;> rfl

theorem call_size (positive : 0 < book.maxSessions) (bounded : size book.sessions ≤ book.maxSessions)
    (call : BookCall) : size (book.call call).sessions ≤ book.maxSessions := by
  cases call with
  | lookup key nowMs =>
    unfold RecoveryBook.call RecoveryBook.lookup
    dsimp only
    split
    · exact bounded
    · rename_i session found
      split
      · exact (size_erase_le key book.sessions).trans bounded
      · rw [size_insert (mem_of_lookup_eq_some found)]
        exact bounded
  | remember key digests nowMs iteration =>
    unfold RecoveryBook.call RecoveryBook.remember
    dsimp only
    split
    · exact bounded
    have retained := (size_retain_le (fun _ session => !book.idle session nowMs)
      book.sessions).trans bounded
    unfold RecoveryBook.makeRoom
    dsimp only
    split
    · rename_i member
      rw [size_insert member]
      exact retained
    · exact (size_insert_le key _ _).trans (size_evictOldest positive iteration retained)

end Calls

section Run

/-- The digest was remembered under the key, and from then on the session was there and not idle
whenever the book was called. -/
def RememberedSince (history : List (Transition BookWorld BookCall)) (key : String)
    (digest : Digest) : Prop :=
  ∃ recent call earlier digests nowMs iteration, history = recent ++ call :: earlier ∧
    call.action = .remember key digests nowMs iteration ∧ digest ∈ digests ∧
    ∀ later ∈ recent, ∃ session, Live later.before.book key later.action.nowMs session

structure BookKept (history : List (Transition BookWorld BookCall)) (world : BookWorld) : Prop where
  fits : 0 ≤ world.book.ttlMs ∧ world.book.ttlMs ≤ i64Max
  positive : 0 < world.book.maxSessions
  sessions : size world.book.sessions ≤ world.book.maxSessions
  digests : ∀ key session, world.book.sessions.lookup key = some session → Few session.digests
  remembered : ∀ key session, Live world.book key world.nowMs session →
    ∀ digest ∈ session.digests, RememberedSince history key digest

variable {history : List (Transition BookWorld BookCall)} {world : BookWorld} {key : String}

theorem RememberedSince.later {call : Transition BookWorld BookCall} {digest : Digest}
    {session : Session} (remembered : RememberedSince history key digest)
    (live : Live call.before.book key call.action.nowMs session) :
    RememberedSince (call :: history) key digest := by
  obtain ⟨recent, made, earlier, digests, nowMs, iteration, same, is, member, used⟩ := remembered
  refine ⟨call :: recent, made, earlier, digests, nowMs, iteration, by rw [same]; rfl, is, member, ?_⟩
  intro later inside
  rcases List.mem_cons.mp inside with rfl | inside
  · exact ⟨session, live⟩
  · exact used later inside

theorem Live.earlier {book : RecoveryBook} {session : Session} {nowMs later : Int}
    (live : Live book key later session) (order : nowMs ≤ later) : Live book key nowMs session := by
  have inUse := live.2
  exact ⟨live.1, by omega⟩

theorem BookKept.step (kept : BookKept history world) {call : BookCall} {next : BookWorld}
    (taken : world.step call next) : BookKept (⟨world, call, next⟩ :: history) next := by
  obtain ⟨order, rfl⟩ := taken
  constructor
  · rw [call_ttlMs]
    exact kept.fits
  · rw [call_maxSessions]
    exact kept.positive
  · rw [call_maxSessions]
    exact call_size kept.positive kept.sessions call
  · intro key session found
    cases call_kept kept.fits found with
    | untouched before => exact kept.digests key session before
    | seen nowMs is before live same =>
      rw [same]
      exact kept.digests key before live.1
    | grown digests nowMs iteration is known same origin =>
      rw [same]
      refine Few.foldl ?_ digests
      rcases origin with rfl | ⟨before, live, rfl⟩
      · exact ⟨List.nodup_nil, Nat.zero_le _⟩
      · exact kept.digests key before live.1
  · intro key session live digest member
    have carried : ∀ before, Live world.book key call.nowMs before → digest ∈ before.digests →
        RememberedSince (⟨world, call, ⟨world.book.call call, call.nowMs⟩⟩ :: history) key digest :=
      fun before there inside =>
        (kept.remembered key before (there.earlier order) digest inside).later there
    cases call_kept kept.fits live.1 with
    | untouched before =>
      refine carried session ⟨before, ?_⟩ member
      have inUse := live.2
      rwa [call_ttlMs] at inUse
    | seen nowMs is before there same =>
      subst is
      rw [same] at member
      exact carried before there member
    | grown digests nowMs iteration is known same origin =>
      subst is
      rw [same] at member
      rcases mem_foldl_pushDigest member with member | member
      · exact ⟨[], _, history, digests, nowMs, iteration, rfl, rfl, member,
          fun later inside => by cases inside⟩
      · rcases origin with rfl | ⟨before, there, rfl⟩
        · cases member
        · exact carried before there member

theorem run_kept {ttlMs limit : Nat} {startMs : Int}
    (run : Execution BookWorld.step ⟨.new ttlMs limit, startMs⟩ history world) :
    BookKept history world := by
  refine run.invariant (P := BookKept) ?_ fun history before call after kept taken =>
    kept.step taken
  constructor
  · exact ⟨le_min (Int.natCast_nonneg ttlMs) (by decide), min_le_right _ _⟩
  · exact Nat.lt_of_lt_of_le Nat.one_pos (le_max_left _ _)
  · exact Nat.zero_le _
  · intro key session found
    cases found
  · intro key session live
    cases live.1

theorem run_maxSessions {start : BookWorld} (run : Execution BookWorld.step start history world) :
    world.book.maxSessions = start.book.maxSessions := by
  induction run with
  | start => rfl
  | next run taken ih =>
    rw [taken.2, call_maxSessions]
    exact ih

/-- However the book is used, it stays small, and a lookup gives what its own key has remembered
since the session was last absent or idle. -/
theorem run_isolated {ttlMs limit : Nat} {startMs : Int}
    (run : Execution BookWorld.step ⟨.new ttlMs limit, startMs⟩ history world) :
    size world.book.sessions ≤ (RecoveryBook.new ttlMs limit).maxSessions ∧
      (∀ key session, world.book.sessions.lookup key = some session →
        session.digests.Nodup ∧ session.digests.length ≤ 512) ∧
      ∀ key nowMs, world.nowMs ≤ nowMs → ∀ digest ∈ (world.book.lookup key nowMs).1,
        (∃ session, Live world.book key nowMs session) ∧ RememberedSince history key digest := by
  have kept := run_kept run
  have limited : size world.book.sessions ≤ (RecoveryBook.new ttlMs limit).maxSessions := by
    rw [← run_maxSessions run]
    exact kept.sessions
  refine ⟨limited, kept.digests, ?_⟩
  intro key nowMs order digest member
  unfold RecoveryBook.lookup at member
  split at member
  · cases member
  · rename_i session found
    split at member
    · cases member
    · rename_i inUse
      have live : Live world.book key nowMs session :=
        ⟨found, (idle_eq_false_iff kept.fits session).mp (by simpa using inUse)⟩
      exact ⟨⟨session, live⟩, kept.remembered key session (live.earlier order) digest member⟩

/-- A digest is remembered and found. -/
theorem run_isolated_found : ∃ history world,
    Execution BookWorld.step ⟨.new 60000 10, 0⟩ history world ∧
      (world.book.lookup "session" 1).1 = [[7]] ∧ RememberedSince history "session" [7] := by
  have taken : BookWorld.step ⟨.new 60000 10, 0⟩ (.remember "session" [[7]] 0 .plain) _ :=
    ⟨le_refl 0, rfl⟩
  have run := Execution.start.next taken
  refine ⟨_, _, run, rfl, ?_⟩
  exact ((run_isolated run).2.2 "session" 1 (by decide) [7] (by decide)).2

end Run

end CodexGate.Recovery
