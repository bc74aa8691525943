import CodexGate.Provider.Quota
import CodexGate.Foundation.Execution
import CodexGate.Foundation.Text
import CodexGate.Foundation.Json
import CodexGate.Health.Model

namespace CodexGate.Provider

open Foundation Health

/-- What the headers are read with: `httpdate`, `time` and the arithmetic of `f64`. -/
structure Formats where
  /-- `parse_http_date`, in milliseconds since the epoch. -/
  httpDate : String → Option Int
  /-- `OffsetDateTime::parse` with `Rfc3339`, in nanoseconds since the epoch. -/
  rfc3339 : String → Option Int
  /-- A decimal times a factor, rounded, where that is finite, not negative and an `i64`. -/
  scaled : String → Nat → Option Int

def fitsI64 (n : Int) : Bool := i64Min ≤ n && n ≤ i64Max

section Headers

variable (formats : Formats) (headers : HeaderMap) (nowMs : Int)

def retryAfterMs : Option Int :=
  match (headers.text "retry-after").map trim with
  | none => none
  | some value =>
    match parseU64 value with
    | some seconds => some (min (min (seconds * 1000) u64Max : Nat) i64Max)
    | none =>
      match formats.httpDate value with
      | some timestamp =>
        if timestamp < 0 then none
        else some (max (saturatingSubI64 (min timestamp i64Max) nowMs) 0)
      | none => none

def firstI64Header (names : List HeaderName) : Option Int :=
  names.findSome? fun name => (headers.text name).bind fun value => parseI64 (trim value)

def stripEnd (text : String) (count : Nat) : String :=
  String.ofList (text.toList.take (text.toList.length - count))

def parseRelativeDurationMs (value : String) : Option Int :=
  if endsWith value "ms" then formats.scaled (trim (stripEnd value 2)) 1
  else if endsWith value "s" then formats.scaled (trim (stripEnd value 1)) 1000
  else if endsWith value "m" then formats.scaled (trim (stripEnd value 1)) 60000
  else if endsWith value "h" then formats.scaled (trim (stripEnd value 1)) 3600000
  else none

def resetMs (value : String) : Option Int :=
  match parseI64 value with
  | some timestamp =>
    if timestamp < 0 then none
    else if timestamp > 10000000000 then some timestamp
    else some (timestamp * 1000)
  | none =>
    match formats.rfc3339 value with
    | some nanos => some (nanos.tdiv 1000000) |>.filter fun millis => fitsI64 millis && 0 ≤ millis
    | none =>
      (parseRelativeDurationMs formats value).bind fun duration =>
        some (nowMs + duration) |>.filter fitsI64

def firstResetHeaderMs (names : List HeaderName) : Option Int :=
  (names.filterMap fun name =>
    (headers.text name).bind fun value => resetMs formats nowMs (trim value)).max?

end Headers

namespace QuotaState

def read (formats : Formats) (headers : HeaderMap) (nowMs : Int) (state : QuotaState) : QuotaState :=
  { state with
    remainingRequests := (firstI64Header headers
      ["x-ratelimit-remaining-requests", "anthropic-ratelimit-requests-remaining"]).or
        state.remainingRequests
    remainingTokens := (firstI64Header headers
      ["x-ratelimit-remaining-tokens", "anthropic-ratelimit-tokens-remaining"]).or
        state.remainingTokens
    resetAtMs := (firstResetHeaderMs formats headers nowMs
      ["x-ratelimit-reset-requests", "anthropic-ratelimit-requests-reset",
        "x-ratelimit-reset-tokens", "anthropic-ratelimit-tokens-reset"]).or state.resetAtMs
    updatedAtMs := some nowMs }

def retryMs (formats : Formats) (headers : HeaderMap) (nowMs : Int) (fallbackMs : Nat)
    (state : QuotaState) : Int :=
  let waits := (retryAfterMs formats headers nowMs).toList ++
    (state.resetAtMs.map fun reset => saturatingSubI64 reset nowMs).toList
  max ((waits.max?.filter fun wait => 0 < wait).getD
    (cooldownMs (min fallbackMs i64Max) state.consecutiveRateLimits)) 1000

def observe (formats : Formats) (status : Int) (headers : HeaderMap) (nowMs : Int)
    (fallbackMs : Nat) (state : QuotaState) : QuotaState :=
  let state := state.read formats headers nowMs
  if status = 402 ∨ status = 429 then
    let state := { state with
      consecutiveRateLimits := saturatingAddU32 state.consecutiveRateLimits 1 }
    { state with cooldownUntilMs := some (max (state.cooldownUntilMs.getD 0)
        (saturatingAddI64 nowMs (state.retryMs formats headers nowMs fallbackMs))) }
  else if status < 400 ∧ state.cooldownUntilMs.all (· ≤ nowMs) then
    { state with consecutiveRateLimits := 0, cooldownUntilMs := none }
  else state

def cool (untilMs nowMs : Int) (state : QuotaState) : QuotaState :=
  let state := state.expire nowMs
  let state := if untilMs > nowMs then
    { state with
      cooldownUntilMs := some (max (state.cooldownUntilMs.getD 0) untilMs)
      resetAtMs := some (max (state.resetAtMs.getD 0) untilMs)
      remainingRequests := some 0 }
  else state
  { state with updatedAtMs := some nowMs }

def clear (nowMs : Int) (state : QuotaState) : QuotaState :=
  { state with
    cooldownUntilMs := none
    resetAtMs := none
    remainingRequests := none
    remainingTokens := none
    updatedAtMs := some nowMs }

end QuotaState

namespace QuotaBook

variable (book : QuotaBook)

def observeResponse (formats : Formats) (keyId status : Int) (headers : HeaderMap) (nowMs : Int)
    (fallbackMs : Nat) : QuotaBook :=
  book.put keyId ((book.entry keyId).observe formats status headers nowMs fallbackMs)

def setCooldownUntil (keyId untilMs nowMs : Int) : QuotaBook :=
  book.put keyId ((book.entry keyId).cool untilMs nowMs)

def clearCooldown (keyId nowMs : Int) : QuotaBook :=
  book.put keyId ((book.entry keyId).clear nowMs)

def purgeKey (keyId : Int) : QuotaBook := ⟨book.byKey.erase keyId⟩

end QuotaBook

inductive QuotaCall
  | observeResponse (keyId status : Int) (headers : HeaderMap) (nowMs : Int) (fallbackMs : Nat)
  | setCooldownUntil (keyId untilMs nowMs : Int)
  | reserveRequest (keyId nowMs : Int)
  | isAvailable (keyId nowMs : Int)
  | snapshot (keyId nowMs : Int)
  | clearCooldown (keyId nowMs : Int)
  | purgeKey (keyId nowMs : Int)

namespace QuotaCall

def nowMs : QuotaCall → Int
  | observeResponse _ _ _ nowMs _ | setCooldownUntil _ _ nowMs | reserveRequest _ nowMs
  | isAvailable _ nowMs | snapshot _ nowMs | clearCooldown _ nowMs | purgeKey _ nowMs => nowMs

def drops (keyId : Int) : QuotaCall → Bool
  | clearCooldown other _ | purgeKey other _ => other = keyId
  | _ => false

end QuotaCall

def QuotaBook.call (formats : Formats) (book : QuotaBook) : QuotaCall → QuotaBook
  | .observeResponse keyId status headers nowMs fallbackMs =>
    book.observeResponse formats keyId status headers nowMs fallbackMs
  | .setCooldownUntil keyId untilMs nowMs => book.setCooldownUntil keyId untilMs nowMs
  | .reserveRequest keyId nowMs => (book.reserveRequest keyId nowMs).2
  | .isAvailable keyId nowMs => (book.isAvailable keyId nowMs).2
  | .snapshot keyId nowMs => (book.snapshot keyId nowMs).2
  | .clearCooldown keyId nowMs => book.clearCooldown keyId nowMs
  | .purgeKey keyId _ => book.purgeKey keyId

structure QuotaWorld where
  book : QuotaBook
  nowMs : Int

def QuotaWorld.step (formats : Formats) (world : QuotaWorld) (call : QuotaCall)
    (next : QuotaWorld) : Prop :=
  world.nowMs ≤ call.nowMs ∧ next = ⟨world.book.call formats call, call.nowMs⟩

def Waits (book : QuotaBook) (keyId deadline : Int) : Prop :=
  ∃ state untilMs, book.byKey.lookup keyId = some state ∧ state.cooldownUntilMs = some untilMs ∧
    deadline ≤ untilMs

section States

variable {state : QuotaState} {deadline untilMs nowMs : Int}

theorem cooldown_expire (cooldown : state.cooldownUntilMs = some untilMs) (active : nowMs < untilMs) :
    (state.expire nowMs).cooldownUntilMs = some untilMs := by
  rw [QuotaState.expire_cooldownUntilMs, cooldown]
  simp [Option.filter, active]

theorem available_waiting (cooldown : state.cooldownUntilMs = some untilMs)
    (active : nowMs < untilMs) : state.available nowMs = false := by
  unfold QuotaState.available
  rw [cooldown]
  simp [active]

theorem cooldown_cool (other : Int) (cooldown : state.cooldownUntilMs = some untilMs)
    (active : nowMs < untilMs) :
    ∃ later, (state.cool other nowMs).cooldownUntilMs = some later ∧ untilMs ≤ later := by
  have expired := cooldown_expire cooldown active
  unfold QuotaState.cool
  dsimp only
  split
  · refine ⟨_, rfl, ?_⟩
    rw [expired]
    exact le_max_left _ _
  · exact ⟨untilMs, expired, le_refl _⟩

theorem cooldown_observe (formats : Formats) (status : Int) (headers : HeaderMap) (fallbackMs : Nat)
    (cooldown : state.cooldownUntilMs = some untilMs) (active : nowMs < untilMs) :
    ∃ later, (state.observe formats status headers nowMs fallbackMs).cooldownUntilMs = some later ∧
      untilMs ≤ later := by
  have same : (state.read formats headers nowMs).cooldownUntilMs = some untilMs := cooldown
  unfold QuotaState.observe
  dsimp only
  split
  · refine ⟨_, rfl, ?_⟩
    rw [same]
    exact le_max_left _ _
  · split
    · rename_i ended
      rw [same] at ended
      exact absurd (of_decide_eq_true ended.2) (Int.not_le.mpr active)
    · exact ⟨untilMs, same, le_refl _⟩

theorem le_retryMs {formats : Formats} {headers : HeaderMap} {wait : Int} {fallbackMs : Nat}
    (said : retryAfterMs formats headers nowMs = some wait) (state : QuotaState) :
    wait ≤ state.retryMs formats headers nowMs fallbackMs := by
  unfold QuotaState.retryMs
  dsimp only
  rw [said]
  cases longest : ((some wait).toList ++
      (state.resetAtMs.map fun reset => saturatingSubI64 reset nowMs).toList).max? with
  | none => simp at longest
  | some most =>
    have least : wait ≤ most :=
      (List.max?_eq_some_iff.mp longest).2 wait
        (List.mem_append_left _ (List.mem_singleton_self wait))
    by_cases positive : 0 < most
    · simp [Option.filter, positive, least]
    · have small : wait ≤ 1000 := by omega
      exact small.trans (le_max_right _ _)

theorem cooldown_limited {formats : Formats} {status : Int} (limited : status = 402 ∨ status = 429)
    {headers : HeaderMap} {wait : Int} (said : retryAfterMs formats headers nowMs = some wait)
    (fallbackMs : Nat) :
    ∃ later, (state.observe formats status headers nowMs fallbackMs).cooldownUntilMs = some later ∧
      saturatingAddI64 nowMs wait ≤ later := by
  unfold QuotaState.observe
  dsimp only
  rw [if_pos limited]
  refine ⟨_, rfl, le_trans ?_ (le_max_right _ _)⟩
  have longer := @le_retryMs nowMs formats headers wait fallbackMs said
  unfold saturatingAddI64 clampI64
  exact max_le_max (le_refl _) (min_le_min (Int.add_le_add_left (longer _) nowMs) (le_refl _))

end States

section Calls

variable {formats : Formats} {book : QuotaBook} {keyId deadline : Int}

theorem Waits.put (waits : Waits book keyId deadline) {other : Int} {state : QuotaState}
    (still : other = keyId → ∀ before untilMs, book.byKey.lookup keyId = some before →
      before.cooldownUntilMs = some untilMs → deadline ≤ untilMs →
        ∃ later, state.cooldownUntilMs = some later ∧ untilMs ≤ later) :
    Waits (book.put other state) keyId deadline := by
  obtain ⟨before, untilMs, found, cooldown, reached⟩ := waits
  by_cases same : other = keyId
  · obtain ⟨later, now, grown⟩ := still same before untilMs found cooldown reached
    subst same
    exact ⟨state, later, AList.lookup_insert _, now, reached.trans grown⟩
  · refine ⟨before, untilMs, ?_, cooldown, reached⟩
    exact (AList.lookup_insert_ne (Ne.symm same)).trans found

theorem Waits.call (waits : Waits book keyId deadline) {call : QuotaCall}
    (active : call.nowMs < deadline) (keeps : call.drops keyId = false) :
    Waits (book.call formats call) keyId deadline := by
  have entry : ∀ {before}, book.byKey.lookup keyId = some before → book.entry keyId = before := by
    intro before found
    rw [QuotaBook.entry, found]
    rfl
  cases call with
  | observeResponse other status headers nowMs fallbackMs =>
    refine waits.put fun same before untilMs found cooldown reached => ?_
    rw [same, entry found]
    exact cooldown_observe formats status headers fallbackMs cooldown (active.trans_le reached)
  | setCooldownUntil other untilMs nowMs =>
    refine waits.put fun same before untilMs found cooldown reached => ?_
    rw [same, entry found]
    exact cooldown_cool _ cooldown (active.trans_le reached)
  | reserveRequest other nowMs =>
    unfold QuotaBook.call QuotaBook.reserveRequest
    dsimp only
    split
    · refine waits.put fun same before untilMs found cooldown reached => ?_
      rw [same, entry found]
      exact ⟨untilMs, cooldown_expire cooldown (active.trans_le reached), le_refl _⟩
    · refine waits.put fun same before untilMs found cooldown reached => ?_
      rw [same, entry found]
      exact ⟨untilMs, cooldown_expire cooldown (active.trans_le reached), le_refl _⟩
  | isAvailable other nowMs =>
    unfold QuotaBook.call QuotaBook.isAvailable
    dsimp only
    split
    · exact waits
    · rename_i state there
      refine waits.put fun same before untilMs found cooldown reached => ?_
      rw [same, found] at there
      cases there
      exact ⟨untilMs, cooldown_expire cooldown (active.trans_le reached), le_refl _⟩
  | snapshot other nowMs =>
    unfold QuotaBook.call QuotaBook.snapshot
    dsimp only
    split
    · exact waits
    · rename_i state there
      refine waits.put fun same before untilMs found cooldown reached => ?_
      rw [same, found] at there
      cases there
      exact ⟨untilMs, cooldown_expire cooldown (active.trans_le reached), le_refl _⟩
  | clearCooldown other nowMs =>
    have apart : other ≠ keyId := of_decide_eq_false keeps
    exact waits.put fun same => absurd same apart
  | purgeKey other nowMs =>
    have apart : other ≠ keyId := of_decide_eq_false keeps
    obtain ⟨before, untilMs, found, rest⟩ := waits
    exact ⟨before, untilMs, (AList.lookup_erase_ne apart.symm).trans found, rest⟩

theorem Waits.refused (waits : Waits book keyId deadline) {time : Int} (early : time < deadline) :
    (book.isAvailable keyId time).1 = false ∧ (book.reserveRequest keyId time).1 = false := by
  obtain ⟨state, untilMs, found, cooldown, reached⟩ := waits
  have active : time < untilMs := early.trans_le reached
  have blocked := available_waiting (cooldown_expire cooldown active) active
  constructor
  · rw [QuotaBook.isAvailable, found]
    exact blocked
  · have entry : book.entry keyId = state := by
      rw [QuotaBook.entry, found]
      rfl
    rw [QuotaBook.reserveRequest, entry, if_neg (by rw [blocked]; exact Bool.false_ne_true)]

theorem observe_waits (formats : Formats) (book : QuotaBook) (keyId : Int) {status : Int}
    (limited : status = 402 ∨ status = 429) {headers : HeaderMap} {nowMs wait : Int}
    (said : retryAfterMs formats headers nowMs = some wait) (fallbackMs : Nat) :
    Waits (book.observeResponse formats keyId status headers nowMs fallbackMs) keyId
      (saturatingAddI64 nowMs wait) := by
  obtain ⟨untilMs, cooldown, reached⟩ :=
    @cooldown_limited (book.entry keyId) nowMs formats status limited headers wait said fallbackMs
  exact ⟨_, untilMs, AList.lookup_insert _, cooldown, reached⟩

end Calls

section Run

variable {formats : Formats} {history : List (Transition QuotaWorld QuotaCall)}
  {start world : QuotaWorld} {keyId deadline : Int}

theorem run_waits (run : Execution (QuotaWorld.step formats) start history world)
    (waits : Waits start.book keyId deadline) (early : world.nowMs < deadline)
    (keeps : ∀ t ∈ history, t.action.drops keyId = false) : Waits world.book keyId deadline := by
  induction run with
  | start => exact waits
  | next run taken ih =>
    obtain ⟨order, rfl⟩ := taken
    have before := ih (lt_of_le_of_lt order early)
      fun t member => keeps t (List.mem_cons_of_mem _ member)
    exact before.call early (keeps _ List.mem_cons_self)

/-- Whatever happens to a key that waits, no request is let through before the deadline; and after
a rate limit the deadline is no earlier than `Retry-After` says. -/
theorem cooldown_holds (formats : Formats) (keyId : Int) :
    (∀ start history world deadline, Execution (QuotaWorld.step formats) start history world →
      (start.book.byKey.lookup keyId).bind QuotaState.cooldownUntilMs = some deadline →
      (∀ t ∈ history, t.action.drops keyId = false) →
      ∀ time, world.nowMs ≤ time → time < deadline →
        (world.book.isAvailable keyId time).1 = false ∧
          (world.book.reserveRequest keyId time).1 = false) ∧
    ∀ (book : QuotaBook) status headers nowMs wait fallbackMs, status = 402 ∨ status = 429 →
      retryAfterMs formats headers nowMs = some wait →
      ∃ deadline, ((book.observeResponse formats keyId status headers nowMs
          fallbackMs).byKey.lookup keyId).bind QuotaState.cooldownUntilMs = some deadline ∧
        saturatingAddI64 nowMs wait ≤ deadline := by
  constructor
  · intro start history world deadline run active keeps time order early
    obtain ⟨state, found, cooldown⟩ := Option.bind_eq_some_iff.mp active
    have waits : Waits start.book keyId deadline := ⟨state, deadline, found, cooldown, le_refl _⟩
    exact (run_waits run waits (lt_of_le_of_lt order early) keeps).refused early
  · intro book status headers nowMs wait fallbackMs limited said
    obtain ⟨state, deadline, found, cooldown, reached⟩ :=
      observe_waits formats book keyId limited said fallbackMs
    refine ⟨deadline, ?_, reached⟩
    rw [found]
    exact cooldown

def plainFormats : Formats where
  httpDate _ := none
  rfc3339 _ := none
  scaled _ _ := none

/-- One hour by `Retry-After`, and a shorter hint after it. -/
theorem cooldown_holds_hour : ∃ history world,
    Execution (QuotaWorld.step plainFormats)
        ⟨QuotaBook.new.observeResponse plainFormats 9 429 [("retry-after", [51, 54, 48, 48])] 1000
          30000, 1000⟩ history world ∧
      (world.book.isAvailable 9 3600999).1 = false ∧
      ∃ deadline, saturatingAddI64 1000 3600000 ≤ deadline := by
  have taken : QuotaWorld.step plainFormats
      ⟨QuotaBook.new.observeResponse plainFormats 9 429 [("retry-after", [51, 54, 48, 48])] 1000
        30000, 1000⟩ (.setCooldownUntil 9 61000 2000) _ := ⟨by decide, rfl⟩
  have run := Execution.start.next taken
  obtain ⟨blocked, limited⟩ := cooldown_holds plainFormats 9
  obtain ⟨deadline, -, reached⟩ := limited QuotaBook.new 429 [("retry-after", [51, 54, 48, 48])]
    1000 3600000 30000 (.inr rfl) (by decide)
  exact ⟨_, _, run, (blocked _ _ _ 3601000 run (by decide) (by simp [QuotaCall.drops]) 3600999
    (by decide) (by decide)).1, deadline, reached⟩

end Run

section Rations

/-- What replaces the numbers that the upstream has given for a key. -/
def QuotaCall.answers (keyId : Int) : QuotaCall → Bool
  | .observeResponse other _ _ _ _ => other = keyId
  | call => call.drops keyId

def QuotaCall.lets (keyId : Int) (book : QuotaBook) : QuotaCall → Bool
  | .reserveRequest other nowMs => other = keyId && (book.reserveRequest other nowMs).1
  | _ => false

def QuotaState.Rations (state : QuotaState) (resetMs left : Int) : Prop :=
  ∃ remaining resetAt, state.remainingRequests = some remaining ∧ max remaining 0 ≤ left ∧
    state.resetAtMs = some resetAt ∧ resetMs ≤ resetAt

variable {state : QuotaState} {formats : Formats} {book : QuotaBook} {keyId resetMs left nowMs : Int}

theorem QuotaState.Rations.expire (rations : state.Rations resetMs left) (early : nowMs < resetMs) :
    (state.expire nowMs).Rations resetMs left := by
  obtain ⟨remaining, resetAt, said, few, resets, late⟩ := rations
  have running : ¬resetAt ≤ nowMs := by omega
  unfold QuotaState.expire
  simp only [resets, Option.any_some, decide_eq_true_eq, running, if_false]
  split
  · exact ⟨remaining, resetAt, said, few, rfl, late⟩
  · exact ⟨remaining, resetAt, said, few, resets, late⟩

theorem QuotaState.Rations.cool (rations : state.Rations resetMs left) (untilMs : Int)
    (early : nowMs < resetMs) : (state.cool untilMs nowMs).Rations resetMs left := by
  obtain ⟨remaining, resetAt, said, few, resets, late⟩ := rations.expire early
  unfold QuotaState.cool
  dsimp only
  split
  · refine ⟨0, _, rfl, by omega, rfl, ?_⟩
    rw [resets]
    exact late.trans (le_max_left _ _)
  · exact ⟨remaining, resetAt, said, few, resets, late⟩

theorem put_rations (rations : (book.entry keyId).Rations resetMs left) {other : Int}
    (still : other = keyId → state.Rations resetMs left) :
    ((book.put other state).entry keyId).Rations resetMs left := by
  by_cases same : other = keyId
  · rw [same, QuotaBook.entry_put_same]
    exact still same
  · rw [QuotaBook.entry_put_ne _ _ (Ne.symm same)]
    exact rations

theorem call_rations (rations : (book.entry keyId).Rations resetMs left) {call : QuotaCall}
    (early : call.nowMs < resetMs) (keeps : call.answers keyId = false)
    (unlet : call.lets keyId book = false) :
    ((book.call formats call).entry keyId).Rations resetMs left := by
  have expired {other : Int} {state : QuotaState} (found : book.byKey.lookup other = some state)
      (same : other = keyId) : (state.expire call.nowMs).Rations resetMs left := by
    have entry : book.entry keyId = state := by rw [QuotaBook.entry, ← same, found, Option.getD_some]
    exact entry ▸ rations.expire early
  cases call with
  | observeResponse other => exact put_rations rations fun same => absurd same (of_decide_eq_false keeps)
  | setCooldownUntil other untilMs =>
    refine put_rations rations fun same => ?_
    rw [same]
    exact rations.cool untilMs early
  | reserveRequest other nowMs =>
    unfold QuotaBook.call QuotaBook.reserveRequest
    dsimp only
    split
    · rename_i available
      refine put_rations rations fun same => ?_
      simp [QuotaCall.lets, QuotaBook.reserveRequest, same, same ▸ available] at unlet
    · refine put_rations rations fun same => ?_
      rw [same]
      exact rations.expire early
  | isAvailable other =>
    unfold QuotaBook.call QuotaBook.isAvailable
    dsimp only
    split
    · exact rations
    · exact put_rations rations (expired ‹_›)
  | snapshot other =>
    unfold QuotaBook.call QuotaBook.snapshot
    dsimp only
    split
    · exact rations
    · exact put_rations rations (expired ‹_›)
  | clearCooldown other => exact put_rations rations fun same => absurd same (of_decide_eq_false keeps)
  | purgeKey other =>
    have apart : other ≠ keyId := of_decide_eq_false keeps
    have same : (book.purgeKey other).entry keyId = book.entry keyId := by
      rw [QuotaBook.entry, QuotaBook.purgeKey, AList.lookup_erase_ne apart.symm]
      rfl
    exact same ▸ rations

theorem let_rations (rations : (book.entry keyId).Rations resetMs left) {call : QuotaCall}
    (early : call.nowMs < resetMs) (lets : call.lets keyId book = true) :
    ((book.call formats call).entry keyId).Rations resetMs (left - 1) := by
  cases call with
  | reserveRequest other nowMs =>
    obtain ⟨same, granted⟩ := Bool.and_eq_true_iff.mp lets
    cases of_decide_eq_true same
    change nowMs < resetMs at early
    obtain ⟨remaining, resetAt, said, few, resets, late⟩ := rations.expire early
    unfold QuotaBook.reserveRequest at granted
    unfold QuotaBook.call QuotaBook.reserveRequest
    dsimp only at granted ⊢
    split at granted
    · rename_i available
      have running : resetAt > nowMs := early.trans_le late
      have positive : 0 < remaining := by
        simp [QuotaState.available, said, resets, running] at available
        omega
      rw [if_pos available, QuotaBook.entry_put_same]
      refine ⟨saturatingSubI64 remaining 1, resetAt, by rw [said]; rfl, ?_, resets, late⟩
      unfold saturatingSubI64 clampI64 i64Min
      omega
    · cases granted
  | observeResponse | setCooldownUntil | isAvailable | snapshot | clearCooldown | purgeKey => cases lets

variable {history : List (Transition QuotaWorld QuotaCall)} {start world : QuotaWorld}

theorem run_rations (run : Execution (QuotaWorld.step formats) start history world)
    (rations : (start.book.entry keyId).Rations resetMs left) (early : world.nowMs < resetMs)
    (keeps : ∀ t ∈ history, t.action.answers keyId = false) :
    (world.book.entry keyId).Rations resetMs
      (left - history.countP fun t => t.action.lets keyId t.before.book) := by
  induction run with
  | start => simpa using rations
  | next run taken ih =>
    obtain ⟨order, rfl⟩ := taken
    have before := ih (lt_of_le_of_lt order early) fun t member => keeps t (List.mem_cons_of_mem _ member)
    rw [List.countP_cons]
    split
    · rename_i lets
      rw [Int.natCast_add, ← Int.sub_sub]
      exact let_rations before early lets
    · rename_i unlet
      exact call_rations before early (keeps _ List.mem_cons_self) (Bool.eq_false_of_not_eq_true unlet)

/-- Up to the reset no more requests are let through for a key than its upstream has said remain. -/
theorem requests_rationed (run : Execution (QuotaWorld.step formats) start history world)
    {remaining resetAt : Int} (said : (start.book.entry keyId).remainingRequests = some remaining)
    (resets : (start.book.entry keyId).resetAtMs = some resetAt) (early : world.nowMs < resetAt)
    (keeps : ∀ t ∈ history, t.action.answers keyId = false) :
    (history.countP fun t => t.action.lets keyId t.before.book : Int) ≤ max remaining 0 := by
  obtain ⟨_, _, -, few, -, -⟩ := run_rations run
    ⟨remaining, resetAt, said, le_refl _, resets, le_refl _⟩ early keeps
  omega

def rationedWorld : QuotaWorld :=
  ⟨.put .new 9 { QuotaState.initial with remainingRequests := some 1, resetAtMs := some 60000 }, 0⟩

/-- One request is left for a minute, and two are asked for. -/
theorem requests_rationed_one : ∃ history world,
    Execution (QuotaWorld.step plainFormats) rationedWorld history world ∧ history.length = 2 ∧
      (history.countP fun t => t.action.lets 9 t.before.book : Int) ≤ max 1 0 := by
  have first : QuotaWorld.step plainFormats rationedWorld (.reserveRequest 9 1) _ := ⟨by decide, rfl⟩
  have run := (Execution.start.next first).next ⟨(by decide : 1 ≤ (QuotaCall.reserveRequest 9 2).nowMs), rfl⟩
  exact ⟨_, _, run, rfl, requests_rationed run rfl rfl (by decide)
    (by simp [QuotaCall.answers, QuotaCall.drops])⟩

end Rations

end CodexGate.Provider
