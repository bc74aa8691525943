import CodexGate.Websocket.Reading
import Mathlib.Data.List.Induction

namespace CodexGate.Websocket

open Foundation Metering Provider Reservation
open Resilience Routing

def Effect.asRequest : Effect → Option Request
  | .request sent => some sent
  | _ => none

def requests (log : List Effect) : List Request := log.filterMap Effect.asRequest

def Effect.counts : Effect → Bool
  | .request (.create _ socket index) => socket != some index
  | .request _ => true
  | _ => false

def Effect.records : Effect → Bool
  | .recorded | .setupFailed => true
  | _ => false

def lateAttempts (log : List Effect) : Nat :=
  (log.reverse.takeWhile fun effect => !effect.records).countP Effect.counts

/-- The one exemption: a create goes out on the attempt of the connect of its socket. -/
def SharesConnect (earlier later : Request) : Prop :=
  ∃ providerId index,
    earlier = .connect providerId index ∧ later = .create providerId (some index) index

/-- Every request is covered by an attempt of its provider, which no other request is covered by
    but the connect of the socket it goes out on. -/
structure Covered (attempts : List WsTarget) (requests : List Request) : Prop where
  counted : ∀ request ∈ requests, 0 < request.index ∧
    (attempts[request.index - 1]?).map WsTarget.providerId = some request.providerId
  own : requests.Pairwise fun earlier later =>
    earlier.index < later.index ∨ SharesConnect earlier later
  sockets : ∀ providerId socket index, .create providerId (some socket) index ∈ requests →
    .connect providerId socket ∈ requests ∧ socket ≤ index

def attemptsOn (attempts : List WsTarget) (providerId : Int) : Nat :=
  (attempts.map WsTarget.providerId).count providerId

def WithinLimits (attempts : List WsTarget) : Prop :=
  ∀ providerId limit,
    (∀ target ∈ attempts, target.providerId = providerId →
      atLeastOne target.settings.maxAttempts ≤ limit) →
    attemptsOn attempts providerId ≤ limit

/-- Before a turn is settled: what its budget, its trace and its requests say of each other. -/
structure Budgeted (ctx : WsContext) : Prop where
  covered : Covered ctx.attempts (requests ctx.log)
  limits : WithinLimits ctx.attempts
  noted : ctx.attempts.length ≤ ctx.lastNumber
  begun : ctx.lastNumber ≤ ctx.budget.used
  spent : ctx.budget.used ≤ maxAttempts
  sent : ∀ providerId, ctx.budget.sentTo providerId = attemptsOn ctx.attempts providerId
  traced : ∀ pending, ctx.pendingTurnLog = some pending →
    pending.event.attemptsSent + lateAttempts ctx.log = ctx.attempts.length
  silent : ∀ event, .telemetry event ∉ ctx.log

def Connected (ctx : WsContext) (active : ActiveUpstream) : Prop :=
  ∀ socket, active.transport = .nativeWs (some socket) →
    .connect active.resolved.providerId socket ∈ requests ctx.log

/-- A credit that the native transport may use stands for the last request, which is the connect of
    its socket. -/
def Credited (ctx : WsContext) (active : ActiveUpstream) : Prop :=
  ctx.budget.setupCredit = true → ∀ socket, active.transport = .nativeWs socket →
    socket = some ctx.attempts.length ∧ ctx.lastNumber = ctx.budget.used ∧
      (requests ctx.log).getLast? =
        some (.connect active.resolved.providerId ctx.attempts.length)

section Log

@[simp]
theorem requests_append (log more : List Effect) :
    requests (log ++ more) = requests log ++ requests more := List.filterMap_append

theorem requests_singleton_request (request : Request) :
    requests [.request request] = [request] := rfl

theorem requests_snoc_other (log : List Effect) {effect : Effect}
    (other : effect.asRequest = none) : requests (log ++ [effect]) = requests log := by
  have nothing : requests [effect] = [] := by simp [requests, other]
  rw [requests_append, nothing, List.append_nil]

theorem lateAttempts_snoc (log : List Effect) (effect : Effect) :
    lateAttempts (log ++ [effect]) =
      if effect.records then 0 else lateAttempts log + if effect.counts then 1 else 0 := by
  unfold lateAttempts
  rw [List.reverse_append, List.reverse_singleton, List.singleton_append]
  cases records : effect.records with
  | true => simp [records]
  | false => simp [records, List.countP_cons]

def Effect.unbooked : Effect → Bool
  | .request _ | .recorded | .setupFailed | .telemetry _ => false
  | _ => true

variable {log more : List Effect} (unbooked : ∀ effect ∈ more, effect.unbooked = true)
include unbooked

theorem requests_append_unbooked : requests (log ++ more) = requests log := by
  have none_sent : requests more = [] := by
    rw [requests, List.filterMap_eq_nil_iff]
    intro effect member
    have kind := unbooked effect member
    cases effect <;> first | rfl | cases kind
  rw [requests_append, none_sent, List.append_nil]

theorem lateAttempts_append_unbooked : lateAttempts (log ++ more) = lateAttempts log := by
  induction more using List.reverseRecOn with
  | nil => rw [List.append_nil]
  | append_singleton more effect ih =>
    have kind : effect.unbooked = true := unbooked effect (by simp)
    have shorter := ih fun other member => unbooked other (List.mem_append_left _ member)
    rw [← List.append_assoc, lateAttempts_snoc, shorter]
    cases effect <;> first | rfl | cases kind

theorem telemetry_append_unbooked {event : TurnEvent} :
    Effect.telemetry event ∈ log ++ more ↔ Effect.telemetry event ∈ log := by
  rw [List.mem_append]
  constructor
  · rintro (member | member)
    · exact member
    · cases unbooked _ member
  · exact Or.inl

end Log

/-- What leaves the books of the attempts as they are, but for a credit that may be given up. -/
structure SameBooks (before after : WsContext) : Prop where
  used : after.budget.used = before.budget.used
  sentByProvider : after.budget.sentByProvider = before.budget.sentByProvider
  credit : after.budget.setupCredit = true → before.budget.setupCredit = true
  lastNumber : after.lastNumber = before.lastNumber
  attempts : after.attempts = before.attempts
  pendingTurnLog : after.pendingTurnLog = before.pendingTurnLog
  log : ∃ more, (∀ effect ∈ more, effect.unbooked = true) ∧ after.log = before.log ++ more

section SameBooks

variable {before middle after : WsContext} {active : ActiveUpstream}

theorem SameBooks.sameRequests (same : SameBooks before after) :
    requests after.log = requests before.log := by
  obtain ⟨more, unbooked, grown⟩ := same.log
  rw [grown, requests_append_unbooked unbooked]

theorem SameBooks.sentTo (same : SameBooks before after) (providerId : Int) :
    after.budget.sentTo providerId = before.budget.sentTo providerId := by
  rw [AttemptBudget.sentTo, AttemptBudget.sentTo, same.sentByProvider]

theorem Budgeted.of_same (kept : Budgeted before) (same : SameBooks before after) :
    Budgeted after := by
  obtain ⟨more, unbooked, grown⟩ := same.log
  constructor
  · rw [same.attempts, same.sameRequests]
    exact kept.covered
  · rw [same.attempts]
    exact kept.limits
  · rw [same.attempts, same.lastNumber]
    exact kept.noted
  · rw [same.lastNumber, same.used]
    exact kept.begun
  · rw [same.used]
    exact kept.spent
  · intro providerId
    rw [same.sentTo, same.attempts]
    exact kept.sent providerId
  · intro pending held
    rw [same.attempts, grown, lateAttempts_append_unbooked unbooked]
    exact kept.traced pending (same.pendingTurnLog ▸ held)
  · intro event
    rw [grown, telemetry_append_unbooked unbooked]
    exact kept.silent event

theorem Connected.of_same (connected : Connected before active) (same : SameBooks before after) :
    Connected after active := by
  intro socket native
  rw [same.sameRequests]
  exact connected socket native

theorem Credited.of_same (credited : Credited before active) (same : SameBooks before after) :
    Credited after active := by
  intro credit socket native
  rw [same.attempts, same.lastNumber, same.used, same.sameRequests]
  exact credited (same.credit credit) socket native

theorem SameBooks.emit (ctx : WsContext) {effect : Effect} (unbooked : effect.unbooked = true) :
    SameBooks ctx (ctx.emit effect) :=
  ⟨rfl, rfl, id, rfl, rfl, rfl, [effect], by simpa using unbooked, rfl⟩

theorem SameBooks.look (ctx : WsContext) (hangup : Bool) : SameBooks ctx (ctx.look hangup) :=
  ⟨rfl, rfl, id, rfl, rfl, rfl, [], by simp, by simp⟩

theorem SameBooks.of_passes (passes : Passes before after) : SameBooks before after := by
  obtain ⟨passed, kind, grown⟩ := passes.log
  refine ⟨by rw [passes.budget], by rw [passes.budget], fun credit => by rwa [← passes.budget],
    passes.lastNumber, passes.attempts, passes.pendingTurnLog, passed, ?_, grown⟩
  intro effect member
  have passedOn := kind effect member
  cases effect <;> first | rfl | cases passedOn

end SameBooks

section Requests

variable {ctx : WsContext} {target : WsTarget} {active : ActiveUpstream}

theorem Covered.index_le {attempts : List WsTarget} {sent : List Request}
    (covered : Covered attempts sent) {request : Request} (member : request ∈ sent) :
    request.index ≤ attempts.length := by
  obtain ⟨positive, found⟩ := covered.counted request member
  obtain ⟨target, read, -⟩ := Option.map_eq_some_iff.mp found
  have inside : request.index - 1 < attempts.length := (List.getElem?_eq_some_iff.mp read).1
  omega

theorem Covered.snoc {attempts : List WsTarget} {sent : List Request}
    (covered : Covered attempts sent) (target : WsTarget) {request : Request}
    (index : request.index = attempts.length + 1) (provider : request.providerId = target.providerId)
    (socketed : ∀ providerId socket index, request = .create providerId (some socket) index →
      .connect providerId socket ∈ sent) :
    Covered (attempts ++ [target]) (sent ++ [request]) := by
  constructor
  · intro other member
    rcases List.mem_append.mp member with member | member
    · obtain ⟨positive, found⟩ := covered.counted other member
      have inside := covered.index_le member
      rw [List.getElem?_append_left (by omega)]
      exact ⟨positive, found⟩
    · rw [List.mem_singleton.mp member, index, provider]
      simp
  · rw [List.pairwise_append]
    refine ⟨covered.own, List.pairwise_singleton _ _, ?_⟩
    intro earlier member later newest
    have inside := covered.index_le member
    rw [List.mem_singleton.mp newest]
    exact Or.inl (by omega)
  · intro providerId socket atIndex member
    rcases List.mem_append.mp member with member | member
    · obtain ⟨connect, before⟩ := covered.sockets providerId socket atIndex member
      exact ⟨List.mem_append_left _ connect, before⟩
    · have created := (List.mem_singleton.mp member).symm
      have connect := socketed providerId socket atIndex created
      have inside : socket ≤ attempts.length := covered.index_le connect
      have newest : atIndex = attempts.length + 1 := by rw [← index, created, Request.index]
      exact ⟨List.mem_append_left _ connect, by omega⟩

theorem Covered.share {attempts : List WsTarget} {sent : List Request}
    (covered : Covered attempts sent) {providerId : Int} {socket : Nat}
    (last : sent.getLast? = some (.connect providerId socket)) :
    Covered attempts (sent ++ [.create providerId (some socket) socket]) := by
  obtain ⟨earlier, split⟩ := List.getLast?_eq_some_iff.mp last
  have connect : Request.connect providerId socket ∈ sent := by simp [split]
  constructor
  · intro request member
    rcases List.mem_append.mp member with member | member
    · exact covered.counted request member
    · rw [List.mem_singleton.mp member]
      have shared := covered.counted _ connect
      exact shared
  · rw [List.pairwise_append]
    refine ⟨covered.own, List.pairwise_singleton _ _, ?_⟩
    intro request member later newest
    rw [List.mem_singleton.mp newest]
    have own := covered.own
    rw [split, List.pairwise_append] at own
    rw [split] at member
    rcases List.mem_append.mp member with member | member
    · rcases own.2.2 request member _ (List.mem_singleton_self _) with before | ⟨_, _, _, creates⟩
      · exact Or.inl before
      · cases creates
    · exact Or.inr ⟨providerId, socket, List.mem_singleton.mp member, rfl⟩
  · intro otherId otherSocket index member
    rcases List.mem_append.mp member with member | member
    · obtain ⟨connected, before⟩ := covered.sockets otherId otherSocket index member
      exact ⟨List.mem_append_left _ connected, before⟩
    · cases List.mem_singleton.mp member
      exact ⟨List.mem_append_left _ connect, le_refl _⟩

theorem attemptsOn_snoc (attempts : List WsTarget) (target : WsTarget) (providerId : Int) :
    attemptsOn (attempts ++ [target]) providerId =
      attemptsOn attempts providerId + if target.providerId = providerId then 1 else 0 := by
  simp [attemptsOn, List.count_singleton]

theorem WithinLimits.snoc {attempts : List WsTarget} (limits : WithinLimits attempts)
    (target : WsTarget)
    (room : attemptsOn attempts target.providerId < atLeastOne target.settings.maxAttempts) :
    WithinLimits (attempts ++ [target]) := by
  intro providerId limit allowed
  have before : attemptsOn attempts providerId ≤ limit :=
    limits providerId limit fun other member => allowed other (List.mem_append_left _ member)
  rw [attemptsOn_snoc]
  split
  · rename_i same
    have bound := allowed target (by simp) same
    rw [← same]
    omega
  · exact before

/-- An attempt has begun on a target with room for it that has not been sent yet. -/
structure Ready (ctx : WsContext) (target : WsTarget) : Prop extends Budgeted ctx where
  unsent : ctx.lastNumber < ctx.budget.used
  room : attemptsOn ctx.attempts target.providerId < atLeastOne target.settings.maxAttempts
  uncredited : ctx.budget.setupCredit = false

theorem Budgeted.ready (kept : Budgeted ctx) (gone : Bool)
    (available : ctx.budget.providerAvailable target.providerId target.settings.maxAttempts = true)
    (free : ctx.budget.used < maxAttempts) :
    Ready { ctx with
      disconnected := gone
      budget := { ctx.budget with setupCredit := false, used := ctx.budget.used + 1 } } target := by
  have room : attemptsOn ctx.attempts target.providerId < atLeastOne target.settings.maxAttempts := by
    rw [← kept.sent]
    simpa [AttemptBudget.providerAvailable] using available
  exact ⟨⟨kept.covered, kept.limits, kept.noted, Nat.le_succ_of_le kept.begun, free, kept.sent,
    kept.traced, kept.silent⟩, Nat.lt_succ_of_le kept.begun, room, rfl⟩

theorem send_eq (unsent : ctx.lastNumber < ctx.budget.used) (target : WsTarget)
    (request : Nat → Request) :
    ctx.send target request = { ctx with
      budget := ctx.budget.noteSend target.providerId
      lastNumber := ctx.budget.used
      attempts := ctx.attempts ++ [target]
      log := ctx.log ++ [.request (request (ctx.attempts.length + 1))] } := by
  have other : ctx.lastNumber ≠ ctx.budget.used := Nat.ne_of_lt unsent
  simp [WsContext.send, WsContext.noteWsSend, other, WsContext.emit]

theorem Ready.send (ready : Ready ctx target) {request : Nat → Request}
    (index : ∀ n, (request n).index = n) (provider : ∀ n, (request n).providerId = target.providerId)
    (socketed : ∀ n providerId socket index, request n = .create providerId (some socket) index →
      .connect providerId socket ∈ requests ctx.log) :
    Budgeted (ctx.send target request) := by
  have covered := ready.covered.snoc target (index (ctx.attempts.length + 1)) (provider _)
    (socketed _)
  have counts : (Effect.request (request (ctx.attempts.length + 1))).counts = true := by
    cases sent : request (ctx.attempts.length + 1) with
    | connect | dispatch => rfl
    | create providerId socket atIndex =>
      have newest := index (ctx.attempts.length + 1)
      rw [sent] at newest
      cases socket with
      | none => rfl
      | some socket =>
        have inside : socket ≤ ctx.attempts.length :=
          ready.covered.index_le (socketed _ _ _ _ sent)
        have apart : socket ≠ atIndex := fun same => by
          simp only [Request.index] at newest
          omega
        simpa [Effect.counts] using apart
  rw [send_eq ready.unsent]
  constructor
  · simpa [requests_singleton_request] using covered
  · exact ready.limits.snoc target ready.room
  · have noted := ready.noted
    have unsent := ready.unsent
    simp only [List.length_append, List.length_singleton]
    omega
  · exact le_refl _
  · exact ready.spent
  · intro providerId
    rw [attemptsOn_snoc]
    by_cases same : target.providerId = providerId
    · subst same
      simp [ready.sent]
    · rw [if_neg same, Nat.add_zero, ← ready.sent]
      exact AttemptBudget.sentTo_noteSend_ne ctx.budget (Ne.symm same)
  · intro pending held
    have traced := ready.traced pending held
    rw [lateAttempts_snoc, counts]
    simp only [Effect.records, Bool.false_eq_true, if_false, if_true, List.length_append,
      List.length_singleton]
    omega
  · intro event member
    rcases List.mem_append.mp member with member | member
    · exact ready.silent event member
    · cases List.mem_singleton.mp member

theorem begin_books (kept : Budgeted ctx) (target : WsTarget) (turn : Bool)
    (answers : BeginAnswers) :
    ((ctx.beginWsAttempt target turn answers).1 = false ∧
        SameBooks ctx (ctx.beginWsAttempt target turn answers).2) ∨
      ((ctx.beginWsAttempt target turn answers).1 = true ∧
        Ready (ctx.beginWsAttempt target turn answers).2 target) ∨
      (turn = true ∧ ctx.budget.setupCredit = true ∧
        (ctx.beginWsAttempt target turn answers).1 = true ∧
        SameBooks ctx (ctx.beginWsAttempt target turn answers).2 ∧
        (ctx.beginWsAttempt target turn answers).2.budget.setupCredit = false) := by
  rcases ctx.beginWsAttempt_cases target turn answers with
    ⟨gone, ⟨credit, given, refuses⟩ | ⟨isTurn, credited, begins⟩ | ⟨available, free, begins⟩⟩
  · rw [refuses]
    exact Or.inl ⟨rfl, rfl, rfl, given, rfl, rfl, rfl, [], by simp, by simp⟩
  · rw [begins]
    exact Or.inr (Or.inr ⟨isTurn, credited, rfl,
      ⟨rfl, rfl, nofun, rfl, rfl, rfl, [], by simp, by simp⟩, rfl⟩)
  · rw [begins]
    exact Or.inr (Or.inl ⟨rfl, kept.ready gone available free⟩)

structure LastConnect (ctx : WsContext) (target : WsTarget) : Prop where
  current : ctx.lastNumber = ctx.budget.used
  last : (requests ctx.log).getLast? = some (.connect target.providerId ctx.attempts.length)

theorem Ready.connect (ready : Ready ctx target) :
    Budgeted (sendConnect target ctx) ∧ LastConnect (sendConnect target ctx) target := by
  refine ⟨ready.send (fun _ => rfl) (fun _ => rfl) (fun _ _ _ _ sent => by cases sent), ?_⟩
  rw [sendConnect, send_eq ready.unsent]
  exact ⟨rfl, by simp [requests_singleton_request]⟩

theorem replayConnect_books (kept : Budgeted ctx) (connect : LastConnect ctx target)
    (answers : ReplayConnectAnswers) (result : ConnectResult) :
    Budgeted (replayConnect target answers result ctx).2 ∧
      ((replayConnect target answers result ctx).1 = .ok (.ok ()) →
        LastConnect (replayConnect target answers result ctx).2 target) := by
  unfold replayConnect
  split
  · rename_i replays
    simp only [Bool.and_eq_true] at replays
    have rejected : result ≠ .ok () := fun connected => by
      rw [connected] at replays
      cases replays.1.1.1
    split
    · exact ⟨kept, nofun⟩
    split
    · exact ⟨kept, fun connected => absurd (Except.ok.inj connected) rejected⟩
    dsimp only
    rcases begin_books kept target false answers.begin with
      ⟨refused, same⟩ | ⟨begun, ready⟩ | ⟨isTurn, -⟩
    · rw [refused]
      exact ⟨kept.of_same same, fun connected => absurd (Except.ok.inj connected) rejected⟩
    · split
      · exact ⟨ready.connect.1, fun _ => ready.connect.2⟩
      · exact ⟨ready.toBudgeted, fun connected => absurd (Except.ok.inj connected) rejected⟩
    · cases isTurn
  · exact ⟨kept, fun _ => connect⟩

/-- The books are kept, and an upstream that is in use was connected in them. -/
structure Armed (ctx : WsContext) (active : ActiveUpstream) : Prop extends Budgeted ctx where
  connected : Connected ctx active
  credited : Credited ctx active

theorem Armed.of_same {after : WsContext} (armed : Armed ctx active) (same : SameBooks ctx after) :
    Armed after active :=
  ⟨armed.toBudgeted.of_same same, armed.connected.of_same same, armed.credited.of_same same⟩

theorem settleConnect_books (kept : Budgeted ctx) (capacity : Bool) (result : ConnectResult)
    (connect : result = .ok () → LastConnect ctx target) (requestedModel : String) :
    Budgeted (settleConnect capacity result ctx).2 ∧
      ∀ socket, (settleConnect capacity result ctx).1 = .connected socket →
        Armed (settleConnect capacity result ctx).2
          ⟨requestedModel, target, .nativeWs (some socket)⟩ := by
  unfold settleConnect
  cases result with
  | error error =>
    refine ⟨kept, fun socket is => ?_⟩
    dsimp only at is
    split at is <;> cases is
  | ok connected =>
    have last := connect rfl
    have credited : Budgeted { ctx with budget := ctx.budget.creditConnectedSetup } :=
      ⟨kept.covered, kept.limits, kept.noted, kept.begun, kept.spent, kept.sent, kept.traced,
        kept.silent⟩
    refine ⟨credited, fun socket is => ⟨credited, ?_, ?_⟩⟩
    · intro other native
      dsimp only at is
      split at is <;> cases is
      cases native
      exact List.mem_of_getLast? last.last
    · intro _ other native
      dsimp only at is
      split at is <;> cases is
      cases native
      exact ⟨rfl, last.current, last.last⟩

theorem refusal_ne_connected {answers : ConnectAnswers} {outcome : NativeWsConnectOutcome}
    (refused : answers.refusal target = some outcome) (socket : Nat) :
    outcome ≠ .connected socket := by
  rintro rfl
  unfold ConnectAnswers.refusal at refused
  split at refused
  · cases refused
  · cases refused
  · cases refused
  · split at refused <;> cases refused

theorem connectUpstreamWsOnce_books (kept : Budgeted ctx) (target : WsTarget)
    (answers : ConnectAnswers) (requestedModel : String) :
    Budgeted (connectUpstreamWsOnce target answers ctx).2 ∧
      ∀ socket, (connectUpstreamWsOnce target answers ctx).1 = .connected socket →
        Armed (connectUpstreamWsOnce target answers ctx).2
          ⟨requestedModel, target, .nativeWs (some socket)⟩ := by
  unfold connectUpstreamWsOnce
  split
  · rename_i outcome refused
    exact ⟨kept, fun socket is => absurd is (refusal_ne_connected refused socket)⟩
  dsimp only
  rcases begin_books kept target false answers.begin with
    ⟨refused, same⟩ | ⟨begun, ready⟩ | ⟨isTurn, -⟩
  · rw [refused]
    exact ⟨kept.of_same same, fun socket is => by cases is⟩
  · rw [begun]
    simp only [Bool.not_true, Bool.false_eq_true, if_false]
    split
    · exact ⟨ready.toBudgeted, fun socket is => by cases is⟩
    have replayed := replayConnect_books ready.connect.1 ready.connect.2 answers.replay answers.result
    split
    · rename_i error after failed
      rw [failed] at replayed
      exact ⟨replayed.1, fun socket is => by cases is⟩
    · rename_i result after connects
      rw [connects] at replayed
      exact settleConnect_books replayed.1 answers.capacity result
        (fun connected => replayed.2 (by rw [connected])) requestedModel
  · cases isTurn

theorem connectOrBridgeUpstream_books (kept : Budgeted ctx) (target : WsTarget)
    (answers : ConnectAnswers) (requestedModel : String) :
    Budgeted (connectOrBridgeUpstream target answers ctx).2 ∧
      ∀ socket, (connectOrBridgeUpstream target answers ctx).1 = .connected socket →
        Armed (connectOrBridgeUpstream target answers ctx).2
          ⟨requestedModel, target, .nativeWs (some socket)⟩ := by
  unfold connectOrBridgeUpstream
  split
  · exact ⟨kept, fun socket is => by cases is⟩
  split
  · exact ⟨kept, fun socket is => by cases is⟩
  split
  · exact ⟨kept, fun socket is => by cases is⟩
  · exact connectUpstreamWsOnce_books kept target answers requestedModel

theorem Budgeted.bridge (kept : Budgeted ctx) (bridged : active.transport = .httpBridge) :
    Armed ctx active :=
  ⟨kept, fun socket native => by simp [bridged] at native,
    fun _ socket native => by simp [bridged] at native⟩

theorem use_armed (kept : Budgeted ctx) {outcome : NativeWsConnectOutcome} {requestedModel : String}
    (connects : ∀ socket, outcome = .connected socket →
      Armed ctx ⟨requestedModel, target, .nativeWs (some socket)⟩)
    (used : outcome.use requestedModel target = .ok active) : Armed ctx active := by
  cases outcome with
  | connected socket =>
    cases used
    exact connects socket rfl
  | unsupported error =>
    unfold NativeWsConnectOutcome.use at used
    dsimp only at used
    split at used
    · cases used
      exact kept.bridge rfl
    · cases used
  | unavailable error => cases used
  | failed error => cases used

structure SelectionKept (selection : Selection) : Prop where
  kept : Budgeted selection.ctx
  armed : ∀ active, selection.result = .ok active → Armed selection.ctx active

theorem connectTargets_books (requestedModel : String) (script : Nat → ConnectAnswers)
    (targets : List WsTarget) (index : Nat) (lastError : Option WsBridgeError)
    (providerBudget : WsProviderBudget) (kept : Budgeted ctx) :
    SelectionKept
      (connectTargets requestedModel script index targets lastError providerBudget ctx) := by
  induction targets generalizing index lastError providerBudget ctx with
  | nil => exact ⟨kept, fun active is => by cases is⟩
  | cons target rest ih =>
    unfold connectTargets
    split
    · exact ⟨kept, fun active is => by cases is⟩
    split
    · exact ih (index + 1) lastError providerBudget kept
    split
    · exact ⟨kept, fun active is => by cases is⟩
    · rename_i noted _
      have connected := connectOrBridgeUpstream_books kept target (script index) requestedModel
      dsimp only
      split
      · rename_i active used
        refine ⟨connected.1, fun other is => ?_⟩
        cases is
        exact use_armed connected.1 connected.2 used
      · rename_i error used
        exact ih (index + 1) (some error) noted connected.1

theorem connectSelectedUpstream_books (requestedModel : String) (answers : SelectionAnswers)
    (providerBudget : WsProviderBudget) (kept : Budgeted ctx) :
    SelectionKept (connectSelectedUpstream requestedModel answers providerBudget ctx) := by
  unfold connectSelectedUpstream
  split
  · exact ⟨kept, fun active is => by cases is⟩
  dsimp only
  split
  · exact ⟨kept, fun active is => by cases is⟩
  · exact connectTargets_books requestedModel answers.target _ 0 none providerBudget kept

end Requests

section Forward

variable {ctx : WsContext} {target : WsTarget} {active : ActiveUpstream}

theorem Connected.begin (connected : Connected ctx active) (target : WsTarget) (turn : Bool)
    (answers : BeginAnswers) :
    Connected (ctx.beginWsAttempt target turn answers).2 active := by
  intro socket native
  rw [WsContext.begin_log]
  exact connected socket native

theorem Budgeted.armed (kept : Budgeted ctx) (connected : Connected ctx active)
    (uncredited : ctx.budget.setupCredit = false) : Armed ctx active :=
  ⟨kept, connected, fun credit => by rw [uncredited] at credit; cases credit⟩

theorem Connected.send (connected : Connected ctx active) (target : WsTarget)
    (request : Nat → Request) : Connected (ctx.send target request) active := by
  intro socket native
  have before := connected socket native
  unfold WsContext.send WsContext.noteWsSend
  split <;> simp [before]

theorem send_credit (ctx : WsContext) (target : WsTarget) (request : Nat → Request) :
    (ctx.send target request).budget.setupCredit = ctx.budget.setupCredit := by
  unfold WsContext.send WsContext.noteWsSend
  split <;> rfl

theorem LastConnect.share (connect : LastConnect ctx target) (kept : Budgeted ctx) :
    Budgeted (ctx.send target (.create target.providerId (some ctx.attempts.length))) := by
  have sends : ctx.send target (.create target.providerId (some ctx.attempts.length)) =
      ctx.emit (.request (.create target.providerId (some ctx.attempts.length)
        ctx.attempts.length)) := by
    simp [WsContext.send, WsContext.noteWsSend, connect.current]
  rw [sends]
  constructor
  · simpa [requests_singleton_request, WsContext.emit] using kept.covered.share connect.last
  · exact kept.limits
  · exact kept.noted
  · exact kept.begun
  · exact kept.spent
  · exact kept.sent
  · intro pending held
    rw [WsContext.emit_log, lateAttempts_snoc]
    simpa [Effect.records, Effect.counts, WsContext.emit] using kept.traced pending held
  · intro event member
    rcases List.mem_append.mp member with member | member
    · exact kept.silent event member
    · cases List.mem_singleton.mp member

theorem record_requests (ctx : WsContext) (target : WsTarget) (transport : TurnTransport)
    (outcome : TurnOutcome) (hangup : Bool) :
    requests (ctx.recordTurn target transport outcome hangup).log = requests ctx.log := by
  exact requests_snoc_other ctx.log rfl

theorem Budgeted.record (kept : Budgeted ctx) (target : WsTarget) (transport : TurnTransport)
    (outcome : TurnOutcome) (hangup : Bool) :
    Budgeted (ctx.recordTurn target transport outcome hangup) := by
  constructor
  · rw [record_requests]
    exact kept.covered
  · exact kept.limits
  · exact kept.noted
  · exact kept.begun
  · exact kept.spent
  · exact kept.sent
  · intro pending held
    cases held
    show ctx.attempts.length + lateAttempts (ctx.log ++ [.recorded]) = ctx.attempts.length
    rw [lateAttempts_snoc]
    rfl
  · intro event member
    rcases List.mem_append.mp member with member | member
    · exact kept.silent event member
    · cases List.mem_singleton.mp member

theorem Armed.record (armed : Armed ctx active) (target : WsTarget) (transport : TurnTransport)
    (outcome : TurnOutcome) (hangup : Bool) :
    Armed (ctx.recordTurn target transport outcome hangup) active := by
  refine ⟨armed.toBudgeted.record target transport outcome hangup, ?_, ?_⟩
  · intro socket native
    rw [record_requests]
    exact armed.connected socket native
  · intro credit socket native
    rw [record_requests]
    exact armed.credited credit socket native

theorem endAttempt_armed (armed : Armed ctx active) (turnedAway : Bool) (fate : Fate)
    (result : ForwardResult) : Armed (endAttempt turnedAway fate result ctx).2 active :=
  armed.of_same (.emit ctx rfl)

theorem failAttempt_armed (armed : Armed ctx active) (target : WsTarget) (transport : TurnTransport)
    (origin : OutcomeOrigin) (error : WsBridgeError) (hangup : Bool) :
    Armed (failAttempt target transport origin error hangup ctx).2 active :=
  endAttempt_armed (armed.record target transport _ hangup) _ _ _

theorem finishReading_armed (armed : Armed ctx active) (target : WsTarget)
    (transport : TurnTransport) (answers : FinishAnswers) (reading : Reading) :
    Armed (finishReading target transport answers reading ctx).2 active := by
  have recorded (outcome : TurnOutcome) := (armed.of_same (.look ctx answers.hangup)).record target
    transport outcome answers.recordHangup
  unfold finishReading
  dsimp only
  rw [(finishForwardedTurn_cases _ _ _ _ _ _).1]
  exact endAttempt_armed (recorded _) _ _ _

theorem forwardNative_armed (settings : WsSettings) (armed : Armed ctx active) {socket : Option Nat}
    (native : active.transport = .nativeWs socket) (answers : NativeAnswers) :
    Armed (forwardNativeResponseCreate settings active.resolved socket answers ctx).2 active := by
  have connected := armed.connected.begin active.resolved true answers.begin
  have finished {ctx : WsContext} (armed : Armed ctx active) :
      Armed (finishReading active.resolved .nativeWs answers.finish
        (readNative settings active.resolved answers.reads {} ctx).1
        (readNative settings active.resolved answers.reads {} ctx).2).2 active := by
    have read := Passes.readNative settings active.resolved answers.reads {} ctx
    exact finishReading_armed (armed.of_same (.of_passes read)) active.resolved .nativeWs
      answers.finish _
  unfold forwardNativeResponseCreate
  dsimp only
  rcases begin_books armed.toBudgeted active.resolved true answers.begin with
    ⟨refused, same⟩ | ⟨begun, ready⟩ | ⟨-, credit, begun, same, uncredited⟩
  · rw [refused]
    exact endAttempt_armed (armed.of_same same) _ _ _
  · have waiting := ready.toBudgeted.armed connected ready.uncredited
    rw [begun]
    simp only [Bool.not_true, Bool.false_eq_true, if_false]
    split
    · exact failAttempt_armed waiting active.resolved .nativeWs _ _ _
    · exact failAttempt_armed waiting active.resolved .nativeWs _ _ _
    · have sent : Armed ((ctx.beginWsAttempt active.resolved true answers.begin).2.send
          active.resolved (.create active.resolved.providerId socket)) active := by
        refine Budgeted.armed ?_ (connected.send _ _) ?_
        · refine ready.send (fun _ => rfl) (fun _ => rfl) fun n providerId other index created => ?_
          cases created
          exact connected other native
        · rw [send_credit]
          exact ready.uncredited
      split
      · exact failAttempt_armed sent active.resolved .nativeWs _ _ _
      · exact finished sent
  · have waiting := (armed.of_same same).toBudgeted.armed connected uncredited
    obtain ⟨rfl, current, last⟩ := armed.credited credit socket native
    rw [begun]
    simp only [Bool.not_true, Bool.false_eq_true, if_false]
    split
    · exact failAttempt_armed waiting active.resolved .nativeWs _ _ _
    · exact failAttempt_armed waiting active.resolved .nativeWs _ _ _
    · have sent : Armed ((ctx.beginWsAttempt active.resolved true answers.begin).2.send
          active.resolved (.create active.resolved.providerId (some ctx.attempts.length))) active := by
        refine Budgeted.armed ?_ (connected.send _ _) ?_
        · have connect : LastConnect (ctx.beginWsAttempt active.resolved true answers.begin).2
              active.resolved :=
            ⟨by rw [same.lastNumber, same.used, current],
              by rw [same.sameRequests, same.attempts, last]⟩
          rw [← same.attempts]
          exact connect.share waiting.toBudgeted
        · rw [send_credit]
          exact uncredited
      split
      · exact failAttempt_armed sent active.resolved .nativeWs _ _ _
      · exact finished sent

theorem Ready.dispatch (ready : Ready ctx target) : Budgeted (sendDispatch target ctx) :=
  ready.send (fun _ => rfl) (fun _ => rfl) fun _ _ _ _ sent => by cases sent

theorem replayBridge_armed (armed : Armed ctx active) (bridged : active.transport = .httpBridge)
    (target : WsTarget) (answers : BridgeReplayAnswers) (hangup : Bool)
    (result : Dispatch.DispatchResult) :
    Armed (Sum.elim Prod.snd Prod.snd (replayBridge target answers hangup result ctx)) active := by
  unfold replayBridge
  split
  · split
    · exact failAttempt_armed armed target .httpBridge _ _ _
    split
    · exact endAttempt_armed armed _ _ _
    dsimp only
    rcases begin_books armed.toBudgeted target false answers.begin with
      ⟨refused, same⟩ | ⟨begun, ready⟩ | ⟨isTurn, -⟩
    · rw [refused]
      exact endAttempt_armed (armed.of_same same) _ _ _
    · rw [begun]
      simp only [Bool.not_true, Bool.false_eq_true, if_false]
      split
      · exact endAttempt_armed (ready.toBudgeted.bridge bridged) _ _ _
      · exact ready.dispatch.bridge bridged
    · cases isTurn
  · exact armed

theorem readDispatch_armed (settings : WsSettings) (armed : Armed ctx active) (target : WsTarget)
    (answers : BridgeAnswers) (result : Dispatch.DispatchResult) :
    Armed (readDispatch settings target answers result ctx).2 active := by
  unfold readDispatch
  split
  · exact failAttempt_armed armed target .httpBridge _ _ _
  · rename_i status
    have read := Passes.readBridge settings target answers.isSse status answers.last answers.reads
      {} {} ctx
    exact finishReading_armed (armed.of_same (.of_passes read)) target .httpBridge answers.finish _

theorem forwardBridge_armed (settings : WsSettings) (armed : Armed ctx active)
    (bridged : active.transport = .httpBridge) (answers : BridgeAnswers) :
    Armed (forwardHttpBridgeResponseCreate settings active.resolved answers ctx).2 active := by
  unfold forwardHttpBridgeResponseCreate
  split
  · rename_i fault _
    have recorded := armed.record active.resolved .httpBridge ⟨400, some "invalid_payload",
      some fault.message, .gateway⟩ answers.failureHangup
    exact endAttempt_armed (recorded.of_same (.of_passes (.sendWsError _ _))) _ _ _
  dsimp only
  rcases begin_books armed.toBudgeted active.resolved false answers.begin with
    ⟨refused, same⟩ | ⟨begun, ready⟩ | ⟨isTurn, -⟩
  · rw [refused]
    exact endAttempt_armed (armed.of_same same) _ _ _
  · have waiting := ready.toBudgeted.bridge bridged
    rw [begun]
    simp only [Bool.not_true, Bool.false_eq_true, if_false]
    split
    · exact failAttempt_armed waiting active.resolved .httpBridge _ _ _
    split
    · exact endAttempt_armed waiting _ _ _
    have replayed := replayBridge_armed (ready.dispatch.bridge bridged) bridged active.resolved
      answers.replay answers.failureHangup answers.result
    split
    · rename_i ended replays
      rw [replays] at replayed
      exact replayed
    · rename_i result after replays
      rw [replays] at replayed
      exact readDispatch_armed settings replayed active.resolved answers result
  · cases isTurn

theorem forwardOnce_armed (settings : WsSettings) (armed : Armed ctx active)
    (answers : TransportAnswers) : Armed (forwardOnce settings active answers ctx).2 active := by
  unfold forwardOnce
  split
  · rename_i socket native
    exact forwardNative_armed settings armed native answers.native
  · rename_i bridged
    exact forwardBridge_armed settings armed bridged answers.bridge

theorem takeBack_armed (armed : Armed ctx active) : Armed (takeBack ctx) active := by
  have kept : Budgeted (takeBack ctx) := by
    unfold takeBack
    dsimp only
    split
    · exact ⟨armed.covered, armed.limits, armed.noted, armed.begun, armed.spent, armed.sent,
        (fun pending held => by cases held), armed.silent⟩
    · exact ⟨armed.covered, armed.limits, armed.noted, armed.begun, armed.spent, armed.sent,
        armed.traced, armed.silent⟩
  refine ⟨kept, ?_, ?_⟩
  · intro socket native
    have connect := armed.connected socket native
    unfold takeBack
    dsimp only
    split <;> exact connect
  · unfold takeBack
    dsimp only
    split <;> exact armed.credited

theorem forwardAttempts_armed (settings : WsSettings) (script : Nat → TransportAnswers)
    (fuel index : Nat) (armed : Armed ctx active) :
    Armed (forwardAttempts settings active script fuel index ctx).2 active := by
  induction fuel generalizing index ctx with
  | zero => exact armed
  | succ fuel ih =>
    have once := forwardOnce_armed settings armed (script index)
    unfold forwardAttempts
    split
    · rename_i after forwards
      rw [forwards] at once
      exact ih (index + 1) (takeBack_armed once)
    · exact once

theorem forwardResponseCreate_armed (settings : WsSettings) (armed : Armed ctx active)
    (answers : ForwardAnswers) :
    Armed (forwardResponseCreate settings active answers ctx).2 active := by
  refine forwardAttempts_armed settings answers.attempt 2 0 (armed.of_same ?_)
  unfold WsContext.reservePermit
  split
  · exact ⟨rfl, rfl, id, rfl, rfl, rfl, [], by simp, by simp⟩
  · exact ⟨rfl, rfl, id, rfl, rfl, rfl, [.telemetryDropped], by simp [Effect.unbooked], rfl⟩

end Forward

/-- The attempts of a turn are covered, counted and limited, and the trace it writes counts them. -/
structure KeepsAttemptBudget (ctx : WsContext) : Prop where
  covered : Covered ctx.attempts (requests ctx.log)
  counted : ctx.attempts.length ≤ 3
  limits : WithinLimits ctx.attempts
  traced : ∀ event, .telemetry event ∈ ctx.log → event.attemptsSent = ctx.attempts.length

/-- A turn with a telemetry event has counted no attempt after its last record. -/
def TraceCurrent (ctx : WsContext) : Prop :=
  ∀ event, .telemetry event ∈ ctx.log → lateAttempts ctx.log = 0

/-- The end of a turn, before and after what is pending of it is settled. -/
structure Concluded (ctx : WsContext) : Prop where
  covered : Covered ctx.attempts (requests ctx.log)
  counted : ctx.attempts.length ≤ 3
  limits : WithinLimits ctx.attempts
  exact_iff : (∀ event, .telemetry event ∈ ctx.log → event.attemptsSent = ctx.attempts.length) ↔
    TraceCurrent ctx

section Turn

variable {ctx : WsContext}

theorem Budgeted.counted (kept : Budgeted ctx) : ctx.attempts.length ≤ 3 :=
  kept.noted.trans (kept.begun.trans kept.spent)

theorem Budgeted.concluded (kept : Budgeted ctx) : Concluded ctx where
  covered := kept.covered
  counted := kept.counted
  limits := kept.limits
  exact_iff :=
    ⟨fun _ event member => absurd member (kept.silent event),
      fun _ event member => absurd member (kept.silent event)⟩

theorem Budgeted.report (kept : Budgeted ctx) {event : TurnEvent}
    (traced : event.attemptsSent + lateAttempts ctx.log = ctx.attempts.length) :
    Concluded (ctx.emit (.telemetry event)) := by
  have late : lateAttempts (ctx.emit (.telemetry event)).log = lateAttempts ctx.log := by
    rw [WsContext.emit_log, lateAttempts_snoc]
    rfl
  have only {other : TurnEvent} (member : .telemetry other ∈ (ctx.emit (.telemetry event)).log) :
      other = event := by
    rcases List.mem_append.mp member with member | member
    · exact absurd member (kept.silent other)
    · cases List.mem_singleton.mp member
      rfl
  have same : (ctx.emit (.telemetry event)).attempts.length = ctx.attempts.length := rfl
  refine ⟨?_, kept.counted, kept.limits, ?_, ?_⟩
  · rw [WsContext.emit_log, requests_snoc_other _ rfl]
    exact kept.covered
  · intro exact other member
    have counts := exact event (by simp)
    rw [late]
    omega
  · intro current other member
    have none_late := current other member
    rw [late] at none_late
    rw [only member]
    omega

theorem Budgeted.settle (kept : Budgeted ctx) : Concluded ctx.settle := by
  unfold WsContext.settle
  split
  · exact kept.concluded
  rename_i pending held
  have metered := kept.of_same (.emit ctx (show (Effect.metric pending.event.httpStatus
    (if pending.succeeded then none else pending.event.errorType)).unbooked = true from rfl))
  have emptied : Budgeted ({ ctx with pendingTurnLog := none }.emit
      (.metric pending.event.httpStatus
        (if pending.succeeded then none else pending.event.errorType))) :=
    ⟨metered.covered, metered.limits, metered.noted, metered.begun, metered.spent, metered.sent,
      (fun pending held => by cases held), metered.silent⟩
  dsimp only
  split
  · exact emptied.report (metered.traced pending held)
  · exact emptied.concluded

theorem Concluded.frame (concluded : Concluded ctx) (error : WsBridgeError) :
    Concluded (ctx.sendWsError error) := by
  have same := SameBooks.emit ctx (show (Effect.errorFrame error).unbooked = true from rfl)
  obtain ⟨more, unbooked, grown⟩ := same.log
  have log : (ctx.sendWsError error).log = ctx.log ++ more := grown
  refine ⟨?_, concluded.counted, concluded.limits, ?_⟩
  · rw [log, requests_append_unbooked unbooked]
    exact concluded.covered
  · have iff := concluded.exact_iff
    unfold TraceCurrent at iff ⊢
    rw [log, lateAttempts_append_unbooked unbooked]
    simp only [telemetry_append_unbooked unbooked]
    exact iff

theorem Budgeted.failSetup (kept : Budgeted ctx) (error : WsBridgeError) (permit : Bool) :
    Concluded (ctx.failSetup error permit) := by
  have failed : Budgeted ({ ctx with pendingTurnLog := none }.emit .setupFailed) := by
    refine ⟨?_, kept.limits, kept.noted, kept.begun, kept.spent, kept.sent,
      (fun pending held => by cases held), ?_⟩
    · rw [WsContext.emit_log, requests_snoc_other _ rfl]
      exact kept.covered
    · intro event member
      rcases List.mem_append.mp member with member | member
      · exact kept.silent event member
      · cases List.mem_singleton.mp member
  have metered := failed.of_same (.emit _ (show (Effect.metric error.status
    (some error.errorType)).unbooked = true from rfl))
  refine Concluded.frame ?_ error
  unfold WsContext.recordWsSetupFailedTurn
  dsimp only
  split
  · refine metered.report ?_
    rw [WsContext.emit_log, WsContext.emit_log, lateAttempts_snoc, lateAttempts_snoc]
    rfl
  · exact (metered.of_same (.emit _ rfl)).concluded

variable {active : ActiveUpstream}

theorem Armed.refresh (armed : Armed ctx active) (answers : RoundAnswers) :
    Armed ctx (answers.refresh active) := by
  unfold RoundAnswers.refresh
  split
  · exact ⟨armed.toBudgeted, armed.connected, armed.credited⟩
  · exact armed

theorem serveRounds_concluded (settings : WsSettings) (requestedModel : String)
    (script : Nat → RoundAnswers) (fuel index : Nat) (providerBudget : WsProviderBudget)
    (armed : Armed ctx active) :
    Concluded (serveRounds settings requestedModel script fuel index active providerBudget
      ctx).ctx.settle := by
  induction fuel generalizing index active providerBudget ctx with
  | zero => exact armed.toBudgeted.settle
  | succ fuel ih =>
    unfold serveRounds
    dsimp only
    split
    · rename_i error _
      dsimp only
      rw [WsContext.failSetup_settle]
      exact armed.toBudgeted.failSetup error _
    have observed : Armed { ctx with observation := {} } ((script index).refresh active) :=
      (armed.refresh (script index)).of_same ⟨rfl, rfl, id, rfl, rfl, rfl, [], by simp, by simp⟩
    have forwarded := forwardResponseCreate_armed settings observed (script index).forward
    split
    · rename_i after forwards
      rw [forwards] at forwarded
      exact forwarded.toBudgeted.settle
    · rename_i after forwards
      rw [forwards] at forwarded
      exact forwarded.toBudgeted.settle
    · rename_i after forwards
      rw [forwards] at forwarded
      exact forwarded.toBudgeted.settle
    · rename_i error after forwards
      rw [forwards] at forwarded
      have looked := forwarded.toBudgeted.of_same (.look after (script index).hangup)
      split
      · exact looked.settle
      split
      · exact (looked.of_same (.of_passes (.sendWsError _ error))).settle
      have selected := connectSelectedUpstream_books requestedModel (script index).selection
        (providerBudget.seed ((script index).refresh active).resolved.providerId) looked
      split
      · rename_i chosen selects
        exact ih (index + 1) _ (selected.armed chosen selects)
      · rename_i error selects
        exact (selected.kept.of_same (.of_passes (.sendWsError _ error))).settle

theorem serveModel_concluded (settings : WsSettings) (requestedModel : String)
    (answers : TurnAnswers) (providerBudget : WsProviderBudget) (armed : Armed ctx active) :
    Concluded (serveModel settings requestedModel answers active providerBudget ctx).ctx := by
  unfold serveModel
  split
  · exact armed.toBudgeted.failSetup modelChangedError _
  · exact serveRounds_concluded settings requestedModel answers.round turnRounds 0 providerBudget
      armed

theorem new_budgeted (timeout startedAt : Nat) (disconnected : Bool) :
    Budgeted { budget := .new timeout startedAt, disconnected := disconnected } where
  covered := ⟨(fun request sent => by cases sent), List.Pairwise.nil,
    fun providerId socket index sent => by cases sent⟩
  limits _ _ _ := Nat.zero_le _
  noted := le_refl 0
  begun := le_refl 0
  spent := Nat.zero_le _
  sent _ := rfl
  traced pending held := by cases held
  silent event member := by cases member

theorem serveTurn_concluded (settings : WsSettings) (answers : TurnAnswers)
    (active : Option ActiveUpstream) (disconnected : Bool) :
    Concluded (serveTurn settings answers active disconnected).ctx := by
  have start := new_budgeted answers.timeout answers.startedAt disconnected
  unfold serveTurn
  dsimp only
  split
  · exact start.failSetup missingModelError _
  rename_i requestedModel _
  split
  · rename_i active
    refine serveModel_concluded settings requestedModel answers _ (start.armed ?_ rfl)
    intro socket native
    unfold ActiveUpstream.carried at native
    dsimp only at native
    split at native <;> cases native
  · have selected := connectSelectedUpstream_books requestedModel answers.selection [] start
    split
    · exact selected.kept.failSetup _ _
    · rename_i chosen selects
      exact serveModel_concluded settings requestedModel answers _ (selected.armed chosen selects)

/-- In every run of a session each turn sends at most three counted attempts and covers every
    request by its own, and the trace counts them exactly when none is sent after the last record. -/
theorem attempt_budget_iff (settings : WsSettings) (messages : List Incoming)
    (session : WsSession) :
    ∀ ctx ∈ serveWebsocket settings messages session,
      (Covered ctx.attempts (requests ctx.log) ∧ ctx.attempts.length ≤ 3 ∧
        WithinLimits ctx.attempts) ∧
      (KeepsAttemptBudget ctx ↔ TraceCurrent ctx) := by
  refine serveWebsocket_turns settings (fun answers active disconnected => ?_) messages session
  have concluded := serveTurn_concluded settings answers active disconnected
  refine ⟨⟨concluded.covered, concluded.counted, concluded.limits⟩, ?_, ?_⟩
  · intro keeps
    exact concluded.exact_iff.mp keeps.traced
  · intro current
    exact ⟨concluded.covered, concluded.counted, concluded.limits,
      concluded.exact_iff.mpr current⟩

def servedTurn : Incoming :=
  .create false
    { plainTurn (plainRound (fun _ => answeringSocket completedEvent false) default) with
      selection := {
        plan := .ok [plainTarget 1]
        target := fun _ => { refusedConnect with result := .ok (), capacity := true } } }

theorem attempt_budget_iff_served : ∃ ctx ∈ serveWebsocket plainSettings [servedTurn] {},
    requests ctx.log = [.connect 1 1, .create 1 (some 1) 1] ∧ KeepsAttemptBudget ctx := by
  refine ⟨_, List.mem_cons_self, by decide, ?_⟩
  have budget := attempt_budget_iff plainSettings [servedTurn] {} _ List.mem_cons_self
  refine budget.2.mpr fun event _ => ?_
  decide

def failedFailover : Incoming :=
  .create false (plainTurn (plainRound (fun _ => closedSocket)
    { plan := .ok [plainTarget 2, plainTarget 3], target := fun _ => refusedConnect }))

/-- The event of that turn counts the one attempt that its record has seen, of three. -/
theorem attempt_budget_untraced : ∃ ctx ∈ serveWebsocket plainSettings [failedFailover] openSession,
    ¬KeepsAttemptBudget ctx := by
  refine ⟨_, List.mem_cons_self, fun keeps => ?_⟩
  have traced := keeps.traced {
    providerId := some 1
    httpStatus := 502
    errorType := some "upstream_websocket_closed"
    errorMessage := some "upstream closed before terminal response event"
    usage := none
    transport := .nativeWs
    attemptsSent := 1 } (by decide)
  exact absurd traced (by decide)

end Turn

end CodexGate.Websocket
