import CypherSession.Session.Run

/-!
# What an operation can do

Every way through an operation of a session, once: an operation either ends without a call, or it
starts one of seven exchanges, which is abandoned or comes to a verdict. The facts about sessions
and their runs go through `transition`, and not through the definitions of the operations.
-/

namespace CypherSession

/-- The calls of a session, each with what its end is for. -/
inductive Exchange where
  | atOnce (operation : String) (request : Request)
  | opening
  | running (request : Request)
  | keepingAlive
  | committing (transaction : Transaction) (request : Request)
  | rollingBack (transaction : Transaction)
  | closing (transaction : Transaction)

def withoutResults {α : Type} (ended : Session × Except SessionError α) :
    Session × Except SessionError (List Envelope) :=
  (ended.1, ended.2.map fun _ => [])

namespace Exchange

def operation : Exchange → String
  | atOnce operation _ => operation
  | opening => "begin"
  | running _ => "execute"
  | keepingAlive => "keep_alive"
  | committing .. => "commit"
  | rollingBack _ | closing _ => "rollback"

/-- Where a session runs requests: in the transaction that it holds, or where one is opened. -/
def runUrl (session : Session) : String :=
  (session.transaction?.map Transaction.url).getD session.endpoint.transactionUrl

def call (session : Session) : Exchange → Call
  | atOnce _ request => .post session.endpoint.autocommitUrl request
  | opening => .post session.endpoint.transactionUrl .empty
  | running request => .post (runUrl session) request
  | keepingAlive => .post (runUrl session) .empty
  | committing transaction request => .post (transaction.url ++ Endpoint.commitSuffix) request
  | rollingBack transaction | closing transaction => .delete transaction.url

def RunsInTransaction : Exchange → Prop
  | running _ | keepingAlive => True
  | _ => False

def maxRows (session : Session) : Exchange → Nat
  | rollingBack _ | closing _ => 0
  | _ => session.config.maxRows

def atEnd (session : Session) :
    Exchange → Verdict → Session × Except SessionError (List Envelope)
  | atOnce .., verdict => session.ranAtOnce verdict
  | opening, verdict => withoutResults (session.ranOpening verdict)
  | running _, verdict => session.ranInTransaction verdict
  | keepingAlive, verdict => withoutResults (session.ranInTransaction verdict)
  | committing transaction _, verdict => Session.ranCommit transaction session verdict
  | rollingBack _, verdict => withoutResults (session.ranRollback verdict)
  | closing _, verdict => ((session.ranRollback verdict).1.shut, .ok [])

def verdict (exchange : Exchange) (session : Session) (reply : Reply) : Verdict :=
  reply.verdict exchange.operation session.config.timeout (exchange.call session).request
    (exchange.maxRows session)

def after (exchange : Exchange) (session : Session) (reply : Reply) :
    Session × Except SessionError (List Envelope) :=
  exchange.atEnd { session with pending := false } (exchange.verdict session reply)

theorem after_of_not_pending {session : Session} (hpending : session.pending = false)
    (exchange : Exchange) (reply : Reply) :
    exchange.after session reply = exchange.atEnd session (exchange.verdict session reply) := by
  unfold after
  rw [← hpending]

end Exchange

namespace Session

structure Ready (session : Session) : Prop where
  isOpen : session.phase ≠ .closed
  notPending : session.pending = false

namespace Operation

/-- The operations that need the session to be open and report an abandoned call. -/
def IsGuarded : Operation → Prop
  | setAutoCommit _ | close => False
  | _ => True

def request : Operation → Except SessionError Request
  | execute descriptors | commit descriptors => Request.ofDescriptors descriptors
  | _ => .ok .empty

def opening? (session : Session) : Option Exchange :=
  if session.autoCommit ∨ session.phase = .held then none else some .opening

def exchange? (session : Session) : Operation → Option Exchange
  | setAutoCommit _ => none
  | begin => opening? session
  | execute descriptors =>
    match Request.ofDescriptors descriptors with
    | .error _ => none
    | .ok request =>
      if session.autoCommit then
        if request.isEmpty then none else some (.atOnce "execute" request)
      else if request.isEmpty then opening? session
      else some (.running request)
  | keepAlive => if session.transaction?.isSome then some .keepingAlive else none
  | commit descriptors =>
    match Request.ofDescriptors descriptors with
    | .error _ => none
    | .ok request =>
      match session.transaction? with
      | some transaction => some (.committing transaction request)
      | none => if request.isEmpty then none else some (.atOnce "commit" request)
  | rollback => session.transaction?.map .rollingBack
  | close => session.transaction?.map .closing

/-- The operations that start exchanges, and the sessions in which they do. -/
inductive Starts (session : Session) : Operation → Exchange → Prop where
  | executeAtOnce {descriptors : List Descriptor} {request : Request}
      (hrequest : Request.ofDescriptors descriptors = .ok request)
      (hnonempty : request.isEmpty = false) (hauto : session.autoCommit = true) :
      Starts session (.execute descriptors) (.atOnce "execute" request)
  | commitAtOnce {descriptors : List Descriptor} {request : Request}
      (hrequest : Request.ofDescriptors descriptors = .ok request)
      (hnonempty : request.isEmpty = false) (hnone : session.transaction? = none) :
      Starts session (.commit descriptors) (.atOnce "commit" request)
  | begin (hauto : session.autoCommit = false) (hphase : session.phase ≠ .held) :
      Starts session .begin .opening
  | executeNothing {descriptors : List Descriptor} {request : Request}
      (hrequest : Request.ofDescriptors descriptors = .ok request)
      (hempty : request.isEmpty = true) (hauto : session.autoCommit = false)
      (hphase : session.phase ≠ .held) :
      Starts session (.execute descriptors) .opening
  | execute {descriptors : List Descriptor} {request : Request}
      (hrequest : Request.ofDescriptors descriptors = .ok request)
      (hnonempty : request.isEmpty = false) (hauto : session.autoCommit = false) :
      Starts session (.execute descriptors) (.running request)
  | keepAlive {transaction : Transaction} (hheld : session.transaction? = some transaction) :
      Starts session .keepAlive .keepingAlive
  | commit {descriptors : List Descriptor} {request : Request} {transaction : Transaction}
      (hrequest : Request.ofDescriptors descriptors = .ok request)
      (hheld : session.transaction? = some transaction) :
      Starts session (.commit descriptors) (.committing transaction request)
  | rollback {transaction : Transaction} (hheld : session.transaction? = some transaction) :
      Starts session .rollback (.rollingBack transaction)
  | close {transaction : Transaction} (hheld : session.transaction? = some transaction) :
      Starts session .close (.closing transaction)

theorem opening?_eq_some {session : Session} {exchange : Exchange}
    (h : opening? session = some exchange) :
    exchange = .opening ∧ session.autoCommit = false ∧ session.phase ≠ .held := by
  unfold opening? at h
  by_cases hneeded : session.autoCommit ∨ session.phase = .held
  · rw [if_pos hneeded] at h
    cases h
  · rw [if_neg hneeded] at h
    cases h
    rw [not_or] at hneeded
    exact ⟨rfl, by simpa using hneeded.1, hneeded.2⟩

/-- What an operation starts is one of the exchanges listed for it. -/
theorem starts_of_exchange? {session : Session} {operation : Operation} {exchange : Exchange}
    (h : operation.exchange? session = some exchange) : Starts session operation exchange := by
  cases operation with
  | setAutoCommit enabled => cases h
  | begin =>
    obtain ⟨rfl, hauto, hphase⟩ := opening?_eq_some h
    exact .begin hauto hphase
  | execute descriptors =>
    simp only [exchange?] at h
    cases hrequest : Request.ofDescriptors descriptors with
    | error error =>
      rw [hrequest] at h
      cases h
    | ok request =>
      simp only [hrequest] at h
      by_cases hauto : session.autoCommit = true <;>
        by_cases hempty : request.isEmpty = true
      · rw [if_pos hauto, if_pos hempty] at h
        cases h
      · rw [if_pos hauto, if_neg hempty] at h
        cases h
        exact .executeAtOnce hrequest (by simpa using hempty) hauto
      · rw [if_neg hauto, if_pos hempty] at h
        obtain ⟨rfl, hauto, hphase⟩ := opening?_eq_some h
        exact .executeNothing hrequest hempty hauto hphase
      · rw [if_neg hauto, if_neg hempty] at h
        cases h
        exact .execute hrequest (by simpa using hempty) (by simpa using hauto)
  | keepAlive =>
    unfold exchange? at h
    cases hheld : session.transaction? with
    | none =>
      rw [hheld] at h
      cases h
    | some transaction =>
      rw [hheld] at h
      cases h
      exact .keepAlive hheld
  | commit descriptors =>
    simp only [exchange?] at h
    cases hrequest : Request.ofDescriptors descriptors with
    | error error =>
      rw [hrequest] at h
      cases h
    | ok request =>
      cases hheld : session.transaction? with
      | some transaction =>
        simp only [hrequest, hheld] at h
        cases h
        exact .commit hrequest hheld
      | none =>
        simp only [hrequest, hheld] at h
        by_cases hempty : request.isEmpty = true
        · rw [if_pos hempty] at h
          cases h
        · rw [if_neg hempty] at h
          cases h
          exact .commitAtOnce hrequest (by simpa using hempty) hheld
  | rollback =>
    obtain ⟨transaction, hheld, rfl⟩ := Option.map_eq_some_iff.1 h
    exact .rollback hheld
  | close =>
    obtain ⟨transaction, hheld, rfl⟩ := Option.map_eq_some_iff.1 h
    exact .close hheld

theorem Starts.runsInTransaction {session : Session} {operation : Operation} {exchange : Exchange}
    (h : Starts session operation exchange) (hruns : exchange.RunsInTransaction) :
    operation = .keepAlive ∨ ∃ descriptors, operation = .execute descriptors := by
  cases h with
  | execute => exact .inr ⟨_, rfl⟩
  | keepAlive => exact .inl rfl
  | _ => exact hruns.elim

/-- What a call sends is what its operation asks for. -/
theorem Starts.request {session : Session} {operation : Operation} {exchange : Exchange}
    (h : Starts session operation exchange) :
    operation.request = .ok (exchange.call session).request := by
  cases h with
  | executeAtOnce hrequest | commitAtOnce hrequest | execute hrequest | commit hrequest =>
    exact hrequest
  | executeNothing hrequest hempty =>
    refine hrequest.trans (congrArg Except.ok ?_)
    exact congrArg Request.mk (List.isEmpty_iff.1 hempty)
  | begin | keepAlive | rollback | close => rfl

theorem Starts.isGuarded {session : Session} {operation : Operation} {exchange : Exchange}
    (h : Starts session operation exchange) (hclose : operation ≠ .close) :
    operation.IsGuarded := by
  cases h with
  | close => exact absurd rfl hclose
  | _ => trivial

end Operation

/-- Descriptors that cannot be sent start nothing. -/
theorem exchange?_of_request_error {session : Session} {operation : Operation}
    {error : SessionError} (hrequest : operation.request = .error error) :
    operation.exchange? session = none := by
  cases operation with
  | execute descriptors | commit descriptors =>
    have hdescriptors : Request.ofDescriptors descriptors = .error error := hrequest
    simp only [Operation.exchange?, hdescriptors]
  | _ => cases hrequest

/-- What an operation can do: the session after it, its result, and its calls. -/
inductive Transition (session : Session) : Operation → Ending → Session →
    Option (Except SessionError (List Envelope)) → List Call → Prop where
  | closed {operation : Operation} {ending : Ending} (hclosed : session.phase = .closed)
      (hoperation : operation ≠ .close) :
      Transition session operation ending session (some (.error .closed)) []
  | closedAgain {ending : Ending} (hclosed : session.phase = .closed) :
      Transition session .close ending session (some (.ok [])) []
  | reported {operation : Operation} {ending : Ending} (hopen : session.phase ≠ .closed)
      (hpending : session.pending = true) (hguarded : operation.IsGuarded) :
      Transition session operation ending { session.discard with pending := false }
        (some (.error .abandoned)) []
  | unsendable {operation : Operation} {ending : Ending} {error : SessionError}
      (hready : session.Ready) (hguarded : operation.IsGuarded)
      (hrequest : operation.request = .error error) :
      Transition session operation ending session (some (.error error)) []
  | switched {enabled : Bool} {ending : Ending} (hopen : session.phase ≠ .closed)
      (henabled : enabled = session.autoCommit ∨ session.phase ≠ .held) :
      Transition session (.setAutoCommit enabled) ending { session with autoCommit := enabled }
        (some (.ok [])) []
  | unswitched {enabled : Bool} {ending : Ending} (hheld : session.phase = .held)
      (henabled : enabled ≠ session.autoCommit) :
      Transition session (.setAutoCommit enabled) ending session
        (some (.error .transactionOpen)) []
  | nothing {operation : Operation} {ending : Ending} {request : Request}
      (hready : session.Ready) (hguarded : operation.IsGuarded)
      (hrequest : operation.request = .ok request)
      (hexchange : operation.exchange? session = none) :
      Transition session operation ending session (some (.ok [])) []
  | shut {ending : Ending} (hopen : session.phase ≠ .closed)
      (htransaction : session.transaction? = none) :
      Transition session .close ending session.shut (some (.ok [])) []
  | paused {operation : Operation} {exchange : Exchange} (hopen : session.phase ≠ .closed)
      (hpending : operation ≠ .close → session.pending = false)
      (hexchange : operation.exchange? session = some exchange) :
      Transition session operation .abandoned { session with pending := true } none
        [exchange.call session]
  | replied {operation : Operation} {exchange : Exchange} {reply : Reply}
      (hopen : session.phase ≠ .closed)
      (hpending : operation ≠ .close → session.pending = false)
      (hexchange : operation.exchange? session = some exchange) :
      Transition session operation (.replied reply) (exchange.after session reply).1
        (some (exchange.after session reply).2) [exchange.call session]

def Follows (session : Session) (operation : Operation)
    (step : Step Session (Except SessionError (List Envelope))) : Prop :=
  ∀ ending, Transition session operation ending (step.finish ending).1 (step.finish ending).2
    step.calls

variable {session : Session} {operation : Operation}

/-- A call in a session that is open ends in a reply or is abandoned. -/
theorem follows_exchange {exchange : Exchange} (hopen : session.phase ≠ .closed)
    (hpending : operation ≠ .close → session.pending = false)
    (hexchange : operation.exchange? session = some exchange) :
    session.Follows operation
      (.wait { session with pending := true } (exchange.call session) (exchange.after session)) := by
  intro ending
  cases ending with
  | abandoned => exact .paused hopen hpending hexchange
  | replied reply => exact .replied hopen hpending hexchange

theorem Operation.IsGuarded.ne_close (h : operation.IsGuarded) : operation ≠ .close := by
  rintro rfl
  exact h

/-- An operation that needs the session only needs a proof for sessions that are ready. -/
theorem follows_guarded {step : Step Session (Except SessionError (List Envelope))}
    (hguarded : operation.IsGuarded) (hstep : session.Ready → session.Follows operation step) :
    session.Follows operation (session.guarded step) := by
  intro ending
  unfold guarded
  by_cases hclosed : session.phase = .closed
  · rw [if_pos (isClosed_iff.2 hclosed)]
    exact .closed hclosed hguarded.ne_close
  rw [if_neg (mt isClosed_iff.1 hclosed)]
  by_cases hpending : session.pending = true
  · rw [if_pos hpending]
    exact .reported hclosed hpending hguarded
  · rw [if_neg hpending]
    exact hstep ⟨hclosed, by simpa using hpending⟩ ending

theorem follows_nothing {request : Request} (hready : session.Ready)
    (hguarded : operation.IsGuarded) (hrequest : operation.request = .ok request)
    (hexchange : operation.exchange? session = none) :
    session.Follows operation (.done session (.ok [])) :=
  fun _ => .nothing hready hguarded hrequest hexchange

theorem map_guarded {α β : Type} (step : Step Session (Except SessionError α)) (f : α → β) :
    (session.guarded step).map (·.map f) = session.guarded (step.map (·.map f)) := by
  unfold guarded
  split
  · rfl
  split
  · rfl
  · rfl

theorem map_map {α β γ : Type} (step : Step Session (Except SessionError α)) (f : α → β)
    (g : β → γ) : (step.map (·.map f)).map (·.map g) = step.map (·.map fun x => g (f x)) := by
  rw [Step.map_map]
  congr
  funext result
  cases result <;> rfl

theorem guarded_of_ready {α : Type} (hready : session.Ready)
    (step : Step Session (Except SessionError α)) : session.guarded step = step := by
  unfold guarded
  rw [if_neg (mt isClosed_iff.1 hready.isOpen), if_neg (by simp [hready.notPending])]

/-- Opening is an exchange, or nothing where it is not needed. -/
theorem follows_opening (hready : session.Ready) (hguarded : operation.IsGuarded)
    {request : Request} (hrequest : operation.request = .ok request)
    (hexchange : operation.exchange? session = Operation.opening? session) :
    session.Follows operation (session.openTransaction.map (·.map fun _ => [])) := by
  unfold openTransaction
  by_cases hneeded : session.autoCommit ∨ session.phase = .held
  · rw [if_pos hneeded]
    apply follows_nothing hready hguarded hrequest
    rw [hexchange, Operation.opening?, if_pos hneeded]
  · rw [if_neg hneeded]
    have hopening : operation.exchange? session = some .opening := by
      rw [hexchange, Operation.opening?, if_neg hneeded]
    exact follows_exchange hready.isOpen (fun _ => hready.notPending) hopening

theorem follows_begin (session : Session) :
    session.Follows .begin (Operation.begin.step session) := by
  change session.Follows .begin (session.begin.map (·.map fun _ => []))
  rw [begin, map_guarded]
  have hguarded : Operation.begin.IsGuarded := trivial
  apply follows_guarded hguarded
  intro hready
  exact follows_opening hready hguarded rfl rfl

theorem follows_execute (session : Session) (descriptors : List Descriptor) :
    session.Follows (.execute descriptors) (session.execute descriptors) := by
  have hguarded : (Operation.execute descriptors).IsGuarded := trivial
  apply follows_guarded hguarded
  intro hready
  cases hrequest : Request.ofDescriptors descriptors with
  | error error => exact fun _ => .unsendable hready hguarded hrequest
  | ok request =>
    have hexchange : (Operation.execute descriptors).exchange? session =
        if session.autoCommit then
          if request.isEmpty then none else some (.atOnce "execute" request)
        else if request.isEmpty then Operation.opening? session
        else some (.running request) := by
      simp only [Operation.exchange?, hrequest]
    simp only
    by_cases hauto : session.autoCommit = true
    · rw [if_pos hauto] at hexchange ⊢
      by_cases hempty : request.isEmpty = true
      · rw [if_pos hempty] at hexchange ⊢
        exact follows_nothing hready hguarded hrequest hexchange
      · rw [if_neg hempty] at hexchange ⊢
        exact follows_exchange hready.isOpen (fun _ => hready.notPending) hexchange
    · rw [if_neg hauto] at hexchange ⊢
      by_cases hempty : request.isEmpty = true
      · rw [if_pos hempty] at hexchange ⊢
        rw [begin, guarded_of_ready hready]
        exact follows_opening hready hguarded hrequest hexchange
      · rw [if_neg hempty] at hexchange ⊢
        exact follows_exchange hready.isOpen (fun _ => hready.notPending) hexchange

theorem follows_keepAlive (session : Session) :
    session.Follows .keepAlive (Operation.keepAlive.step session) := by
  change session.Follows .keepAlive (session.keepAlive.map (·.map fun _ => []))
  rw [keepAlive, map_guarded]
  have hguarded : Operation.keepAlive.IsGuarded := trivial
  apply follows_guarded hguarded
  intro hready
  by_cases hheld : session.transaction?.isSome = true
  · rw [if_pos hheld]
    have hexchange : Operation.keepAlive.exchange? session = some .keepingAlive := by
      rw [Operation.exchange?, if_pos hheld]
    rw [map_map]
    exact follows_exchange hready.isOpen (fun _ => hready.notPending) hexchange
  · rw [if_neg hheld]
    apply follows_nothing hready hguarded rfl
    rw [Operation.exchange?, if_neg hheld]

theorem follows_commit (session : Session) (descriptors : List Descriptor) :
    session.Follows (.commit descriptors) (session.commit descriptors) := by
  have hguarded : (Operation.commit descriptors).IsGuarded := trivial
  apply follows_guarded hguarded
  intro hready
  cases hrequest : Request.ofDescriptors descriptors with
  | error error => exact fun _ => .unsendable hready hguarded hrequest
  | ok request =>
    cases htransaction : session.transaction? with
    | some transaction =>
      have hexchange : (Operation.commit descriptors).exchange? session =
          some (.committing transaction request) := by
        simp only [Operation.exchange?, hrequest, htransaction]
      exact follows_exchange hready.isOpen (fun _ => hready.notPending) hexchange
    | none =>
      have hexchange : (Operation.commit descriptors).exchange? session =
          if request.isEmpty then none else some (.atOnce "commit" request) := by
        simp only [Operation.exchange?, hrequest, htransaction]
      simp only
      by_cases hempty : request.isEmpty = true
      · rw [if_pos hempty] at hexchange ⊢
        exact follows_nothing hready hguarded hrequest hexchange
      · rw [if_neg hempty] at hexchange ⊢
        exact follows_exchange hready.isOpen (fun _ => hready.notPending) hexchange

theorem follows_rollback (session : Session) :
    session.Follows .rollback (Operation.rollback.step session) := by
  change session.Follows .rollback (session.rollback.map (·.map fun _ => []))
  rw [rollback, map_guarded]
  have hguarded : Operation.rollback.IsGuarded := trivial
  apply follows_guarded hguarded
  intro hready
  cases htransaction : session.transaction? with
  | some transaction =>
    have hexchange : Operation.rollback.exchange? session = some (.rollingBack transaction) := by
      rw [Operation.exchange?, htransaction, Option.map_some]
    exact follows_exchange hready.isOpen (fun _ => hready.notPending) hexchange
  | none =>
    apply follows_nothing hready hguarded rfl
    rw [Operation.exchange?, htransaction, Option.map_none]

theorem follows_close (session : Session) :
    session.Follows .close (Operation.close.step session) := by
  change session.Follows .close (session.close.map (·.map fun _ => []))
  intro ending
  unfold close
  by_cases hclosed : session.phase = .closed
  · rw [if_pos (isClosed_iff.2 hclosed)]
    exact .closedAgain hclosed
  rw [if_neg (mt isClosed_iff.1 hclosed)]
  cases htransaction : session.transaction? with
  | some transaction =>
    have hexchange : Operation.close.exchange? session = some (.closing transaction) := by
      rw [Operation.exchange?, htransaction, Option.map_some]
    exact follows_exchange hclosed (fun hne => absurd rfl hne) hexchange ending
  | none => exact .shut hclosed htransaction

theorem follows_setAutoCommit (session : Session) (enabled : Bool) :
    session.Follows (.setAutoCommit enabled)
      ((Operation.setAutoCommit enabled).step session) := by
  intro ending
  unfold Operation.step setAutoCommit
  by_cases hclosed : session.phase = .closed
  · simp only [if_pos (isClosed_iff.2 hclosed)]
    exact .closed hclosed nofun
  simp only [if_neg (mt isClosed_iff.1 hclosed)]
  by_cases hsame : enabled = session.autoCommit
  · subst hsame
    simp only [if_true]
    exact .switched hclosed (.inl rfl)
  by_cases hheld : session.phase = .held
  · simp only [if_neg hsame, if_pos hheld]
    exact .unswitched hheld hsame
  · simp only [if_neg hsame, if_neg hheld]
    exact .switched hclosed (.inr hheld)

/-- **Every event is a transition.** -/
theorem transition (session : Session) (event : Event) :
    Transition session event.operation event.ending (session.after event) (session.result? event)
      (session.calls event) := by
  obtain ⟨operation, ending⟩ := event
  cases operation with
  | setAutoCommit enabled => exact follows_setAutoCommit session enabled ending
  | begin => exact follows_begin session ending
  | execute descriptors => exact follows_execute session descriptors ending
  | keepAlive => exact follows_keepAlive session ending
  | commit descriptors => exact follows_commit session descriptors ending
  | rollback => exact follows_rollback session ending
  | close => exact follows_close session ending

/-- Every call is that of an exchange that the operation starts. -/
theorem exists_starts_of_mem_calls {session : Session} {event : Event} {call : Call}
    (h : call ∈ session.calls event) :
    ∃ exchange, event.operation.Starts session exchange ∧ call = exchange.call session := by
  have htransition := session.transition event
  generalize event.operation = operation, event.ending = ending, session.after event = next,
    session.result? event = result?, session.calls event = calls at htransition h
  cases htransition with
  | paused _ _ hexchange | replied _ _ hexchange =>
    exact ⟨_, Operation.starts_of_exchange? hexchange, List.mem_singleton.1 h⟩
  | _ => cases h

/-! ## A run that opens a transaction

The reply gives the URL of the transaction and says nothing else.
-/

def sampleEndpoint : Endpoint := { host := "localhost", port := 7474 }

def sampleConfig : SessionConfig := { autoCommit := false }

def sampleUrl : String := "http://localhost:7474/db/data/transaction/9"

def sampleOpening : Event where
  operation := .begin
  ending := .replied (.answered { status := 201, location? := some sampleUrl, body := "" })

end Session

end CypherSession
