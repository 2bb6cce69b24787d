import CypherSession.Proofs.Session.WellFormed
import CypherSession.Proofs.Statement.Encoding

/-!
# Calls without an answer

A call that surely did not reach the server fails with the error of the transport, and the session
is as it was. A call that may have reached it fails as ambiguous, under the name of its operation;
then the session is as it was too, unless the call was to end the transaction that it holds: that
one is given up, for nobody can tell whether it still exists. An operation that fails before its
call leaves the session as it was.
-/

namespace CypherSession

/-- What is said of a reply after which the call may have had its effect. -/
def Reply.lost? (timeout : Duration) : Reply → Option String
  | answered _ => none
  | failed error => if error.isAmbiguous then some error.message else none
  | silent => some ("no response within " ++ timeout.text)

namespace Reply

variable {operation : String} {timeout : Duration} {request : Request} {maxRows : Nat}

theorem verdict_of_lost {reply : Reply} {detail : String} (h : reply.lost? timeout = some detail) :
    reply.verdict operation timeout request maxRows =
      .unanswered (.ambiguous operation detail) := by
  cases reply with
  | answered raw => cases h
  | silent =>
    cases h
    rfl
  | failed error =>
    change (if error.isAmbiguous then some error.message else none) = some detail at h
    by_cases hambiguous : error.isAmbiguous = true
    · rw [if_pos hambiguous] at h
      cases h
      rw [Reply.verdict, if_pos hambiguous]
    · rw [if_neg hambiguous] at h
      cases h

theorem verdict_of_unsent {error : TransportError} (h : error.isAmbiguous = false) :
    (Reply.failed error).verdict operation timeout request maxRows =
      .unanswered (.transport error) := by
  rw [Reply.verdict, if_neg (by simp [h])]

end Reply

namespace Session

variable {session : Session} {operation : Operation} {exchange : Exchange}

namespace Operation

/-- The name under which errors speak of the call of an operation, which closing does not. -/
def callName? : Operation → Option String
  | setAutoCommit _ | close => none
  | begin => some "begin"
  | execute descriptors => some (if descriptors.isEmpty then "begin" else "execute")
  | keepAlive => some "keep_alive"
  | commit _ => some "commit"
  | rollback => some "rollback"

def endsTransaction : Operation → Bool
  | commit _ | rollback => true
  | _ => false

theorem Starts.callName? (h : operation.Starts session exchange) (hclose : operation ≠ .close) :
    operation.callName? = some exchange.operation := by
  cases h with
  | executeAtOnce hrequest hnonempty | execute hrequest hnonempty =>
    rw [Request.isEmpty_of_ofDescriptors hrequest] at hnonempty
    simp only [Operation.callName?, hnonempty]
    rfl
  | executeNothing hrequest hempty =>
    rw [Request.isEmpty_of_ofDescriptors hrequest] at hempty
    simp only [Operation.callName?, hempty]
    rfl
  | commitAtOnce | begin | keepAlive | commit | rollback => rfl
  | close => exact absurd rfl hclose

end Operation

/-- Without a response an operation changes the session only if it was to end a transaction that is
held. -/
theorem after_of_unanswered (hpending : session.pending = false)
    (hstarts : operation.Starts session exchange) (hclose : operation ≠ .close) {reply : Reply}
    {error : SessionError} (hverdict : exchange.verdict session reply = .unanswered error) :
    exchange.after session reply =
      (if operation.endsTransaction ∧ session.transaction?.isSome then session.unanswered error
        else session, .error error) := by
  rw [Exchange.after_of_not_pending hpending, hverdict]
  cases hstarts with
  | executeAtOnce | execute | executeNothing | begin | keepAlive => rfl
  | commitAtOnce _ _ hnone =>
    rw [hnone]
    rfl
  | commit _ hheld | rollback hheld =>
    rw [hheld]
    rfl
  | close => exact absurd rfl hclose

/-- A request that is not sent leaves the session as it was. -/
theorem after_of_unsent (hpending : session.pending = false)
    (hstarts : operation.Starts session exchange) (hclose : operation ≠ .close)
    {cause : TransportError} (hunsent : cause.isAmbiguous = false) :
    exchange.after session (.failed cause) = (session, .error (.transport cause)) := by
  have hverdict : exchange.verdict session (.failed cause) = .unanswered (.transport cause) :=
    Reply.verdict_of_unsent hunsent
  have hsame : session.unanswered (.transport cause) = session := rfl
  rw [after_of_unanswered hpending hstarts hclose hverdict, hsame, ite_self]

theorem after_of_lost (hpending : session.pending = false)
    (hstarts : operation.Starts session exchange) (hclose : operation ≠ .close) {reply : Reply}
    {detail : String} (hlost : reply.lost? session.config.timeout = some detail) :
    exchange.after session reply =
      (if operation.endsTransaction ∧ session.transaction?.isSome then session.settle .rolledBack
        else session, .error (.ambiguous exchange.operation detail)) := by
  have hverdict : exchange.verdict session reply =
      .unanswered (.ambiguous exchange.operation detail) := Reply.verdict_of_lost hlost
  rw [after_of_unanswered hpending hstarts hclose hverdict]
  cases htransaction : session.transaction? with
  | none => simp
  | some transaction =>
    have hgone : session.unanswered (.ambiguous exchange.operation detail) =
        session.settle .rolledBack := discard_of_held htransaction
    rw [hgone]

/-- An event that makes a call to which a reply comes is an exchange. -/
theorem exists_exchange_of_calls {reply : Reply} (hclose : operation ≠ .close)
    (hcalls : session.calls ⟨operation, .replied reply⟩ ≠ []) :
    ∃ exchange, operation.Starts session exchange ∧ session.pending = false ∧
      session.result? ⟨operation, .replied reply⟩ = some (exchange.after session reply).2 ∧
        session.after ⟨operation, .replied reply⟩ = (exchange.after session reply).1 := by
  have htransition := session.transition ⟨operation, .replied reply⟩
  generalize session.after ⟨operation, .replied reply⟩ = next,
    session.result? ⟨operation, .replied reply⟩ = result?,
    session.calls ⟨operation, .replied reply⟩ = calls at htransition hcalls
  cases htransition with
  | replied _ hpending hexchange =>
    exact ⟨_, Operation.starts_of_exchange? hexchange, hpending hclose, rfl, rfl⟩
  | _ => exact absurd rfl hcalls

/-! ## Failing before the call -/

/-- The errors with which operations fail before they make a call, those apart that report an
abandoned call. -/
inductive Refuses (session : Session) : Operation → SessionError → Prop where
  | closed {operation : Operation} (hclosed : session.phase = .closed)
      (hclose : operation ≠ .close) : Refuses session operation .closed
  | unsendable {operation : Operation} {error : SessionError} (hready : session.Ready)
      (hrequest : operation.request = .error error) : Refuses session operation error
  | unswitched {enabled : Bool} (hheld : session.phase = .held)
      (henabled : enabled ≠ session.autoCommit) :
      Refuses session (.setAutoCommit enabled) .transactionOpen

/-- An operation that fails without a call has one of these errors, and leaves the session as it
was. -/
theorem refuses_of_transition {ending : Ending} {next : Session} {error : SessionError}
    {result? : Option (Except SessionError (List Envelope))} {calls : List Call}
    (htransition : Transition session operation ending next result? calls)
    (hpending : session.pending = false) (hresult : result? = some (.error error))
    (hcalls : calls = []) : session.Refuses operation error := by
  cases htransition with
  | closed hclosed hclose =>
    cases hresult
    exact .closed hclosed hclose
  | unsendable hready _ hrequest =>
    cases hresult
    exact .unsendable hready hrequest
  | unswitched hheld henabled =>
    cases hresult
    exact .unswitched hheld henabled
  | reported _ habandoned =>
    rw [hpending] at habandoned
    cases habandoned
  | closedAgain | switched | nothing | shut => cases hresult
  | paused | replied => cases hcalls

/-- These errors come before any call. -/
theorem Refuses.of_transition {error : SessionError} (h : session.Refuses operation error)
    {ending : Ending} {next : Session} {result? : Option (Except SessionError (List Envelope))}
    {calls : List Call} (htransition : Transition session operation ending next result? calls) :
    result? = some (.error error) ∧ calls = [] ∧ next = session := by
  cases h with
  | closed hclosed hclose =>
    cases htransition with
    | closed => exact ⟨rfl, rfl, rfl⟩
    | closedAgain => exact absurd rfl hclose
    | unswitched hheld =>
      rw [hclosed] at hheld
      cases hheld
    | unsendable hready | nothing hready => exact absurd hclosed hready.isOpen
    | reported hopen | switched hopen | shut hopen | paused hopen | replied hopen =>
      exact absurd hclosed hopen
  | unsendable hready hrequest =>
    cases htransition with
    | closed hclosed | closedAgain hclosed => exact absurd hclosed hready.isOpen
    | reported _ hpending =>
      rw [hready.notPending] at hpending
      cases hpending
    | unsendable _ _ hrequest' =>
      rw [hrequest] at hrequest'
      cases hrequest'
      exact ⟨rfl, rfl, rfl⟩
    | switched | unswitched | shut => cases hrequest
    | nothing _ _ hrequest' =>
      rw [hrequest] at hrequest'
      cases hrequest'
    | paused _ _ hexchange | replied _ _ hexchange =>
      rw [exchange?_of_request_error hrequest] at hexchange
      cases hexchange
  | unswitched hheld henabled =>
    cases htransition with
    | closed hclosed =>
      rw [hheld] at hclosed
      cases hclosed
    | reported _ _ hguarded | unsendable _ hguarded | nothing _ hguarded => exact hguarded.elim
    | switched _ hkept => exact absurd hheld (hkept.resolve_left henabled)
    | unswitched => exact ⟨rfl, rfl, rfl⟩
    | paused _ _ hexchange | replied _ _ hexchange => cases hexchange

/-- **What a call without an answer leaves.** If it surely did not reach the server, its operation
fails with the error of the transport, and the session is as it was. If it may have reached it, the
operation is ambiguous, and the session is as it was, but for a transaction that was to end: that
one counts as rolled back. An operation that fails without a call leaves the session as it was. -/
theorem unanswered_leaves (endpoint : Endpoint) (config : SessionConfig) (before : List Event) :
    let session := (start endpoint config).afterAll before
    (∀ operation reply, operation ≠ .close →
      let event : Event := ⟨operation, .replied reply⟩
      session.calls event ≠ [] →
        (∀ cause, reply = .failed cause → cause.isAmbiguous = false →
          session.result? event = some (.error (.transport cause)) ∧
            session.after event = session) ∧
        ∀ detail, reply.lost? config.timeout = some detail →
          ∃ name, operation.callName? = some name ∧
            session.result? event = some (.error (.ambiguous name detail)) ∧
            session.after event =
              if operation.endsTransaction ∧ session.transaction?.isSome then
                { session with
                  phase := .idle, transaction? := none, lastOutcome? := some .rolledBack }
              else session) ∧
    (∀ operation error, session.Refuses operation error → ∀ ending,
      let event : Event := ⟨operation, ending⟩
      session.result? event = some (.error error) ∧ session.calls event = [] ∧
        session.after event = session) ∧
    ∀ event error, session.pending = false → session.result? event = some (.error error) →
      session.calls event = [] → session.Refuses event.operation error := by
  intro session
  have hconfig : session.config = config :=
    ((wellFormed_start endpoint config).sameOrigin_afterAll before).2
  refine ⟨?_, ?_, ?_⟩
  · intro operation reply hclose event hcalls
    obtain ⟨exchange, hstarts, hpending, hresult, hafter⟩ :=
      exists_exchange_of_calls hclose hcalls
    rw [hresult, hafter]
    constructor
    · rintro cause rfl hunsent
      rw [after_of_unsent hpending hstarts hclose hunsent]
      exact ⟨rfl, rfl⟩
    · intro detail hlost
      rw [← hconfig] at hlost
      rw [after_of_lost hpending hstarts hclose hlost]
      exact ⟨exchange.operation, hstarts.callName? hclose, rfl, rfl⟩
  · intro operation error hrefuses ending
    exact hrefuses.of_transition (session.transition ⟨operation, ending⟩)
  · intro event error hpending hresult hcalls
    exact refuses_of_transition (session.transition event) hpending hresult hcalls

/-- A request to keep a transaction alive fails in each way, and one to commit it is lost. -/
theorem unanswered_leaves_held :
    let session := (start sampleEndpoint sampleConfig).afterAll [sampleOpening]
    let refused : TransportError := ⟨.connect, "connection refused"⟩
    let keepAlive (reply : Reply) : Event := ⟨.keepAlive, .replied reply⟩
    let commit : Event := ⟨.commit [], .replied .silent⟩
    session.calls (keepAlive .silent) = [.post sampleUrl .empty] ∧
      session.result? (keepAlive (.failed refused)) = some (.error (.transport refused)) ∧
      session.after (keepAlive (.failed refused)) = session ∧
      session.result? (keepAlive .silent) =
        some (.error (.ambiguous "keep_alive" "no response within 30s")) ∧
      session.after (keepAlive .silent) = session ∧
      session.after commit =
        { session with phase := .idle, transaction? := none, lastOutcome? := some .rolledBack } ∧
      session.Refuses (.setAutoCommit true) .transactionOpen ∧
      session.after ⟨.setAutoCommit true, .abandoned⟩ = session := by
  intro session refused keepAlive commit
  have hleaves := unanswered_leaves sampleEndpoint sampleConfig [sampleOpening]
  have hrefuses : session.Refuses (.setAutoCommit true) .transactionOpen :=
    .unswitched rfl nofun
  have hunsent := (hleaves.1 .keepAlive (.failed refused) nofun nofun).1 refused rfl rfl
  obtain ⟨_, ⟨⟩, hresult, hafter⟩ := (hleaves.1 .keepAlive .silent nofun nofun).2 _ rfl
  obtain ⟨_, ⟨⟩, -, hcommit⟩ := (hleaves.1 (.commit []) .silent nofun nofun).2 _ rfl
  exact ⟨rfl, hunsent.1, hunsent.2, hresult, hafter, hcommit, hrefuses,
    (hleaves.2.1 _ _ hrefuses .abandoned).2.2⟩

end Session

end CypherSession
