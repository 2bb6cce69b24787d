import CypherSession.Proofs.Connection.Transition
import CypherSession.Proofs.Session.Closing

/-!
# Closed connections

A connection whose session is closed stays as it is. Whatever an operation checks first, it fails
because the session is closed, unless it closes the connection again; and nothing is sent.
-/

namespace CypherSession.Connection

def Operation.onClosed : Operation → Except Failure Unit
  | close => .ok ()
  | executeBatch statement => .error (.batch (refusal statement.batch.pending .closed))
  | _ => .error (.session .closed)

/-- The operations that leave all checks to the session. -/
def Operation.IsUnchecked : Operation → Prop
  | setAutoCommit _ | keepAlive | close => True
  | _ => False

variable {connection : Connection} {operation : Operation} {ending : Ending}

theorem ensureOpen_of_closed (hclosed : connection.isClosed = true) :
    connection.ensureOpen = .error .closed := by
  unfold ensureOpen
  rw [if_pos hclosed]

theorem allow_of_closed (hclosed : connection.isClosed = true) (descriptors : List Descriptor) :
    connection.allow descriptors = .error .closed := by
  unfold allow
  rw [ensureOpen_of_closed hclosed]
  rfl

theorem check_of_unchecked (hunchecked : operation.IsUnchecked) :
    operation.check connection = .ok () := by
  cases operation with
  | setAutoCommit | keepAlive | close => rfl
  | _ => exact hunchecked.elim

/-- Every check asks first whether the connection is open. -/
theorem check_of_closed (hclosed : connection.isClosed = true)
    (hchecked : ¬operation.IsUnchecked) : operation.check connection = .error .closed := by
  cases operation with
  | setAutoCommit | keepAlive | close => exact absurd trivial hchecked
  | setReadOnly | rollback => exact ensureOpen_of_closed hclosed
  | executeQueries | executeQuery | executeStatement | executeUpdate | executeBatch =>
    exact allow_of_closed hclosed _
  | commit | commitWith =>
    unfold Operation.check
    rw [ensureOpen_of_closed hclosed]
    rfl

theorem failure_eq_onClosed (hchecked : ¬operation.IsUnchecked) :
    .error (operation.failure .closed) = operation.onClosed := by
  cases operation with
  | setAutoCommit | keepAlive | close => exact absurd trivial hchecked
  | _ => rfl

theorem report_onClosed (hunchecked : operation.IsUnchecked) {inner : Session.Operation}
    (hsession : operation.onSession? connection = some inner) :
    operation.report inner.onClosed = operation.onClosed := by
  cases operation with
  | setAutoCommit | keepAlive | close =>
    cases hsession
    rfl
  | _ => exact hunchecked.elim

/-- No operation moves a closed connection, and none makes a call. -/
theorem still_of_closed (hclosed : connection.isClosed = true) {next : Connection}
    {result? : Option (Except Failure Unit)} {calls : List Call}
    (htransition : Transition connection operation ending next result? calls) :
    next = connection ∧ result? = some operation.onClosed ∧ calls = [] := by
  by_cases hunchecked : operation.IsUnchecked
  · have hpasses : operation.check connection = .ok () := check_of_unchecked hunchecked
    cases htransition with
    | refused hcheck =>
      rw [hpasses] at hcheck
      cases hcheck
    | switched => exact hunchecked.elim
    | nothing _ hsession =>
      cases operation with
      | setAutoCommit | keepAlive | close => cases hsession
      | _ => exact hunchecked.elim
    | @handed _ _ inner _ hsession =>
      have hphase : connection.session.phase = .closed := Session.isClosed_iff.1 hclosed
      obtain ⟨hstill, hresult, hcalls⟩ :=
        Session.still_of_closed hphase (connection.session.transition ⟨inner, ending⟩)
      rw [hstill, hresult]
      exact ⟨rfl, congrArg some (report_onClosed hunchecked hsession), hcalls⟩
  · have hrefused := check_of_closed hclosed hunchecked
    cases htransition with
    | refused hcheck =>
      rw [hrefused] at hcheck
      cases hcheck
      exact ⟨rfl, congrArg some (failure_eq_onClosed hunchecked), rfl⟩
    | switched hopen =>
      rw [ensureOpen_of_closed hclosed] at hopen
      cases hopen
    | nothing hcheck | handed hcheck =>
      rw [hrefused] at hcheck
      cases hcheck

theorem eq_of_mem_trace_of_closed (hclosed : connection.isClosed = true) {events : List Event}
    {met : Connection × Event} (hmet : met ∈ connection.trace events) : met.1 = connection := by
  refine Run.eq_of_mem_trace (fun event => ?_) hmet
  exact (still_of_closed hclosed (connection.transition event)).1

/-- **Closing always releases.** However the rollback of what is held ends, and whether the endpoint
can be given back or not, closing a session succeeds. It sends no more than that rollback, and the
session is closed then and holds nothing. From there on nothing changes any more, in the session or
in a connection that owns it, and nothing is sent: closing succeeds again, and everything else fails
because the session is closed, a batch with that as the cause of its error. -/
theorem close_releases (endpoint : Endpoint) (config : SessionConfig) (past : List Session.Event)
    (release : Except TransportError Unit) (reply : Reply) :
    let session := (Session.start endpoint config).afterAll past
    let closing := session.closeWith release
    let closed := (closing.finish (.replied reply)).1
    (closing.finish (.replied reply)).2 = some (.ok ()) ∧
    closing.calls = (session.transaction?.map fun transaction => .delete transaction.url).toList ∧
    closed.phase = .closed ∧ closed.transaction? = none ∧
    session.releases closed = !session.isClosed ∧
    (∀ further, ∀ met ∈ closed.trace further,
      met.1 = closed ∧ met.1.result? met.2 = some met.2.operation.onClosed ∧
        met.1.calls met.2 = []) ∧
    ∀ connection : Connection, connection.session = closed →
      ∀ further, ∀ met ∈ connection.trace further,
        met.1 = connection ∧ met.1.result? met.2 = some met.2.operation.onClosed ∧
          met.1.calls met.2 = [] := by
  intro session closing closed
  have h : session.WellFormed := (Session.wellFormed_start endpoint config).afterAll past
  have hclosing : closing = session.close := session.closeWith_eq_close release
  obtain ⟨hresult, hcalls, hphase, hnone⟩ := h.finish_close reply
  rw [← hclosing] at hresult hcalls hphase hnone
  refine ⟨hresult, hcalls, hphase, hnone, ?_, ?_, ?_⟩
  · have hclosed : closed.isClosed = true := Session.isClosed_iff.2 hphase
    rw [Session.releases, hclosed, Bool.true_and]
  · intro further met hmet
    obtain ⟨-, hfails, hsilent⟩ := Session.still_of_closed hphase (closed.transition met.2)
    rw [Session.eq_of_mem_trace_of_closed hphase hmet]
    exact ⟨rfl, hfails, hsilent⟩
  · rintro connection hsession further met hmet
    have hclosed : connection.isClosed = true := by
      rw [isClosed, hsession]
      exact Session.isClosed_iff.2 hphase
    obtain ⟨-, hfails, hsilent⟩ := still_of_closed hclosed (connection.transition met.2)
    rw [eq_of_mem_trace_of_closed hclosed hmet]
    exact ⟨rfl, hfails, hsilent⟩

/-- The rollback is lost and the endpoint cannot be given back; then even an empty batch fails. -/
theorem close_releases_despite_errors :
    let session := (Session.start Session.sampleEndpoint Session.sampleConfig).afterAll
      [Session.sampleOpening]
    let lost : TransportError := ⟨.io, "broken pipe"⟩
    let closing := session.closeWith (.error lost)
    let closed := (closing.finish (.replied (.failed lost))).1
    let again : Session.Event := ⟨.close, .abandoned⟩
    let connection : Connection := ⟨closed, sampleSettings, false⟩
    let batch : Event := ⟨.executeBatch { text := "", placeholders := 0 }, .abandoned⟩
    let commit : Event := ⟨.commit, .abandoned⟩
    (closing.finish (.replied (.failed lost))).2 = some (.ok ()) ∧
      closing.calls = [.delete Session.sampleUrl] ∧ closed.phase = .closed ∧
      closed.transaction? = none ∧ session.releases closed = true ∧
      closed.result? again = some (.ok []) ∧ closed.calls again = [] ∧
      connection.result? batch = some (.error (.batch ⟨[], 0, .closed⟩)) ∧
      connection.calls batch = [] ∧
      (connection.after batch).result? commit = some (.error (.session .closed)) := by
  intro session lost closing closed again connection batch commit
  obtain ⟨hresult, hcalls, hphase, hnone, hreleases, hsession, hconnection⟩ :=
    close_releases Session.sampleEndpoint Session.sampleConfig [Session.sampleOpening]
      (.error lost) (.failed lost)
  obtain ⟨-, hagain, hsilent⟩ := hsession [again] (closed, again) List.mem_cons_self
  have hfails := hconnection connection rfl [batch, commit]
  obtain ⟨-, hbatch, hunsent⟩ := hfails (connection, batch) List.mem_cons_self
  obtain ⟨-, hcommit, -⟩ :=
    hfails (connection.after batch, commit) (List.mem_cons_of_mem _ List.mem_cons_self)
  exact ⟨hresult, hcalls, hphase, hnone, hreleases, hagain, hsilent, hbatch, hunsent, hcommit⟩

end CypherSession.Connection
