import CypherSession.Connection.Run
import CypherSession.Proofs.Session.Transition
import CypherSession.Proofs.Statement.Encoding

/-!
# What an operation of a connection can do

A connection refuses an operation, or ends it without its session, or hands it on as one operation
of the session. Then the calls are those of the session, and so are the changes; only the result is
made over. The facts about connections go through `transition`, and not through the definitions of
the operations.
-/

namespace CypherSession.Connection

namespace Operation

def descriptors : Operation → List Descriptor
  | executeQueries descriptors | commitWith descriptors => descriptors
  | executeQuery descriptor => [descriptor]
  | executeStatement statement | executeUpdate statement => [statement.descriptor]
  | executeBatch statement => statement.batch.pending
  | setReadOnly _ | setAutoCommit _ | commit | rollback | keepAlive | close => []

def check (connection : Connection) (operation : Operation) : Except SessionError Unit :=
  match operation with
  | setAutoCommit _ | keepAlive | close => .ok ()
  | setReadOnly _ | rollback => connection.ensureOpen
  | executeQueries _ | executeQuery _ | executeStatement _ | executeUpdate _ | executeBatch _ =>
    connection.allow operation.descriptors
  | commit | commitWith _ => do
    connection.ensureOpen
    if connection.session.autoCommit then throw .commitInAutoCommit
    connection.allow operation.descriptors

def onSession? (connection : Connection) (operation : Operation) : Option Session.Operation :=
  match operation with
  | setReadOnly _ => none
  | setAutoCommit enabled => some (.setAutoCommit enabled)
  | executeQueries _ | executeQuery _ | executeStatement _ | executeUpdate _ =>
    some (.execute operation.descriptors)
  | executeBatch _ =>
    if operation.descriptors.isEmpty then none else some (.execute operation.descriptors)
  | commit | commitWith _ => some (.commit operation.descriptors)
  | rollback => if connection.session.autoCommit then none else some .rollback
  | keepAlive => some .keepAlive
  | close => some .close

def failure (operation : Operation) (error : SessionError) : Failure :=
  match operation with
  | executeBatch _ => .batch (refusal operation.descriptors error)
  | _ => .session error

def report : Operation → Except SessionError (List Envelope) → Except Failure Unit
  | executeBatch _, result => forget .batch (Session.batchResult result)
  | executeQuery _, .ok [] | executeStatement _, .ok [] | executeUpdate _, .ok [] =>
    .error (.session .noResult)
  | _, result => forget .session result

end Operation

/-- What an operation can do: the connection after it, its result, and its calls. -/
inductive Transition (connection : Connection) : Operation → Ending → Connection →
    Option (Except Failure Unit) → List Call → Prop where
  | refused {operation : Operation} {ending : Ending} {error : SessionError}
      (hcheck : operation.check connection = .error error) :
      Transition connection operation ending connection
        (some (.error (operation.failure error))) []
  | switched {enabled : Bool} {ending : Ending} (hopen : connection.ensureOpen = .ok ()) :
      Transition connection (.setReadOnly enabled) ending { connection with readOnly := enabled }
        (some (.ok ())) []
  | nothing {operation : Operation} {ending : Ending}
      (hcheck : operation.check connection = .ok ())
      (hsession : operation.onSession? connection = none)
      (hoperation : ∀ enabled, operation ≠ .setReadOnly enabled) :
      Transition connection operation ending connection (some (.ok ())) []
  | handed {operation : Operation} {ending : Ending} {inner : Session.Operation}
      (hcheck : operation.check connection = .ok ())
      (hsession : operation.onSession? connection = some inner) :
      Transition connection operation ending
        { connection with session := connection.session.after ⟨inner, ending⟩ }
        ((connection.session.result? ⟨inner, ending⟩).map operation.report)
        (connection.session.calls ⟨inner, ending⟩)

variable {connection : Connection} {operation : Operation}

theorem ensureOpen_eq_ok_iff : connection.ensureOpen = .ok () ↔ connection.isClosed = false := by
  unfold ensureOpen
  cases connection.isClosed <;> simp

/-- An operation that the check refuses ends with the error of the check, in its own form. -/
theorem step_of_refused {error : SessionError}
    (hcheck : operation.check connection = .error error) :
    operation.step connection = .done connection (.error (operation.failure error)) := by
  cases operation with
  | setAutoCommit | keepAlive | close => cases hcheck
  | setReadOnly enabled =>
    have hopen : connection.ensureOpen = .error error := hcheck
    simp only [Operation.step, setReadOnly, hopen]
    rfl
  | rollback =>
    have hopen : connection.ensureOpen = .error error := hcheck
    simp only [Operation.step, rollback, hopen]
    rfl
  | executeQueries descriptors =>
    have hallow : connection.allow descriptors = .error error := hcheck
    simp only [Operation.step, executeQueries, hallow]
    rfl
  | executeQuery descriptor =>
    have hallow : connection.allow [descriptor] = .error error := hcheck
    simp only [Operation.step, executeQuery, executeQueries, hallow]
    rfl
  | executeStatement statement | executeUpdate statement =>
    have hallow : connection.allow [statement.descriptor] = .error error := hcheck
    simp only [Operation.step, executeUpdate, executeStatement, executeQuery, executeQueries,
      hallow]
    rfl
  | executeBatch statement =>
    have hallow : connection.allow statement.batch.pending = .error error := hcheck
    simp only [Operation.step, executeBatch, hallow]
    rfl
  | commit =>
    change (((connection.checked (Operation.commit.check connection) _).map _).map _) = _
    rw [hcheck]
    rfl
  | commitWith descriptors =>
    change ((connection.checked ((Operation.commitWith descriptors).check connection) _).map _) = _
    rw [hcheck]
    rfl

/-- An operation that has nothing for the session to do succeeds. -/
theorem step_of_nothing (hcheck : operation.check connection = .ok ())
    (hsession : operation.onSession? connection = none)
    (hoperation : ∀ enabled, operation ≠ .setReadOnly enabled) :
    operation.step connection = .done connection (.ok ()) := by
  cases operation with
  | setReadOnly enabled => exact absurd rfl (hoperation enabled)
  | executeBatch statement =>
    have hallow : connection.allow statement.batch.pending = .ok () := hcheck
    have hempty : statement.batch.pending.isEmpty = true := by
      simpa [Operation.onSession?, Operation.descriptors] using hsession
    simp only [Operation.step, executeBatch, hallow, Session.executeBatch, Session.executeAll,
      if_pos hempty]
    rfl
  | rollback =>
    have hopen : connection.ensureOpen = .ok () := hcheck
    have hauto : connection.session.autoCommit = true := by
      simpa [Operation.onSession?] using hsession
    simp only [Operation.step, rollback, hopen, if_pos hauto]
    rfl
  | setAutoCommit | executeQueries | executeQuery | executeStatement | executeUpdate | commit
  | commitWith | keepAlive | close => cases hsession

theorem eq_execute_of_onSession? {statement : Statement} {inner : Session.Operation}
    (h : (Operation.executeBatch statement).onSession? connection = some inner) :
    statement.batch.pending.isEmpty = false ∧ inner = .execute statement.batch.pending := by
  change (if statement.batch.pending.isEmpty then none else
    some (Session.Operation.execute statement.batch.pending)) = some inner at h
  by_cases hempty : statement.batch.pending.isEmpty = true
  · rw [if_pos hempty] at h
    cases h
  · rw [if_neg hempty] at h
    cases h
    exact ⟨by simpa using hempty, rfl⟩

theorem eq_rollback_of_onSession? {inner : Session.Operation}
    (h : Operation.rollback.onSession? connection = some inner) :
    connection.session.autoCommit = false ∧ inner = .rollback := by
  change (if connection.session.autoCommit then none else some Session.Operation.rollback) =
    some inner at h
  by_cases hauto : connection.session.autoCommit = true
  · rw [if_pos hauto] at h
    cases h
  · rw [if_neg hauto] at h
    cases h
    exact ⟨by simpa using hauto, rfl⟩

/-- Any other operation is one of the session, with the result in the form of the connection. -/
theorem step_of_handed (hcheck : operation.check connection = .ok ())
    {inner : Session.Operation} (hsession : operation.onSession? connection = some inner) :
    operation.step connection =
      (connection.onSession (inner.step connection.session)).map operation.report := by
  -- The call is the same on both sides; what is left to compare is what becomes of the result.
  cases operation with
  | setReadOnly enabled => cases hsession
  | setAutoCommit enabled =>
    cases hsession
    cases hset : connection.session.setAutoCommit enabled with
    | error error =>
      simp only [Operation.step, setAutoCommit, Session.Operation.step, hset]
      rfl
    | ok session =>
      simp only [Operation.step, setAutoCommit, Session.Operation.step, hset]
      rfl
  | executeQueries descriptors =>
    cases hsession
    have hallow : connection.allow descriptors = .ok () := hcheck
    simp only [Operation.step, executeQueries, hallow, checked, Step.map_andThen]
    refine congrArg (Step.andThen _) ?_
    funext connection result
    cases result <;> rfl
  | executeQuery descriptor =>
    cases hsession
    have hallow : connection.allow [descriptor] = .ok () := hcheck
    simp only [Operation.step, executeQuery, executeQueries, hallow, checked, Step.map_andThen]
    refine congrArg (Step.andThen _) ?_
    funext connection result
    rcases result with error | _ | ⟨envelope, rest⟩ <;> rfl
  | executeStatement statement | executeUpdate statement =>
    cases hsession
    have hallow : connection.allow [statement.descriptor] = .ok () := hcheck
    simp only [Operation.step, executeUpdate, executeStatement, executeQuery, executeQueries,
      hallow, checked, Step.map_andThen]
    refine congrArg (Step.andThen _) ?_
    funext connection result
    rcases result with error | _ | ⟨envelope, rest⟩ <;> rfl
  | executeBatch statement =>
    have hallow : connection.allow statement.batch.pending = .ok () := hcheck
    obtain ⟨hnonempty, rfl⟩ := eq_execute_of_onSession? hsession
    simp only [Operation.step, executeBatch, hallow, Session.executeBatch, Session.executeAll,
      if_neg (Bool.eq_false_iff.1 hnonempty), Step.lift_map, Step.lift_lift, Step.map_map]
    rfl
  | commit =>
    cases hsession
    change (((connection.checked (Operation.commit.check connection) _).map _).map _) = _
    rw [hcheck, Step.map_map]
    refine congrArg (Step.map _) ?_
    funext result
    cases result <;> rfl
  | commitWith descriptors =>
    cases hsession
    change ((connection.checked ((Operation.commitWith descriptors).check connection) _).map _) = _
    rw [hcheck]
    rfl
  | rollback =>
    have hopen : connection.ensureOpen = .ok () := hcheck
    obtain ⟨hauto, rfl⟩ := eq_rollback_of_onSession? hsession
    simp only [Operation.step, rollback, hopen, checked, if_neg (Bool.eq_false_iff.1 hauto),
      onSession, Session.Operation.step, Step.lift_map, Step.map_map]
    refine congrArg (Step.map _) ?_
    funext result
    cases result <;> rfl
  | keepAlive | close =>
    cases hsession
    simp only [Operation.step, keepAlive, close, onSession, Session.Operation.step, Step.lift_map,
      Step.map_map]
    refine congrArg (Step.map _) ?_
    funext result
    cases result <;> rfl

/-- **Every event is a transition.** -/
theorem transition (connection : Connection) (event : Event) :
    Transition connection event.operation event.ending (connection.after event)
      (connection.result? event) (connection.calls event) := by
  obtain ⟨operation, ending⟩ := event
  unfold after result? calls Run.after Run.result? Run.calls
  cases hcheck : operation.check connection with
  | error error =>
    rw [step_of_refused hcheck]
    exact .refused hcheck
  | ok _ =>
    cases hsession : operation.onSession? connection with
    | some inner =>
      rw [step_of_handed hcheck hsession, Step.finish_map, Step.calls_map, onSession,
        Step.finish_lift, Step.calls_lift]
      exact .handed hcheck hsession
    | none =>
      by_cases hoperation : ∃ enabled, operation = .setReadOnly enabled
      · obtain ⟨enabled, rfl⟩ := hoperation
        have hopen : connection.ensureOpen = .ok () := hcheck
        simp only [Operation.step, setReadOnly, hopen]
        exact .switched hopen
      · rw [step_of_nothing hcheck hsession (by simpa using hoperation)]
        exact .nothing hcheck hsession (by simpa using hoperation)

/-- However sending it ends, a batch is empty from then on. -/
theorem batch_executeBatch (connection : Connection) (statement : Statement) (ending : Ending) :
    ((connection.executeBatch statement).finish ending).1.2 = statement.clearBatch := by
  cases hallow : connection.allow statement.batch.pending with
  | error cause =>
    simp only [executeBatch, hallow]
    rfl
  | ok _ =>
    simp only [executeBatch, hallow, Session.executeBatch, Step.lift_lift, Step.finish_lift]
    rfl

/-! ## What is sent -/

theorem request_of_onSession? {inner : Session.Operation}
    (hsession : operation.onSession? connection = some inner) :
    inner.request = Request.ofDescriptors operation.descriptors := by
  cases operation with
  | setReadOnly enabled => cases hsession
  | executeBatch statement =>
    obtain ⟨-, rfl⟩ := eq_execute_of_onSession? hsession
    rfl
  | rollback =>
    obtain ⟨-, rfl⟩ := eq_rollback_of_onSession? hsession
    rfl
  | setAutoCommit | executeQueries | executeQuery | executeStatement | executeUpdate | commit
  | commitWith | keepAlive | close =>
    cases hsession
    rfl

/-- A call is made only after the check, and it sends what the descriptors say. -/
theorem encodes_of_mem_calls {event : Event} {call : Call} (h : call ∈ connection.calls event) :
    event.operation.check connection = .ok () ∧
      List.Forall₂ Request.Encodes event.operation.descriptors call.request.statements := by
  have htransition := connection.transition event
  generalize event.operation = operation, event.ending = ending, connection.after event = next,
    connection.result? event = result?, connection.calls event = calls at htransition h ⊢
  cases htransition with
  | refused | switched | nothing => cases h
  | handed hcheck hsession =>
    obtain ⟨exchange, hstarts, rfl⟩ := Session.exists_starts_of_mem_calls h
    have hrequest := hstarts.request
    rw [request_of_onSession? hsession] at hrequest
    exact ⟨hcheck, Request.ofDescriptors_eq_ok_iff.1 hrequest⟩

/-! ## A connection to this machine -/

def sampleSettings : Settings where
  host := "localhost"
  port := 7474
  username? := none
  password := ""
  useTls := false
  autoCommit := true
  maxRows := 0
  debug := false
  readOnly := false
  timeout := .ofSeconds 30
  database? := none
  attributes := .empty

end CypherSession.Connection
