import CypherSession.Proofs.Connection.Transition
import CypherSession.Proofs.Result
import CypherSession.Proofs.Statement.Words

/-!
# Read-only connections

While a connection is read-only, no mutating statement goes to its session. An operation with one
fails, if nothing else keeps it from its session, and it names the first one of them; the connection
stays as it was.
-/

namespace CypherSession

open Result

namespace Connection

variable {connection : Connection} {operation : Operation}

theorem allow_of_readOnly (hopen : connection.isClosed = false)
    (hreadOnly : connection.readOnly = true) (descriptors : List Descriptor) :
    connection.allow descriptors = Guard.check descriptors := by
  unfold allow
  rw [ensureOpen_eq_ok_iff.2 hopen, hreadOnly]
  rfl

theorem isMutating_of_allow {descriptors : List Descriptor}
    (hallow : connection.allow descriptors = .ok ()) (hreadOnly : connection.readOnly = true) :
    ∀ descriptor ∈ descriptors, Guard.isMutating descriptor.text = false := by
  obtain ⟨_, -, hcheck⟩ := bind_eq_ok_iff.1 hallow
  rw [if_pos hreadOnly] at hcheck
  exact Guard.check_eq_ok_iff.1 hcheck

theorem isMutating_of_check (hcheck : operation.check connection = .ok ())
    (hreadOnly : connection.readOnly = true) :
    ∀ descriptor ∈ operation.descriptors, Guard.isMutating descriptor.text = false := by
  cases operation with
  | setReadOnly | setAutoCommit | commit | rollback | keepAlive | close => exact nofun
  | executeQueries | executeQuery | executeStatement | executeUpdate | executeBatch =>
    exact isMutating_of_allow hcheck hreadOnly
  | commitWith descriptors =>
    obtain ⟨_, -, hcheck⟩ := bind_eq_ok_iff.1 hcheck
    change (if connection.session.autoCommit then .error .commitInAutoCommit
      else connection.allow descriptors) = .ok () at hcheck
    split at hcheck
    · cases hcheck
    · exact isMutating_of_allow hcheck hreadOnly

/-- Nothing but being read-only can keep a connection from handing the operation on. -/
structure Operation.Admissible (operation : Operation) (connection : Connection) : Prop where
  isOpen : connection.isClosed = false
  explicit : ∀ descriptors, operation = .commitWith descriptors →
    connection.session.autoCommit = false

theorem check_of_readOnly (hadmissible : operation.Admissible connection)
    (hreadOnly : connection.readOnly = true) (hnonempty : operation.descriptors ≠ []) :
    operation.check connection = Guard.check operation.descriptors := by
  cases operation with
  | setReadOnly | setAutoCommit | commit | rollback | keepAlive | close =>
    exact absurd rfl hnonempty
  | executeQueries | executeQuery | executeStatement | executeUpdate | executeBatch =>
    exact allow_of_readOnly hadmissible.isOpen hreadOnly _
  | commitWith descriptors =>
    unfold Operation.check
    rw [ensureOpen_eq_ok_iff.2 hadmissible.isOpen, hadmissible.explicit descriptors rfl,
      allow_of_readOnly hadmissible.isOpen hreadOnly]
    rfl

/-- The failure of an operation of which the first mutating descriptor is `first`, at `index`. -/
def Operation.violation (operation : Operation) (index : Nat) (first : Descriptor) : Failure :=
  match operation with
  | executeBatch _ => .batch ⟨[], index, .readOnly first.text⟩
  | _ => .session (.readOnly first.text)

theorem failure_eq_violation {before rest : List Descriptor} {first : Descriptor}
    (hsplits : Guard.Splits operation.descriptors before first rest) :
    operation.failure (.readOnly first.text) = operation.violation before.length first := by
  cases operation with
  | executeBatch statement =>
    have hindex := hsplits.findIdx?
    simp only [Operation.failure, Operation.violation, refusal, hindex, Option.getD_some]
  | _ => rfl

/-- The first mutating statement is what the refusal names. -/
theorem refused_of_splits (hadmissible : operation.Admissible connection)
    (hreadOnly : connection.readOnly = true) {before rest : List Descriptor} {first : Descriptor}
    (hsplits : Guard.Splits operation.descriptors before first rest) :
    operation.step connection =
      .done connection (.error (operation.violation before.length first)) := by
  have hnonempty : operation.descriptors ≠ [] := by
    rw [hsplits.eq]
    simp
  have hcheck : operation.check connection = .error (.readOnly first.text) := by
    rw [check_of_readOnly hadmissible hreadOnly hnonempty]
    exact hsplits.check_eq_error
  rw [step_of_refused hcheck, failure_eq_violation hsplits]

/-- All statements of a call have been before the guard. -/
theorem isMutating_of_mem_calls {event : Event} {call : Call} (h : call ∈ connection.calls event)
    (hreadOnly : connection.readOnly = true) :
    ∀ statement ∈ call.request.statements, Guard.isMutating statement.text = false := by
  obtain ⟨hcheck, hencodes⟩ := encodes_of_mem_calls h
  have hharmless := isMutating_of_check hcheck hreadOnly
  -- The statements go in step with the descriptors, of which the check speaks.
  generalize event.operation.descriptors = descriptors, call.request.statements = statements
    at hencodes hharmless ⊢
  induction hencodes with
  | nil => exact nofun
  | cons hencoded _ ih =>
    rw [List.forall_mem_cons] at hharmless ⊢
    rw [hencoded.text]
    exact ⟨hharmless.1, ih hharmless.2⟩

/-- Only setting the mode changes it, and only if that succeeds. -/
theorem readOnly_after (connection : Connection) (event : Event) :
    (connection.after event).readOnly = connection.readOnly ∨
      ∃ enabled, event.operation = .setReadOnly enabled ∧
        connection.result? event = some (.ok ()) ∧
          (connection.after event).readOnly = enabled := by
  have htransition := connection.transition event
  generalize event.operation = operation, event.ending = ending, connection.after event = next,
    connection.result? event = result?, connection.calls event = calls at htransition ⊢
  cases htransition with
  | refused | nothing | handed => exact .inl rfl
  | switched => exact .inr ⟨_, rfl, rfl, rfl⟩

/-- **A read-only connection sends no mutating statement**, whatever its run. An operation that has
one fails unless something else refuses it first, with the text of the first one of them; nothing is
sent, and the connection stays as it was. A batch is emptied, and its error counts no updates and
says where that statement stands. Only setting the mode changes it. -/
theorem readOnly_sends_nothing_mutating (settings : Settings) (past : List Event) :
    let new := ofSettings settings
    let connection := new.afterAll past
    (∀ met ∈ new.trace past, met.1.readOnly = true → ∀ call ∈ met.1.calls met.2,
      ∀ statement ∈ call.request.statements, Guard.isMutating statement.text = false) ∧
    (∀ event, connection.readOnly = true → event.operation.Admissible connection →
      (∃ descriptor ∈ event.operation.descriptors, Guard.isMutating descriptor.text = true) →
        (∃ before first rest, Guard.Splits event.operation.descriptors before first rest ∧
          connection.result? event =
            some (.error (event.operation.violation before.length first))) ∧
        connection.calls event = [] ∧ connection.after event = connection) ∧
    (∀ statement ending,
      ((connection.executeBatch statement).finish ending).1.2 = statement.clearBatch) ∧
    ∀ event, (connection.after event).readOnly = connection.readOnly ∨
      ∃ enabled, event.operation = .setReadOnly enabled ∧
        connection.result? event = some (.ok ()) ∧
          (connection.after event).readOnly = enabled := by
  intro new connection
  refine ⟨?_, ?_, ?_, readOnly_after connection⟩
  · intro met _ hreadOnly call hcall
    exact isMutating_of_mem_calls hcall hreadOnly
  · intro event hreadOnly hadmissible hmutating
    obtain ⟨before, first, rest, hsplits⟩ := Guard.exists_splits hmutating
    have hstep := refused_of_splits hadmissible hreadOnly hsplits
    unfold result? calls after Run.result? Run.calls Run.after
    rw [hstep]
    exact ⟨⟨before, first, rest, hsplits, rfl⟩, rfl, rfl⟩
  · exact batch_executeBatch connection

/-- A read-only connection asks for nodes, and it does not delete them. -/
theorem readOnly_sends_nothing_mutating_batch :
    let settings := { sampleSettings with autoCommit := false, readOnly := true }
    let new := ofSettings settings
    let query : Descriptor := { text := "MATCH (n) RETURN n" }
    let delete : Descriptor := { text := "MATCH (n) DELETE n" }
    let asked : Event := ⟨.executeQuery query, .replied .silent⟩
    let batch : Statement := { text := "", placeholders := 0, batch := ⟨[query, delete]⟩ }
    let refused : Event := ⟨.executeBatch batch, .abandoned⟩
    let connection := new.after asked
    let request : Request := ⟨[⟨query.text, [], false⟩]⟩
    new.readOnly = true ∧ new.calls asked = [.post settings.endpoint.transactionUrl request] ∧
      Guard.isMutating query.text = false ∧
      refused.operation.Admissible connection ∧ Guard.isMutating delete.text = true ∧
      (∃ before first rest, Guard.Splits [query, delete] before first rest ∧
        connection.result? refused =
          some (.error (.batch ⟨[], before.length, .readOnly first.text⟩))) ∧
      connection.calls refused = [] ∧ connection.after refused = connection := by
  intro settings new query delete asked batch refused connection request
  obtain ⟨hsent, hrefused, -⟩ := readOnly_sends_nothing_mutating settings [asked]
  have hharmless : Guard.isMutating query.text = false := by decide +kernel
  have hcheck : asked.operation.check new = .ok () :=
    Guard.check_eq_ok_iff.2 fun descriptor hmem => List.mem_singleton.1 hmem ▸ hharmless
  have hcalls : new.calls asked = [.post settings.endpoint.transactionUrl request] := by
    rw [calls, Run.calls, step_of_handed hcheck rfl]
    rfl
  have hquery : Guard.isMutating query.text = false :=
    hsent (new, asked) List.mem_cons_self rfl (.post settings.endpoint.transactionUrl request)
      (by rw [hcalls]; exact List.mem_singleton.2 rfl) ⟨query.text, [], false⟩
      (List.mem_singleton.2 rfl)
  have hafter : connection =
      { new with session := new.session.after ⟨.execute [query], asked.ending⟩ } := by
    change ((asked.operation.step new).finish asked.ending).1 = _
    rw [step_of_handed hcheck rfl]
    rfl
  have hreadOnly : connection.readOnly = true := by rw [hafter]; rfl
  have hadmissible : refused.operation.Admissible connection := ⟨by rw [hafter]; rfl, nofun⟩
  have hdelete : Guard.isMutating delete.text = true := by decide +kernel
  obtain ⟨hresult, hnone, hsame⟩ := hrefused refused hreadOnly hadmissible
    ⟨delete, List.mem_cons_of_mem _ List.mem_cons_self, hdelete⟩
  exact ⟨rfl, hcalls, hquery, hadmissible, hdelete, hresult, hnone, hsame⟩

end Connection

end CypherSession
