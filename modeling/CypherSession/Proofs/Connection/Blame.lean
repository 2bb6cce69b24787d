import CypherSession.Proofs.Connection.Batch
import CypherSession.Proofs.Connection.Closing
import CypherSession.Proofs.Connection.ReadOnly
import CypherSession.Proofs.Session.Errors

/-!
# Which statement a batch blames

A batch that fails for another reason than one of its statements reports no counts. The session
blames the first position then, which stands for none. A connection that refuses a batch blames the
first mutating statement, not only if it is read-only, but also if it is closed.
-/

namespace CypherSession

open Result

/-! ## Batches of a session -/

/-- No reply of the server reads as a refusal of this client. -/
theorem Exchange.ne_readOnly_of_after {exchange : Exchange} {session : Session} {reply : Reply}
    {error : SessionError} (h : (exchange.after session reply).2 = .error error)
    (query : String) : error ≠ .readOnly query := by
  rintro rfl
  by_cases hclosing : ∃ transaction, exchange = .closing transaction
  · obtain ⟨transaction, rfl⟩ := hclosing
    cases h
  -- An exchange reports what became of its request, and none is made for a refused statement.
  have hreports : exchange.Reports (exchange.verdict session reply)
      (exchange.after session reply).2 := reports_after (not_exists.1 hclosing) reply
  rw [h] at hreports
  rcases hreports.error_cases with (⟨cause, ⟨⟩⟩ | ⟨detail, ⟨⟩⟩) | ⟨detail, ⟨⟩⟩ |
    ⟨decoded, serverError, -, hfailure | ⟨-, id, ⟨⟩⟩⟩
  cases hfailure

namespace Session

variable {session : Session} {ending : Ending}

/-- A session itself refuses no statement for being mutating. -/
theorem ne_readOnly_of_result? {event : Event} {error : SessionError}
    (h : session.result? event = some (.error error)) (query : String) :
    error ≠ .readOnly query := by
  have htransition := session.transition event
  rintro rfl
  generalize event.operation = operation, event.ending = ending, session.after event = next,
    hresult : session.result? event = result?, session.calls event = calls at htransition
  rw [hresult] at h
  cases htransition with
  | unsendable _ _ hrequest =>
    cases h
    obtain ⟨value, hvalue⟩ := Operation.eq_nonFinite_of_request hrequest
    cases hvalue
  | replied => exact Exchange.ne_readOnly_of_after (Option.some.inj h) query rfl
  | _ => cases h

theorem eq_of_batchResult {result : Except SessionError (List Envelope)} {error : BatchError}
    (h : batchResult result = .error error)
    (hother : ∀ failure, error.cause ≠ .statement failure) : error = ⟨[], 0, error.cause⟩ := by
  unfold batchResult at h
  split at h
  · cases h
  · cases h
    exact absurd rfl (hother _)
  · cases h
    rfl

/-- A session blames no statement for an error that the server does not report of one. -/
theorem executeBatch_blames_none {batch : Batch} {error : BatchError}
    (h : ((session.executeBatch batch).finish ending).2 = some (.error error))
    (hother : ∀ failure, error.cause ≠ .statement failure) :
    error = ⟨[], 0, error.cause⟩ ∧ ∀ query, error.cause ≠ .readOnly query := by
  unfold executeBatch executeAll at h
  by_cases hempty : batch.pending.isEmpty = true
  · rw [if_pos hempty] at h
    cases h
  rw [if_neg hempty, Step.finish_lift, Step.finish_map] at h
  obtain ⟨result, hresult, hbatch⟩ := Option.map_eq_some_iff.1 h
  have hcause : result = .error error.cause := (batchResult_eq_error hbatch).1
  rw [hcause] at hresult
  have hexecuted : session.result? ⟨.execute batch.pending, ending⟩ = some (.error error.cause) :=
    hresult
  exact ⟨eq_of_batchResult hbatch hother, ne_readOnly_of_result? hexecuted⟩

end Session

/-! ## Batches of a connection -/

namespace Connection

variable {connection : Connection} {statement : Statement} {descriptors : List Descriptor}
  {cause : SessionError}

/-- The guard is asked only by an open connection in read-only mode. -/
theorem allow_eq_error_iff :
    connection.allow descriptors = .error cause ↔
      connection.isClosed = true ∧ cause = .closed ∨
        connection.isClosed = false ∧ connection.readOnly = true ∧
          Guard.check descriptors = .error cause := by
  cases hclosed : connection.isClosed with
  | true =>
    rw [allow_of_closed hclosed, Except.error.injEq]
    simp only [true_and, reduceCtorEq, false_and, or_false]
    exact eq_comm
  | false =>
    cases hreadOnly : connection.readOnly with
    | true =>
      rw [allow_of_readOnly hclosed hreadOnly]
      simp
    | false =>
      have hopen := ensureOpen_eq_ok_iff.2 hclosed
      simp [allow, hopen, hreadOnly]

/-- A refusal points at the first mutating statement, whatever its cause is. -/
theorem failedIndex_refusal {before rest : List Descriptor} {first : Descriptor}
    (hsplits : Guard.Splits descriptors before first rest) :
    (refusal descriptors cause).failedIndex = before.length := by
  rw [refusal, hsplits.findIdx?, Option.getD_some]

theorem failedIndex_refusal_eq_zero_iff :
    (refusal descriptors cause).failedIndex = 0 ↔
      ∀ before first rest, Guard.Splits descriptors before first rest → before = [] := by
  constructor
  · intro hzero before first rest hsplits
    rw [failedIndex_refusal hsplits] at hzero
    exact List.length_eq_zero_iff.1 hzero
  · intro hall
    by_cases hmutating : ∃ descriptor ∈ descriptors, Guard.isMutating descriptor.text = true
    · obtain ⟨before, first, rest, hsplits⟩ := Guard.exists_splits hmutating
      rw [failedIndex_refusal hsplits, hall before first rest hsplits, List.length_nil]
    · have hnone : descriptors.findIdx? (fun descriptor => Guard.isMutating descriptor.text) =
          none := by
        rw [List.findIdx?_eq_none_iff]
        intro descriptor hmem
        exact Bool.eq_false_iff.2 fun htrue => hmutating ⟨descriptor, hmem, htrue⟩
      rw [refusal, hnone, Option.getD_none]

theorem finish_executeBatch_of_allow_error
    (hallow : connection.allow statement.batch.pending = .error cause) (ending : Ending) :
    ((connection.executeBatch statement).finish ending).2 =
      some (.error (refusal statement.batch.pending cause)) := by
  simp only [executeBatch, hallow]
  rfl

theorem finish_executeBatch_of_allow_ok
    (hallow : connection.allow statement.batch.pending = .ok ()) (ending : Ending) :
    ((connection.executeBatch statement).finish ending).2 =
      ((connection.session.executeBatch statement.batch).finish ending).2 := by
  simp only [executeBatch, hallow, Step.finish_lift]

/-- **Which statement a batch blames** for an error that the server does not report of one of its
statements. There are no counts. A violation of the read-only mode blames the first mutating
statement and shows its text. Every other error blames the first position exactly if the connection
is open or no mutating statement comes later than the first. -/
theorem batch_blames (connection : Connection) (statement : Statement) (ending : Ending)
    (error : BatchError)
    (herror : ((connection.executeBatch statement).finish ending).2 = some (.error error))
    (hother : ∀ failure, error.cause ≠ .statement failure) :
    let descriptors := statement.batch.pending
    error.updateCounts = [] ∧
    (∀ query, error.cause = .readOnly query →
      ∃ before first rest, Guard.Splits descriptors before first rest ∧
        error.failedIndex = before.length ∧ query = first.text) ∧
    ((∀ query, error.cause ≠ .readOnly query) →
      (error.failedIndex = 0 ↔ connection.isClosed = false ∨
        ∀ before first rest, Guard.Splits descriptors before first rest → before = [])) := by
  intro descriptors
  cases hallow : connection.allow descriptors with
  | ok _ =>
    rw [finish_executeBatch_of_allow_ok hallow] at herror
    obtain ⟨hblames, hcause⟩ := Session.executeBatch_blames_none herror hother
    obtain ⟨_, hopen, -⟩ := bind_eq_ok_iff.1 hallow
    have hindex : error.failedIndex = 0 := by rw [hblames]
    refine ⟨by rw [hblames], fun query hquery => absurd hquery (hcause query), fun _ => ?_⟩
    exact iff_of_true hindex (.inl (ensureOpen_eq_ok_iff.1 hopen))
  | error cause =>
    -- The refusal looks for a mutating statement whatever its cause is.
    rw [finish_executeBatch_of_allow_error hallow] at herror
    cases herror
    refine ⟨rfl, ?_, ?_⟩
    · rintro query rfl
      rcases allow_eq_error_iff.1 hallow with ⟨-, hcause⟩ | ⟨-, -, hcheck⟩
      · cases hcause
      · obtain ⟨before, first, rest, hsplits, hcause⟩ := Guard.check_eq_error_iff.1 hcheck
        cases hcause
        exact ⟨before, first, rest, hsplits, failedIndex_refusal hsplits, rfl⟩
    · intro hcause
      rcases allow_eq_error_iff.1 hallow with ⟨hclosed, rfl⟩ | ⟨-, -, hcheck⟩
      · rw [failedIndex_refusal_eq_zero_iff, hclosed]
        simp only [reduceCtorEq, false_or, descriptors]
      · obtain ⟨_, first, _, -, rfl⟩ := Guard.check_eq_error_iff.1 hcheck
        exact absurd rfl (hcause first.text)

def sampleQuery : Descriptor := { text := "RETURN 1" }

def sampleMutation : Descriptor := { text := "CREATE (n)" }

def sampleMixed : Statement where
  text := ""
  placeholders := 0
  batch := ⟨[sampleQuery, sampleMutation]⟩

theorem splits_sampleMixed :
    Guard.Splits sampleMixed.batch.pending [sampleQuery] sampleMutation [] where
  eq := rfl
  harmless := by
    intro descriptor hmem
    rw [List.mem_singleton.1 hmem]
    decide +kernel
  mutating := by decide +kernel

/-- A read-only connection refuses a batch for its second statement. -/
theorem batch_blames_second :
    let connection := ofSettings { sampleSettings with readOnly := true }
    ∃ error, ((connection.executeBatch sampleMixed).finish .abandoned).2 = some (.error error) ∧
      error.updateCounts = [] ∧ error.cause = .readOnly "CREATE (n)" ∧
      ∃ before first rest, Guard.Splits sampleMixed.batch.pending before first rest ∧
        error.failedIndex = before.length ∧ first.text = "CREATE (n)" := by
  intro connection
  have hallow : connection.allow sampleMixed.batch.pending = .error (.readOnly "CREATE (n)") :=
    allow_eq_error_iff.2 (.inr ⟨rfl, rfl, splits_sampleMixed.check_eq_error⟩)
  have herror := finish_executeBatch_of_allow_error hallow .abandoned
  obtain ⟨hcounts, hviolation, -⟩ :=
    batch_blames connection sampleMixed .abandoned _ herror nofun
  obtain ⟨before, first, rest, hsplits, hindex, htext⟩ := hviolation _ rfl
  exact ⟨_, herror, hcounts, rfl, before, first, rest, hsplits, hindex, htext.symm⟩

/-- A connection that was closed blames the second statement, too, for not being open. -/
theorem closed_blames_second :
    let connection := (ofSettings sampleSettings).after ⟨.close, .abandoned⟩
    connection.isClosed = true ∧
      ∃ error, ((connection.executeBatch sampleMixed).finish .abandoned).2 = some (.error error) ∧
        error.cause = .closed ∧ error.failedIndex = 1 := by
  intro connection
  have hclosed : connection.isClosed = true := rfl
  have hallow : connection.allow sampleMixed.batch.pending = .error .closed :=
    allow_of_closed hclosed sampleMixed.batch.pending
  exact ⟨hclosed, _, finish_executeBatch_of_allow_error hallow .abandoned, rfl,
    failedIndex_refusal splits_sampleMixed⟩

end Connection

end CypherSession
