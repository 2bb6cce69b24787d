import CypherSession.Proofs.Connection.Transition
import CypherSession.Proofs.Response.Attribution
import CypherSession.Proofs.Session.Report

/-!
# What a batch reports

A batch goes out in one request, with autocommit or without, and it is empty from then on. It
reports a count for each of its statements if all of them ran, and else for those before the one
that failed.
-/

namespace CypherSession

open Result

namespace Session

variable {session : Session} {descriptors : List Descriptor} {request : Request}

def executing (session : Session) (request : Request) : Exchange :=
  if session.autoCommit then .atOnce "execute" request else .running request

def executeUrl (session : Session) : String :=
  if session.autoCommit then session.endpoint.autocommitUrl else Exchange.runUrl session

theorem call_executing (session : Session) (request : Request) :
    (session.executing request).call session = .post session.executeUrl request := by
  unfold executing executeUrl
  split
  · rfl
  · rfl

theorem results_executing (session : Session) (request : Request) (decoded : Decoded) :
    (session.executing request).results decoded = decoded.results := by
  unfold executing
  split
  · rfl
  · rfl

theorem reports_executing (session : Session) (request : Request) (reply : Reply) :
    (session.executing request).Reports ((session.executing request).verdict session reply)
      ((session.executing request).after session reply).2 := by
  apply Exchange.reports_after
  unfold executing
  split
  · exact nofun
  · exact nofun

theorem execute_of_ready (hready : session.Ready)
    (hrequest : Request.ofDescriptors descriptors = .ok request)
    (hnonempty : request.isEmpty = false) :
    session.execute descriptors =
      .wait { session with pending := true } (.post session.executeUrl request)
        ((session.executing request).after session) := by
  unfold execute executing executeUrl
  rw [guarded_of_ready hready, hrequest]
  simp only [hnonempty]
  by_cases hauto : session.autoCommit = true
  · simp only [if_pos hauto]
    rfl
  · simp only [if_neg hauto]
    rfl

theorem batchResult_eq_ok_iff {result : Except SessionError (List Envelope)}
    {counts : List Int64} :
    batchResult result = .ok counts ↔ ∃ results, result = .ok results ∧
      updateCounts results = counts := by
  unfold batchResult
  split
  · simp
  · simp
  · simp

/-- The error of a batch keeps what the session reports. Only a failed statement says which one it
was; any other cause counts no updates. -/
theorem batchResult_eq_error {result : Except SessionError (List Envelope)} {error : BatchError}
    (h : batchResult result = .error error) :
    result = .error error.cause ∧
      (∀ failure, error.cause = .statement failure →
        error.failedIndex = failure.index ∧
          error.updateCounts = updateCounts failure.completed) ∧
      ((∀ failure, error.cause ≠ .statement failure) → error.updateCounts = []) := by
  unfold batchResult at h
  split at h
  · cases h
  · cases h
    refine ⟨rfl, ?_, fun hcause => absurd rfl (hcause _)⟩
    rintro failure ⟨⟩
    exact ⟨rfl, rfl⟩
  · rename_i cause hcause
    cases h
    refine ⟨rfl, fun failure hfailure => absurd hfailure (hcause failure), fun _ => rfl⟩

/-- The results of a request that runs are those of a response that confirms it. -/
theorem results_of_executing {reply : Reply} {results : List Envelope}
    (h : ((session.executing request).after session reply).2 = .ok results) :
    ∃ raw response maxRows, reply = .answered raw ∧ raw.Confirms request.size response ∧
      results = response.results.map (Envelope.limitRows maxRows) := by
  have hreports := reports_executing session request reply
  rw [h] at hreports
  have hrollback (transaction : Transaction) :
      session.executing request ≠ .rollingBack transaction := by
    unfold executing
    split
    · exact nofun
    · exact nofun
  obtain ⟨decoded, hverdict, rfl⟩ := hreports.exists_accepted hrollback
  obtain ⟨raw, response, rfl, hconfirms, hresponse⟩ :=
    Reply.exists_accepted_iff_confirms.1 ⟨decoded, hverdict, rfl⟩
  rw [call_executing] at hconfirms
  exact ⟨raw, response, _, rfl, hconfirms, by rw [results_executing, hresponse]⟩

/-- Counts come from a response that confirms all statements, one count for each. -/
theorem counts_of_executing {reply : Reply} {counts : List Int64}
    (h : batchResult ((session.executing request).after session reply).2 = .ok counts) :
    ∃ raw response, reply = .answered raw ∧ raw.Confirms request.size response ∧
      counts = updateCounts response.results := by
  obtain ⟨results, hresults, rfl⟩ := batchResult_eq_ok_iff.1 h
  obtain ⟨raw, response, maxRows, rfl, hconfirms, rfl⟩ := results_of_executing hresults
  exact ⟨raw, response, rfl, hconfirms, updateCounts_limitRows ..⟩

/-- A failed statement comes from a response with an error, which says how far the request got. -/
theorem failsAt_of_executing {reply : Reply} {failure : StatementFailure}
    (h : ((session.executing request).after session reply).2 = .error (.statement failure)) :
    ∃ raw response serverError, reply = .answered raw ∧ raw.Fails response serverError ∧
      response.results.length ≤ request.size ∧
      Decoded.FailsAt request response.results failure.index ∧
      updateCounts failure.completed = updateCounts (response.results.take failure.index) := by
  have hreports := reports_executing session request reply
  rw [h] at hreports
  obtain ⟨raw, decoded, serverError, rfl, hdecoded, herror, hfailure⟩ := hreports.exists_refused
  rw [call_executing] at hdecoded
  obtain ⟨response, hfails, hcount, hindex, hcompleted⟩ :=
    Decoded.exists_failsAt_of_ofRaw hdecoded herror
  cases hfailure
  refine ⟨raw, response, serverError, rfl, hfails, hcount, hindex, ?_⟩
  change updateCounts decoded.completed = _
  rw [hcompleted, updateCounts_limitRows]

end Session

namespace Connection

variable {connection : Connection} {statement : Statement} {request : Request}

theorem ready_of_allow (hpending : connection.session.pending = false)
    {descriptors : List Descriptor} (hallow : connection.allow descriptors = .ok ()) :
    connection.session.Ready := by
  obtain ⟨_, hopen, -⟩ := bind_eq_ok_iff.1 hallow
  have hclosed := ensureOpen_eq_ok_iff.1 hopen
  exact ⟨by simpa [isClosed, Session.isClosed] using hclosed, hpending⟩

/-- A batch that passes the check and can be written is one request with all its statements. -/
theorem executeBatch_of_allow (hready : connection.session.Ready)
    (hallow : connection.allow statement.batch.pending = .ok ())
    (hnonempty : statement.batch.pending ≠ [])
    (hrequest : Request.ofDescriptors statement.batch.pending = .ok request) :
    connection.executeBatch statement =
      ((Step.wait { connection.session with pending := true }
          (.post connection.session.executeUrl request)
          ((connection.session.executing request).after connection.session)).map
        Session.batchResult).lift fun session =>
          ({ connection with session }, statement.clearBatch) := by
  have hempty : statement.batch.pending.isEmpty = false := by simpa using hnonempty
  have hexecute := Session.execute_of_ready hready hrequest
    ((Request.isEmpty_of_ofDescriptors hrequest).trans hempty)
  simp only [executeBatch, hallow, Session.executeBatch, Session.executeAll,
    if_neg (Bool.eq_false_iff.1 hempty), hexecute, Step.lift_lift]
  rfl

/-- **What a batch reports.** A batch that may be sent goes out as one request, with its statements
in their order, and it is empty then. If it succeeds, the response confirms it, and there is a count
for each of the results. If the server reports an error for it, the counts are those of the results
before the statement that failed, as many as that statement's index. Every other error comes without
counts. -/
theorem batch_reports (connection : Connection) (statement : Statement) (request : Request)
    (hpending : connection.session.pending = false)
    (hallow : connection.allow statement.batch.pending = .ok ())
    (hnonempty : statement.batch.pending ≠ [])
    (hrequest : Request.ofDescriptors statement.batch.pending = .ok request) (ending : Ending) :
    let descriptors := statement.batch.pending
    let step := connection.executeBatch statement
    step.calls = [.post connection.session.executeUrl request] ∧
    List.Forall₂ Request.Encodes descriptors request.statements ∧
    (step.finish ending).1.2 = statement.clearBatch ∧
    (∀ counts, (step.finish ending).2 = some (.ok counts) →
      ∃ raw response, ending = .replied (.answered raw) ∧
        raw.Confirms descriptors.length response ∧ counts = updateCounts response.results ∧
        counts.length = descriptors.length) ∧
    ∀ error, (step.finish ending).2 = some (.error error) →
      (∀ failure, error.cause = .statement failure →
        ∃ raw response serverError, ending = .replied (.answered raw) ∧
          raw.Fails response serverError ∧
          Decoded.FailsAt request response.results failure.index ∧
          failure.index < descriptors.length ∧ error.failedIndex = failure.index ∧
          error.updateCounts = updateCounts (response.results.take failure.index) ∧
          error.updateCounts.length = failure.index) ∧
      ((∀ failure, error.cause ≠ .statement failure) → error.updateCounts = []) := by
  intro descriptors step
  have hready := ready_of_allow hpending hallow
  have hstep : step = _ := executeBatch_of_allow hready hallow hnonempty hrequest
  have hsize : request.size = descriptors.length := Request.size_of_ofDescriptors hrequest
  -- Every result comes from a reply to the one call: a batch that is abandoned reports nothing.
  have hresult {result : Except BatchError (List Int64)}
      (h : (step.finish ending).2 = some result) :
      ∃ reply, ending = .replied reply ∧ Session.batchResult
        ((connection.session.executing request).after connection.session reply).2 = result := by
    rw [hstep] at h
    cases ending with
    | abandoned => cases h
    | replied reply => exact ⟨reply, rfl, Option.some.inj h⟩
  refine ⟨?_, Request.ofDescriptors_eq_ok_iff.1 hrequest, batch_executeBatch _ _ _, ?_, ?_⟩
  · rw [hstep]
    rfl
  · intro counts hcounts
    obtain ⟨reply, rfl, hok⟩ := hresult hcounts
    obtain ⟨raw, response, rfl, hconfirms, rfl⟩ := Session.counts_of_executing hok
    rw [hsize] at hconfirms
    have hlength : (updateCounts response.results).length = descriptors.length := by
      rw [updateCounts, List.length_map, hconfirms.results]
    exact ⟨raw, response, rfl, hconfirms, rfl, hlength⟩
  · intro error herror
    obtain ⟨reply, rfl, hbatch⟩ := hresult herror
    obtain ⟨hcause, hstatement, hother⟩ := Session.batchResult_eq_error hbatch
    refine ⟨?_, hother⟩
    intro failure hfailure
    rw [hfailure] at hcause
    obtain ⟨raw, response, serverError, rfl, hfails, hcount, hindex, hcompleted⟩ :=
      Session.failsAt_of_executing hcause
    obtain ⟨hfailedIndex, hcounts⟩ := hstatement failure hfailure
    rw [hcompleted] at hcounts
    have hlt : failure.index < descriptors.length := by
      rw [← hsize]
      apply hindex.lt_size hcount
      rw [hsize]
      exact List.length_pos_of_ne_nil hnonempty
    have hlength : error.updateCounts.length = failure.index := by
      rw [hcounts, updateCounts, List.length_map, List.length_take,
        Nat.min_eq_left hindex.le_length]
    exact ⟨raw, response, serverError, rfl, hfails, hindex, hlt, hfailedIndex, hcounts, hlength⟩

def sampleCreation : Descriptor := { text := "CREATE (), ()", wantStats := true }

def sampleBatch : Statement where
  text := ""
  placeholders := 0
  batch := ⟨[sampleCreation, sampleCreation]⟩

def sampleRequest : Request :=
  ⟨[⟨sampleCreation.text, [], true⟩, ⟨sampleCreation.text, [], true⟩]⟩

def sampleAnswer : RawResponse where
  status := 200
  body := "\x7b\"results\":[\x7b\"stats\":\x7b\"nodes_created\":2\x7d\x7d]," ++
    "\"errors\":[\x7b\"code\":\"C\",\"message\":\"no\"\x7d]\x7d"

def sampleFailure : StatementFailure where
  index := 1
  code := "C"
  message := "no"
  completed := [{ stats? := some { nodesCreated := 2 } }]

/-- The second of two statements fails. -/
theorem batch_reports_second_failed :
    let connection := ofSettings sampleSettings
    let step := connection.executeBatch sampleBatch
    step.calls = [.post connection.session.endpoint.autocommitUrl sampleRequest] ∧
      ∃ error, (step.finish (.replied (.answered sampleAnswer))).2 = some (.error error) ∧
        error.cause = .statement sampleFailure ∧ error.failedIndex = 1 ∧
        error.updateCounts = [2] ∧ error.updateCounts.length = 1 := by
  intro connection step
  have hended : (((ofSettings sampleSettings).executeBatch sampleBatch).finish
      (.replied (.answered sampleAnswer))).2 =
        some (.error ⟨[2], 1, .statement sampleFailure⟩) := rfl
  obtain ⟨hcalls, -, -, -, hreported⟩ :=
    batch_reports connection sampleBatch sampleRequest rfl rfl (List.cons_ne_nil _ _) rfl
      (.replied (.answered sampleAnswer))
  obtain ⟨-, -, -, -, -, -, -, hindex, -, hlength⟩ := (hreported _ hended).1 sampleFailure rfl
  exact ⟨hcalls, _, hended, rfl, hindex, rfl, hlength⟩

end Connection

end CypherSession
