import CypherSession.Connection.Http
import CypherSession.Proofs.Connection.Batch
import CypherSession.Proofs.Response.Identity
import CypherSession.Proofs.Session.Closing
import CypherSession.Proofs.Statement.Words

/-!
# The probe of a connection

A database is tried with one statement on a new connection, which is closed again. Without
autocommit that statement opens a transaction, if the response to it confirms it and says where the
transaction is; closing rolls exactly this transaction back. What closing comes to does not matter.
-/

namespace CypherSession

open Result

/-! ## Runs with a peer -/

namespace Step

variable {σ α ε : Type}

def recording (peer : ε → Call → ε × Reply) (memory : ε × List Call) (call : Call) :
    (ε × List Call) × Reply :=
  let (next, reply) := peer memory.1 call
  ((next, memory.2 ++ [call]), reply)

/-- A recorded run is the run itself, with the calls of the step beside it. -/
theorem run_recording (step : Step σ α) (peer : ε → Call → ε × Reply) (memory : ε)
    (past : List Call) :
    step.run (recording peer) (memory, past) =
      (((step.run peer memory).1, past ++ step.calls), (step.run peer memory).2) := by
  cases step with
  | done state result =>
    rw [calls, List.append_nil]
    rfl
  | wait paused call resume => rfl

/-- A run ends like a wait that some reply of the peer ends. -/
theorem exists_finish_eq_run (step : Step σ α) (peer : ε → Call → ε × Reply) (memory : ε) :
    ∃ reply, step.finish (.replied reply) =
      ((step.run peer memory).2.1, some (step.run peer memory).2.2) := by
  cases step with
  | done state result => exact ⟨.silent, rfl⟩
  | wait paused call resume => exact ⟨(peer memory call).2, rfl⟩

end Step

/-! ## Transactions that a response opens -/

namespace RawResponse

variable {raw : RawResponse} {request : Request} {maxRows : Nat} {url : String}

/-- The responses that are accepted with a transaction at a URL. -/
theorem exists_accepted_at_iff :
    (∃ decoded id, raw.verdict request maxRows = .accepted decoded ∧
        decoded.transaction? = some id ∧ decoded.location? = some url) ↔
      ∃ response, raw.Confirms request.size response ∧ raw.PointsTo response url := by
  constructor
  · rintro ⟨decoded, id, hverdict, -, hurl⟩
    obtain ⟨response, id?, hconfirms, rfl⟩ := exists_confirms_of_verdict hverdict
    exact ⟨response, hconfirms, Decoded.locate?_eq_some_iff_pointsTo.1 hurl⟩
  · rintro ⟨response, hconfirms, hpoints⟩
    obtain ⟨⟨id?, hpasses⟩, herrors⟩ := exists_passes_iff_confirms.2 hconfirms
    have hlocate := Decoded.locate?_eq_some_iff_pointsTo.2 hpoints
    have hidentify := hpasses.2.2
    rw [hlocate, Decoded.identify_eq_ok_iff] at hidentify
    obtain ⟨hnone, -⟩ | ⟨_, id, -, rfl, -⟩ := hidentify
    · cases hnone
    · exact ⟨Decoded.ofResponse raw request maxRows response (some id), id,
        verdict_eq_accepted_iff.2
          ⟨Decoded.ofRaw_eq_ok_iff.2 ⟨response, some id, hpasses, rfl⟩, herrors⟩, rfl, hlocate⟩

end RawResponse

namespace Session

variable {session : Session} {request : Request} {reply : Reply} {url : String}

def heldUrl? (session : Session) : Option String := session.transaction?.map Transaction.url

theorem heldUrl?_of_none (hnone : session.transaction? = none) : session.heldUrl? = none := by
  rw [heldUrl?, hnone, Option.map_none]

theorem heldUrl?_opened (hnone : session.transaction? = none) (decoded : Decoded) :
    (session.opened decoded).1.heldUrl? = some url ↔
      ∃ id, decoded.transaction? = some id ∧ decoded.location? = some url := by
  unfold opened
  cases hid : decoded.transaction? with
  | none =>
    rw [heldUrl?_of_none hnone]
    exact iff_of_false (by rintro ⟨⟩) (by rintro ⟨id, ⟨⟩, -⟩)
  | some id =>
    cases hlocation : decoded.location? with
    | none =>
      rw [heldUrl?_of_none hnone]
      exact iff_of_false (by rintro ⟨⟩) (by rintro ⟨_, -, ⟨⟩⟩)
    | some location => exact ⟨fun h => ⟨id, rfl, h⟩, fun ⟨_, _, h⟩ => h⟩

theorem heldUrl?_ranInTransaction (hnone : session.transaction? = none) (verdict : Verdict) :
    (session.ranInTransaction verdict).1.heldUrl? = some url ↔
      ∃ decoded id, verdict = .accepted decoded ∧ decoded.transaction? = some id ∧
        decoded.location? = some url := by
  cases verdict with
  | unanswered error =>
    have hheld : (session.ranInTransaction (.unanswered error)).1.heldUrl? = none :=
      heldUrl?_of_none hnone
    rw [hheld]
    exact iff_of_false (by rintro ⟨⟩) (by rintro ⟨_, _, ⟨⟩, -⟩)
  | senseless error =>
    have hheld : (session.ranInTransaction (.senseless error)).1.heldUrl? = none := by
      change session.discard.heldUrl? = none
      rw [discard_of_none hnone]
      exact heldUrl?_of_none hnone
    rw [hheld]
    exact iff_of_false (by rintro ⟨⟩) (by rintro ⟨_, _, ⟨⟩, -⟩)
  | refused decoded error =>
    have hheld : (session.ranInTransaction (.refused decoded error)).1.heldUrl? = none := by
      change (session.failed decoded error).1.heldUrl? = none
      rw [failed_of_none hnone]
      simp only
      split
      · rfl
      · exact heldUrl?_of_none hnone
    rw [hheld]
    exact iff_of_false (by rintro ⟨⟩) (by rintro ⟨_, _, ⟨⟩, -⟩)
  | accepted decoded =>
    change (session.succeeded decoded).1.heldUrl? = some url ↔ _
    rw [succeeded_of_none hnone, heldUrl?_opened hnone]
    constructor
    · rintro ⟨id, hid, hurl⟩
      exact ⟨decoded, id, rfl, hid, hurl⟩
    · rintro ⟨_, id, ⟨⟩, hid, hurl⟩
      exact ⟨id, hid, hurl⟩

/-- Statements open a transaction exactly without autocommit, if the response confirms them and says
where the transaction is. -/
theorem heldUrl?_executing (hpending : session.pending = false)
    (hnone : session.transaction? = none) :
    ((session.executing request).after session reply).1.heldUrl? = some url ↔
      session.autoCommit = false ∧ ∃ raw response, reply = .answered raw ∧
        raw.Confirms request.size response ∧ raw.PointsTo response url := by
  rw [Exchange.after_of_not_pending hpending, executing]
  by_cases hauto : session.autoCommit = true
  · have hheld (verdict : Verdict) : (session.ranAtOnce verdict).1.heldUrl? = none := by
      cases verdict <;> exact heldUrl?_of_none hnone
    rw [if_pos hauto, hauto]
    change (session.ranAtOnce _).1.heldUrl? = some url ↔ _
    rw [hheld]
    exact iff_of_false (by rintro ⟨⟩) (by rintro ⟨⟨⟩, -⟩)
  · rw [if_neg hauto]
    change (session.ranInTransaction _).1.heldUrl? = some url ↔ _
    rw [heldUrl?_ranInTransaction hnone]
    constructor
    · rintro ⟨decoded, id, hverdict, hid, hurl⟩
      obtain ⟨raw, rfl, hraw⟩ := Reply.exists_answered_of_verdict hverdict nofun
      obtain ⟨response, hconfirms, hpoints⟩ :=
        RawResponse.exists_accepted_at_iff.1 ⟨decoded, id, hraw, hid, hurl⟩
      exact ⟨Bool.eq_false_iff.2 hauto, raw, response, rfl, hconfirms, hpoints⟩
    · rintro ⟨-, raw, response, rfl, hconfirms, hpoints⟩
      exact RawResponse.exists_accepted_at_iff.2 ⟨response, hconfirms, hpoints⟩

end Session

/-! ## The error for a missing result -/

namespace SessionError

theorem protocol_append_ne_noResult {start : String}
    (h : ¬start.toList <+: "no result for executed statement".toList) (rest : String) :
    SessionError.protocol (start ++ rest) ≠ .noResult := by
  intro heq
  have htext : start ++ rest = "no result for executed statement" :=
    SessionError.protocol.inj heq
  rw [← htext, String.toList_append] at h
  exact h (List.prefix_append _ _)

/-- No breach of the protocol has the text of an execution without a result. -/
theorem IsBreach.ne_noResult {error : SessionError} (h : error.IsBreach) : error ≠ .noResult := by
  cases h with
  | status status body =>
    rw [String.append_assoc, String.append_assoc]
    exact protocol_append_ne_noResult (by decide) _
  | malformed =>
    exact fun h => absurd (SessionError.protocol.inj h) (by decide)
  | tooMany results statements =>
    rw [tooManyResults, String.append_assoc, String.append_assoc, String.append_assoc]
    exact protocol_append_ne_noResult (by decide) _
  | tooFew results statements =>
    rw [tooFewResults, String.append_assoc, String.append_assoc, String.append_assoc]
    exact protocol_append_ne_noResult (by decide) _
  | unidentified url =>
    rw [noTransactionId, String.append_assoc]
    exact protocol_append_ne_noResult (by decide) _

theorem noIdentity_ne_noResult : noIdentity ≠ noResult :=
  fun h => absurd (SessionError.protocol.inj h) (by decide)

end SessionError

/-- No reply leads to the error for a missing result. -/
theorem Reply.ne_noResult_of_verdict {reply : Reply} {operation : String} {timeout : Duration}
    {request : Request} {maxRows : Nat} {error : SessionError}
    (h : reply.verdict operation timeout request maxRows = .unanswered error ∨
      reply.verdict operation timeout request maxRows = .senseless error) : error ≠ .noResult := by
  rcases h with h | h
  · rcases isUnanswered_of_verdict h with ⟨cause, rfl⟩ | ⟨detail, rfl⟩
    · rintro ⟨⟩
    · rintro ⟨⟩
  · obtain ⟨raw, -, hraw⟩ := exists_answered_of_verdict h nofun
    exact (Decoded.isBreach_of_ofRaw (RawResponse.verdict_eq_senseless_iff.1 hraw)).ne_noResult

namespace Session

variable {session : Session} {request : Request} {reply : Reply}

theorem starts_executing {descriptors : List Descriptor}
    (hrequest : Request.ofDescriptors descriptors = .ok request)
    (hnonempty : request.isEmpty = false) :
    (Operation.execute descriptors).Starts session (session.executing request) := by
  unfold executing
  by_cases hauto : session.autoCommit = true
  · rw [if_pos hauto]
    exact .executeAtOnce hrequest hnonempty hauto
  · rw [if_neg hauto]
    exact .execute hrequest hnonempty (Bool.eq_false_iff.2 hauto)

theorem ne_noResult_of_executing (hpending : session.pending = false)
    (hnone : session.transaction? = none) :
    ((session.executing request).after session reply).2 ≠ .error .noResult := by
  rw [Exchange.after_of_not_pending hpending, executing]
  by_cases hauto : session.autoCommit = true
  · rw [if_pos hauto]
    generalize hverdict : (Exchange.atOnce "execute" request).verdict session reply = verdict
    change (session.ranAtOnce verdict).2 ≠ _
    cases verdict with
    | unanswered error =>
      exact fun h => Reply.ne_noResult_of_verdict (.inl hverdict) (Except.error.inj h)
    | senseless error =>
      exact fun h => Reply.ne_noResult_of_verdict (.inr hverdict) (Except.error.inj h)
    | refused decoded error | accepted decoded => rintro ⟨⟩
  · rw [if_neg hauto]
    generalize hverdict : (Exchange.running request).verdict session reply = verdict
    change (session.ranInTransaction verdict).2 ≠ _
    cases verdict with
    | unanswered error =>
      exact fun h => Reply.ne_noResult_of_verdict (.inl hverdict) (Except.error.inj h)
    | senseless error =>
      exact fun h => Reply.ne_noResult_of_verdict (.inr hverdict) (Except.error.inj h)
    | refused decoded error =>
      change (session.failed decoded error).2 ≠ _
      rw [failed_of_none hnone]
      rintro ⟨⟩
    | accepted decoded =>
      change (session.succeeded decoded).2 ≠ _
      rw [succeeded_of_none hnone]
      rcases Exchange.result_opened session decoded with hopened | hopened
      · rw [hopened]
        rintro ⟨⟩
      · rw [hopened]
        exact fun h => SessionError.noIdentity_ne_noResult (Except.error.inj h)

end Session

/-! ## Closing -/

namespace Connection

variable {ε : Type}

/-- Closing rolls back the transaction that is held, if one is, and closes whatever that comes to.
-/
theorem run_closeWith {connection : Connection} (h : connection.session.WellFormed)
    (release : Except TransportError Unit) (peer : ε → Call → ε × Reply) (memory : ε) :
    (connection.closeWith release).calls =
        (connection.session.heldUrl?.map fun url => .delete url).toList ∧
      ((connection.closeWith release).run peer memory).2.2 = .ok () ∧
      ((connection.closeWith release).run peer memory).2.1.isClosed = true ∧
      ((connection.closeWith release).run peer memory).2.1.session.transaction? = none := by
  have hstep : connection.closeWith release =
      connection.session.close.lift fun session => { connection with session } := by
    rw [closeWith, Session.closeWith_eq_close, onSession]
  rw [hstep]
  obtain ⟨reply, hfinish⟩ := Step.exists_finish_eq_run
    (connection.session.close.lift fun session => { connection with session }) peer memory
  obtain ⟨hresult, hcalls, hphase, hnone⟩ := h.finish_close reply
  rw [Step.finish_lift, hresult] at hfinish
  obtain ⟨hstate, hok⟩ := Prod.mk.inj hfinish
  rw [← hstate]
  refine ⟨?_, (Option.some.inj hok).symm, Session.isClosed_iff.2 hphase, hnone⟩
  rw [Step.calls_lift, hcalls, Session.heldUrl?, Option.map_map]
  rfl

/-! ## The probe -/

def probeRequest : Request := ⟨[⟨"RETURN 1", [], false⟩]⟩

def probeCall (settings : Settings) : Call :=
  .post (if settings.autoCommit then settings.endpoint.autocommitUrl
    else settings.endpoint.transactionUrl) probeRequest

def firstResult (results : List Envelope) : Except SessionError Envelope :=
  match results.head? with
  | some envelope => .ok envelope
  | none => .error .noResult

theorem allow_probe (settings : Settings) : (ofSettings settings).allow [probe] = .ok () := by
  have hcheck : Guard.check [probe] = .ok () := by
    refine Guard.check_eq_ok_iff.2 fun descriptor hmem => ?_
    rw [List.mem_singleton.1 hmem]
    decide +kernel
  change (if settings.readOnly then Guard.check [probe] else .ok ()) = .ok ()
  rw [hcheck, ite_self]

/-- The probe is allowed in any mode, and makes one call. -/
theorem executeQuery_probe (settings : Settings) :
    (ofSettings settings).executeQuery probe =
      ((Step.wait { (ofSettings settings).session with pending := true } (probeCall settings)
          (((ofSettings settings).session.executing probeRequest).after
            (ofSettings settings).session)).lift
        fun session => { ofSettings settings with session }).map
          fun result => result.bind firstResult := by
  have hready : (ofSettings settings).session.Ready := ⟨by rintro ⟨⟩, rfl⟩
  have hrequest : Request.ofDescriptors [probe] = .ok probeRequest := rfl
  have hcall : Call.post (ofSettings settings).session.executeUrl probeRequest =
      probeCall settings := rfl
  rw [executeQuery, executeQueries, allow_probe, checked, onSession,
    Session.execute_of_ready hready hrequest rfl, Step.map_andThen, hcall, Step.map]
  refine congrArg (Step.andThen _) (funext fun connection => funext fun result => ?_)
  cases result with
  | error error => rfl
  | ok results => cases results <;> rfl

/-- The reply to the probe opens a transaction at a URL. -/
def OpensAt (settings : Settings) (reply : Reply) (url : String) : Prop :=
  settings.autoCommit = false ∧ ∃ raw response, reply = .answered raw ∧
    raw.Confirms 1 response ∧ raw.PointsTo response url

/-- The reply opens a transaction exactly where the session then holds one. -/
theorem opensAt_iff (settings : Settings) {reply : Reply} {url : String} :
    OpensAt settings reply url ↔
      (((ofSettings settings).session.executing probeRequest).after
        (ofSettings settings).session reply).1.heldUrl? = some url := by
  have hpending : (ofSettings settings).session.pending = false := rfl
  have hnone : (ofSettings settings).session.transaction? = none := rfl
  rw [Session.heldUrl?_executing hpending hnone]
  exact Iff.rfl

/-- What a try of a connection comes to, and the calls that it makes. -/
theorem test_recording (connection : Connection) (peer : ε → Call → ε × Reply) (memory : ε)
    (release : Except TransportError Unit) :
    let probed := (connection.executeQuery probe).run peer memory
    let closed := (probed.2.1.closeWith release).run peer probed.1
    let result := closed.2.2.bind fun _ => probed.2.2.map fun _ => ()
    connection.test peer memory release = (closed.1, closed.2.1, result) ∧
      connection.test (Step.recording peer) (memory, []) release =
        ((closed.1, (connection.executeQuery probe).calls ++
          (probed.2.1.closeWith release).calls), closed.2.1, result) := by
  intro probed closed result
  refine ⟨rfl, ?_⟩
  unfold test
  simp only [Step.run_recording, List.nil_append]
  rfl

theorem run_executeQuery_probe (settings : Settings) (peer : ε → Call → ε × Reply) (memory : ε) :
    let connection := ofSettings settings
    let reply := (peer memory (probeCall settings)).2
    let ended := (connection.session.executing probeRequest).after connection.session reply
    (connection.executeQuery probe).calls = [probeCall settings] ∧
      (connection.executeQuery probe).run peer memory =
        ((peer memory (probeCall settings)).1, { connection with session := ended.1 },
          ended.2.bind firstResult) := by
  intro connection reply ended
  rw [executeQuery_probe]
  exact ⟨rfl, rfl⟩

/-- A request with one statement has a first result if it succeeds. -/
theorem bind_firstResult_ne_noResult {session : Session} {request : Request}
    (hpending : session.pending = false) (hnone : session.transaction? = none)
    (hsize : request.size = 1) (reply : Reply) :
    ((session.executing request).after session reply).2.bind firstResult ≠ .error .noResult := by
  have hother : ((session.executing request).after session reply).2 ≠ .error .noResult :=
    Session.ne_noResult_of_executing hpending hnone
  cases hended : ((session.executing request).after session reply).2 with
  | error error =>
    rw [hended] at hother
    exact fun hresult => hother (congrArg Except.error (Except.error.inj hresult))
  | ok results =>
    obtain ⟨raw, response, maxRows, -, hconfirms, rfl⟩ := Session.results_of_executing hended
    obtain ⟨envelope, hresults⟩ := List.length_eq_one_iff.1 (hconfirms.results.trans hsize)
    rw [hresults]
    rintro ⟨⟩

/-- A try of a new connection, told by what its probe comes to. -/
theorem test_new (settings : Settings) (peer : ε → Call → ε × Reply) (memory : ε)
    (release : Except TransportError Unit) :
    let connection := ofSettings settings
    let reply := (peer memory (probeCall settings)).2
    let ended := (connection.session.executing probeRequest).after connection.session reply
    let tested := connection.test (Step.recording peer) (memory, []) release
    tested.1.2 = probeCall settings :: (ended.1.heldUrl?.map fun url => .delete url).toList ∧
      tested.2.1.isClosed = true ∧ tested.2.1.session.transaction? = none ∧
      tested.2.2 = (ended.2.bind firstResult).map (fun _ => ()) ∧
      connection.test peer memory release = (tested.1.1, tested.2) := by
  intro connection reply ended tested
  have hstarts : (Session.Operation.execute [probe]).Starts connection.session
      (connection.session.executing probeRequest) := Session.starts_executing rfl rfl
  have hwellFormed : ended.1.WellFormed :=
    (Session.wellFormed_start settings.endpoint settings.sessionConfig).afterExchange hstarts reply
  obtain ⟨hprobes, hrun⟩ := run_executeQuery_probe settings peer memory
  let next : Connection := { connection with session := ended.1 }
  obtain ⟨hdeletes, hclosed, hisClosed, hnone⟩ := run_closeWith
    (show next.session.WellFormed from hwellFormed) release peer
    (peer memory (probeCall settings)).1
  obtain ⟨hplain, hrecorded⟩ := connection.test_recording peer memory release
  rw [hrun] at hplain
  rw [hrun, hprobes] at hrecorded
  have htested : tested = _ := hrecorded
  rw [htested]
  refine ⟨?_, hisClosed, hnone, ?_, hplain⟩
  · change [probeCall settings] ++ (next.closeWith release).calls = _
    rw [hdeletes]
    rfl
  · change (((next.closeWith release).run peer _).2.2.bind fun _ => _) = _
    rw [hclosed]
    rfl

/-- **The probe leaves nothing behind.** Whatever the settings of a database are, read-only or not,
and however the endpoint behaves: a try of it posts one statement once, to the autocommit URL or,
without autocommit, to the transaction URL. If the reply opens a transaction, which the session then
holds, the try sends one deletion to the URL of that transaction, and it sends nothing else. The
connection is closed and holds nothing then, whatever came of the deletion and of giving the
endpoint back. The try succeeds exactly if the probe does, and otherwise fails with the error of the
probe, which is never the one for a missing result. -/
theorem probe_leaves_nothing (database : Database) :
    let settings := database.settings
    let connection := ofSettings settings
    (∀ (ε : Type) (peer : ε → Call → ε × Reply) (memory : ε)
        (release : Except TransportError Unit),
      let reply := (peer memory (probeCall settings)).2
      let probed := (connection.executeQuery probe).run peer memory
      let tested := connection.test (Step.recording peer) (memory, []) release
      let calls := tested.1.2
      (∀ url, OpensAt settings reply url → calls = [probeCall settings, .delete url]) ∧
        ((∀ url, ¬OpensAt settings reply url) → calls = [probeCall settings]) ∧
        (∀ url, OpensAt settings reply url ↔ probed.2.1.session.heldUrl? = some url) ∧
        tested.2.1.isClosed = true ∧ tested.2.1.session.transaction? = none ∧
        tested.2.2 = probed.2.2.map (fun _ => ()) ∧ probed.2.2 ≠ .error .noResult ∧
        connection.test peer memory release = (tested.1.1, tested.2)) ∧
      ∀ network client, Http.Client.ofSettings settings = .ok client →
        database.test network =
          (((connection.executeQuery probe).run (Http.Client.peer network) client).2.2.map
            fun _ => ()).mapError Failure.session := by
  intro settings connection
  constructor
  · intro ε peer memory release reply probed tested calls
    let ended := (connection.session.executing probeRequest).after connection.session reply
    obtain ⟨hcalls, hclosed, hnone, hresult, hplain⟩ := test_new settings peer memory release
    obtain ⟨-, hrun⟩ := run_executeQuery_probe settings peer memory
    have hprobed : probed = _ := hrun
    have hopens (url : String) : OpensAt settings reply url ↔ ended.1.heldUrl? = some url :=
      opensAt_iff settings
    have hcalls : calls = probeCall settings ::
        (ended.1.heldUrl?.map fun url => .delete url).toList := hcalls
    rw [hprobed]
    refine ⟨fun url hurl => ?_, fun hnowhere => ?_, hopens, hclosed, hnone, hresult, ?_, hplain⟩
    · rw [hcalls, (hopens url).1 hurl]
      rfl
    · have hheld : ended.1.heldUrl? = none := Option.eq_none_iff_forall_ne_some.2
        fun url hurl => hnowhere url ((hopens url).2 hurl)
      rw [hcalls, hheld]
      rfl
    · exact bind_firstResult_ne_noResult rfl rfl rfl reply
  · intro network client hclient
    let peer := Http.Client.peer network
    obtain ⟨-, -, -, hresult, hplain⟩ := test_new settings peer client (.ok ())
    obtain ⟨-, hrun⟩ := run_executeQuery_probe settings peer client
    have hconnect : database.connect = .ok ⟨client, connection⟩ := by
      rw [Database.connect, hclient]
      rfl
    rw [hrun]
    simp only [Database.test, hconnect]
    rw [hplain]
    simp only
    rw [hresult]
    generalize Except.map (fun _ => ()) (Except.bind _ firstResult) = result
    cases result <;> rfl

def sampleOpened : RawResponse where
  status := 201
  location? := some Session.sampleUrl
  body := "\x7b\"results\":[\x7b\x7d]\x7d"

def sampleServer (_ : Unit) : Call → Unit × Reply
  | .post .. => ((), .answered sampleOpened)
  | .delete _ => ((), .failed ⟨.io, "broken pipe"⟩)

/-- On a read-only database without autocommit the probe opens a transaction, and neither the
rollback nor giving the endpoint back succeeds. With autocommit the same server is called once. -/
theorem probe_leaves_nothing_opened :
    let broken : TransportError := ⟨.io, "broken pipe"⟩
    let explicit : Database := ⟨{ sampleSettings with autoCommit := false, readOnly := true }⟩
    let atOnce : Database := ⟨sampleSettings⟩
    let tested := (ofSettings explicit.settings).test (Step.recording sampleServer) ((), [])
      (.error broken)
    let testedAtOnce := (ofSettings atOnce.settings).test (Step.recording sampleServer) ((), [])
      (.ok ())
    tested.1.2 = [probeCall explicit.settings, .delete Session.sampleUrl] ∧
      tested.2.1.isClosed = true ∧ tested.2.1.session.transaction? = none ∧
      tested.2.2 = .ok () ∧ testedAtOnce.1.2 = [probeCall atOnce.settings] ∧
      ∃ client, Http.Client.ofSettings atOnce.settings = .ok client ∧ ∀ network,
        atOnce.test network =
          ((((ofSettings atOnce.settings).executeQuery probe).run (Http.Client.peer network)
            client).2.2.map fun _ => ()).mapError Failure.session := by
  intro broken explicit atOnce
  obtain ⟨hopened, -, -, hclosed, hnone, hresult, -, -⟩ :=
    (probe_leaves_nothing explicit).1 Unit sampleServer () (.error broken)
  have hverdict : sampleOpened.verdict probeRequest 0 = .accepted {
      results := [{}]
      errors := []
      location? := some Session.sampleUrl
      transaction? := some 9
      expires? := none } :=
    RawResponse.verdict_eq_accepted_iff.2 ⟨rfl, rfl⟩
  obtain ⟨response, hconfirms, hpoints⟩ :=
    RawResponse.exists_accepted_at_iff.1 ⟨_, 9, hverdict, rfl, rfl⟩
  have hopens : OpensAt explicit.settings (.answered sampleOpened) Session.sampleUrl :=
    ⟨rfl, sampleOpened, response, rfl, hconfirms, hpoints⟩
  have hended : (((ofSettings explicit.settings).session.executing probeRequest).after
      (ofSettings explicit.settings).session (.answered sampleOpened)).2 = .ok [{}] := by
    change ((ofSettings explicit.settings).session.ranInTransaction
      (sampleOpened.verdict probeRequest 0)).2 = _
    rw [hverdict]
    rfl
  obtain ⟨-, hrun⟩ := run_executeQuery_probe explicit.settings sampleServer ()
  obtain ⟨hnetwork, hatOnce⟩ := (probe_leaves_nothing atOnce).symm
  have hnowhere (url : String) : ¬OpensAt atOnce.settings (.answered sampleOpened) url := by
    rintro ⟨⟨⟩, -⟩
  have hclient : (Http.Client.ofSettings atOnce.settings).isOk = true := by decide +kernel
  refine ⟨hopened Session.sampleUrl hopens, hclosed, hnone, hresult.trans ?_,
    (hatOnce Unit sampleServer () (.ok ())).2.1 hnowhere, ?_⟩
  · rw [hrun]
    exact congrArg (fun result => (result.bind firstResult).map fun _ => ()) hended
  · cases hopen : Http.Client.ofSettings atOnce.settings with
    | ok client => exact ⟨client, rfl, fun network => hnetwork network client hopen⟩
    | error error =>
      rw [hopen] at hclient
      cases hclient

end Connection

end CypherSession
