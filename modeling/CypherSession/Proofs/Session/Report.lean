import CypherSession.Proofs.Session.Transition
import CypherSession.Proofs.Session.Verdict

/-!
# What results report

The result of an exchange is fixed by its verdict up to one thing: a response that is accepted may
still name no transaction, or another one than the session holds. Nothing but an accepted response
leads to results, and nothing but a refused one to the failure of a statement. A rollback alone
passes over an error of the server, the one that says that the transaction is gone.
-/

namespace CypherSession

namespace Exchange

def results (decoded : Decoded) : Exchange → List Envelope
  | atOnce .. | running _ | committing .. => decoded.results
  | opening | keepingAlive | rollingBack _ | closing _ => []

/-- The results that an exchange can give of its verdict. -/
inductive Reports (exchange : Exchange) :
    Verdict → Except SessionError (List Envelope) → Prop where
  | unanswered {error : SessionError} : Reports exchange (.unanswered error) (.error error)
  | senseless {error : SessionError} : Reports exchange (.senseless error) (.error error)
  | refused {decoded : Decoded} {error : ServerError} :
      Reports exchange (.refused decoded error) (.error (decoded.failure error))
  | expired {decoded : Decoded} {error : ServerError} {id : Nat}
      (hgone : error.isTransactionNotFound = true) :
      Reports exchange (.refused decoded error) (.error (.expired id))
  | goneAlready {decoded : Decoded} {error : ServerError} {transaction : Transaction}
      (hrollback : exchange = .rollingBack transaction)
      (hgone : error.isTransactionNotFound = true) :
      Reports exchange (.refused decoded error) (.ok [])
  | accepted {decoded : Decoded} :
      Reports exchange (.accepted decoded) (.ok (exchange.results decoded))
  | unusable {decoded : Decoded} {detail : String} :
      Reports exchange (.accepted decoded) (.error (.protocol detail))

variable {session : Session} {exchange : Exchange}

theorem reports_ranAtOnce (operation : String) (request : Request) (verdict : Verdict) :
    (atOnce operation request).Reports verdict (session.ranAtOnce verdict).2 := by
  cases verdict with
  | unanswered error => exact .unanswered
  | senseless error => exact .senseless
  | refused decoded error => exact .refused
  | accepted decoded => exact .accepted

theorem reports_failed (decoded : Decoded) (error : ServerError) :
    exchange.Reports (.refused decoded error) (session.failed decoded error).2 := by
  cases htransaction : session.transaction? with
  | none =>
    rw [Session.failed_of_none htransaction]
    exact .refused
  | some transaction =>
    rw [Session.failed_of_held htransaction]
    by_cases hgone : error.isTransactionNotFound = true
    · simp only [if_pos hgone]
      exact .expired hgone
    · simp only [if_neg hgone]
      exact .refused

/-- Opening a transaction fails only for want of its identity. -/
theorem result_opened (session : Session) (decoded : Decoded) :
    (session.opened decoded).2 = .ok () ∨ (session.opened decoded).2 = .error .noIdentity := by
  unfold Session.opened
  split
  · exact .inl rfl
  · exact .inr rfl

/-- A request that is accepted returns its results, unless the response names another transaction or
none. -/
theorem result_succeeded (session : Session) (decoded : Decoded) :
    (session.succeeded decoded).2 = .ok decoded.results ∨
      ∃ detail, (session.succeeded decoded).2 = .error (.protocol detail) := by
  cases htransaction : session.transaction? with
  | none =>
    rw [Session.succeeded_of_none htransaction]
    rcases result_opened session decoded with hopened | hopened
    · exact .inl (congrArg (Except.map fun _ => decoded.results) hopened)
    · exact .inr ⟨_, congrArg (Except.map fun _ => decoded.results) hopened⟩
  | some transaction =>
    rcases Session.succeeded_of_held decoded htransaction with ⟨id, -, -, hswitched⟩ | ⟨-, hkept⟩
    · exact .inr ⟨_, congrArg Prod.snd hswitched⟩
    · exact .inl (congrArg Prod.snd hkept)

theorem reports_running (request : Request) (verdict : Verdict) :
    (running request).Reports verdict (session.ranInTransaction verdict).2 := by
  cases verdict with
  | unanswered error => exact .unanswered
  | senseless error => exact .senseless
  | refused decoded error => exact reports_failed decoded error
  | accepted decoded =>
    change (running request).Reports (.accepted decoded) (session.succeeded decoded).2
    rcases result_succeeded session decoded with hok | ⟨detail, herror⟩
    · rw [hok]
      exact .accepted
    · rw [herror]
      exact .unusable

/-- Without its results, what an exchange reports is the same. -/
theorem Reports.withoutResults {verdict : Verdict} {result : Except SessionError (List Envelope)}
    (h : exchange.Reports verdict result) {other : Exchange}
    (hrollback : ∀ transaction, exchange ≠ .rollingBack transaction)
    (hother : ∀ decoded, other.results decoded = []) :
    other.Reports verdict (result.map fun _ => []) := by
  cases h with
  | unanswered => exact .unanswered
  | senseless => exact .senseless
  | refused => exact .refused
  | expired hgone => exact .expired hgone
  | goneAlready heq => exact absurd heq (hrollback _)
  | @accepted decoded =>
    have hresult : other.Reports (.accepted decoded) (.ok (other.results decoded)) := .accepted
    rw [hother] at hresult
    exact hresult
  | unusable => exact .unusable

theorem reports_opening (verdict : Verdict) :
    opening.Reports verdict (withoutResults (session.ranOpening verdict)).2 := by
  cases verdict with
  | unanswered error => exact .unanswered
  | senseless error => exact .senseless
  | refused decoded error => exact .refused
  | accepted decoded =>
    change opening.Reports (.accepted decoded) ((session.opened decoded).2.map fun _ => [])
    rcases result_opened session decoded with hopened | hopened
    · rw [hopened]
      exact .accepted
    · rw [hopened]
      exact .unusable

theorem reports_committing (transaction : Transaction) (request : Request) (verdict : Verdict) :
    (committing transaction request).Reports verdict
      (Session.ranCommit transaction session verdict).2 := by
  cases verdict with
  | unanswered error => exact .unanswered
  | senseless error => exact .senseless
  | refused decoded error =>
    change (committing transaction request).Reports _
      (.error (if error.isTransactionNotFound then .expired transaction.id
        else decoded.failure error))
    by_cases hgone : error.isTransactionNotFound = true
    · rw [if_pos hgone]
      exact .expired hgone
    · rw [if_neg hgone]
      exact .refused
  | accepted decoded => exact .accepted

theorem reports_rollingBack (transaction : Transaction) (verdict : Verdict) :
    (rollingBack transaction).Reports verdict (withoutResults (session.ranRollback verdict)).2 := by
  cases verdict with
  | unanswered error => exact .unanswered
  | senseless error => exact .senseless
  | refused decoded error =>
    change (rollingBack transaction).Reports _
      (Except.map (fun _ => []) (if error.isTransactionNotFound then .ok ()
        else .error (decoded.failure error)))
    by_cases hgone : error.isTransactionNotFound = true
    · rw [if_pos hgone]
      exact .goneAlready rfl hgone
    · rw [if_neg hgone]
      exact .refused
  | accepted decoded => exact .accepted

/-- Every exchange but that of closing, which reports nothing, reports its verdict. -/
theorem reports_atEnd (hclosing : ∀ transaction, exchange ≠ .closing transaction)
    (verdict : Verdict) : exchange.Reports verdict (exchange.atEnd session verdict).2 := by
  cases exchange with
  | atOnce operation request => exact reports_ranAtOnce operation request verdict
  | opening => exact reports_opening verdict
  | running request => exact reports_running request verdict
  | keepingAlive =>
    exact (reports_running .empty verdict).withoutResults nofun fun _ => rfl
  | committing transaction request => exact reports_committing transaction request verdict
  | rollingBack transaction => exact reports_rollingBack transaction verdict
  | closing transaction => exact absurd rfl (hclosing transaction)

/-- Every exchange but that of closing reports what its verdict allows. -/
theorem reports_after (hclosing : ∀ transaction, exchange ≠ .closing transaction)
    (reply : Reply) :
    exchange.Reports (exchange.verdict session reply) (exchange.after session reply).2 :=
  reports_atEnd hclosing (exchange.verdict session reply)

/-- Success comes of accepted responses only, but for rollbacks. -/
theorem Reports.exists_accepted {verdict : Verdict} {results : List Envelope}
    (h : exchange.Reports verdict (.ok results))
    (hrollback : ∀ transaction, exchange ≠ .rollingBack transaction) :
    ∃ decoded, verdict = .accepted decoded ∧ exchange.results decoded = results := by
  cases h with
  | goneAlready heq => exact absurd heq (hrollback _)
  | accepted => exact ⟨_, rfl, rfl⟩

/-- The errors of an exchange: of a request without an answer, of an answer that breaks the
protocol, and what the server reports. -/
theorem Reports.error_cases {reply : Reply} {error : SessionError}
    (h : exchange.Reports (exchange.verdict session reply) (.error error)) :
    error.IsUnanswered exchange.operation ∨ (∃ detail, error = .protocol detail) ∨
      ∃ decoded serverError, exchange.verdict session reply = .refused decoded serverError ∧
        (error = decoded.failure serverError ∨
          serverError.isTransactionNotFound = true ∧ ∃ id, error = .expired id) := by
  generalize hverdict : exchange.verdict session reply = verdict,
    hresult : Except.error error = result at h
  cases h with
  | unanswered =>
    cases hresult
    exact .inl (Reply.isUnanswered_of_verdict hverdict)
  | senseless =>
    cases hresult
    exact .inr (.inl (Reply.eq_protocol_of_verdict hverdict))
  | @refused decoded serverError =>
    cases hresult
    exact .inr (.inr ⟨decoded, serverError, rfl, .inl rfl⟩)
  | @expired decoded serverError id hgone =>
    cases hresult
    exact .inr (.inr ⟨decoded, serverError, rfl, .inr ⟨hgone, id, rfl⟩⟩)
  | unusable =>
    cases hresult
    exact .inr (.inl ⟨_, rfl⟩)
  | goneAlready | accepted => cases hresult

/-- A failed statement is one that a response reports first. -/
theorem Reports.exists_refused {reply : Reply} {failure : StatementFailure}
    (h : exchange.Reports (exchange.verdict session reply) (.error (.statement failure))) :
    ∃ raw decoded error, reply = .answered raw ∧
      Decoded.ofRaw raw (exchange.call session).request (exchange.maxRows session) = .ok decoded ∧
      decoded.firstError? = some error ∧ decoded.failure error = .statement failure := by
  rcases h.error_cases with (⟨cause, ⟨⟩⟩ | ⟨detail, ⟨⟩⟩) | ⟨detail, ⟨⟩⟩ |
    ⟨decoded, error, hverdict, hfailure | ⟨-, id, ⟨⟩⟩⟩
  obtain ⟨raw, hreply, hraw⟩ := Reply.exists_answered_of_verdict hverdict nofun
  obtain ⟨hdecoded, herror⟩ := RawResponse.verdict_eq_refused_iff.1 hraw
  exact ⟨raw, decoded, error, hreply, hdecoded, herror, hfailure.symm⟩

end Exchange

theorem Session.Operation.Starts.ne_closing {session : Session} {operation : Operation}
    {exchange : Exchange} (h : operation.Starts session exchange) (hclose : operation ≠ .close)
    (transaction : Transaction) : exchange ≠ .closing transaction := by
  rintro rfl
  cases h with
  | close => exact hclose rfl

end CypherSession
