import CypherSession.Proofs.Session.WellFormed
import CypherSession.Proofs.Statement.Encoding

/-!
# What errors leave

An error that the server reports, or that its response amounts to, leaves no transaction held. The
errors that may leave one are those of requests that were not sent and of requests that were not
answered. A call that was abandoned cannot be told from one that was not answered; so its
transaction does not last beyond the next operation that asks for it.
-/

namespace CypherSession

namespace SessionError

/-- An error that the server reports, or that its response amounts to. -/
def IsReported : SessionError → Prop
  | statement _ | protocol _ | expired _ => True
  | _ => False

def IsLocal (error : SessionError) : Prop :=
  (∃ value, error = .nonFinite value) ∨ (∃ cause, error = .transport cause) ∨
    ∃ operation detail, error = .ambiguous operation detail

theorem IsLocal.not_isReported {error : SessionError} (h : error.IsLocal) : ¬error.IsReported := by
  rcases h with ⟨value, rfl⟩ | ⟨cause, rfl⟩ | ⟨operation, detail, rfl⟩ <;> exact id

theorem IsUnanswered.isLocal {error : SessionError} {operation : String}
    (h : error.IsUnanswered operation) : error.IsLocal := by
  rcases h with hsurely | ⟨detail, rfl⟩
  · exact .inr (.inl hsurely)
  · exact .inr (.inr ⟨operation, detail, rfl⟩)

end SessionError

namespace Session

variable {session : Session} {operation : Operation} {ending : Ending} {exchange : Exchange}
  {error : SessionError}

theorem Operation.eq_nonFinite_of_request (h : operation.request = .error error) :
    ∃ value, error = .nonFinite value := by
  cases operation with
  | execute descriptors | commit descriptors => exact Request.eq_nonFinite_of_ofDescriptors h
  | setAutoCommit | begin | keepAlive | rollback | close => cases h

theorem transaction?_discard (session : Session) : session.discard.transaction? = none := by
  cases htransaction : session.transaction? with
  | none => rw [discard_of_none htransaction, ← htransaction]
  | some transaction =>
    rw [discard_of_held htransaction]
    rfl

/-- A response whose transaction cannot be held leaves the session as it was. -/
theorem opened_of_error {decoded : Decoded} (h : (session.opened decoded).2 = .error error) :
    (session.opened decoded).1 = session := by
  unfold Session.opened at h ⊢
  split
  · rename_i hid hurl
    simp only [hid, hurl] at h
    cases h
  · rfl

/-- An error in a transaction gives it up, if a response is the reason. -/
theorem gone_of_ranInTransaction {verdict : Verdict}
    (h : (session.ranInTransaction verdict).2 = .error error) :
    (session.ranInTransaction verdict).1.transaction? = none ∨ verdict = .unanswered error := by
  cases verdict with
  | unanswered other =>
    cases h
    exact .inr rfl
  | senseless other => exact .inl (transaction?_discard session)
  | refused decoded other =>
    left
    change (session.failed decoded other).1.transaction? = none
    cases htransaction : session.transaction? with
    | some transaction =>
      rw [failed_of_held htransaction]
      rfl
    | none =>
      rw [failed_of_none htransaction]
      split
      · rfl
      · exact htransaction
  | accepted decoded =>
    left
    change (session.succeeded decoded).2 = .error error at h
    change (session.succeeded decoded).1.transaction? = none
    cases htransaction : session.transaction? with
    | none =>
      rw [succeeded_of_none htransaction] at h ⊢
      rw [opened_of_error (Result.map_eq_error_iff.1 h)]
      exact htransaction
    | some transaction =>
      rcases succeeded_of_held decoded htransaction with ⟨id, -, -, hswitched⟩ | ⟨-, hkept⟩
      · rw [hswitched]
        exact transaction?_discard session
      · rw [hkept] at h
        cases h

theorem gone_of_ranCommit {transaction : Transaction} {verdict : Verdict}
    (h : (ranCommit transaction session verdict).2 = .error error) :
    (ranCommit transaction session verdict).1.transaction? = none ∨ verdict = .unanswered error := by
  cases verdict with
  | unanswered other =>
    cases h
    exact .inr rfl
  | senseless other => exact .inl (transaction?_discard session)
  | refused decoded other => exact .inl rfl
  | accepted decoded => cases h

theorem gone_of_ranRollback {verdict : Verdict}
    (h : (session.ranRollback verdict).2 = .error error) :
    (session.ranRollback verdict).1.transaction? = none ∨ verdict = .unanswered error := by
  cases verdict with
  | unanswered other =>
    cases h
    exact .inr rfl
  | senseless | refused | accepted => exact .inl rfl

/-- If an exchange fails, nothing is held after it, or there was no response. -/
theorem gone_of_exchange (h : session.WellFormed) (hstarts : operation.Starts session exchange)
    {reply : Reply} (herror : (exchange.after session reply).2 = .error error) :
    (exchange.after session reply).1.transaction? = none ∨
      exchange.verdict session reply = .unanswered error := by
  unfold Exchange.after at herror ⊢
  generalize exchange.verdict session reply = verdict at herror ⊢
  cases hstarts with
  | executeAtOnce _ _ hauto =>
    have hnone := h.transaction_of_autoCommit hauto
    cases verdict <;> exact .inl hnone
  | commitAtOnce _ _ hnone => cases verdict <;> exact .inl hnone
  | begin _ hphase | executeNothing _ _ _ hphase =>
    have hnone := h.transaction_of_not_held hphase
    cases verdict with
    | unanswered | senseless | refused => exact .inl hnone
    | accepted decoded =>
      have hopened := opened_of_error (Result.map_eq_error_iff.1 herror)
      exact .inl ((congrArg Session.transaction? hopened).trans hnone)
  | execute => exact gone_of_ranInTransaction herror
  | keepAlive => exact gone_of_ranInTransaction (Result.map_eq_error_iff.1 herror)
  | commit => exact gone_of_ranCommit herror
  | rollback => exact gone_of_ranRollback (Result.map_eq_error_iff.1 herror)
  | close => cases herror

/-- An error is one of the session's own, or nothing is held after it. -/
theorem gone_of_transition (h : session.WellFormed) {next : Session}
    {result? : Option (Except SessionError (List Envelope))} {calls : List Call}
    (htransition : Transition session operation ending next result? calls)
    (herror : result? = some (.error error)) :
    next.transaction? = none ∨ error.IsLocal ∨
      (error = .transactionOpen ∧ ¬operation.IsGuarded) := by
  cases htransition with
  | closed hclosed => exact .inl (h.transaction_of_closed hclosed)
  | reported => exact .inl (transaction?_discard session)
  | unsendable _ _ hrequest =>
    cases herror
    exact .inr (.inl (.inl (Operation.eq_nonFinite_of_request hrequest)))
  | unswitched =>
    cases herror
    exact .inr (.inr ⟨rfl, id⟩)
  | closedAgain | switched | nothing | shut | paused => cases herror
  | replied _ _ hexchange =>
    have hstarts := Operation.starts_of_exchange? hexchange
    rcases gone_of_exchange h hstarts (Option.some.inj herror) with hnone | hverdict
    · exact .inl hnone
    · exact .inr (.inl (Reply.isUnanswered_of_verdict hverdict).isLocal)

/-! ## Abandoned calls -/

theorem paused_of_abandoned {next : Session}
    {result? : Option (Except SessionError (List Envelope))} {calls : List Call}
    (htransition : Transition session operation ending next result? calls)
    (habandoned : result? = none) :
    session.phase ≠ .closed ∧ next = { session with pending := true } := by
  cases htransition with
  | paused hopen => exact ⟨hopen, rfl⟩
  | _ => cases habandoned

/-- An operation without a result has left its call pending. -/
theorem pending_of_abandoned {next : Session}
    {result? : Option (Except SessionError (List Envelope))} {calls : List Call}
    (htransition : Transition session operation ending next result? calls)
    (habandoned : result? = none) : next.pending = true := by
  rw [(paused_of_abandoned htransition habandoned).2]

/-- While an abandoned call is not reported, its transaction is held or closed with the session. -/
theorem pending_or_gone (hpending : session.pending = true) {next : Session}
    {result? : Option (Except SessionError (List Envelope))} {calls : List Call}
    (htransition : Transition session operation ending next result? calls) :
    next.pending = true ∨ next.transaction? = none := by
  cases htransition with
  | closed | closedAgain | unsendable | switched | unswitched | nothing => exact .inl hpending
  | paused => exact .inl rfl
  | reported => exact .inr (transaction?_discard session)
  | shut => exact .inr rfl
  | replied _ hnotPending hexchange =>
    by_cases hclose : operation = .close
    · subst hclose
      cases Operation.starts_of_exchange? hexchange with
      | close => exact .inr rfl
    · rw [hnotPending hclose] at hpending
      cases hpending

/-- Only closing succeeds, or the change of the mode, before an abandoned call is reported. -/
theorem not_pending_of_ok (hguarded : operation.IsGuarded) {next : Session}
    {result? : Option (Except SessionError (List Envelope))} {calls : List Call}
    (htransition : Transition session operation ending next result? calls)
    {results : List Envelope} (hok : result? = some (.ok results)) : session.pending = false := by
  cases htransition with
  | closed | reported | unsendable | unswitched | paused => cases hok
  | closedAgain | switched | shut => exact hguarded.elim
  | nothing hready => exact hready.notPending
  | replied _ hnotPending => exact hnotPending hguarded.ne_close

end Session

end CypherSession
