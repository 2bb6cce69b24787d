import CypherSession.Proofs.Response.RowLimit
import CypherSession.Proofs.Response.Status
import CypherSession.Proofs.Session.Errors
import CypherSession.Proofs.Session.Report

/-!
# Transactions that have expired

An operation in a transaction reports that the transaction has expired if the first error of the
response says so, and for no other reason. A rollback takes the same response for a success, and
where no transaction is held it is an error like any other.
-/

namespace CypherSession

/-! ## Responses -/

/-- The response decodes, and its first error says that the transaction is gone. -/
structure RawResponse.SaysGone (raw : RawResponse) (request : Request) (maxRows : Nat)
    (decoded : Decoded) (error : ServerError) : Prop where
  decodes : Decoded.ofRaw raw request maxRows = .ok decoded
  first : decoded.firstError? = some error
  gone : error.code = ServerError.transactionNotFoundCode ∨
    error.code = ServerError.unknownIdCode

theorem ServerError.isTransactionNotFound_iff {error : ServerError} :
    error.isTransactionNotFound = true ↔
      error.code = transactionNotFoundCode ∨ error.code = unknownIdCode := by
  simp [isTransactionNotFound]

namespace RawResponse

variable {raw : RawResponse} {request : Request} {maxRows : Nat} {decoded : Decoded}
  {error : ServerError}

theorem SaysGone.isTransactionNotFound (h : raw.SaysGone request maxRows decoded error) :
    error.isTransactionNotFound = true :=
  ServerError.isTransactionNotFound_iff.2 h.gone

/-- A response that says so is refused, with an error that says so. -/
theorem saysGone_iff_verdict :
    raw.SaysGone request maxRows decoded error ↔
      raw.verdict request maxRows = .refused decoded error ∧
        error.isTransactionNotFound = true := by
  rw [verdict_eq_refused_iff, ServerError.isTransactionNotFound_iff]
  exact ⟨fun h => ⟨⟨h.decodes, h.first⟩, h.gone⟩, fun h => ⟨h.1.1, h.1.2, h.2⟩⟩

theorem locate?_transactionNotFound (raw : RawResponse) :
    Decoded.locate? raw Response.transactionNotFound = raw.location? := by
  unfold Decoded.locate?
  exact Option.or_none

/-- Such a response decodes unless its location is not that of a transaction. -/
theorem exists_saysGone_iff_of_notFound (hstatus : raw.status = 404)
    (herrors : ¬raw.ReportsErrors) (request : Request) (maxRows : Nat) :
    (∃ decoded error, raw.SaysGone request maxRows decoded error) ↔
      ∀ url, raw.location? = some url → ∃ id, TransactionUrl.number url = .ok id := by
  have hresponse := ofRaw_of_notFound hstatus herrors
  have hlocate := locate?_transactionNotFound raw
  constructor
  · rintro ⟨decoded, error, hgone⟩ url hurl
    obtain ⟨response, id?, ⟨hother, -, hidentify⟩, -⟩ := Decoded.ofRaw_eq_ok_iff.1 hgone.decodes
    cases hresponse.symm.trans hother
    rw [hlocate] at hidentify
    rcases Decoded.identify_eq_ok_iff.1 hidentify with ⟨hnone, -⟩ | ⟨own, id, hown, -, hnumber⟩
    · rw [hurl] at hnone
      cases hnone
    · rw [hurl] at hown
      cases hown
      exact ⟨id, hnumber⟩
  · intro hnamed
    have hidentify : ∃ id?, Decoded.identify raw.location? = .ok id? := by
      cases hurl : raw.location? with
      | none => exact ⟨none, rfl⟩
      | some url =>
        obtain ⟨id, hnumber⟩ := hnamed url hurl
        exact ⟨some id, Decoded.identify_eq_ok_iff.2 (.inr ⟨url, id, rfl, rfl, hnumber⟩)⟩
    obtain ⟨id?, hidentify⟩ := hidentify
    have hcount : Decoded.checkCount request Response.transactionNotFound = .ok () :=
      Decoded.checkCount_eq_ok_iff.2 ⟨Nat.zero_le _, nofun⟩
    have hpasses : Decoded.Passes raw request Response.transactionNotFound id? :=
      ⟨hresponse, hcount, by rw [hlocate, hidentify]⟩
    exact ⟨_, _, Decoded.ofRaw_eq_ok_iff.2 ⟨_, id?, hpasses, rfl⟩, rfl, .inl rfl⟩

end RawResponse

/-! ## Exchanges -/

namespace Session

variable {session : Session} {operation : Operation} {exchange : Exchange} {decoded : Decoded}
  {error : ServerError} {transaction : Transaction}

def Operation.GoesOn : Operation → Prop
  | .execute _ | .keepAlive | .commit _ => True
  | _ => False

/-- An operation that goes on with a transaction fails as expired if the response says that it is
gone, and the transaction counts as rolled back. -/
theorem atEnd_of_goesOn (h : session.WellFormed) (hstarts : operation.Starts session exchange)
    (hgoesOn : operation.GoesOn) (hheld : session.transaction? = some transaction)
    (hgone : error.isTransactionNotFound = true) (decoded : Decoded) :
    exchange.atEnd session (.refused decoded error) =
      (session.settle .rolledBack, .error (.expired transaction.id)) := by
  have hfailed : session.failed decoded error =
      (session.settle .rolledBack, .error (.expired transaction.id)) := by
    rw [failed_of_held hheld, if_pos hgone]
  cases hstarts with
  | executeAtOnce _ _ hauto =>
    rw [h.autoCommit_eq_false hheld] at hauto
    cases hauto
  | commitAtOnce _ _ hnone =>
    rw [hheld] at hnone
    cases hnone
  | executeNothing _ _ _ hphase => exact absurd (h.phase_eq_held hheld) hphase
  | execute => exact hfailed
  | keepAlive => exact congrArg withoutResults hfailed
  | commit _ hown =>
    rw [hheld] at hown
    cases hown
    change (session.settle .rolledBack, Except.error _) = _
    rw [if_pos hgone]
  | begin | rollback | close => exact hgoesOn.elim

/-- With a transaction, all other exchanges are for its rollback. -/
theorem goesOn_of_held (h : session.WellFormed) (hstarts : operation.Starts session exchange)
    (hheld : session.transaction? = some transaction) :
    operation.GoesOn ∨ operation = .rollback ∨ operation = .close := by
  cases hstarts with
  | begin _ hphase => exact absurd (h.phase_eq_held hheld) hphase
  | executeAtOnce | commitAtOnce | executeNothing | execute | keepAlive | commit =>
    exact .inl trivial
  | rollback => exact .inr (.inl rfl)
  | close => exact .inr (.inr rfl)

/-- For a rollback, a transaction that is gone is one that is rolled back. -/
theorem atEnd_of_rollback (hstarts : Operation.rollback.Starts session exchange)
    (hgone : error.isTransactionNotFound = true) (decoded : Decoded) :
    exchange.atEnd session (.refused decoded error) = (session.settle .rolledBack, .ok []) := by
  cases hstarts with
  | rollback =>
    have hgoneAlready : session.ranRollback (.refused decoded error) =
        (session.settle .rolledBack, .ok ()) := by
      simp only [ranRollback, if_pos hgone]
    exact congrArg withoutResults hgoneAlready

/-- Closing succeeds whatever the response says. -/
theorem atEnd_of_close (hstarts : Operation.close.Starts session exchange) (seen : Session)
    (verdict : Verdict) : (exchange.atEnd seen verdict).2 = .ok [] := by
  cases hstarts with
  | close => rfl

/-- Where no transaction is held none can have expired: the error is that of a statement. -/
theorem atEnd_of_none (hstarts : operation.Starts session exchange)
    (hnone : session.transaction? = none) (decoded : Decoded) (error : ServerError) :
    (exchange.atEnd session (.refused decoded error)).2 = .error (decoded.failure error) := by
  cases hstarts with
  | executeAtOnce | commitAtOnce | begin | executeNothing => rfl
  | execute => exact congrArg Prod.snd (failed_of_none hnone)
  | keepAlive hheld | commit _ hheld | rollback hheld | close hheld =>
    rw [hnone] at hheld
    cases hheld

/-- Nothing but such a response makes an exchange report that a transaction has expired. -/
theorem exists_refused_of_expired {reply : Reply} {id : Nat}
    (h : exchange.Reports (exchange.verdict session reply) (.error (.expired id))) :
    ∃ decoded error, exchange.verdict session reply = .refused decoded error ∧
      error.isTransactionNotFound = true := by
  rcases h.error_cases with (⟨cause, ⟨⟩⟩ | ⟨detail, ⟨⟩⟩) | ⟨detail, ⟨⟩⟩ |
    ⟨decoded, error, hverdict, hfailure | ⟨hgone, -⟩⟩
  · cases hfailure
  · exact ⟨decoded, error, hverdict, hgone⟩

/-! ## Events -/

/-- The call of an event is answered, and the first error of the response says that the transaction
is gone. -/
def LearnsGone (session : Session) (event : Event) (decoded : Decoded) (error : ServerError) :
    Prop :=
  ∃ call raw, session.calls event = [call] ∧ event.ending = .replied (.answered raw) ∧
    raw.SaysGone call.request session.config.maxRows decoded error

/-- The limit on rows makes no difference where there are no rows. -/
theorem Operation.Starts.saysGone_iff (h : operation.Starts session exchange) {raw : RawResponse} :
    raw.SaysGone (exchange.call session).request session.config.maxRows decoded error ↔
      raw.SaysGone (exchange.call session).request (exchange.maxRows session) decoded error := by
  cases h with
  | rollback | close =>
    have hlimit := Decoded.ofRaw_empty raw session.config.maxRows
    constructor
    · exact fun hgone => ⟨hlimit.symm.trans hgone.decodes, hgone.first, hgone.gone⟩
    · exact fun hgone => ⟨hlimit.trans hgone.decodes, hgone.first, hgone.gone⟩
  | _ => exact Iff.rfl

/-- What such an event comes to is the end of an exchange. -/
theorem LearnsGone.exists_exchange {event : Event}
    (h : session.LearnsGone event decoded error) (hready : session.pending = false) :
    ∃ exchange, event.operation.Starts session exchange ∧
      session.after event = (exchange.atEnd session (.refused decoded error)).1 ∧
      session.result? event = some (exchange.atEnd session (.refused decoded error)).2 := by
  obtain ⟨call, raw, hcalls, hending, hgone⟩ := h
  have htransition := session.transition event
  generalize session.after event = next, session.result? event = result? at htransition ⊢
  rw [hcalls, hending] at htransition
  generalize event.operation = operation at htransition ⊢
  cases htransition with
  | @replied _ exchange _ hopen hpending hexchange =>
    have hstarts := Operation.starts_of_exchange? hexchange
    have hverdict : exchange.verdict session (.answered raw) = .refused decoded error :=
      (RawResponse.saysGone_iff_verdict.1 (hstarts.saysGone_iff.1 hgone)).1
    rw [Exchange.after_of_not_pending hready, hverdict]
    exact ⟨exchange, hstarts, rfl, rfl⟩

theorem LearnsGone.isTransactionNotFound {event : Event}
    (h : session.LearnsGone event decoded error) : error.isTransactionNotFound = true := by
  obtain ⟨call, raw, -, -, hgone⟩ := h
  exact hgone.isTransactionNotFound

/-- An operation that fails as expired has been told so by a response. -/
theorem exists_learnsGone_of_expired {event : Event} {id : Nat}
    (h : session.result? event = some (.error (.expired id))) :
    ∃ decoded error, session.LearnsGone event decoded error := by
  have htransition := session.transition event
  unfold LearnsGone
  rw [h] at htransition
  generalize hresult : some (Except.error (SessionError.expired id)) = result?,
    session.after event = next, session.calls event = calls, event.ending = ending,
    event.operation = operation at htransition ⊢
  cases htransition with
  | closed | closedAgain | reported | switched | unswitched | nothing | shut | paused =>
    cases hresult
  | unsendable _ _ hrequest =>
    cases hresult
    obtain ⟨value, herror⟩ := Operation.eq_nonFinite_of_request hrequest
    cases herror
  | @replied _ exchange reply hopen hpending hexchange =>
    have hstarts := Operation.starts_of_exchange? hexchange
    have hclose : operation ≠ .close := by
      rintro rfl
      rw [Exchange.after, atEnd_of_close hstarts] at hresult
      cases hresult
    have hreports : exchange.Reports (exchange.verdict session reply)
        (exchange.after session reply).2 :=
      Exchange.reports_after (hstarts.ne_closing hclose) reply
    rw [← Option.some.inj hresult] at hreports
    obtain ⟨decoded, error, hverdict, hgone⟩ := exists_refused_of_expired hreports
    obtain ⟨raw, rfl, hraw⟩ := Reply.exists_answered_of_verdict hverdict nofun
    have hsays := RawResponse.saysGone_iff_verdict.2 ⟨hraw, hgone⟩
    exact ⟨decoded, error, _, raw, rfl, rfl, hstarts.saysGone_iff.2 hsays⟩

/-- An operation fails as expired exactly if it goes on with a transaction, and the response says
that this one is gone. -/
theorem eq_expired_iff (h : session.WellFormed) (hready : session.pending = false)
    (event : Event) (id : Nat) :
    session.result? event = some (.error (.expired id)) ↔
      event.operation.GoesOn ∧
        (∃ transaction, session.transaction? = some transaction ∧ transaction.id = id) ∧
        ∃ decoded error, session.LearnsGone event decoded error := by
  constructor
  · intro hexpired
    obtain ⟨decoded, error, hlearns⟩ := exists_learnsGone_of_expired hexpired
    have hgone := hlearns.isTransactionNotFound
    obtain ⟨exchange, hstarts, -, hresult⟩ := hlearns.exists_exchange hready
    rw [hexpired] at hresult
    cases hheld : session.transaction? with
    | none =>
      rw [atEnd_of_none hstarts hheld] at hresult
      cases hresult
    | some transaction =>
      rcases goesOn_of_held h hstarts hheld with hgoesOn | hrollback | hclose
      · rw [atEnd_of_goesOn h hstarts hgoesOn hheld hgone] at hresult
        cases hresult
        exact ⟨hgoesOn, ⟨transaction, rfl, rfl⟩, decoded, error, hlearns⟩
      · rw [hrollback] at hstarts
        rw [atEnd_of_rollback hstarts hgone] at hresult
        cases hresult
      · rw [hclose] at hstarts
        rw [atEnd_of_close hstarts] at hresult
        cases hresult
  · rintro ⟨hgoesOn, ⟨transaction, hheld, rfl⟩, decoded, error, hlearns⟩
    obtain ⟨exchange, hstarts, -, hresult⟩ := hlearns.exists_exchange hready
    rw [hresult, atEnd_of_goesOn h hstarts hgoesOn hheld hlearns.isTransactionNotFound]

/-- **When a transaction has expired.** With nothing pending, an operation reports that a
transaction has expired exactly if it goes on with that transaction and the first error of the
response says that it is gone; the session gives the transaction up and counts it as rolled back. A
rollback that learns the same succeeds and leaves the same session. An operation without a
transaction fails like any statement. A response that says that nothing was found is of this kind
unless its body reports errors, if it decodes at all. -/
theorem expired_iff_gone (endpoint : Endpoint) (config : SessionConfig) (past : List Event) :
    let session := (start endpoint config).afterAll past
    session.pending = false → ∀ event,
      (∀ id, session.result? event = some (.error (.expired id)) ↔
        event.operation.GoesOn ∧
          (∃ transaction, session.transaction? = some transaction ∧ transaction.id = id) ∧
          ∃ decoded error, session.LearnsGone event decoded error) ∧
      (∀ decoded error, session.LearnsGone event decoded error →
        (session.transaction?.isSome → event.operation.GoesOn ∨ event.operation = .rollback →
          session.after event = { session with
            phase := .idle, transaction? := none, lastOutcome? := some .rolledBack }) ∧
        (session.transaction?.isSome → event.operation = .rollback →
          session.result? event = some (.ok [])) ∧
        (session.transaction? = none → ∃ failure,
          session.result? event = some (.error (.statement failure)) ∧
            failure.code = error.code ∧ failure.message = error.message)) ∧
      ∀ (raw : RawResponse) request maxRows, raw.status = 404 → ¬raw.ReportsErrors →
        ((∃ decoded error, raw.SaysGone request maxRows decoded error) ↔
          ∀ url, raw.location? = some url → ∃ id, TransactionUrl.number url = .ok id) := by
  intro session hready event
  have h : session.WellFormed := wellFormed_of_run endpoint config past
  refine ⟨eq_expired_iff h hready event, ?_, fun raw request maxRows hstatus herrors =>
    RawResponse.exists_saysGone_iff_of_notFound hstatus herrors request maxRows⟩
  intro decoded error hlearns
  have hgone := hlearns.isTransactionNotFound
  obtain ⟨exchange, hstarts, hafter, hresult⟩ := hlearns.exists_exchange hready
  refine ⟨fun hsome hoperation => ?_, fun _ hrollback => ?_, fun hnone => ?_⟩
  · obtain ⟨transaction, hheld⟩ := Option.isSome_iff_exists.1 hsome
    rcases hoperation with hgoesOn | hrollback
    · exact hafter.trans (congrArg Prod.fst (atEnd_of_goesOn h hstarts hgoesOn hheld hgone decoded))
    · rw [hrollback] at hstarts
      exact hafter.trans (congrArg Prod.fst (atEnd_of_rollback hstarts hgone decoded))
  · rw [hrollback] at hstarts
    exact hresult.trans
      (congrArg (fun ended => some (Prod.snd ended)) (atEnd_of_rollback hstarts hgone decoded))
  · exact ⟨_, hresult.trans (congrArg some (atEnd_of_none hstarts hnone decoded error)), rfl, rfl⟩

/-- Keeping a transaction alive or rolling it back, when the server does not find it. -/
theorem expired_iff_gone_not_found :
    let session := (start sampleEndpoint sampleConfig).afterAll [sampleOpening]
    let notFound : RawResponse := { status := 404, body := "" }
    session.pending = false ∧
      session.result? ⟨.keepAlive, .replied (.answered notFound)⟩ =
        some (.error (.expired 9)) ∧
      session.result? ⟨.rollback, .replied (.answered notFound)⟩ = some (.ok []) ∧
      (session.after ⟨.keepAlive, .replied (.answered notFound)⟩).lastOutcome? =
        some .rolledBack := by
  intro session notFound
  have hready : session.pending = false := rfl
  have hevent := expired_iff_gone sampleEndpoint sampleConfig [sampleOpening] hready
  have hsilent : ¬notFound.ReportsErrors := by
    rintro ⟨response, hread, -⟩
    cases hread
  obtain ⟨decoded, error, hsays⟩ :=
    ((hevent ⟨.keepAlive, .abandoned⟩).2.2 notFound .empty 0 rfl hsilent).2 nofun
  have hkeepAlive : session.LearnsGone ⟨.keepAlive, .replied (.answered notFound)⟩ decoded error :=
    ⟨_, notFound, rfl, rfl, hsays⟩
  have hrollback : session.LearnsGone ⟨.rollback, .replied (.answered notFound)⟩ decoded error :=
    ⟨_, notFound, rfl, rfl, hsays⟩
  obtain ⟨hexpired, hlearns, -⟩ := hevent ⟨.keepAlive, .replied (.answered notFound)⟩
  obtain ⟨-, hrolledBack, -⟩ := hevent ⟨.rollback, .replied (.answered notFound)⟩
  refine ⟨hready, (hexpired 9).2 ⟨trivial, ⟨_, rfl, rfl⟩, decoded, error, hkeepAlive⟩, ?_, ?_⟩
  · exact (hrolledBack decoded error hrollback).2.1 rfl rfl
  · rw [(hlearns decoded error hkeepAlive).1 rfl (.inl trivial)]

end Session

end CypherSession
