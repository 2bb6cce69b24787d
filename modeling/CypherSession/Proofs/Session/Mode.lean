import CypherSession.Proofs.Session.Report
import CypherSession.Proofs.Statement.Encoding

/-!
# What a response reports, in every mode

The mode of a session and the transaction that it holds decide where a request goes. They do not
decide what its response reports: each end of an exchange reports the verdict as it is, unless the
response says something of the transaction itself. One that is held can be gone or be another one,
and one that was to be opened has to be named.
-/

namespace CypherSession

def Verdict.report : Verdict → Except SessionError (List Envelope)
  | unanswered error | senseless error => .error error
  | refused decoded error => .error (decoded.failure error)
  | accepted decoded => .ok decoded.results

namespace RawResponse

/-- What a response reports by itself: the results of the statements, the failure of one of them, or
that it makes no sense. -/
def report (raw : RawResponse) (request : Request) (maxRows : Nat) :
    Except SessionError (List Envelope) := do
  let decoded ← Decoded.ofRaw raw request maxRows
  match decoded.firstError? with
  | some error => .error (decoded.failure error)
  | none => .ok decoded.results

/-- If it decodes, the response does not say that the transaction is gone, and it names no other. -/
def KeepsTo (raw : RawResponse) (request : Request) (maxRows id : Nat) : Prop :=
  ∀ decoded, Decoded.ofRaw raw request maxRows = .ok decoded →
    (∀ error, decoded.firstError? = some error → error.isTransactionNotFound = false) ∧
      (decoded.transaction? = none ∨ decoded.transaction? = some id)

/-- If it decodes, the response reports an error or names a transaction. -/
def FailsOrNames (raw : RawResponse) (request : Request) (maxRows : Nat) : Prop :=
  ∀ decoded, Decoded.ofRaw raw request maxRows = .ok decoded →
    decoded.errors ≠ [] ∨ ∃ id, decoded.transaction? = some id

variable {raw : RawResponse} {request : Request} {maxRows : Nat}

theorem report_verdict (raw : RawResponse) (request : Request) (maxRows : Nat) :
    (raw.verdict request maxRows).report = raw.report request maxRows := by
  unfold verdict report
  cases Decoded.ofRaw raw request maxRows with
  | error error => rfl
  | ok decoded =>
    change Verdict.report (match decoded.firstError? with
        | some error => .refused decoded error
        | none => .accepted decoded) =
      match decoded.firstError? with
        | some error => .error (decoded.failure error)
        | none => .ok decoded.results
    cases decoded.firstError? with
    | some error => rfl
    | none => rfl

/-- A response that decodes without an error has a location if it names a transaction. -/
theorem exists_location_of_accepted {decoded : Decoded} {id : Nat}
    (hverdict : raw.verdict request maxRows = .accepted decoded)
    (hid : decoded.transaction? = some id) : ∃ url, decoded.location? = some url := by
  rcases Decoded.number_of_ofRaw (verdict_eq_accepted_iff.1 hverdict).1 with
    ⟨-, hnone⟩ | ⟨url, -, hurl, -, -⟩
  · rw [hid] at hnone
    cases hnone
  · exact ⟨url, hurl⟩

end RawResponse

namespace Session

variable {session : Session} {transaction : Transaction} {raw : RawResponse} {request : Request}
  {maxRows : Nat}

/-! ## The ends of exchanges -/

/-- A request that runs at once returns what the response reports. -/
theorem ranAtOnce_report (session : Session) (verdict : Verdict) :
    (session.ranAtOnce verdict).2 = verdict.report := by
  cases verdict <;> rfl

/-- A request that runs in a transaction returns what the response reports, if this keeps to the
transaction. -/
theorem ranInTransaction_report_of_held (hheld : session.transaction? = some transaction)
    (hkeeps : raw.KeepsTo request maxRows transaction.id) :
    (session.ranInTransaction (raw.verdict request maxRows)).2 =
      (raw.verdict request maxRows).report := by
  cases hverdict : raw.verdict request maxRows with
  | unanswered error => rfl
  | senseless error => rfl
  | refused decoded error =>
    obtain ⟨hdecoded, hfirst⟩ := RawResponse.verdict_eq_refused_iff.1 hverdict
    have hknown : ¬error.isTransactionNotFound = true := by
      simp [(hkeeps decoded hdecoded).1 error hfirst]
    change (session.failed decoded error).2 = .error (decoded.failure error)
    rw [failed_of_held hheld, if_neg hknown]
  | accepted decoded =>
    obtain ⟨hdecoded, -⟩ := RawResponse.verdict_eq_accepted_iff.1 hverdict
    change (session.succeeded decoded).2 = .ok decoded.results
    rcases succeeded_of_held decoded hheld with ⟨id, hid, hother, -⟩ | ⟨-, hkept⟩
    · -- The response would name another transaction.
      rcases (hkeeps decoded hdecoded).2 with hnone | hsame
      · rw [hid] at hnone
        cases hnone
      · rw [hid] at hsame
        exact absurd (Option.some.inj hsame) hother
    · rw [hkept]

/-- So does a commit. -/
theorem ranCommit_report (session : Session)
    (hkeeps : raw.KeepsTo request maxRows transaction.id) :
    (ranCommit transaction session (raw.verdict request maxRows)).2 =
      (raw.verdict request maxRows).report := by
  cases hverdict : raw.verdict request maxRows with
  | unanswered error => rfl
  | senseless error => rfl
  | refused decoded error =>
    obtain ⟨hdecoded, hfirst⟩ := RawResponse.verdict_eq_refused_iff.1 hverdict
    have hknown : ¬error.isTransactionNotFound = true := by
      simp [(hkeeps decoded hdecoded).1 error hfirst]
    change Except.error _ = Except.error (decoded.failure error)
    rw [if_neg hknown]
  | accepted decoded => rfl

/-- Where no transaction is held, only the want of one keeps a response from reporting its
results. -/
theorem ranInTransaction_report_iff_of_none (hnone : session.transaction? = none) :
    (session.ranInTransaction (raw.verdict request maxRows)).2 =
        (raw.verdict request maxRows).report ↔
      raw.FailsOrNames request maxRows := by
  cases hverdict : raw.verdict request maxRows with
  | unanswered error => exact absurd hverdict RawResponse.verdict_ne_unanswered
  | senseless error =>
    have herror := RawResponse.verdict_eq_senseless_iff.1 hverdict
    refine iff_of_true rfl fun decoded hdecoded => ?_
    rw [herror] at hdecoded
    cases hdecoded
  | refused decoded error =>
    obtain ⟨hdecoded, hfirst⟩ := RawResponse.verdict_eq_refused_iff.1 hverdict
    have hreports : (session.failed decoded error).2 = .error (decoded.failure error) := by
      rw [failed_of_none hnone]
    refine iff_of_true hreports fun other hother => .inl ?_
    cases hdecoded.symm.trans hother
    intro herrors
    rw [Decoded.firstError?, herrors] at hfirst
    cases hfirst
  | accepted decoded =>
    obtain ⟨hdecoded, herrors⟩ := RawResponse.verdict_eq_accepted_iff.1 hverdict
    change (session.succeeded decoded).2 = .ok decoded.results ↔ _
    rw [succeeded_of_none hnone]
    constructor
    · intro hok other hother
      cases hdecoded.symm.trans hother
      right
      cases hid : decoded.transaction? with
      | some id => exact ⟨id, rfl⟩
      | none =>
        simp only [opened, hid, Except.map] at hok
        cases hok
    · intro hnames
      obtain ⟨id, hid⟩ := (hnames decoded hdecoded).resolve_left (absurd herrors)
      obtain ⟨url, hurl⟩ := RawResponse.exists_location_of_accepted hverdict hid
      simp only [opened, hid, hurl, Except.map]

/-! ## Operations -/

/-- An operation that starts an exchange reports the end of that exchange. -/
theorem result?_of_exchange? {operation : Operation} {exchange : Exchange}
    (hready : session.Ready) (hexchange : operation.exchange? session = some exchange)
    (reply : Reply) :
    session.result? ⟨operation, .replied reply⟩ =
      some (exchange.atEnd session (exchange.verdict session reply)).2 := by
  have htransition := session.transition ⟨operation, .replied reply⟩
  generalize session.after ⟨operation, .replied reply⟩ = next,
    session.result? ⟨operation, .replied reply⟩ = result?,
    session.calls ⟨operation, .replied reply⟩ = calls at htransition ⊢
  cases htransition with
  | closed hclosed | closedAgain hclosed => exact absurd hclosed hready.isOpen
  | reported _ hpending =>
    rw [hready.notPending] at hpending
    cases hpending
  | unsendable _ _ hrequest =>
    rw [exchange?_of_request_error hrequest] at hexchange
    cases hexchange
  | switched | unswitched => cases hexchange
  | nothing _ _ _ hnone =>
    rw [hnone] at hexchange
    cases hexchange
  | shut _ htransaction =>
    rw [Operation.exchange?, htransaction] at hexchange
    cases hexchange
  | replied _ _ hown =>
    rw [hexchange] at hown
    cases hown
    rw [Exchange.after_of_not_pending hready.notPending]

/-- A session that can start an operation, with its mode, the number of the transaction that it may
hold, and its limit on rows. -/
structure InMode (session : Session) (autoCommit : Bool) (held? : Option Nat) (maxRows : Nat) :
    Prop where
  ready : session.Ready
  autoCommit : session.autoCommit = autoCommit
  held : session.transaction?.map Transaction.id = held?
  maxRows : session.config.maxRows = maxRows

theorem InMode.transaction?_eq_none {autoCommit : Bool}
    (h : session.InMode autoCommit none maxRows) : session.transaction? = none :=
  Option.map_eq_none_iff.1 h.held

theorem InMode.exists_held {autoCommit : Bool} {id : Nat}
    (h : session.InMode autoCommit (some id) maxRows) :
    ∃ transaction, session.transaction? = some transaction ∧ transaction.id = id :=
  Option.map_eq_some_iff.1 h.held

variable {descriptors : List Descriptor}

theorem InMode.result?_execute_atOnce {held? : Option Nat} (h : session.InMode true held? maxRows)
    (hnonempty : request.isEmpty = false)
    (hrequest : Request.ofDescriptors descriptors = .ok request) (raw : RawResponse) :
    session.result? ⟨.execute descriptors, .replied (.answered raw)⟩ =
      some (raw.verdict request maxRows).report := by
  have hexchange : (Operation.execute descriptors).exchange? session =
      some (.atOnce "execute" request) := by
    simp only [Operation.exchange?, hrequest, h.autoCommit, hnonempty, if_true, Bool.false_eq_true,
      if_false]
  rw [result?_of_exchange? h.ready hexchange, ← h.maxRows]
  exact congrArg some (ranAtOnce_report session _)

/-- With autocommit off, statements return what their request returns in a transaction. -/
theorem InMode.result?_execute_running {held? : Option Nat} (h : session.InMode false held? maxRows)
    (hnonempty : request.isEmpty = false)
    (hrequest : Request.ofDescriptors descriptors = .ok request) (raw : RawResponse) :
    session.result? ⟨.execute descriptors, .replied (.answered raw)⟩ =
      some (session.ranInTransaction (raw.verdict request maxRows)).2 := by
  have hexchange : (Operation.execute descriptors).exchange? session =
      some (.running request) := by
    simp only [Operation.exchange?, hrequest, h.autoCommit, hnonempty, Bool.false_eq_true, if_false]
  rw [result?_of_exchange? h.ready hexchange, ← h.maxRows]
  rfl

theorem InMode.result?_commit {autoCommit : Bool} {held? : Option Nat}
    (h : session.InMode autoCommit held? maxRows) (hheld : session.transaction? = some transaction)
    (hrequest : Request.ofDescriptors descriptors = .ok request) (raw : RawResponse) :
    session.result? ⟨.commit descriptors, .replied (.answered raw)⟩ =
      some (ranCommit transaction session (raw.verdict request maxRows)).2 := by
  have hexchange : (Operation.commit descriptors).exchange? session =
      some (.committing transaction request) := by
    simp only [Operation.exchange?, hrequest, hheld]
  rw [result?_of_exchange? h.ready hexchange, ← h.maxRows]
  rfl

/-- **The mode does not decide what is reported.** With autocommit a response reports what it says
by itself. In a transaction that is held, and with its commit, it reports the same, unless it says
that this transaction is gone or names another one. Where a transaction is to be opened it reports
the same exactly if it does not decode, reports an error, or names the transaction. -/
theorem report_independent_of_mode {request : Request} (hnonempty : descriptors ≠ [])
    (hrequest : Request.ofDescriptors descriptors = .ok request) {maxRows id : Nat}
    {atOnce opening holding committing : Session} {held? : Option Nat} {autoCommit : Bool}
    (hatOnce : atOnce.InMode true held? maxRows) (hopening : opening.InMode false none maxRows)
    (hholding : holding.InMode false (some id) maxRows)
    (hcommitting : committing.InMode autoCommit (some id) maxRows) (raw : RawResponse) :
    let executed : Event := ⟨.execute descriptors, .replied (.answered raw)⟩
    let committed : Event := ⟨.commit descriptors, .replied (.answered raw)⟩
    atOnce.result? executed = some (raw.report request maxRows) ∧
      (raw.KeepsTo request maxRows id →
        holding.result? executed = atOnce.result? executed ∧
          committing.result? committed = atOnce.result? executed) ∧
      (opening.result? executed = atOnce.result? executed ↔
        raw.FailsOrNames request maxRows) := by
  intro executed committed
  have hsome : request.isEmpty = false :=
    (Request.isEmpty_of_ofDescriptors hrequest).trans (by simpa using hnonempty)
  have hreport : atOnce.result? executed = some (raw.verdict request maxRows).report :=
    hatOnce.result?_execute_atOnce hsome hrequest raw
  rw [hreport]
  refine ⟨congrArg some (raw.report_verdict request maxRows), fun hkeeps => ⟨?_, ?_⟩, ?_⟩
  · obtain ⟨transaction, hheld, rfl⟩ := hholding.exists_held
    rw [hholding.result?_execute_running hsome hrequest raw]
    exact congrArg some (ranInTransaction_report_of_held hheld hkeeps)
  · obtain ⟨transaction, hheld, rfl⟩ := hcommitting.exists_held
    rw [hcommitting.result?_commit hheld hrequest raw]
    exact congrArg some (ranCommit_report committing hkeeps)
  · rw [hopening.result?_execute_running hsome hrequest raw, Option.some_inj]
    exact ranInTransaction_report_iff_of_none hopening.transaction?_eq_none

def sampleCreation : Descriptor := { text := "CREATE ()", wantStats := true }

def sampleRefusal : RawResponse where
  status := 200
  body := "\x7b\"results\":[\x7b\"stats\":\x7b\"nodes_created\":1\x7d\x7d]," ++
    "\"errors\":[\x7b\"code\":\"C\",\"message\":\"no\"\x7d]\x7d"

/-- The second of two statements fails, in all modes alike. -/
theorem report_independent_of_mode_second_failed :
    let descriptors := [sampleCreation, sampleCreation]
    let executed : Event := ⟨.execute descriptors, .replied (.answered sampleRefusal)⟩
    let committed : Event := ⟨.commit descriptors, .replied (.answered sampleRefusal)⟩
    let failed : Except SessionError (List Envelope) :=
      .error (.statement ⟨1, "C", "no", [{ stats? := some { nodesCreated := 1 } }]⟩)
    let holding := (start sampleEndpoint sampleConfig).afterAll [sampleOpening]
    (start sampleEndpoint {}).result? executed = some failed ∧
      (start sampleEndpoint sampleConfig).result? executed = some failed ∧
      holding.result? executed = some failed ∧ holding.result? committed = some failed := by
  intro descriptors executed committed failed holding
  let request : Request := ⟨[⟨sampleCreation.text, [], true⟩, ⟨sampleCreation.text, [], true⟩]⟩
  have hatOnce : (start sampleEndpoint {}).InMode true none 0 := ⟨⟨nofun, rfl⟩, rfl, rfl, rfl⟩
  have hopening : (start sampleEndpoint sampleConfig).InMode false none 0 :=
    ⟨⟨nofun, rfl⟩, rfl, rfl, rfl⟩
  have hholding : holding.InMode false (some 9) 0 := ⟨⟨nofun, rfl⟩, rfl, rfl, rfl⟩
  obtain ⟨hreport, hkept, hopened⟩ := report_independent_of_mode (List.cons_ne_nil _ _)
    (show Request.ofDescriptors descriptors = .ok request from rfl)
    hatOnce hopening hholding hholding sampleRefusal
  have hdecoded : Decoded.ofRaw sampleRefusal request 0 = .ok {
      results := [{ stats? := some { nodesCreated := 1 } }, .failed ⟨"C", "no"⟩]
      errors := [⟨"C", "no"⟩]
      location? := none
      transaction? := none
      expires? := none } := rfl
  have hkeeps : sampleRefusal.KeepsTo request 0 9 := by
    intro decoded hother
    cases hdecoded.symm.trans hother
    refine ⟨?_, .inl rfl⟩
    rintro error ⟨⟩
    rfl
  have hfails : sampleRefusal.FailsOrNames request 0 := by
    intro decoded hother
    cases hdecoded.symm.trans hother
    exact .inl (List.cons_ne_nil _ _)
  have hfailed : (start sampleEndpoint {}).result? executed = some failed := by
    rw [hreport, RawResponse.report, hdecoded]
    rfl
  obtain ⟨hexecuted, hcommitted⟩ := hkept hkeeps
  exact ⟨hfailed, (hopened.2 hfails).trans hfailed, hexecuted.trans hfailed,
    hcommitted.trans hfailed⟩

end Session

end CypherSession
