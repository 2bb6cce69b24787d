import CypherSession.Proofs.Session.WellFormed
import CypherSession.Proofs.Statement.Encoding

/-!
# Commits are never silent

A commit of a transaction succeeds exactly if its response confirms it: a successful status, a body
without errors and with a result for every statement, and no location that is none. Every other
response is reported as an error, and the transaction counts as rolled back. Nothing else ever makes
a transaction count as committed.
-/

namespace CypherSession

namespace Session

variable {session : Session} {transaction : Transaction} {descriptors : List Descriptor}
  {request : Request}

theorem commit_of_held (hready : session.Ready)
    (hheld : session.transaction? = some transaction)
    (hrequest : Request.ofDescriptors descriptors = .ok request) :
    session.commit descriptors = session.commitHeld transaction request := by
  unfold commit
  rw [guarded_of_ready hready]
  simp only [hrequest, hheld]

theorem finish_commit_of_held (hready : session.Ready)
    (hheld : session.transaction? = some transaction)
    (hrequest : Request.ofDescriptors descriptors = .ok request) (reply : Reply) :
    (session.commit descriptors).finish (.replied reply) =
      ((ranCommit transaction session
          ((Exchange.committing transaction request).verdict session reply)).1,
        some (ranCommit transaction session
          ((Exchange.committing transaction request).verdict session reply)).2) := by
  rw [commit_of_held hready hheld hrequest]
  have hafter := Exchange.after_of_not_pending hready.notPending
    (.committing transaction request) reply
  exact congrArg (fun ended => (ended.1, some ended.2)) hafter

/-- A commit succeeds exactly if its response is accepted. -/
theorem ranCommit_eq_ok_iff {verdict : Verdict} {results : List Envelope} :
    (ranCommit transaction session verdict).2 = .ok results ↔
      ∃ decoded, verdict = .accepted decoded ∧ decoded.results = results := by
  cases verdict <;> simp [ranCommit]

/-- After a response that makes sense the session holds nothing, and the outcome that it remembers
is that of the commit. -/
theorem ranCommit_of_response (hheld : session.transaction? = some transaction)
    {verdict : Verdict} (hresponse : ∀ error, verdict ≠ .unanswered error) :
    (∃ decoded, verdict = .accepted decoded ∧
        ranCommit transaction session verdict = (session.settle .committed, .ok decoded.results)) ∨
      ∃ error, ranCommit transaction session verdict =
        (session.settle .rolledBack, .error error) := by
  cases verdict with
  | unanswered error => exact absurd rfl (hresponse error)
  | senseless error =>
    refine .inr ⟨error, ?_⟩
    rw [ranCommit, discard_of_held hheld]
  | refused decoded error => exact .inr ⟨_, rfl⟩
  | accepted decoded => exact .inl ⟨decoded, rfl, rfl⟩

/-- Committing what is held sends one request, to the URL that commits it. -/
theorem calls_commit_of_held (hready : session.Ready)
    (hheld : session.transaction? = some transaction)
    (hrequest : Request.ofDescriptors descriptors = .ok request) (ending : Ending) :
    session.calls ⟨.commit descriptors, ending⟩ = [.post (transaction.url ++ "/commit") request] := by
  change (session.commit descriptors).calls = _
  rw [commit_of_held hready hheld hrequest]
  rfl

/-- A commit of what is held succeeds exactly if its reply confirms all of its statements. -/
theorem result?_commit_eq_ok_iff (hready : session.Ready)
    (hheld : session.transaction? = some transaction)
    (hrequest : Request.ofDescriptors descriptors = .ok request) {ending : Ending}
    {results : List Envelope} :
    session.result? ⟨.commit descriptors, ending⟩ = some (.ok results) ↔
      ∃ raw response, ending = .replied (.answered raw) ∧
        raw.Confirms descriptors.length response ∧
        results = response.results.map (Envelope.limitRows session.config.maxRows) := by
  cases ending with
  | abandoned =>
    have hnone : session.result? ⟨.commit descriptors, .abandoned⟩ = none := by
      change ((session.commit descriptors).finish .abandoned).2 = none
      rw [commit_of_held hready hheld hrequest]
      rfl
    simp [hnone]
  | replied reply =>
    have hfinish := finish_commit_of_held hready hheld hrequest reply
    have hresult : session.result? ⟨.commit descriptors, .replied reply⟩ = _ :=
      congrArg Prod.snd hfinish
    have hsize := Request.size_of_ofDescriptors hrequest
    rw [hresult, Option.some_inj, ranCommit_eq_ok_iff, ← hsize]
    simp only [Ending.replied.injEq]
    exact Reply.exists_accepted_iff_confirms

/-- After a response to its commit a transaction is not held any more. It counts as committed
exactly if the commit returned results. -/
theorem after_commit_of_response (hready : session.Ready)
    (hheld : session.transaction? = some transaction)
    (hrequest : Request.ofDescriptors descriptors = .ok request) (raw : RawResponse) :
    let event : Event := ⟨.commit descriptors, .replied (.answered raw)⟩
    (∃ results, session.result? event = some (.ok results) ∧
        session.after event = session.settle .committed) ∨
      ∃ error, session.result? event = some (.error error) ∧
        session.after event = session.settle .rolledBack := by
  intro event
  have hfinish := finish_commit_of_held hready hheld hrequest (.answered raw)
  have hresult : session.result? event = _ := congrArg Prod.snd hfinish
  have hnext : session.after event = _ := congrArg Prod.fst hfinish
  have hresponse (error : SessionError) :
      (Exchange.committing transaction request).verdict session (.answered raw) ≠
        .unanswered error := RawResponse.verdict_ne_unanswered
  rcases ranCommit_of_response hheld hresponse with ⟨decoded, -, hran⟩ | ⟨error, hran⟩
  · rw [hresult, hnext, hran]
    exact .inl ⟨decoded.results, rfl, rfl⟩
  · rw [hresult, hnext, hran]
    exact .inr ⟨error, rfl, rfl⟩

/-- Only a commit that is accepted makes committed the last outcome. -/
theorem Ended.keepsOutcome {exchange : Exchange} {verdict : Verdict} {next : Session}
    (h : session.Ended exchange verdict next) :
    session.KeepsOutcome next ∨ ∃ transaction request decoded,
      exchange = .committing transaction request ∧ verdict = .accepted decoded := by
  cases h with
  | changed hchange => exact .inl hchange.keepsOutcome
  | committed => exact .inr ⟨_, _, _, rfl, rfl⟩
  | closed hchange => exact .inl hchange.keepsOutcome

/-- A transaction comes to count as committed only by a commit that its response confirms. -/
theorem WellFormed.keepsOutcome_or_confirmed (h : session.WellFormed) (event : Event) :
    session.KeepsOutcome (session.after event) ∨ ∃ transaction descriptors request raw response,
      session.transaction? = some transaction ∧ session.pending = false ∧
        Request.ofDescriptors descriptors = .ok request ∧
          event = ⟨.commit descriptors, .replied (.answered raw)⟩ ∧
            raw.Confirms descriptors.length response := by
  obtain ⟨operation, ending⟩ := event
  have htransition := session.transition ⟨operation, ending⟩
  generalize session.after ⟨operation, ending⟩ = next, session.result? _ = result?,
    session.calls _ = calls at htransition
  cases htransition with
  | closed | closedAgain | unsendable | switched | unswitched | nothing | shut | paused =>
    exact .inl (.inl rfl)
  | reported => exact .inl (keepsOutcome_discard session)
  | replied hopen hpending hexchange =>
    rename_i exchange reply
    have hstarts := Operation.starts_of_exchange? hexchange
    have hended := ended_after h.held_iff hstarts reply
    rcases hended.keepsOutcome with hkeeps | ⟨transaction, request, decoded, rfl, hverdict⟩
    · exact .inl hkeeps
    cases hstarts with
    | commit hrequest hheld =>
      rename_i descriptors
      obtain ⟨raw, response, rfl, hconfirms, -⟩ :=
        Reply.exists_accepted_iff_confirms.1 ⟨decoded, hverdict, rfl⟩
      rw [show ((Exchange.committing transaction request).call session).request = request from rfl,
        Request.size_of_ofDescriptors hrequest] at hconfirms
      exact .inr ⟨transaction, descriptors, request, raw, response, hheld, hpending nofun, hrequest,
        rfl, hconfirms⟩

/-- **A commit is never silently reported.** A commit of a transaction that is held makes one call,
and it returns results exactly if a response confirms it; then they are those of the response, and
the transaction counts as committed. Every other response leads to an error, and the transaction
counts as rolled back. No other event makes a transaction count as committed. -/
theorem commit_never_silent (endpoint : Endpoint) (config : SessionConfig)
    (before : List Event) :
    let session := (start endpoint config).afterAll before
    (∀ transaction descriptors request, session.transaction? = some transaction →
      session.pending = false → Request.ofDescriptors descriptors = .ok request → ∀ ending,
        let event : Event := ⟨.commit descriptors, ending⟩
        let next := session.after event
        session.calls event = [.post (transaction.url ++ "/commit") request] ∧
        (∀ results, session.result? event = some (.ok results) ↔
          ∃ raw response, ending = .replied (.answered raw) ∧
            raw.Confirms descriptors.length response ∧
            results = response.results.map (Envelope.limitRows config.maxRows)) ∧
        (∀ results, session.result? event = some (.ok results) →
          next.phase = .idle ∧ next.transaction? = none ∧ next.lastOutcome? = some .committed) ∧
        (∀ raw, ending = .replied (.answered raw) →
          (¬∃ response, raw.Confirms descriptors.length response) →
            (∃ error, session.result? event = some (.error error)) ∧
              next.phase = .idle ∧ next.transaction? = none ∧
                next.lastOutcome? = some .rolledBack)) ∧
    ∀ event : Event,
      (session.after event).lastOutcome? = session.lastOutcome? ∨
        (session.after event).lastOutcome? = some .rolledBack ∨
          ∃ transaction descriptors request raw response,
            session.transaction? = some transaction ∧ session.pending = false ∧
              Request.ofDescriptors descriptors = .ok request ∧
                event = ⟨.commit descriptors, .replied (.answered raw)⟩ ∧
                  raw.Confirms descriptors.length response := by
  intro session
  have h : session.WellFormed := (wellFormed_start endpoint config).afterAll before
  have hconfig : session.config = config :=
    ((wellFormed_start endpoint config).sameOrigin_afterAll before).2
  constructor
  · intro transaction descriptors request hheld hpending hrequest ending event next
    have hready : session.Ready := {
      isOpen := by simp [h.phase_eq_held hheld]
      notPending := hpending }
    have hok (results : List Envelope) : session.result? event = some (.ok results) ↔ _ :=
      result?_commit_eq_ok_iff hready hheld hrequest
    refine ⟨calls_commit_of_held hready hheld hrequest ending, ?_, ?_, ?_⟩
    · intro results
      rw [← hconfig]
      exact hok results
    · intro results hresult
      obtain ⟨raw, -, rfl, -⟩ := (hok results).1 hresult
      rcases after_commit_of_response hready hheld hrequest raw with
        ⟨-, -, hnext⟩ | ⟨error, herror, -⟩
      · rw [show next = _ from hnext]
        exact ⟨rfl, rfl, rfl⟩
      · rw [show session.result? event = _ from herror] at hresult
        cases hresult
    · rintro raw rfl hunconfirmed
      rcases after_commit_of_response hready hheld hrequest raw with
        ⟨results, hresult, -⟩ | ⟨error, herror, hnext⟩
      · obtain ⟨_, response, ⟨⟩, hconfirms, -⟩ := (hok results).1 hresult
        exact absurd ⟨response, hconfirms⟩ hunconfirmed
      · rw [show next = _ from hnext]
        exact ⟨⟨error, herror⟩, rfl, rfl, rfl⟩
  · intro event
    rcases h.keepsOutcome_or_confirmed event with (hsame | hrolledBack) | hconfirmed
    · exact .inl hsame
    · exact .inr (.inl hrolledBack)
    · exact .inr (.inr hconfirmed)

/-- A response that says nothing confirms a commit without statements, unless its status does not. -/
theorem commit_never_silent_without_statements :
    let session := (start sampleEndpoint sampleConfig).afterAll [sampleOpening]
    let answer (status : Nat) : Event :=
      ⟨.commit [], .replied (.answered { status, body := "" })⟩
    session.transaction? = some ⟨9, sampleUrl, none⟩ ∧ session.pending = false ∧
      session.result? (answer 200) = some (.ok []) ∧
      (session.after (answer 200)).lastOutcome? = some .committed ∧
      (session.after (answer 500)).lastOutcome? = some .rolledBack := by
  intro session answer
  have hcommit (ending : Ending) := (commit_never_silent sampleEndpoint sampleConfig
    [sampleOpening]).1 ⟨9, sampleUrl, none⟩ [] .empty rfl rfl rfl ending
  have hconfirms : ({ status := 200, body := "" } : RawResponse).Confirms 0 {} := {
    status := by decide
    body := .inl ⟨rfl, rfl⟩
    errors := rfl
    results := rfl
    location := by rintro url (h | ⟨-, commit, h, -⟩) <;> cases h }
  have hok : session.result? (answer 200) = some (.ok []) :=
    ((hcommit _).2.1 []).2 ⟨_, _, rfl, hconfirms, rfl⟩
  have hunconfirmed :
      ¬∃ response, ({ status := 500, body := "" } : RawResponse).Confirms 0 response := by
    rintro ⟨response, hconfirms⟩
    exact absurd hconfirms.status (by decide)
  refine ⟨rfl, rfl, hok, ?_, ?_⟩
  · exact ((hcommit _).2.2.1 [] hok).2.2
  · exact ((hcommit _).2.2.2 _ rfl hunconfirmed).2.2.2

end Session

end CypherSession
