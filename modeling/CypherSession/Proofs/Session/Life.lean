import CypherSession.Proofs.Session.Errors

/-!
# The life of a transaction

A transaction comes with a response that says where it is, and the session holds it as it came: only
its expiry changes, and only as later responses say. It ends with the first error that the server
reports. Once the session has given it up, nothing goes to its URL any more, unless a response
supplies that URL anew.
-/

namespace CypherSession.Session

/-- The session holds a transaction, and still does after each of the events. -/
def HoldsThrough (session : Session) : List Event → Prop
  | [] => session.transaction?.isSome
  | event :: rest => session.transaction?.isSome ∧ (session.after event).HoldsThrough rest

/-- The event succeeds, and its response says when the transaction will expire. -/
structure Renews (session : Session) (event : Event) (expires : Moment) : Prop where
  operation : event.operation = .keepAlive ∨ ∃ descriptors, event.operation = .execute descriptors
  result : ∃ results, session.result? event = some (.ok results)
  response : ∃ raw response, event.ending = .replied (.answered raw) ∧ raw.Says response ∧
    (response.expires?.bind fun text => MailDate.moment? text.toList) = some expires

/-- The response to an event says where a transaction is, and the session takes it from there. -/
structure Supplies (session : Session) (event : Event) (url : String) : Prop where
  idle : session.transaction? = none
  response : ∃ raw response, event.ending = .replied (.answered raw) ∧ raw.Says response ∧
    raw.Locates response url
  taken : ∃ transaction, (session.after event).transaction? = some transaction ∧
    transaction.url = url

/-- What becomes of a transaction that is held through events: only its expiry changes, and only as
a response says. -/
structure Continues (session : Session) (events : List Event) (transaction last : Transaction) :
    Prop where
  id : last.id = transaction.id
  url : last.url = transaction.url
  expires : last.expires? = transaction.expires? ∨
    ∃ met ∈ session.trace events, ∃ expires,
      last.expires? = some expires ∧ met.1.Renews met.2 expires

variable {session : Session}

theorem Continues.refl (events : List Event) (transaction : Transaction) :
    session.Continues events transaction transaction :=
  ⟨rfl, rfl, .inl rfl⟩

theorem Continues.cons {event : Event} {rest : List Event} {transaction next last : Transaction}
    (h : session.Continues [event] transaction next)
    (h' : (session.after event).Continues rest next last) :
    session.Continues (event :: rest) transaction last where
  id := h'.id.trans h.id
  url := h'.url.trans h.url
  expires := by
    rcases h'.expires with hsame | ⟨met, hmet, hrenewed⟩
    · rw [hsame]
      rcases h.expires with hsame | ⟨met, hmet, hrenewed⟩
      · exact .inl hsame
      · rw [List.mem_singleton.1 hmet] at hrenewed
        exact .inr ⟨_, List.mem_cons_self, hrenewed⟩
    · exact .inr ⟨met, List.mem_cons_of_mem _ hmet, hrenewed⟩

/-! ## One event -/

/-- A transaction that is held after an exchange was held before it, or the response has supplied
it. -/
theorem Ended.held {exchange : Exchange} {verdict : Verdict} {next : Session}
    (h : session.Ended exchange verdict next) {transaction : Transaction}
    (hheld : next.transaction? = some transaction) :
    session.transaction? = some transaction ∨
      ∃ decoded, verdict = .accepted decoded ∧
        ((session.transaction? = none ∧ decoded.location? = some transaction.url) ∨
          ∃ old, exchange.RunsInTransaction ∧ session.transaction? = some old ∧
            transaction = { old with expires? := decoded.expires?.or old.expires? }) := by
  cases h with
  | committed | closed => cases hheld
  | changed hchange =>
    cases hchange with
    | kept => exact .inl hheld
    | discarded =>
      rw [transaction?_discard] at hheld
      cases hheld
    | settled => cases hheld
    | @opened decoded hnone =>
      refine .inr ⟨decoded, rfl, .inl ⟨hnone, ?_⟩⟩
      unfold Session.opened at hheld
      split at hheld
      · rename_i hurl
        cases hheld
        exact hurl
      · rw [hnone] at hheld
        cases hheld
    | @renewed decoded old hruns hold =>
      cases hheld
      exact .inr ⟨decoded, rfl, .inr ⟨old, hruns, hold, rfl⟩⟩

theorem exists_ok_of_held (h : session.WellFormed) {operation : Operation} {exchange : Exchange}
    (hstarts : operation.Starts session exchange) {reply : Reply} {decoded : Decoded}
    (hverdict : exchange.verdict session reply = .accepted decoded) {transaction : Transaction}
    (hheld : (exchange.after session reply).1.transaction? = some transaction) :
    ∃ results, (exchange.after session reply).2 = .ok results := by
  cases hran : (exchange.after session reply).2 with
  | ok results => exact ⟨results, rfl⟩
  | error error =>
    rcases gone_of_exchange h hstarts hran with hnone | hunanswered
    · rw [hheld] at hnone
      cases hnone
    · rw [hverdict] at hunanswered
      cases hunanswered

/-- A transaction that is held after an event was held before it, or came with its response. -/
theorem held_after (h : session.WellFormed) (event : Event) {next : Transaction}
    (hnext : (session.after event).transaction? = some next) :
    session.Supplies event next.url ∨
      ∃ transaction, session.transaction? = some transaction ∧
        session.Continues [event] transaction next := by
  have hheld := hnext
  obtain ⟨operation, ending⟩ := event
  have htransition := session.transition ⟨operation, ending⟩
  generalize session.after ⟨operation, ending⟩ = after,
    hresult : session.result? ⟨operation, ending⟩ = result?,
    session.calls ⟨operation, ending⟩ = calls at htransition hheld
  cases htransition with
  | closed | closedAgain | unsendable | switched | unswitched | nothing | paused =>
    exact .inr ⟨next, hheld, .refl _ next⟩
  | reported =>
    have hnone := transaction?_discard session
    rw [show session.discard.transaction? = some next from hheld] at hnone
    cases hnone
  | shut => cases hheld
  | @replied _ exchange reply _ _ hexchange =>
    have hstarts := Operation.starts_of_exchange? hexchange
    have hended := ended_after h.held_iff hstarts reply
    rcases hended.held hheld with hsame | ⟨decoded, hverdict, hsource⟩
    · exact .inr ⟨next, hsame, .refl _ next⟩
    obtain ⟨results, hok⟩ := exists_ok_of_held h hstarts hverdict hheld
    obtain ⟨raw, rfl, hraw⟩ := Reply.exists_answered_of_verdict hverdict nofun
    obtain ⟨response, id?, hconfirms, rfl⟩ := RawResponse.exists_confirms_of_verdict hraw
    rcases hsource with ⟨hnone, hurl⟩ | ⟨old, hruns, hold, rfl⟩
    · have hlocates := RawResponse.locate?_eq_some_iff.1 hurl
      exact .inl {
        idle := hnone
        response := ⟨raw, response, rfl, hconfirms.body, hlocates⟩
        taken := ⟨next, hnext, rfl⟩ }
    · refine .inr ⟨old, hold, rfl, rfl, ?_⟩
      cases hexpires : response.expires?.bind fun text => MailDate.moment? text.toList with
      | none =>
        left
        simp only [Decoded.ofResponse, hexpires, Option.none_or]
      | some expires =>
        right
        refine ⟨_, List.mem_cons_self, expires, ?_, ?_⟩
        · simp only [Decoded.ofResponse, hexpires, Option.some_or]
        exact {
          operation := hstarts.runsInTransaction hruns
          result := ⟨results, by rw [hresult, hok]⟩
          response := ⟨raw, response, rfl, hconfirms.body, hexpires⟩ }

/-- A call goes to the endpoint, or it is for the transaction that is held. -/
theorem Operation.Starts.url_call {operation : Operation} {exchange : Exchange}
    (h : operation.Starts session exchange) :
    (exchange.call session).url = session.endpoint.autocommitUrl ∨
      (exchange.call session).url = session.endpoint.transactionUrl ∨
        ∃ transaction, session.transaction? = some transaction ∧
          TransactionUrl.IsFor (exchange.call session).url transaction.url := by
  cases h with
  | executeAtOnce | commitAtOnce => exact .inl rfl
  | begin | executeNothing => exact .inr (.inl rfl)
  | execute =>
    cases hheld : session.transaction? with
    | none => exact .inr (.inl (by simp [Exchange.call, Exchange.runUrl, Call.url, hheld]))
    | some transaction =>
      refine .inr (.inr ⟨transaction, rfl, .inl ?_⟩)
      simp [Exchange.call, Exchange.runUrl, Call.url, hheld]
  | @keepAlive transaction hheld =>
    refine .inr (.inr ⟨transaction, hheld, .inl ?_⟩)
    simp [Exchange.call, Exchange.runUrl, Call.url, hheld]
  | @commit descriptors request transaction hrequest hheld =>
    exact .inr (.inr ⟨transaction, hheld, .inr rfl⟩)
  | @rollback transaction hheld | @close transaction hheld =>
    exact .inr (.inr ⟨transaction, hheld, .inl rfl⟩)

/-- A request for a transaction is made only while one with that URL is held. -/
theorem held_of_isFor (h : session.WellFormed) {event : Event} {call : Call}
    (hcall : call ∈ session.calls event) {url : String} {id : Nat}
    (hnumber : TransactionUrl.number url = .ok id) (hfor : TransactionUrl.IsFor call.url url) :
    ∃ transaction, session.transaction? = some transaction ∧ transaction.url = url := by
  obtain ⟨exchange, hstarts, rfl⟩ := exists_starts_of_mem_calls hcall
  rcases hstarts.url_call with hurl | hurl | ⟨transaction, hheld, hother⟩
  · rw [hurl] at hfor
    exact absurd hfor (TransactionUrl.not_isFor_autocommitUrl hnumber _)
  · rw [hurl] at hfor
    exact absurd hfor (TransactionUrl.not_isFor_transactionUrl hnumber _)
  · obtain ⟨-, hown⟩ := h.identity transaction hheld
    exact ⟨transaction, hheld, TransactionUrl.eq_of_isFor hnumber hown hfor hother⟩

/-! ## Runs -/

theorem HoldsThrough.exists_held {events : List Event} (h : session.HoldsThrough events) :
    ∃ transaction, session.transaction? = some transaction := by
  cases events with
  | nil => exact Option.isSome_iff_exists.1 h
  | cons event rest => exact Option.isSome_iff_exists.1 h.1

/-- A transaction that is held throughout is the same one at the end, except for its expiry. -/
theorem continues_of_holdsThrough (h : session.WellFormed) {events : List Event}
    (hholds : session.HoldsThrough events) {transaction : Transaction}
    (hheld : session.transaction? = some transaction) :
    ∃ last, (session.afterAll events).transaction? = some last ∧
      session.Continues events transaction last := by
  induction events generalizing session transaction with
  | nil => exact ⟨transaction, hheld, .refl [] transaction⟩
  | cons event rest ih =>
    obtain ⟨next, hnext⟩ := hholds.2.exists_held
    obtain ⟨last, hlast, hcontinues⟩ := ih (h.after event) hholds.2 hnext
    rcases held_after h event hnext with hsupplies | ⟨old, hold, hevent⟩
    · have hidle := hsupplies.idle
      rw [hheld] at hidle
      cases hidle
    · rw [hheld] at hold
      cases hold
      exact ⟨last, hlast, hevent.cons hcontinues⟩

/-- A transaction that is held at the end of a run was held at its start, or supplied in it. -/
theorem held_or_supplied (h : session.WellFormed) {events : List Event} {last : Transaction}
    (hlast : (session.afterAll events).transaction? = some last) :
    (∃ transaction, session.transaction? = some transaction ∧ transaction.url = last.url) ∨
      ∃ met ∈ session.trace events, met.1.Supplies met.2 last.url := by
  induction events generalizing session with
  | nil => exact .inl ⟨last, hlast, rfl⟩
  | cons event rest ih =>
    rcases ih (h.after event) hlast with ⟨next, hnext, hurl⟩ | ⟨met, hmet, hsupplies⟩
    · rw [← hurl]
      rcases held_after h event hnext with hsupplies | ⟨old, hold, hevent⟩
      · exact .inr ⟨_, List.mem_cons_self, hsupplies⟩
      · exact .inl ⟨old, hold, hevent.url.symm⟩
    · exact .inr ⟨met, List.mem_cons_of_mem _ hmet, hsupplies⟩

theorem HoldsThrough.pending {events : List Event} (h : session.HoldsThrough events)
    (hpending : session.pending = true) : (session.afterAll events).pending = true := by
  induction events generalizing session with
  | nil => exact hpending
  | cons event rest ih =>
    rcases pending_or_gone hpending (session.transition event) with hnext | hgone
    · exact ih h.2 hnext
    · obtain ⟨transaction, hheld⟩ := h.2.exists_held
      rw [hheld] at hgone
      cases hgone

/-- What a transaction survives, up to its commit: no call for it was abandoned, and no error came
from the server. -/
theorem isLocal_of_commit (h : session.WellFormed) {event : Event} {rest : List Event}
    (hholds : (session.after event).HoldsThrough rest) (hguarded : event.operation.IsGuarded)
    {descriptors : List Descriptor} {ending : Ending} {results : List Envelope}
    (hcommit : ((session.after event).afterAll rest).result? ⟨.commit descriptors, ending⟩ =
      some (.ok results)) :
    ∃ result, session.result? event = some result ∧
      ∀ error, result = .error error → error.IsLocal := by
  have htransition := session.transition event
  cases hresult : session.result? event with
  | none =>
    have hpending := hholds.pending (pending_of_abandoned htransition hresult)
    have hcommits : (Operation.commit descriptors).IsGuarded := trivial
    have hnotPending := not_pending_of_ok hcommits (transition _ ⟨_, ending⟩) hcommit
    rw [hpending] at hnotPending
    cases hnotPending
  | some result =>
    refine ⟨result, rfl, ?_⟩
    rintro error rfl
    rcases gone_of_transition h htransition hresult with hgone | hlocal | ⟨-, hunguarded⟩
    · obtain ⟨transaction, hheld⟩ := hholds.exists_held
      rw [hheld] at hgone
      cases hgone
    · exact hlocal
    · exact absurd hguarded hunguarded

/-- Before a commit that succeeds, the operations in its transaction fail only if nothing is sent or
no response comes back. -/
theorem isLocal_of_commit_of_mem (h : session.WellFormed) {opening : Event} {events : List Event}
    (hholds : (session.after opening).HoldsThrough events)
    {descriptors : List Descriptor} {ending : Ending} {results : List Envelope}
    (hcommit : ((session.after opening).afterAll events).result? ⟨.commit descriptors, ending⟩ =
      some (.ok results)) {met : Session × Event} (hmet : met ∈ session.trace (opening :: events))
    (hguarded : met.2.operation.IsGuarded) :
    ∃ result, met.1.result? met.2 = some result ∧
      ∀ error, result = .error error → error.IsLocal := by
  induction events generalizing session opening with
  | nil =>
    rw [List.mem_singleton.1 hmet] at hguarded ⊢
    exact isLocal_of_commit h hholds hguarded hcommit
  | cons event rest ih =>
    rcases List.mem_cons.1 hmet with rfl | hlater
    · exact isLocal_of_commit h hholds hguarded hcommit
    · exact ih (h.after opening) hholds.2 hcommit hlater

/-- **The life of a transaction.** From any point of a run on: a transaction keeps its number and
its URL as long as it is held, and its expiry is the one that it had or one that a later response
reported. After an error that the server reports none is held. So up to a commit that succeeds no
operation on the transaction was abandoned or failed, but for requests that could not be sent or
were not answered. And once a transaction is given up, a request for it is made only after a
response has supplied its URL anew. -/
theorem life_of_transaction (endpoint : Endpoint) (config : SessionConfig) (past : List Event) :
    let session := (start endpoint config).afterAll past
    (∀ transaction events, session.transaction? = some transaction →
      session.HoldsThrough events →
        ∃ last, (session.afterAll events).transaction? = some last ∧
          session.Continues events transaction last) ∧
    (∀ event error, session.result? event = some (.error error) → error.IsReported →
      (session.after event).transaction? = none) ∧
    (∀ opening events descriptors ending results,
      (session.after opening).HoldsThrough events →
        ((session.after opening).afterAll events).result? ⟨.commit descriptors, ending⟩ =
          some (.ok results) →
          ∀ met ∈ session.trace (opening :: events), met.2.operation.IsGuarded →
            ∃ result, met.1.result? met.2 = some result ∧
              ∀ error, result = .error error → error.IsLocal) ∧
    ∀ transaction event events request call, session.transaction? = some transaction →
      (session.after event).transaction? = none →
        call ∈ ((session.after event).afterAll events).calls request →
          TransactionUrl.IsFor call.url transaction.url →
            ∃ met ∈ (session.after event).trace events, met.1.Supplies met.2 transaction.url := by
  intro session
  have h : session.WellFormed := (wellFormed_start endpoint config).afterAll past
  refine ⟨?_, ?_, ?_, ?_⟩
  · intro transaction events hheld hholds
    exact continues_of_holdsThrough h hholds hheld
  · intro event error herror hreported
    rcases gone_of_transition h (session.transition event) herror with hgone | hlocal | ⟨rfl, -⟩
    · exact hgone
    · exact absurd hreported hlocal.not_isReported
    · exact hreported.elim
  · intro opening events descriptors ending results hholds hcommit met hmet hguarded
    exact isLocal_of_commit_of_mem h hholds hcommit hmet hguarded
  · intro transaction event events request call hheld hgone hcall hfor
    obtain ⟨-, hnumber⟩ := h.identity transaction hheld
    have hlater := (h.after event).afterAll events
    obtain ⟨last, hlast, hurl⟩ := held_of_isFor hlater hcall hnumber hfor
    rcases held_or_supplied (h.after event) hlast with ⟨other, hother, -⟩ | hsupplied
    · rw [hgone] at hother
      cases hother
    · rw [← hurl]
      exact hsupplied

/-- One transaction renewed and committed, failed, or given up and supplied again. -/
theorem life_of_transaction_renewed :
    let new := start sampleEndpoint sampleConfig
    let held := new.after sampleOpening
    let answer (operation : Operation) (status : Nat) : Event :=
      ⟨operation, .replied (.answered { status, body := "" })⟩
    let gone := held.after (answer .rollback 200)
    held.transaction? = some ⟨9, sampleUrl, none⟩ ∧
      held.HoldsThrough [answer .keepAlive 200] ∧
      (∃ last, (held.after (answer .keepAlive 200)).transaction? = some last ∧
        held.Continues [answer .keepAlive 200] ⟨9, sampleUrl, none⟩ last) ∧
      (held.after (answer .keepAlive 500)).transaction? = none ∧
      ((held.after (answer .keepAlive 200)).result? (answer (.commit []) 200) = some (.ok []) ∧
        ∃ result, new.result? sampleOpening = some result ∧
          ∀ error, result = .error error → error.IsLocal) ∧
      gone.transaction? = none ∧
      (.delete sampleUrl ∈ (gone.after sampleOpening).calls (answer .rollback 200) ∧
        ∃ met ∈ gone.trace [sampleOpening], met.1.Supplies met.2 sampleUrl) := by
  intro new held answer gone
  have hlife := life_of_transaction sampleEndpoint sampleConfig [sampleOpening]
  have hholds : held.HoldsThrough [answer .keepAlive 200] := ⟨rfl, rfl⟩
  have hcommit :
      (held.after (answer .keepAlive 200)).result? (answer (.commit []) 200) = some (.ok []) := rfl
  have hcalled : .delete sampleUrl ∈ (gone.after sampleOpening).calls (answer .rollback 200) :=
    List.mem_singleton.2 rfl
  refine ⟨rfl, hholds, ?_, ?_, ⟨hcommit, ?_⟩, rfl, hcalled, ?_⟩
  · exact hlife.1 ⟨9, sampleUrl, none⟩ [answer .keepAlive 200] rfl hholds
  · exact hlife.2.1 (answer .keepAlive 500) _ rfl trivial
  · exact (life_of_transaction sampleEndpoint sampleConfig []).2.2.1 sampleOpening
      [answer .keepAlive 200] [] _ [] hholds hcommit _ List.mem_cons_self trivial
  · exact hlife.2.2.2 ⟨9, sampleUrl, none⟩ (answer .rollback 200) [sampleOpening] _ _ rfl rfl
      hcalled (.inl rfl)

end CypherSession.Session
