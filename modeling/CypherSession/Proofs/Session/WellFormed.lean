import CypherSession.Proofs.Response.TransactionUrl
import CypherSession.Proofs.Session.Change
import CypherSession.Proofs.Session.Verdict

/-!
# Well-formed sessions

A session keeps its phase and its transaction apart, and every operation has to keep them together:
a transaction is held in the phase `held` and in no other one, never with autocommit, and its URL
carries its number. Every end of every exchange keeps this, and with it every event and every run.
-/

namespace CypherSession.Session

/-- What holds of a session whenever no operation is under way. -/
structure WellFormed (session : Session) : Prop where
  /-- The phases of an ended transaction are passed through only. -/
  phase : session.phase = .idle ∨ session.phase = .held ∨ session.phase = .closed
  held_iff : session.phase = .held ↔ session.transaction?.isSome
  transaction_of_autoCommit : session.autoCommit = true → session.transaction? = none
  transaction_of_closed : session.phase = .closed → session.transaction? = none
  outcome : session.lastOutcome? = none ∨ session.lastOutcome? = some .committed ∨
    session.lastOutcome? = some .rolledBack
  identity : ∀ transaction, session.transaction? = some transaction →
    0 < transaction.id ∧ TransactionUrl.number transaction.url = .ok transaction.id

variable {session : Session}

/-- A new session is well-formed. -/
theorem wellFormed_start (endpoint : Endpoint) (config : SessionConfig) :
    (start endpoint config).WellFormed where
  phase := .inl rfl
  held_iff := by simp [start]
  transaction_of_autoCommit _ := rfl
  transaction_of_closed _ := rfl
  outcome := .inl rfl
  identity := nofun

namespace WellFormed

/-- A session without a transaction is well-formed in any phase that fits. -/
theorem of_none (h : session.WellFormed) {after : Session}
    (htransaction : after.transaction? = none)
    (hphase : after.phase = .idle ∨ after.phase = .closed)
    (houtcome : after.lastOutcome? = session.lastOutcome? ∨
      after.lastOutcome? = some .committed ∨ after.lastOutcome? = some .rolledBack) :
    after.WellFormed where
  phase := by
    rcases hphase with h | h
    · exact .inl h
    · exact .inr (.inr h)
  held_iff := by
    rcases hphase with h | h <;> simp [h, htransaction]
  transaction_of_autoCommit _ := htransaction
  transaction_of_closed _ := htransaction
  outcome := by
    rcases houtcome with houtcome | houtcome
    · rw [houtcome]
      exact h.outcome
    · exact .inr houtcome
  identity transaction h := by
    rw [htransaction] at h
    cases h

theorem withPending (h : session.WellFormed) (pending : Bool) :
    { session with pending }.WellFormed :=
  ⟨h.phase, h.held_iff, h.transaction_of_autoCommit, h.transaction_of_closed, h.outcome, h.identity⟩

theorem settle (h : session.WellFormed) {outcome : Outcome}
    (houtcome : outcome = .committed ∨ outcome = .rolledBack) :
    (session.settle outcome).WellFormed := by
  apply h.of_none rfl (.inl rfl)
  rcases houtcome with rfl | rfl
  · exact .inr (.inl rfl)
  · exact .inr (.inr rfl)

theorem discard (h : session.WellFormed) : session.discard.WellFormed := by
  cases htransaction : session.transaction? with
  | some transaction =>
    rw [discard_of_held htransaction]
    exact h.settle (.inr rfl)
  | none =>
    rw [discard_of_none htransaction]
    exact h.of_none htransaction (.inl rfl) (.inl rfl)

theorem shut (h : session.WellFormed) : session.shut.WellFormed :=
  h.of_none rfl (.inr rfl) (.inl rfl)

/-- Holding a transaction, new or renewed, needs autocommit to be off and the URL to carry the
number. -/
theorem hold (h : session.WellFormed) (hauto : session.autoCommit = false)
    (transaction : Transaction)
    (hnumber : TransactionUrl.number transaction.url = .ok transaction.id) :
    { session with phase := .held, transaction? := some transaction }.WellFormed where
  phase := .inr (.inl rfl)
  held_iff := by simp
  transaction_of_autoCommit := by simp [hauto]
  transaction_of_closed := nofun
  outcome := h.outcome
  identity := by
    rintro transaction ⟨⟩
    exact ⟨TransactionUrl.pos_of_number_eq_ok hnumber, hnumber⟩

theorem autoCommit_eq_false (h : session.WellFormed) {transaction : Transaction}
    (hheld : session.transaction? = some transaction) : session.autoCommit = false := by
  cases hauto : session.autoCommit with
  | false => rfl
  | true =>
    have hnone := h.transaction_of_autoCommit hauto
    rw [hheld] at hnone
    cases hnone

theorem phase_eq_held (h : session.WellFormed) {transaction : Transaction}
    (hheld : session.transaction? = some transaction) : session.phase = .held :=
  h.held_iff.2 (by rw [hheld]; rfl)

theorem transaction_of_not_held (h : session.WellFormed) (hphase : session.phase ≠ .held) :
    session.transaction? = none := by
  cases hheld : session.transaction? with
  | none => rfl
  | some transaction => exact absurd (h.phase_eq_held hheld) hphase

/-! ## Exchanges -/

/-- A session stays well-formed when it takes a transaction from a response. -/
theorem opened (h : session.WellFormed) (hauto : session.autoCommit = false) {decoded : Decoded}
    (hsound : (Verdict.accepted decoded).Sound) : (session.opened decoded).1.WellFormed := by
  unfold Session.opened
  cases hid : decoded.transaction? with
  | none => exact h
  | some id =>
    cases hurl : decoded.location? with
    | none => exact h
    | some url => exact h.hold hauto ⟨id, url, decoded.expires?⟩ (hsound id url hid hurl)

theorem of_change (h : session.WellFormed) (hauto : session.autoCommit = false)
    {exchange : Exchange} {verdict : Verdict} (hsound : verdict.Sound) {next : Session}
    (hchange : session.Change exchange verdict next) : next.WellFormed := by
  cases hchange with
  | kept => exact h
  | discarded => exact h.discard
  | settled => exact h.settle (.inr rfl)
  | opened => exact h.opened hauto hsound
  | @renewed decoded transaction _ hheld =>
    obtain ⟨-, hnumber⟩ := h.identity transaction hheld
    have hrenewed := h.hold hauto
      { transaction with expires? := decoded.expires?.or transaction.expires? } hnumber
    simpa only [h.phase_eq_held hheld] using hrenewed

theorem of_ended (h : session.WellFormed) (hauto : session.autoCommit = false)
    {exchange : Exchange} {verdict : Verdict} (hsound : verdict.Sound) {next : Session}
    (hended : session.Ended exchange verdict next) : next.WellFormed := by
  cases hended with
  | changed hchange => exact h.of_change hauto hsound hchange
  | committed => exact h.settle (.inl rfl)
  | closed hchange => exact (h.of_change hauto hsound hchange).shut

/-- The end of an exchange keeps a session well-formed. -/
theorem afterExchange (h : session.WellFormed) {operation : Operation} {exchange : Exchange}
    (hstarts : operation.Starts session exchange) (reply : Reply) :
    (exchange.after session reply).1.WellFormed := by
  have hseen := h.withPending false
  have hsound : (exchange.verdict session reply).Sound := Reply.sound_verdict ..
  have hended := ended_after h.held_iff hstarts reply
  cases hstarts with
  | executeAtOnce | commitAtOnce =>
    unfold Exchange.after
    generalize (Exchange.atOnce _ _).verdict session reply = verdict
    cases verdict <;> exact hseen
  | begin hauto | executeNothing _ _ hauto | execute _ _ hauto =>
    exact hseen.of_ended hauto hsound hended
  | keepAlive hheld | commit _ hheld | rollback hheld | close hheld =>
    exact hseen.of_ended (h.autoCommit_eq_false hheld) hsound hended

/-! ## Events and runs -/

theorem switched (h : session.WellFormed) {enabled : Bool}
    (henabled : enabled = session.autoCommit ∨ session.phase ≠ .held) :
    { session with autoCommit := enabled }.WellFormed where
  phase := h.phase
  held_iff := h.held_iff
  transaction_of_autoCommit hauto := by
    rcases henabled with rfl | hphase
    · exact h.transaction_of_autoCommit hauto
    · exact h.transaction_of_not_held hphase
  transaction_of_closed := h.transaction_of_closed
  outcome := h.outcome
  identity := h.identity

/-- **Every transition keeps a session well-formed.** -/
theorem of_transition (h : session.WellFormed) {operation : Operation} {ending : Ending}
    {next : Session} {result? : Option (Except SessionError (List Envelope))} {calls : List Call}
    (htransition : Transition session operation ending next result? calls) :
    next.WellFormed := by
  cases htransition with
  | closed | closedAgain | unsendable | unswitched | nothing => exact h
  | reported => exact h.discard.withPending false
  | switched _ henabled => exact h.switched henabled
  | shut => exact h.shut
  | paused => exact h.withPending true
  | replied _ _ hexchange => exact h.afterExchange (Operation.starts_of_exchange? hexchange) _

theorem after (h : session.WellFormed) (event : Event) : (session.after event).WellFormed :=
  h.of_transition (session.transition event)

theorem afterAll (h : session.WellFormed) (events : List Event) :
    (session.afterAll events).WellFormed :=
  Run.afterAll_of_after (fun _ event h => h.after event) h events

end WellFormed

theorem WellFormed.sameOrigin_after (h : session.WellFormed) (event : Event) :
    session.SameOrigin (session.after event) := by
  have htransition := session.transition event
  generalize event.operation = operation, event.ending = ending, session.after event = next,
    session.result? event = result?, session.calls event = calls at htransition
  cases htransition with
  | closed | closedAgain | unsendable | unswitched | nothing => exact .refl session
  | switched | shut | paused => exact ⟨rfl, rfl⟩
  | reported => exact sameOrigin_discard session
  | replied _ _ hexchange =>
    exact (ended_after h.held_iff (Operation.starts_of_exchange? hexchange) _).sameOrigin

/-- A run does not change the endpoint or the configuration. -/
theorem WellFormed.sameOrigin_afterAll (h : session.WellFormed) (events : List Event) :
    session.SameOrigin (session.afterAll events) := by
  induction events generalizing session with
  | nil => exact .refl session
  | cons event rest ih => exact (h.sameOrigin_after event).trans (ih (h.after event))

/-- **Every session that can come about is well-formed**, whatever is asked of it, however its calls
end, and whichever of them are abandoned. -/
theorem wellFormed_of_run (endpoint : Endpoint) (config : SessionConfig) (events : List Event) :
    ((start endpoint config).afterAll events).WellFormed :=
  (wellFormed_start endpoint config).afterAll events

end CypherSession.Session
