import CypherSession.Proofs.Session.Life

/-!
# The last outcome

An event that ends a transaction leaves its outcome behind: it is committed if the event is a commit
that succeeds, and rolled back otherwise. There is one exception. A session that is closed while the
request to roll its transaction back surely does not reach the server gives the transaction up, but
it says of an earlier transaction how that one ended, or nothing at all.
-/

namespace CypherSession

def Reply.IsUnsent (reply : Reply) : Prop :=
  ∃ cause, reply = .failed cause ∧ cause.isAmbiguous = false

namespace Session

/-- The event closes the session, and the request to roll back is not sent. -/
def Event.IsUnsentClose (event : Event) : Prop :=
  event.operation = .close ∧ ∃ reply, event.ending = .replied reply ∧ reply.IsUnsent

def Operation.outcome :
    Operation → Option (Except SessionError (List Envelope)) → Outcome
  | commit _, some (.ok _) => .committed
  | _, _ => .rolledBack

/-- The last outcome after an event is the outcome of the transaction that the event ends. -/
def Describes (session : Session) (event : Event) : Prop :=
  (session.after event).lastOutcome? = some (event.operation.outcome (session.result? event))

/-- The event takes a transaction from the session, which holds it before and not after. -/
structure GivesUp (session : Session) (event : Event) (transaction : Transaction) : Prop where
  held : session.transaction? = some transaction
  gone : ∀ next, (session.after event).transaction? = some next → next.id ≠ transaction.id

variable {session : Session} {operation : Operation} {exchange : Exchange}
  {transaction : Transaction}

/-- No other transaction takes the place of one that is given up. -/
theorem GivesUp.transaction?_after (h : session.WellFormed) {event : Event}
    (hgives : session.GivesUp event transaction) : (session.after event).transaction? = none := by
  cases hafter : (session.after event).transaction? with
  | none => rfl
  | some next =>
    rcases held_after h event hafter with hsupplied | ⟨old, hold, hcontinues⟩
    · have hidle := hsupplied.idle
      rw [hgives.held] at hidle
      cases hidle
    · rw [hgives.held] at hold
      cases hold
      exact absurd hcontinues.id (hgives.gone next hafter)

theorem lastOutcome?_discard (hheld : session.transaction? = some transaction) :
    session.discard.lastOutcome? = some .rolledBack := by
  rw [discard_of_held hheld]
  rfl

/-- A transaction that is gone without a commit counts as rolled back. -/
theorem Change.lastOutcome?_of_gone {verdict : Verdict} {next : Session}
    (h : session.Change exchange verdict next) (hheld : session.transaction? = some transaction)
    (hgone : next.transaction? = none) : next.lastOutcome? = some .rolledBack := by
  cases h with
  | kept =>
    rw [hheld] at hgone
    cases hgone
  | discarded => exact lastOutcome?_discard hheld
  | settled => rfl
  | opened hnone =>
    rw [hheld] at hnone
    cases hnone
  | renewed => cases hgone

/-! ## Closing -/

/-- A rollback that is not sent leaves the last outcome as it was. -/
theorem lastOutcome?_ranRollback_of_unsent (session : Session) {reply : Reply}
    (hunsent : reply.IsUnsent) (operation : String) (timeout : Duration) (request : Request)
    (maxRows : Nat) :
    (session.ranRollback (reply.verdict operation timeout request maxRows)).1.lastOutcome? =
      session.lastOutcome? := by
  obtain ⟨cause, rfl, hcause⟩ := hunsent
  rw [Reply.verdict, if_neg (by simp [hcause])]
  rfl

theorem lastOutcome?_ranRollback (hheld : session.transaction? = some transaction) {reply : Reply}
    (hsent : ¬reply.IsUnsent) (operation : String) (timeout : Duration) (request : Request)
    (maxRows : Nat) :
    (session.ranRollback (reply.verdict operation timeout request maxRows)).1.lastOutcome? =
      some .rolledBack := by
  cases hverdict : reply.verdict operation timeout request maxRows with
  | senseless | refused | accepted => rfl
  | unanswered error =>
    have hambiguous : error.isAmbiguous = true := by
      cases reply with
      | answered raw => exact absurd hverdict RawResponse.verdict_ne_unanswered
      | silent =>
        cases hverdict
        rfl
      | failed cause =>
        have hcause : cause.isAmbiguous = true := by
          by_contra hnot
          exact hsent ⟨cause, rfl, by simpa using hnot⟩
        rw [Reply.verdict, if_pos hcause] at hverdict
        cases hverdict
        rfl
    change (session.unanswered error).lastOutcome? = _
    rw [unanswered, if_pos hambiguous]
    exact lastOutcome?_discard hheld

/-! ## Events that end a transaction -/

theorem lastOutcome?_ranCommit (hheld : session.transaction? = some transaction)
    {verdict : Verdict} (hgone : (ranCommit transaction session verdict).1.transaction? = none)
    (descriptors : List Descriptor) :
    (ranCommit transaction session verdict).1.lastOutcome? =
      some ((Operation.commit descriptors).outcome
        (some (ranCommit transaction session verdict).2)) := by
  cases verdict with
  | accepted decoded => rfl
  | senseless error => exact lastOutcome?_discard hheld
  | refused decoded error => rfl
  | unanswered error =>
    have hchange : session.Change .opening (.unanswered error) (session.unanswered error) :=
      change_unanswered error _
    exact hchange.lastOutcome?_of_gone hheld hgone

/-- An exchange that ends a transaction remembers its outcome, unless it is the rollback of closing
and is not sent. -/
theorem lastOutcome?_of_exchange (h : session.WellFormed)
    (hheld : session.transaction? = some transaction) (hstarts : operation.Starts session exchange)
    {reply : Reply} (hgone : (exchange.after session reply).1.transaction? = none)
    (hsent : operation = .close → ¬reply.IsUnsent) :
    (exchange.after session reply).1.lastOutcome? =
      some (operation.outcome (some (exchange.after session reply).2)) := by
  have hseen : ({ session with pending := false } : Session).transaction? = some transaction :=
    hheld
  cases hstarts with
  | executeAtOnce _ _ hauto =>
    rw [h.autoCommit_eq_false hheld] at hauto
    cases hauto
  | commitAtOnce _ _ hnone =>
    rw [hheld] at hnone
    cases hnone
  | begin _ hphase | executeNothing _ _ _ hphase => exact absurd (h.phase_eq_held hheld) hphase
  | @execute _ request =>
    have hruns : (Exchange.running request).RunsInTransaction := trivial
    exact (change_ranInTransaction hruns _).lastOutcome?_of_gone hseen hgone
  | keepAlive =>
    have hruns : Exchange.keepingAlive.RunsInTransaction := trivial
    exact (change_ranInTransaction hruns _).lastOutcome?_of_gone hseen hgone
  | commit _ hown =>
    rw [hheld] at hown
    cases hown
    exact lastOutcome?_ranCommit hseen hgone _
  | @rollback other =>
    have hchange (verdict : Verdict) : ({ session with pending := false } : Session).Change
      (.rollingBack other) verdict _ := change_ranRollback verdict
    exact (hchange _).lastOutcome?_of_gone hseen hgone
  | close =>
    have hrolledBack := lastOutcome?_ranRollback hseen (hsent rfl) "rollback"
      session.config.timeout .empty 0
    exact hrolledBack

theorem describes_of_givesUp (h : session.WellFormed) {event : Event}
    (hgives : session.GivesUp event transaction) (hsent : ¬event.IsUnsentClose) :
    session.Describes event := by
  have hheld := hgives.held
  have hgone := hgives.transaction?_after h
  obtain ⟨operation, ending⟩ := event
  unfold Describes
  have htransition := session.transition ⟨operation, ending⟩
  generalize session.after ⟨operation, ending⟩ = next,
    session.result? ⟨operation, ending⟩ = result?,
    session.calls ⟨operation, ending⟩ = calls at htransition hgone ⊢
  cases htransition with
  | closed | closedAgain | unsendable | switched | unswitched | nothing | paused =>
    have hstill : session.transaction? = none := hgone
    rw [hheld] at hstill
    cases hstill
  | shut _ hnone =>
    rw [hheld] at hnone
    cases hnone
  | reported =>
    have houtcome : operation.outcome (some (.error .abandoned)) = .rolledBack := by
      cases operation <;> rfl
    rw [houtcome]
    exact lastOutcome?_discard hheld
  | replied _ _ hexchange =>
    have hstarts := Operation.starts_of_exchange? hexchange
    apply lastOutcome?_of_exchange h hheld hstarts hgone
    intro hclose hunsent
    exact hsent ⟨hclose, _, rfl, hunsent⟩

/-- Closing leaves the last outcome as it was if its rollback is not sent. -/
theorem lastOutcome?_of_isUnsentClose {event : Event} (hunsent : event.IsUnsentClose) :
    (session.after event).lastOutcome? = session.lastOutcome? := by
  obtain ⟨operation, ending⟩ := event
  obtain ⟨rfl : operation = .close, reply, rfl : ending = .replied reply, hreply⟩ := hunsent
  have htransition := session.transition ⟨.close, .replied reply⟩
  generalize session.after ⟨.close, .replied reply⟩ = next, session.result? _ = result?,
    session.calls _ = calls at htransition ⊢
  cases htransition with
  | closed | closedAgain | unsendable | nothing | shut => rfl
  | reported _ _ hguarded => exact hguarded.elim
  | replied _ _ hexchange =>
    cases Operation.starts_of_exchange? hexchange with
    | close =>
      have hkept (seen : Session) := seen.lastOutcome?_ranRollback_of_unsent hreply
        "rollback" session.config.timeout .empty 0
      exact hkept { session with pending := false }

/-- **What the last outcome tells.** When an event takes a transaction from a session, the last
outcome after it is the outcome of that transaction: committed after a commit that succeeds, rolled
back after anything else. It is so unless the event closes the session and the request to roll back
is surely not sent. Then the last outcome stays the one of before, which is right only if that says
rolled back. -/
theorem outcome_describes_ended (endpoint : Endpoint) (config : SessionConfig)
    (past : List Event) :
    let session := (start endpoint config).afterAll past
    ∀ transaction event, session.GivesUp event transaction →
      (session.Describes event ↔
        ¬event.IsUnsentClose ∨ session.lastOutcome? = some .rolledBack) ∧
      (event.IsUnsentClose → (session.after event).lastOutcome? = session.lastOutcome?) := by
  intro session transaction event hgives
  have h : session.WellFormed := (wellFormed_start endpoint config).afterAll past
  refine ⟨?_, lastOutcome?_of_isUnsentClose⟩
  by_cases hunsent : event.IsUnsentClose
  · have houtcome : event.operation.outcome (session.result? event) = .rolledBack := by
      rw [hunsent.1]
      rfl
    rw [Describes, lastOutcome?_of_isUnsentClose hunsent, houtcome]
    exact ⟨.inr, fun hrolledBack => hrolledBack.resolve_left (absurd hunsent)⟩
  · exact iff_of_true (describes_of_givesUp h hgives hunsent) (.inl hunsent)

def secondUrl : String := "http://localhost:7474/db/data/transaction/10"

def twoTransactions : List Event :=
  [sampleOpening,
    ⟨.commit [], .replied (.answered { status := 200, body := "" })⟩,
    ⟨.begin, .replied (.answered { status := 201, location? := some secondUrl, body := "" })⟩]

def sampleSecond : Session := (start sampleEndpoint sampleConfig).afterAll twoTransactions

def sampleUnsentClose : Event where
  operation := .close
  ending := .replied (.failed ⟨.connect, "connection refused"⟩)

/-- A response that makes no sense ends the second transaction, and so does closing. -/
theorem outcome_describes_ended_second :
    let failing : Event := ⟨.keepAlive, .replied (.answered { status := 500, body := "" })⟩
    sampleSecond.GivesUp failing ⟨10, secondUrl, none⟩ ∧ ¬failing.IsUnsentClose ∧
      sampleSecond.Describes failing ∧
      sampleSecond.GivesUp sampleUnsentClose ⟨10, secondUrl, none⟩ ∧
      sampleUnsentClose.IsUnsentClose ∧
      (sampleSecond.after sampleUnsentClose).lastOutcome? = sampleSecond.lastOutcome? := by
  intro failing
  have houtcome := outcome_describes_ended sampleEndpoint sampleConfig twoTransactions
  have hfailing : sampleSecond.GivesUp failing ⟨10, secondUrl, none⟩ := ⟨rfl, nofun⟩
  have hclosing : sampleSecond.GivesUp sampleUnsentClose ⟨10, secondUrl, none⟩ := ⟨rfl, nofun⟩
  have hsent : ¬failing.IsUnsentClose := nofun
  have hunsent : sampleUnsentClose.IsUnsentClose := ⟨rfl, _, rfl, _, rfl, rfl⟩
  have hdescribes := (houtcome _ failing hfailing).1.2 (.inl hsent)
  have hkept := (houtcome _ sampleUnsentClose hclosing).2 hunsent
  exact ⟨hfailing, hsent, hdescribes, hclosing, hunsent, hkept⟩

/-- The session gives its second transaction up and still says that the last one was committed. -/
theorem stale_outcome_after_unsent_close :
    sampleSecond.GivesUp sampleUnsentClose ⟨10, secondUrl, none⟩ ∧
      (sampleSecond.after sampleUnsentClose).lastOutcome? = some .committed ∧
      ¬sampleSecond.Describes sampleUnsentClose := by
  have hlast : (sampleSecond.after sampleUnsentClose).lastOutcome? = some .committed := rfl
  refine ⟨⟨rfl, nofun⟩, hlast, ?_⟩
  intro hdescribes
  have hrolledBack : (sampleSecond.after sampleUnsentClose).lastOutcome? = some .rolledBack :=
    hdescribes
  rw [hlast] at hrolledBack
  cases hrolledBack

end Session

end CypherSession
