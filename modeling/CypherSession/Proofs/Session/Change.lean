import CypherSession.Proofs.Session.Transition

/-!
# What a verdict changes

However an exchange ends, the session comes out of it in one of few ways: as it was, without its
transaction, with a new one, or with a later expiry. A confirmed commit and closing are apart. From
this list follows what no operation changes: the endpoint, the configuration, and, but for commits
and rollbacks, how the last transaction ended.
-/

namespace CypherSession.Session

/-- What an exchange can leave of a session, by its verdict. -/
inductive Change (session : Session) : Exchange → Verdict → Session → Prop where
  | kept {exchange : Exchange} {verdict : Verdict} : Change session exchange verdict session
  | discarded {exchange : Exchange} {verdict : Verdict} :
      Change session exchange verdict session.discard
  | settled {exchange : Exchange} {verdict : Verdict} :
      Change session exchange verdict (session.settle .rolledBack)
  | opened {exchange : Exchange} {decoded : Decoded} (hnone : session.transaction? = none) :
      Change session exchange (.accepted decoded) (session.opened decoded).1
  | renewed {exchange : Exchange} {decoded : Decoded} {transaction : Transaction}
      (hruns : exchange.RunsInTransaction) (hheld : session.transaction? = some transaction) :
      Change session exchange (.accepted decoded) { session with
        transaction? := some { transaction with
          expires? := decoded.expires?.or transaction.expires? } }

variable {session : Session} {exchange : Exchange}

theorem change_ranAtOnce (verdict : Verdict) :
    session.Change exchange verdict (session.ranAtOnce verdict).1 := by
  cases verdict <;> exact .kept

theorem change_ranOpening (hnone : session.transaction? = none) (verdict : Verdict) :
    session.Change exchange verdict (session.ranOpening verdict).1 := by
  cases verdict with
  | unanswered error | senseless error | refused decoded error => exact .kept
  | accepted decoded => exact .opened hnone

theorem change_failed (decoded : Decoded) (error : ServerError) (verdict : Verdict) :
    session.Change exchange verdict (session.failed decoded error).1 := by
  unfold failed
  split
  · exact .settled
  simp only
  split
  · exact .settled
  · exact .kept

/-- A response that is accepted opens a transaction where there was none, and renews the one that is
held. -/
theorem change_succeeded (hruns : exchange.RunsInTransaction) (decoded : Decoded) :
    session.Change exchange (.accepted decoded) (session.succeeded decoded).1 := by
  cases htransaction : session.transaction? with
  | none =>
    rw [succeeded_of_none htransaction]
    exact .opened htransaction
  | some transaction =>
    rcases succeeded_of_held decoded htransaction with ⟨id, -, -, hswitched⟩ | ⟨-, hkept⟩
    · rw [hswitched]
      exact .discarded
    · rw [hkept]
      exact .renewed hruns htransaction

theorem change_ranInTransaction (hruns : exchange.RunsInTransaction) (verdict : Verdict) :
    session.Change exchange verdict (session.ranInTransaction verdict).1 := by
  cases verdict with
  | unanswered error => exact .kept
  | senseless error => exact .discarded
  | refused decoded error => exact change_failed decoded error _
  | accepted decoded => exact change_succeeded hruns decoded

/-- Without a response a transaction is kept, or given up if the call may have ended it. -/
theorem change_unanswered (error : SessionError) (verdict : Verdict) :
    session.Change exchange verdict (session.unanswered error) := by
  unfold unanswered
  split
  · exact .discarded
  · exact .kept

theorem change_ranCommit (transaction : Transaction) (verdict : Verdict) :
    session.Change exchange verdict (ranCommit transaction session verdict).1 ∨
      ∃ decoded, verdict = .accepted decoded := by
  cases verdict with
  | unanswered error => exact .inl (change_unanswered error _)
  | senseless error => exact .inl .discarded
  | refused decoded error => exact .inl .settled
  | accepted decoded => exact .inr ⟨decoded, rfl⟩

theorem change_ranRollback (verdict : Verdict) :
    session.Change exchange verdict (session.ranRollback verdict).1 := by
  cases verdict with
  | unanswered error => exact change_unanswered error _
  | senseless error | refused decoded error | accepted decoded => exact .settled

inductive Ended (session : Session) : Exchange → Verdict → Session → Prop where
  | changed {exchange : Exchange} {verdict : Verdict} {next : Session}
      (hchange : session.Change exchange verdict next) : Ended session exchange verdict next
  | committed {transaction : Transaction} {request : Request} {decoded : Decoded} :
      Ended session (.committing transaction request) (.accepted decoded)
        (session.settle .committed)
  | closed {transaction : Transaction} {verdict : Verdict} {next : Session}
      (hchange : session.Change (.closing transaction) verdict next) :
      Ended session (.closing transaction) verdict next.shut

/-- Every exchange ends in one of these ways, whatever the reply. -/
theorem ended_after (hheld : session.phase = .held ↔ session.transaction?.isSome)
    {operation : Operation} (hstarts : operation.Starts session exchange) (reply : Reply) :
    { session with pending := false }.Ended exchange (exchange.verdict session reply)
      (exchange.after session reply).1 := by
  unfold Exchange.after
  generalize exchange.verdict session reply = verdict
  cases hstarts with
  | executeAtOnce | commitAtOnce => exact .changed (change_ranAtOnce verdict)
  | begin _ hidle | executeNothing _ _ _ hidle =>
    have hnone : ({ session with pending := false } : Session).transaction? = none := by
      simpa [hheld] using hidle
    exact .changed (change_ranOpening hnone verdict)
  | execute | keepAlive => exact .changed (change_ranInTransaction (by trivial) verdict)
  | commit =>
    rcases change_ranCommit _ verdict with hchange | ⟨decoded, rfl⟩
    · exact .changed hchange
    · exact .committed
  | rollback => exact .changed (change_ranRollback verdict)
  | close => exact .closed (change_ranRollback verdict)

/-! ## What stays -/

def SameOrigin (session other : Session) : Prop :=
  other.endpoint = session.endpoint ∧ other.config = session.config

theorem SameOrigin.refl (session : Session) : session.SameOrigin session := ⟨rfl, rfl⟩

theorem SameOrigin.trans {other third : Session} (h : session.SameOrigin other)
    (h' : other.SameOrigin third) : session.SameOrigin third :=
  ⟨h'.1.trans h.1, h'.2.trans h.2⟩

theorem sameOrigin_discard (session : Session) : session.SameOrigin session.discard := by
  unfold discard
  split
  · exact ⟨rfl, rfl⟩
  · exact ⟨rfl, rfl⟩

theorem Change.sameOrigin {verdict : Verdict} {next : Session}
    (h : session.Change exchange verdict next) : session.SameOrigin next := by
  cases h with
  | kept | settled | renewed => exact ⟨rfl, rfl⟩
  | discarded => exact sameOrigin_discard session
  | opened =>
    unfold Session.opened
    split
    · exact ⟨rfl, rfl⟩
    · exact .refl session

/-- No exchange changes the endpoint or the configuration. -/
theorem Ended.sameOrigin {verdict : Verdict} {next : Session}
    (h : session.Ended exchange verdict next) : session.SameOrigin next := by
  cases h with
  | changed hchange | closed hchange => exact hchange.sameOrigin
  | committed => exact ⟨rfl, rfl⟩

theorem pending_discard (session : Session) : session.discard.pending = session.pending := by
  unfold discard
  split
  · rfl
  · rfl

theorem Change.pending {verdict : Verdict} {next : Session}
    (h : session.Change exchange verdict next) : next.pending = session.pending := by
  cases h with
  | kept | settled | renewed => rfl
  | discarded => exact pending_discard session
  | opened =>
    unfold Session.opened
    split
    · rfl
    · rfl

/-- No reply leaves an abandoned call behind. -/
theorem Ended.not_pending {verdict : Verdict} {next : Session}
    (h : session.Ended exchange verdict next) (hpending : session.pending = false) :
    next.pending = false := by
  cases h with
  | changed hchange => exact hchange.pending.trans hpending
  | committed => exact hpending
  | closed => rfl

/-- A session whose last transaction is the one of before, or was rolled back since. -/
def KeepsOutcome (session other : Session) : Prop :=
  other.lastOutcome? = session.lastOutcome? ∨ other.lastOutcome? = some .rolledBack

theorem keepsOutcome_discard (session : Session) : session.KeepsOutcome session.discard := by
  unfold discard
  split
  · exact .inr rfl
  · exact .inl rfl

theorem Change.keepsOutcome {verdict : Verdict} {next : Session}
    (h : session.Change exchange verdict next) : session.KeepsOutcome next := by
  cases h with
  | kept | renewed => exact .inl rfl
  | discarded => exact keepsOutcome_discard session
  | settled => exact .inr rfl
  | opened =>
    unfold Session.opened
    split
    · exact .inl rfl
    · exact .inl rfl

end CypherSession.Session
