import CypherSession.Proofs.Response.RowLimit
import CypherSession.Proofs.Statement.Encoding
import CypherSession.Proofs.Session.WellFormed

/-!
# Sessions under a limit on rows

A session under a limit does what the session without a limit does: it makes the same calls and goes
through the same states, and its results are those of the other one, less some rows. Every operation
keeps this, since none of them looks at a row before it returns it.
-/

namespace CypherSession

variable {α β : Type}

def limitResult (limit : Nat) (cut : α → α) : Except SessionError α → Except SessionError α
  | .ok value => .ok (cut value)
  | .error error => .error (error.limitRows limit)

namespace Session

def withLimit (limit : Nat) (session : Session) : Session :=
  { session with config := { session.config with maxRows := limit } }

def limitEnd (limit : Nat) (cut : α → α) (ended : Session × Except SessionError α) :
    Session × Except SessionError α :=
  (ended.1.withLimit limit, limitResult limit cut ended.2)

def limitStep (limit : Nat) (cut : α → α) (step : Step Session (Except SessionError α)) :
    Step Session (Except SessionError α) :=
  (step.lift (withLimit limit)).map (limitResult limit cut)

variable {session : Session} {limit : Nat}

/-! ## Ends of exchanges -/

/-- A limit on rows does not matter when a transaction is given up. -/
theorem discard_withLimit (limit : Nat) (session : Session) :
    (session.withLimit limit).discard = session.discard.withLimit limit := by
  have hsame : (session.withLimit limit).transaction? = session.transaction? := rfl
  cases htransaction : session.transaction? with
  | none =>
    rw [discard_of_none htransaction]
    exact discard_of_none (hsame.trans htransaction)
  | some transaction =>
    rw [discard_of_held htransaction]
    exact discard_of_held (hsame.trans htransaction)

theorem unanswered_withLimit (limit : Nat) (session : Session) (error : SessionError) :
    (session.withLimit limit).unanswered (error.limitRows limit) =
      (session.unanswered error).withLimit limit := by
  have hambiguous : (error.limitRows limit).isAmbiguous = error.isAmbiguous := by
    cases error <;> rfl
  unfold unanswered
  rw [hambiguous]
  split
  · exact discard_withLimit limit session
  · rfl

theorem limitRows_refusal (limit : Nat) (decoded : Decoded) (error : ServerError) (id : Nat) :
    (if error.isTransactionNotFound then .expired id
      else (decoded.limitRows limit).failure error) =
      (if error.isTransactionNotFound then SessionError.expired id
        else decoded.failure error).limitRows limit := by
  split
  · rfl
  · exact Decoded.failure_limitRows limit decoded error

theorem opened_withLimit (limit : Nat) (session : Session) (decoded : Decoded) :
    (session.withLimit limit).opened (decoded.limitRows limit) =
      limitEnd limit id (session.opened decoded) := by
  unfold Session.opened
  split
  · rename_i hid hurl
    have hid : decoded.transaction? = _ := hid
    have hurl : decoded.location? = _ := hurl
    simp only [hid, hurl]
    rfl
  · rename_i hmissing
    split
    · rename_i hid hurl
      exact absurd hurl (hmissing _ _ hid)
    · rfl

theorem ranAtOnce_withLimit (limit : Nat) (session : Session) (verdict : Verdict) :
    (session.withLimit limit).ranAtOnce (verdict.limitRows limit) =
      limitEnd limit (List.map (Envelope.limitRows limit)) (session.ranAtOnce verdict) := by
  cases verdict with
  | unanswered error | senseless error | accepted decoded => rfl
  | refused decoded error =>
    exact congrArg (fun failure => (session.withLimit limit, Except.error failure))
      (Decoded.failure_limitRows limit decoded error)

theorem failed_withLimit (limit : Nat) (session : Session) (decoded : Decoded)
    (error : ServerError) :
    (session.withLimit limit).failed (decoded.limitRows limit) error =
      limitEnd limit (List.map (Envelope.limitRows limit)) (session.failed decoded error) := by
  have hsame : (session.withLimit limit).transaction? = session.transaction? := rfl
  cases htransaction : session.transaction? with
  | none =>
    rw [failed_of_none htransaction, failed_of_none (hsame.trans htransaction),
      Decoded.failure_limitRows]
    by_cases hnamed : decoded.transaction?.isSome
    · have hlimited : (decoded.limitRows limit).transaction?.isSome := hnamed
      rw [if_pos hnamed, if_pos hlimited]
      rfl
    · have hlimited : ¬(decoded.limitRows limit).transaction?.isSome := hnamed
      rw [if_neg hnamed, if_neg hlimited]
      rfl
  | some transaction =>
    rw [failed_of_held htransaction, failed_of_held (hsame.trans htransaction),
      limitRows_refusal]
    rfl

theorem succeeded_withLimit (limit : Nat) (session : Session) (decoded : Decoded) :
    (session.withLimit limit).succeeded (decoded.limitRows limit) =
      limitEnd limit (List.map (Envelope.limitRows limit)) (session.succeeded decoded) := by
  have hsame : (session.withLimit limit).transaction? = session.transaction? := rfl
  cases htransaction : session.transaction? with
  | none =>
    rw [succeeded_of_none htransaction, succeeded_of_none (hsame.trans htransaction),
      opened_withLimit]
    cases hresult : (session.opened decoded).2 with
    | ok _ => simp only [limitEnd, hresult, limitResult, Except.map, Decoded.limitRows]
    | error error => simp only [limitEnd, hresult, limitResult, Except.map]
  | some transaction =>
    have hnamed : (decoded.limitRows limit).transaction? = decoded.transaction? := rfl
    unfold Session.succeeded
    simp only [hsame, htransaction, hnamed]
    split
    · rw [discard_withLimit]
      rfl
    · rfl

theorem ranInTransaction_withLimit (limit : Nat) (session : Session) (verdict : Verdict) :
    (session.withLimit limit).ranInTransaction (verdict.limitRows limit) =
      limitEnd limit (List.map (Envelope.limitRows limit)) (session.ranInTransaction verdict) := by
  cases verdict with
  | unanswered error => rfl
  | senseless error =>
    exact congrArg (fun left => (left, Except.error (error.limitRows limit)))
      (discard_withLimit limit session)
  | refused decoded error => exact failed_withLimit limit session decoded error
  | accepted decoded => exact succeeded_withLimit limit session decoded

theorem ranOpening_withLimit (limit : Nat) (session : Session) (verdict : Verdict) :
    (session.withLimit limit).ranOpening (verdict.limitRows limit) =
      limitEnd limit id (session.ranOpening verdict) := by
  cases verdict with
  | unanswered error | senseless error => rfl
  | refused decoded error =>
    exact congrArg (fun failure => (session.withLimit limit, Except.error failure))
      (Decoded.failure_limitRows limit decoded error)
  | accepted decoded => exact opened_withLimit limit session decoded

theorem ranCommit_withLimit (limit : Nat) (transaction : Transaction) (session : Session)
    (verdict : Verdict) :
    ranCommit transaction (session.withLimit limit) (verdict.limitRows limit) =
      limitEnd limit (List.map (Envelope.limitRows limit))
        (ranCommit transaction session verdict) := by
  cases verdict with
  | unanswered error =>
    exact congrArg (fun left => (left, Except.error (error.limitRows limit)))
      (unanswered_withLimit limit session error)
  | senseless error =>
    exact congrArg (fun left => (left, Except.error (error.limitRows limit)))
      (discard_withLimit limit session)
  | refused decoded error =>
    exact congrArg (fun failure => (_, Except.error failure))
      (limitRows_refusal limit decoded error transaction.id)
  | accepted decoded => rfl

theorem ranRollback_withLimit (limit : Nat) (session : Session) (verdict : Verdict) :
    (session.withLimit limit).ranRollback (verdict.limitRows limit) =
      limitEnd limit id (session.ranRollback verdict) := by
  cases verdict with
  | unanswered error =>
    exact congrArg (fun left => (left, Except.error (error.limitRows limit)))
      (unanswered_withLimit limit session error)
  | senseless error | accepted decoded => rfl
  | refused decoded error =>
    unfold ranRollback limitEnd
    simp only [Verdict.limitRows]
    split
    · rfl
    · rw [Decoded.failure_limitRows]
      rfl

/-! ## Steps -/

/-- An exchange with a limit on rows is the one without, with fewer rows, if that is so of the
verdict and of the end. -/
theorem exchange_withLimit {operation : String} {call : Call} {maxRows : Nat} {cut : α → α}
    {atEnd : Session → Verdict → Session × Except SessionError α}
    (hverdict : ∀ reply : Reply,
      reply.verdict operation session.config.timeout call.request maxRows =
        (reply.verdict operation session.config.timeout call.request 0).limitRows limit)
    (hend : ∀ session verdict,
      atEnd (session.withLimit limit) (verdict.limitRows limit) =
        limitEnd limit cut (atEnd session verdict)) :
    (session.withLimit limit).exchange operation call maxRows atEnd =
      limitStep limit cut (session.exchange operation call 0 atEnd) := by
  refine congrArg (Step.wait (({ session with pending := true } : Session).withLimit limit) call) ?_
  funext reply
  have hend := hend { session with pending := false }
    (reply.verdict operation session.config.timeout call.request 0)
  rw [← hverdict reply] at hend
  exact hend

theorem guarded_withLimit {cut : α → α} {step step' : Step Session (Except SessionError α)}
    (h : step' = limitStep limit cut step) :
    (session.withLimit limit).guarded step' = limitStep limit cut (session.guarded step) := by
  have hclosed : (session.withLimit limit).isClosed = session.isClosed := rfl
  have hpending : (session.withLimit limit).pending = session.pending := rfl
  unfold guarded
  rw [hclosed, hpending]
  split
  · rfl
  · split
    · rw [discard_withLimit]
      rfl
    · exact h

theorem limitStep_map {cut : α → α} {cut' : β → β} {f : α → β}
    (hf : ∀ value, f (cut value) = cut' (f value))
    (step : Step Session (Except SessionError α)) :
    (limitStep limit cut step).map (·.map f) = limitStep limit cut' (step.map (·.map f)) := by
  have hresult (result : Except SessionError α) :
      (limitResult limit cut result).map f = limitResult limit cut' (result.map f) := by
    cases result with
    | ok value => exact congrArg Except.ok (hf value)
    | error error => rfl
  unfold limitStep
  rw [Step.map_map, Step.lift_map, Step.map_map]
  exact congrArg (Step.map _) (funext hresult)

theorem limitStep_withoutResults (limit : Nat) (step : Step Session (Except SessionError Unit)) :
    ((limitStep limit id step).map (·.map fun _ => []) :
        Step Session (Except SessionError (List Envelope))) =
      limitStep limit (List.map (Envelope.limitRows limit)) (step.map (·.map fun _ => [])) := by
  refine limitStep_map ?_ step
  exact fun _ => rfl

theorem limitStep_refused {cut : α → α} {error : SessionError}
    (h : ∃ value, error = .nonFinite value) :
    (.done (session.withLimit limit) (.error error) : Step Session (Except SessionError α)) =
      limitStep limit cut (.done session (.error error)) := by
  obtain ⟨value, rfl⟩ := h
  rfl

variable (hunlimited : session.config.maxRows = 0)
include hunlimited

theorem runAtOnce_withLimit (limit : Nat) (operation : String) (request : Request) :
    (session.withLimit limit).runAtOnce operation request =
      limitStep limit (List.map (Envelope.limitRows limit))
        (session.runAtOnce operation request) := by
  unfold runAtOnce
  rw [hunlimited]
  exact exchange_withLimit (fun reply => reply.verdict_limitRows ..) (ranAtOnce_withLimit limit)

theorem runInTransaction_withLimit (limit : Nat) (operation : String) (request : Request) :
    (session.withLimit limit).runInTransaction operation request =
      limitStep limit (List.map (Envelope.limitRows limit))
        (session.runInTransaction operation request) := by
  unfold runInTransaction
  rw [hunlimited]
  exact exchange_withLimit (fun reply => reply.verdict_limitRows ..)
    (ranInTransaction_withLimit limit)

theorem openTransaction_withLimit (limit : Nat) :
    (session.withLimit limit).openTransaction = limitStep limit id session.openTransaction := by
  unfold openTransaction
  rw [hunlimited]
  split
  · rw [if_pos ‹_›]
    rfl
  · rw [if_neg ‹_›]
    exact exchange_withLimit (fun reply => reply.verdict_limitRows ..) (ranOpening_withLimit limit)

theorem commitHeld_withLimit (limit : Nat) (transaction : Transaction) (request : Request) :
    (session.withLimit limit).commitHeld transaction request =
      limitStep limit (List.map (Envelope.limitRows limit))
        (session.commitHeld transaction request) := by
  unfold commitHeld
  rw [hunlimited]
  exact exchange_withLimit (fun reply => reply.verdict_limitRows ..)
    (ranCommit_withLimit limit transaction)

omit hunlimited in
theorem rollBackHeld_withLimit (limit : Nat) (session : Session) (transaction : Transaction) :
    (session.withLimit limit).rollBackHeld transaction =
      limitStep limit id (session.rollBackHeld transaction) := by
  refine exchange_withLimit (fun reply => ?_) (ranRollback_withLimit limit)
  exact (reply.verdict_empty _ _ limit).symm.trans (reply.verdict_limitRows ..)

/-! ## Operations -/

theorem begin_withLimit (limit : Nat) :
    (session.withLimit limit).begin = limitStep limit id session.begin :=
  guarded_withLimit (openTransaction_withLimit hunlimited limit)

theorem execute_withLimit (limit : Nat) (descriptors : List Descriptor) :
    (session.withLimit limit).execute descriptors =
      limitStep limit (List.map (Envelope.limitRows limit)) (session.execute descriptors) := by
  refine guarded_withLimit ?_
  cases hrequest : Request.ofDescriptors descriptors with
  | error error => exact limitStep_refused (Request.eq_nonFinite_of_ofDescriptors hrequest)
  | ok request =>
    have hmode : (session.withLimit limit).autoCommit = session.autoCommit := rfl
    simp only [hmode]
    split
    · split
      · rfl
      · exact runAtOnce_withLimit hunlimited limit "execute" request
    · split
      · rw [begin_withLimit hunlimited]
        exact limitStep_withoutResults limit session.begin
      · exact runInTransaction_withLimit hunlimited limit "execute" request

theorem keepAlive_withLimit (limit : Nat) :
    (session.withLimit limit).keepAlive = limitStep limit id session.keepAlive := by
  refine guarded_withLimit ?_
  have hheld : (session.withLimit limit).transaction? = session.transaction? := rfl
  rw [hheld]
  split
  · rw [runInTransaction_withLimit hunlimited]
    refine limitStep_map ?_ (session.runInTransaction "keep_alive" .empty)
    exact fun _ => rfl
  · rfl

theorem commit_withLimit (limit : Nat) (descriptors : List Descriptor) :
    (session.withLimit limit).commit descriptors =
      limitStep limit (List.map (Envelope.limitRows limit)) (session.commit descriptors) := by
  refine guarded_withLimit ?_
  cases hrequest : Request.ofDescriptors descriptors with
  | error error => exact limitStep_refused (Request.eq_nonFinite_of_ofDescriptors hrequest)
  | ok request =>
    have hheld : (session.withLimit limit).transaction? = session.transaction? := rfl
    simp only [hheld]
    cases session.transaction? with
    | some transaction => exact commitHeld_withLimit hunlimited limit transaction request
    | none =>
      simp only
      split
      · rfl
      · exact runAtOnce_withLimit hunlimited limit "commit" request

omit hunlimited in
theorem rollback_withLimit (limit : Nat) (session : Session) :
    (session.withLimit limit).rollback = limitStep limit id session.rollback := by
  refine guarded_withLimit ?_
  have hheld : (session.withLimit limit).transaction? = session.transaction? := rfl
  rw [hheld]
  cases session.transaction? with
  | some transaction => exact rollBackHeld_withLimit limit session transaction
  | none => rfl

omit hunlimited in
theorem close_withLimit (limit : Nat) (session : Session) :
    (session.withLimit limit).close = limitStep limit id session.close := by
  have hclosed : (session.withLimit limit).isClosed = session.isClosed := rfl
  have hheld : (session.withLimit limit).transaction? = session.transaction? := rfl
  unfold close
  rw [hclosed, hheld]
  split
  · rfl
  · cases session.transaction? with
    | some transaction =>
      simp only [rollBackHeld_withLimit]
      rfl
    | none => rfl

omit hunlimited in
theorem setAutoCommit_withLimit (limit : Nat) (session : Session) (enabled : Bool) :
    (Operation.setAutoCommit enabled).step (session.withLimit limit) =
      limitStep limit (List.map (Envelope.limitRows limit))
        ((Operation.setAutoCommit enabled).step session) := by
  have hclosed : (session.withLimit limit).isClosed = session.isClosed := rfl
  have hmode : (session.withLimit limit).autoCommit = session.autoCommit := rfl
  have hphase : (session.withLimit limit).phase = session.phase := rfl
  simp only [Operation.step, setAutoCommit, hclosed, hmode, hphase]
  by_cases hshut : session.isClosed = true
  · simp only [if_pos hshut]
    rfl
  by_cases hsame : enabled = session.autoCommit
  · simp only [if_neg hshut, if_pos hsame]
    rfl
  by_cases hheld : session.phase = .held
  · simp only [if_neg hshut, if_neg hsame, if_pos hheld]
    rfl
  · simp only [if_neg hshut, if_neg hsame, if_neg hheld]
    rfl

/-- **A limit on rows only takes rows away**, from every operation. -/
theorem step_withLimit (limit : Nat) (operation : Operation) :
    operation.step (session.withLimit limit) =
      limitStep limit (List.map (Envelope.limitRows limit)) (operation.step session) := by
  cases operation with
  | setAutoCommit enabled =>
    exact setAutoCommit_withLimit limit session enabled
  | begin =>
    exact (congrArg (Step.map · _) (begin_withLimit hunlimited limit)).trans
      (limitStep_withoutResults limit session.begin)
  | execute descriptors => exact execute_withLimit hunlimited limit descriptors
  | keepAlive =>
    exact (congrArg (Step.map · _) (keepAlive_withLimit hunlimited limit)).trans
      (limitStep_withoutResults limit session.keepAlive)
  | commit descriptors => exact commit_withLimit hunlimited limit descriptors
  | rollback =>
    exact (congrArg (Step.map · _) (rollback_withLimit limit session)).trans
      (limitStep_withoutResults limit session.rollback)
  | close =>
    exact (congrArg (Step.map · _) (close_withLimit limit session)).trans
      (limitStep_withoutResults limit session.close)

/-! ## Runs -/

omit hunlimited in
theorem finish_limitStep {cut : α → α} (step : Step Session (Except SessionError α))
    (ending : Ending) :
    (limitStep limit cut step).finish ending =
      ((step.finish ending).1.withLimit limit,
        (step.finish ending).2.map (limitResult limit cut)) := by
  rw [limitStep, Step.finish_map, Step.finish_lift]

theorem after_withLimit (limit : Nat) (event : Event) :
    (session.withLimit limit).after event = (session.after event).withLimit limit := by
  unfold after Run.after
  rw [step_withLimit hunlimited, finish_limitStep]

theorem result?_withLimit (limit : Nat) (event : Event) :
    (session.withLimit limit).result? event =
      (session.result? event).map (limitResult limit (List.map (Envelope.limitRows limit))) := by
  unfold result? Run.result?
  rw [step_withLimit hunlimited, finish_limitStep]

theorem calls_withLimit (limit : Nat) (event : Event) :
    (session.withLimit limit).calls event = session.calls event := by
  unfold calls Run.calls
  rw [step_withLimit hunlimited, limitStep, Step.calls_map, Step.calls_lift]

/-- Sessions with different limits stay in the same state and make the same calls. -/
theorem afterAll_withLimit (h : session.WellFormed) (limit : Nat) (events : List Event) :
    (session.withLimit limit).afterAll events = (session.afterAll events).withLimit limit ∧
      (session.withLimit limit).allCalls events = session.allCalls events := by
  induction events generalizing session with
  | nil => exact ⟨rfl, rfl⟩
  | cons event rest ih =>
    have hunlimited' : (session.after event).config.maxRows = 0 := by
      rw [(h.sameOrigin_after event).2]
      exact hunlimited
    obtain ⟨hafter, hcalls⟩ := ih hunlimited' (h.after event)
    rw [afterAll_cons, afterAll_cons, allCalls_cons, allCalls_cons, after_withLimit hunlimited,
      calls_withLimit hunlimited, hafter, hcalls]
    exact ⟨rfl, rfl⟩

/-! ## Two runs -/

structure SameState (first second : Session) : Prop where
  autoCommit : second.autoCommit = first.autoCommit
  phase : second.phase = first.phase
  transaction : second.transaction? = first.transaction?
  lastOutcome : second.lastOutcome? = first.lastOutcome?
  pending : second.pending = first.pending

inductive ResultUpToRows
    (related : List (List Json.Value) → List (List Json.Value) → Prop) :
    Option (Except SessionError (List Envelope)) → Option (Except SessionError (List Envelope)) →
      Prop where
  | abandoned : ResultUpToRows related none none
  | ok {first second : List Envelope}
      (h : List.Forall₂ (Envelope.UpToRows related) first second) :
      ResultUpToRows related (some (.ok first)) (some (.ok second))
  | error {first second : SessionError} (h : first.UpToRows related second) :
      ResultUpToRows related (some (.error first)) (some (.error second))

omit hunlimited in
theorem resultUpToRows_limitResult
    {related : List (List Json.Value) → List (List Json.Value) → Prop} {other : Nat}
    (h : ∀ envelope : Envelope,
      related (envelope.limitRows limit).rows (envelope.limitRows other).rows)
    (result? : Option (Except SessionError (List Envelope))) :
    ResultUpToRows related
      (result?.map (limitResult limit (List.map (Envelope.limitRows limit))))
      (result?.map (limitResult other (List.map (Envelope.limitRows other)))) := by
  match result? with
  | none => exact .abandoned
  | some (.ok results) => exact .ok (forall₂_limitRows h results)
  | some (.error error) => exact .error (error.upToRows_limitRows h)

omit hunlimited in
/-- **A limit on rows takes rows away and does nothing else.** Two sessions that differ in their
limits make the same calls, go through the same states and return the same up to rows; of the rows
that a session without a limit returns, one with a limit returns the first ones. -/
theorem limit_takes_rows_only (endpoint : Endpoint) (config : SessionConfig) (limit other : Nat)
    (past : List Event) (event : Event) :
    let limited (maxRows : Nat) := start endpoint { config with maxRows }
    let met (maxRows : Nat) := (limited maxRows).afterAll past
    (limited other).allCalls past = (limited limit).allCalls past ∧
      (met other).calls event = (met limit).calls event ∧
      (met limit).SameState (met other) ∧
      ResultUpToRows (fun _ _ => True) ((met limit).result? event) ((met other).result? event) ∧
      ResultUpToRows (FirstRows limit) ((met 0).result? event) ((met limit).result? event) := by
  intro limited met
  let unlimited := (limited 0).afterAll past
  have hmaxRows : unlimited.config.maxRows = 0 := by
    rw [((wellFormed_start ..).sameOrigin_afterAll past).2]
    rfl
  have hunlimited : (limited 0).config.maxRows = 0 := rfl
  have hall (maxRows : Nat) : met maxRows = unlimited.withLimit maxRows ∧
      (limited maxRows).allCalls past = (limited 0).allCalls past :=
    afterAll_withLimit hunlimited (wellFormed_start ..) maxRows past
  have hcalls (maxRows : Nat) : (met maxRows).calls event = unlimited.calls event := by
    rw [(hall maxRows).1, calls_withLimit hmaxRows]
  have hresult (maxRows : Nat) : (met maxRows).result? event = (unlimited.result? event).map
      (limitResult maxRows (List.map (Envelope.limitRows maxRows))) := by
    rw [(hall maxRows).1, result?_withLimit hmaxRows]
  refine ⟨(hall other).2.trans (hall limit).2.symm, (hcalls other).trans (hcalls limit).symm,
    ?_, ?_, ?_⟩
  · rw [(hall other).1, (hall limit).1]
    exact ⟨rfl, rfl, rfl, rfl, rfl⟩
  · rw [hresult other, hresult limit]
    exact resultUpToRows_limitResult (fun _ => trivial) (unlimited.result? event)
  · rw [hresult 0, hresult limit]
    refine resultUpToRows_limitResult ?_ (unlimited.result? event)
    exact fun envelope => firstRows_limitRows limit envelope

end Session

end CypherSession
