import CypherSession.Proofs.Session.WellFormed

/-!
# The table of calls

What a session sends depends on little of it: the mode, the transaction that it holds, whether it is
closed, and whether a call was abandoned. `Standing.table?` gives the call of each operation, and
`Standing.next` says how a reply changes the standing, whatever the results, the limit on rows and
the errors are. Every session makes the calls of its standing, one by one and over whole runs.
-/

namespace CypherSession

open Session (Operation Event)

/-- What a reply says about the transaction. -/
inductive Reading where
  /-- The request surely did not reach the server. -/
  | unsent
  /-- Nobody knows whether it did. -/
  | lost
  | senseless
  | refused
  /-- The number and the URL of a transaction, where the response gives them. -/
  | accepted (id? : Option Nat) (url? : Option String)
  deriving DecidableEq

def RawResponse.reading (raw : RawResponse) (request : Request) : Reading :=
  match Decoded.ofRaw raw request 0 with
  | .error _ => .senseless
  | .ok decoded =>
    if decoded.errors = [] then .accepted decoded.transaction? decoded.location? else .refused

def Reply.reading (request : Request) : Reply → Reading
  | failed error => if error.isAmbiguous then .lost else .unsent
  | silent => .lost
  | answered raw => raw.reading request

/-- What of a session decides the calls that it makes. -/
structure Standing where
  autoCommit : Bool
  held? : Option (Nat × String) := none
  isClosed : Bool := false
  isPending : Bool := false
  deriving DecidableEq

namespace Standing

def heldUrl? (standing : Standing) : Option String := standing.held?.map Prod.snd

def opening? (standing : Standing) (endpoint : Endpoint) : Option Call :=
  if standing.autoCommit ∨ standing.held?.isSome then none
  else some (.post endpoint.transactionUrl .empty)

def runUrl (standing : Standing) (endpoint : Endpoint) : String :=
  if standing.autoCommit then endpoint.autocommitUrl
  else standing.heldUrl?.getD endpoint.transactionUrl

/-- The call of each operation in an open session after no abandoned call. Statements that cannot be
sent lead to none. -/
def table? (standing : Standing) (endpoint : Endpoint) : Operation → Option Call
  | .setAutoCommit _ => none
  | .begin => standing.opening? endpoint
  | .execute descriptors =>
    match Request.ofDescriptors descriptors with
    | .error _ => none
    | .ok request =>
      if request.isEmpty then standing.opening? endpoint
      else some (.post (standing.runUrl endpoint) request)
  | .keepAlive => standing.heldUrl?.map (.post · .empty)
  | .commit descriptors =>
    match Request.ofDescriptors descriptors with
    | .error _ => none
    | .ok request =>
      match standing.heldUrl? with
      | some url => some (.post (url ++ "/commit") request)
      | none => if request.isEmpty then none else some (.post endpoint.autocommitUrl request)
  | .rollback | .close => standing.heldUrl?.map .delete

/-- A closed session makes no call. After an abandoned call only closing makes one. -/
def call? (standing : Standing) (endpoint : Endpoint) (operation : Operation) : Option Call :=
  if standing.isClosed then none
  else
    match operation with
    | .close => standing.table? endpoint .close
    | operation => if standing.isPending then none else standing.table? endpoint operation

def heldAfterRun (held? : Option (Nat × String)) : Reading → Option (Nat × String)
  | .unsent | .lost => held?
  | .senseless | .refused => none
  | .accepted id? url? =>
    match held? with
    | some (id, url) => if id? = none ∨ id? = some id then some (id, url) else none
    | none => id?.bind fun id => url?.map fun url => (id, url)

def heldAfterEnd (held? : Option (Nat × String)) : Reading → Option (Nat × String)
  | .unsent => held?
  | _ => none

def heldAfter (standing : Standing) (operation : Operation) (reading : Reading) :
    Option (Nat × String) :=
  if standing.autoCommit then none
  else
    match operation with
    | .commit _ | .rollback => heldAfterEnd standing.held? reading
    | _ => heldAfterRun standing.held? reading

def nextGuarded (standing : Standing) (endpoint : Endpoint) (operation : Operation)
    (ending : Ending) : Standing :=
  if standing.isPending then { standing with held? := none, isPending := false }
  else
    match standing.table? endpoint operation, ending with
    | none, _ => standing
    | some _, .abandoned => { standing with isPending := true }
    | some call, .replied reply =>
      { standing with held? := standing.heldAfter operation (reply.reading call.request) }

def next (standing : Standing) (endpoint : Endpoint) (event : Event) : Standing :=
  if standing.isClosed then standing
  else
    match event.operation with
    | .setAutoCommit enabled =>
      if standing.held?.isSome then standing else { standing with autoCommit := enabled }
    | .close =>
      match standing.held?, event.ending with
      | some _, .abandoned => { standing with isPending := true }
      | _, _ => { standing with held? := none, isClosed := true, isPending := false }
    | operation => standing.nextGuarded endpoint operation event.ending

def log (standing : Standing) (endpoint : Endpoint) : List Event → List Call
  | [] => []
  | event :: rest =>
    (standing.call? endpoint event.operation).toList ++
      (standing.next endpoint event).log endpoint rest

end Standing

def Verdict.reading : Verdict → Reading
  | unanswered error => if error.isAmbiguous then .lost else .unsent
  | senseless _ => .senseless
  | refused .. => .refused
  | accepted decoded => .accepted decoded.transaction? decoded.location?

theorem RawResponse.reading_verdict (raw : RawResponse) (request : Request) (maxRows : Nat) :
    (raw.verdict request maxRows).reading = raw.reading request := by
  unfold RawResponse.reading
  cases hverdict : raw.verdict request maxRows with
  | unanswered error => exact absurd hverdict RawResponse.verdict_ne_unanswered
  | senseless error =>
    have hdecoded := RawResponse.verdict_eq_senseless_iff.1 hverdict
    cases hzero : Decoded.ofRaw raw request 0 with
    | error other => rfl
    | ok decoded =>
      obtain ⟨results, hresults⟩ := Decoded.ofRaw_maxRows hzero maxRows
      rw [hdecoded] at hresults
      cases hresults
  | refused decoded error =>
    obtain ⟨hdecoded, herror⟩ := RawResponse.verdict_eq_refused_iff.1 hverdict
    obtain ⟨results, hzero⟩ := Decoded.ofRaw_maxRows hdecoded 0
    have herrors : decoded.errors ≠ [] := by
      intro hnil
      rw [Decoded.firstError?, hnil] at herror
      cases herror
    simp only [hzero, if_neg herrors, Verdict.reading]
  | accepted decoded =>
    obtain ⟨hdecoded, herrors⟩ := RawResponse.verdict_eq_accepted_iff.1 hverdict
    obtain ⟨results, hzero⟩ := Decoded.ofRaw_maxRows hdecoded 0
    simp only [hzero, if_pos herrors, Verdict.reading]

/-- What decides the next calls can be read off the reply, without the session. -/
theorem Reply.reading_verdict (reply : Reply) (operation : String) (timeout : Duration)
    (request : Request) (maxRows : Nat) :
    (reply.verdict operation timeout request maxRows).reading = reply.reading request := by
  cases reply with
  | silent => rfl
  | answered raw => exact raw.reading_verdict request maxRows
  | failed error =>
    simp only [Reply.verdict, Reply.reading, Verdict.reading]
    by_cases hambiguous : error.isAmbiguous = true
    · simp only [hambiguous, if_true, SessionError.isAmbiguous]
    · simp [hambiguous, SessionError.isAmbiguous]

namespace Session

variable {session : Session}

def standing (session : Session) : Standing where
  autoCommit := session.autoCommit
  held? := session.transaction?.map fun transaction => (transaction.id, transaction.url)
  isClosed := session.isClosed
  isPending := session.pending

@[simp] theorem heldUrl?_standing (session : Session) :
    session.standing.heldUrl? = session.transaction?.map Transaction.url := by
  simp only [standing, Standing.heldUrl?, Option.map_map]
  rfl

/-! ## Calls -/

theorem opening?_standing (h : session.WellFormed) :
    session.standing.opening? session.endpoint =
      (Operation.opening? session).map (Exchange.call session) := by
  unfold Standing.opening? Operation.opening?
  have hheld : session.standing.held?.isSome = true ↔ session.phase = .held := by
    rw [h.held_iff, standing, Option.isSome_map]
  by_cases hneeded : session.autoCommit ∨ session.phase = .held
  · have hstanding : session.standing.autoCommit ∨ session.standing.held?.isSome = true := by
      rwa [hheld]
    rw [if_pos hneeded, if_pos hstanding]
    rfl
  · have hstanding : ¬(session.standing.autoCommit ∨ session.standing.held?.isSome = true) := by
      rwa [hheld]
    rw [if_neg hneeded, if_neg hstanding]
    rfl

theorem opening?_of_autoCommit (hauto : session.autoCommit = true) :
    session.standing.opening? session.endpoint = none := by
  unfold Standing.opening?
  exact if_pos (.inl hauto)

/-- The table has the call of every operation that can start. -/
theorem table?_standing (h : session.WellFormed) (operation : Operation) :
    session.standing.table? session.endpoint operation =
      (operation.exchange? session).map (Exchange.call session) := by
  cases operation with
  | setAutoCommit enabled => rfl
  | begin => exact opening?_standing h
  | execute descriptors =>
    simp only [Standing.table?, Operation.exchange?]
    cases Request.ofDescriptors descriptors with
    | error error => rfl
    | ok request =>
      by_cases hauto : session.autoCommit = true
      · have hurl : session.standing.runUrl session.endpoint = session.endpoint.autocommitUrl :=
          if_pos hauto
        by_cases hempty : request.isEmpty = true
        · simp only [hempty, hauto, if_true, opening?_of_autoCommit hauto, Option.map_none]
        · simp only [hempty, hauto, hurl]
          rfl
      · have hurl : session.standing.runUrl session.endpoint = Exchange.runUrl session := by
          rw [Exchange.runUrl, ← heldUrl?_standing]
          exact if_neg hauto
        by_cases hempty : request.isEmpty = true
        · simp only [hempty, hauto, if_true, opening?_standing h]
          rfl
        · simp only [hempty, hauto, hurl]
          rfl
  | keepAlive =>
    simp only [Standing.table?, Operation.exchange?, heldUrl?_standing]
    cases hheld : session.transaction? with
    | none => rfl
    | some transaction => simp [Exchange.call, Exchange.runUrl, hheld]
  | commit descriptors =>
    simp only [Standing.table?, Operation.exchange?, heldUrl?_standing]
    cases Request.ofDescriptors descriptors with
    | error error => rfl
    | ok request =>
      cases session.transaction? with
      | some transaction => rfl
      | none => cases hempty : request.isEmpty <;> simp [hempty, Exchange.call]
  | rollback | close =>
    simp only [Standing.table?, Operation.exchange?, heldUrl?_standing]
    cases session.transaction? <;> rfl

theorem call?_of_closed (hclosed : session.phase = .closed) (operation : Operation) :
    session.standing.call? session.endpoint operation = none := by
  unfold Standing.call?
  exact if_pos (by simpa [standing, isClosed] using hclosed)

theorem call?_of_pending (hpending : session.pending = true) {operation : Operation}
    (hclose : operation ≠ .close) :
    session.standing.call? session.endpoint operation = none := by
  unfold Standing.call?
  split
  · rfl
  · cases operation with
    | close => exact absurd rfl hclose
    | _ => exact if_pos hpending

/-- In an open session the table holds for closing, and for the rest unless a call was abandoned. -/
theorem call?_of_open (h : session.WellFormed) (hopen : session.phase ≠ .closed)
    {operation : Operation} (hpending : operation ≠ .close → session.pending = false) :
    session.standing.call? session.endpoint operation =
      (operation.exchange? session).map (Exchange.call session) := by
  rw [← table?_standing h]
  unfold Standing.call?
  rw [if_neg (by simpa [standing, isClosed] using hopen)]
  by_cases hclose : operation = .close
  · rw [hclose]
  · have hstanding : ¬session.standing.isPending = true := by simp [standing, hpending hclose]
    cases operation with
    | close => exact absurd rfl hclose
    | _ => exact if_neg hstanding

theorem call?_setAutoCommit (standing : Standing) (endpoint : Endpoint) (enabled : Bool) :
    standing.call? endpoint (.setAutoCommit enabled) = none := by
  unfold Standing.call?
  by_cases hclosed : standing.isClosed = true
  · exact if_pos hclosed
  · rw [if_neg hclosed]
    exact ite_self none

/-- An operation makes the call that its standing says, whatever becomes of it. -/
theorem calls_eq_call? (h : session.WellFormed) {operation : Operation} {ending : Ending}
    {next : Session} {result? : Option (Except SessionError (List Envelope))} {calls : List Call}
    (htransition : Transition session operation ending next result? calls) :
    calls = (session.standing.call? session.endpoint operation).toList := by
  cases htransition with
  | closed hclosed | closedAgain hclosed =>
    rw [call?_of_closed hclosed]
    rfl
  | reported hopen hpending hguarded =>
    rw [call?_of_pending hpending hguarded.ne_close]
    rfl
  | unsendable hready hguarded hrequest =>
    rw [call?_of_open h hready.isOpen fun _ => hready.notPending,
      exchange?_of_request_error hrequest]
    rfl
  | switched | unswitched =>
    rw [call?_setAutoCommit]
    rfl
  | nothing hready hguarded hrequest hexchange =>
    rw [call?_of_open h hready.isOpen fun _ => hready.notPending, hexchange]
    rfl
  | shut hopen htransaction =>
    rw [call?_of_open h hopen fun hne => absurd rfl hne, Operation.exchange?, htransaction]
    rfl
  | paused hopen hpending hexchange | replied hopen hpending hexchange =>
    rw [call?_of_open h hopen hpending, hexchange]
    rfl

/-! ## Standings -/

theorem standing_settle (hopen : session.phase ≠ .closed) (outcome : Outcome) :
    (session.settle outcome).standing = { session.standing with held? := none } := by
  simp [standing, settle, isClosed, hopen]

theorem standing_discard (hopen : session.phase ≠ .closed) :
    session.discard.standing = { session.standing with held? := none } := by
  cases htransaction : session.transaction? with
  | some transaction =>
    rw [discard_of_held htransaction]
    exact standing_settle hopen _
  | none =>
    rw [discard_of_none htransaction]
    simp [standing, isClosed, hopen, htransaction]

theorem standing_opened (hopen : session.phase ≠ .closed) (hnone : session.transaction? = none)
    (decoded : Decoded) :
    (session.opened decoded).1.standing = { session.standing with
      held? := decoded.transaction?.bind fun id => decoded.location?.map fun url => (id, url) } := by
  unfold opened
  cases decoded.transaction? with
  | none => simp [standing, hnone]
  | some id =>
    cases decoded.location? with
    | none => simp [standing, hnone]
    | some url => simp [standing, isClosed, hopen]

/-- What is held after a request has run in a transaction follows from the reading of the response.
-/
theorem standing_ranInTransaction (hopen : session.phase ≠ .closed) (verdict : Verdict) :
    (session.ranInTransaction verdict).1.standing = { session.standing with
      held? := Standing.heldAfterRun session.standing.held? verdict.reading } := by
  cases verdict with
  | unanswered error =>
    simp only [ranInTransaction, Verdict.reading]
    cases error.isAmbiguous <;> rfl
  | senseless error => exact standing_discard hopen
  | refused decoded error =>
    simp only [ranInTransaction]
    cases htransaction : session.transaction? with
    | some transaction =>
      rw [failed_of_held htransaction]
      exact standing_settle hopen _
    | none =>
      rw [failed_of_none htransaction]
      simp only
      split
      · exact standing_settle hopen _
      · simp [standing, htransaction, Verdict.reading, Standing.heldAfterRun]
  | accepted decoded =>
    simp only [ranInTransaction]
    cases htransaction : session.transaction? with
    | none =>
      rw [succeeded_of_none htransaction, standing_opened hopen htransaction]
      simp [standing, htransaction, Verdict.reading, Standing.heldAfterRun]
    | some transaction =>
      have hheld : session.standing.held? = some (transaction.id, transaction.url) := by
        simp [standing, htransaction]
      rcases succeeded_of_held decoded htransaction with
        ⟨id, hid, hne, hswitched⟩ | ⟨hid, hkept⟩
      · rw [hswitched, hheld]
        simp only [Verdict.reading, Standing.heldAfterRun, hid, reduceCtorEq, false_or,
          Option.some.injEq, if_neg hne]
        exact standing_discard hopen
      · rw [hkept, hheld]
        simp only [Verdict.reading, Standing.heldAfterRun, if_pos hid]
        rfl

theorem standing_ranOpening (hopen : session.phase ≠ .closed) (hnone : session.transaction? = none)
    (verdict : Verdict) :
    (session.ranOpening verdict).1.standing = { session.standing with
      held? := Standing.heldAfterRun session.standing.held? verdict.reading } := by
  have hheld : session.standing.held? = none := by simp [standing, hnone]
  rw [hheld]
  cases verdict with
  | unanswered error =>
    simp only [ranOpening, Verdict.reading]
    cases error.isAmbiguous <;> simp [Standing.heldAfterRun, standing, hnone]
  | senseless error | refused decoded error =>
    simp [ranOpening, Verdict.reading, Standing.heldAfterRun, standing, hnone]
  | accepted decoded => exact standing_opened hopen hnone decoded

theorem standing_ranAtOnce (verdict : Verdict) :
    (session.ranAtOnce verdict).1.standing = session.standing := by
  cases verdict <;> rfl

theorem standing_unanswered (hopen : session.phase ≠ .closed) (error : SessionError) :
    (session.unanswered error).standing = { session.standing with
      held? := Standing.heldAfterEnd session.standing.held?
        (Verdict.unanswered error).reading } := by
  unfold unanswered Verdict.reading
  by_cases hambiguous : error.isAmbiguous = true
  · simp only [if_pos hambiguous]
    exact standing_discard hopen
  · simp only [if_neg hambiguous]
    rfl

theorem standing_ranCommit (hopen : session.phase ≠ .closed) (transaction : Transaction)
    (verdict : Verdict) :
    (ranCommit transaction session verdict).1.standing = { session.standing with
      held? := Standing.heldAfterEnd session.standing.held? verdict.reading } := by
  cases verdict with
  | unanswered error => exact standing_unanswered hopen error
  | senseless error => exact standing_discard hopen
  | refused decoded error | accepted decoded => exact standing_settle hopen _

theorem standing_ranRollback (hopen : session.phase ≠ .closed) (verdict : Verdict) :
    (session.ranRollback verdict).1.standing = { session.standing with
      held? := Standing.heldAfterEnd session.standing.held? verdict.reading } := by
  cases verdict with
  | unanswered error => exact standing_unanswered hopen error
  | senseless error | refused decoded error | accepted decoded => exact standing_settle hopen _

/-- Where nothing is held, an end leaves nothing. -/
theorem heldAfterEnd_none (reading : Reading) : Standing.heldAfterEnd none reading = none := by
  cases reading <;> rfl

/-- A session that has seen a reply to a guarded operation has the standing of the table. -/
theorem standing_after_exchange (h : session.WellFormed) (hready : session.Ready)
    {operation : Operation} {exchange : Exchange} (hstarts : operation.Starts session exchange)
    (hclose : operation ≠ .close) (reply : Reply) :
    (exchange.after session reply).1.standing = { session.standing with
      held? := session.standing.heldAfter operation
        (reply.reading (exchange.call session).request) } := by
  have hreading : reply.reading (exchange.call session).request =
      (exchange.verdict session reply).reading := (Reply.reading_verdict ..).symm
  rw [Exchange.after_of_not_pending hready.notPending, hreading]
  have hopen := hready.isOpen
  generalize exchange.verdict session reply = verdict
  unfold Standing.heldAfter
  have hnot_auto (hauto : session.autoCommit = false) :
      ¬session.standing.autoCommit = true := by
    simp [standing, hauto]
  cases hstarts with
  | executeAtOnce _ _ hauto =>
    have hheld : session.standing.held? = none := by
      simp [standing, h.transaction_of_autoCommit hauto]
    have hstanding : session.standing.autoCommit = true := hauto
    rw [if_pos hstanding, ← hheld]
    exact standing_ranAtOnce verdict
  | commitAtOnce _ _ hnone =>
    have hheld : session.standing.held? = none := by simp [standing, hnone]
    simp only [hheld, heldAfterEnd_none, ite_self]
    rw [← hheld]
    exact standing_ranAtOnce verdict
  | begin hauto hphase | executeNothing _ _ hauto hphase =>
    have hnone : session.transaction? = none := by
      simpa [h.held_iff] using hphase
    rw [if_neg (hnot_auto hauto)]
    exact standing_ranOpening hopen hnone verdict
  | execute _ _ hauto =>
    rw [if_neg (hnot_auto hauto)]
    exact standing_ranInTransaction hopen verdict
  | keepAlive hheld =>
    rw [if_neg (hnot_auto (h.autoCommit_eq_false hheld))]
    exact standing_ranInTransaction hopen verdict
  | commit _ hheld =>
    rw [if_neg (hnot_auto (h.autoCommit_eq_false hheld))]
    exact standing_ranCommit hopen _ verdict
  | rollback hheld =>
    rw [if_neg (hnot_auto (h.autoCommit_eq_false hheld))]
    exact standing_ranRollback hopen verdict
  | close => exact absurd rfl hclose

theorem next_of_closed (hclosed : session.phase = .closed) (event : Event) :
    session.standing.next session.endpoint event = session.standing := by
  unfold Standing.next
  exact if_pos (by simpa [standing, isClosed] using hclosed)

theorem next_of_guarded (hopen : session.phase ≠ .closed) {operation : Operation}
    (hguarded : operation.IsGuarded) (ending : Ending) :
    session.standing.next session.endpoint ⟨operation, ending⟩ =
      session.standing.nextGuarded session.endpoint operation ending := by
  unfold Standing.next
  rw [if_neg (by simpa [standing, isClosed] using hopen)]
  cases operation with
  | setAutoCommit _ | close => exact hguarded.elim
  | _ => rfl

/-- In a session that is ready, the table alone says how the standing goes on. -/
theorem next_of_ready (h : session.WellFormed) (hready : session.Ready) {operation : Operation}
    (hguarded : operation.IsGuarded) (ending : Ending) :
    session.standing.next session.endpoint ⟨operation, ending⟩ =
      match (operation.exchange? session).map (Exchange.call session), ending with
      | none, _ => session.standing
      | some _, .abandoned => { session.standing with isPending := true }
      | some call, .replied reply => { session.standing with
          held? := session.standing.heldAfter operation (reply.reading call.request) } := by
  rw [next_of_guarded hready.isOpen hguarded, ← table?_standing h]
  unfold Standing.nextGuarded
  rw [if_neg (by simp [standing, hready.notPending])]

theorem standing_shut (session : Session) :
    session.shut.standing =
      { session.standing with held? := none, isClosed := true, isPending := false } := by
  simp [standing, shut, isClosed]

theorem next_setAutoCommit (hopen : session.phase ≠ .closed) (enabled : Bool) (ending : Ending) :
    session.standing.next session.endpoint ⟨.setAutoCommit enabled, ending⟩ =
      if session.transaction?.isSome then session.standing
      else { session.standing with autoCommit := enabled } := by
  unfold Standing.next
  rw [if_neg (by simpa [standing, isClosed] using hopen)]
  simp only [standing, Option.isSome_map]

theorem next_close (hopen : session.phase ≠ .closed) (ending : Ending) :
    session.standing.next session.endpoint ⟨.close, ending⟩ =
      match session.standing.held?, ending with
      | some _, .abandoned => { session.standing with isPending := true }
      | _, _ => { session.standing with held? := none, isClosed := true, isPending := false } := by
  unfold Standing.next
  exact if_neg (by simpa [standing, isClosed] using hopen)

/-- Closing after a reply leaves nothing of the session but its mode. -/
theorem standing_after_closing (hopen : session.phase ≠ .closed) (transaction : Transaction)
    (reply : Reply) :
    ((Exchange.closing transaction).after session reply).1.standing =
      { session.standing with held? := none, isClosed := true, isPending := false } := by
  have hseen : ({ session with pending := false } : Session).phase ≠ .closed := hopen
  have hrolledBack := standing_ranRollback hseen
    ((Exchange.closing transaction).verdict session reply)
  have hmode := congrArg Standing.autoCommit hrolledBack
  simp only [standing] at hmode
  simp only [Exchange.after, Exchange.atEnd, standing_shut]
  simp [standing, hmode]

/-- The standing that the table gives is that of the session. -/
theorem standing_next (h : session.WellFormed) {operation : Operation} {ending : Ending}
    {next : Session} {result? : Option (Except SessionError (List Envelope))} {calls : List Call}
    (htransition : Transition session operation ending next result? calls) :
    next.standing = session.standing.next session.endpoint ⟨operation, ending⟩ := by
  cases htransition with
  | closed hclosed | closedAgain hclosed => rw [next_of_closed hclosed]
  | reported hopen hpending hguarded =>
    rw [next_of_guarded hopen hguarded]
    unfold Standing.nextGuarded
    rw [if_pos (show session.standing.isPending = true from hpending)]
    exact congrArg (fun standing : Standing => { standing with isPending := false })
      (standing_discard hopen)
  | unsendable hready hguarded hrequest =>
    rw [next_of_ready h hready hguarded, exchange?_of_request_error hrequest]
    rfl
  | nothing hready hguarded hrequest hexchange =>
    rw [next_of_ready h hready hguarded, hexchange]
    rfl
  | switched hopen henabled =>
    rw [next_setAutoCommit hopen]
    split
    · rename_i hheld
      have hauto := henabled.resolve_right fun hphase => hphase (h.held_iff.2 hheld)
      rw [hauto]
    · rfl
  | unswitched hheld henabled =>
    have hopen : session.phase ≠ .closed := by simp [hheld]
    rw [next_setAutoCommit hopen, if_pos (h.held_iff.1 hheld)]
  | shut hopen htransaction =>
    have hnone : session.standing.held? = none := by simp [standing, htransaction]
    rw [next_close hopen, hnone]
    exact standing_shut session
  | paused hopen hpending hexchange =>
    have hstarts := Operation.starts_of_exchange? hexchange
    by_cases hclose : operation = .close
    · subst hclose
      cases hstarts with
      | close hheld =>
        rw [next_close hopen]
        simp only [standing, hheld]
        rfl
    · have hready : session.Ready := ⟨hopen, hpending hclose⟩
      rw [next_of_ready h hready (hstarts.isGuarded hclose), hexchange]
      rfl
  | replied hopen hpending hexchange =>
    have hstarts := Operation.starts_of_exchange? hexchange
    by_cases hclose : operation = .close
    · subst hclose
      cases hstarts with
      | close hheld =>
        rw [next_close hopen, standing_after_closing hopen]
        simp only [standing, hheld]
        rfl
    · have hready : session.Ready := ⟨hopen, hpending hclose⟩
      rw [next_of_ready h hready (hstarts.isGuarded hclose), hexchange]
      exact standing_after_exchange h hready hstarts hclose _

/-- The calls of a run are the log of its standings. -/
theorem allCalls_eq_log (h : session.WellFormed) (events : List Event) :
    session.allCalls events = session.standing.log session.endpoint events := by
  induction events generalizing session with
  | nil => rfl
  | cons event rest ih =>
    have hcalls := calls_eq_call? h (session.transition event)
    have hnext := standing_next h (session.transition event)
    have hrest := ih (h.after event)
    rw [(h.sameOrigin_after event).1, hnext] at hrest
    rw [allCalls_cons, Standing.log, hcalls, hrest]

/-- **Sessions call by the table.** In an open session after no abandoned call, every operation makes
the call of its entry in the table, or none if it has no entry, whatever its arguments are and
however the call ends. Over any events, among them operations on closed sessions and abandoned ones,
the calls are those of the table, which sees only the standing and the readings of the replies. -/
theorem calls_follow_table (endpoint : Endpoint) (config : SessionConfig) (before : List Event) :
    let session := (start endpoint config).afterAll before
    (session.isClosed = false → session.pending = false → ∀ event : Event,
      session.calls event = (session.standing.table? endpoint event.operation).toList) ∧
    ∀ events : List Event, session.allCalls events = session.standing.log endpoint events := by
  intro session
  have h : session.WellFormed := (wellFormed_start endpoint config).afterAll before
  have hendpoint : session.endpoint = endpoint :=
    ((wellFormed_start endpoint config).sameOrigin_afterAll before).1
  constructor
  · intro hopen hpending event
    have hphase : session.phase ≠ .closed := by simpa [isClosed] using hopen
    have hcalls := calls_eq_call? h (session.transition event)
    rw [call?_of_open h hphase fun _ => hpending, ← table?_standing h, hendpoint] at hcalls
    exact hcalls
  · intro events
    rw [allCalls_eq_log h events, hendpoint]

/-- Statements go to the URL of the transaction that is held. -/
theorem calls_follow_table_to_transaction :
    let session := (start sampleEndpoint sampleConfig).afterAll [sampleOpening]
    session.isClosed = false ∧ session.pending = false ∧
      session.calls ⟨.execute [{ text := "RETURN 1" }], .abandoned⟩ =
        [.post sampleUrl ⟨[⟨"RETURN 1", [], false⟩]⟩] :=
  ⟨rfl, rfl, (calls_follow_table sampleEndpoint sampleConfig [sampleOpening]).1 rfl rfl _⟩

end Session

end CypherSession
