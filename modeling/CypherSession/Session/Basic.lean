import CypherSession.Session.Step
import CypherSession.Settings.Basic
import CypherSession.Statement.Basic

/-!
# Sessions

A session sends statements to an endpoint, each list of them in one request. With autocommit the
request opens a transaction, runs the statements and commits. Without it the first request opens a
transaction, which the session then holds; the server gives it a URL, to which the requests after
that go, until it is committed or rolled back.

| | no transaction held | transaction held |
|---|---|---|
| execute, autocommit | post to the autocommit URL | cannot occur |
| execute | post to the transaction URL, which opens one | post to its URL |
| commit | post to the autocommit URL, if there are statements | post to its URL for commits |
| roll back | nothing | delete its URL |

The server rolls a transaction back when one of its statements fails. If the reply to a commit or a
rollback is lost, or a reply makes no sense, the session gives the transaction up.
-/

namespace CypherSession

structure Transaction where
  id : Nat
  url : String
  expires? : Option Moment := none
  deriving DecidableEq, Repr

/-- Where a session stands. It passes through `committed` and `rolledBack` when a transaction ends
and settles in `idle`, so these two are only met as outcomes. -/
inductive Phase where
  | idle
  | held
  | committed
  | rolledBack
  | closed
  deriving DecidableEq, Repr

/-- How a transaction ended: the phase that the session passed through then. One that was given up
counts as rolled back. -/
abbrev Outcome := Phase

structure Session where
  endpoint : Endpoint
  config : SessionConfig
  autoCommit : Bool
  phase : Phase := .idle
  transaction? : Option Transaction := none
  lastOutcome? : Option Outcome := none
  /-- A call has been made, and its reply has not been seen. -/
  pending : Bool := false
  deriving DecidableEq, Repr

namespace SessionError

def isAmbiguous : SessionError → Bool
  | ambiguous .. => true
  | _ => false

def abandoned : SessionError :=
  .ambiguous "previous round trip" "cancelled before its response was observed"

def noResponse (operation : String) (timeout : Duration) : SessionError :=
  .ambiguous operation ("no response within " ++ timeout.text)

def transactionOpen : SessionError :=
  .invalidState "cannot change autocommit mode while a transaction is open"

def noIdentity : SessionError := .protocol "server did not return a transaction identity"

def switched (held answered : Nat) : SessionError :=
  .protocol ("server switched transaction from " ++ toString held ++ " to " ++
    toString answered)

end SessionError

def Decoded.failure (decoded : Decoded) (error : ServerError) : SessionError :=
  .statement {
    index := decoded.failedIndex
    code := error.code
    message := error.message
    completed := decoded.completed }

inductive Verdict where
  /-- There is no response, for the reason that the error gives. -/
  | unanswered (error : SessionError)
  /-- The response makes no sense. -/
  | senseless (error : SessionError)
  /-- The response reports an error. -/
  | refused (decoded : Decoded) (error : ServerError)
  | accepted (decoded : Decoded)

def RawResponse.verdict (raw : RawResponse) (request : Request) (maxRows : Nat) : Verdict :=
  match Decoded.ofRaw raw request maxRows with
  | .error error => .senseless error
  | .ok decoded =>
    match decoded.firstError? with
    | some error => .refused decoded error
    | none => .accepted decoded

/-- What a reply to the request of an operation comes to. An error after which the request may have
reached the server leaves the outcome of the operation open. -/
def Reply.verdict (reply : Reply) (operation : String) (timeout : Duration) (request : Request)
    (maxRows : Nat) : Verdict :=
  match reply with
  | .answered raw => raw.verdict request maxRows
  | .silent => .unanswered (.noResponse operation timeout)
  | .failed error =>
    .unanswered (if error.isAmbiguous then .ambiguous operation error.message
      else .transport error)

namespace Session

def start (endpoint : Endpoint) (config : SessionConfig) : Session :=
  { endpoint, config, autoCommit := config.autoCommit }

def isClosed (session : Session) : Bool := session.phase = .closed

theorem isClosed_iff {session : Session} : session.isClosed = true ↔ session.phase = .closed :=
  decide_eq_true_iff

def settle (session : Session) (outcome : Outcome) : Session :=
  { session with phase := .idle, transaction? := none, lastOutcome? := some outcome }

def discard (session : Session) : Session :=
  match session.transaction? with
  | some _ => session.settle .rolledBack
  | none => { session with phase := .idle }

def opened (session : Session) (decoded : Decoded) : Session × Except SessionError Unit :=
  match decoded.transaction?, decoded.location? with
  | some id, some url =>
    ({ session with phase := .held, transaction? := some ⟨id, url, decoded.expires?⟩ }, .ok ())
  | _, _ => (session, .error .noIdentity)

/-- The session after a commit or a rollback without a response: the transaction is given up if the
call may have had its effect. -/
def unanswered (session : Session) (error : SessionError) : Session :=
  if error.isAmbiguous then session.discard else session

/-- The step of an operation that needs the session to be open. After an abandoned call the session
cannot know what became of its transaction: it gives that up and reports it once. -/
def guarded {α : Type} (session : Session) (step : Step Session (Except SessionError α)) :
    Step Session (Except SessionError α) :=
  if session.isClosed then .done session (.error .closed)
  else if session.pending then
    .done { session.discard with pending := false } (.error .abandoned)
  else step

def exchange {α : Type} (session : Session) (operation : String) (call : Call) (maxRows : Nat)
    (atEnd : Session → Verdict → Session × Except SessionError α) :
    Step Session (Except SessionError α) :=
  .wait { session with pending := true } call fun reply =>
    atEnd { session with pending := false }
      (reply.verdict operation session.config.timeout call.request maxRows)

/-! ## Requests -/

def ranAtOnce (session : Session) : Verdict → Session × Except SessionError (List Envelope)
  | .unanswered error | .senseless error => (session, .error error)
  | .refused decoded error => (session, .error (decoded.failure error))
  | .accepted decoded => (session, .ok decoded.results)

def runAtOnce (session : Session) (operation : String) (request : Request) :
    Step Session (Except SessionError (List Envelope)) :=
  session.exchange operation (.post session.endpoint.autocommitUrl request)
    session.config.maxRows ranAtOnce

def failed (session : Session) (decoded : Decoded) (error : ServerError) :
    Session × Except SessionError (List Envelope) :=
  match session.transaction? with
  | some transaction =>
    (session.settle .rolledBack,
      .error (if error.isTransactionNotFound then .expired transaction.id
        else decoded.failure error))
  | none =>
    (if decoded.transaction?.isSome then session.settle .rolledBack else session,
      .error (decoded.failure error))

def succeeded (session : Session) (decoded : Decoded) :
    Session × Except SessionError (List Envelope) :=
  match session.transaction? with
  | none =>
    let (session, result) := session.opened decoded
    (session, result.map fun _ => decoded.results)
  | some transaction =>
    match decoded.transaction?.filter (· ≠ transaction.id) with
    | some id => (session.discard, .error (.switched transaction.id id))
    | none =>
      let expires? := decoded.expires?.or transaction.expires?
      ({ session with transaction? := some { transaction with expires? } }, .ok decoded.results)

def ranInTransaction (session : Session) : Verdict → Session × Except SessionError (List Envelope)
  | .unanswered error => (session, .error error)
  | .senseless error => (session.discard, .error error)
  | .refused decoded error => session.failed decoded error
  | .accepted decoded => session.succeeded decoded

def runInTransaction (session : Session) (operation : String) (request : Request) :
    Step Session (Except SessionError (List Envelope)) :=
  let url := (session.transaction?.map Transaction.url).getD session.endpoint.transactionUrl
  session.exchange operation (.post url request) session.config.maxRows ranInTransaction

def ranOpening (session : Session) : Verdict → Session × Except SessionError Unit
  | .unanswered error | .senseless error => (session, .error error)
  | .refused decoded error => (session, .error (decoded.failure error))
  | .accepted decoded => session.opened decoded

/-- Opens a transaction without running anything in it, unless there is one or none is needed. -/
def openTransaction (session : Session) : Step Session (Except SessionError Unit) :=
  if session.autoCommit ∨ session.phase = .held then .done session (.ok ())
  else
    session.exchange "begin" (.post session.endpoint.transactionUrl .empty)
      session.config.maxRows ranOpening

def ranCommit (transaction : Transaction) (session : Session) :
    Verdict → Session × Except SessionError (List Envelope)
  | .unanswered error => (session.unanswered error, .error error)
  | .senseless error => (session.discard, .error error)
  | .refused decoded error =>
    (session.settle .rolledBack,
      .error (if error.isTransactionNotFound then .expired transaction.id
        else decoded.failure error))
  | .accepted decoded => (session.settle .committed, .ok decoded.results)

def commitHeld (session : Session) (transaction : Transaction) (request : Request) :
    Step Session (Except SessionError (List Envelope)) :=
  session.exchange "commit" (.post (transaction.url ++ Endpoint.commitSuffix) request)
    session.config.maxRows (ranCommit transaction)

/-- The end of the rollback of a transaction. One that the server does not know any more is rolled
back already. -/
def ranRollback (session : Session) : Verdict → Session × Except SessionError Unit
  | .unanswered error => (session.unanswered error, .error error)
  | .senseless error => (session.settle .rolledBack, .error error)
  | .refused decoded error =>
    (session.settle .rolledBack,
      if error.isTransactionNotFound then .ok () else .error (decoded.failure error))
  | .accepted _ => (session.settle .rolledBack, .ok ())

def rollBackHeld (session : Session) (transaction : Transaction) :
    Step Session (Except SessionError Unit) :=
  session.exchange "rollback" (.delete transaction.url) 0 ranRollback

/-! ### Case by case -/

section

variable {session : Session} {transaction : Transaction} {decoded : Decoded} {error : ServerError}

theorem discard_of_none (h : session.transaction? = none) :
    session.discard = { session with phase := .idle } := by
  simp only [discard, h]

theorem discard_of_held (h : session.transaction? = some transaction) :
    session.discard = session.settle .rolledBack := by
  simp only [discard, h]

theorem failed_of_none (h : session.transaction? = none) :
    session.failed decoded error =
      (if decoded.transaction?.isSome then session.settle .rolledBack else session,
        .error (decoded.failure error)) := by
  simp only [failed, h]

theorem failed_of_held (h : session.transaction? = some transaction) :
    session.failed decoded error =
      (session.settle .rolledBack,
        .error (if error.isTransactionNotFound then .expired transaction.id
          else decoded.failure error)) := by
  simp only [failed, h]

theorem succeeded_of_none (h : session.transaction? = none) :
    session.succeeded decoded =
      ((session.opened decoded).1, (session.opened decoded).2.map fun _ => decoded.results) := by
  simp only [succeeded, h]

/-- A response that names another transaction is the end of the one that is held. -/
theorem succeeded_of_held (decoded : Decoded) (h : session.transaction? = some transaction) :
    (∃ id, decoded.transaction? = some id ∧ id ≠ transaction.id ∧
        session.succeeded decoded = (session.discard, .error (.switched transaction.id id))) ∨
      (decoded.transaction? = none ∨ decoded.transaction? = some transaction.id) ∧
        session.succeeded decoded =
          ({ session with transaction? := some { transaction with
              expires? := decoded.expires?.or transaction.expires? } }, .ok decoded.results) := by
  cases hid : decoded.transaction? with
  | none =>
    refine .inr ⟨.inl rfl, ?_⟩
    simp only [succeeded, h, hid, Option.filter_none]
  | some id =>
    by_cases hsame : id = transaction.id
    · refine .inr ⟨.inr (by rw [hsame]), ?_⟩
      have hfilter : (some id).filter (· ≠ transaction.id) = none := by simp [Option.filter, hsame]
      simp only [succeeded, h, hid, hfilter]
    · refine .inl ⟨id, rfl, hsame, ?_⟩
      have hfilter : (some id).filter (· ≠ transaction.id) = some id := by
        simp [Option.filter, hsame]
      simp only [succeeded, h, hid, hfilter]

end

/-! ## Operations -/

def setAutoCommit (session : Session) (enabled : Bool) : Except SessionError Session :=
  if session.isClosed then .error .closed
  else if enabled = session.autoCommit then .ok session
  else if session.phase = .held then .error .transactionOpen
  else .ok { session with autoCommit := enabled }

def begin (session : Session) : Step Session (Except SessionError Unit) :=
  session.guarded session.openTransaction

/-- Runs statements: at once, or in the transaction that is held, which is opened if there is none.
An empty list opens a transaction and runs nothing. -/
def execute (session : Session) (descriptors : List Descriptor) :
    Step Session (Except SessionError (List Envelope)) :=
  session.guarded <|
    match Request.ofDescriptors descriptors with
    | .error error => .done session (.error error)
    | .ok request =>
      if session.autoCommit then
        if request.isEmpty then .done session (.ok [])
        else session.runAtOnce "execute" request
      else if request.isEmpty then session.begin.map (·.map fun _ => [])
      else session.runInTransaction "execute" request

def keepAlive (session : Session) : Step Session (Except SessionError Unit) :=
  session.guarded <|
    if session.transaction?.isSome then
      (session.runInTransaction "keep_alive" .empty).map (·.map fun _ => ())
    else .done session (.ok ())

/-- Runs last statements and commits, in one request. Without a transaction the statements are run
at once. -/
def commit (session : Session) (descriptors : List Descriptor) :
    Step Session (Except SessionError (List Envelope)) :=
  session.guarded <|
    match Request.ofDescriptors descriptors with
    | .error error => .done session (.error error)
    | .ok request =>
      match session.transaction? with
      | some transaction => session.commitHeld transaction request
      | none =>
        if request.isEmpty then .done session (.ok []) else session.runAtOnce "commit" request

def rollback (session : Session) : Step Session (Except SessionError Unit) :=
  session.guarded <|
    match session.transaction? with
    | some transaction => session.rollBackHeld transaction
    | none => .done session (.ok ())

def shut (session : Session) : Session :=
  { session with phase := .closed, transaction? := none, pending := false }

def close (session : Session) : Step Session (Except SessionError Unit) :=
  if session.isClosed then .done session (.ok ())
  else
    match session.transaction? with
    | some transaction =>
      (session.rollBackHeld transaction).andThen fun session _ => (session.shut, .ok ())
    | none => .done session.shut (.ok ())

/-- The end of closing, with what comes of giving the endpoint back. An endpoint that cannot be
given back is left to itself. -/
def giveBack (session : Session) (release : Except TransportError Unit) :
    Session × Except SessionError Unit :=
  let session := { session with transaction? := none, pending := false }
  match release with
  | .ok () | .error _ => ({ session with phase := .closed }, .ok ())

def closeWith (session : Session) (release : Except TransportError Unit) :
    Step Session (Except SessionError Unit) :=
  if session.isClosed then .done session (.ok ())
  else
    match session.transaction? with
    | some transaction =>
      (session.rollBackHeld transaction).andThen fun session _ => session.giveBack release
    | none => .done (session.giveBack release).1 (session.giveBack release).2

theorem giveBack_eq (session : Session) (release : Except TransportError Unit) :
    session.giveBack release = (session.shut, .ok ()) := by
  cases release <;> rfl

/-- To a session it makes no difference what comes of giving its endpoint back. -/
theorem closeWith_eq_close (session : Session) (release : Except TransportError Unit) :
    session.closeWith release = session.close := by
  unfold closeWith close
  simp only [giveBack_eq]

def releases (before after : Session) : Bool := after.isClosed && !before.isClosed

/-! ## Batches -/

def batchResult : Except SessionError (List Envelope) → Except BatchError (List Int64)
  | .ok results => .ok (updateCounts results)
  | .error (.statement failure) =>
    .error ⟨updateCounts failure.completed, failure.index, .statement failure⟩
  | .error error => .error ⟨[], 0, error⟩

def executeAll (session : Session) (descriptors : List Descriptor) :
    Step Session (Except BatchError (List Int64)) :=
  if descriptors.isEmpty then .done session (.ok [])
  else (session.execute descriptors).map batchResult

def executeBatch (session : Session) (batch : Batch) :
    Step (Session × Batch) (Except BatchError (List Int64)) :=
  (session.executeAll batch.pending).lift fun session => (session, {})

end Session

end CypherSession
