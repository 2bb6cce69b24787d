import CypherSession.Database
import CypherSession.Session.Written
import CypherSession.Statement.Guard

/-!
# Connections

A connection owns a session and decides what gets to it. While it is read-only it refuses every
list of statements in which one is mutating, before anything is sent.
-/

namespace CypherSession

structure Connection where
  session : Session
  settings : Settings
  readOnly : Bool

structure QueryResponse where
  results : List Envelope
  transaction? : Option Nat

namespace QueryResponse

def first? (response : QueryResponse) : Option Envelope := response.results.head?

def hasErrors (response : QueryResponse) : Bool := response.results.any (·.error?.isSome)

end QueryResponse

namespace SessionError

def commitInAutoCommit : SessionError := .invalidState "commit is not allowed in autocommit mode"

def noResult : SessionError := .protocol "no result for executed statement"

end SessionError

namespace Connection

def ofSettings (settings : Settings) : Connection where
  session := Session.start settings.endpoint settings.sessionConfig
  settings := settings
  readOnly := settings.readOnly

def isClosed (connection : Connection) : Bool := connection.session.isClosed

def transactionId? (connection : Connection) : Option Nat :=
  connection.session.transaction?.map Transaction.id

def onSession {α : Type} (connection : Connection) (step : Step Session α) : Step Connection α :=
  step.lift fun session => { connection with session }

def ensureOpen (connection : Connection) : Except SessionError Unit :=
  if connection.isClosed then .error .closed else .ok ()

def allow (connection : Connection) (descriptors : List Descriptor) : Except SessionError Unit := do
  connection.ensureOpen
  if connection.readOnly then Guard.check descriptors

def checked {α : Type} (connection : Connection) (check : Except SessionError Unit)
    (step : Step Connection (Except SessionError α)) : Step Connection (Except SessionError α) :=
  match check with
  | .ok () => step
  | .error error => .done connection (.error error)

def executeQueries (connection : Connection) (descriptors : List Descriptor) :
    Step Connection (Except SessionError QueryResponse) :=
  connection.checked (connection.allow descriptors) <|
    (connection.onSession (connection.session.execute descriptors)).andThen
      fun connection result =>
        (connection, result.map fun results => ⟨results, connection.transactionId?⟩)

def executeQuery (connection : Connection) (descriptor : Descriptor) :
    Step Connection (Except SessionError Envelope) :=
  (connection.executeQueries [descriptor]).map fun result => do
    match (← result).first? with
    | some envelope => return envelope
    | none => throw .noResult

def executeStatement (connection : Connection) (statement : Statement) :
    Step Connection (Except SessionError Envelope) :=
  connection.executeQuery statement.descriptor

def executeUpdate (connection : Connection) (statement : Statement) :
    Step Connection (Except SessionError Int64) :=
  (connection.executeStatement statement).map fun result => result.map Envelope.updateCount

def refusal (descriptors : List Descriptor) (cause : SessionError) : BatchError where
  updateCounts := []
  failedIndex :=
    (descriptors.findIdx? fun descriptor => Guard.isMutating descriptor.text).getD 0
  cause := cause

def executeBatch (connection : Connection) (statement : Statement) :
    Step (Connection × Statement) (Except BatchError (List Int64)) :=
  let descriptors := statement.batch.pending
  match connection.allow descriptors with
  | .error cause =>
    .done (connection, statement.clearBatch) (.error (refusal descriptors cause))
  | .ok () =>
    (connection.session.executeBatch statement.batch).lift fun (session, batch) =>
      ({ connection with session }, { statement with batch })

def setAutoCommit (connection : Connection) (enabled : Bool) : Except SessionError Connection := do
  return { connection with session := ← connection.session.setAutoCommit enabled }

def setReadOnly (connection : Connection) (enabled : Bool) : Except SessionError Connection := do
  connection.ensureOpen
  return { connection with readOnly := enabled }

/-- Commits, after last statements have been run in the same request. -/
def commitWith (connection : Connection) (descriptors : List Descriptor) :
    Step Connection (Except SessionError (List Envelope)) :=
  let check := do
    connection.ensureOpen
    if connection.session.autoCommit then throw .commitInAutoCommit
    connection.allow descriptors
  connection.checked check (connection.onSession (connection.session.commit descriptors))

def commit (connection : Connection) : Step Connection (Except SessionError Unit) :=
  (connection.commitWith []).map fun result => result.map fun _ => ()

def rollback (connection : Connection) : Step Connection (Except SessionError Unit) :=
  connection.checked connection.ensureOpen <|
    if connection.session.autoCommit then .done connection (.ok ())
    else connection.onSession connection.session.rollback

def keepAlive (connection : Connection) : Step Connection (Except SessionError Unit) :=
  connection.onSession connection.session.keepAlive

def close (connection : Connection) : Step Connection (Except SessionError Unit) :=
  connection.onSession connection.session.close

/-- Closing, with what comes of giving the endpoint back at its end. -/
def closeWith (connection : Connection) (release : Except TransportError Unit) :
    Step Connection (Except SessionError Unit) :=
  connection.onSession (connection.session.closeWith release)

def probe : Descriptor := { text := "RETURN 1" }

/-- Tries a connection with a peer that replies to its calls, and closes it. An error of closing
comes before what the probe gave. -/
def test {ε : Type} (peer : ε → Call → ε × Reply) (memory : ε)
    (release : Except TransportError Unit) (connection : Connection) :
    ε × Connection × Except SessionError Unit :=
  let (memory, connection, probed) := (connection.executeQuery probe).run peer memory
  let (memory, connection, closed) := (connection.closeWith release).run peer memory
  let result := do
    closed
    probed.map fun _ => ()
  (memory, connection, result)

def debugText (connection : Connection) : String :=
  Text.record "Connection" [
    ("host", Text.quote connection.settings.host),
    ("port", toString connection.settings.port),
    ("username", Text.optional (connection.settings.username?.map Text.quote)),
    ("auto_commit", toString connection.session.autoCommit),
    ("read_only", toString connection.readOnly),
    ("state", connection.session.phase.name),
    ("open_transaction_id", Text.optional (connection.transactionId?.map toString))]

end Connection

end CypherSession
