import CypherSession.Connection.Basic
import CypherSession.Session.Run

/-!
# Runs of a connection

The operations of a connection as data, and what an operation does to a connection when its call
ends in one way or another. A run keeps of each result only whether it is an error, and which one.
-/

namespace CypherSession.Connection

inductive Operation where
  | setReadOnly (enabled : Bool)
  | setAutoCommit (enabled : Bool)
  | executeQueries (descriptors : List Descriptor)
  | executeQuery (descriptor : Descriptor)
  | executeStatement (statement : Statement)
  | executeUpdate (statement : Statement)
  | executeBatch (statement : Statement)
  | commit
  | commitWith (descriptors : List Descriptor)
  | rollback
  | keepAlive
  | close

def atOnce (connection : Connection) (result : Except SessionError Connection) :
    Step Connection (Except Failure Unit) :=
  match result with
  | .ok connection => .done connection (.ok ())
  | .error error => .done connection (.error (.session error))

def forget {α ε : Type} (toFailure : ε → Failure) (result : Except ε α) : Except Failure Unit :=
  (result.map fun _ => ()).mapError toFailure

def Operation.step (operation : Operation) (connection : Connection) :
    Step Connection (Except Failure Unit) :=
  match operation with
  | setReadOnly enabled => connection.atOnce (connection.setReadOnly enabled)
  | setAutoCommit enabled => connection.atOnce (connection.setAutoCommit enabled)
  | executeQueries descriptors => (connection.executeQueries descriptors).map (forget .session)
  | executeQuery descriptor => (connection.executeQuery descriptor).map (forget .session)
  | executeStatement statement => (connection.executeStatement statement).map (forget .session)
  | executeUpdate statement => (connection.executeUpdate statement).map (forget .session)
  | executeBatch statement =>
    ((connection.executeBatch statement).lift Prod.fst).map (forget .batch)
  | commit => connection.commit.map (forget .session)
  | commitWith descriptors => (connection.commitWith descriptors).map (forget .session)
  | rollback => connection.rollback.map (forget .session)
  | keepAlive => connection.keepAlive.map (forget .session)
  | close => connection.close.map (forget .session)

abbrev Event : Type := Run.Event Operation

variable (connection : Connection)

abbrev after (event : Event) : Connection := Run.after Operation.step connection event

abbrev result? (event : Event) : Option (Except Failure Unit) :=
  Run.result? Operation.step connection event

abbrev calls (event : Event) : List Call := Run.calls Operation.step connection event

abbrev afterAll (events : List Event) : Connection :=
  Run.afterAll Operation.step connection events

abbrev trace (events : List Event) : List (Connection × Event) :=
  Run.trace Operation.step connection events

end CypherSession.Connection
