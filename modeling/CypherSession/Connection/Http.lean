import CypherSession.Connection.Basic
import CypherSession.Http.Client
import CypherSession.Registry

/-!
# Connections over HTTP

A connection together with the client that makes its calls.
-/

namespace CypherSession

structure HttpConnection where
  client : Http.Client
  connection : Connection

namespace Http.Client

def peer (network : Message → Delivery) (client : Client) (call : Call) : Client × Reply :=
  (client, client.perform network call)

end Http.Client

namespace Database

def connect (database : Database) : Except ConnectionError HttpConnection := do
  return ⟨← Http.Client.ofSettings database.settings, .ofSettings database.settings⟩

/-- Tries to run a statement over a new connection, which is closed again. A client can always be
given back. -/
def test (network : Http.Message → Http.Delivery) (database : Database) :
    Except Failure Unit :=
  match database.connect with
  | .error error => .error (.connection error)
  | .ok ⟨client, connection⟩ =>
    let (_, _, result) := connection.test (Http.Client.peer network) client (.ok ())
    match result with
    | .ok () => .ok ()
    | .error error => .error (.session error)

end Database

def Registry.connect (registry : Registry) (url : String) :
    Except ConnectionError HttpConnection := do
  (← registry.openDatabase url).connect

end CypherSession
