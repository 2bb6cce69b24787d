import CypherSession.Duration
import CypherSession.Error

/-!
# Endpoints

Where the transactional service of a server is reached. A new transaction is opened by a request to
the transaction URL; a request to the autocommit URL opens and commits one at once.
-/

namespace CypherSession

structure Endpoint where
  host : String
  port : UInt16
  useTls : Bool := false
  timeoutMilliseconds : Nat := 30000
  /-- The database that statements run in; without one, the server's default service is used. -/
  database? : Option String := none
  deriving DecidableEq, Repr

namespace Endpoint

def scheme (useTls : Bool) : String := if useTls then "https" else "http"

def urlHost (host : String) : String :=
  if ':' ∈ host.toList ∧ host.toList.head? ≠ some '[' then "[" ++ host ++ "]" else host

def baseUrl (endpoint : Endpoint) : String :=
  scheme endpoint.useTls ++ "://" ++ urlHost endpoint.host ++ ":" ++ toString endpoint.port

def transactionUrl (endpoint : Endpoint) : String :=
  match endpoint.database? with
  | some database => endpoint.baseUrl ++ "/db/" ++ database ++ "/tx"
  | none => endpoint.baseUrl ++ "/db/data/transaction"

def commitSuffix : String := "/commit"

def autocommitUrl (endpoint : Endpoint) : String := endpoint.transactionUrl ++ commitSuffix

end Endpoint

end CypherSession
