import CypherSession.Endpoint
import CypherSession.Text.Cut
import CypherSession.Text.Blank

/-!
# Transaction URLs

The URL of an open transaction, which the server gives by itself or with the suffix that commits
the transaction. Its last segment is the number of the transaction, which is not zero; slashes at
its end do not count.
-/

namespace CypherSession

def SessionError.noTransactionId (url : String) : SessionError :=
  .protocol ("no transaction id in location '" ++ url ++ "'")

namespace TransactionUrl

def stripCommit (url : String) : String :=
  match Text.stripEnd Endpoint.commitSuffix.toList url.toList with
  | some stripped => String.ofList stripped
  | none => url

def lastSegment (url : List Char) : List Char :=
  let trimmed := Text.dropEndWhile (· = '/') url
  match Text.cutLast '/' trimmed with
  | some (_, segment) => segment
  | none => trimmed

def number (url : String) : Except SessionError Nat :=
  match Text.unsigned? UInt64.size (lastSegment url.toList) with
  | some n => if n = 0 then .error (.noTransactionId url) else .ok n
  | none => .error (.noTransactionId url)

end TransactionUrl

end CypherSession
