import CypherSession.Session.Basic
import CypherSession.Text.Quoted

/-!
# Sessions written out

The texts in which sessions appear in logs.
-/

namespace CypherSession

open Text (optional record)

def Phase.name : Phase → String
  | idle => "None"
  | held => "Open"
  | committed => "Committed"
  | rolledBack => "RolledBack"
  | closed => "Closed"

def SessionConfig.debugText (config : SessionConfig) : String :=
  record "SessionConfig" [
    ("auto_commit", toString config.autoCommit),
    ("max_rows", toString config.maxRows),
    ("debug", toString config.debug),
    ("round_trip_timeout", config.timeout.text)]

def Session.debugText (session : Session) : String :=
  record "TransactionSession" [
    ("config", session.config.debugText),
    ("auto_commit", toString session.autoCommit),
    ("state", session.phase.name),
    ("tx_id", optional (session.transaction?.map fun transaction => toString transaction.id))]

end CypherSession
