import CypherSession.Envelope

/-!
# Errors

What can go wrong with a connection, with an exchange, in a session and in a batch. Every error has
a message and a code, by which programs tell the kinds apart.
-/

namespace CypherSession

inductive ErrorCode where
  | unknown
  | connection
  | invalidArgument
  | invalidState
  | protocol
  | statement
  | ambiguous
  | readOnly
  | timeout
  deriving DecidableEq, Repr

namespace ErrorCode

def name : ErrorCode → String
  | unknown => "UNKNOWN"
  | connection => "CONNECTION"
  | invalidArgument => "INVALID_ARGUMENT"
  | invalidState => "INVALID_STATE"
  | protocol => "PROTOCOL"
  | statement => "STATEMENT"
  | ambiguous => "AMBIGUOUS"
  | readOnly => "READ_ONLY"
  | timeout => "TIMEOUT"

def number : ErrorCode → Nat
  | unknown => 0
  | connection => 1
  | invalidArgument => 2
  | invalidState => 3
  | protocol => 4
  | statement => 5
  | ambiguous => 6
  | readOnly => 7
  | timeout => 8

end ErrorCode

/-! ## Transport -/

inductive TransportFault where
  | connect
  | timeout
  | io
  | serialization
  | deserialization
  | invalidResponse
  | tls
  deriving DecidableEq, Repr

structure TransportError where
  fault : TransportFault
  detail : String
  deriving DecidableEq, Repr

namespace TransportError

/-- Whether the request may have reached the server although no response came back. -/
def isAmbiguous (error : TransportError) : Bool :=
  match error.fault with
  | .timeout | .io | .deserialization => true
  | _ => false

def message (error : TransportError) : String :=
  let label := match error.fault with
    | .connect => "Connection error"
    | .timeout => "Request timed out"
    | .io => "Network I/O error"
    | .serialization => "Serialization error"
    | .deserialization => "Deserialization error"
    | .invalidResponse => "Invalid server response"
    | .tls => "TLS error"
  label ++ ": " ++ error.detail

def code (error : TransportError) : ErrorCode :=
  match error.fault with
  | .timeout => .timeout
  | .invalidResponse | .deserialization => .protocol
  | .serialization => .invalidArgument
  | .connect | .io | .tls => .connection

end TransportError

/-! ## Connections -/

inductive ConnectionError where
  | connectionFailed (host : String) (port : UInt16) (detail : String)
  | invalidParameter (parameter detail : String)
  /-- The text is no connection URL. -/
  | malformed (detail : String)
  /-- No driver takes the URL, which is given without its user information. -/
  | noSuitableDriver (url : String)
  deriving DecidableEq, Repr

namespace ConnectionError

def message : ConnectionError → String
  | connectionFailed host port detail =>
    "Failed to connect to " ++ host ++ ":" ++ toString port ++ ": " ++ detail
  | invalidParameter parameter detail =>
    "Invalid connection parameter '" ++ parameter ++ "': " ++ detail
  | malformed detail => "Failed to parse connection string: " ++ detail
  | noSuitableDriver url => "No driver accepts connection string '" ++ url ++ "'"

def code : ConnectionError → ErrorCode
  | invalidParameter .. | malformed .. => .invalidArgument
  | connectionFailed .. | noSuitableDriver .. => .connection

end ConnectionError

/-! ## Sessions -/

structure StatementFailure where
  index : Nat
  code : String
  message : String
  completed : List Envelope

inductive SessionError where
  | closed
  | invalidState (detail : String)
  /-- The server answers in a way that the protocol does not allow. -/
  | protocol (detail : String)
  | statement (failure : StatementFailure)
  /-- The operation may or may not have had its effect. -/
  | ambiguous (operation detail : String)
  | readOnly (query : String)
  /-- The server has given up the transaction. -/
  | expired (transaction : Nat)
  | transport (error : TransportError)

namespace SessionError

def message : SessionError → String
  | closed => "Session is closed"
  | invalidState detail => "Invalid session state: " ++ detail
  | protocol detail => "Protocol error: " ++ detail
  | statement failure =>
    "Statement " ++ toString failure.index ++ " failed: " ++ failure.code ++ ": " ++
      failure.message
  | ambiguous operation detail => "Outcome of " ++ operation ++ " is unknown: " ++ detail
  | readOnly query => "Mutating query in read-only mode: " ++ query
  | expired transaction =>
    "Transaction " ++ toString transaction ++ " no longer exists on the server"
  | transport error => error.message

def code : SessionError → ErrorCode
  | closed | invalidState .. | expired .. => .invalidState
  | protocol .. => .protocol
  | statement .. => .statement
  | ambiguous .. => .ambiguous
  | readOnly .. => .readOnly
  | transport error => error.code

end SessionError

structure BatchError where
  updateCounts : List Int64
  failedIndex : Nat
  cause : SessionError

namespace BatchError

def message (error : BatchError) : String :=
  "Batch failed at statement " ++ toString error.failedIndex ++ " after " ++
    toString error.updateCounts.length ++ " successful statements: " ++ error.cause.message

end BatchError

/-! ## All of them -/

inductive Failure where
  | connection (error : ConnectionError)
  | session (error : SessionError)
  | batch (error : BatchError)
  | transport (error : TransportError)

namespace Failure

def message : Failure → String
  | connection error => error.message
  | session error => error.message
  | batch error => error.message
  | transport error => error.message

def code : Failure → ErrorCode
  | connection error => error.code
  | session error => error.code
  | batch error => error.cause.code
  | transport error => error.code

end Failure

end CypherSession
