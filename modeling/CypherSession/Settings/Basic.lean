import CypherSession.Dictionary
import CypherSession.Endpoint

/-!
# Connection settings

What a connection is made with, and drafts of it: a draft holds the settings made so far, and
`Draft.build` checks them and fills in the others.
-/

namespace CypherSession

structure SessionConfig where
  autoCommit : Bool := true
  /-- The rows kept of each result; no limit if zero. -/
  maxRows : Nat := 0
  debug : Bool := false
  timeout : Duration := .ofSeconds 30
  deriving DecidableEq, Repr

structure Credentials where
  username : String
  password : String
  deriving DecidableEq

structure Settings where
  host : String
  port : UInt16
  username? : Option String
  password : String
  useTls : Bool
  autoCommit : Bool
  maxRows : Nat
  debug : Bool
  readOnly : Bool
  timeout : Duration
  database? : Option String
  /-- Options without a meaning of their own. -/
  attributes : Dictionary String
  deriving DecidableEq

namespace Settings

def credentials? (settings : Settings) : Option Credentials :=
  settings.username?.map fun username => ⟨username, settings.password⟩

def endpoint (settings : Settings) : Endpoint where
  host := settings.host
  port := settings.port
  useTls := settings.useTls
  timeoutMilliseconds := settings.timeout.milliseconds
  database? := settings.database?

def sessionConfig (settings : Settings) : SessionConfig where
  autoCommit := settings.autoCommit
  maxRows := settings.maxRows
  debug := settings.debug
  timeout := settings.timeout

def defaultPort (useTls : Bool) : UInt16 := if useTls then 7473 else 7474

def defaultTimeout : Duration := .ofSeconds 30

def maxTimeoutSeconds : Nat := 300

structure Draft where
  host? : Option String := none
  port? : Option UInt16 := none
  username? : Option String := none
  password? : Option String := none
  useTls? : Option Bool := none
  autoCommit? : Option Bool := none
  maxRows? : Option Nat := none
  debug? : Option Bool := none
  readOnly? : Option Bool := none
  timeout? : Option Duration := none
  database? : Option String := none
  attributes : Dictionary String := .empty
  deriving DecidableEq

namespace Draft

def addAttribute (draft : Draft) (name value : String) : Draft :=
  { draft with attributes := draft.attributes.insert name value }

def checkHost : Option String → Except ConnectionError String
  | none => .error (.invalidParameter "host" "Host is required")
  | some host =>
    if host = "" then .error (.invalidParameter "host" "Host cannot be empty") else .ok host

def checkUsername (username? : Option String) : Except ConnectionError Unit :=
  if username? = some "" then .error (.invalidParameter "username" "Username cannot be empty")
  else .ok ()

def checkPort (port : UInt16) : Except ConnectionError Unit :=
  if port = 0 then .error (.invalidParameter "port" "Port must be greater than 0") else .ok ()

def checkTimeout (timeout : Duration) : Except ConnectionError Unit :=
  if timeout.nanoseconds = 0 ∨ maxTimeoutSeconds < timeout.seconds then
    .error (.invalidParameter "timeout"
      ("Timeout must be between 1 and " ++ toString maxTimeoutSeconds ++ " seconds"))
  else .ok ()

def checkDatabase : Option String → Except ConnectionError Unit
  | none => .ok ()
  | some database =>
    if database = "" ∨ '/' ∈ database.toList then
      .error (.invalidParameter "database" ("Invalid database name: '" ++ database ++ "'"))
    else .ok ()

/-- The settings of a draft; of several errors the first one in the order of the checks counts. -/
def build (draft : Draft) : Except ConnectionError Settings := do
  let host ← checkHost draft.host?
  checkUsername draft.username?
  let useTls := draft.useTls?.getD false
  let port := draft.port?.getD (defaultPort useTls)
  checkPort port
  let timeout := draft.timeout?.getD defaultTimeout
  checkTimeout timeout
  checkDatabase draft.database?
  return {
    host, port, useTls, timeout
    username? := draft.username?
    password := draft.password?.getD ""
    autoCommit := draft.autoCommit?.getD true
    maxRows := draft.maxRows?.getD 0
    debug := draft.debug?.getD false
    readOnly := draft.readOnly?.getD false
    database? := draft.database?
    attributes := draft.attributes }

end Draft

end Settings

end CypherSession
