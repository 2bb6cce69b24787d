import CypherSession.Settings.Basic
import CypherSession.Text.Blank
import CypherSession.Text.Cut
import CypherSession.Text.Percent

/-!
# Connection URLs

A connection URL is an optional `jdbc:`, an optional `neo4j:`, the scheme `http://` or `https://`,
an authority, and after a question mark options that are separated by commas or ampersands. The
letters of the scheme may be of either case, and blanks around the URL do not count.

Reading has two steps. `Locator.ofUrl` takes the URL apart and decodes its options, of which the
last one with a name counts; `Locator.settings` makes settings of the parts. The second step takes
the options in the order in which they stand in the locator.
-/

namespace CypherSession

open Text (cutFirst cutLast stripStart)

structure Locator where
  isHttps : Bool
  /-- The user information, if any, and the host with an optional port. -/
  authority : List Char
  options : List (String × String)
  deriving DecidableEq

namespace Locator

def splitScheme? (text : List Char) : Option (Bool × List Char) :=
  let text := (stripStart "jdbc:".toList text).getD text
  let text := (stripStart "neo4j:".toList text).getD text
  match stripStart "https://".toList text with
  | some rest => some (true, rest)
  | none => (stripStart "http://".toList text).map fun rest => (false, rest)

def isSupported (url : String) : Bool := (splitScheme? (Text.trim url.toList)).isSome

/-- The text that percent escapes write; `part` says in an error what the text is. -/
def decode (part : String) (text : List Char) : Except ConnectionError String :=
  match Text.Percent.decode text with
  | .ok decoded => .ok (String.ofList decoded)
  | .error fault => .error (.malformed ("Failed to decode " ++ part ++ ": " ++ fault.message))

def readOption (text : List Char) : Except ConnectionError (String × String) := do
  let (name, value) := (cutFirst '=' text).getD (text, "true".toList)
  let name ← decode "key" name
  let value ← decode "value" value
  return (name, value)

/-- The options, of which the last one with a name counts. -/
def readOptions (text : List Char) : Except ConnectionError (Dictionary String) := do
  let segments := text.splitOnP fun c => c = '&' || c = ','
  let pairs ← (segments.filter (· ≠ [])).mapM readOption
  return Dictionary.ofList pairs

def ofUrl (url : String) : Except ConnectionError Locator :=
  match splitScheme? (Text.trim url.toList) with
  | none =>
    .error (.malformed "Connection URL must start with '[jdbc:]neo4j:http://' or 'https://'")
  | some (isHttps, rest) => do
    let (authority, options) := (cutFirst '?' rest).getD (rest, [])
    let options ← readOptions options
    return ⟨isHttps, authority, options.entries⟩

/-! ## Options -/

inductive Key where
  | username
  | password
  | autoCommit
  | maxRows
  | debug
  | readOnly
  | useTls
  | timeout
  | database
  deriving DecidableEq

/-- The option that a name means; case does not matter in ASCII letters. -/
def Key.ofName? (name : String) : Option Key :=
  match String.ofList (name.toList.map Char.toLower) with
  | "user" | "username" => some .username
  | "password" => some .password
  | "autocommit" => some .autoCommit
  | "maxrows" => some .maxRows
  | "debug" => some .debug
  | "readonly" => some .readOnly
  | "ssl" | "secure" | "tls" => some .useTls
  | "timeout" => some .timeout
  | "database" => some .database
  | _ => none

/-- The truth value of an option. The letters of its words are those of ASCII in either case, as
no other character has one of them as its lower case. -/
def readBool (name value : String) : Except ConnectionError Bool :=
  match String.ofList (value.toList.map Char.toLower) with
  | "true" | "1" | "yes" | "on" => .ok true
  | "false" | "0" | "no" | "off" => .ok false
  | _ => .error (.invalidParameter name ("Invalid boolean value: " ++ value))

def readNumber (name value what : String) : Except ConnectionError Nat :=
  match Text.unsigned? UInt64.size value.toList with
  | some n => .ok n
  | none => .error (.invalidParameter name ("Invalid " ++ what ++ ": " ++ value))

def applyOption (draft : Settings.Draft) (name value : String) :
    Except ConnectionError Settings.Draft :=
  match Key.ofName? name with
  | some .username => .ok { draft with username? := some value }
  | some .password => .ok { draft with password? := some value }
  | some .autoCommit => do return { draft with autoCommit? := some (← readBool name value) }
  | some .maxRows => do
    return { draft with maxRows? := some (← readNumber name value "row limit") }
  | some .debug => do return { draft with debug? := some (← readBool name value) }
  | some .readOnly => do return { draft with readOnly? := some (← readBool name value) }
  | some .useTls => do return { draft with useTls? := some (← readBool name value) }
  | some .timeout => do
    return { draft with timeout? := some (.ofSeconds (← readNumber name value "timeout value")) }
  | some .database => .ok { draft with database? := some value }
  | none => .ok (draft.addAttribute name value)

def applyOptions (draft : Settings.Draft) :
    List (String × String) → Except ConnectionError Settings.Draft
  | [] => .ok draft
  | (name, value) :: rest => do applyOptions (← applyOption draft name value) rest

def checkTls : List (String × String) → Except ConnectionError Unit
  | [] => .ok ()
  | (name, value) :: rest =>
    if Key.ofName? name = some .useTls then do
      if ← readBool name value then checkTls rest
      else .error (.invalidParameter name "TLS cannot be disabled on an https URL")
    else checkTls rest

def takeOption (key : Key) :
    List (String × String) → Option String × List (String × String)
  | [] => (none, [])
  | (name, value) :: rest =>
    if Key.ofName? name = some key then (some value, rest)
    else
      let (value?, others) := takeOption key rest
      (value?, (name, value) :: others)

/-! ## Authority -/

def readUser (text : List Char) : Except ConnectionError (String × String) := do
  let (username, password) := (cutFirst ':' text).getD (text, [])
  let username ← decode "username" username
  let password ← decode "password" password
  return (username, password)

def readPort (shown text : List Char) : Except ConnectionError UInt16 :=
  match Text.unsigned? UInt16.size text with
  | some port => .ok port.toUInt16
  | none => .error (.malformed ("Invalid port: " ++ String.ofList shown))

/-- The host and the port of an authority; a host in brackets may hold colons. -/
def readHostPort (text : List Char) : Except ConnectionError (List Char × Option UInt16) :=
  let bracketed? := match text with
    | '[' :: rest => cutFirst ']' rest
    | _ => none
  match bracketed? with
  | some (host, rest) =>
    match rest with
    | ':' :: port => do return (host, some (← readPort rest port))
    | _ => .ok (host, none)
  | none =>
    match cutLast ':' text with
    | some (host, port) => do return (host, some (← readPort port port))
    | none => .ok (text, none)

/-! ## Settings -/

/-- The user that the authority names or, if it names none, the options, with the password and the
options that are left. -/
def readCredentials (userInfo? : Option (List Char)) (options : List (String × String)) :
    Except ConnectionError (Option String × String × List (String × String)) :=
  match userInfo? with
  | some userInfo => do
    let (username, password) ← readUser userInfo
    return (some username, password, options)
  | none =>
    let (username?, options) := takeOption .username options
    let (password?, options) := takeOption .password options
    .ok (username?, password?.getD "", options)

def settings (locator : Locator) : Except ConnectionError Settings := do
  if locator.isHttps then checkTls locator.options
  let (userInfo?, hostPort) := match cutLast '@' locator.authority with
    | some (userInfo, hostPort) => (some userInfo, hostPort)
    | none => (none, locator.authority)
  let (username?, password, options) ← readCredentials userInfo? locator.options
  let trimmed := Text.dropEndWhile (· = '/') hostPort
  if '/' ∈ trimmed then
    .error (.malformed ("Unexpected path in connection URL: " ++ String.ofList hostPort))
  let (host, port?) ← readHostPort trimmed
  let draft : Settings.Draft := {
    host? := some (String.ofList host)
    port?
    useTls? := some locator.isHttps
    username?
    password? := username?.map fun _ => password }
  (← applyOptions draft options).build

end Locator

def Settings.ofUrl (url : String) : Except ConnectionError Settings := do
  (← Locator.ofUrl url).settings

end CypherSession
