import CypherSession.Http.Url
import CypherSession.Session.Step
import CypherSession.Settings.Written
import CypherSession.Text.Base64

/-!
# HTTP clients

A client makes an HTTP message of each call, gives it to a network, and reads what comes back. The
network is a function, so that everything here is about one message and its answer.
-/

namespace CypherSession.Http

inductive Method where
  | post
  | delete
  deriving DecidableEq, Repr

/-- A message to a server. Its URL has neither user information nor a fragment. -/
structure Message where
  method : Method
  url : Url
  headers : List (String × String)
  body? : Option Request

inductive Delivery where
  | answered (status : Nat) (location? : Option (List UInt8)) (body : List UInt8)
  /-- No connection to the server could be made. -/
  | unreachable (detail : String)
  /-- No answer came within the time that the client allows. -/
  | late (detail : String)
  /-- The connection broke off. -/
  | broken (detail : String)

structure Client where
  endpoint : Endpoint
  credentials? : Option Credentials := none
  isClosed : Bool := false

namespace Client

def mediaType : String := "application/json; charset=UTF-8"

def create (endpoint : Endpoint) (credentials? : Option Credentials) :
    Except TransportError Client :=
  match Url.ofText? endpoint.transactionUrl with
  | some _ => .ok { endpoint, credentials? }
  | none => .error ⟨.connect, "invalid endpoint URL '" ++ endpoint.transactionUrl ++ "'"⟩

def close (client : Client) : Client := { client with isClosed := true }

/-- Basic authentication: the user name and the password with a colon between them, in Base64. -/
def authorization (credentials : Credentials) : String :=
  let text := credentials.username ++ ":" ++ credentials.password
  "Basic " ++ String.ofList (Text.Base64.encode (Text.Utf8.encode text.toList))

def headers (client : Client) (url : Url) : List (String × String) :=
  [("accept", mediaType), ("content-type", mediaType), ("x-stream", "true")] ++
    (client.credentials?.map fun credentials =>
      ("authorization", authorization credentials)).toList ++
    [("host", url.hostText)]

def maxUrlLength : Nat := 65534

/-- Whether a message can be sent to a URL: quotes and braces, which a host may hold in a URL, have
no place in the address of a message. -/
def isAddress (url : Url) : Bool :=
  url.text.length ≤ maxUrlLength && !url.host.any (· ∈ ['"', '\x60', '\x7b', '\x7d'])

def message? (client : Client) (call : Call) : Option Message := do
  let url ← Url.ofText? call.url
  let url := { url with username := [], password := [] }
  guard (isAddress url)
  let url := { url with fragment? := none }
  let (method, body?) := match call with
    | .post _ request => (.post, some request)
    | .delete _ => (.delete, none)
  return ⟨method, url, client.headers url, body?⟩

def locationText? (octets : List UInt8) : Option String :=
  if octets.all fun octet => octet = 0x09 || (0x20 ≤ octet && octet < 0x7F) then
    some (String.ofList (octets.map fun octet => Char.ofNat octet.toNat))
  else none

/-- A location seen from the URL of the message; one that means nothing there is kept. -/
def resolveLocation (url : Url) (location : String) : String :=
  match url.join? location with
  | some resolved => resolved.text
  | none => location

def bodyText (octets : List UInt8) : String :=
  let octets := match octets with
    | 0xEF :: 0xBB :: 0xBF :: rest => rest
    | _ => octets
  String.ofList (Text.Utf8.decodeLenient octets)

def read (url : Url) : Delivery → Reply
  | .answered status location? body => .answered {
      status
      location? := (location?.bind locationText?).map (resolveLocation url)
      body := bodyText body }
  | .unreachable detail => .failed ⟨.connect, detail⟩
  | .late detail => .failed ⟨.timeout, detail⟩
  | .broken detail => .failed ⟨.io, detail⟩

/-- Makes a call over a network. A client that is closed sends nothing, nor does a call to whose URL
no message can be sent. -/
def perform (network : Message → Delivery) (client : Client) (call : Call) : Reply :=
  if client.isClosed then .failed ⟨.connect, "Transport is closed"⟩
  else
    match client.message? call with
    | none => .failed ⟨.serialization, "builder error"⟩
    | some message => read message.url (network message)

def debugText (client : Client) : String :=
  Text.record "HttpTransport" [
    ("endpoint", Text.quote client.endpoint.transactionUrl),
    ("credentials", Text.optional (client.credentials?.map Credentials.debugText)),
    ("closed", toString client.isClosed)]

def ofSettings (settings : Settings) : Except ConnectionError Client :=
  match create settings.endpoint settings.credentials? with
  | .ok client => .ok client
  | .error error => .error (.connectionFailed settings.host settings.port error.message)

end Client

end CypherSession.Http
