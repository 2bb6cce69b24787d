import CypherSession.Http.Host
import CypherSession.Text.Blank

/-!
# URLs of HTTP

Absolute URLs with the scheme `http` or `https`, in their normal form, and references that are
resolved against such a URL. A backslash counts as a slash, the segments `.` and `..` are followed
away, the default port is left out, and characters that a part cannot hold are percent-encoded.
-/

namespace CypherSession.Http

open Text (cutFirst cutLast)

structure Url where
  isHttps : Bool
  username : List Char := []
  password : List Char := []
  host : List Char
  /-- The port, unless it is the default one of the scheme. -/
  port? : Option Nat := none
  /-- The segments of the path, at least one; the last one is empty after a slash at the end. -/
  path : List (List Char) := [[]]
  query? : Option (List Char) := none
  fragment? : Option (List Char) := none
  deriving DecidableEq, Repr

namespace Url

/-! ## Percent encoding -/

def hexDigits : List Char := "0123456789ABCDEF".toList

def escapeOctet (octet : UInt8) : List Char :=
  ['%', hexDigits.getD (octet.toNat / 16) '0', hexDigits.getD (octet.toNat % 16) '0']

def escape (special : List Char) (text : List Char) : List Char :=
  text.flatMap fun c =>
    if c.toNat < 0x20 ∨ 0x7E < c.toNat ∨ c ∈ special then
      (String.utf8EncodeChar c).flatMap escapeOctet
    else [c]

def fragmentSpecial : List Char := [' ', '"', '<', '>', '\x60']
def querySpecial : List Char := " \"#<>'".toList
def pathSpecial : List Char := fragmentSpecial ++ "#?^\x7b\x7d".toList
def userSpecial : List Char := pathSpecial ++ "/:;=@[\\]|".toList

/-! ## Parts -/

def isSlash (c : Char) : Bool := c = '/' || c = '\\'

/-- A text without the characters that URLs pass over: controls and spaces around it, tabs and line
ends inside. -/
def clean (text : List Char) : List Char :=
  let isEdge (c : Char) : Bool := c.toNat ≤ 0x20
  (Text.dropEndWhile isEdge (text.dropWhile isEdge)).filter fun c =>
    c ≠ '\t' && c ≠ '\n' && c ≠ '\r'

def splitScheme? (text : List Char) : Option (String × List Char) := do
  let (scheme, rest) ← cutFirst ':' text
  guard ((scheme.head?).any Char.isAlpha)
  guard (scheme.all fun c => c.isAlphanum || c = '+' || c = '-' || c = '.')
  return (String.ofList (scheme.map Char.toLower), rest)

def defaultPort (isHttps : Bool) : Nat := if isHttps then 443 else 80

def readPort? (isHttps : Bool) (text : List Char) : Option (Option Nat) :=
  if text = [] then some none
  else do
    guard (text.all Char.isDigit)
    let port := Nat.ofDigitChars 10 text 0
    guard (port < UInt16.size)
    return if port = defaultPort isHttps then none else some port

def splitHost (text : List Char) : List Char × List Char :=
  match text with
  | '[' :: _ =>
    match cutFirst ']' text with
    | some (address, ':' :: port) => (address ++ [']'], port)
    | some (address, rest) => (address ++ ']' :: rest, [])
    | none => (text, [])
  | _ => (cutFirst ':' text).getD (text, [])

def ofAuthority? (isHttps : Bool) (text : List Char) : Option Url := do
  let (userInfo, hostPort) := (cutLast '@' text).getD ([], text)
  let (username, password) := (cutFirst ':' userInfo).getD (userInfo, [])
  let (host, port) := splitHost hostPort
  let host ← Host.ofText? host
  let port? ← readPort? isHttps port
  return {
    isHttps, host, port?
    username := escape userSpecial username
    password := escape userSpecial password }

/-- Whether a segment means the place where it stands, dots possibly being escaped. -/
def isSingleDot (segment : List Char) : Bool :=
  String.ofList (segment.map Char.toLower) ∈ [".", "%2e"]

def isDoubleDot (segment : List Char) : Bool :=
  String.ofList (segment.map Char.toLower) ∈ ["..", ".%2e", "%2e.", "%2e%2e"]

/-- The path that segments lead to from a path without its last segment. -/
def follow (path : List (List Char)) : List (List Char) → List (List Char)
  | [] => path
  | [segment] =>
    if isDoubleDot segment then path.dropLast ++ [[]]
    else if isSingleDot segment then path ++ [[]]
    else path ++ [escape pathSpecial segment]
  | segment :: rest =>
    if isDoubleDot segment then follow path.dropLast rest
    else if isSingleDot segment then follow path rest
    else follow (path ++ [escape pathSpecial segment]) rest

def splitMark (mark : Char) (text : List Char) : List Char × Option (List Char) :=
  match cutFirst mark text with
  | some (before, after) => (before, some after)
  | none => (text, none)

def splitTail (text : List Char) : List Char × Option (List Char) × Option (List Char) :=
  let (text, fragment?) := splitMark '#' text
  let (path, query?) := splitMark '?' text
  (path, query?.map (escape querySpecial), fragment?.map (escape fragmentSpecial))

def withTail (url : Url) (start : List (List Char)) (text : List Char) : Url :=
  let (path, query?, fragment?) := splitTail text
  { url with path := follow start (path.splitOnP isSlash), query?, fragment? }

def ofHierarchy? (isHttps : Bool) (text : List Char) : Option Url := do
  let isEnd (c : Char) : Bool := isSlash c || c = '?' || c = '#'
  let authority := text.takeWhile (!isEnd ·)
  let rest := text.dropWhile (!isEnd ·)
  let url ← ofAuthority? isHttps authority
  let rest := match rest with
    | c :: tail => if isSlash c then tail else rest
    | [] => []
  return url.withTail [] rest

def isHttps? (scheme : String) : Option Bool :=
  match scheme with
  | "http" => some false
  | "https" => some true
  | _ => none

def ofText? (text : String) : Option Url := do
  let (scheme, rest) ← splitScheme? (clean text.toList)
  ofHierarchy? (← isHttps? scheme) (rest.dropWhile isSlash)

def resolve? (base : Url) (text : List Char) : Option Url :=
  match text with
  | [] => some { base with fragment? := none }
  | '?' :: _ => some { base.withTail [] text with path := base.path }
  | '#' :: fragment => some { base with fragment? := some (escape fragmentSpecial fragment) }
  | c :: d :: rest =>
    if isSlash c && isSlash d then ofHierarchy? base.isHttps (rest.dropWhile isSlash)
    else if isSlash c then some (base.withTail [] (d :: rest))
    else some (base.withTail base.path.dropLast text)
  | [c] =>
    if isSlash c then some (base.withTail [] [])
    else some (base.withTail base.path.dropLast text)

/-- The URL that a reference means, seen from a URL. References with other schemes have none. -/
def join? (base : Url) (text : String) : Option Url :=
  let text := clean text.toList
  match splitScheme? text with
  | none => base.resolve? text
  | some (scheme, rest) => do
    let isHttps ← isHttps? scheme
    if isHttps = base.isHttps ∧ !"//".toList.isPrefixOf rest then base.resolve? rest
    else ofHierarchy? isHttps (rest.dropWhile isSlash)

/-! ## Written form -/

def hostText (url : Url) : String :=
  let port := match url.port? with
    | some port => ":" ++ toString port
    | none => ""
  String.ofList url.host ++ port

def userText (url : Url) : String :=
  let password := if url.password = [] then [] else ':' :: url.password
  if url.username = [] ∧ password = [] then ""
  else String.ofList (url.username ++ password ++ ['@'])

def tailText (url : Url) : String :=
  let mark (c : Char) (text? : Option (List Char)) : List Char :=
    match text? with
    | some text => c :: text
    | none => []
  String.ofList (url.path.flatMap ('/' :: ·) ++ mark '?' url.query? ++ mark '#' url.fragment?)

def text (url : Url) : String :=
  (if url.isHttps then "https" else "http") ++ "://" ++ url.userText ++ url.hostText ++
    url.tailText

end Url

end CypherSession.Http
