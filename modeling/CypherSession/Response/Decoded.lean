import CypherSession.MailDate
import CypherSession.Request
import CypherSession.Response.Basic
import CypherSession.Response.TransactionUrl

/-!
# Decoded responses

What a response means for the request that it answers.

The server runs statements in order and stops at the first one that fails. It reports the results
of those that it ran, and the errors apart from them; so the failed statement is the one after the
last result, unless the last result is that of the failed statement, cut short. That is so if there
is a result for every statement, or if the last result lacks the counters that were asked for.
-/

namespace CypherSession

structure RawResponse where
  status : Nat
  location? : Option String := none
  body : String
  deriving DecidableEq, Repr

namespace RawResponse

def isSuccess (raw : RawResponse) : Bool := 200 ≤ raw.status && raw.status < 300

def trimmedBody (raw : RawResponse) : String := String.ofList (Text.trim raw.body.toList)

end RawResponse

namespace Response

def transactionNotFound : Response :=
  { errors := [⟨ServerError.transactionNotFoundCode, "transaction not found"⟩] }

def ofStatus (raw : RawResponse) : Except SessionError Response :=
  if raw.status = 404 then .ok transactionNotFound
  else .error (.protocol ("unexpected HTTP status " ++ toString raw.status ++ ": " ++
    raw.trimmedBody))

def ofRaw (raw : RawResponse) : Except SessionError Response :=
  if raw.trimmedBody = "" then
    if raw.isSuccess then .ok {} else ofStatus raw
  else
    match ofText? raw.trimmedBody with
    | some response =>
      if raw.isSuccess || !response.errors.isEmpty then .ok response else ofStatus raw
    | none =>
      if raw.isSuccess then .error (.protocol "malformed response body") else ofStatus raw

end Response

def SessionError.tooManyResults (results statements : Nat) : SessionError :=
  .protocol ("server returned " ++ toString results ++ " results for " ++ toString statements ++
    " statements")

def SessionError.tooFewResults (results statements : Nat) : SessionError :=
  .protocol ("server returned " ++ toString results ++ " results for " ++ toString statements ++
    " statements without reporting an error")

structure Decoded where
  /-- One envelope for each statement that was run; the last one may be that of a failure. -/
  results : List Envelope
  errors : List ServerError
  location? : Option String
  transaction? : Option Nat
  expires? : Option Moment

namespace Decoded

def completed (decoded : Decoded) : List Envelope :=
  decoded.results.takeWhile fun envelope => envelope.error?.isNone

def failedIndex (decoded : Decoded) : Nat := decoded.completed.length

def firstError? (decoded : Decoded) : Option ServerError := decoded.errors.head?

def isCutShort (request : Request) (results : List Envelope) : Bool :=
  match results.getLast? with
  | none => false
  | some result =>
    (request.statements[results.length - 1]?).any (·.includeStats) && result.stats?.isNone

def attributed (request : Request) (results : List Envelope) :
    Option ServerError → List Envelope
  | none => results
  | some error =>
    if results ≠ [] ∧ (results.length = request.size ∨ isCutShort request results) then
      results.dropLast ++ [.failed error]
    else results ++ [.failed error]

def locate? (raw : RawResponse) (response : Response) : Option String :=
  raw.location?.or (response.commit?.map TransactionUrl.stripCommit)

/-- The number of the transaction; a location has to have one. -/
def identify : Option String → Except SessionError (Option Nat)
  | none => .ok none
  | some url => (TransactionUrl.number url).map some

def checkCount (request : Request) (response : Response) : Except SessionError Unit :=
  if request.size < response.results.length then
    .error (.tooManyResults response.results.length request.size)
  else if response.errors = [] ∧ response.results.length < request.size then
    .error (.tooFewResults response.results.length request.size)
  else .ok ()

/-- What a raw response to a request means, with at most `maxRows` rows of each result. -/
def ofRaw (raw : RawResponse) (request : Request) (maxRows : Nat) :
    Except SessionError Decoded := do
  let response ← Response.ofRaw raw
  checkCount request response
  let results := response.results.map (Envelope.limitRows maxRows)
  let location? := locate? raw response
  let transaction? ← identify location?
  return {
    results := attributed request results response.errors.head?
    errors := response.errors
    location?
    transaction?
    expires? := response.expires?.bind fun text => MailDate.moment? text.toList }

end Decoded

end CypherSession
