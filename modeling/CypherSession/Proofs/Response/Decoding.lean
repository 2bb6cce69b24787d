import CypherSession.Proofs.Response.TransactionUrl
import CypherSession.Proofs.Result
import CypherSession.Response.Decoded

/-!
# When a response decodes

Decoding goes through three checks in order: the status and the body, the number of results, and the
identity of the transaction. What comes out is fixed by the response that was read; the limit on rows
touches the results only.
-/

namespace CypherSession

open Result

inductive SessionError.IsBreach : SessionError → Prop where
  | status (status : Nat) (body : String) :
      IsBreach (.protocol ("unexpected HTTP status " ++ toString status ++ ": " ++ body))
  | malformed : IsBreach (.protocol "malformed response body")
  | tooMany (results statements : Nat) : IsBreach (.tooManyResults results statements)
  | tooFew (results statements : Nat) : IsBreach (.tooFewResults results statements)
  | unidentified (url : String) : IsBreach (.noTransactionId url)

theorem SessionError.IsBreach.eq_protocol {error : SessionError} (h : error.IsBreach) :
    ∃ detail, error = .protocol detail := by
  cases h <;> exact ⟨_, rfl⟩

namespace Response

/-- A response without errors is read only from a successful exchange, and it is what the body says,
or nothing if the body is blank. -/
theorem ofRaw_eq_ok_and_errors_eq_nil_iff {raw : RawResponse} {response : Response} :
    Response.ofRaw raw = .ok response ∧ response.errors = [] ↔
      raw.isSuccess = true ∧ response.errors = [] ∧
        ((raw.trimmedBody = "" ∧ response = {}) ∨
          (raw.trimmedBody ≠ "" ∧ Response.ofText? raw.trimmedBody = some response)) := by
  have hstatus (h : ofStatus raw = .ok response) : response.errors ≠ [] := by
    unfold ofStatus at h
    split at h
    · cases h
      simp [transactionNotFound]
    · cases h
  unfold Response.ofRaw
  by_cases hblank : raw.trimmedBody = ""
  · rw [if_pos hblank]
    by_cases hsuccess : raw.isSuccess = true
    · rw [if_pos hsuccess]
      constructor
      · rintro ⟨h, herrors⟩
        cases h
        exact ⟨hsuccess, rfl, .inl ⟨hblank, rfl⟩⟩
      · rintro ⟨-, herrors, ⟨-, rfl⟩ | ⟨hne, -⟩⟩
        · exact ⟨rfl, rfl⟩
        · exact absurd hblank hne
    · rw [if_neg hsuccess]
      constructor
      · rintro ⟨h, herrors⟩
        exact absurd herrors (hstatus h)
      · rintro ⟨h, -⟩
        exact absurd h hsuccess
  · rw [if_neg hblank]
    cases htext : ofText? raw.trimmedBody with
    | none =>
      constructor
      · rintro ⟨h, herrors⟩
        simp only at h
        split at h
        · cases h
        · exact absurd herrors (hstatus h)
      · rintro ⟨-, -, ⟨hblank', -⟩ | ⟨-, h⟩⟩
        · exact absurd hblank' hblank
        · cases h
    | some read =>
      constructor
      · rintro ⟨h, herrors⟩
        simp only at h
        split at h
        · rename_i hcounts
          cases h
          have hsuccess : raw.isSuccess = true := by simpa [herrors] using hcounts
          exact ⟨hsuccess, herrors, .inr ⟨hblank, rfl⟩⟩
        · exact absurd herrors (hstatus h)
      · rintro ⟨hsuccess, herrors, ⟨hblank', -⟩ | ⟨-, h⟩⟩
        · exact absurd hblank' hblank
        · cases h
          exact ⟨by simp [hsuccess], herrors⟩

theorem isBreach_of_ofStatus {raw : RawResponse} {error : SessionError}
    (h : ofStatus raw = .error error) : error.IsBreach := by
  unfold ofStatus at h
  split at h
  · cases h
  · cases h
    exact .status _ _

theorem isBreach_of_ofRaw {raw : RawResponse} {error : SessionError}
    (h : Response.ofRaw raw = .error error) : error.IsBreach := by
  unfold Response.ofRaw at h
  split at h
  · split at h
    · cases h
    · exact isBreach_of_ofStatus h
  split at h
  · split at h
    · cases h
    · exact isBreach_of_ofStatus h
  split at h
  · cases h
    exact .malformed
  · exact isBreach_of_ofStatus h

end Response

namespace Decoded

variable {raw : RawResponse} {request : Request} {response : Response} {maxRows : Nat}
  {decoded : Decoded}

/-- There may be fewer results than statements only next to an error. -/
theorem checkCount_eq_ok_iff :
    checkCount request response = .ok () ↔
      response.results.length ≤ request.size ∧
        (response.errors = [] → response.results.length = request.size) := by
  unfold checkCount
  by_cases hmany : request.size < response.results.length
  · simp only [if_pos hmany, reduceCtorEq, false_iff]
    omega
  rw [if_neg hmany]
  by_cases hfew : response.errors = [] ∧ response.results.length < request.size
  · simp only [if_pos hfew, reduceCtorEq, false_iff]
    rintro ⟨-, h⟩
    have := h hfew.1
    omega
  · simp only [if_neg hfew, true_iff]
    refine ⟨by omega, fun herrors => ?_⟩
    have hnot : ¬response.results.length < request.size := fun h => hfew ⟨herrors, h⟩
    omega

/-- A location is as good as its number, and without one there is no number either. -/
theorem identify_eq_ok_iff {location? : Option String} {id? : Option Nat} :
    identify location? = .ok id? ↔
      (location? = none ∧ id? = none) ∨
        ∃ url id, location? = some url ∧ id? = some id ∧ TransactionUrl.number url = .ok id := by
  cases location? with
  | none =>
    constructor
    · intro h
      cases h
      exact .inl ⟨rfl, rfl⟩
    · rintro (⟨-, rfl⟩ | ⟨url, id, h, -⟩)
      · rfl
      · cases h
  | some url =>
    constructor
    · intro h
      obtain ⟨id, hnumber, rfl⟩ := map_eq_ok_iff.1 h
      exact .inr ⟨url, id, rfl, rfl, hnumber⟩
    · rintro (⟨h, -⟩ | ⟨url', id, h, rfl, hnumber⟩)
      · cases h
      · cases h
        exact map_eq_ok_iff.2 ⟨id, hnumber, rfl⟩

theorem isBreach_of_checkCount {error : SessionError}
    (h : checkCount request response = .error error) : error.IsBreach := by
  unfold checkCount at h
  split at h
  · cases h
    exact .tooMany _ _
  split at h
  · cases h
    exact .tooFew _ _
  · cases h

theorem isBreach_of_identify {location? : Option String} {error : SessionError}
    (h : identify location? = .error error) : error.IsBreach := by
  cases location? with
  | none => cases h
  | some url =>
    rw [TransactionUrl.number_eq_error (map_eq_error_iff.1 h)]
    exact .unidentified url

def ofResponse (raw : RawResponse) (request : Request) (maxRows : Nat) (response : Response)
    (id? : Option Nat) : Decoded where
  results := attributed request (response.results.map (Envelope.limitRows maxRows))
    response.errors.head?
  errors := response.errors
  location? := locate? raw response
  transaction? := id?
  expires? := response.expires?.bind fun text => MailDate.moment? text.toList

def Passes (raw : RawResponse) (request : Request) (response : Response) (id? : Option Nat) :
    Prop :=
  Response.ofRaw raw = .ok response ∧ checkCount request response = .ok () ∧
    identify (locate? raw response) = .ok id?

/-- A response decodes exactly if it passes all three checks, and there is one way to decode it. -/
theorem ofRaw_eq_ok_iff :
    Decoded.ofRaw raw request maxRows = .ok decoded ↔
      ∃ response id?, Passes raw request response id? ∧
        decoded = ofResponse raw request maxRows response id? := by
  constructor
  · intro h
    obtain ⟨response, hresponse, h⟩ := bind_eq_ok_iff.1 h
    obtain ⟨_, hcount, h⟩ := bind_eq_ok_iff.1 h
    obtain ⟨id?, hidentify, h⟩ := bind_eq_ok_iff.1 h
    cases h
    exact ⟨response, id?, ⟨hresponse, hcount, hidentify⟩, rfl⟩
  · rintro ⟨response, id?, ⟨hresponse, hcount, hidentify⟩, rfl⟩
    refine bind_eq_ok_iff.2 ⟨response, hresponse, bind_eq_ok_iff.2 ⟨(), hcount, ?_⟩⟩
    exact bind_eq_ok_iff.2 ⟨id?, hidentify, rfl⟩

/-- A decoded response has a URL and its number, or neither. -/
theorem number_of_ofRaw (h : Decoded.ofRaw raw request maxRows = .ok decoded) :
    (decoded.location? = none ∧ decoded.transaction? = none) ∨
      ∃ url id, decoded.location? = some url ∧ decoded.transaction? = some id ∧
        TransactionUrl.number url = .ok id := by
  obtain ⟨response, id?, ⟨-, -, hidentify⟩, rfl⟩ := ofRaw_eq_ok_iff.1 h
  exact identify_eq_ok_iff.1 hidentify

/-- The limit on rows decides neither whether a response decodes nor what it says beyond its
results. -/
theorem ofRaw_maxRows (h : Decoded.ofRaw raw request maxRows = .ok decoded) (other : Nat) :
    ∃ results, Decoded.ofRaw raw request other = .ok { decoded with results } := by
  obtain ⟨response, id?, hpasses, rfl⟩ := ofRaw_eq_ok_iff.1 h
  exact ⟨_, ofRaw_eq_ok_iff.2 ⟨response, id?, hpasses, rfl⟩⟩

/-- A response that does not decode breaks the protocol. -/
theorem isBreach_of_ofRaw {error : SessionError}
    (h : Decoded.ofRaw raw request maxRows = .error error) : error.IsBreach := by
  rcases bind_eq_error_iff.1 h with hresponse | ⟨response, -, h⟩
  · exact Response.isBreach_of_ofRaw hresponse
  rcases bind_eq_error_iff.1 h with hcount | ⟨_, -, h⟩
  · exact isBreach_of_checkCount hcount
  rcases bind_eq_error_iff.1 h with hidentify | ⟨id?, -, h⟩
  · exact isBreach_of_identify hidentify
  · cases h

theorem eq_protocol_of_ofRaw {error : SessionError}
    (h : Decoded.ofRaw raw request maxRows = .error error) : ∃ detail, error = .protocol detail :=
  (isBreach_of_ofRaw h).eq_protocol

end Decoded

end CypherSession
