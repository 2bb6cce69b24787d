import CypherSession.Proofs.Response.Decoding

/-!
# Responses that confirm their request

What a response says, where it says that the transaction is, and when it confirms a request: said of
the response itself, and not through the order in which it is decoded.
-/

namespace CypherSession

namespace RawResponse

/-- What the body of a response says. One that is blank says nothing. -/
def Says (raw : RawResponse) (response : Response) : Prop :=
  (raw.trimmedBody = "" ∧ response = {}) ∨
    (raw.trimmedBody ≠ "" ∧ Response.ofText? raw.trimmedBody = some response)

/-- Where a response says that the transaction is: its location or, without one, the URL that
commits, less its suffix. -/
def Locates (raw : RawResponse) (response : Response) (url : String) : Prop :=
  raw.location? = some url ∨
    (raw.location? = none ∧
      ∃ commit, response.commit? = some commit ∧ url = TransactionUrl.stripCommit commit)

/-- A response that says that a number of statements ran, and nothing against it. -/
structure Confirms (raw : RawResponse) (statements : Nat) (response : Response) : Prop where
  status : 200 ≤ raw.status ∧ raw.status < 300
  body : raw.Says response
  errors : response.errors = []
  results : response.results.length = statements
  location : ∀ url, raw.Locates response url → ∃ id, TransactionUrl.number url = .ok id

variable {raw : RawResponse} {response : Response} {request : Request}

theorem locate?_eq_some_iff {url : String} :
    Decoded.locate? raw response = some url ↔ raw.Locates response url := by
  unfold Decoded.locate? Locates
  cases raw.location? with
  | some location => simp
  | none => simp [eq_comm]

/-- A transaction can be identified unless its URL is given and has no number. -/
theorem exists_identify_iff :
    (∃ id?, Decoded.identify (Decoded.locate? raw response) = .ok id?) ↔
      ∀ url, raw.Locates response url → ∃ id, TransactionUrl.number url = .ok id := by
  simp only [Decoded.identify_eq_ok_iff, ← locate?_eq_some_iff]
  constructor
  · rintro ⟨id?, ⟨hnone, -⟩ | ⟨url, id, hurl, -, hnumber⟩⟩ other hother
    · rw [hnone] at hother
      cases hother
    · rw [hurl] at hother
      cases hother
      exact ⟨id, hnumber⟩
  · intro h
    cases hlocate : Decoded.locate? raw response with
    | none => exact ⟨none, .inl ⟨rfl, rfl⟩⟩
    | some url =>
      obtain ⟨id, hnumber⟩ := h url hlocate
      exact ⟨some id, .inr ⟨url, id, rfl, rfl, hnumber⟩⟩

/-- A response is accepted exactly if it confirms its request. -/
theorem exists_passes_iff_confirms :
    ((∃ id?, Decoded.Passes raw request response id?) ∧ response.errors = []) ↔
      raw.Confirms request.size response := by
  have hsuccess : raw.isSuccess = true ↔ 200 ≤ raw.status ∧ raw.status < 300 := by
    simp [isSuccess]
  constructor
  · rintro ⟨⟨id?, hresponse, hcount, hidentify⟩, herrors⟩
    obtain ⟨hstatus, -, hbody⟩ :=
      Response.ofRaw_eq_ok_and_errors_eq_nil_iff.1 ⟨hresponse, herrors⟩
    exact {
      status := hsuccess.1 hstatus
      body := hbody
      errors := herrors
      results := (Decoded.checkCount_eq_ok_iff.1 hcount).2 herrors
      location := exists_identify_iff.1 ⟨id?, hidentify⟩ }
  · intro h
    obtain ⟨hresponse, -⟩ := Response.ofRaw_eq_ok_and_errors_eq_nil_iff.2
      ⟨hsuccess.2 h.status, h.errors, h.body⟩
    have hcount : Decoded.checkCount request response = .ok () :=
      Decoded.checkCount_eq_ok_iff.2 ⟨Nat.le_of_eq h.results, fun _ => h.results⟩
    obtain ⟨id?, hidentify⟩ := exists_identify_iff.2 h.location
    exact ⟨⟨id?, hresponse, hcount, hidentify⟩, h.errors⟩

end RawResponse

end CypherSession
