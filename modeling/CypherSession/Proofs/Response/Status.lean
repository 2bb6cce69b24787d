import CypherSession.Proofs.Response.Attribution

/-!
# Statuses

A response with an unsuccessful status is never taken for a success. It decodes only if it has
errors: those that its body reports or, where nothing was found, the one that says that the
transaction is gone. With a successful status a body that is blank says nothing, and any other one
has to be read. Blanks around a body never matter.
-/

namespace CypherSession

def RawResponse.ReportsErrors (raw : RawResponse) : Prop :=
  ∃ response, Response.ofText? raw.trimmedBody = some response ∧ response.errors ≠ []

def ServerError.notFound : ServerError := ⟨transactionNotFoundCode, "transaction not found"⟩

namespace RawResponse

variable {raw : RawResponse} {response : Response}

theorem isSuccess_iff : raw.isSuccess = true ↔ 200 ≤ raw.status ∧ raw.status < 300 := by
  simp [isSuccess]

theorem trimmedBody_eq_empty_iff :
    raw.trimmedBody = "" ↔ ∀ c ∈ raw.body.toList, Text.isBlank c = true := by
  rw [← Text.trim_eq_nil_iff, ← String.toList_inj, trimmedBody, String.toList_ofList]
  rfl

/-- Blank characters around a body make no difference. -/
theorem trimmedBody_append (raw : RawResponse) {start ending : String}
    (hstart : ∀ c ∈ start.toList, Text.isBlank c = true)
    (hending : ∀ c ∈ ending.toList, Text.isBlank c = true) :
    { raw with body := start ++ raw.body ++ ending }.trimmedBody = raw.trimmedBody := by
  simp only [trimmedBody, String.toList_append, Text.trim_append hstart hending]

/-! ## Reading the body -/

theorem ofRaw_of_blank (hstatus : raw.isSuccess = true) (hblank : raw.trimmedBody = "") :
    Response.ofRaw raw = .ok {} := by
  simp only [Response.ofRaw, if_pos hblank, if_pos hstatus]

theorem ofRaw_of_unreadable (hstatus : raw.isSuccess = true) (hbody : raw.trimmedBody ≠ "")
    (hread : Response.ofText? raw.trimmedBody = none) :
    Response.ofRaw raw = .error (.protocol "malformed response body") := by
  simp only [Response.ofRaw, if_neg hbody, hread, if_pos hstatus]

theorem ofRaw_of_errors (hread : Response.ofText? raw.trimmedBody = some response)
    (herrors : response.errors ≠ []) : Response.ofRaw raw = .ok response := by
  have hbody : raw.trimmedBody ≠ "" := by
    intro hblank
    rw [hblank] at hread
    cases hread
  have hsome : response.errors.isEmpty = false := by simpa using herrors
  simp only [Response.ofRaw, if_neg hbody, hread, hsome, Bool.not_false, Bool.or_true, if_true]

theorem not_reportsErrors (hread : Response.ofText? raw.trimmedBody = some response)
    (hnone : response.errors = []) : ¬raw.ReportsErrors := by
  rintro ⟨other, hother, herrors⟩
  cases hread.symm.trans hother
  exact herrors hnone

/-- Without errors in its body an unsuccessful response says what its status says. -/
theorem ofRaw_of_unsuccessful (hstatus : raw.isSuccess = false) (herrors : ¬raw.ReportsErrors) :
    Response.ofRaw raw = Response.ofStatus raw := by
  unfold Response.ofRaw
  by_cases hblank : raw.trimmedBody = ""
  · simp only [if_pos hblank, hstatus, Bool.false_eq_true, if_false]
  rw [if_neg hblank]
  cases hread : Response.ofText? raw.trimmedBody with
  | none => simp only [hstatus, Bool.false_eq_true, if_false]
  | some response =>
    -- What such a body says besides, its results and its transaction, is lost.
    have hnone : response.errors = [] := by
      by_contra hsome
      exact herrors ⟨response, hread, hsome⟩
    simp only [hstatus, hnone, List.isEmpty_nil, Bool.not_true, Bool.or_self, Bool.false_eq_true,
      if_false]

/-- If nothing is found there and the body does not say more, it is the transaction that is gone. -/
theorem ofRaw_of_notFound (hstatus : raw.status = 404) (herrors : ¬raw.ReportsErrors) :
    Response.ofRaw raw = .ok Response.transactionNotFound := by
  have hfailed : raw.isSuccess = false := by simp [isSuccess, hstatus]
  rw [ofRaw_of_unsuccessful hfailed herrors]
  exact if_pos hstatus

end RawResponse

namespace Decoded

variable {raw : RawResponse} {request : Request} {maxRows : Nat} {decoded : Decoded}

theorem ofRaw_of_error {error : SessionError} (h : Response.ofRaw raw = .error error) :
    Decoded.ofRaw raw request maxRows = .error error :=
  Result.bind_eq_error_iff.2 (.inl h)

/-- Of a body nothing counts but what stands between the blanks around it. -/
theorem ofRaw_eq_of_trimmedBody {other : RawResponse} (hstatus : other.status = raw.status)
    (hlocation : other.location? = raw.location?) (hbody : other.trimmedBody = raw.trimmedBody) :
    Decoded.ofRaw other request maxRows = Decoded.ofRaw raw request maxRows := by
  have hsuccess : other.isSuccess = raw.isSuccess := by
    rw [RawResponse.isSuccess, RawResponse.isSuccess, hstatus]
  have hresponse : Response.ofRaw other = Response.ofRaw raw := by
    simp only [Response.ofRaw, Response.ofStatus, hbody, hstatus, hsuccess]
  have hlocate (response : Response) : locate? other response = locate? raw response := by
    rw [locate?, locate?, hlocation]
  unfold Decoded.ofRaw
  simp only [hresponse, hlocate]

/-- A status other than success decodes only with errors: those of the body or, for a transaction
that is gone, the one that says so. -/
theorem errors_of_unsuccessful (hstatus : raw.isSuccess = false)
    (h : Decoded.ofRaw raw request maxRows = .ok decoded) :
    decoded.errors ≠ [] ∧
      ((∃ response, Response.ofText? raw.trimmedBody = some response ∧
          decoded.errors = response.errors) ∨
        (raw.status = 404 ∧ ¬raw.ReportsErrors ∧ decoded.errors = [.notFound] ∧
          decoded.results = [.failed .notFound] ∧ decoded.completed = [])) := by
  obtain ⟨response, id?, ⟨hresponse, -, -⟩, rfl⟩ := Decoded.ofRaw_eq_ok_iff.1 h
  -- Errors of the body count before the status does.
  by_cases hreports : raw.ReportsErrors
  · obtain ⟨read, hread, herrors⟩ := hreports
    cases hresponse.symm.trans (RawResponse.ofRaw_of_errors hread herrors)
    exact ⟨herrors, .inl ⟨response, hread, rfl⟩⟩
  · rw [RawResponse.ofRaw_of_unsuccessful hstatus hreports] at hresponse
    unfold Response.ofStatus at hresponse
    split at hresponse
    · rename_i hgone
      cases hresponse
      have hresults : (ofResponse raw request maxRows Response.transactionNotFound id?).results =
          [.failed .notFound] := attributed_eq request [] .notFound
      have hcompleted := @completed_of_results _ [] _ hresults nofun
      exact ⟨List.cons_ne_nil _ _, .inr ⟨hgone, hreports, rfl, hresults, hcompleted⟩⟩
    · cases hresponse

theorem ofRaw_of_status (hstatus : raw.isSuccess = false) (herrors : ¬raw.ReportsErrors)
    (hfound : raw.status ≠ 404) :
    Decoded.ofRaw raw request maxRows = .error (.protocol
      ("unexpected HTTP status " ++ toString raw.status ++ ": " ++ raw.trimmedBody)) := by
  apply ofRaw_of_error
  rw [RawResponse.ofRaw_of_unsuccessful hstatus herrors, Response.ofStatus, if_neg hfound]

/-- A blank body says nothing, which is enough for a request without statements. -/
theorem exists_ofRaw_of_blank_iff (hstatus : raw.isSuccess = true) (hblank : raw.trimmedBody = "")
    (request : Request) (maxRows : Nat) :
    (∃ decoded, Decoded.ofRaw raw request maxRows = .ok decoded) ↔
      request.size = 0 ∧
        ∀ url, raw.location? = some url → ∃ id, TransactionUrl.number url = .ok id := by
  have hresponse := RawResponse.ofRaw_of_blank hstatus hblank
  have hlocation (url : String) : raw.Locates {} url ↔ raw.location? = some url := by
    simp [RawResponse.Locates]
  have hcount : checkCount request {} = .ok () ↔ request.size = 0 := by
    rw [checkCount_eq_ok_iff]
    simp [eq_comm]
  simp only [← hlocation, ← RawResponse.exists_identify_iff, ← hcount]
  constructor
  · rintro ⟨decoded, hdecoded⟩
    obtain ⟨response, id?, ⟨hother, hsize, hidentify⟩, -⟩ := Decoded.ofRaw_eq_ok_iff.1 hdecoded
    cases hresponse.symm.trans hother
    exact ⟨hsize, id?, hidentify⟩
  · rintro ⟨hsize, id?, hidentify⟩
    exact ⟨_, Decoded.ofRaw_eq_ok_iff.2 ⟨{}, id?, ⟨hresponse, hsize, hidentify⟩, rfl⟩⟩

theorem eq_nil_of_blank (hstatus : raw.isSuccess = true) (hblank : raw.trimmedBody = "")
    (h : Decoded.ofRaw raw request maxRows = .ok decoded) :
    decoded.results = [] ∧ decoded.errors = [] := by
  obtain ⟨response, id?, ⟨hresponse, -, -⟩, rfl⟩ := Decoded.ofRaw_eq_ok_iff.1 h
  cases hresponse.symm.trans (RawResponse.ofRaw_of_blank hstatus hblank)
  exact ⟨rfl, rfl⟩

theorem ofRaw_of_blank_of_statements (hstatus : raw.isSuccess = true)
    (hblank : raw.trimmedBody = "") (hsize : 0 < request.size) :
    Decoded.ofRaw raw request maxRows = .error (.tooFewResults 0 request.size) :=
  @ofRaw_of_tooFew request raw {} maxRows (RawResponse.ofRaw_of_blank hstatus hblank) rfl hsize

/-- **An unsuccessful status is never a success.** A response with one decodes only with errors,
which are those of its body in their order or, where nothing was found and the body reports none, the
one that says that the transaction is gone; every other one breaks the protocol. With a successful
status a blank body has no results and no errors, which breaks the protocol for a request that has
statements, and so does a body that cannot be read. Blanks around the body make no difference. -/
theorem ofRaw_by_status (raw : RawResponse) (request : Request) (maxRows : Nat) :
    let decoding := Decoded.ofRaw raw request maxRows
    (¬(200 ≤ raw.status ∧ raw.status < 300) →
      (∀ decoded, decoding = .ok decoded → decoded.errors ≠ [] ∧
        ((∃ response, Response.ofText? raw.trimmedBody = some response ∧
            decoded.errors = response.errors) ∨
          (raw.status = 404 ∧ ¬raw.ReportsErrors ∧ decoded.errors = [.notFound] ∧
            decoded.results = [.failed .notFound] ∧ decoded.completed = []))) ∧
      (∀ error, decoding = .error error → ∃ detail, error = .protocol detail) ∧
      (¬raw.ReportsErrors → raw.status ≠ 404 → decoding = .error (.protocol
        ("unexpected HTTP status " ++ toString raw.status ++ ": " ++ raw.trimmedBody)))) ∧
    (200 ≤ raw.status ∧ raw.status < 300 →
      ((∀ c ∈ raw.body.toList, Text.isBlank c = true) →
        (∀ decoded, decoding = .ok decoded → decoded.results = [] ∧ decoded.errors = []) ∧
        ((∃ decoded, decoding = .ok decoded) ↔ request.size = 0 ∧
          ∀ url, raw.location? = some url → ∃ id, TransactionUrl.number url = .ok id) ∧
        (0 < request.size → decoding = .error (.tooFewResults 0 request.size))) ∧
      ((∃ c ∈ raw.body.toList, Text.isBlank c = false) →
        Response.ofText? raw.trimmedBody = none →
          decoding = .error (.protocol "malformed response body"))) ∧
    ∀ start ending : String, (∀ c ∈ start.toList, Text.isBlank c = true) →
      (∀ c ∈ ending.toList, Text.isBlank c = true) →
      Decoded.ofRaw { raw with body := start ++ raw.body ++ ending } request maxRows = decoding := by
  intro decoding
  refine ⟨fun hfailed => ?_, fun hsuccess => ⟨fun hall => ?_, ?_⟩, ?_⟩
  · have hstatus : raw.isSuccess = false := by
      simpa using mt RawResponse.isSuccess_iff.1 hfailed
    exact ⟨fun decoded => errors_of_unsuccessful hstatus, fun error => eq_protocol_of_ofRaw,
      ofRaw_of_status hstatus⟩
  · have hstatus := RawResponse.isSuccess_iff.2 hsuccess
    have hblank := RawResponse.trimmedBody_eq_empty_iff.2 hall
    refine ⟨fun decoded => eq_nil_of_blank hstatus hblank,
      exists_ofRaw_of_blank_iff hstatus hblank request maxRows, fun hsize => ?_⟩
    exact ofRaw_of_blank_of_statements hstatus hblank hsize
  · rintro ⟨c, hc, hvisible⟩ hread
    have hbody : raw.trimmedBody ≠ "" := by
      intro hblank
      rw [RawResponse.trimmedBody_eq_empty_iff.1 hblank c hc] at hvisible
      cases hvisible
    exact ofRaw_of_error
      (RawResponse.ofRaw_of_unreadable (RawResponse.isSuccess_iff.2 hsuccess) hbody hread)
  · intro start ending hstart hending
    exact ofRaw_eq_of_trimmedBody rfl rfl (RawResponse.trimmedBody_append raw hstart hending)

def sampleEmpty (status : Nat) : RawResponse where
  status := status
  body := "\x7b\"results\":[]\x7d"

def sampleBlank : RawResponse where
  status := 200
  body := "\n\t"

/-- A body without errors does not make a success of another status, nor does a blank body make one
for statements. -/
theorem ofRaw_by_status_misleading :
    Decoded.ofRaw (sampleEmpty 503) .empty 0 =
        .error (.protocol "unexpected HTTP status 503: \x7b\"results\":[]\x7d") ∧
      (∃ decoded, Decoded.ofRaw (sampleEmpty 404) .empty 0 = .ok decoded ∧
        decoded.errors = [.notFound] ∧ decoded.results = [.failed .notFound]) ∧
      Decoded.ofRaw sampleBlank sampleThree 0 = .error (.tooFewResults 0 3) ∧
      Decoded.ofRaw { sampleEmpty 503 with body := "\n" ++ (sampleEmpty 503).body ++ " " } .empty 0 =
        Decoded.ofRaw (sampleEmpty 503) .empty 0 := by
  have hsilent : ¬(sampleEmpty 503).ReportsErrors :=
    RawResponse.not_reportsErrors (show Response.ofText? _ = some {} from rfl) rfl
  have hsilent' : ¬(sampleEmpty 404).ReportsErrors :=
    RawResponse.not_reportsErrors (show Response.ofText? _ = some {} from rfl) rfl
  have hnewline : Text.isBlank '\n' = true := Text.isBlank_of_isWhitespace rfl
  have htab : Text.isBlank '\t' = true := Text.isBlank_of_isWhitespace rfl
  have hspace : Text.isBlank ' ' = true := Text.isBlank_of_isWhitespace rfl
  have hblank : ∀ c ∈ sampleBlank.body.toList, Text.isBlank c = true := by
    simp [sampleBlank, hnewline, htab]
  obtain ⟨hunavailable, -, haround⟩ := ofRaw_by_status (sampleEmpty 503) .empty 0
  obtain ⟨hmissing, -, -⟩ := ofRaw_by_status (sampleEmpty 404) .empty 0
  obtain ⟨-, hsuccess, -⟩ := ofRaw_by_status sampleBlank sampleThree 0
  have hdecoded : Decoded.ofRaw (sampleEmpty 404) .empty 0 = .ok {
      results := [.failed .notFound]
      errors := [.notFound]
      location? := none
      transaction? := none
      expires? := none } := rfl
  refine ⟨(hunavailable (by decide)).2.2 hsilent (by decide), ⟨_, hdecoded, ?_⟩,
    ((hsuccess (by decide)).1 hblank).2.2 (by decide),
    haround _ _ (by simp [hnewline]) (by simp [hspace])⟩
  rcases ((hmissing (by decide)).1 _ hdecoded).2 with
    ⟨response, hread, herrors⟩ | ⟨-, -, herrors, hresults, -⟩
  · exact absurd ⟨response, hread, herrors ▸ List.cons_ne_nil _ _⟩ hsilent'
  · exact ⟨herrors, hresults⟩

end Decoded

end CypherSession
