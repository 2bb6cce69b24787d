import CypherSession.Proofs.Response.Confirmation
import CypherSession.Session.Basic

/-!
# Verdicts

Which replies lead to which verdict. A verdict without a response says that the request was surely
not sent, or that its outcome is open; every other one is that of the response.
-/

namespace CypherSession

def SessionError.IsUnanswered (operation : String) (error : SessionError) : Prop :=
  (∃ cause, error = .transport cause) ∨ ∃ detail, error = .ambiguous operation detail

namespace RawResponse

variable {raw : RawResponse} {request : Request} {maxRows : Nat} {decoded : Decoded}

/-- A response is accepted exactly if it decodes and reports no error. -/
theorem verdict_eq_accepted_iff :
    raw.verdict request maxRows = .accepted decoded ↔
      Decoded.ofRaw raw request maxRows = .ok decoded ∧ decoded.errors = [] := by
  unfold RawResponse.verdict
  cases hdecoded : Decoded.ofRaw raw request maxRows with
  | error error => simp
  | ok read =>
    cases herrors : read.errors with
    | nil =>
      simp only [Decoded.firstError?, herrors, List.head?_nil, Verdict.accepted.injEq,
        Except.ok.injEq]
      constructor
      · rintro rfl
        exact ⟨rfl, herrors⟩
      · exact fun h => h.1
    | cons error rest =>
      simp only [Decoded.firstError?, herrors, List.head?_cons, reduceCtorEq, Except.ok.injEq,
        false_iff]
      rintro ⟨rfl, h⟩
      rw [herrors] at h
      cases h

/-- A response is refused with the first error that it reports. -/
theorem verdict_eq_refused_iff {error : ServerError} :
    raw.verdict request maxRows = .refused decoded error ↔
      Decoded.ofRaw raw request maxRows = .ok decoded ∧ decoded.firstError? = some error := by
  unfold RawResponse.verdict
  cases hdecoded : Decoded.ofRaw raw request maxRows with
  | error error => simp
  | ok read =>
    cases hfirst : read.firstError? with
    | none =>
      simp only [hfirst, reduceCtorEq, Except.ok.injEq, false_iff]
      rintro ⟨rfl, h⟩
      rw [hfirst] at h
      cases h
    | some other =>
      simp only [hfirst, Verdict.refused.injEq, Except.ok.injEq]
      constructor
      · rintro ⟨rfl, rfl⟩
        exact ⟨rfl, hfirst⟩
      · rintro ⟨rfl, h⟩
        rw [hfirst] at h
        cases h
        exact ⟨rfl, rfl⟩

theorem verdict_eq_senseless_iff {error : SessionError} :
    raw.verdict request maxRows = .senseless error ↔
      Decoded.ofRaw raw request maxRows = .error error := by
  unfold RawResponse.verdict
  cases hdecoded : Decoded.ofRaw raw request maxRows with
  | error other => simp
  | ok read => cases hfirst : read.firstError? <;> simp [hfirst]

theorem verdict_ne_unanswered {error : SessionError} :
    raw.verdict request maxRows ≠ .unanswered error := by
  unfold RawResponse.verdict
  cases hdecoded : Decoded.ofRaw raw request maxRows with
  | error other => simp
  | ok read => cases hfirst : read.firstError? <;> simp [hfirst]

theorem exists_confirms_of_verdict (h : raw.verdict request maxRows = .accepted decoded) :
    ∃ response id?, raw.Confirms request.size response ∧
      decoded = Decoded.ofResponse raw request maxRows response id? := by
  obtain ⟨hdecoded, herrors⟩ := verdict_eq_accepted_iff.1 h
  obtain ⟨response, id?, hpasses, rfl⟩ := Decoded.ofRaw_eq_ok_iff.1 hdecoded
  exact ⟨response, id?, exists_passes_iff_confirms.1 ⟨⟨id?, hpasses⟩, herrors⟩, rfl⟩

/-- A response is accepted exactly if it confirms its request, and then with its own results. -/
theorem exists_accepted_iff_confirms {results : List Envelope} :
    (∃ decoded, raw.verdict request maxRows = .accepted decoded ∧ decoded.results = results) ↔
      ∃ response, raw.Confirms request.size response ∧
        results = response.results.map (Envelope.limitRows maxRows) := by
  have hresults (response : Response) (id? : Option Nat) (herrors : response.errors = []) :
      (Decoded.ofResponse raw request maxRows response id?).results =
        response.results.map (Envelope.limitRows maxRows) := by
    simp only [Decoded.ofResponse, herrors, List.head?_nil, Decoded.attributed]
  constructor
  · rintro ⟨decoded, hverdict, rfl⟩
    obtain ⟨response, id?, hconfirms, rfl⟩ := exists_confirms_of_verdict hverdict
    exact ⟨response, hconfirms, hresults response id? hconfirms.errors⟩
  · rintro ⟨response, hconfirms, rfl⟩
    obtain ⟨⟨id?, hpasses⟩, herrors⟩ := exists_passes_iff_confirms.2 hconfirms
    refine ⟨Decoded.ofResponse raw request maxRows response id?, ?_, hresults response id? herrors⟩
    exact verdict_eq_accepted_iff.2
      ⟨Decoded.ofRaw_eq_ok_iff.2 ⟨response, id?, hpasses, rfl⟩, herrors⟩

end RawResponse

namespace Reply

variable {reply : Reply} {operation : String} {timeout : Duration} {request : Request}
  {maxRows : Nat}

/-- Without a response the error says so. -/
theorem isUnanswered_of_verdict {error : SessionError}
    (h : reply.verdict operation timeout request maxRows = .unanswered error) :
    error.IsUnanswered operation := by
  cases reply with
  | answered raw => exact absurd h RawResponse.verdict_ne_unanswered
  | silent =>
    cases h
    exact .inr ⟨_, rfl⟩
  | failed cause =>
    cases h
    by_cases hambiguous : cause.isAmbiguous = true
    · rw [if_pos hambiguous]
      exact .inr ⟨_, rfl⟩
    · rw [if_neg hambiguous]
      exact .inl ⟨_, rfl⟩

theorem exists_answered_of_verdict {verdict : Verdict}
    (h : reply.verdict operation timeout request maxRows = verdict)
    (hanswered : ∀ error, verdict ≠ .unanswered error) :
    ∃ raw, reply = .answered raw ∧ raw.verdict request maxRows = verdict := by
  cases reply with
  | answered raw => exact ⟨raw, rfl, h⟩
  | silent => exact absurd h.symm (hanswered _)
  | failed cause => exact absurd h.symm (hanswered _)

theorem eq_protocol_of_verdict {error : SessionError}
    (h : reply.verdict operation timeout request maxRows = .senseless error) :
    ∃ detail, error = .protocol detail := by
  obtain ⟨raw, -, hraw⟩ := exists_answered_of_verdict h nofun
  exact Decoded.eq_protocol_of_ofRaw (RawResponse.verdict_eq_senseless_iff.1 hraw)

theorem exists_accepted_iff_confirms {results : List Envelope} :
    (∃ decoded, reply.verdict operation timeout request maxRows = .accepted decoded ∧
        decoded.results = results) ↔
      ∃ raw response, reply = .answered raw ∧ raw.Confirms request.size response ∧
        results = response.results.map (Envelope.limitRows maxRows) := by
  constructor
  · rintro ⟨decoded, hverdict, hresults⟩
    obtain ⟨raw, rfl, hraw⟩ := exists_answered_of_verdict hverdict nofun
    obtain ⟨response, hconfirms, rfl⟩ :=
      RawResponse.exists_accepted_iff_confirms.1 ⟨decoded, hraw, hresults⟩
    exact ⟨raw, response, rfl, hconfirms, rfl⟩
  · rintro ⟨raw, response, rfl, hconfirms, hresults⟩
    exact RawResponse.exists_accepted_iff_confirms.2 ⟨response, hconfirms, hresults⟩

end Reply

/-- A response that is accepted names no transaction or one whose URL carries its number. -/
def Verdict.Sound : Verdict → Prop
  | accepted decoded => ∀ id url, decoded.transaction? = some id →
      decoded.location? = some url → TransactionUrl.number url = .ok id
  | _ => True

/-- No reply makes a session hold a transaction whose URL does not carry its number. -/
theorem Reply.sound_verdict (reply : Reply) (operation : String) (timeout : Duration)
    (request : Request) (maxRows : Nat) :
    (reply.verdict operation timeout request maxRows).Sound := by
  cases hverdict : reply.verdict operation timeout request maxRows with
  | unanswered | senseless | refused => trivial
  | accepted decoded =>
    obtain ⟨raw, -, hraw⟩ := exists_answered_of_verdict hverdict nofun
    have hdecoded := (RawResponse.verdict_eq_accepted_iff.1 hraw).1
    intro id url hid hurl
    rcases Decoded.number_of_ofRaw hdecoded with ⟨hnone, -⟩ | ⟨url', id', hurl', hid', hnumber⟩
    · rw [hurl] at hnone
      cases hnone
    · rw [hurl] at hurl'
      rw [hid] at hid'
      cases hurl'
      cases hid'
      exact hnumber

end CypherSession
