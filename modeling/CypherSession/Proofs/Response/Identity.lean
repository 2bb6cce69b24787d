import CypherSession.Proofs.Response.Confirmation

/-!
# Which transaction a response is about

A response says where its transaction is by its location or, without one, by the URL that commits.
That URL is taken as it is, and the number of the transaction is read from its last segment. A
response whose URL has no such number does not decode at all, whatever else it says.
-/

namespace CypherSession

open TransactionUrl (Names Commits)

/-- The URL at which a response says that its transaction is. -/
inductive RawResponse.PointsTo (raw : RawResponse) (response : Response) : String → Prop where
  | location {url : String} (h : raw.location? = some url) : PointsTo raw response url
  /-- Without a location it is the URL that commits, less the suffix for that. -/
  | commit {url : String} (hnone : raw.location? = none)
      (h : response.commit? = some (url ++ Endpoint.commitSuffix)) : PointsTo raw response url
  /-- A URL without that suffix is taken as it is. -/
  | plain {url : String} (hnone : raw.location? = none) (h : response.commit? = some url)
      (hplain : ¬Commits url) : PointsTo raw response url

namespace Decoded

variable {raw : RawResponse} {response : Response} {request : Request} {maxRows : Nat}

theorem locate?_eq_some_iff_pointsTo {url : String} :
    locate? raw response = some url ↔ raw.PointsTo response url := by
  rw [RawResponse.locate?_eq_some_iff]
  constructor
  · rintro (h | ⟨hnone, commit, hcommit, hurl⟩)
    · exact .location h
    · rcases TransactionUrl.stripCommit_eq_iff.1 hurl.symm with rfl | ⟨hplain, rfl⟩
      · exact .commit hnone hcommit
      · exact .plain hnone hcommit hplain
  · rintro (h | ⟨hnone, h⟩ | ⟨hnone, h, hplain⟩)
    · exact .inl h
    · exact .inr ⟨hnone, _, h, (TransactionUrl.stripCommit_eq_iff.2 (.inl rfl)).symm⟩
    · exact .inr ⟨hnone, url, h, (TransactionUrl.stripCommit_eq_iff.2 (.inr ⟨hplain, rfl⟩)).symm⟩

/-- After the first two checks, only the identity of the transaction decides. -/
theorem ofRaw_eq_map_identify (hresponse : Response.ofRaw raw = .ok response)
    (hcount : checkCount request response = .ok ()) (maxRows : Nat) :
    Decoded.ofRaw raw request maxRows =
      (identify (locate? raw response)).map (ofResponse raw request maxRows response) := by
  unfold Decoded.ofRaw
  rw [hresponse]
  simp only [bind, Except.bind, hcount]
  cases identify (locate? raw response) with
  | error error => rfl
  | ok id? => rfl

/-- A URL that names a transaction is decoded together with its number. -/
theorem ofRaw_of_names (hresponse : Response.ofRaw raw = .ok response)
    (hcount : checkCount request response = .ok ()) {url : String}
    (hurl : raw.PointsTo response url) {id : Nat} (hnames : Names url id) (maxRows : Nat) :
    ∃ decoded, Decoded.ofRaw raw request maxRows = .ok decoded ∧
      decoded.location? = some url ∧ decoded.transaction? = some id := by
  have hlocate := locate?_eq_some_iff_pointsTo.2 hurl
  have hidentify : identify (locate? raw response) = .ok (some id) := by
    rw [hlocate]
    exact identify_eq_ok_iff.2 (.inr ⟨url, id, rfl, rfl, TransactionUrl.number_eq_ok_iff.2 hnames⟩)
  refine ⟨ofResponse raw request maxRows response (some id), ?_, hlocate, rfl⟩
  rw [ofRaw_eq_map_identify hresponse hcount, hidentify]
  rfl

/-- A URL that names no transaction is an error, also next to one of the server. -/
theorem ofRaw_of_not_names (hresponse : Response.ofRaw raw = .ok response)
    (hcount : checkCount request response = .ok ()) {url : String}
    (hurl : raw.PointsTo response url) (hnames : ¬∃ id, Names url id) (maxRows : Nat) :
    Decoded.ofRaw raw request maxRows = .error (.noTransactionId url) := by
  rw [ofRaw_eq_map_identify hresponse hcount, locate?_eq_some_iff_pointsTo.2 hurl]
  change ((TransactionUrl.number url).map some).map _ = _
  rw [TransactionUrl.number_of_not_names hnames]
  rfl

/-- **Which transaction a response names.** A response that can be read and has as many results as
it should decodes without a transaction if it points to none. If it points to a URL, it decodes
exactly if that URL names a transaction, and then with that URL and that number; if it does not, the
protocol is broken, whatever errors the server reports. So a number that is written into a URL that
commits is read back from it. -/
theorem ofRaw_identifies (hresponse : Response.ofRaw raw = .ok response)
    (hmost : response.results.length ≤ request.size)
    (hall : response.errors = [] → response.results.length = request.size) (maxRows : Nat) :
    let decoding := Decoded.ofRaw raw request maxRows
    ((∀ url, ¬raw.PointsTo response url) → ∃ decoded, decoding = .ok decoded ∧
      decoded.location? = none ∧ decoded.transaction? = none) ∧
    (∀ url, raw.PointsTo response url →
      ((∃ decoded, decoding = .ok decoded) ↔ ∃ id, Names url id) ∧
      (∀ id, Names url id → ∃ decoded, decoding = .ok decoded ∧
        decoded.location? = some url ∧ decoded.transaction? = some id) ∧
      ((¬∃ id, Names url id) → decoding = .error (.noTransactionId url))) ∧
    ∀ base id, 1 ≤ id → id < UInt64.size → raw.location? = none →
      response.commit? = some (base ++ "/" ++ toString id ++ "/commit") →
      ∃ decoded, decoding = .ok decoded ∧
        decoded.location? = some (base ++ "/" ++ toString id) ∧
        decoded.transaction? = some id := by
  intro decoding
  have hcount := checkCount_eq_ok_iff.2 ⟨hmost, hall⟩
  refine ⟨fun hnowhere => ?_, fun url hurl => ⟨⟨?_, ?_⟩, ?_, ?_⟩, ?_⟩
  · have hlocate : locate? raw response = none :=
      Option.eq_none_iff_forall_ne_some.2 fun url hurl =>
        hnowhere url (locate?_eq_some_iff_pointsTo.1 hurl)
    refine ⟨ofResponse raw request maxRows response none, ?_, hlocate, rfl⟩
    change Decoded.ofRaw raw request maxRows = _
    rw [ofRaw_eq_map_identify hresponse hcount, hlocate]
    rfl
  · rintro ⟨decoded, hdecoded⟩
    by_contra hnames
    cases hdecoded.symm.trans (ofRaw_of_not_names hresponse hcount hurl hnames maxRows)
  · rintro ⟨id, hnames⟩
    obtain ⟨decoded, hdecoded, -⟩ := ofRaw_of_names hresponse hcount hurl hnames maxRows
    exact ⟨decoded, hdecoded⟩
  · exact fun id hnames => ofRaw_of_names hresponse hcount hurl hnames maxRows
  · exact fun hnames => ofRaw_of_not_names hresponse hcount hurl hnames maxRows
  · intro base id hpos hlt hnone hcommit
    have hnames := TransactionUrl.names_append_toString base hpos hlt
    exact ofRaw_of_names hresponse hcount (.commit hnone hcommit) hnames maxRows

def sampleNowhere : RawResponse where
  status := 200
  location? := some "http://localhost:7474/db/data/transaction/+"
  body := "\x7b\"errors\":[\x7b\"code\":\"C\"\x7d]\x7d"

def sampleCommit : RawResponse where
  status := 201
  body := "\x7b\"commit\":\"http://localhost:7474/db/neo4j/tx/7/commit\"\x7d"

/-- A number is read from the URL that commits, and no location without one passes with an error. -/
theorem ofRaw_identifies_or_fails :
    (∃ decoded, Decoded.ofRaw sampleCommit .empty 0 = .ok decoded ∧
      decoded.location? = some "http://localhost:7474/db/neo4j/tx/7" ∧
      decoded.transaction? = some 7) ∧
    Decoded.ofRaw sampleNowhere .empty 0 =
      .error (.noTransactionId "http://localhost:7474/db/data/transaction/+") := by
  have hcommit : Response.ofRaw sampleCommit =
      .ok { commit? := some "http://localhost:7474/db/neo4j/tx/7/commit" } := rfl
  have hnowhere : Response.ofRaw sampleNowhere = .ok { errors := [⟨"C", ""⟩] } := rfl
  have hnumber : ¬∃ id, Names "http://localhost:7474/db/data/transaction/+" id := by
    rintro ⟨id, hnames⟩
    cases TransactionUrl.number_eq_ok_iff.2 hnames
  constructor
  · exact (ofRaw_identifies hcommit (Nat.le_refl _) (fun _ => rfl) 0).2.2
      "http://localhost:7474/db/neo4j/tx" 7 (by decide) (by decide) rfl rfl
  · have hidentifies := @ofRaw_identifies _ _ .empty hnowhere (Nat.le_refl _) nofun 0
    exact (hidentifies.2.1 _ (.location rfl)).2.2 hnumber

end Decoded

end CypherSession
