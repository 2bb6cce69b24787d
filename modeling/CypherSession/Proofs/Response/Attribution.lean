import CypherSession.Proofs.Response.Confirmation

/-!
# Which statement failed

A response with errors says by its results which statement failed: the one after the last result, or
the last one with a result, if that result is cut short. The results before it are those of the
statements that ran, and none of these carries an error of its own.
-/

namespace CypherSession

/-! ## Results without errors -/

theorem Json.Document.exists_read_of_mem {α : Type} {read : Document → Option α}
    {document : Document} {items : List α} (h : list? read document = some items) :
    ∀ item ∈ items, ∃ source, read source = some item := by
  cases document with
  | array sources =>
    change sources.mapM read = some items at h
    induction sources generalizing items with
    | nil =>
      cases h
      exact nofun
    | cons source rest ih =>
      rw [List.mapM_cons] at h
      obtain ⟨first, hfirst, h⟩ := Option.bind_eq_some_iff.1 h
      obtain ⟨others, hrest, h⟩ := Option.bind_eq_some_iff.1 h
      cases h
      exact List.forall_mem_cons.2 ⟨⟨source, hfirst⟩, ih hrest⟩
  | _ => cases h

namespace Response

open Json Json.Document

/-- What the server sends as a result is never a failure. -/
theorem error?_of_result? {document : Document} {envelope : Envelope}
    (h : Response.result? document = some envelope) : envelope.error? = none := by
  unfold Response.result? at h
  obtain ⟨fields, -, h⟩ := Option.bind_eq_some_iff.1 h
  split at h
  · obtain ⟨columns, -, h⟩ := Option.bind_eq_some_iff.1 h
    obtain ⟨rows?, -, h⟩ := Option.bind_eq_some_iff.1 h
    obtain ⟨stats?, -, h⟩ := Option.bind_eq_some_iff.1 h
    cases h
    rfl
  · cases h

theorem error?_of_ofDocument? {document : Document} {response : Response}
    (h : ofDocument? document = some response) :
    ∀ result ∈ response.results, result.error? = none := by
  unfold ofDocument? at h
  obtain ⟨fields, -, h⟩ := Option.bind_eq_some_iff.1 h
  split at h
  · rename_i commit? results? transaction? errors?
    obtain ⟨commit, -, h⟩ := Option.bind_eq_some_iff.1 h
    obtain ⟨results, hresults, h⟩ := Option.bind_eq_some_iff.1 h
    obtain ⟨expires, -, h⟩ := Option.bind_eq_some_iff.1 h
    obtain ⟨errors, -, h⟩ := Option.bind_eq_some_iff.1 h
    cases h
    cases results? with
    | none =>
      cases hresults
      exact nofun
    | some source =>
      intro result hmem
      obtain ⟨part, hpart⟩ := exists_read_of_mem hresults result hmem
      exact error?_of_result? hpart
  · cases h

theorem error?_of_ofText? {text : String} {response : Response}
    (h : ofText? text = some response) : ∀ result ∈ response.results, result.error? = none := by
  obtain ⟨document, -, h⟩ := Option.bind_eq_some_iff.1 h
  exact error?_of_ofDocument? h

theorem says_or_notFound_of_ofRaw {raw : RawResponse} {response : Response}
    (h : Response.ofRaw raw = .ok response) :
    raw.Says response ∨ (raw.status = 404 ∧ response = transactionNotFound) := by
  have hstatus (h : ofStatus raw = .ok response) :
      raw.status = 404 ∧ response = transactionNotFound := by
    unfold ofStatus at h
    split at h
    · rename_i hgone
      exact ⟨hgone, (Except.ok.inj h).symm⟩
    · cases h
  unfold Response.ofRaw at h
  split at h
  · rename_i hblank
    split at h
    · exact .inl (.inl ⟨hblank, (Except.ok.inj h).symm⟩)
    · exact .inr (hstatus h)
  rename_i hbody
  split at h
  · rename_i read hread
    split at h
    · cases h
      exact .inl (.inr ⟨hbody, hread⟩)
    · exact .inr (hstatus h)
  split at h
  · cases h
  · exact .inr (hstatus h)

end Response

/-- A response that reports an error, the first one of several. It says so itself, or its status
says that the transaction is gone. -/
structure RawResponse.Fails (raw : RawResponse) (response : Response) (error : ServerError) :
    Prop where
  error : response.errors.head? = some error
  source : raw.Says response ∨ (raw.status = 404 ∧ response = .transactionNotFound)

theorem Response.error?_of_ofRaw {raw : RawResponse} {response : Response}
    (h : Response.ofRaw raw = .ok response) : ∀ result ∈ response.results, result.error? = none := by
  rcases Response.says_or_notFound_of_ofRaw h with (⟨-, rfl⟩ | ⟨-, htext⟩) | ⟨-, rfl⟩
  · exact nofun
  · exact Response.error?_of_ofText? htext
  · exact nofun

theorem Envelope.updateCount_limitRows (maxRows : Nat) (envelope : Envelope) :
    (envelope.limitRows maxRows).updateCount = envelope.updateCount := by
  unfold limitRows
  split
  · rfl
  · rfl

theorem Envelope.stats?_limitRows (maxRows : Nat) (envelope : Envelope) :
    (envelope.limitRows maxRows).stats? = envelope.stats? := by
  unfold limitRows
  split
  · rfl
  · rfl

theorem Envelope.error?_limitRows (maxRows : Nat) (envelope : Envelope) :
    (envelope.limitRows maxRows).error? = envelope.error? := by
  unfold limitRows
  split
  · rfl
  · rfl

theorem Envelope.error?_of_mem_limitRows {maxRows : Nat} {results : List Envelope}
    (hresults : ∀ result ∈ results, result.error? = none) :
    ∀ envelope ∈ results.map (limitRows maxRows), envelope.error? = none := by
  intro envelope hmem
  obtain ⟨result, hresult, rfl⟩ := List.mem_map.1 hmem
  rw [error?_limitRows]
  exact hresults result hresult

theorem updateCounts_limitRows (maxRows : Nat) (envelopes : List Envelope) :
    updateCounts (envelopes.map (Envelope.limitRows maxRows)) = updateCounts envelopes := by
  unfold updateCounts
  rw [List.map_map]
  exact List.map_congr_left fun envelope _ => Envelope.updateCount_limitRows maxRows envelope

/-! ## The failed statement -/

namespace Decoded

/-- The result with index `k` is the last one, and its statement failed before it was complete. -/
structure CutAt (request : Request) (results : List Envelope) (k : Nat) : Prop where
  last : k + 1 = results.length
  short : results.length = request.size ∨
    (∃ statement ∈ request.statements[k]?, statement.includeStats = true) ∧
      ∃ result ∈ results[k]?, result.stats? = none

/-- The index of the failed statement, by the results of the statements that were run. -/
inductive FailsAt (request : Request) (results : List Envelope) : Nat → Prop where
  | cut {k : Nat} (hcut : CutAt request results k) : FailsAt request results k
  | next (hcut : ∀ k, ¬CutAt request results k) : FailsAt request results results.length

variable {request : Request} {results : List Envelope} {k : Nat}

theorem FailsAt.le_length (h : FailsAt request results k) : k ≤ results.length := by
  cases h with
  | cut hcut =>
    have hlast := hcut.last
    omega
  | next => exact Nat.le_refl _

/-- The failed statement is one of the request. -/
theorem FailsAt.lt_size (h : FailsAt request results k)
    (hcount : results.length ≤ request.size) (hnonempty : 0 < request.size) :
    k < request.size := by
  cases h with
  | cut hcut =>
    have hlast := hcut.last
    omega
  | next hcut =>
    apply Nat.lt_of_le_of_ne hcount
    intro hall
    exact hcut (results.length - 1) ⟨by omega, .inl hall⟩

/-- A result is cut short if its statement asked for counters and it has none. -/
theorem isCutShort_iff :
    isCutShort request results = true ↔
      (∃ statement ∈ request.statements[results.length - 1]?, statement.includeStats = true) ∧
        ∃ result ∈ results[results.length - 1]?, result.stats? = none := by
  unfold isCutShort
  rw [List.getLast?_eq_getElem?]
  cases results[results.length - 1]? with
  | none => simp
  | some result => simp [Option.any_eq_true, and_comm]

theorem cutAt_iff :
    CutAt request results (results.length - 1) ↔
      results ≠ [] ∧
        (results.length = request.size ∨ isCutShort request results = true) := by
  rw [isCutShort_iff]
  constructor
  · rintro ⟨hlast, hshort⟩
    refine ⟨?_, hshort⟩
    rintro rfl
    cases hlast
  · rintro ⟨hnonempty, hshort⟩
    have hpos := List.length_pos_of_ne_nil hnonempty
    exact ⟨by omega, hshort⟩

/-- Only the last result can be cut short. -/
theorem CutAt.eq_last (h : CutAt request results k) : k = results.length - 1 := by
  have hlast := h.last
  omega

def failing (request : Request) (results : List Envelope) : Nat :=
  if 0 < results.length ∧ (results.length = request.size ∨
      ((request.statements[results.length - 1]?).any (·.includeStats) ∧
        (results[results.length - 1]?).any (·.stats?.isNone)))
  then results.length - 1 else results.length

theorem failing_eq (request : Request) (results : List Envelope) :
    failing request results = if results ≠ [] ∧
      (results.length = request.size ∨ isCutShort request results)
      then results.length - 1 else results.length := by
  have hshort : isCutShort request results = true ↔
      ((request.statements[results.length - 1]?).any (·.includeStats) = true ∧
        (results[results.length - 1]?).any (·.stats?.isNone) = true) := by
    rw [isCutShort_iff, Option.any_eq_true, Option.any_eq_true]
    simp only [Option.isNone_iff_eq_none, Option.mem_def]
  unfold failing
  simp only [hshort, List.length_pos_iff]

/-- There is one index at which a request can have failed. -/
theorem failsAt_iff : FailsAt request results k ↔ k = failing request results := by
  rw [failing_eq]
  by_cases hcut : CutAt request results (results.length - 1)
  · rw [if_pos (cutAt_iff.1 hcut)]
    constructor
    · intro h
      cases h with
      | cut hk => exact hk.eq_last
      | next hnone => exact absurd hcut (hnone _)
    · rintro rfl
      exact .cut hcut
  · rw [if_neg (mt cutAt_iff.2 hcut)]
    constructor
    · intro h
      cases h with
      | cut hk => exact absurd (hk.eq_last ▸ hk) hcut
      | next => rfl
    · rintro rfl
      exact .next fun k hk => hcut (hk.eq_last ▸ hk)

/-- The envelopes are the results of the statements before the failed one, and that of the
failure. -/
theorem attributed_eq (request : Request) (results : List Envelope) (error : ServerError) :
    attributed request results (some error) =
      results.take (failing request results) ++ [.failed error] := by
  rw [failing_eq]
  by_cases hcut : results ≠ [] ∧
      (results.length = request.size ∨ isCutShort request results = true)
  · rw [if_pos hcut, ← List.dropLast_eq_take]
    simp only [attributed, if_pos hcut]
  · rw [if_neg hcut, List.take_length]
    simp only [attributed, if_neg hcut]

theorem cutAt_limitRows {maxRows : Nat} :
    CutAt request (results.map (Envelope.limitRows maxRows)) k ↔ CutAt request results k := by
  have hstats : (∃ result ∈ (results.map (Envelope.limitRows maxRows))[k]?, result.stats? = none) ↔
      ∃ result ∈ results[k]?, result.stats? = none := by
    rw [List.getElem?_map]
    cases results[k]? with
    | none => simp
    | some result => simp [Envelope.stats?_limitRows]
  constructor
  · rintro ⟨hlast, hshort⟩
    rw [List.length_map] at hlast hshort
    exact ⟨hlast, hshort.imp_right (And.imp_right hstats.1)⟩
  · rintro ⟨hlast, hshort⟩
    rw [← List.length_map (Envelope.limitRows maxRows)] at hlast hshort
    exact ⟨hlast, hshort.imp_right (And.imp_right hstats.2)⟩

/-- Fewer rows do not move the failure to another statement. -/
theorem FailsAt.of_limitRows {maxRows : Nat}
    (h : FailsAt request (results.map (Envelope.limitRows maxRows)) k) :
    FailsAt request results k := by
  cases h with
  | cut hcut => exact .cut (cutAt_limitRows.1 hcut)
  | next hcut =>
    rw [List.length_map]
    exact .next fun k hk => hcut k (cutAt_limitRows.2 hk)

theorem completed_of_results {decoded : Decoded} {before : List Envelope} {error : ServerError}
    (hresults : decoded.results = before ++ [.failed error])
    (hbefore : ∀ envelope ∈ before, envelope.error? = none) : decoded.completed = before := by
  rw [completed, hresults, List.takeWhile_append_of_pos]
  · exact List.append_nil before
  · intro envelope hmem
    rw [hbefore envelope hmem]
    rfl

theorem failing_limitRows (maxRows : Nat) (request : Request) (results : List Envelope) :
    failing request (results.map (Envelope.limitRows maxRows)) = failing request results :=
  failsAt_iff.1 (FailsAt.of_limitRows (failsAt_iff.2 rfl))

theorem failing_le (request : Request) (results : List Envelope) :
    failing request results ≤ results.length :=
  (failsAt_iff.2 rfl).le_length

/-- A response with an error, decoded: the results before the failed statement, and the failure. -/
theorem ofResponse_of_error {raw : RawResponse} {response : Response} {error : ServerError}
    (hresponse : Response.ofRaw raw = .ok response) (herror : response.errors.head? = some error)
    (request : Request) (maxRows : Nat) (id? : Option Nat) :
    let decoded := ofResponse raw request maxRows response id?
    let k := failing request response.results
    let before := (response.results.map (Envelope.limitRows maxRows)).take k
    decoded.results = before ++ [.failed error] ∧
      (∀ envelope ∈ before, envelope.error? = none) ∧ before.length = k ∧
        decoded.completed = before ∧ decoded.failedIndex = k := by
  intro decoded k before
  have hresults : decoded.results = before ++ [.failed error] := by
    change attributed request _ response.errors.head? = _
    rw [herror, attributed_eq, failing_limitRows]
  have hclean : ∀ envelope ∈ before, envelope.error? = none := by
    intro envelope hmem
    exact Envelope.error?_of_mem_limitRows (Response.error?_of_ofRaw hresponse) envelope
      (List.mem_of_mem_take hmem)
  have hlength : before.length = k := by
    rw [List.length_take, List.length_map, Nat.min_eq_left (failing_le request response.results)]
  have hcompleted : decoded.completed = before := completed_of_results hresults hclean
  exact ⟨hresults, hclean, hlength, hcompleted, (congrArg List.length hcompleted).trans hlength⟩

/-- **Which statement failed**, and what came of those before it. -/
theorem exists_failsAt_of_ofRaw {raw : RawResponse} {maxRows : Nat} {decoded : Decoded}
    {error : ServerError} (h : Decoded.ofRaw raw request maxRows = .ok decoded)
    (herror : decoded.firstError? = some error) :
    ∃ response, raw.Fails response error ∧ response.results.length ≤ request.size ∧
      FailsAt request response.results decoded.failedIndex ∧
      decoded.completed =
        (response.results.take decoded.failedIndex).map (Envelope.limitRows maxRows) := by
  obtain ⟨response, id?, ⟨hresponse, hcount, -⟩, rfl⟩ := Decoded.ofRaw_eq_ok_iff.1 h
  have hfails : raw.Fails response error :=
    ⟨herror, Response.says_or_notFound_of_ofRaw hresponse⟩
  obtain ⟨-, -, -, hcompleted, hindex⟩ := ofResponse_of_error hresponse herror request maxRows id?
  refine ⟨response, hfails, (checkCount_eq_ok_iff.1 hcount).1, failsAt_iff.2 hindex, ?_⟩
  rw [hcompleted, hindex, List.map_take]

theorem ofRaw_of_checkCount_error {raw : RawResponse} {response : Response} {maxRows : Nat}
    {error : SessionError} (hresponse : Response.ofRaw raw = .ok response)
    (hcount : checkCount request response = .error error) :
    Decoded.ofRaw raw request maxRows = .error error :=
  Result.bind_eq_error_iff.2
    (.inr ⟨response, hresponse, Result.bind_eq_error_iff.2 (.inl hcount)⟩)

theorem ofRaw_of_tooMany {raw : RawResponse} {response : Response} {maxRows : Nat}
    (hresponse : Response.ofRaw raw = .ok response)
    (hmany : request.size < response.results.length) :
    Decoded.ofRaw raw request maxRows =
      .error (.tooManyResults response.results.length request.size) := by
  apply ofRaw_of_checkCount_error hresponse
  rw [checkCount, if_pos hmany]

theorem ofRaw_of_tooFew {raw : RawResponse} {response : Response} {maxRows : Nat}
    (hresponse : Response.ofRaw raw = .ok response) (herrors : response.errors = [])
    (hfew : response.results.length < request.size) :
    Decoded.ofRaw raw request maxRows =
      .error (.tooFewResults response.results.length request.size) := by
  apply ofRaw_of_checkCount_error hresponse
  rw [checkCount, if_neg (by omega), if_pos ⟨herrors, hfew⟩]

/-- **What is made of the results.** A response with more results than statements, or with fewer and
no error, breaks the protocol. Without an error there is an envelope for every statement, and it is
that of its result. With an error there are the envelopes of the results before the failed statement
and one that carries the first error; that statement is one of the request, unless the request has
none. -/
theorem ofRaw_attributes {raw : RawResponse} {response : Response}
    (hresponse : Response.ofRaw raw = .ok response) (request : Request) (maxRows : Nat) :
    let kept := response.results.map (Envelope.limitRows maxRows)
    let k := failing request response.results
    (request.size < response.results.length → Decoded.ofRaw raw request maxRows =
      .error (.tooManyResults response.results.length request.size)) ∧
    (response.errors = [] → response.results.length < request.size →
      Decoded.ofRaw raw request maxRows =
        .error (.tooFewResults response.results.length request.size)) ∧
    ∀ decoded, Decoded.ofRaw raw request maxRows = .ok decoded →
      (response.errors = [] →
        decoded.results = kept ∧ decoded.results.length = request.size ∧
          ∀ envelope ∈ decoded.results, envelope.error? = none) ∧
      ∀ error rest, response.errors = error :: rest →
        decoded.results =
          kept.take k ++ [{ columns := [], rows := [], stats? := none, error? := some error }] ∧
        decoded.results.length = k + 1 ∧
        (∀ envelope ∈ kept.take k, envelope.error? = none) ∧
        decoded.failedIndex = k ∧ decoded.completed = kept.take k ∧
        (k < request.size ∨ request.size = 0) := by
  intro kept k
  refine ⟨ofRaw_of_tooMany hresponse, ofRaw_of_tooFew hresponse, fun decoded hdecoded => ?_⟩
  obtain ⟨other, id?, ⟨hother, hcount, -⟩, rfl⟩ := Decoded.ofRaw_eq_ok_iff.1 hdecoded
  cases hresponse.symm.trans hother
  obtain ⟨hle, hall⟩ := checkCount_eq_ok_iff.1 hcount
  constructor
  · intro herrors
    have hresults : (ofResponse raw request maxRows response id?).results = kept := by
      change attributed request kept response.errors.head? = kept
      rw [herrors]
      rfl
    rw [hresults]
    refine ⟨rfl, (List.length_map _).trans (hall herrors), ?_⟩
    exact Envelope.error?_of_mem_limitRows (Response.error?_of_ofRaw hresponse)
  · intro error rest herrors
    have herror : response.errors.head? = some error := by rw [herrors, List.head?_cons]
    obtain ⟨hresults, hclean, hlength, hcompleted, hindex⟩ :=
      ofResponse_of_error hresponse herror request maxRows id?
    refine ⟨hresults, ?_, hclean, hindex, hcompleted, ?_⟩
    · rw [hresults, List.length_append, hlength, List.length_singleton]
    · have hlt : 0 < request.size → k < request.size := (failsAt_iff.2 rfl).lt_size hle
      omega

def sampleThree : Request :=
  ⟨[⟨"CREATE ()", [], true⟩, ⟨"UNWIND [1, 0] AS x RETURN 1 / x", [], true⟩,
    ⟨"CREATE ()", [], true⟩]⟩

def sampleCutShort : RawResponse where
  status := 200
  body := "\x7b\"results\":[\x7b\"stats\":\x7b\"nodes_created\":1\x7d\x7d," ++
    "\x7b\"columns\":[\"1 / x\"]\x7d],\"errors\":[\x7b\"code\":\"C\"\x7d]\x7d"

/-- The statement that failed is the second of three, although it has a result. -/
theorem ofRaw_attributes_cut_short :
    ∃ response decoded, Response.ofRaw sampleCutShort = .ok response ∧
      response.results.length = 2 ∧
      Decoded.ofRaw sampleCutShort sampleThree 0 = .ok decoded ∧
      decoded.results = [{ stats? := some { nodesCreated := 1 } }, .failed ⟨"C", ""⟩] ∧
      decoded.failedIndex = 1 := by
  let results : List Envelope := [{ stats? := some { nodesCreated := 1 } }, { columns := ["1 / x"] }]
  have hresponse : Response.ofRaw sampleCutShort = .ok { results, errors := [⟨"C", ""⟩] } := rfl
  obtain ⟨-, -, hdecodes⟩ := ofRaw_attributes hresponse sampleThree 0
  obtain ⟨hresults, -, -, hindex, -, -⟩ := (hdecodes _ rfl).2 ⟨"C", ""⟩ [] rfl
  exact ⟨_, _, hresponse, rfl, rfl, hresults, hindex⟩

end Decoded

end CypherSession
