import Mathlib.Data.List.Forall2
import CypherSession.Proofs.Response.Attribution
import CypherSession.Session.Basic

/-!
# Responses under a limit on rows

A limit on rows takes rows from the ends of the results, and it takes nothing else: whether a
response decodes, which statement failed, and what the transaction is, is decided without the rows.
So the verdict under a limit is the verdict without one, less some rows.
-/

namespace CypherSession

/-! ## With fewer rows -/

def Decoded.limitRows (limit : Nat) (decoded : Decoded) : Decoded :=
  { decoded with results := decoded.results.map (Envelope.limitRows limit) }

def SessionError.limitRows (limit : Nat) : SessionError → SessionError
  | .statement failure =>
    .statement { failure with completed := failure.completed.map (Envelope.limitRows limit) }
  | error => error

def Verdict.limitRows (limit : Nat) : Verdict → Verdict
  | .unanswered error => .unanswered (error.limitRows limit)
  | .senseless error => .senseless (error.limitRows limit)
  | .refused decoded error => .refused (decoded.limitRows limit) error
  | .accepted decoded => .accepted (decoded.limitRows limit)

/-! ## Equal up to rows -/

/-- Two envelopes agree in all but their rows, and those are related. -/
structure Envelope.UpToRows (related : List (List Json.Value) → List (List Json.Value) → Prop)
    (first second : Envelope) : Prop where
  columns : second.columns = first.columns
  stats : second.stats? = first.stats?
  error : second.error? = first.error?
  updateCount : second.updateCount = first.updateCount
  rows : related first.rows second.rows

inductive SessionError.UpToRows
    (related : List (List Json.Value) → List (List Json.Value) → Prop) :
    SessionError → SessionError → Prop where
  | statement {first second : StatementFailure} (index : second.index = first.index)
      (code : second.code = first.code) (message : second.message = first.message)
      (completed : List.Forall₂ (Envelope.UpToRows related) first.completed second.completed) :
      UpToRows related (.statement first) (.statement second)
  | other {error : SessionError} (hother : ∀ failure, error ≠ .statement failure) :
      UpToRows related error error

/-- What a limit leaves of rows: the first ones, as many as it allows. -/
structure FirstRows (limit : Nat) (full cut : List (List Json.Value)) : Prop where
  first : cut <+: full
  length : cut.length = if limit = 0 then full.length else min limit full.length

variable {related : List (List Json.Value) → List (List Json.Value) → Prop} {limit other : Nat}
  {request : Request}

theorem firstRows_limitRows (limit : Nat) (envelope : Envelope) :
    FirstRows limit envelope.rows (envelope.limitRows limit).rows := by
  unfold Envelope.limitRows
  by_cases hnone : limit = 0
  · rw [if_pos hnone]
    exact ⟨List.prefix_rfl, (if_pos hnone).symm⟩
  · rw [if_neg hnone]
    exact ⟨List.take_prefix limit envelope.rows, List.length_take.trans (if_neg hnone).symm⟩

@[simp] theorem Envelope.limitRows_failed (limit : Nat) (error : ServerError) :
    (Envelope.failed error).limitRows limit = .failed error := by
  unfold Envelope.limitRows
  split
  · rfl
  · simp [Envelope.failed]

theorem Envelope.columns_limitRows (limit : Nat) (envelope : Envelope) :
    (envelope.limitRows limit).columns = envelope.columns := by
  unfold Envelope.limitRows
  split <;> rfl

/-- Under two limits an envelope is the same one up to rows. -/
theorem Envelope.upToRows_limitRows
    (h : ∀ envelope : Envelope,
      related (envelope.limitRows limit).rows (envelope.limitRows other).rows)
    (envelope : Envelope) :
    (envelope.limitRows limit).UpToRows related (envelope.limitRows other) where
  columns := by rw [columns_limitRows, columns_limitRows]
  stats := by rw [stats?_limitRows, stats?_limitRows]
  error := by rw [error?_limitRows, error?_limitRows]
  updateCount := by rw [updateCount_limitRows, updateCount_limitRows]
  rows := h envelope

theorem forall₂_limitRows
    (h : ∀ envelope : Envelope,
      related (envelope.limitRows limit).rows (envelope.limitRows other).rows)
    (envelopes : List Envelope) :
    List.Forall₂ (Envelope.UpToRows related) (envelopes.map (Envelope.limitRows limit))
      (envelopes.map (Envelope.limitRows other)) := by
  rw [List.forall₂_map_left_iff, List.forall₂_map_right_iff, List.forall₂_same]
  exact fun envelope _ => envelope.upToRows_limitRows h

theorem SessionError.upToRows_limitRows
    (h : ∀ envelope : Envelope,
      related (envelope.limitRows limit).rows (envelope.limitRows other).rows)
    (error : SessionError) :
    (error.limitRows limit).UpToRows related (error.limitRows other) := by
  cases error with
  | statement failure => exact .statement rfl rfl rfl (forall₂_limitRows h failure.completed)
  | _ => exact .other nofun

/-! ## Decoding -/

namespace Decoded

/-- Which statement failed is decided without the rows. -/
theorem attributed_limitRows (request : Request) (limit : Nat) (results : List Envelope)
    (error? : Option ServerError) :
    attributed request (results.map (Envelope.limitRows limit)) error? =
      (attributed request results error?).map (Envelope.limitRows limit) := by
  cases error? with
  | none => rfl
  | some error =>
    have hlast : CutAt request (results.map (Envelope.limitRows limit))
          ((results.map (Envelope.limitRows limit)).length - 1) ↔
        CutAt request results (results.length - 1) := by
      rw [List.length_map]
      exact cutAt_limitRows
    have hcut := cutAt_iff.symm.trans (hlast.trans cutAt_iff)
    by_cases hshort : results ≠ [] ∧
        (results.length = request.size ∨ isCutShort request results = true)
    · simp only [attributed, if_pos hshort, if_pos (hcut.2 hshort), List.map_append,
        List.map_dropLast, List.map_cons, List.map_nil, Envelope.limitRows_failed]
    · simp only [attributed, if_neg hshort, if_neg (mt hcut.1 hshort), List.map_append,
        List.map_cons, List.map_nil, Envelope.limitRows_failed]

theorem ofResponse_limitRows (raw : RawResponse) (request : Request) (limit : Nat)
    (response : Response) (id? : Option Nat) :
    ofResponse raw request limit response id? =
      (ofResponse raw request 0 response id?).limitRows limit := by
  have hresults : response.results.map (Envelope.limitRows 0) = response.results :=
    List.map_id' response.results
  simp only [ofResponse, Decoded.limitRows, hresults, attributed_limitRows]

/-- The limit on rows can be applied after the decoding. -/
theorem ofRaw_limitRows (raw : RawResponse) (request : Request) (limit : Nat) :
    Decoded.ofRaw raw request limit = (Decoded.ofRaw raw request 0).map (limitRows limit) := by
  unfold Decoded.ofRaw
  cases Response.ofRaw raw with
  | error error => rfl
  | ok response =>
    cases hcount : checkCount request response with
    | error error => simp only [bind, Except.bind, hcount, Except.map]
    | ok _ =>
      cases hidentify : identify (locate? raw response) with
      | error error => simp only [bind, Except.bind, hcount, hidentify, Except.map]
      | ok id? =>
        simp only [bind, Except.bind, hcount, hidentify, Except.map]
        exact congrArg Except.ok (ofResponse_limitRows raw request limit response id?)

theorem completed_limitRows (limit : Nat) (decoded : Decoded) :
    (decoded.limitRows limit).completed =
      decoded.completed.map (Envelope.limitRows limit) := by
  have hclean : (fun envelope : Envelope => envelope.error?.isNone) ∘ Envelope.limitRows limit =
      fun envelope => envelope.error?.isNone := by
    funext envelope
    exact congrArg Option.isNone (Envelope.error?_limitRows limit envelope)
  unfold completed Decoded.limitRows
  rw [List.takeWhile_map, hclean]

theorem failure_limitRows (limit : Nat) (decoded : Decoded) (error : ServerError) :
    (decoded.limitRows limit).failure error = (decoded.failure error).limitRows limit := by
  simp only [Decoded.failure, SessionError.limitRows, failedIndex, completed_limitRows,
    List.length_map]

/-- Without statements there are no rows to take away. -/
theorem ofRaw_empty (raw : RawResponse) (limit : Nat) :
    Decoded.ofRaw raw .empty limit = Decoded.ofRaw raw .empty 0 := by
  rw [ofRaw_limitRows]
  cases hdecoded : Decoded.ofRaw raw .empty 0 with
  | error error => rfl
  | ok decoded =>
    obtain ⟨response, id?, ⟨-, hcount, -⟩, rfl⟩ := ofRaw_eq_ok_iff.1 hdecoded
    have hresults : response.results = [] :=
      List.eq_nil_of_length_eq_zero (Nat.le_zero.1 (checkCount_eq_ok_iff.1 hcount).1)
    have hsame := ofResponse_limitRows raw .empty limit response id?
    refine congrArg Except.ok (hsame.symm.trans ?_)
    simp only [ofResponse, hresults, List.map_nil]

end Decoded

theorem RawResponse.verdict_limitRows (raw : RawResponse) (request : Request) (limit : Nat) :
    raw.verdict request limit = (raw.verdict request 0).limitRows limit := by
  unfold RawResponse.verdict
  rw [Decoded.ofRaw_limitRows]
  cases hdecoded : Decoded.ofRaw raw request 0 with
  | error error =>
    obtain ⟨detail, rfl⟩ := Decoded.eq_protocol_of_ofRaw hdecoded
    rfl
  | ok decoded =>
    have hfirst : (decoded.limitRows limit).firstError? = decoded.firstError? := rfl
    cases herror : decoded.firstError? with
    | none => simp only [Except.map, hfirst, herror, Verdict.limitRows]
    | some error => simp only [Except.map, hfirst, herror, Verdict.limitRows]

namespace Reply

/-- The verdict under a limit is that without one, less some rows. -/
theorem verdict_limitRows (reply : Reply) (operation : String) (timeout : Duration)
    (request : Request) (limit : Nat) :
    reply.verdict operation timeout request limit =
      (reply.verdict operation timeout request 0).limitRows limit := by
  cases reply with
  | answered raw => exact raw.verdict_limitRows request limit
  | silent => rfl
  | failed cause =>
    by_cases hambiguous : cause.isAmbiguous = true
    · simp only [Reply.verdict, if_pos hambiguous, Verdict.limitRows, SessionError.limitRows]
    · simp only [Reply.verdict, if_neg hambiguous, Verdict.limitRows, SessionError.limitRows]

theorem verdict_empty (reply : Reply) (operation : String) (timeout : Duration) (limit : Nat) :
    reply.verdict operation timeout .empty limit = reply.verdict operation timeout .empty 0 := by
  cases reply with
  | answered raw =>
    change raw.verdict .empty limit = raw.verdict .empty 0
    unfold RawResponse.verdict
    rw [Decoded.ofRaw_empty]
  | silent => rfl
  | failed cause => rfl

end Reply

end CypherSession
