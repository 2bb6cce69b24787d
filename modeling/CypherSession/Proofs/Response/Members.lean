import CypherSession.Proofs.Json.Record
import CypherSession.Proofs.Response.Status

/-!
# What is read of a response

A response is read by the known members of its objects: of itself, of its results with their
counters and entries, of its errors, and of its transaction. Members of other names are skipped, a
known member that is there twice makes the body malformed, and rows stay with their entries.
-/

namespace CypherSession

open Json (Document Value)
open Json.Document
open Result (exists_of_forall₂_of_mem)

namespace Response

/-! ## Responses that are read alike -/

def resultMembers : List (List String) := [["columns"], ["data"], ["stats"]]

def errorMembers : List (List String) := [["code"], ["message"]]

def transactionMembers : List (List String) := [["expires"]]

def rowMembers : List (List String) := [["row"]]

def responseMembers : List (List String) := [["commit"], ["results"], ["transaction"], ["errors"]]

def resultParts : Parts :=
  [("data", EachItem (SameRecord rowMembers [])), ("stats", SameRecord statsMembers [])]

def responseParts : Parts :=
  [("results", EachItem (SameRecord resultMembers resultParts)),
    ("transaction", SameRecord transactionMembers []),
    ("errors", EachItem (SameRecord errorMembers []))]

/-- Two responses have the same known members, and so have the objects in them that are read. -/
abbrev SameMembers : Document → Document → Prop := SameRecord responseMembers responseParts

variable {document other : Document} {members : List (Option String × Document)}

theorem row?_eq_of_sameRecord (h : SameRecord rowMembers [] document other) :
    row? document = row? other := by
  have hfields := fields?_eq_of_sameRecord h
  cases h with
  | refl => rfl
  | object => exact congrArg (Option.bind · _) hfields

theorem stats?_eq_of_sameRecord (h : SameRecord statsMembers [] document other) :
    stats? document = stats? other :=
  congrArg (Option.bind · _) (fields?_eq_of_sameRecord h)

theorem error?_eq_of_sameRecord (h : SameRecord errorMembers [] document other) :
    error? document = error? other :=
  congrArg (Option.bind · _) (fields?_eq_of_sameRecord h)

theorem transactionExpires?_eq_of_sameRecord (h : SameRecord transactionMembers [] document other) :
    transactionExpires? document = transactionExpires? other :=
  congrArg (Option.bind · _) (fields?_eq_of_sameRecord h)

theorem data?_eq_of_eachItem (h : EachItem (SameRecord rowMembers []) document other) :
    nullable? (list? row?) document = nullable? (list? row?) other :=
  nullable?_eq_of_eachItem (list?_eq_of_eachItem (fun _ _ => row?_eq_of_sameRecord) h) h

theorem result?_eq_of_sameRecord (h : SameRecord resultMembers resultParts document other) :
    result? document = result? other := by
  cases h with
  | refl => rfl
  | object hkept hadded hperm =>
    refine bind_eq_of_rel (rel_objectFields? hkept hadded hperm) fun fields others hfields => ?_
    cases hfields with | cons hcolumns hfields =>
    cases hfields with | cons hdata hfields =>
    cases hfields with | cons hstats hfields =>
    cases hfields
    simp only
    rw [orDefault_eq_of_rel hcolumns, orDefault_eq_of_rel hdata, orDefault_eq_of_rel hstats]
    · simp only [resultParts, List.forall_mem_cons]
      exact ⟨fun h => absurd h (by decide), fun _ _ _ h =>
        nullable?_eq_of_sameRecord (stats?_eq_of_sameRecord h) h, nofun⟩
    · simp only [resultParts, List.forall_mem_cons]
      exact ⟨fun _ _ _ => data?_eq_of_eachItem, fun h => absurd h (by decide), nofun⟩
    · simp [resultParts]

/-- A response is read by its known members. -/
theorem ofDocument?_eq_of_sameMembers (h : SameMembers document other) :
    ofDocument? document = ofDocument? other := by
  cases h with
  | refl => rfl
  | object hkept hadded hperm =>
    refine bind_eq_of_rel (rel_objectFields? hkept hadded hperm) fun fields others hfields => ?_
    cases hfields with | cons hcommit hfields =>
    cases hfields with | cons hresults hfields =>
    cases hfields with | cons htransaction hfields =>
    cases hfields with | cons herrors hfields =>
    cases hfields
    simp only
    rw [orDefault_eq_of_rel hcommit, orDefault_eq_of_rel hresults, orDefault_eq_of_rel htransaction,
      orDefault_eq_of_rel herrors]
    · simp only [responseParts, List.forall_mem_cons]
      exact ⟨fun h => absurd h (by decide), fun h => absurd h (by decide), fun _ _ _ =>
        list?_eq_of_eachItem fun _ _ => error?_eq_of_sameRecord, nofun⟩
    · simp only [responseParts, List.forall_mem_cons]
      exact ⟨fun h => absurd h (by decide), fun _ _ _ h =>
        nullable?_eq_of_sameRecord (transactionExpires?_eq_of_sameRecord h) h,
        fun h => absurd h (by decide), nofun⟩
    · simp only [responseParts, List.forall_mem_cons]
      exact ⟨fun _ _ _ => list?_eq_of_eachItem fun _ _ => result?_eq_of_sameRecord,
        fun h => absurd h (by decide), fun h => absurd h (by decide), nofun⟩
    · simp [responseParts]

/-! ## Members that are there twice -/

inductive RepeatsInResult : Document → Prop where
  | result {document : Document} (h : Repeats resultMembers document) : RepeatsInResult document
  | entry {members : List (Option String × Document)} {entries : List Document} {entry : Document}
      (hmem : (some "data", .array entries) ∈ members) (hentry : entry ∈ entries)
      (h : Repeats rowMembers entry) : RepeatsInResult (.object members)
  | stats {members : List (Option String × Document)} {document : Document}
      (hmem : (some "stats", document) ∈ members) (h : Repeats statsMembers document) :
      RepeatsInResult (.object members)

/-- A known member is there twice in a response, in one of its results or errors, or in its
transaction. -/
inductive RepeatsMember : Document → Prop where
  | response {document : Document} (h : Repeats responseMembers document) : RepeatsMember document
  | result {members : List (Option String × Document)} {results : List Document}
      {result : Document} (hmem : (some "results", .array results) ∈ members)
      (hresult : result ∈ results) (h : RepeatsInResult result) : RepeatsMember (.object members)
  | transaction {members : List (Option String × Document)} {document : Document}
      (hmem : (some "transaction", document) ∈ members)
      (h : Repeats transactionMembers document) : RepeatsMember (.object members)
  | error {members : List (Option String × Document)} {errors : List Document} {error : Document}
      (hmem : (some "errors", .array errors) ∈ members) (herror : error ∈ errors)
      (h : Repeats errorMembers error) : RepeatsMember (.object members)

/-! ## Rows of entries -/

/-- The row of an entry: the cells of its member of that name, or no cells if it has none. -/
inductive RowOf : Document → List Value → Prop where
  | absent {members : List (Option String × Document)} (hplain : IsPlain rowMembers members)
      (hnone : ∀ member ∈ members, member.1 ≠ some "row") : RowOf (.object members) []
  | cells {members : List (Option String × Document)} {cells : List Document} {row : List Value}
      (hplain : IsPlain rowMembers members) (hmem : (some "row", .array cells) ∈ members)
      (hcells : List.Forall₂ (fun cell value => Value.ofDocument? maxCellDepth cell = some value)
        cells row) : RowOf (.object members) row

/-- The rows of a result: one for each entry of its data, in their order, or none without data. -/
inductive RowsOf (members : List (Option String × Document)) : List (List Value) → Prop where
  | absent (hnone : ∀ member ∈ members, member.1 ≠ some "data") : RowsOf members []
  | null (hmem : (some "data", .null) ∈ members) : RowsOf members []
  | entries {entries : List Document} {rows : List (List Value)}
      (hmem : (some "data", .array entries) ∈ members) (hrows : List.Forall₂ RowOf entries rows) :
      RowsOf members rows

structure IsEnvelopeOf (members : List (Option String × Document)) (envelope : Envelope) :
    Prop where
  plain : IsPlain resultMembers members
  columns : ReadsMember ["columns"] [] (list? text?) members envelope.columns
  rows : RowsOf members envelope.rows
  stats? : ReadsMember ["stats"] none (nullable? Response.stats?) members envelope.stats?
  error? : envelope.error? = none

theorem rowOf_object_iff {row : List Value} :
    RowOf (.object members) row ↔ IsPlain rowMembers members ∧
      ReadsMember ["row"] [] (list? (Value.ofDocument? maxCellDepth)) members row := by
  rw [readsMember_singleton_iff]
  constructor
  · intro h
    cases h with
    | absent hplain hnone => exact ⟨hplain, .inl ⟨hnone, rfl⟩⟩
    | cells hplain hmem hcells =>
      exact ⟨hplain, .inr ⟨_, hmem, list?_eq_some_iff.2 ⟨_, rfl, hcells⟩⟩⟩
  · rintro ⟨hplain, ⟨hnone, rfl⟩ | ⟨document, hmem, hread⟩⟩
    · exact .absent hplain hnone
    · obtain ⟨cells, rfl, hcells⟩ := list?_eq_some_iff.1 hread
      exact .cells hplain hmem hcells

/-- The reader of an entry reads its row. -/
theorem row?_eq_some_iff {row : List Value} : row? document = some row ↔ RowOf document row := by
  cases document with
  | object members =>
    rw [rowOf_object_iff]
    constructor
    · intro h
      obtain ⟨fields, hfields, h⟩ := Option.bind_eq_some_iff.1 h
      have hplain : IsPlain rowMembers members := isPlain_of_objectFields? hfields
      obtain ⟨-, hvalues⟩ := objectFields?_eq_some_iff.1 hfields
      cases hvalues with | cons hrow hvalues =>
      cases hvalues
      exact ⟨hplain, (hplain.readsMember_iff List.mem_cons_self).2 ⟨_, hrow, h⟩⟩
    · rintro ⟨hplain, hreads⟩
      obtain ⟨field?, hrow, hread⟩ := (hplain.readsMember_iff List.mem_cons_self).1 hreads
      refine Option.bind_eq_some_iff.2 ⟨[field?], ?_, hread⟩
      exact objectFields?_eq_some_iff.2 ⟨hplain.proper, .cons hrow .nil⟩
  | _ => exact ⟨nofun, nofun⟩

theorem nullable?_rows_iff {rows? : Option (List (List Value))} :
    nullable? (list? row?) document = some rows? ↔
      (document = .null ∧ rows? = none) ∨ ∃ entries rows, document = .array entries ∧
        rows? = some rows ∧ List.Forall₂ RowOf entries rows := by
  cases document with
  | array entries =>
    refine Option.map_eq_some_iff.trans ⟨?_, ?_⟩
    · rintro ⟨rows, hrows, rfl⟩
      obtain ⟨_, ⟨⟩, hrows⟩ := list?_eq_some_iff.1 hrows
      exact .inr ⟨entries, rows, rfl, rfl, hrows.imp fun _ _ => row?_eq_some_iff.1⟩
    · rintro (⟨⟨⟩, -⟩ | ⟨_, rows, ⟨⟩, rfl, hrows⟩)
      exact ⟨rows, list?_eq_some_iff.2 ⟨_, rfl, hrows.imp fun _ _ => row?_eq_some_iff.2⟩, rfl⟩
  | null => simp [nullable?, eq_comm]
  | _ => simp [nullable?, list?]

/-- A result without data has no rows, like one whose data is `null`. -/
theorem rowsOf_iff {rows : List (List Value)} :
    RowsOf members rows ↔ ∃ rows?,
      ReadsMember ["data"] none (nullable? (list? row?)) members rows? ∧ rows?.getD [] = rows := by
  simp only [readsMember_singleton_iff, nullable?_rows_iff]
  constructor
  · intro h
    cases h with
    | absent hnone => exact ⟨none, .inl ⟨hnone, rfl⟩, rfl⟩
    | null hmem => exact ⟨none, .inr ⟨_, hmem, .inl ⟨rfl, rfl⟩⟩, rfl⟩
    | entries hmem hrows => exact ⟨_, .inr ⟨_, hmem, .inr ⟨_, _, rfl, rfl, hrows⟩⟩, rfl⟩
  · rintro ⟨rows?, ⟨hnone, rfl⟩ | ⟨_, hmem, ⟨rfl, rfl⟩ | ⟨entries, rows, rfl, rfl, hrows⟩⟩, rfl⟩
    · exact .absent hnone
    · exact .null hmem
    · exact .entries hmem hrows

/-- A result is read as an envelope exactly if the envelope says what its members say. -/
theorem result?_eq_some_iff {envelope : Envelope} :
    result? (.object members) = some envelope ↔ IsEnvelopeOf members envelope := by
  constructor
  · intro h
    obtain ⟨fields, hfields, h⟩ := Option.bind_eq_some_iff.1 h
    have hplain : IsPlain resultMembers members := isPlain_of_objectFields? hfields
    obtain ⟨-, hvalues⟩ := objectFields?_eq_some_iff.1 hfields
    cases hvalues with | cons hcolumns hvalues =>
    cases hvalues with | cons hdata hvalues =>
    cases hvalues with | cons hstats hvalues =>
    cases hvalues
    obtain ⟨columns, hreadColumns, h⟩ := Option.bind_eq_some_iff.1 h
    obtain ⟨rows?, hreadRows, h⟩ := Option.bind_eq_some_iff.1 h
    obtain ⟨stats?, hreadStats, h⟩ := Option.bind_eq_some_iff.1 h
    cases h
    exact {
      plain := hplain
      columns := (hplain.readsMember_iff (by simp [resultMembers])).2 ⟨_, hcolumns, hreadColumns⟩
      rows := rowsOf_iff.2
        ⟨rows?, (hplain.readsMember_iff (by simp [resultMembers])).2 ⟨_, hdata, hreadRows⟩, rfl⟩
      stats? := (hplain.readsMember_iff (by simp [resultMembers])).2 ⟨_, hstats, hreadStats⟩
      error? := rfl }
  · rintro ⟨hplain, hcolumns, hrows, hstats, herror⟩
    obtain ⟨rows?, hrows, hgetD⟩ := rowsOf_iff.1 hrows
    obtain ⟨columns?, hcolumns, hreadColumns⟩ :=
      (hplain.readsMember_iff (by simp [resultMembers])).1 hcolumns
    obtain ⟨data?, hdata, hreadRows⟩ := (hplain.readsMember_iff (by simp [resultMembers])).1 hrows
    obtain ⟨stats?, hstats, hreadStats⟩ :=
      (hplain.readsMember_iff (by simp [resultMembers])).1 hstats
    have hfields : objectFields? resultMembers members = some [columns?, data?, stats?] :=
      objectFields?_eq_some_iff.2
        ⟨hplain.proper, .cons hcolumns (.cons hdata (.cons hstats .nil))⟩
    obtain ⟨columns, rows, stats, error⟩ := envelope
    cases herror
    cases hgetD
    refine Option.bind_eq_some_iff.2 ⟨_, hfields, ?_⟩
    exact Option.bind_eq_some_iff.2 ⟨_, hreadColumns, Option.bind_eq_some_iff.2 ⟨_, hreadRows,
      Option.bind_eq_some_iff.2 ⟨_, hreadStats, rfl⟩⟩⟩

/-! ## What a response is made of -/

structure Reads (members : List (Option String × Document)) (response : Response) : Prop where
  plain : IsPlain responseMembers members
  results : ReadsMember ["results"] [] (list? result?) members response.results
  errors : ReadsMember ["errors"] [] (list? error?) members response.errors
  transaction : ∃ expires?,
    ReadsMember ["transaction"] none (nullable? transactionExpires?) members expires?

theorem reads_of_ofDocument? {response : Response}
    (h : ofDocument? (.object members) = some response) : Reads members response := by
  obtain ⟨fields, hfields, h⟩ := Option.bind_eq_some_iff.1 h
  have hplain : IsPlain responseMembers members := isPlain_of_objectFields? hfields
  obtain ⟨-, hvalues⟩ := objectFields?_eq_some_iff.1 hfields
  cases hvalues with | cons hcommit hvalues =>
  cases hvalues with | cons hresults hvalues =>
  cases hvalues with | cons htransaction hvalues =>
  cases hvalues with | cons herrors hvalues =>
  cases hvalues
  obtain ⟨commit?, -, h⟩ := Option.bind_eq_some_iff.1 h
  obtain ⟨results, hreadResults, h⟩ := Option.bind_eq_some_iff.1 h
  obtain ⟨expires?, hreadTransaction, h⟩ := Option.bind_eq_some_iff.1 h
  obtain ⟨errors, hreadErrors, h⟩ := Option.bind_eq_some_iff.1 h
  cases h
  exact {
    plain := hplain
    results := (hplain.readsMember_iff (by simp [responseMembers])).2 ⟨_, hresults, hreadResults⟩
    errors := (hplain.readsMember_iff (by simp [responseMembers])).2 ⟨_, herrors, hreadErrors⟩
    transaction := ⟨expires?,
      (hplain.readsMember_iff (by simp [responseMembers])).2 ⟨_, htransaction, hreadTransaction⟩⟩ }

theorem not_repeats_of_bind {α : Type} {known : List (List String)}
    {next : List (Option Document) → Option α} {value : α}
    (h : (fields? known document).bind next = some value) : ¬Repeats known document := by
  obtain ⟨fields, hfields, -⟩ := Option.bind_eq_some_iff.1 h
  exact not_repeats_of_fields? hfields

theorem not_repeats_of_rowOf {row : List Value} (h : RowOf document row) :
    ¬Repeats rowMembers document := by
  cases h with
  | absent hplain => exact hplain.unique
  | cells hplain => exact hplain.unique

theorem not_repeatsInResult {envelope : Envelope} (h : result? document = some envelope) :
    ¬RepeatsInResult document := by
  intro hrepeats
  cases hrepeats with
  | result hresult => exact not_repeats_of_bind h hresult
  | entry hmem hentry hrow =>
    obtain ⟨hplain, -, hrows, -, -⟩ := result?_eq_some_iff.1 h
    obtain ⟨rows?, hreads, -⟩ := rowsOf_iff.1 hrows
    have hread := hplain.read_of_mem (by simp [resultMembers]) hreads List.mem_cons_self hmem
    obtain ⟨⟨⟩, -⟩ | ⟨entries, rows, ⟨⟩, -, hentries⟩ := nullable?_rows_iff.1 hread
    obtain ⟨row, -, hrowOf⟩ := exists_of_forall₂_of_mem hentries hentry
    exact not_repeats_of_rowOf hrowOf hrow
  | stats hmem hstats =>
    obtain ⟨hplain, -, -, hreads, -⟩ := result?_eq_some_iff.1 h
    have hread := hplain.read_of_mem (by simp [resultMembers]) hreads List.mem_cons_self hmem
    exact not_repeats_of_nullable? hread (fun _ => not_repeats_of_bind) hstats

/-- A known member that is there twice makes a response malformed. -/
theorem ofDocument?_of_repeatsMember (h : RepeatsMember document) :
    ofDocument? document = none := by
  by_contra hsome
  obtain ⟨response, hresponse⟩ := Option.ne_none_iff_exists'.1 hsome
  cases h with
  | response hrepeats => exact not_repeats_of_bind hresponse hrepeats
  | result hmem hresult hrepeats =>
    obtain ⟨hplain, hreads, -, -⟩ := reads_of_ofDocument? hresponse
    have hresults := hplain.items_of_mem (by simp [responseMembers]) hreads List.mem_cons_self hmem
    obtain ⟨envelope, -, henvelope⟩ := exists_of_forall₂_of_mem hresults hresult
    exact not_repeatsInResult henvelope hrepeats
  | transaction hmem hrepeats =>
    obtain ⟨hplain, -, -, expires?, hreads⟩ := reads_of_ofDocument? hresponse
    have hread := hplain.read_of_mem (by simp [responseMembers]) hreads List.mem_cons_self hmem
    exact not_repeats_of_nullable? hread (fun _ => not_repeats_of_bind) hrepeats
  | error hmem herror hrepeats =>
    obtain ⟨hplain, -, hreads, -⟩ := reads_of_ofDocument? hresponse
    have herrors := hplain.items_of_mem (by simp [responseMembers]) hreads List.mem_cons_self hmem
    obtain ⟨reported, -, hreported⟩ := exists_of_forall₂_of_mem herrors herror
    exact not_repeats_of_bind hreported hrepeats

end Response

/-! ## Outcomes -/

inductive SameOutcome {α : Type} : Except SessionError α → Except SessionError α → Prop where
  | same (outcome : Except SessionError α) : SameOutcome outcome outcome
  | broken (detail other : String) :
      SameOutcome (.error (.protocol detail)) (.error (.protocol other))

namespace Decoded

variable {raw other : RawResponse} {document document' : Document}

theorem trimmedBody_ne_empty (h : Document.ofText? raw.trimmedBody = some document) :
    raw.trimmedBody ≠ "" := by
  intro hblank
  rw [hblank] at h
  cases h

theorem ofText?_eq (h : Document.ofText? raw.trimmedBody = some document) :
    Response.ofText? raw.trimmedBody = Response.ofDocument? document := by
  rw [Response.ofText?, h]
  rfl

theorem sameOutcome_ofStatus (hstatus : raw.status = other.status) :
    SameOutcome (Response.ofStatus raw) (Response.ofStatus other) := by
  unfold Response.ofStatus
  rw [hstatus]
  split
  · exact .same _
  · exact .broken _ _

/-- Two raw responses say the same if they have the same status and bodies that are read alike. -/
theorem sameOutcome_ofRaw (hstatus : raw.status = other.status)
    (hraw : raw.trimmedBody ≠ "") (hother : other.trimmedBody ≠ "")
    (htext : Response.ofText? raw.trimmedBody = Response.ofText? other.trimmedBody) :
    SameOutcome (Response.ofRaw raw) (Response.ofRaw other) := by
  have hsuccess : raw.isSuccess = other.isSuccess := by
    rw [RawResponse.isSuccess, RawResponse.isSuccess, hstatus]
  unfold Response.ofRaw
  rw [if_neg hraw, if_neg hother, htext, hsuccess]
  split
  · split
    · exact .same _
    · exact sameOutcome_ofStatus hstatus
  · split
    · exact .same _
    · exact sameOutcome_ofStatus hstatus

/-- Responses that are read with the same outcome and have the same location decode with the same
outcome. -/
theorem sameOutcome_of_ofRaw (hlocation : raw.location? = other.location?)
    (h : SameOutcome (Response.ofRaw raw) (Response.ofRaw other)) (request : Request)
    (maxRows : Nat) :
    SameOutcome (Decoded.ofRaw raw request maxRows) (Decoded.ofRaw other request maxRows) := by
  have hlocate (response : Response) : locate? raw response = locate? other response := by
    rw [locate?, locate?, hlocation]
  unfold Decoded.ofRaw
  simp only [hlocate]
  generalize Response.ofRaw raw = first at h
  generalize Response.ofRaw other = second at h
  cases h with
  | same => exact .same _
  | broken detail detail' => exact .broken detail detail'

open Response in
/-- **A response is read by its known members.** Two responses with the same status and location
have the same outcome if their bodies differ only in the order of members and in members of unknown
names; this goes for the response and for its results, their counters and entries, the errors and
the transaction. A known member that is there twice makes the body malformed. Each result of a
response has its envelope, and the envelope has one row for each entry of the data, in their order:
the cells of the entry or, without a row in it, no cells. -/
theorem ofRaw_by_members :
    (∀ (raw other : RawResponse) (document document' : Document),
      raw.status = other.status → raw.location? = other.location? →
      Document.ofText? raw.trimmedBody = some document →
      Document.ofText? other.trimmedBody = some document' → SameMembers document document' →
      ∀ request maxRows,
        SameOutcome (Decoded.ofRaw raw request maxRows) (Decoded.ofRaw other request maxRows)) ∧
    (∀ (raw : RawResponse) (document : Document),
      Document.ofText? raw.trimmedBody = some document → RepeatsMember document →
      Response.ofText? raw.trimmedBody = none ∧
      (raw.isSuccess = true → ∀ request maxRows,
        Decoded.ofRaw raw request maxRows = .error (.protocol "malformed response body"))) ∧
    (∀ (members : List (Option String × Document)) (results : List Document) (response : Response),
      Response.ofDocument? (.object members) = some response →
      (some "results", .array results) ∈ members →
      List.Forall₂ (fun result envelope => Response.result? result = some envelope) results
        response.results) ∧
    ∀ (members : List (Option String × Document)) (envelope : Envelope),
      Response.result? (.object members) = some envelope ↔ IsEnvelopeOf members envelope := by
  refine ⟨fun raw other document document' hstatus hlocation hraw hother hsame => ?_,
    fun raw document hdocument hrepeats => ?_, fun members results response hresponse hmem => ?_,
    fun members envelope => result?_eq_some_iff⟩
  · have htext : Response.ofText? raw.trimmedBody = Response.ofText? other.trimmedBody := by
      rw [ofText?_eq hraw, ofText?_eq hother, ofDocument?_eq_of_sameMembers hsame]
    exact sameOutcome_of_ofRaw hlocation (sameOutcome_ofRaw hstatus (trimmedBody_ne_empty hraw)
      (trimmedBody_ne_empty hother) htext)
  · have hread : Response.ofText? raw.trimmedBody = none := by
      rw [ofText?_eq hdocument, ofDocument?_of_repeatsMember hrepeats]
    refine ⟨hread, fun hsuccess request maxRows => ofRaw_of_error ?_⟩
    exact RawResponse.ofRaw_of_unreadable hsuccess (trimmedBody_ne_empty hdocument) hread
  · obtain ⟨hplain, hreads, -, -⟩ := reads_of_ofDocument? hresponse
    exact hplain.items_of_mem (by simp [responseMembers]) hreads List.mem_cons_self hmem

def sampleRow : Option String × Document := (some "row", .array [.bool true])

def sampleResult : List (Option String × Document) :=
  [(some "data", .array [.object [sampleRow], .object []])]

def sampleMembers : List (Option String × Document) :=
  [(some "results", .array [.object sampleResult]), (some "errors", .array [])]

def scrambledEntries : List Document :=
  [.object [(some "y", .array []), sampleRow], .object []]

def scrambledResult : List (Option String × Document) :=
  [(some "x", .array []), (some "data", .array scrambledEntries)]

def scrambledMembers : List (Option String × Document) :=
  [(some "row", .array []), (some "errors", .array []),
    (some "results", .array [.object scrambledResult])]

def repeatedRow : Document :=
  .object [sampleRow, (some "y", .array []), (some "row", .array [])]

def repeatedMembers : List (Option String × Document) :=
  [(some "results", .array [.object [(some "data", .array [repeatedRow])]])]

def sampleOrdered : RawResponse where
  status := 200
  body := "\x7b\"results\":[\x7b\"data\":[\x7b\"row\":[true]\x7d,\x7b\x7d]\x7d],\"errors\":[]\x7d"

def sampleScrambled : RawResponse where
  status := 200
  body := "\x7b\"row\":[],\"errors\":[],\"results\":[\x7b\"x\":[],\"data\":[" ++
    "\x7b\"y\":[],\"row\":[true]\x7d,\x7b\x7d]\x7d]\x7d"

def sampleTwice : RawResponse where
  status := 200
  body := "\x7b\"results\":[\x7b\"data\":[\x7b\"row\":[true],\"y\":[],\"row\":[]\x7d]\x7d]\x7d"

theorem sameRecord_reverse {known : List (List String)} {parts : Parts}
    {members : List (Option String × Document)} (kept added : List (Option String × Document))
    (hkept : List.Forall₂ (fun member other =>
      member.1 = other.1 ∧ AlikeUnder parts member.1 member.2 other.2) members kept)
    (hadded : ∀ member ∈ added, IsUnknown known member) :
    SameRecord known parts (.object members) (.object (kept ++ added).reverse) :=
  .object hkept hadded (List.reverse_perm (kept ++ added))

open Response in
theorem sameMembers_scrambled : SameMembers (.object sampleMembers) (.object scrambledMembers) := by
  have hrow : SameRecord rowMembers [] (.object [sampleRow])
      (.object [(some "y", .array []), sampleRow]) :=
    sameRecord_reverse [sampleRow] [(some "y", .array [])] (.cons ⟨rfl, .inl rfl⟩ .nil)
      (List.forall_mem_singleton.2 ⟨"y", rfl, by decide⟩)
  have hresult : SameRecord resultMembers resultParts (.object sampleResult)
      (.object scrambledResult) := by
    refine sameRecord_reverse [(some "data", .array scrambledEntries)] [(some "x", .array [])]
      (.cons ⟨rfl, .inr ⟨_, .head _, rfl, ?_⟩⟩ .nil)
      (List.forall_mem_singleton.2 ⟨"x", rfl, by decide⟩)
    exact .array (.cons hrow (.cons (.refl _) .nil))
  refine sameRecord_reverse
    [(some "results", .array [.object scrambledResult]), (some "errors", .array [])]
    [(some "row", .array [])]
    (.cons ⟨rfl, .inr ⟨_, .head _, rfl, ?_⟩⟩ (.cons ⟨rfl, .inl rfl⟩ .nil))
    (List.forall_mem_singleton.2 ⟨"row", rfl, by decide⟩)
  exact .array (.cons hresult .nil)

/-- A response, the same one in disorder, and one in which an entry has two rows. -/
theorem ofRaw_by_members_scrambled :
    (∀ request maxRows, SameOutcome (Decoded.ofRaw sampleOrdered request maxRows)
      (Decoded.ofRaw sampleScrambled request maxRows)) ∧
    (∀ request maxRows, Decoded.ofRaw sampleTwice request maxRows =
      .error (.protocol "malformed response body")) ∧
    ∃ envelope, Response.result? (.object sampleResult) = some envelope ∧
      envelope.rows = [[.bool true], []] ∧ Response.IsEnvelopeOf sampleResult envelope := by
  obtain ⟨hsame, htwice, -, hresult⟩ := ofRaw_by_members
  have hordered : Document.ofText? sampleOrdered.trimmedBody = some (.object sampleMembers) := rfl
  have hscrambled :
      Document.ofText? sampleScrambled.trimmedBody = some (.object scrambledMembers) := rfl
  have hrepeated : Document.ofText? sampleTwice.trimmedBody = some (.object repeatedMembers) := rfl
  have hrow : Repeats Response.rowMembers repeatedRow :=
    @Repeats.intro _ _ "row" "row" _ _ [] [(some "y", .array [])] [] (.head _) (.head _) (.head _)
  have hrepeats : Response.RepeatsMember (.object repeatedMembers) :=
    .result (.head _) (.head _) (.entry (.head _) (.head _) hrow)
  exact ⟨hsame sampleOrdered sampleScrambled _ _ rfl rfl hordered hscrambled
    sameMembers_scrambled, (htwice sampleTwice _ hrepeated hrepeats).2 rfl, _, rfl, rfl,
    (hresult sampleResult _).1 rfl⟩

end Decoded

end CypherSession
