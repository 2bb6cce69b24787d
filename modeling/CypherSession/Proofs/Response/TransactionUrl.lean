import CypherSession.Response.TransactionUrl

/-!
# Numbers of transactions

A URL with a number is the URL of a transaction, and no other URL that a session requests has one:
neither the URL that commits, nor those of the service. So the URLs that end in the suffix that
commits are apart from those of transactions, however a server spells these.
-/

namespace CypherSession.TransactionUrl

theorem number_eq_ok_iff_unsigned {url : String} {id : Nat} :
    number url = .ok id ↔
      1 ≤ id ∧ Text.unsigned? UInt64.size (lastSegment url.toList) = some id := by
  unfold number
  cases Text.unsigned? UInt64.size (lastSegment url.toList) with
  | none => simp
  | some n =>
    by_cases hzero : n = 0
    · simp only [hzero, if_true, reduceCtorEq, Option.some.injEq, false_iff]
      omega
    · simp only [hzero, if_false, Except.ok.injEq, Option.some.injEq]
      omega

theorem pos_of_number_eq_ok {url : String} {id : Nat} (h : number url = .ok id) : 0 < id :=
  (number_eq_ok_iff_unsigned.1 h).1

/-- There is one error for a URL without a number. -/
theorem number_eq_error {url : String} {error : SessionError} (h : number url = .error error) :
    error = .noTransactionId url := by
  unfold number at h
  split at h
  · split at h
    · cases h
      rfl
    · cases h
  · cases h
    rfl

/-! ## Last segments -/

/-- The slashes that are dropped at the end are those behind the last word. -/
theorem dropEndWhile_word {word slashes : List Char} (before : List Char) (hne : word ≠ [])
    (hslash : '/' ∉ word) (hslashes : ∀ c ∈ slashes, c = '/') :
    Text.dropEndWhile (· = '/') (before ++ word ++ slashes) = before ++ word := by
  have hlast : word.getLast hne ≠ '/' := fun h => hslash (h ▸ List.getLast_mem hne)
  rw [Text.dropEndWhile_append fun c hc => decide_eq_true (hslashes c hc),
    ← List.dropLast_concat_getLast hne, ← List.append_assoc]
  exact Text.dropEndWhile_of_not (decide_eq_false hlast)

/-- A word after a slash, or alone, is the last segment, whatever slashes follow it. -/
theorem lastSegment_eq {before word slashes : List Char}
    (hbefore : before = [] ∨ ∃ rest, before = rest ++ ['/']) (hne : word ≠ [])
    (hslash : '/' ∉ word) (hslashes : ∀ c ∈ slashes, c = '/') :
    lastSegment (before ++ word ++ slashes) = word := by
  have htrimmed := dropEndWhile_word before hne hslash hslashes
  rcases hbefore with rfl | ⟨rest, rfl⟩
  · have hcut : Text.cutLast '/' ([] ++ word) = none := Text.cutLast_eq_none_iff.2 hslash
    simp only [lastSegment, htrimmed, hcut]
    rfl
  · have hcut : Text.cutLast '/' (rest ++ ['/'] ++ word) = some (rest, word) :=
      Text.cutLast_eq_some_iff.2 ⟨by simp, hslash⟩
    simp only [lastSegment, htrimmed, hcut]

/-- Every text is its last segment, with what stands before a slash, and with slashes after it. -/
theorem exists_eq_lastSegment (url : List Char) :
    ∃ before slashes, url = before ++ lastSegment url ++ slashes ∧
      (before = [] ∨ ∃ rest, before = rest ++ ['/']) ∧ ∀ c ∈ slashes, c = '/' := by
  obtain ⟨slashes, hurl, hslashes⟩ := Text.exists_eq_dropEndWhile_append (· = '/') url
  have hall : ∀ c ∈ slashes, c = '/' := fun c hc => of_decide_eq_true (hslashes c hc)
  cases hcut : Text.cutLast '/' (Text.dropEndWhile (· = '/') url) with
  | none =>
    have hsegment : lastSegment url = Text.dropEndWhile (· = '/') url := by
      simp only [lastSegment, hcut]
    rw [hsegment]
    exact ⟨[], slashes, hurl, .inl rfl, hall⟩
  | some parts =>
    obtain ⟨before, segment⟩ := parts
    have hsegment : lastSegment url = segment := by simp only [lastSegment, hcut]
    have htrimmed := (Text.cutLast_eq_some_iff.1 hcut).1
    refine ⟨before ++ ['/'], slashes, ?_, .inr ⟨before, rfl⟩, hall⟩
    calc
      url = before ++ '/' :: segment ++ slashes := by rw [← htrimmed, ← hurl]
      _ = before ++ ['/'] ++ lastSegment url ++ slashes := by rw [hsegment]; simp

theorem lastSegment_append {before word : List Char} (hne : word ≠ []) (hslash : '/' ∉ word) :
    lastSegment (before ++ '/' :: word) = word := by
  have hnone : ∀ c ∈ ([] : List Char), c = '/' := nofun
  simpa using lastSegment_eq (.inr ⟨before, rfl⟩) hne hslash hnone

theorem toList_commit (url : String) :
    (url ++ Endpoint.commitSuffix).toList = url.toList ++ '/' :: "commit".toList := by
  rw [String.toList_append]
  rfl

theorem lastSegment_commit (url : String) :
    lastSegment (url ++ Endpoint.commitSuffix).toList = "commit".toList := by
  rw [toList_commit, lastSegment_append (by decide) (by decide)]

theorem lastSegment_transactionUrl (endpoint : Endpoint) :
    lastSegment endpoint.transactionUrl.toList = "tx".toList ∨
      lastSegment endpoint.transactionUrl.toList = "transaction".toList := by
  unfold Endpoint.transactionUrl
  cases endpoint.database? with
  | some database =>
    have hurl : (endpoint.baseUrl ++ "/db/" ++ database ++ "/tx").toList =
        (endpoint.baseUrl ++ "/db/" ++ database).toList ++ '/' :: "tx".toList := by
      rw [String.toList_append]
      rfl
    left
    simp only [hurl]
    exact lastSegment_append (by decide) (by decide)
  | none =>
    have hurl : (endpoint.baseUrl ++ "/db/data/transaction").toList =
        (endpoint.baseUrl.toList ++ "/db/data".toList) ++ '/' :: "transaction".toList := by
      rw [String.toList_append, List.append_assoc]
      rfl
    right
    simp only [hurl]
    exact lastSegment_append (by decide) (by decide)

theorem number_ne_ok {url : String}
    (hword : Text.unsigned? UInt64.size (lastSegment url.toList) = none) (id : Nat) :
    number url ≠ .ok id := by
  simp only [number, hword]
  exact nofun

theorem number_commit_ne_ok (url : String) (id : Nat) :
    number (url ++ Endpoint.commitSuffix) ≠ .ok id := by
  apply number_ne_ok
  rw [lastSegment_commit]
  decide

theorem number_transactionUrl_ne_ok (endpoint : Endpoint) (id : Nat) :
    number endpoint.transactionUrl ≠ .ok id := by
  apply number_ne_ok
  rcases lastSegment_transactionUrl endpoint with hsegment | hsegment
  · rw [hsegment]
    decide
  · rw [hsegment]
    decide

theorem transactionUrl_ne_commit (endpoint : Endpoint) (url : String) :
    endpoint.transactionUrl ≠ url ++ Endpoint.commitSuffix := by
  intro heq
  have hcommit := lastSegment_commit url
  rw [← heq] at hcommit
  rcases lastSegment_transactionUrl endpoint with hsegment | hsegment
  · rw [hsegment] at hcommit
    exact absurd hcommit (by decide)
  · rw [hsegment] at hcommit
    exact absurd hcommit (by decide)

/-! ## Names of transactions -/

/-- A number is spelled by a word. -/
theorem word_of_unsigned {limit n : Nat} {text : List Char}
    (h : Text.unsigned? limit text = some n) : text ≠ [] ∧ '/' ∉ text := by
  obtain ⟨sign, numeral, rfl, hsign, hnumeral, -⟩ := Text.unsigned?_eq_some_iff.1 h
  obtain ⟨hne, hdigits, -⟩ := Text.numeral?_eq_some_iff.1 hnumeral
  refine ⟨List.append_ne_nil_of_right_ne_nil sign hne, fun hmem => ?_⟩
  rcases List.mem_append.1 hmem with hmem | hmem
  · rcases hsign with rfl | rfl
    · cases hmem
    · exact absurd (List.mem_singleton.1 hmem) (by decide)
  · exact absurd (hdigits '/' hmem) (by decide)

/-- The URL names a transaction: its last segment, slashes at its end aside, is the number of the
transaction, not zero, in decimal digits, with a plus sign before them or not. -/
structure Names (url : String) (id : Nat) : Prop where
  pos : 1 ≤ id
  lt : id < UInt64.size
  spelled : ∃ before sign numeral slashes : List Char,
    url.toList = before ++ (sign ++ numeral) ++ slashes ∧
      (before = [] ∨ ∃ rest, before = rest ++ ['/']) ∧ (sign = [] ∨ sign = ['+']) ∧
      numeral ≠ [] ∧ (∀ c ∈ numeral, c.isDigit = true) ∧ Nat.ofDigitChars 10 numeral 0 = id ∧
      ∀ c ∈ slashes, c = '/'

/-- The URLs with a number are those that name a transaction. -/
theorem number_eq_ok_iff {url : String} {id : Nat} : number url = .ok id ↔ Names url id := by
  rw [number_eq_ok_iff_unsigned, Text.unsigned?_eq_some_iff]
  constructor
  · rintro ⟨hpos, sign, numeral, hsegment, hsign, hnumeral, hlt⟩
    obtain ⟨hne, hdigits, hvalue⟩ := Text.numeral?_eq_some_iff.1 hnumeral
    obtain ⟨before, slashes, hurl, hbefore, hslashes⟩ := exists_eq_lastSegment url.toList
    rw [hsegment] at hurl
    exact ⟨hpos, hlt, before, sign, numeral, slashes, hurl, hbefore, hsign, hne, hdigits, hvalue,
      hslashes⟩
  · rintro ⟨hpos, hlt, before, sign, numeral, slashes, hurl, hbefore, hsign, hne, hdigits, hvalue,
      hslashes⟩
    have hnumeral := Text.numeral?_eq_some_iff.2 ⟨hne, hdigits, hvalue⟩
    obtain ⟨hword, hslash⟩ :=
      word_of_unsigned (Text.unsigned?_eq_some_iff.2 ⟨sign, numeral, rfl, hsign, hnumeral, hlt⟩)
    have hsegment : lastSegment url.toList = sign ++ numeral := by
      rw [hurl]
      exact lastSegment_eq hbefore hword hslash hslashes
    exact ⟨hpos, sign, numeral, hsegment, hsign, hnumeral, hlt⟩

theorem number_of_not_names {url : String} (h : ¬∃ id, Names url id) :
    number url = .error (.noTransactionId url) := by
  cases hnumber : number url with
  | ok id => exact absurd ⟨id, number_eq_ok_iff.1 hnumber⟩ h
  | error error => rw [number_eq_error hnumber]

/-- A number written at the end of a URL is read back. -/
theorem names_append_toString (base : String) {id : Nat} (hpos : 1 ≤ id)
    (hlt : id < UInt64.size) : Names (base ++ "/" ++ toString id) id where
  pos := hpos
  lt := hlt
  spelled := by
    obtain ⟨hne, hdigits, hvalue⟩ := Text.numeral?_eq_some_iff.1 (Text.numeral?_digits id)
    refine ⟨(base ++ "/").toList, [], Text.digits id, [], ?_, .inr ⟨base.toList, ?_⟩, .inl rfl, hne,
      hdigits, hvalue, by simp⟩
    · rw [String.toList_append, Nat.toString_eq_repr, Nat.toList_repr]
      simp [Text.digits]
    · rw [String.toList_append]
      rfl

/-! ## Segments -/

def segments (url : String) : List (List Char) := url.toList.splitOn '/'

def withoutSlashes (url : String) : String :=
  String.ofList (Text.dropEndWhile (· = '/') url.toList)

theorem segments_commit (url : String) :
    segments (url ++ Endpoint.commitSuffix) = segments url ++ ["commit".toList] := by
  have hword : "commit".toList.splitOn '/' = ["commit".toList] :=
    List.splitOn_eq_singleton (by decide)
  rw [segments, toList_commit, List.splitOn_append_cons_self, hword, segments]

/-- Every slash at the end of a text makes an empty segment. -/
theorem splitOn_append_slashes (text : List Char) (count : Nat) :
    (text ++ List.replicate count '/').splitOn '/' =
      text.splitOn '/' ++ List.replicate count [] := by
  induction count with
  | zero => simp
  | succ count ih =>
    rw [List.replicate_succ', List.replicate_succ', ← List.append_assoc, ← List.append_assoc, ← ih]
    exact (List.splitOn_append_cons_self _ []).trans (by rw [List.splitOn_nil])

/-- The segments of the URL of a transaction are some that come first, its number as the URL spells
it, and an empty one for each slash at the end. -/
theorem exists_segments_of_number {url : String} {id : Nat} (h : number url = .ok id) :
    ∃ front spelling slashes, Text.unsigned? UInt64.size spelling = some id ∧
      url = withoutSlashes url ++ String.ofList (List.replicate slashes '/') ∧
      segments (withoutSlashes url) = front ++ [spelling] ∧
      segments url = front ++ spelling :: List.replicate slashes [] ∧
      (slashes = 0 ↔ url.toList.getLast? ≠ some '/') := by
  obtain ⟨-, hspelling⟩ := number_eq_ok_iff_unsigned.1 h
  obtain ⟨before, slashes, hurl, hbefore, hslashes⟩ := exists_eq_lastSegment url.toList
  generalize lastSegment url.toList = spelling at hspelling hurl
  obtain ⟨hne, hslash⟩ := word_of_unsigned hspelling
  obtain ⟨count, rfl⟩ : ∃ count, slashes = List.replicate count '/' :=
    ⟨_, List.eq_replicate_iff.2 ⟨rfl, hslashes⟩⟩
  have hplain : (withoutSlashes url).toList = before ++ spelling := by
    rw [withoutSlashes, String.toList_ofList, hurl, dropEndWhile_word before hne hslash hslashes]
  obtain ⟨front, hfront⟩ : ∃ front, segments (withoutSlashes url) = front ++ [spelling] := by
    rw [segments, hplain]
    rcases hbefore with rfl | ⟨rest, rfl⟩
    · exact ⟨[], List.splitOn_eq_singleton hslash⟩
    · rw [List.append_assoc, List.singleton_append, List.splitOn_append_cons_self,
        List.splitOn_eq_singleton hslash]
      exact ⟨_, rfl⟩
  refine ⟨front, spelling, count, hspelling, ?_, hfront, ?_, ?_⟩
  · rw [← String.toList_inj, String.toList_append, String.toList_ofList, hplain, hurl]
  · rw [segments, hurl, splitOn_append_slashes, ← hplain]
    change segments (withoutSlashes url) ++ _ = _
    rw [hfront, List.append_assoc]
    rfl
  · rw [hurl]
    cases count with
    | zero =>
      have hlast : spelling.getLast? ≠ some '/' := fun hlast => hslash (List.mem_of_getLast? hlast)
      simpa [hne] using hlast
    | succ count => simp [List.replicate_succ']

/-! ## Requests that commit -/

/-- A request to the URL commits: the URL ends in the suffix for that. -/
def Commits (url : String) : Prop := ∃ resource, url = resource ++ Endpoint.commitSuffix

/-- A URL with a number does not commit. -/
theorem not_commits_of_number {url : String} {id : Nat} (hnumber : number url = .ok id) :
    ¬Commits url := by
  rintro ⟨resource, rfl⟩
  exact number_commit_ne_ok resource id hnumber

theorem not_commits_transactionUrl (endpoint : Endpoint) : ¬Commits endpoint.transactionUrl := by
  rintro ⟨resource, heq⟩
  exact transactionUrl_ne_commit endpoint resource heq

theorem commits_autocommitUrl (endpoint : Endpoint) : Commits endpoint.autocommitUrl :=
  ⟨endpoint.transactionUrl, rfl⟩

/-- Without the suffix that commits a URL is what stands before it; a URL that does not end so stays
as it is. -/
theorem stripCommit_eq_iff {commit url : String} :
    stripCommit commit = url ↔
      commit = url ++ Endpoint.commitSuffix ∨ (¬Commits commit ∧ commit = url) := by
  have hends (resource : String) : commit = resource ++ Endpoint.commitSuffix ↔
      Text.stripEnd Endpoint.commitSuffix.toList commit.toList = some resource.toList := by
    rw [Text.stripEnd_eq_some_iff, ← String.toList_append, String.toList_inj]
  unfold stripCommit
  cases hstrip : Text.stripEnd Endpoint.commitSuffix.toList commit.toList with
  | some stripped =>
    have hcommits : Commits commit :=
      ⟨String.ofList stripped, (hends _).2 (by rw [hstrip, String.toList_ofList])⟩
    rw [hends, hstrip, Option.some_inj]
    simp only [hcommits, not_true_eq_false, false_and, or_false]
    constructor
    · rintro rfl
      exact (String.toList_ofList).symm
    · rintro rfl
      exact String.ofList_toList
  | none =>
    have hplain : ¬Commits commit := by
      rintro ⟨resource, hresource⟩
      rw [hends, hstrip] at hresource
      cases hresource
    rw [hends, hstrip]
    simp only [hplain, not_false_eq_true, true_and, reduceCtorEq, false_or]

/-! ## Requests for a transaction -/

/-- A request is for the transaction with a URL: it goes there, or commits it. -/
def IsFor (requested url : String) : Prop :=
  requested = url ∨ requested = url ++ Endpoint.commitSuffix

variable {url : String} {id : Nat}

theorem not_isFor_transactionUrl (hnumber : number url = .ok id) (endpoint : Endpoint) :
    ¬IsFor endpoint.transactionUrl url := by
  rintro (heq | heq)
  · rw [← heq] at hnumber
    exact number_transactionUrl_ne_ok endpoint id hnumber
  · exact transactionUrl_ne_commit endpoint url heq

theorem not_isFor_autocommitUrl (hnumber : number url = .ok id) (endpoint : Endpoint) :
    ¬IsFor endpoint.autocommitUrl url := by
  rintro (heq | heq)
  · rw [← heq] at hnumber
    exact number_commit_ne_ok endpoint.transactionUrl id hnumber
  · rw [← (String.append_left_inj _).1 heq] at hnumber
    exact number_transactionUrl_ne_ok endpoint id hnumber

/-- A request is for one transaction at most. -/
theorem eq_of_isFor {other requested : String} {otherId : Nat} (hnumber : number url = .ok id)
    (hother : number other = .ok otherId) (h : IsFor requested url) (h' : IsFor requested other) :
    other = url := by
  rcases h with rfl | rfl <;> rcases h' with heq | heq
  · exact heq.symm
  · rw [heq] at hnumber
    exact absurd hnumber (number_commit_ne_ok other id)
  · rw [← heq] at hother
    exact absurd hother (number_commit_ne_ok url otherId)
  · exact ((String.append_left_inj _).1 heq).symm

end CypherSession.TransactionUrl
