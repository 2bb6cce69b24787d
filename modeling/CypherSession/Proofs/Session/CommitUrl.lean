import CypherSession.Proofs.Session.WellFormed

/-!
# Where commits go

A server commits what is sent to a URL that ends in the suffix for commits. The URL of a transaction
comes from the server too, so it could be one that commits; but a session holds no transaction
whose URL has no number at its end. Hence a request commits only if that is what was asked for: by a
commit, or by statements that are to run at once.

The commit of a transaction that is held goes to the URL of the transaction as the server gave it,
with the suffix. Slashes behind its number stay, and stand between the number and the suffix then.
-/

namespace CypherSession.Session

/-- The operation is to commit: it says so, or autocommit is on. -/
def Operation.AsksToCommit (session : Session) : Operation → Prop
  | commit _ => True
  | execute _ => session.autoCommit = true
  | setAutoCommit _ | begin | keepAlive | rollback | close => False

variable {session : Session}

theorem WellFormed.not_commits_url (h : session.WellFormed) {transaction : Transaction}
    (hheld : session.transaction? = some transaction) :
    ¬TransactionUrl.Commits transaction.url :=
  TransactionUrl.not_commits_of_number (h.identity transaction hheld).2

/-- A request that runs statements in a transaction never goes to a URL that commits. -/
theorem WellFormed.not_commits_runUrl (h : session.WellFormed) :
    ¬TransactionUrl.Commits (Exchange.runUrl session) := by
  unfold Exchange.runUrl
  cases hheld : session.transaction? with
  | none => exact TransactionUrl.not_commits_transactionUrl session.endpoint
  | some transaction => exact h.not_commits_url hheld

/-- A call commits exactly if its operation is to. -/
theorem Operation.Starts.commits_iff (h : session.WellFormed) {operation : Operation}
    {exchange : Exchange} (hstarts : operation.Starts session exchange) :
    TransactionUrl.Commits (exchange.call session).url ↔ operation.AsksToCommit session := by
  cases hstarts with
  | executeAtOnce _ _ hauto =>
    exact iff_of_true (TransactionUrl.commits_autocommitUrl session.endpoint) hauto
  | commitAtOnce =>
    exact iff_of_true (TransactionUrl.commits_autocommitUrl session.endpoint) trivial
  | begin => exact iff_of_false (TransactionUrl.not_commits_transactionUrl session.endpoint) id
  | executeNothing _ _ hauto =>
    refine iff_of_false (TransactionUrl.not_commits_transactionUrl session.endpoint) ?_
    exact Bool.eq_false_iff.1 hauto
  | execute _ _ hauto => exact iff_of_false h.not_commits_runUrl (Bool.eq_false_iff.1 hauto)
  | keepAlive => exact iff_of_false h.not_commits_runUrl id
  | @commit _ _ transaction => exact iff_of_true ⟨transaction.url, rfl⟩ trivial
  | rollback hheld | close hheld => exact iff_of_false (h.not_commits_url hheld) id

/-- **No commit by accident.** In every run, whatever URLs the server gives, a request goes to a URL
that commits exactly if its operation is a commit, or runs statements while autocommit is on. So
without autocommit nothing but a commit sends such a request, and nothing else requests the URL at
which statements are run and committed at once. -/
theorem commits_only_when_asked (endpoint : Endpoint) (config : SessionConfig)
    (events : List Event) :
    ∀ met ∈ (start endpoint config).trace events, ∀ call ∈ met.1.calls met.2,
      (TransactionUrl.Commits call.url ↔ met.2.operation.AsksToCommit met.1) ∧
      (met.1.autoCommit = false → (∀ descriptors, met.2.operation ≠ .commit descriptors) →
        ¬TransactionUrl.Commits call.url ∧ call.url ≠ endpoint.autocommitUrl) := by
  intro met hmet call hcall
  obtain ⟨past, -, -, hsession⟩ := Run.exists_afterAll_of_mem_trace hmet
  have hwellFormed : met.1.WellFormed := by
    rw [hsession]
    exact (wellFormed_start endpoint config).afterAll past
  obtain ⟨exchange, hstarts, rfl⟩ := exists_starts_of_mem_calls hcall
  have hcommits := hstarts.commits_iff hwellFormed
  refine ⟨hcommits, ?_⟩
  intro hauto hcommit
  have hunasked : ¬met.2.operation.AsksToCommit met.1 := by
    cases hoperation : met.2.operation with
    | commit descriptors => exact absurd hoperation (hcommit descriptors)
    | execute descriptors => exact Bool.eq_false_iff.1 hauto
    | setAutoCommit | begin | keepAlive | rollback | close => exact id
  have hharmless := mt hcommits.1 hunasked
  refine ⟨hharmless, ?_⟩
  intro heq
  rw [heq] at hharmless
  exact hharmless (TransactionUrl.commits_autocommitUrl endpoint)

/-- The URL of a transaction, as one would spell it that is to look like one that commits. -/
def misleadingUrl : String := "http://other/commit/+9//"

/-- A server calls a transaction by a misleading URL: keeping it alive does not commit it. -/
theorem commits_only_when_asked_of_misleading_url :
    let answer (operation : Operation) (location? : Option String) : Event :=
      ⟨operation, .replied (.answered { status := 200, location?, body := "" })⟩
    let held := (start sampleEndpoint sampleConfig).after (answer .begin (some misleadingUrl))
    let renewed := held.after (answer .keepAlive none)
    held.autoCommit = false ∧
      held.calls (answer .keepAlive none) = [.post misleadingUrl .empty] ∧
      ¬TransactionUrl.Commits misleadingUrl ∧ misleadingUrl ≠ sampleEndpoint.autocommitUrl ∧
      renewed.calls (answer (.commit []) none) =
        [.post (misleadingUrl ++ Endpoint.commitSuffix) .empty] ∧
      TransactionUrl.Commits (misleadingUrl ++ Endpoint.commitSuffix) := by
  intro answer held renewed
  have hasked := commits_only_when_asked sampleEndpoint sampleConfig
    [answer .begin (some misleadingUrl), answer .keepAlive none, answer (.commit []) none]
  have hposts : held.calls (answer .keepAlive none) = [.post misleadingUrl .empty] := rfl
  have hcommits : renewed.calls (answer (.commit []) none) =
      [.post (misleadingUrl ++ Endpoint.commitSuffix) .empty] := rfl
  have hrenewal := hasked (held, answer .keepAlive none)
    (List.mem_cons_of_mem _ List.mem_cons_self) (.post misleadingUrl .empty)
    (by rw [hposts]; exact List.mem_cons_self)
  have hcommit := hasked (renewed, answer (.commit []) none)
    (List.mem_cons_of_mem _ (List.mem_cons_of_mem _ List.mem_cons_self))
    (.post (misleadingUrl ++ Endpoint.commitSuffix) .empty)
    (by rw [hcommits]; exact List.mem_cons_self)
  obtain ⟨hharmless, hother⟩ := hrenewal.2 rfl nofun
  exact ⟨rfl, hposts, hharmless, hother, hcommits, hcommit.1.2 trivial⟩

/-! ## Segments -/

/-- A commit of a transaction that is held makes a call unless something comes before it. -/
theorem WellFormed.mem_calls_commit_iff (h : session.WellFormed) {transaction : Transaction}
    (hheld : session.transaction? = some transaction) {descriptors : List Descriptor}
    {ending : Ending} {call : Call} :
    call ∈ session.calls ⟨.commit descriptors, ending⟩ ↔
      session.pending = false ∧ ∃ request, Request.ofDescriptors descriptors = .ok request ∧
        call = .post (transaction.url ++ Endpoint.commitSuffix) request := by
  have htransition := session.transition ⟨.commit descriptors, ending⟩
  have hexchange {request : Request} (hrequest : Request.ofDescriptors descriptors = .ok request) :
      (Operation.commit descriptors).exchange? session =
        some (.committing transaction request) := by
    simp only [Operation.exchange?, hrequest, hheld]
  generalize hoperation : Operation.commit descriptors = operation,
    session.after ⟨.commit descriptors, ending⟩ = next,
    session.result? ⟨.commit descriptors, ending⟩ = result?,
    session.calls ⟨.commit descriptors, ending⟩ = calls at htransition hexchange ⊢
  cases htransition with
  | closed hclosed =>
    have hnone := h.transaction_of_closed hclosed
    rw [hheld] at hnone
    cases hnone
  | reported _ hpending => simp [hpending]
  | unsendable _ _ hrequest =>
    subst hoperation
    have hunsendable : Request.ofDescriptors descriptors = .error _ := hrequest
    simp [hunsendable]
  | nothing _ _ hrequest hnone =>
    subst hoperation
    rw [hexchange hrequest] at hnone
    cases hnone
  | paused _ hpending hstarted | replied _ hpending hstarted =>
    subst hoperation
    have hready := hpending (by rintro ⟨⟩)
    cases Operation.starts_of_exchange? hstarted with
    | commitAtOnce hrequest _ hnone =>
      rw [hheld] at hnone
      cases hnone
    | commit hrequest hsame =>
      rw [hheld] at hsame
      cases hsame
      simp [hready, hrequest, Exchange.call]
  | closedAgain | switched | unswitched | shut => cases hoperation

/-- **Where a transaction that is held is committed.** In every run, however the server spelled the
URL of the transaction, its commit makes one request, unless an abandoned call is to be reported
first or the statements cannot be sent. It goes to the URL of the transaction as it is, followed by
`/commit`. So the segments there end with the number of the transaction as the server spelled it, an
empty one for each slash at the end of the transaction's URL, and `commit`. The number and `commit`
are the last two, and the URL is the one without slashes at its end, followed by `/commit`, exactly
if the transaction's URL does not end in a slash. -/
theorem commit_posts_below_url (endpoint : Endpoint) (config : SessionConfig)
    (events : List Event) :
    ∀ met ∈ (start endpoint config).trace events, ∀ descriptors transaction,
      met.2.operation = .commit descriptors → met.1.transaction? = some transaction →
      let plain := TransactionUrl.withoutSlashes transaction.url
      let committing := transaction.url ++ Endpoint.commitSuffix
      (∀ call, call ∈ met.1.calls met.2 ↔ met.1.pending = false ∧
        ∃ request, Request.ofDescriptors descriptors = .ok request ∧
          call = .post committing request) ∧
      ∃ front spelling slashes, Text.unsigned? UInt64.size spelling = some transaction.id ∧
        transaction.url = plain ++ String.ofList (List.replicate slashes '/') ∧
        TransactionUrl.segments (plain ++ Endpoint.commitSuffix) =
          front ++ [spelling, "commit".toList] ∧
        TransactionUrl.segments committing =
          front ++ spelling :: (List.replicate slashes [] ++ ["commit".toList]) ∧
        (committing = plain ++ Endpoint.commitSuffix ↔
          transaction.url.toList.getLast? ≠ some '/') ∧
        ([spelling, "commit".toList] <:+ TransactionUrl.segments committing ↔
          transaction.url.toList.getLast? ≠ some '/') := by
  rintro ⟨session, ⟨operation, ending⟩⟩ hmet descriptors transaction rfl hheld plain committing
  obtain ⟨past, -, -, hsession⟩ := Run.exists_afterAll_of_mem_trace hmet
  have h : session.WellFormed := by
    rw [show session = _ from hsession]
    exact (wellFormed_start endpoint config).afterAll past
  refine ⟨fun call => h.mem_calls_commit_iff hheld, ?_⟩
  obtain ⟨front, spelling, slashes, hspelling, hurl, hplain, hsegments, hlast⟩ :=
    TransactionUrl.exists_segments_of_number (h.identity transaction hheld).2
  obtain ⟨hne, -⟩ := TransactionUrl.word_of_unsigned hspelling
  have hcommitting : TransactionUrl.segments committing =
      front ++ spelling :: (List.replicate slashes [] ++ ["commit".toList]) := by
    rw [TransactionUrl.segments_commit, hsegments, List.append_assoc, List.cons_append]
  refine ⟨front, spelling, slashes, hspelling, hurl, ?_, hcommitting, ?_, ?_⟩
  · rw [TransactionUrl.segments_commit, hplain, List.append_assoc]
    rfl
  · rw [← hlast, String.append_left_inj]
    constructor
    · intro hsame
      have hslashes : plain = plain ++ String.ofList (List.replicate slashes '/') :=
        hsame.symm.trans hurl
      simpa using congrArg (fun url => url.toList.length) hslashes
    · rintro rfl
      simpa using hurl
  · rw [← hlast, hcommitting]
    cases slashes with
    | zero => simp
    | succ count =>
      -- The segment before the last one is empty, and the number is not.
      have hempty : front ++ spelling :: (List.replicate (count + 1) [] ++ ["commit".toList]) =
          (front ++ spelling :: List.replicate count []) ++ [[], "commit".toList] := by
        simp [List.replicate_succ']
      refine iff_of_false ?_ (Nat.succ_ne_zero count)
      rintro ⟨more, hmore⟩
      rw [hempty] at hmore
      have hlasts := List.append_inj_right' hmore rfl
      exact hne (List.cons.inj hlasts).1

def spelledOpening : Event where
  operation := .begin
  ending := .replied (.answered {
    status := 200
    body := "\x7b\"commit\":\"http://h/tx/+09/commit\"\x7d" })

/-- The number is committed as it is spelled. -/
theorem commit_posts_below_url_spelled :
    let held := (start sampleEndpoint sampleConfig).after spelledOpening
    let committing : Event := ⟨.commit [], .abandoned⟩
    held.transaction? = some ⟨9, "http://h/tx/+09", none⟩ ∧
      .post "http://h/tx/+09/commit" .empty ∈ held.calls committing ∧
      ∃ spelling, Text.unsigned? UInt64.size spelling = some 9 ∧
        [spelling, "commit".toList] <:+ TransactionUrl.segments "http://h/tx/+09/commit" := by
  intro held committing
  have hheld : held.transaction? = some ⟨9, "http://h/tx/+09", none⟩ := rfl
  obtain ⟨hcalls, front, spelling, slashes, hspelling, -, -, -, -, hlast⟩ :=
    commit_posts_below_url sampleEndpoint sampleConfig [spelledOpening, committing]
      (held, committing) (List.mem_cons_of_mem _ List.mem_cons_self) [] _ rfl hheld
  exact ⟨hheld, (hcalls _).2 ⟨rfl, .empty, rfl, rfl⟩, spelling, hspelling, hlast.2 (by decide)⟩

def slashedOpening : Event where
  operation := .begin
  ending := .replied (.answered { status := 201, location? := some (sampleUrl ++ "/"), body := "" })

/-- A slash behind the number leaves an empty segment between it and `commit`. -/
theorem commit_posts_behind_empty_segment :
    let held := (start sampleEndpoint sampleConfig).after slashedOpening
    let posted := sampleUrl ++ "//commit"
    held.transaction? = some ⟨9, sampleUrl ++ "/", none⟩ ∧
      held.calls ⟨.commit [], .abandoned⟩ = [.post posted .empty] ∧
      posted ≠ TransactionUrl.withoutSlashes (sampleUrl ++ "/") ++ Endpoint.commitSuffix ∧
      ["9".toList, [], "commit".toList] <:+ TransactionUrl.segments posted :=
  ⟨rfl, rfl, by decide +kernel, by decide +kernel⟩

end CypherSession.Session
