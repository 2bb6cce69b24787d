import CypherSession.Proofs.Session.Errors
import CypherSession.Proofs.Session.Report

/-!
# Abandoned calls

A session that an operation left waiting does not know what became of its call. It says so once: to
the next operation that needs to know, after which it is as a new session, but for its mode and for
how its last transaction ended. Changes of the mode come through unnoticed before that, and closing
needs not know. Nothing else is ever reported as abandoned.
-/

namespace CypherSession.Session

def Event.IsSwitch (event : Event) : Prop := ∃ enabled, event.operation = .setAutoCommit enabled

/-- As long as no call is abandoned, none is reported as abandoned. -/
def IsClear (session : Session) : Prop :=
  ∀ events, (∀ met ∈ session.trace events, met.1.result? met.2 ≠ none) →
    ∀ met ∈ session.trace events, ∀ detail,
      met.1.result? met.2 ≠ some (.error (.ambiguous "previous round trip" detail))

variable {session : Session} {operation : Operation} {ending : Ending} {exchange : Exchange}

/-! ## Waiting -/

theorem after_of_isSwitch {event : Event} (h : event.IsSwitch) :
    session.after event = { session with autoCommit := (session.after event).autoCommit } := by
  obtain ⟨operation, ending⟩ := event
  obtain ⟨enabled, rfl : operation = .setAutoCommit enabled⟩ := h
  have htransition := session.transition ⟨.setAutoCommit enabled, ending⟩
  generalize session.after ⟨.setAutoCommit enabled, ending⟩ = next, session.result? _ = result?,
    session.calls _ = calls at htransition ⊢
  cases htransition with
  | closed | switched | unswitched => rfl
  | reported _ _ hguarded | unsendable _ hguarded | nothing _ hguarded => exact hguarded.elim
  | paused _ _ hexchange | replied _ _ hexchange => cases hexchange

/-- Switching the mode, any number of times, changes nothing but the mode. -/
theorem afterAll_of_isSwitch {events : List Event} (h : ∀ event ∈ events, event.IsSwitch) :
    session.afterAll events =
      { session with autoCommit := (session.afterAll events).autoCommit } := by
  induction events generalizing session with
  | nil => rfl
  | cons event rest ih =>
    obtain ⟨hevent, hrest⟩ := List.forall_mem_cons.1 h
    let mode := ((session.after event).afterAll rest).autoCommit
    calc (session.after event).afterAll rest
        = { session.after event with autoCommit := mode } := ih hrest
      _ = { session with autoCommit := mode } :=
        congrArg (fun next : Session => { next with autoCommit := mode })
          (after_of_isSwitch hevent)

/-! ## The report -/

/-- A session that gives up its transaction is a new one, but for its mode and for the outcome that
it remembers. -/
theorem discard_eq_start (session : Session) :
    { session.discard with pending := false } =
      { start session.endpoint session.config with
        autoCommit := session.autoCommit
        lastOutcome? :=
          if session.transaction?.isSome then some .rolledBack else session.lastOutcome? } := by
  cases htransaction : session.transaction? with
  | none =>
    rw [discard_of_none htransaction, htransaction]
    rfl
  | some transaction =>
    rw [discard_of_held htransaction]
    rfl

/-- An abandoned call is reported by the first operation that needs an open session, and that
operation sends nothing. -/
theorem reported_of_pending (hopen : session.phase ≠ .closed) (hpending : session.pending = true)
    (hguarded : operation.IsGuarded) {next : Session}
    {result? : Option (Except SessionError (List Envelope))} {calls : List Call}
    (htransition : Transition session operation ending next result? calls) :
    result? = some (.error .abandoned) ∧ calls = [] ∧
      next = { session.discard with pending := false } := by
  cases htransition with
  | reported => exact ⟨rfl, rfl, rfl⟩
  | closed hclosed => exact absurd hclosed hopen
  | unsendable hready | nothing hready =>
    have hnotPending := hready.notPending
    rw [hpending] at hnotPending
    cases hnotPending
  | closedAgain | switched | unswitched | shut => exact hguarded.elim
  | paused _ hnotPending | replied _ hnotPending =>
    have hnotPending := hnotPending hguarded.ne_close
    rw [hpending] at hnotPending
    cases hnotPending

/-- Closing an open session sends what rolls its transaction back, and nothing else. -/
theorem closed_of_replied (hopen : session.phase ≠ .closed) {reply : Reply} {next : Session}
    {result? : Option (Except SessionError (List Envelope))} {calls : List Call}
    (htransition : Transition session .close (.replied reply) next result? calls) :
    result? = some (.ok []) ∧ next.phase = .closed ∧
      calls = (session.transaction?.map fun transaction => .delete transaction.url).toList := by
  cases htransition with
  | closed _ hclose => exact absurd rfl hclose
  | closedAgain hclosed => exact absurd hclosed hopen
  | reported _ _ hguarded | unsendable _ hguarded | nothing _ hguarded => exact hguarded.elim
  | shut _ hnone =>
    rw [hnone]
    exact ⟨rfl, rfl, rfl⟩
  | replied _ _ hexchange =>
    cases Operation.starts_of_exchange? hexchange with
    | close hheld =>
      rw [hheld]
      exact ⟨rfl, rfl, rfl⟩

/-! ## Nothing else is reported -/

theorem Operation.Starts.operation_ne (h : operation.Starts session exchange) :
    exchange.operation ≠ "previous round trip" := by
  cases h <;> simp [Exchange.operation]

/-- What an exchange reports of its own reply is never the report of an abandoned call. -/
theorem ne_abandoned_of_reports {reply : Reply} {result : Except SessionError (List Envelope)}
    (h : exchange.Reports (exchange.verdict session reply) result)
    (hoperation : exchange.operation ≠ "previous round trip") (detail : String) :
    result ≠ .error (.ambiguous "previous round trip" detail) := by
  rintro rfl
  rcases h.error_cases with (⟨cause, ⟨⟩⟩ | ⟨other, herror⟩) | ⟨other, ⟨⟩⟩ |
    ⟨decoded, serverError, -, hfailure | ⟨-, id, ⟨⟩⟩⟩
  · exact hoperation (SessionError.ambiguous.inj herror).1.symm
  · cases hfailure

/-- An operation that is not abandoned leaves no abandoned call behind where there was none, and
reports none. -/
theorem clear_of_transition (h : session.WellFormed) (hpending : session.pending = false)
    {next : Session} {result? : Option (Except SessionError (List Envelope))} {calls : List Call}
    (htransition : Transition session operation ending next result? calls)
    (hended : result? ≠ none) :
    next.pending = false ∧
      ∀ detail, result? ≠ some (.error (.ambiguous "previous round trip" detail)) := by
  cases htransition with
  | closed | closedAgain | switched | unswitched | nothing => exact ⟨hpending, nofun⟩
  | shut => exact ⟨rfl, nofun⟩
  | paused => exact absurd rfl hended
  | reported _ habandoned =>
    rw [hpending] at habandoned
    cases habandoned
  | unsendable _ _ hrequest =>
    obtain ⟨value, rfl⟩ := Operation.eq_nonFinite_of_request hrequest
    exact ⟨hpending, nofun⟩
  | @replied _ exchange reply _ _ hexchange =>
    have hstarts := Operation.starts_of_exchange? hexchange
    refine ⟨(ended_after h.held_iff hstarts reply).not_pending rfl, ?_⟩
    intro detail hresult
    by_cases hclose : operation = .close
    · subst hclose
      cases hstarts with
      | close => cases hresult
    · have hreports : exchange.Reports (exchange.verdict session reply)
          (exchange.after session reply).2 :=
        Exchange.reports_after (hstarts.ne_closing hclose) reply
      exact ne_abandoned_of_reports hreports hstarts.operation_ne detail (Option.some.inj hresult)

theorem isClear_of_not_pending (h : session.WellFormed) (hpending : session.pending = false) :
    session.IsClear := by
  intro events
  -- What carries the induction is that no event that ends leaves a call waiting.
  induction events generalizing session with
  | nil => exact fun _ _ => nofun
  | cons event rest ih =>
    intro hended met hmet
    have hevent : session.result? event ≠ none := hended _ List.mem_cons_self
    obtain ⟨hnext, hclear⟩ := clear_of_transition h hpending (session.transition event) hevent
    rcases List.mem_cons.1 hmet with rfl | hlater
    · exact hclear
    · exact ih (h.after event) hnext (fun other hother =>
        hended other (List.mem_cons_of_mem _ hother)) met hlater

/-- **An abandoned call is reported exactly once**, whatever changes of the mode come first: by the
next operation that needs to know what became of it. That one sends nothing, and it leaves the
session as a new one, but for the mode and the last outcome; so what comes after it goes as if no
call had ever been abandoned. A session that is closed instead sends no more than the rollback of
the transaction that it still holds. Without an abandoned call there is no such report. -/
theorem abandoned_reported_once (endpoint : Endpoint) (config : SessionConfig)
    (before : List Event) :
    let session := (start endpoint config).afterAll before
    (∀ event switches, session.result? event = none → (∀ switch ∈ switches, switch.IsSwitch) →
      let waiting := (session.after event).afterAll switches
      waiting.transaction? = session.transaction? ∧
      (∀ next : Event, next.operation.IsGuarded →
        waiting.result? next = some (.error .abandoned) ∧ waiting.calls next = [] ∧
        (waiting.after next).phase = .idle ∧ (waiting.after next).transaction? = none ∧
        waiting.after next =
          { start endpoint config with
            autoCommit := waiting.autoCommit
            lastOutcome? :=
              if waiting.transaction?.isSome then some .rolledBack else waiting.lastOutcome? } ∧
        (waiting.after next).IsClear) ∧
      ∀ reply,
        let closing : Event := ⟨.close, .replied reply⟩
        waiting.result? closing = some (.ok []) ∧ (waiting.after closing).phase = .closed ∧
          waiting.calls closing =
            (waiting.transaction?.map fun transaction => .delete transaction.url).toList) ∧
    (start endpoint config).IsClear := by
  intro session
  have hstart := wellFormed_start endpoint config
  refine ⟨?_, isClear_of_not_pending hstart rfl⟩
  intro event switches habandoned hswitches waiting
  have hwaiting : waiting.WellFormed :=
    ((hstart.afterAll before).after event).afterAll switches
  have horigin : (start endpoint config).SameOrigin waiting :=
    ((hstart.sameOrigin_afterAll before).trans
      ((hstart.afterAll before).sameOrigin_after event)).trans
        (((hstart.afterAll before).after event).sameOrigin_afterAll switches)
  obtain ⟨hopen, hpaused⟩ := paused_of_abandoned (session.transition event) habandoned
  have hsame : waiting = { session with pending := true, autoCommit := waiting.autoCommit } := by
    have hswitched : waiting = { session.after event with autoCommit := waiting.autoCommit } :=
      afterAll_of_isSwitch hswitches
    rw [hpaused] at hswitched
    exact hswitched
  clear_value waiting
  have hwaits : waiting.phase ≠ .closed := by
    rw [hsame]
    exact hopen
  have hpending : waiting.pending = true := congrArg Session.pending hsame
  refine ⟨by rw [hsame], ?_, ?_⟩
  · intro next hguarded
    obtain ⟨hresult, hcalls, hafter⟩ :=
      reported_of_pending hwaits hpending hguarded (waiting.transition next)
    have hnext := hwaiting.after next
    rw [discard_eq_start, horigin.1, horigin.2] at hafter
    have hidle : (waiting.after next).phase = .idle := by rw [hafter]; rfl
    have hnone : (waiting.after next).transaction? = none := by rw [hafter]; rfl
    have hclear := isClear_of_not_pending hnext (by rw [hafter]; rfl)
    exact ⟨hresult, hcalls, hidle, hnone, hafter, hclear⟩
  · intro reply closing
    exact closed_of_replied hwaits (waiting.transition closing)

/-- A request to keep a transaction alive is abandoned, and so is what opens the next one. -/
theorem abandoned_reported_once_then_clear :
    let session := (start sampleEndpoint sampleConfig).afterAll [sampleOpening]
    let abandoned : Event := ⟨.keepAlive, .abandoned⟩
    let switch : Event := ⟨.setAutoCommit true, .abandoned⟩
    let waiting := (session.after abandoned).after switch
    let next : Event := ⟨.execute [], .replied .silent⟩
    let closing : Event := ⟨.close, .replied .silent⟩
    session.result? abandoned = none ∧ switch.IsSwitch ∧ next.operation.IsGuarded ∧
      waiting.result? next = some (.error .abandoned) ∧ waiting.calls next = [] ∧
      waiting.after next =
        { start sampleEndpoint sampleConfig with lastOutcome? := some .rolledBack } ∧
      waiting.result? closing = some (.ok []) ∧ waiting.calls closing = [.delete sampleUrl] := by
  intro session abandoned switch waiting next closing
  have hswitch : switch.IsSwitch := ⟨true, rfl⟩
  obtain ⟨-, hreported, hclosed⟩ :=
    (abandoned_reported_once sampleEndpoint sampleConfig [sampleOpening]).1 abandoned [switch] rfl
      fun event hevent => List.mem_singleton.1 hevent ▸ hswitch
  obtain ⟨hresult, hcalls, -, -, hafter, -⟩ := hreported next trivial
  obtain ⟨hclosing, -, hdeleted⟩ := hclosed .silent
  exact ⟨rfl, hswitch, trivial, hresult, hcalls, hafter, hclosing, hdeleted⟩

end CypherSession.Session
