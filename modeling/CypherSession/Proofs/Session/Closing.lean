import CypherSession.Proofs.Session.Abandoned

/-!
# Closing a session

Closing succeeds whatever becomes of the rollback that comes first, and of the endpoint. From then
on the session stays as it is: closing it again does nothing, and every other operation fails.
-/

namespace CypherSession.Session

def Operation.onClosed : Operation → Except SessionError (List Envelope)
  | close => .ok []
  | _ => .error .closed

variable {session : Session} {operation : Operation} {ending : Ending}

/-- An operation leaves a closed session as it is and sends nothing; only closing succeeds. -/
theorem still_of_closed (hclosed : session.phase = .closed) {next : Session}
    {result? : Option (Except SessionError (List Envelope))} {calls : List Call}
    (htransition : Transition session operation ending next result? calls) :
    next = session ∧ result? = some operation.onClosed ∧ calls = [] := by
  cases htransition with
  | closed _ hoperation =>
    refine ⟨rfl, ?_, rfl⟩
    cases operation with
    | close => exact absurd rfl hoperation
    | setAutoCommit | begin | execute | keepAlive | commit | rollback => rfl
  | closedAgain => exact ⟨rfl, rfl, rfl⟩
  | reported hopen | switched hopen | shut hopen | paused hopen | replied hopen =>
    exact absurd hclosed hopen
  | unsendable hready | nothing hready => exact absurd hclosed hready.isOpen
  | unswitched hheld =>
    rw [hclosed] at hheld
    cases hheld

theorem eq_of_mem_trace_of_closed (hclosed : session.phase = .closed) {events : List Event}
    {met : Session × Event} (hmet : met ∈ session.trace events) : met.1 = session := by
  refine Run.eq_of_mem_trace (fun event => ?_) hmet
  exact (still_of_closed hclosed (session.transition event)).1

theorem WellFormed.transition_close (h : session.WellFormed) {reply : Reply} {next : Session}
    {result? : Option (Except SessionError (List Envelope))} {calls : List Call}
    (htransition : Transition session .close (.replied reply) next result? calls) :
    result? = some (.ok []) ∧ next.phase = .closed ∧
      calls = (session.transaction?.map fun transaction => .delete transaction.url).toList := by
  by_cases hclosed : session.phase = .closed
  · obtain ⟨rfl, hresult, hcalls⟩ := still_of_closed hclosed htransition
    rw [h.transaction_of_closed hclosed]
    exact ⟨hresult, hclosed, hcalls⟩
  · exact closed_of_replied hclosed htransition

/-- Closing ends a session, whatever it has been through and whatever the reply. -/
theorem WellFormed.finish_close (h : session.WellFormed) (reply : Reply) :
    let closed := (session.close.finish (.replied reply)).1
    (session.close.finish (.replied reply)).2 = some (.ok ()) ∧
      session.close.calls =
        (session.transaction?.map fun transaction => .delete transaction.url).toList ∧
      closed.phase = .closed ∧ closed.transaction? = none := by
  intro closed
  let event : Event := ⟨.close, .replied reply⟩
  have hfinish := Step.finish_map session.close
    (fun result => result.map fun _ => ([] : List Envelope)) (.replied reply)
  have hafter : session.after event = closed := congrArg Prod.fst hfinish
  have hresult : session.result? event = _ := congrArg Prod.snd hfinish
  have hcalls : session.calls event = session.close.calls := Step.calls_map ..
  have hwellFormed := h.after event
  obtain ⟨hok, hphase, hdeletes⟩ := h.transition_close (session.transition event)
  rw [hafter] at hphase hwellFormed
  rw [hcalls] at hdeletes
  rw [hresult] at hok
  obtain ⟨result, hended, hnothing⟩ := Option.map_eq_some_iff.1 hok
  obtain ⟨_, rfl, -⟩ := Result.map_eq_ok_iff.1 hnothing
  exact ⟨hended, hdeletes, hphase, hwellFormed.transaction_of_closed hphase⟩

end CypherSession.Session
