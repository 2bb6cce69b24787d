import CypherSession.Run
import CypherSession.Session.Basic

/-!
# Runs of a session

The operations of a session as data, and what an operation does to a session when its call ends in
one way or another.
-/

namespace CypherSession.Session

inductive Operation where
  | setAutoCommit (enabled : Bool)
  | begin
  | execute (descriptors : List Descriptor)
  | keepAlive
  | commit (descriptors : List Descriptor)
  | rollback
  | close

def Operation.step (operation : Operation) (session : Session) :
    Step Session (Except SessionError (List Envelope)) :=
  let none (result : Except SessionError Unit) : Except SessionError (List Envelope) :=
    result.map fun _ => []
  match operation with
  | setAutoCommit enabled =>
    match session.setAutoCommit enabled with
    | .ok session => .done session (.ok [])
    | .error error => .done session (.error error)
  | begin => session.begin.map none
  | execute descriptors => session.execute descriptors
  | keepAlive => session.keepAlive.map none
  | commit descriptors => session.commit descriptors
  | rollback => session.rollback.map none
  | close => session.close.map none

abbrev Event : Type := Run.Event Operation

variable (session : Session)

abbrev after (event : Event) : Session := Run.after Operation.step session event

abbrev result? (event : Event) : Option (Except SessionError (List Envelope)) :=
  Run.result? Operation.step session event

abbrev calls (event : Event) : List Call := Run.calls Operation.step session event

abbrev afterAll (events : List Event) : Session := Run.afterAll Operation.step session events

abbrev allCalls (events : List Event) : List Call := Run.allCalls Operation.step session events

abbrev trace (events : List Event) : List (Session × Event) :=
  Run.trace Operation.step session events

theorem afterAll_cons (event : Event) (rest : List Event) :
    session.afterAll (event :: rest) = (session.after event).afterAll rest :=
  rfl

theorem allCalls_cons (event : Event) (rest : List Event) :
    session.allCalls (event :: rest) =
      session.calls event ++ (session.after event).allCalls rest :=
  rfl

end CypherSession.Session
