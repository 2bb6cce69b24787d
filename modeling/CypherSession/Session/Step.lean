import CypherSession.Response.Decoded

/-!
# Steps

An operation of a session makes at most one call to the endpoint. A `Step` is such an operation,
started: it has ended already, or it waits for the reply to its call. While it waits it can be
abandoned; the state that it leaves behind then is the one in which it waits.
-/

namespace CypherSession

variable {σ τ α β γ ε : Type}

inductive Call where
  | post (url : String) (request : Request)
  | delete (url : String)

namespace Call

def url : Call → String
  | post url _ => url
  | delete url => url

def request : Call → Request
  | post _ request => request
  | delete _ => .empty

end Call

inductive Reply where
  | answered (response : RawResponse)
  | failed (error : TransportError)
  /-- No answer within the time that the session allows. -/
  | silent

/-- An operation that has been started, on states `σ` and with results `α`. -/
inductive Step (σ α : Type) where
  | done (state : σ) (result : α)
  /-- The operation waits in the state `paused`. -/
  | wait (paused : σ) (call : Call) (resume : Reply → σ × α)

inductive Ending where
  | replied (reply : Reply)
  | abandoned

namespace Step

def calls : Step σ α → List Call
  | done .. => []
  | wait _ call _ => [call]

def finish (ending : Ending) : Step σ α → σ × Option α
  | done state result => (state, some result)
  | wait paused _ resume =>
    match ending with
    | .replied reply =>
      let (state, result) := resume reply
      (state, some result)
    | .abandoned => (paused, none)

/-- Runs the operation with a peer, which has a state of its own and replies to every call. -/
def run (peer : ε → Call → ε × Reply) (memory : ε) : Step σ α → ε × σ × α
  | done state result => (memory, state, result)
  | wait _ call resume =>
    let (memory, reply) := peer memory call
    (memory, resume reply)

def lift (embed : σ → τ) : Step σ α → Step τ α
  | done state result => done (embed state) result
  | wait paused call resume =>
    wait (embed paused) call fun reply =>
      let (state, result) := resume reply
      (embed state, result)

def andThen (step : Step σ α) (atEnd : σ → α → σ × β) : Step σ β :=
  match step with
  | done state result =>
    let (state, result) := atEnd state result
    done state result
  | wait paused call resume =>
    wait paused call fun reply =>
      let (state, result) := resume reply
      atEnd state result

def map (step : Step σ α) (f : α → β) : Step σ β :=
  step.andThen fun state result => (state, f result)

@[simp] theorem calls_lift (embed : σ → τ) (step : Step σ α) :
    (step.lift embed).calls = step.calls := by
  cases step <;> rfl

@[simp] theorem calls_andThen (step : Step σ α) (atEnd : σ → α → σ × β) :
    (step.andThen atEnd).calls = step.calls := by
  cases step <;> rfl

@[simp] theorem calls_map (step : Step σ α) (f : α → β) : (step.map f).calls = step.calls :=
  calls_andThen ..

@[simp] theorem finish_lift (embed : σ → τ) (step : Step σ α) (ending : Ending) :
    (step.lift embed).finish ending =
      (embed (step.finish ending).1, (step.finish ending).2) := by
  cases step with
  | done => rfl
  | wait => cases ending <;> rfl

@[simp] theorem finish_map (step : Step σ α) (f : α → β) (ending : Ending) :
    (step.map f).finish ending = ((step.finish ending).1, (step.finish ending).2.map f) := by
  cases step with
  | done => rfl
  | wait => cases ending <;> rfl

theorem map_andThen (step : Step σ α) (f : σ → α → β) (g : β → γ) :
    (step.andThen fun state result => (state, f state result)).map g =
      step.andThen fun state result => (state, g (f state result)) := by
  cases step <;> rfl

theorem map_map (step : Step σ α) (f : α → β) (g : β → γ) :
    (step.map f).map g = step.map fun result => g (f result) := by
  cases step <;> rfl

theorem lift_map (step : Step σ α) (f : α → β) (embed : σ → τ) :
    (step.map f).lift embed = (step.lift embed).map f := by
  cases step <;> rfl

theorem lift_lift {υ : Type} (step : Step σ α) (embed : σ → τ) (embed' : τ → υ) :
    (step.lift embed).lift embed' = step.lift fun state => embed' (embed state) := by
  cases step <;> rfl

end Step

end CypherSession
