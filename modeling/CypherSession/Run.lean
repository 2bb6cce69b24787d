import CypherSession.Session.Step

/-!
# Runs

Operations that are started one after the other, each on the state that the one before it leaves.
The operations are data, and `step` says what each of them starts; so what a run keeps follows from
what one event keeps, whatever the system is.
-/

namespace CypherSession.Run

/-- An operation, and how the wait for its reply ends, should it have to wait. -/
structure Event (ω : Type) where
  operation : ω
  ending : Ending

variable {σ ω α : Type} (step : ω → σ → Step σ α)

def after (state : σ) (event : Event ω) : σ :=
  ((step event.operation state).finish event.ending).1

def result? (state : σ) (event : Event ω) : Option α :=
  ((step event.operation state).finish event.ending).2

def calls (state : σ) (event : Event ω) : List Call :=
  (step event.operation state).calls

def afterAll (state : σ) : List (Event ω) → σ
  | [] => state
  | event :: rest => afterAll (after step state event) rest

def allCalls (state : σ) : List (Event ω) → List Call
  | [] => []
  | event :: rest => calls step state event ++ allCalls (after step state event) rest

/-- The events of a run, each with the state that it meets. -/
def trace (state : σ) : List (Event ω) → List (σ × Event ω)
  | [] => []
  | event :: rest => (state, event) :: trace (after step state event) rest

variable {step} {state : σ} {events : List (Event ω)}

/-- Every state of a run is met after the events before it. -/
theorem exists_afterAll_of_mem_trace {met : σ × Event ω} (h : met ∈ trace step state events) :
    ∃ past rest, events = past ++ met.2 :: rest ∧ met.1 = afterAll step state past := by
  induction events generalizing state with
  | nil => cases h
  | cons event events ih =>
    rcases List.mem_cons.1 h with rfl | hlater
    · exact ⟨[], events, rfl, rfl⟩
    · obtain ⟨past, rest, hevents, hmet⟩ := ih hlater
      exact ⟨event :: past, rest, congrArg (event :: ·) hevents, hmet⟩

/-- What every event preserves, every run preserves. -/
theorem afterAll_of_after {property : σ → Prop}
    (hafter : ∀ state event, property state → property (after step state event))
    (h : property state) (events : List (Event ω)) : property (afterAll step state events) := by
  induction events generalizing state with
  | nil => exact h
  | cons event rest ih => exact ih (hafter state event h)

/-- If no event changes the state, every event of a run meets it. -/
theorem eq_of_mem_trace (hstill : ∀ event, after step state event = state) {met : σ × Event ω}
    (h : met ∈ trace step state events) : met.1 = state := by
  induction events with
  | nil => cases h
  | cons event rest ih =>
    rcases List.mem_cons.1 h with rfl | hlater
    · rfl
    · rw [hstill event] at hlater
      exact ih hlater

end CypherSession.Run
