import Stencil.Helper.Basic
import Stencil.Problem

/-!
# Runs

Rendering records what happens as a list of events and ends with a result, or with the problem that
stopped it.  Reports are read off the events, so whatever a report says can be traced to the place
that caused it.
-/

namespace Stencil

/-- Something that happens while a template is rendered. -/
inductive Event where
  /-- A path was found to have a value. -/
  | used (path : Text)
  /-- A variable or helper was found to be missing. -/
  | missing (path : Text)
  /-- A problem was found. -/
  | failed (problem : Problem)
  /-- Something was passed over. -/
  | noticed (notice : Notice)
  /-- A variable was put into the output. -/
  | substituted
  /-- A condition was decided. -/
  | decided
  /-- A loop was begun. -/
  | unrolled
  /-- A helper was called. -/
  | called (name : Text) (arguments : List Value) (answer : HelperAnswer)
  /-- The body of a block was entered. -/
  | entered
  /-- The body of a block was left. -/
  | left
deriving Repr

/-- A computation that records events and may be stopped by a problem. -/
structure Run (α : Type) where
  /-- What happened, in order. -/
  events : List Event
  /-- The result, or what stopped the run. -/
  outcome : Except Problem α

namespace Run

/-- A run in which nothing happens. -/
protected def pure (result : α) : Run α := ⟨[], .ok result⟩

/-- One run after the other; the second one depends on the result of the first. -/
protected def bind (run : Run α) (next : α → Run β) : Run β :=
  match run.outcome with
  | .error problem => ⟨run.events, .error problem⟩
  | .ok result => ⟨run.events ++ (next result).events, (next result).outcome⟩

instance : Monad Run where
  pure := Run.pure
  bind := Run.bind

/-- A run in which one thing happens. -/
def record (event : Event) : Run Unit := ⟨[event], .ok ()⟩

/-- A run that finds a problem, and is stopped by it if `stops` holds. -/
def report (stops : Bool) (problem : Problem) : Run Unit :=
  ⟨[.failed problem], if stops then .error problem else .ok ()⟩

/-- Run for each item in turn and collect the results. -/
def collect (run : α → Run β) : List α → Run (List β)
  | [] => pure []
  | item :: items => do
    let result ← run item
    let results ← collect run items
    return result :: results

/-- Run for each item in turn. -/
def forAll (run : α → Run Unit) : List α → Run Unit
  | [] => pure ()
  | item :: items => do
    run item
    forAll run items

/-- A run inside the body of a block.  The body is left however the run ends. -/
def within (run : Run α) : Run α := ⟨.entered :: run.events ++ [.left], run.outcome⟩

@[simp] theorem events_pure (result : α) : (pure result : Run α).events = [] := rfl

@[simp] theorem outcome_pure (result : α) : (pure result : Run α).outcome = .ok result := rfl

theorem bind_of_ok
    {run : Run α}
    {result : α}
    (next : α → Run β)
    (ends : run.outcome = .ok result) :
    (run >>= next) = ⟨run.events ++ (next result).events, (next result).outcome⟩ := by
  change Run.bind run next = _
  simp [Run.bind, ends]

theorem bind_of_error
    {run : Run α}
    {problem : Problem}
    (next : α → Run β)
    (stopped : run.outcome = .error problem) :
    (run >>= next) = ⟨run.events, .error problem⟩ := by
  change Run.bind run next = _
  simp [Run.bind, stopped]

/-- Runs can be grouped at will, and a run in which nothing happens changes nothing. -/
instance : LawfulMonad Run := by
  refine LawfulMonad.mk' Run ?_ ?_ ?_
  · intro α run
    obtain ⟨events, outcome⟩ := run
    cases outcome <;> simp [Functor.map, Run.bind, Run.pure]
  · intro α β result next
    change Run.bind (Run.pure result) next = next result
    simp [Run.bind, Run.pure]
  · intro α β γ run next last
    obtain ⟨events, outcome⟩ := run
    cases outcome with
    | error problem => rfl
    | ok result =>
      change Run.bind (Run.bind _ next) last = Run.bind _ fun value => Run.bind (next value) last
      simp only [Run.bind]
      cases (next result).outcome <;> simp

end Run
end Stencil
