import Stencil.Render.Run

/-!
# Runs in a row

What comes out of runs one after the other, and of one run for each item of a list, depends only on
the runs: not on how the list is put together, nor on whether its items or the results are changed
before or after.
-/

namespace Stencil
namespace Run

/-- Two runs in a row go through when both of them do. -/
theorem exists_of_bind_ok
    {run : Run α}
    {next : α → Run β}
    {result : β}
    (ends : (run >>= next).outcome = .ok result) :
    ∃ between, run.outcome = .ok between ∧ (next between).outcome = .ok result := by
  cases outcome : run.outcome with
  | error problem =>
    rw [bind_of_error next outcome] at ends
    exact nomatch ends
  | ok between =>
    rw [bind_of_ok next outcome] at ends
    exact ⟨between, rfl, ends⟩

/-- What follows a run only has to agree on the result of the run. -/
theorem bind_congr
    {run : Run α}
    {next other : α → Run β}
    (same : ∀ result, run.outcome = .ok result → next result = other result) :
    (run >>= next) = (run >>= other) := by
  cases ends : run.outcome with
  | error problem => rw [bind_of_error next ends, bind_of_error other ends]
  | ok result => rw [bind_of_ok next ends, bind_of_ok other ends, same result ends]

/-- Changing the result of a run is not something that happens. -/
theorem events_bind_pure (run : Run α) (change : α → β) :
    (run >>= fun result => pure (change result)).events = run.events := by
  cases ends : run.outcome with
  | error problem => rw [bind_of_error _ ends]
  | ok result =>
    rw [bind_of_ok _ ends]
    exact List.append_nil _

theorem collect_congr
    {left right : α → Run β}
    {items : List α}
    (agree : ∀ item ∈ items, left item = right item) :
    collect left items = collect right items := by
  induction items with
  | nil => rfl
  | cons item items inductionHypothesis =>
    have later := inductionHypothesis fun other member =>
      agree other (List.mem_cons_of_mem item member)
    rw [collect, collect, agree item List.mem_cons_self, later]

theorem collect_append (each : α → Run β) (left right : List α) :
    collect each (left ++ right) = do
      let front ← collect each left
      let back ← collect each right
      return front ++ back := by
  induction left with
  | nil => simp [collect]
  | cons item items inductionHypothesis =>
    rw [List.cons_append, collect, collect, inductionHypothesis]
    simp only [bind_assoc, pure_bind, List.cons_append]

theorem forAll_map (change : α → β) (each : β → Run Unit) (items : List α) :
    forAll each (items.map change) = forAll (fun item => each (change item)) items := by
  induction items with
  | nil => rfl
  | cons item items inductionHypothesis => rw [List.map_cons, forAll, forAll, inductionHypothesis]

theorem collect_map (change : α → β) (each : β → Run γ) (items : List α) :
    collect each (items.map change) = collect (fun item => each (change item)) items := by
  induction items with
  | nil => rfl
  | cons item items inductionHypothesis =>
    rw [List.map_cons, collect, collect, inductionHypothesis]

theorem collect_pure (change : α → β) (items : List α) :
    collect (fun item => pure (change item)) items = pure (items.map change) := by
  induction items with
  | nil => rfl
  | cons item items inductionHypothesis =>
    rw [collect, inductionHypothesis]
    simp only [pure_bind, List.map_cons]

theorem collect_bind_pure (change : β → γ) (each : α → Run β) (items : List α) :
    collect (fun item => do return change (← each item)) items = do
      return (← collect each items).map change := by
  induction items with
  | nil => rfl
  | cons item items inductionHypothesis =>
    rw [collect, collect, inductionHypothesis]
    simp only [bind_assoc, pure_bind, List.map_cons]

end Run
end Stencil
