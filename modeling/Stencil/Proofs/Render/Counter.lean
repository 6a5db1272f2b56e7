import Stencil.Proofs.Render.Contract

/-!
# A counter of depth

Depth can be kept in a counter, which is raised before the body of a block is evaluated, lowered
after it, and compared with the limit before it is raised.  An evaluation of this kind is a state
monad over runs.  It follows a run when the same things happen, the counter tells at every step how
many bodies have been begun and not ended, and it comes back to where it was.
-/

namespace Stencil

/-- Whether an event begins the evaluation of a body. -/
def Event.isEntry : Event → Bool
  | .entered => true
  | _ => false

/-- Whether an event ends the evaluation of a body. -/
def Event.isExit : Event → Bool
  | .left => true
  | _ => false

/-- Whether an event leaves the number of bodies that are being evaluated as it is. -/
def Event.IsFlat (event : Event) : Prop := event.isEntry = false ∧ event.isExit = false

/-- A step of an evaluation that keeps a counter of depth. -/
structure Step where
  /-- What happens. -/
  event : Event
  /-- The counter after it. -/
  depth : Nat

/-- What an evaluation that keeps a counter of depth comes to. -/
structure Counted (α : Type) where
  /-- What happened, in order, each with the counter after it. -/
  steps : List Step
  /-- The result, or what stopped the evaluation. -/
  outcome : Except Problem α
  /-- The counter at the end, however the evaluation ended. -/
  depth : Nat

/-- An evaluation that reads and changes a counter of depth. -/
def Counting (α : Type) := Nat → Counted α

namespace Counting

/-- An evaluation that leaves the counter alone. -/
def ofRun (run : Run α) : Counting α := fun depth =>
  ⟨run.events.map fun event => ⟨event, depth⟩, run.outcome, depth⟩

/-- One evaluation after the other; the second one finds the counter as the first one left it. -/
protected def bind (counting : Counting α) (next : α → Counting β) : Counting β := fun depth =>
  let first := counting depth
  match first.outcome with
  | .error problem => ⟨first.steps, .error problem, first.depth⟩
  | .ok result =>
    let later := next result first.depth
    ⟨first.steps ++ later.steps, later.outcome, later.depth⟩

instance : Monad Counting where
  pure result := ofRun (pure result)
  bind := Counting.bind

/-- Evaluate for each item in turn and collect the results. -/
def collect (each : α → Counting β) : List α → Counting (List β)
  | [] => pure []
  | item :: items => do
    let result ← each item
    let results ← collect each items
    return result :: results

/-- Evaluate a body, unless the counter has reached the limit. -/
def nested (limit : Nat) (refusal : Run α) (inside : Counting α) : Counting α := fun depth =>
  if limit ≤ depth then
    ofRun refusal depth
  else
    let ended := inside (depth + 1)
    ⟨⟨.entered, depth + 1⟩ :: ended.steps ++ [⟨.left, ended.depth - 1⟩], ended.outcome,
      ended.depth - 1⟩

end Counting

/-- Steps along which a counter goes from one depth to another, and never above a limit.  It is
raised where a body is begun, lowered where one is ended, and left alone otherwise. -/
inductive Step.Leads (limit : Nat) : Nat → List Step → Nat → Prop where
  | nil {depth : Nat} : Leads limit depth [] depth
  | cons
    {depth last : Nat}
    {step : Step}
    {steps : List Step}
    (moves : step.depth + (if step.event.isExit then 1 else 0) =
      depth + (if step.event.isEntry then 1 else 0))
    (low : step.depth ≤ limit)
    (later : Leads limit step.depth steps last) : Leads limit depth (step :: steps) last

namespace Step.Leads

variable {limit depth middle last : Nat} {steps others : List Step}

theorem append
    (first : Leads limit depth steps middle)
    (second : Leads limit middle others last) : Leads limit depth (steps ++ others) last := by
  induction first with
  | nil => exact second
  | cons moves low later inductionHypothesis => exact .cons moves low (inductionHypothesis second)

/-- A body is evaluated one level deeper. -/
theorem nested
    (low : depth < limit)
    (inside : Leads limit (depth + 1) steps (depth + 1)) :
    Leads limit depth (⟨.entered, depth + 1⟩ :: steps ++ [⟨.left, depth⟩]) depth :=
  .cons rfl low (inside.append (.cons rfl (Nat.le_of_lt low) .nil))

theorem map
    (low : depth ≤ limit)
    {events : List Event}
    (flat : ∀ event ∈ events, event.IsFlat) :
    Leads limit depth (events.map fun event => ⟨event, depth⟩) depth := by
  induction events with
  | nil => exact .nil
  | cons event events inductionHypothesis =>
    have later := inductionHypothesis fun other member =>
      flat other (List.mem_cons_of_mem event member)
    obtain ⟨noEntry, noExit⟩ := flat event List.mem_cons_self
    exact .cons (by rw [noEntry, noExit]) low later

/-- At every step the counter tells how many bodies are being evaluated: it has grown by those that
were begun and not ended. -/
theorem depth_eq
    (leads : Leads limit depth steps last)
    {before after : List Step}
    {step : Step}
    (split : steps = before ++ step :: after) :
    let past := (before ++ [step]).map Step.event
    step.depth + past.countP Event.isExit = depth + past.countP Event.isEntry ∧
      step.depth ≤ limit := by
  induction leads generalizing before with
  | nil =>
    exact absurd split.symm (List.append_ne_nil_of_right_ne_nil before (List.cons_ne_nil _ _))
  | @cons depth last first steps moves low later inductionHypothesis =>
    cases before with
    | nil =>
      obtain ⟨rfl, -⟩ := List.cons.inj split
      refine ⟨?_, low⟩
      simp only [List.nil_append, List.map_singleton, List.countP_singleton]
      exact moves
    | cons other before =>
      obtain ⟨rfl, rest⟩ := List.cons.inj split
      obtain ⟨level, bounded⟩ := inductionHypothesis rest
      refine ⟨?_, bounded⟩
      simp only [List.cons_append, List.map_cons, List.countP_cons] at level ⊢
      omega

end Step.Leads

/-- Whether an evaluation with a counter does what a run does, and brings the counter back to where
it was. -/
structure Counting.Follows
    (counting : Counting α)
    (limit depth : Nat)
    (run : Run α) : Prop where
  events_eq : (counting depth).steps.map Step.event = run.events
  outcome_eq : (counting depth).outcome = run.outcome
  depth_eq : (counting depth).depth = depth
  leads : Step.Leads limit depth (counting depth).steps depth

namespace Counting.Follows

variable {limit depth : Nat}

theorem ofRun
    (low : depth ≤ limit)
    {run : Run α}
    (flat : run.Records Event.IsFlat) :
    (Counting.ofRun run).Follows limit depth run where
  events_eq := by
    rw [Counting.ofRun, List.map_map]
    exact List.map_id _
  outcome_eq := rfl
  depth_eq := rfl
  leads := .map low flat

theorem pure (low : depth ≤ limit) (result : α) :
    (Pure.pure result : Counting α).Follows limit depth (Pure.pure result) :=
  .ofRun low (.pure result)

/-- An evaluation finds the counter as an earlier one found it. -/
theorem bind
    {counting : Counting α}
    {run : Run α}
    {next : α → Counting β}
    {runNext : α → Run β}
    (first : counting.Follows limit depth run)
    (later : ∀ result, run.outcome = .ok result →
      (next result).Follows limit depth (runNext result)) :
    (counting >>= next).Follows limit depth (run >>= runNext) := by
  have events := first.events_eq
  have outcome := first.outcome_eq
  have back := first.depth_eq
  have leads := first.leads
  change (Counting.bind counting next).Follows limit depth _
  cases ends : run.outcome with
  | error problem =>
    rw [ends] at outcome
    have same : Counting.bind counting next depth =
        ⟨(counting depth).steps, .error problem, (counting depth).depth⟩ := by
      rw [Counting.bind, outcome]
    rw [Run.bind_of_error _ ends]
    exact ⟨by rw [same, events], by rw [same], by rw [same, back], by rwa [same]⟩
  | ok result =>
    rw [ends] at outcome
    have rest := later result ends
    have same : Counting.bind counting next depth =
        ⟨(counting depth).steps ++ (next result depth).steps, (next result depth).outcome,
          (next result depth).depth⟩ := by
      simp only [Counting.bind, outcome, back]
    rw [Run.bind_of_ok _ ends]
    refine ⟨?_, ?_, ?_, ?_⟩
    · rw [same, List.map_append, events, rest.events_eq]
    · rw [same, rest.outcome_eq]
    · rw [same, rest.depth_eq]
    · rw [same]
      exact leads.append rest.leads

theorem collect
    (low : depth ≤ limit)
    {each : α → Counting β}
    {runEach : α → Run β}
    {items : List α}
    (all : ∀ item ∈ items, (each item).Follows limit depth (runEach item)) :
    (Counting.collect each items).Follows limit depth (Run.collect runEach items) := by
  induction items with
  | nil => exact .pure low []
  | cons item items inductionHypothesis =>
    have later := inductionHypothesis fun other member =>
      all other (List.mem_cons_of_mem item member)
    exact (all item List.mem_cons_self).bind fun _ _ => later.bind fun _ _ => .pure low _

/-- A body beyond the limit is refused. -/
theorem refused
    (low : depth ≤ limit)
    (high : limit ≤ depth)
    {refusal : Run α}
    (flat : refusal.Records Event.IsFlat)
    (inside : Counting α) : (Counting.nested limit refusal inside).Follows limit depth refusal := by
  have same : Counting.nested limit refusal inside depth = Counting.ofRun refusal depth :=
    if_pos high
  obtain ⟨events, outcome, back, leads⟩ := Counting.Follows.ofRun low flat
  rw [← same] at events outcome back leads
  exact ⟨events, outcome, back, leads⟩

/-- A body within the limit is evaluated one level deeper, and the counter is lowered again however
the evaluation ends. -/
theorem nested
    (low : depth < limit)
    {refusal : Run α}
    {inside : Counting α}
    {run : Run α}
    (follows : inside.Follows limit (depth + 1) run) :
    (Counting.nested limit refusal inside).Follows limit depth (Run.within run) := by
  have same : Counting.nested limit refusal inside depth =
      ⟨⟨.entered, depth + 1⟩ :: (inside (depth + 1)).steps ++ [⟨.left, depth⟩],
        (inside (depth + 1)).outcome, depth⟩ := by
    simp only [Counting.nested, if_neg (Nat.not_le_of_lt low), follows.depth_eq,
      Nat.add_sub_cancel]
  refine ⟨?_, ?_, ?_, ?_⟩
  · rw [same, List.map_append, List.map_cons, follows.events_eq]
    rfl
  · rw [same]
    exact follows.outcome_eq
  · rw [same]
  · rw [same]
    exact .nested low follows.leads

end Counting.Follows
end Stencil
