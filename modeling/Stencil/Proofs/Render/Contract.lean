import Stencil.Render.Run

/-!
# What a run records and what it ends with

Two properties of a run are followed through a rendering: that everything it records is of a certain
sort, whether it goes through or is stopped, and that it ends with nothing but a result of a certain
sort.  Each way of putting runs together has its rule.
-/

namespace Stencil
namespace Run

/-- Whether a run records only events of a certain sort. -/
def Records (allowed : Event → Prop) (run : Run α) : Prop := ∀ event ∈ run.events, allowed event

/-- Whether a run, if it goes through, ends with a result of a certain sort. -/
def Ends (promised : α → Prop) (run : Run α) : Prop :=
  ∀ result, run.outcome = .ok result → promised result

namespace Records

variable {allowed : Event → Prop}

theorem pure (result : α) : (Pure.pure result : Run α).Records allowed :=
  fun _ member => absurd member List.not_mem_nil

theorem record {event : Event} (here : allowed event) : (Run.record event).Records allowed := by
  intro other member
  rwa [List.mem_singleton.mp member]

theorem report
    {problem : Problem}
    (here : allowed (.failed problem))
    (stops : Bool) : (Run.report stops problem).Records allowed := by
  intro other member
  rwa [List.mem_singleton.mp member]

/-- A run may depend on the result of an earlier one. -/
theorem bind
    {run : Run α}
    {next : α → Run β}
    (first : run.Records allowed)
    (later : ∀ result, run.outcome = .ok result → (next result).Records allowed) :
    (run >>= next).Records allowed := by
  cases ends : run.outcome with
  | error problem =>
    rw [bind_of_error next ends]
    exact first
  | ok result =>
    rw [bind_of_ok next ends]
    intro event member
    rcases List.mem_append.mp member with early | late
    · exact first event early
    · exact later result ends event late

/-- What happens after a run comes from the run that follows it. -/
theorem exists_events_bind
    (run : Run α)
    {next : α → Run β}
    (later : ∀ result, (next result).Records allowed) :
    ∃ more, (run >>= next).events = run.events ++ more ∧ ∀ event ∈ more, allowed event := by
  cases ends : run.outcome with
  | error problem =>
    rw [bind_of_error next ends]
    exact ⟨[], (List.append_nil _).symm, fun _ member => absurd member List.not_mem_nil⟩
  | ok result =>
    rw [bind_of_ok next ends]
    exact ⟨(next result).events, rfl, later result⟩

theorem within
    {run : Run α}
    (entered : allowed .entered)
    (left : allowed .left)
    (inside : run.Records allowed) : (Run.within run).Records allowed := by
  intro event member
  simp only [Run.within, List.cons_append, List.mem_cons, List.mem_append, List.not_mem_nil,
    or_false] at member
  rcases member with rfl | here | rfl
  · exact entered
  · exact inside event here
  · exact left

theorem collect
    {each : α → Run β}
    {items : List α}
    (all : ∀ item ∈ items, (each item).Records allowed) :
    (Run.collect each items).Records allowed := by
  induction items with
  | nil => exact .pure []
  | cons item items inductionHypothesis =>
    have later := inductionHypothesis fun other member =>
      all other (List.mem_cons_of_mem item member)
    exact (all item List.mem_cons_self).bind fun _ _ => later.bind fun _ _ => .pure _

theorem forAll
    {each : α → Run Unit}
    {items : List α}
    (all : ∀ item ∈ items, (each item).Records allowed) :
    (Run.forAll each items).Records allowed := by
  induction items with
  | nil => exact .pure ()
  | cons item items inductionHypothesis =>
    have later := inductionHypothesis fun other member =>
      all other (List.mem_cons_of_mem item member)
    exact (all item List.mem_cons_self).bind fun _ _ => later

end Records

namespace Ends

variable {promised : α → Prop}

theorem pure {result : α} (here : promised result) : (Pure.pure result : Run α).Ends promised := by
  intro other ends
  rwa [← Except.ok.inj ends]

/-- The last run decides; it may depend on the result of an earlier one. -/
theorem bind
    {run : Run β}
    {next : β → Run α}
    (later : ∀ result, run.outcome = .ok result → (next result).Ends promised) :
    (run >>= next).Ends promised := by
  intro last ends
  cases outcome : run.outcome with
  | error problem =>
    rw [bind_of_error next outcome] at ends
    exact nomatch ends
  | ok result =>
    rw [bind_of_ok next outcome] at ends
    exact later result outcome last ends

theorem within {run : Run α} (inside : run.Ends promised) : (Run.within run).Ends promised :=
  inside

theorem collect
    {each : β → Run α}
    {items : List β}
    (all : ∀ item ∈ items, (each item).Ends promised) :
    (Run.collect each items).Ends fun results => ∀ result ∈ results, promised result := by
  induction items with
  | nil => exact .pure fun _ member => absurd member List.not_mem_nil
  | cons item items inductionHypothesis =>
    have later := inductionHypothesis fun other member =>
      all other (List.mem_cons_of_mem item member)
    refine .bind fun result ends => .bind fun results othersEnd => .pure ?_
    intro other member
    rcases List.mem_cons.mp member with rfl | member
    · exact all item List.mem_cons_self other ends
    · exact later results othersEnd other member

end Ends
end Run
end Stencil
