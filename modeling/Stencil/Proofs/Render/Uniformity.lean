import Stencil.Render.Run

/-!
# Uniform runs

A family of runs is uniform when the same things happen in all of them, and either all of them go
through or the same problem stops them all.  Their results need not be the same; a condition on the
family of results says how they are related.  Each way of putting runs together has its rule.
-/

namespace Stencil
namespace Run

/-- Runs that record the same events and have the same outcome, up to results that together meet a
condition. -/
inductive Uniform {ι : Type} (fits : (ι → α) → Prop) : (ι → Run α) → Prop where
  /-- All runs go through. -/
  | through (events : List Event) {results : ι → α} (fit : fits results) :
    Uniform fits fun index => ⟨events, .ok (results index)⟩
  /-- All runs are stopped by one problem. -/
  | stopped (events : List Event) (problem : Problem) :
    Uniform fits fun _ => ⟨events, .error problem⟩

namespace Uniform

variable
  {ι : Type}
  {fits : (ι → α) → Prop}

theorem pure
    {results : ι → α}
    (fit : fits results) : Uniform fits fun index => (Pure.pure (results index) : Run α) :=
  .through [] fit

/-- Runs that are all the same are uniform. -/
theorem constant
    (run : Run α)
    (fit : ∀ result, fits fun _ => result) : Uniform fits fun _ => run := by
  obtain ⟨events, outcome⟩ := run
  cases outcome with
  | ok result => exact .through events (fit result)
  | error problem => exact .stopped events problem

/-- What is known of the results of each run can be used. -/
theorem consequence
    {runs : ι → Run α}
    {wanted : (ι → α) → Prop}
    (uniform : Uniform fits runs)
    (follows : ∀ results, (∀ index, (runs index).outcome = .ok (results index)) →
      fits results → wanted results) : Uniform wanted runs := by
  cases uniform with
  | through events fit => exact .through events (follows _ (fun _ => rfl) fit)
  | stopped events problem => exact .stopped events problem

/-- The same events can be put in front of all runs. -/
theorem prepend
    {runs : ι → Run α}
    (events : List Event)
    (uniform : Uniform fits runs) :
    Uniform fits fun index => ⟨events ++ (runs index).events, (runs index).outcome⟩ := by
  cases uniform with
  | through more fit => exact .through (events ++ more) fit
  | stopped more problem => exact .stopped (events ++ more) problem

theorem bind
    {runs : ι → Run α}
    {next : ι → α → Run β}
    {nextFits : (ι → β) → Prop}
    (uniform : Uniform fits runs)
    (nextUniform : ∀ results, fits results →
      Uniform nextFits fun index => next index (results index)) :
    Uniform nextFits fun index => runs index >>= next index := by
  cases uniform with
  | stopped events problem => exact .stopped events problem
  | @through events results fit =>
    have joined (index : ι) : ((⟨events, .ok (results index)⟩ : Run α) >>= next index) =
        ⟨events ++ (next index (results index)).events, (next index (results index)).outcome⟩ :=
      bind_of_ok _ rfl
    simp only [joined]
    exact (nextUniform results fit).prepend events

/-- Uniform runs are equal where their results are. -/
theorem eq_of_fits
    {runs : ι → Run α}
    (uniform : Uniform fits runs)
    {left right : ι}
    (same : ∀ results, fits results → results left = results right) : runs left = runs right := by
  cases uniform with
  | through events fit =>
    dsimp only
    rw [same _ fit]
  | stopped events problem => rfl

/-- A run that is the same for all may come first. -/
theorem bind_constant
    (run : Run α)
    {next : ι → α → Run β}
    {nextFits : (ι → β) → Prop}
    (nextUniform : ∀ result, Uniform nextFits fun index => next index result) :
    Uniform nextFits fun index => run >>= next index := by
  have uniform : Uniform (fun results => ∃ result, results = fun _ : ι => result) fun _ => run :=
    constant run fun result => ⟨result, rfl⟩
  refine uniform.bind fun results fit => ?_
  obtain ⟨result, rfl⟩ := fit
  exact nextUniform result

theorem within
    {runs : ι → Run α}
    (uniform : Uniform fits runs) : Uniform fits fun index => Run.within (runs index) := by
  cases uniform with
  | through events fit => exact .through (.entered :: events ++ [.left]) fit
  | stopped events problem => exact .stopped (.entered :: events ++ [.left]) problem

/-- Runs for the items of a list are uniform if they are so for each item. -/
theorem collect
    {each : ι → β → Run α}
    {items : List β}
    (uniform : ∀ item ∈ items, Uniform fits fun index => each index item) :
    Uniform
      (fun results => ∃ families : List (ι → α), (∀ family ∈ families, fits family) ∧
        results = fun index => families.map fun family => family index)
      fun index => Run.collect (each index) items := by
  induction items with
  | nil => exact .pure ⟨[], fun _ member => absurd member List.not_mem_nil, rfl⟩
  | cons item items inductionHypothesis =>
    have later := inductionHypothesis fun other member =>
      uniform other (List.mem_cons_of_mem item member)
    refine (uniform item List.mem_cons_self).bind fun results fit => ?_
    refine later.bind fun others othersFit => ?_
    obtain ⟨families, familiesFit, rfl⟩ := othersFit
    refine .pure ⟨results :: families, ?_, rfl⟩
    intro family member
    rcases List.mem_cons.mp member with rfl | member
    · exact fit
    · exact familiesFit family member

end Uniform
end Run
end Stencil
