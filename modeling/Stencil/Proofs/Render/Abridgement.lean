import Stencil.Proofs.Source.Outline
import Stencil.Render.Evaluation

/-!
# Strict runs abridge lenient runs

A strict and a lenient evaluation of one text do the same until the first problem.  The strict one
stops there, leaving the bodies it is in; the lenient one records the problem in its own way and
goes on.  Abridgement is this relation between two runs.  It is preserved by every way of putting
runs together, and so it holds of the evaluation of every template.
-/

namespace Stencil

/-- Whether an event is one that a strict run survives. -/
def Event.isHarmless : Event → Bool
  | .missing _ => false
  | .failed _ => false
  | .noticed (.notIterable _) => false
  | _ => true

namespace Problem

/-- Whether a lenient run records a problem as an error, rather than as something missing or
passed over. -/
def isError : Problem → Bool
  | .missingVariable _ => false
  | .missingHelper _ => false
  | .notIterable _ => false
  | _ => true

/-- What a strict run records of the problem that stops it. -/
def stoppingEvents (problem : Problem) : List Event :=
  match problem with
  | .missingVariable path => [.missing path, .failed problem]
  | .missingHelper name => [.missing name, .failed problem]
  | _ => [.failed problem]

/-- What a lenient run records of the same problem before it goes on. -/
def passingEvents (problem : Problem) : List Event :=
  match problem with
  | .missingVariable path => [.missing path]
  | .missingHelper name => [.missing name]
  | .notIterable path => [.noticed (.notIterable path)]
  | _ => [.failed problem]

theorem stoppingEvents_of_isError
    {problem : Problem}
    (isError : problem.isError) : problem.stoppingEvents = [.failed problem] := by
  cases problem <;> first | rfl | simp [Problem.isError] at isError

theorem passingEvents_of_isError
    {problem : Problem}
    (isError : problem.isError) : problem.passingEvents = [.failed problem] := by
  cases problem <;> first | rfl | simp [Problem.isError] at isError

end Problem

namespace Run

/-- A strict run abridges a lenient one when both go through in the same way without a problem, or
when they are alike up to a problem that stops the strict one. -/
inductive Abridges : Run α → Run α → Prop where
  /-- Nothing happens that a strict run does not survive. -/
  | through
    {events : List Event}
    {result : α}
    (harmless : ∀ event ∈ events, event.isHarmless) :
    Abridges ⟨events, .ok result⟩ ⟨events, .ok result⟩
  /-- The strict run is stopped and only leaves the bodies it is in. -/
  | stopped
    (before leaving after : List Event)
    (problem : Problem)
    (result : α)
    (harmless : ∀ event ∈ before, event.isHarmless)
    (leaves : ∀ event ∈ leaving, event = .left) :
    Abridges
      ⟨before ++ problem.stoppingEvents ++ leaving, .error problem⟩
      ⟨before ++ problem.passingEvents ++ after, .ok result⟩

namespace Abridges

theorem pure (result : α) : Abridges (Pure.pure result : Run α) (Pure.pure result) :=
  .through (by simp)

theorem record
    {event : Event}
    (harmless : event.isHarmless) : Abridges (Run.record event) (Run.record event) :=
  .through (by simpa using harmless)

/-- A problem that is an error is recorded alike, and only the strict run is stopped by it. -/
theorem report
    {problem : Problem}
    (isError : problem.isError) :
    Abridges (Run.report true problem) (Run.report false problem) := by
  have strict : (Run.report true problem) =
      ⟨[] ++ problem.stoppingEvents ++ [], .error problem⟩ := by
    simp [Run.report, Problem.stoppingEvents_of_isError isError]
  have lenient : (Run.report false problem) =
      ⟨[] ++ problem.passingEvents ++ [], .ok ()⟩ := by
    simp [Run.report, Problem.passingEvents_of_isError isError]
  rw [strict, lenient]
  exact .stopped [] [] [] problem () (by simp) (by simp)

/-- The lenient run never fails. -/
theorem lenient_ok
    {strict lenient : Run α}
    (abridges : Abridges strict lenient) : ∃ result, lenient.outcome = .ok result := by
  cases abridges with
  | through => exact ⟨_, rfl⟩
  | stopped => exact ⟨_, rfl⟩

/-- A stretch without a problem can be put in front of both runs. -/
theorem prepend
    {strict lenient : Run α}
    {events : List Event}
    (harmless : ∀ event ∈ events, event.isHarmless)
    (abridges : Abridges strict lenient) :
    Abridges ⟨events ++ strict.events, strict.outcome⟩
      ⟨events ++ lenient.events, lenient.outcome⟩ := by
  cases abridges with
  | through harmlessRest =>
    refine .through fun event member => ?_
    rcases List.mem_append.mp member with early | late
    · exact harmless event early
    · exact harmlessRest event late
  | stopped before leaving after problem result harmlessRest leaves =>
    have stopping : ∀ event ∈ events ++ before, event.isHarmless := by
      intro event member
      rcases List.mem_append.mp member with early | late
      · exact harmless event early
      · exact harmlessRest event late
    simpa only [List.append_assoc] using
      Abridges.stopped (events ++ before) leaving after problem result stopping leaves

/-- Runs that depend on the results of related runs are related. -/
theorem bind
    {strict lenient : Run α}
    {strictNext lenientNext : α → Run β}
    (abridges : Abridges strict lenient)
    (next : ∀ result, Abridges (strictNext result) (lenientNext result)) :
    Abridges (strict >>= strictNext) (lenient >>= lenientNext) := by
  cases abridges with
  | @through events result harmless =>
    rw [bind_of_ok strictNext rfl, bind_of_ok lenientNext rfl]
    exact (next result).prepend harmless
  | stopped before leaving after problem result harmless leaves =>
    obtain ⟨value, ends⟩ := (next result).lenient_ok
    rw [bind_of_error strictNext rfl, bind_of_ok lenientNext rfl, ends,
      List.append_assoc _ after]
    exact .stopped before leaving _ problem value harmless leaves

/-- Entering and leaving the body of a block keeps runs related. -/
theorem within
    {strict lenient : Run α}
    (abridges : Abridges strict lenient) :
    Abridges (Run.within strict) (Run.within lenient) := by
  have entering : ∀ event ∈ [Event.entered], event.isHarmless := by simp [Event.isHarmless]
  cases abridges with
  | @through events result harmless =>
    refine .through fun event member => ?_
    simp only [List.cons_append, List.mem_cons, List.mem_append, List.not_mem_nil,
      or_false] at member
    rcases member with rfl | inside | rfl
    · rfl
    · exact harmless event inside
    · rfl
  | stopped before leaving after problem result harmless leaves =>
    have left : ∀ event ∈ leaving ++ [Event.left], event = .left := by
      intro event member
      rcases List.mem_append.mp member with inside | last
      · exact leaves event inside
      · exact List.mem_singleton.mp last
    have stopped :=
      Abridges.stopped before (leaving ++ [.left]) (after ++ [.left]) problem result harmless left
    have entered := stopped.prepend entering
    simpa only [Run.within, List.append_assoc, List.singleton_append, List.cons_append,
      List.nil_append] using entered

theorem collect
    {strict lenient : α → Run β}
    (items : List α)
    (each : ∀ item ∈ items, Abridges (strict item) (lenient item)) :
    Abridges (Run.collect strict items) (Run.collect lenient items) := by
  induction items with
  | nil => exact .pure []
  | cons item items inductionHypothesis =>
    refine (each item List.mem_cons_self).bind fun result => ?_
    refine (inductionHypothesis fun other member => ?_).bind fun results => .pure _
    exact each other (List.mem_cons_of_mem item member)

theorem forAll
    {strict lenient : α → Run Unit}
    (items : List α)
    (each : ∀ item ∈ items, Abridges (strict item) (lenient item)) :
    Abridges (Run.forAll strict items) (Run.forAll lenient items) := by
  induction items with
  | nil => exact .pure ()
  | cons item items inductionHypothesis =>
    refine (each item List.mem_cons_self).bind fun _ => ?_
    exact inductionHypothesis fun other member => each other (List.mem_cons_of_mem item member)

end Abridges
end Run

namespace Environment

/-- The same environment for a strict or for a lenient rendering. -/
def withStrict (environment : Environment) (strict : Bool) : Environment :=
  { environment with options := { environment.options with strict := strict } }

theorem helpers_withStrict (environment : Environment) (strict : Bool) :
    (environment.withStrict strict).helpers = environment.helpers := rfl

variable (environment : Environment)

/-- Two ways of evaluating bodies, of which the first one abridges the second one. -/
def BodiesAbridge (strict lenient : BodyEvaluator) : Prop :=
  ∀ body scopes, Run.Abridges (strict body scopes) (lenient body scopes)

theorem report_abridges
    {problem : Problem}
    (isError : problem.isError) :
    Run.Abridges ((environment.withStrict true).report problem)
      ((environment.withStrict false).report problem) :=
  .report isError

/-- A missing variable is a problem for the strict run, which stops right after recording it. -/
theorem reportMissing_variable_abridges (path : Text) :
    Run.Abridges
      ((environment.withStrict true).reportMissing path (.missingVariable path))
      ((environment.withStrict false).reportMissing path (.missingVariable path)) :=
  .stopped [] [] [] (.missingVariable path) () (by simp) (by simp)

theorem reportMissing_helper_abridges (name : Text) :
    Run.Abridges
      ((environment.withStrict true).reportMissing name (.missingHelper name))
      ((environment.withStrict false).reportMissing name (.missingHelper name)) :=
  .stopped [] [] [] (.missingHelper name) () (by simp) (by simp)

theorem argument_abridges (scope : Scope) (word : Text) :
    Run.Abridges (argument scope word) (argument scope word) := by
  unfold argument
  cases scope.lookup? word with
  | some value => exact (Run.Abridges.record rfl).bind fun _ => .pure value
  | none =>
    cases Word.unquote? word with
    | some literal => exact .pure _
    | none =>
      dsimp only
      split <;> exact .pure _

theorem call_abridges (name : Text) (helper : Helper) (words : List Text) (scope : Scope) :
    Run.Abridges ((environment.withStrict true).call name helper words scope)
      ((environment.withStrict false).call name helper words scope) := by
  unfold call
  refine (Run.Abridges.collect words fun word _ => argument_abridges scope word).bind
    fun arguments => ?_
  refine (Run.Abridges.record rfl).bind fun _ => ?_
  cases (helper arguments).toExcept with
  | ok value => exact .pure (some value)
  | error message => exact (report_abridges environment rfl).bind fun _ => .pure none

theorem field_abridges (path : Text) (scope : Scope) :
    Run.Abridges ((environment.withStrict true).field path scope)
      ((environment.withStrict false).field path scope) := by
  unfold field
  cases (scope.lookup? path).filter fun value => !value.isNull with
  | some value =>
    refine (Run.Abridges.record rfl).bind fun _ => ?_
    exact (Run.Abridges.record rfl).bind fun _ => .pure _
  | none => exact (reportMissing_variable_abridges environment path).bind fun _ => .pure _

theorem callText_abridges (name : Text) (words : List Text) (scope : Scope) :
    Run.Abridges ((environment.withStrict true).callText name words scope)
      ((environment.withStrict false).callText name words scope) := by
  unfold callText
  rw [helpers_withStrict, helpers_withStrict]
  cases environment.helpers.get? name with
  | none => exact (reportMissing_helper_abridges environment name).bind fun _ => .pure []
  | some helper =>
    exact (call_abridges environment name helper words scope).bind fun _ => .pure _

theorem condition_abridges (path : Text) (words : List Text) (scope : Scope) :
    Run.Abridges ((environment.withStrict true).condition path words scope)
      ((environment.withStrict false).condition path words scope) := by
  unfold condition
  split
  · cases scope.lookup? path with
    | some value => exact (Run.Abridges.record rfl).bind fun _ => .pure _
    | none => exact .pure _
  · rw [helpers_withStrict, helpers_withStrict]
    cases environment.helpers.get? path with
    | none => exact (reportMissing_helper_abridges environment path).bind fun _ => .pure false
    | some helper =>
      exact (call_abridges environment path helper words scope).bind fun _ => .pure _

section Bodies

variable {strict lenient : BodyEvaluator}

/-- A loop over something that is not a list stops the strict run and is passed over by the lenient
one, which is the only place where the two take different ways. -/
theorem loop_abridges
    (bodies : BodiesAbridge strict lenient)
    (path : Text)
    (body : Body)
    (scope : Scope) :
    Run.Abridges ((environment.withStrict true).loop strict path body scope)
      ((environment.withStrict false).loop lenient path body scope) := by
  unfold loop
  split
  · next items _ =>
    refine (Run.Abridges.record rfl).bind fun _ => ?_
    exact (Run.Abridges.record rfl).bind fun _ => bodies body (loopScopes scope items)
  · exact .stopped [] [] [] (.notIterable path) [] (by simp) (by simp)

theorem branch_abridges
    (bodies : BodiesAbridge strict lenient)
    (wanted : Bool)
    (path : Text)
    (words : List Text)
    (body : Body)
    (alternative? : Option Body)
    (scope : Scope) :
    Run.Abridges
      ((environment.withStrict true).branch strict wanted path words body alternative? scope)
      ((environment.withStrict false).branch lenient wanted path words body alternative?
        scope) := by
  unfold branch
  refine (condition_abridges environment path words scope).bind fun holds => ?_
  refine (Run.Abridges.record rfl).bind fun _ => ?_
  cases if holds = wanted then some body else alternative? with
  | some chosen => exact bodies chosen [scope]
  | none => exact .pure []

theorem token_abridges
    (bodies : BodiesAbridge strict lenient)
    (scope : Scope)
    (token : Token) :
    Run.Abridges ((environment.withStrict true).token strict scope token)
      ((environment.withStrict false).token lenient scope token) := by
  unfold Environment.token
  cases token.form with
  | field path => exact field_abridges environment path scope
  | call name words => exact callText_abridges environment name words scope
  | branch wanted path words body alternative? =>
    exact branch_abridges environment bodies wanted path words body alternative? scope
  | loop path body => exact loop_abridges environment bodies path body scope

end Bodies

/-- Every problem of the tags of a text is one that a lenient run records as an error. -/
theorem isError_of_mem_outline
    (source : Source)
    (tags : List Tag) :
    ∀ problem ∈ (source.outline tags).problems, problem.isError := by
  induction tags using source.outline_induction with
  | done => exact fun _ member => absurd member List.not_mem_nil
  | expression kind inductionHypothesis => exact inductionHypothesis
  | stray stray inductionHypothesis =>
    refine List.forall_mem_cons.mpr ⟨?_, inductionHypothesis⟩
    cases stray <;> rfl
  | targetless kind takes inductionHypothesis =>
    exact List.forall_mem_cons.mpr ⟨rfl, inductionHypothesis⟩
  | block kind takes inductionHypothesis => exact inductionHypothesis

theorem read_abridges (body : Body) :
    Run.Abridges ((environment.withStrict true).read body)
      ((environment.withStrict false).read body) := by
  unfold read
  refine (Run.Abridges.forAll _ fun offset _ => .record rfl).bind fun _ => ?_
  refine (Run.Abridges.forAll _ fun offset _ => .record rfl).bind fun _ => ?_
  refine (Run.Abridges.forAll _ fun problem member => ?_).bind fun _ => .pure _
  exact report_abridges environment (isError_of_mem_outline _ _ problem member)

theorem substitute_abridges
    {strict lenient : BodyEvaluator}
    (bodies : BodiesAbridge strict lenient)
    (text : Text)
    (tokens : List Token)
    (scope : Scope) :
    Run.Abridges ((environment.withStrict true).substitute strict text tokens scope)
      ((environment.withStrict false).substitute lenient text tokens scope) := by
  refine (Run.Abridges.collect tokens fun token _ => ?_).bind fun edits => .pure _
  exact (token_abridges environment bodies scope token).bind fun _ => .pure _

theorem evaluate_abridges
    {strict lenient : BodyEvaluator}
    (bodies : BodiesAbridge strict lenient) :
    BodiesAbridge ((environment.withStrict true).evaluate strict)
      ((environment.withStrict false).evaluate lenient) := by
  intro body scopes
  refine (read_abridges environment body).bind fun tokens => ?_
  refine (Run.Abridges.collect scopes fun scope _ => ?_).bind fun texts => .pure _
  exact substitute_abridges environment bodies body.text tokens scope

theorem evaluateBody_abridges (room : Nat) :
    BodiesAbridge ((environment.withStrict true).evaluateBody room)
      ((environment.withStrict false).evaluateBody room) := by
  induction room with
  | zero =>
    intro body scopes
    exact (report_abridges environment rfl).bind fun _ => .pure []
  | succ room inductionHypothesis =>
    intro body scopes
    exact (evaluate_abridges environment inductionHypothesis body scopes).within

/-- A strict evaluation of a template abridges the lenient one. -/
theorem evaluateTemplate_abridges (template : Text) (data : Value) :
    Run.Abridges ((environment.withStrict true).evaluateTemplate template data)
      ((environment.withStrict false).evaluateTemplate template data) :=
  evaluate_abridges environment (evaluateBody_abridges environment _) _ _

end Environment
end Stencil
