import Stencil.Engine
import Stencil.Proofs.Render.Sequence

/-!
# Evaluation after reading

A body is read before anything in it is evaluated.  Reading only announces what is wrong with the
tags; the tokens that are found do not depend on how the announcement goes.
-/

namespace Stencil
namespace Run

theorem forAll_record (eventOf : α → Event) (items : List α) :
    forAll (fun item => record (eventOf item)) items = ⟨items.map eventOf, .ok ()⟩ := by
  induction items with
  | nil => rfl
  | cons item items inductionHypothesis =>
    rw [forAll, inductionHypothesis]
    rfl

/-- Of several problems the first ones are found, up to the one that stops the run. -/
theorem exists_prefix_of_forAll_report (stops : Bool) (problems : List Problem) :
    ∃ found, found <+: problems ∧
      (forAll (report stops) problems).events = found.map Event.failed := by
  induction problems with
  | nil => exact ⟨[], List.prefix_rfl, rfl⟩
  | cons problem problems inductionHypothesis =>
    obtain ⟨found, early, same⟩ := inductionHypothesis
    cases stops with
    | true => exact ⟨[problem], ⟨problems, rfl⟩, rfl⟩
    | false =>
      refine ⟨problem :: found, List.cons_prefix_cons.mpr ⟨rfl, early⟩, ?_⟩
      rw [forAll, bind_of_ok _ rfl, same]
      rfl

end Run

/-- What is remarked about the delimiters of a text that are left as text. -/
def Parsed.remarks (parsed : Parsed) : List Notice :=
  parsed.unterminated?.toList.map Notice.unterminated ++ parsed.abandoned.map Notice.reopened

namespace Environment

variable (environment : Environment)

/-- A body as it is read. -/
def source (body : Body) : Source :=
  ⟨body.text, body.offset, environment.options.delimiters, environment.helpers.contains⟩

/-- Report what was found wrong with the tags of a text. -/
def announce (parsed : Parsed) : Run Unit := do
  Run.forAll (fun offset => Run.record (.noticed (.unterminated offset)))
    parsed.unterminated?.toList
  Run.forAll (fun offset => Run.record (.noticed (.reopened offset))) parsed.abandoned
  Run.forAll environment.report parsed.problems

/-- All remarks are made before any problem is reported. -/
theorem announce_eq (parsed : Parsed) :
    environment.announce parsed =
      let reported := Run.forAll environment.report parsed.problems
      ⟨parsed.remarks.map Event.noticed ++ reported.events, reported.outcome⟩ := by
  rw [announce, Run.forAll_record, Run.forAll_record, Run.bind_of_ok _ rfl, Run.bind_of_ok _ rfl,
    Parsed.remarks, List.map_append, List.map_map, List.map_map]
  dsimp only
  rw [List.append_assoc]
  rfl

/-- The announcement consists of the remarks and of the first problems. -/
theorem exists_prefix_of_announce (parsed : Parsed) :
    ∃ found, found <+: parsed.problems ∧
      (environment.announce parsed).events =
        parsed.remarks.map Event.noticed ++ found.map Event.failed := by
  obtain ⟨found, early, same⟩ :=
    Run.exists_prefix_of_forAll_report environment.options.strict parsed.problems
  refine ⟨found, early, ?_⟩
  rw [announce_eq]
  exact congrArg (_ ++ ·) same

theorem read_eq (body : Body) :
    environment.read body = do
      environment.announce (environment.source body).parse
      return (environment.source body).parse.tokens := by
  simp only [announce, bind_assoc]
  rfl

theorem evaluate_eq (evaluateBody : BodyEvaluator) (body : Body) (scopes : List Scope) :
    environment.evaluate evaluateBody body scopes = do
      environment.announce (environment.source body).parse
      let texts ← Run.collect
        (environment.substitute evaluateBody body.text (environment.source body).parse.tokens)
        scopes
      return texts.flatten := by
  rw [evaluate, read_eq]
  simp only [bind_assoc, pure_bind]

theorem evaluate_singleton
    (evaluateBody : BodyEvaluator)
    (body : Body)
    (scope : Scope) :
    environment.evaluate evaluateBody body [scope] =
      environment.announce (environment.source body).parse >>= fun _ =>
        environment.substitute evaluateBody body.text (environment.source body).parse.tokens
          scope := by
  have single (text : Text) : [text].flatten = text := List.flatten_singleton
  rw [evaluate_eq]
  simp only [Run.collect, bind_assoc, pure_bind, single, bind_pure]

end Environment

theorem Engine.run_of_untrimmed
    (engine : Engine)
    {options : Options}
    (untrimmed : options.trims = false)
    (template : Text)
    (data : Value) :
    engine.run template data options =
      (engine.environment options).evaluateTemplate template data := by
  simp only [run, untrimmed, Bool.false_eq_true, if_false, bind_pure]

namespace Engine

variable (engine : Engine) (template : Text) (data : Value) (options : Options)

/-- The problems that are found in a rendering, in order. -/
def problems : List Problem :=
  (engine.run template data options).events.filterMap Event.problem?

/-- The notices that are given in a rendering, in order. -/
def notices : List Notice :=
  (engine.run template data options).events.filterMap Event.notice?

variable {engine template data options} in
theorem failed_mem_events
    {problem : Problem}
    (found : problem ∈ engine.problems template data options) :
    .failed problem ∈ (engine.run template data options).events := by
  obtain ⟨event, happened, failed⟩ := List.mem_filterMap.mp found
  cases event with
  | failed other => exact Option.some.inj failed ▸ happened
  | _ => exact nomatch failed

variable {engine template data options} in
theorem noticed_mem_events
    {notice : Notice}
    (given : notice ∈ engine.notices template data options) :
    .noticed notice ∈ (engine.run template data options).events := by
  obtain ⟨event, happened, noticed⟩ := List.mem_filterMap.mp given
  cases event with
  | noticed other => exact Option.some.inj noticed ▸ happened
  | _ => exact nomatch noticed

theorem errors_process :
    (engine.process template data options).errors =
      (engine.problems template data options).map Problem.diagnostic := by
  rw [process, Report.ofRun]
  split <;> rfl

theorem warnings_process :
    (engine.process template data options).warnings =
      (engine.notices template data options).map Notice.diagnostic := by
  rw [process, Report.ofRun]
  split <;> rfl

/-- Trimming the output is not something that happens. -/
theorem events_run :
    (engine.run template data options).events =
      ((engine.environment options).evaluateTemplate template data).events := by
  exact Run.events_bind_pure _ _

end Engine
end Stencil
