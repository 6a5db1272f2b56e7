import Stencil.Engine
import Stencil.Proofs.Render.Abridgement
import Stencil.Proofs.Report.Basic

/-!
# Strict and lenient renderings

A strict rendering goes through exactly when the lenient rendering of the same template is clean,
and then the two reports are equal.  Otherwise the strict one returns the template with the single
problem that stopped it, and all else it reports is the beginning of what the lenient one reports.
-/

namespace Stencil

namespace Event

theorem isHarmless_iff {event : Event} :
    event.isHarmless ↔
      event.problem? = none ∧ event.missingPath? = none ∧
        ∀ notice, event.notice? = some notice → notice.diagnostic.path? = none := by
  cases event with
  | noticed notice =>
    cases notice <;>
      simp [isHarmless, problem?, missingPath?, notice?, Notice.diagnostic, Notice.path?]
  | _ => simp [isHarmless, problem?, missingPath?, notice?]

end Event

namespace Report

/-- A report is clean when every event behind it is one that a strict run survives. -/
theorem isClean_ofEvents_iff (output : Text) (failure? : Option Problem) (events : List Event) :
    (ofEvents output failure? events).IsClean ↔ ∀ event ∈ events, event.isHarmless := by
  simp only [IsClean, ofEvents, List.map_eq_nil_iff, List.filterMap_eq_nil_iff,
    firstOccurrences_eq_nil_iff, List.mem_map, List.mem_filterMap, Event.isHarmless_iff]
  constructor
  · rintro ⟨noProblem, noneMissing, unnamed⟩ event member
    refine ⟨noProblem event member, noneMissing event member, ?_⟩
    intro notice noticed
    exact unnamed _ ⟨notice, ⟨event, member, noticed⟩, rfl⟩
  · intro harmless
    refine ⟨?_, ?_, ?_⟩
    · intro event member
      exact (harmless event member).1
    · intro event member
      exact (harmless event member).2.1
    · rintro _ ⟨notice, ⟨event, member, noticed⟩, rfl⟩
      exact (harmless event member).2.2 notice noticed

end Report

namespace Problem

theorem exists_harmful_passingEvent (problem : Problem) :
    ∃ event ∈ problem.passingEvents, event.isHarmless = false := by
  cases problem <;> exact ⟨_, List.mem_singleton_self _, rfl⟩

theorem problems_stoppingEvents (problem : Problem) :
    problem.stoppingEvents.filterMap Event.problem? = [problem] := by
  cases problem <;> rfl

theorem usedPaths_stoppingEvents (problem : Problem) :
    problem.stoppingEvents.filterMap Event.usedPath? = [] := by
  cases problem <;> rfl

theorem notices_stoppingEvents (problem : Problem) :
    problem.stoppingEvents.filterMap Event.notice? = [] := by
  cases problem <;> rfl

theorem missingPaths_stoppingEvents (problem : Problem) :
    problem.stoppingEvents.filterMap Event.missingPath? =
      problem.passingEvents.filterMap Event.missingPath? := by
  cases problem <;> rfl

theorem counters_stoppingEvents (problem : Problem) :
    Counters.ofEvents problem.stoppingEvents = 0 := by
  cases problem <;> rfl

end Problem

/-- Leaving bodies shows in no report. -/
theorem Event.filterMap_of_left
    {observe : Event → Option α}
    (unseen : observe .left = none)
    {leaving : List Event}
    (leaves : ∀ event ∈ leaving, event = .left) : leaving.filterMap observe = [] := by
  rw [List.filterMap_eq_nil_iff]
  intro event member
  rw [leaves event member, unseen]

theorem Counters.ofEvents_of_left
    {leaving : List Event}
    (leaves : ∀ event ∈ leaving, event = .left) : Counters.ofEvents leaving = 0 := by
  induction leaving with
  | nil => rfl
  | cons event rest inductionHypothesis =>
    have first : event = .left := leaves event List.mem_cons_self
    subst first
    have others := inductionHypothesis fun other member =>
      leaves other (List.mem_cons_of_mem _ member)
    rw [← List.singleton_append, ofEvents_append, others]
    rfl

section Stopped

variable
  {before leaving after : List Event}
  {problem : Problem}
  (harmless : ∀ event ∈ before, event.isHarmless)
  (leaves : ∀ event ∈ leaving, event = .left)

include harmless in
theorem Event.problems_eq_nil : before.filterMap Event.problem? = [] := by
  rw [List.filterMap_eq_nil_iff]
  intro event member
  exact (Event.isHarmless_iff.mp (harmless event member)).1

include harmless leaves in
theorem Event.problems_stopped :
    (before ++ problem.stoppingEvents ++ leaving).filterMap Event.problem? = [problem] := by
  have unseen : Event.left.problem? = none := rfl
  rw [List.filterMap_append, List.filterMap_append, Event.problems_eq_nil harmless,
    problem.problems_stoppingEvents, Event.filterMap_of_left unseen leaves]
  rfl

include leaves in
/-- What is read off a stopped run is the beginning of what is read off the lenient one, if it is so
for the stopping problem alone. -/
theorem Event.filterMap_isPrefix
    {observe : Event → Option α}
    (unseen : observe .left = none)
    (stopping : problem.stoppingEvents.filterMap observe <+:
      problem.passingEvents.filterMap observe) :
    (before ++ problem.stoppingEvents ++ leaving).filterMap observe <+:
      (before ++ problem.passingEvents ++ after).filterMap observe := by
  simp only [List.filterMap_append]
  rw [Event.filterMap_of_left unseen leaves, List.append_nil]
  have same := (List.prefix_append_right_inj (before.filterMap observe)).mpr stopping
  exact same.trans (List.prefix_append _ _)

include leaves in
theorem Counters.ofEvents_stopped_le :
    Counters.ofEvents (before ++ problem.stoppingEvents ++ leaving) ≤
      Counters.ofEvents (before ++ problem.passingEvents ++ after) := by
  rw [ofEvents_append, ofEvents_append, ofEvents_of_left leaves, problem.counters_stoppingEvents,
    List.append_assoc, ofEvents_append]
  exact le_add_right _ _

end Stopped

namespace Report

section Abridged

variable {strict lenient : Run Text} (abridges : Run.Abridges strict lenient) (template : Text)

include abridges

theorem failure?_lenient : (ofRun template lenient).failure? = none := by
  cases abridges with
  | through => rfl
  | stopped => rfl

/-- A run with a problem is not clean, because the lenient run records the problem as well. -/
theorem failure?_strict_iff :
    (ofRun template strict).failure? = none ↔ (ofRun template lenient).IsClean := by
  cases abridges with
  | @through events result harmless =>
    have clean := (isClean_ofEvents_iff result none events).mpr harmless
    exact ⟨fun _ => clean, fun _ => rfl⟩
  | stopped before leaving after problem result harmless leaves =>
    constructor
    · intro through
      exact absurd through (Option.some_ne_none problem)
    · intro clean
      have survived := (isClean_ofEvents_iff result none _).mp clean
      obtain ⟨event, recorded, harmful⟩ := problem.exists_harmful_passingEvent
      have member : event ∈ before ++ problem.passingEvents ++ after :=
        List.mem_append_left after (List.mem_append_right before recorded)
      rw [survived event member] at harmful
      exact absurd harmful Bool.noConfusion

theorem ofRun_strict_eq
    (through : (ofRun template strict).failure? = none) :
    ofRun template strict = ofRun template lenient := by
  cases abridges with
  | through => rfl
  | stopped before leaving after problem =>
    exact absurd through (Option.some_ne_none problem)

/-- The problem that stops a run is the only one that the run records. -/
theorem problems_of_failure
    {problem : Problem}
    (stopped : (ofRun template strict).failure? = some problem) :
    strict.events.filterMap Event.problem? = [problem] := by
  cases abridges with
  | through => exact absurd stopped.symm (Option.some_ne_none problem)
  | stopped before leaving after cause result harmless leaves =>
    obtain rfl : cause = problem := Option.some.inj stopped
    exact Event.problems_stopped harmless leaves

/-- A stopped run reports the problem that stopped it, and otherwise the beginning of what the
lenient run reports. -/
theorem ofRun_strict_of_failure
    {problem : Problem}
    (stopped : (ofRun template strict).failure? = some problem) :
    (ofRun template strict).output = template ∧
      (ofRun template strict).errors = [problem.diagnostic] ∧
      (ofRun template strict).used <+: (ofRun template lenient).used ∧
      (ofRun template strict).missing <+: (ofRun template lenient).missing ∧
      (ofRun template strict).warnings <+: (ofRun template lenient).warnings ∧
      (ofRun template strict).counters ≤ (ofRun template lenient).counters ∧
      (problem.isError → (ofRun template lenient).errors.head? = some problem.diagnostic) := by
  cases abridges with
  | through => exact absurd stopped.symm (Option.some_ne_none problem)
  | stopped before leaving after cause result harmless leaves =>
    obtain rfl : cause = problem := Option.some.inj stopped
    refine ⟨rfl, ?_, ?_, ?_, ?_, Counters.ofEvents_stopped_le leaves, ?_⟩
    · exact congrArg (List.map Problem.diagnostic) (Event.problems_stopped harmless leaves)
    · apply firstOccurrences_isPrefix
      refine Event.filterMap_isPrefix leaves rfl ?_
      rw [cause.usedPaths_stoppingEvents]
      exact List.nil_prefix
    · apply firstOccurrences_isPrefix
      refine Event.filterMap_isPrefix leaves rfl ?_
      simp only [cause.missingPaths_stoppingEvents, List.prefix_rfl]
    · refine List.IsPrefix.map Notice.diagnostic (Event.filterMap_isPrefix leaves rfl ?_)
      rw [cause.notices_stoppingEvents]
      exact List.nil_prefix
    · intro isError
      simp only [ofRun, ofEvents, List.filterMap_append, Event.problems_eq_nil harmless,
        Problem.passingEvents_of_isError isError]
      rfl

end Abridged

end Report

namespace Engine

/-- The strict run of a rendering abridges the lenient one. -/
theorem run_abridges
    (engine : Engine)
    (template : Text)
    (data : Value)
    (options : Options) :
    Run.Abridges (engine.run template data { options with strict := true })
      (engine.run template data { options with strict := false }) :=
  ((engine.environment options).evaluateTemplate_abridges template data).bind fun _ => .pure _

/-- A lenient rendering always goes through.  The strict rendering goes through exactly when the
lenient one is clean, and then both come to the same. -/
theorem process_strict_ok_iff
    (engine : Engine)
    (template : Text)
    (data : Value)
    (options : Options) :
    let strict := engine.process template data { options with strict := true }
    let lenient := engine.process template data { options with strict := false }
    lenient.failure? = none ∧
      (strict.failure? = none ↔ lenient.IsClean) ∧
      (strict.failure? = none → strict = lenient) := by
  have abridges := engine.run_abridges template data options
  refine ⟨?_, ?_, ?_⟩
  · exact Report.failure?_lenient abridges template
  · exact Report.failure?_strict_iff abridges template
  · exact Report.ofRun_strict_eq abridges template

/-- A strict rendering that is stopped returns the template and the one problem that stopped it.
What it used, missed, noticed and counted is the beginning of what the lenient rendering of the same
template did, and a problem of the template, of a helper or of depth is the first one there. -/
theorem process_strict_of_failure
    (engine : Engine)
    (template : Text)
    (data : Value)
    (options : Options)
    {problem : Problem}
    (stopped :
      (engine.process template data { options with strict := true }).failure? = some problem) :
    let strict := engine.process template data { options with strict := true }
    let lenient := engine.process template data { options with strict := false }
    strict.output = template ∧
      strict.errors = [problem.diagnostic] ∧
      strict.used <+: lenient.used ∧
      strict.missing <+: lenient.missing ∧
      strict.warnings <+: lenient.warnings ∧
      strict.counters ≤ lenient.counters ∧
      (problem.isError → lenient.errors.head? = some problem.diagnostic) :=
  Report.ofRun_strict_of_failure (engine.run_abridges template data options) template stopped

/-- A variable that is missing inside a block stops the strict rendering, while the lenient one goes
on to miss another one. -/
theorem process_strict_of_failure_inside :
    (({ registry := [] } : Engine).process "<a><#if a><b><c></if>".toList
        (.object [("a".toList, .string "x".toList)])
        { strict := true, delimiters := ⟨"<".toList, ">".toList⟩ }).failure? =
          some (.missingVariable "b".toList) ∧
      (({ registry := [] } : Engine).process "<a><#if a><b><c></if>".toList
        (.object [("a".toList, .string "x".toList)])
        { strict := true, delimiters := ⟨"<".toList, ">".toList⟩ }).missing <+:
      (({ registry := [] } : Engine).process "<a><#if a><b><c></if>".toList
        (.object [("a".toList, .string "x".toList)])
        { strict := false, delimiters := ⟨"<".toList, ">".toList⟩ }).missing := by
  have stopped : (({ registry := [] } : Engine).process "<a><#if a><b><c></if>".toList
      (.object [("a".toList, .string "x".toList)])
      { strict := true, delimiters := ⟨"<".toList, ">".toList⟩ }).failure? =
        some (.missingVariable "b".toList) := by
    decide +kernel
  exact ⟨stopped, (process_strict_of_failure { registry := [] } _ _
    { delimiters := ⟨"<".toList, ">".toList⟩ } stopped).2.2.2.1⟩

end Engine
end Stencil
