import Stencil.Render.Run

/-!
# Reports

A report holds the output of a rendering together with what was used, what was missing, what went
wrong and how often things happened, all read off the events of the run.
-/

namespace Stencil

/-- How often things happened in a rendering. -/
structure Counters where
  /-- Number of variables put into the output. -/
  substitutions : Nat
  /-- Number of conditions decided. -/
  conditions : Nat
  /-- Number of loops begun. -/
  loops : Nat
  /-- Number of helpers that answered with a value. -/
  helpers : Nat
deriving DecidableEq, Repr

namespace Event

/-- The path found to have a value. -/
def usedPath? : Event → Option Text
  | used path => some path
  | _ => none

/-- The variable or helper found to be missing. -/
def missingPath? : Event → Option Text
  | missing path => some path
  | _ => none

/-- The problem found. -/
def problem? : Event → Option Problem
  | failed problem => some problem
  | _ => none

/-- What was passed over. -/
def notice? : Event → Option Notice
  | noticed notice => some notice
  | _ => none

/-- Whether a variable was put into the output. -/
def isSubstitution : Event → Bool
  | substituted => true
  | _ => false

/-- Whether a condition was decided. -/
def isDecision : Event → Bool
  | decided => true
  | _ => false

/-- Whether a loop was begun. -/
def isLoop : Event → Bool
  | unrolled => true
  | _ => false

/-- Whether a helper answered with a value. -/
def isAnswer : Event → Bool
  | called _ _ answer => answer.succeeded
  | _ => false

end Event

/-- The items of a list without repetitions, each where it occurs first. -/
def firstOccurrences [DecidableEq α] : List α → List α
  | [] => []
  | item :: items => item :: (firstOccurrences items).filter fun other => other ≠ item

/-- Counters of a list of events. -/
def Counters.ofEvents (events : List Event) : Counters where
  substitutions := events.countP Event.isSubstitution
  conditions := events.countP Event.isDecision
  loops := events.countP Event.isLoop
  helpers := events.countP Event.isAnswer

/-- What a rendering comes to. -/
structure Report where
  /-- The rendered text, or the template itself when the rendering was stopped. -/
  output : Text
  /-- Paths that had a value, each once, in the order of their first use. -/
  used : List Text
  /-- Variables and helpers that were missing, each once, in the order of their first use. -/
  missing : List Text
  /-- The problems. -/
  errors : List Diagnostic
  /-- The notices. -/
  warnings : List Diagnostic
  /-- How often things happened. -/
  counters : Counters
  /-- The problem that stopped the rendering. -/
  failure? : Option Problem
deriving DecidableEq, Repr

namespace Report

/-- The report of a list of events. -/
def ofEvents (output : Text) (failure? : Option Problem) (events : List Event) : Report where
  output := output
  used := firstOccurrences (events.filterMap Event.usedPath?)
  missing := firstOccurrences (events.filterMap Event.missingPath?)
  errors := (events.filterMap Event.problem?).map Problem.diagnostic
  warnings := (events.filterMap Event.notice?).map Notice.diagnostic
  counters := Counters.ofEvents events
  failure? := failure?

/-- The report of a run, where `template` is the output of a run that was stopped. -/
def ofRun (template : Text) (run : Run Text) : Report :=
  match run.outcome with
  | .ok output => ofEvents output none run.events
  | .error problem => ofEvents template (some problem) run.events

/-- Whether the rendering went through. -/
def isOk (report : Report) : Bool := report.failure?.isNone

/-- The output, or the problem that stopped the rendering. -/
def result (report : Report) : Except Problem Text :=
  match report.failure? with
  | some problem => .error problem
  | none => .ok report.output

end Report
end Stencil
