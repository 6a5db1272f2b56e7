import Stencil.Proofs.Render.Leniency
import Stencil.Proofs.Render.Relocation
import Stencil.Proofs.Render.Strictness
import Stencil.Proofs.Source.Position

/-!
# Swapping the bodies of a block

A block that waits for its condition to fail is one that waits for it to hold, with its two bodies
swapped.  The bodies stand in other places then, and the places that problems and notices name are
all that tells the two blocks apart.
-/

namespace Stencil

/-- Whether an event says that something is wrong. -/
def Event.isRemark : Event → Bool
  | .failed _ => true
  | .noticed _ => true
  | _ => false

theorem Event.forall_isRemark
    {motive : Event → Prop}
    (failed : ∀ problem, motive (.failed problem))
    (noticed : ∀ notice, motive (.noticed notice)) :
    ∀ event : Event, event.isRemark → motive event := by
  intro event remark
  cases event with
  | failed problem => exact failed problem
  | noticed notice => exact noticed notice
  | _ => exact nomatch remark

namespace Run

/-- What happens in a run, apart from what is said to be wrong. -/
def deeds (run : Run α) : List Event := run.events.filter fun event => !event.isRemark

/-- Whether two runs do the same and come to the same result, or are both stopped, whatever they say
is wrong. -/
structure IsLike (left right : Run α) : Prop where
  deeds : left.deeds = right.deeds
  result : left.outcome.toOption = right.outcome.toOption

theorem filterMap_deeds
    (run : Run α)
    {reading : Event → Option β}
    (unread : ∀ event, event.isRemark → reading event = none) :
    run.deeds.filterMap reading = run.events.filterMap reading := by
  have same : (fun event => if !event.isRemark then reading event else none) = reading := by
    funext event
    cases remark : event.isRemark with
    | true => exact (unread event remark).symm
    | false => rfl
  rw [deeds, List.filterMap_filter, same]

theorem countP_deeds
    (run : Run α)
    {counts : Event → Bool}
    (uncounted : ∀ event, event.isRemark → counts event = false) :
    run.deeds.countP counts = run.events.countP counts := by
  have same : (fun event => counts event && !event.isRemark) = counts := by
    funext event
    cases remark : event.isRemark with
    | true => rw [uncounted event remark, Bool.false_and]
    | false => exact Bool.and_true _
  rw [deeds, List.countP_filter, same]

theorem counters_deeds (run : Run α) :
    Counters.ofEvents run.deeds = Counters.ofEvents run.events := by
  rw [Counters.ofEvents, Counters.ofEvents,
    run.countP_deeds (Event.forall_isRemark (fun _ => rfl) fun _ => rfl),
    run.countP_deeds (Event.forall_isRemark (fun _ => rfl) fun _ => rfl),
    run.countP_deeds (Event.forall_isRemark (fun _ => rfl) fun _ => rfl),
    run.countP_deeds (Event.forall_isRemark (fun _ => rfl) fun _ => rfl)]

namespace IsLike

variable {left right : Run α}

theorem refl (run : Run α) : run.IsLike run := ⟨rfl, rfl⟩

theorem symm (alike : left.IsLike right) : right.IsLike left :=
  ⟨alike.deeds.symm, alike.result.symm⟩

theorem trans
    {last : Run α}
    (alike : left.IsLike right)
    (again : right.IsLike last) : left.IsLike last :=
  ⟨alike.deeds.trans again.deeds, alike.result.trans again.result⟩

theorem bind
    {next other : α → Run β}
    (alike : left.IsLike right)
    (later : ∀ result, (next result).IsLike (other result)) :
    (left >>= next).IsLike (right >>= other) := by
  obtain ⟨leftEvents, leftOutcome⟩ := left
  obtain ⟨rightEvents, rightOutcome⟩ := right
  have same := alike.result
  cases leftOutcome with
  | error leftProblem =>
    cases rightOutcome with
    | error rightProblem => exact ⟨alike.deeds, rfl⟩
    | ok result => exact nomatch same
  | ok result =>
    cases rightOutcome with
    | error rightProblem => exact nomatch same
    | ok otherResult =>
      obtain rfl : result = otherResult := Option.some.inj same
      rw [bind_of_ok next rfl, bind_of_ok other rfl]
      refine ⟨?_, (later result).result⟩
      rw [Run.deeds, Run.deeds, List.filter_append, List.filter_append]
      exact congr (congrArg _ alike.deeds) (later result).deeds

/-- A reading of events that passes over what is said to be wrong does not tell the runs apart. -/
theorem filterMap_eq
    (alike : left.IsLike right)
    (reading : Event → Option β)
    (unread : ∀ event, event.isRemark → reading event = none) :
    left.events.filterMap reading = right.events.filterMap reading := by
  rw [← left.filterMap_deeds unread, ← right.filterMap_deeds unread, alike.deeds]

end IsLike

/-- A run is like itself in another place. -/
theorem relocate_isLike (relocation : Relocation) (run : Run α) :
    (run.relocate relocation).IsLike run := by
  constructor
  · have kept (event : Event) :
        (event.relocate relocation).isRemark = event.isRemark ∧
          (event.isRemark = false → event.relocate relocation = event) := by
      cases event <;> simp [Event.relocate, Event.isRemark]
    rw [deeds, deeds, relocate]
    dsimp only
    induction run.events with
    | nil => rfl
    | cons event events inductionHypothesis =>
      rw [List.map_cons, List.filter_cons, List.filter_cons, (kept event).1, inductionHypothesis]
      cases remark : event.isRemark with
      | true => rfl
      | false => rw [(kept event).2 remark]
  · cases ends : run.outcome with
    | error problem => simp only [relocate, ends]; rfl
    | ok result => simp only [relocate, ends]; rfl

end Run

namespace Report

section Alike

variable
  {left right : Run Text}
  (alike : left.IsLike right)
  (first second : Text)

include alike

theorem names_eq_of_isLike :
    (ofRun first left).used = (ofRun second right).used ∧
      (ofRun first left).missing = (ofRun second right).missing := by
  rw [used_ofRun, used_ofRun, missing_ofRun, missing_ofRun]
  exact ⟨congrArg _ (alike.filterMap_eq _ (Event.forall_isRemark (fun _ => rfl) fun _ => rfl)),
    congrArg _ (alike.filterMap_eq _ (Event.forall_isRemark (fun _ => rfl) fun _ => rfl))⟩

theorem counters_eq_of_isLike : (ofRun first left).counters = (ofRun second right).counters := by
  rw [counters_ofRun, counters_ofRun, ← left.counters_deeds, ← right.counters_deeds, alike.deeds]

/-- Renderings that are alike both go through with the same output, or are both stopped. -/
theorem isOk_eq_of_isLike :
    (ofRun first left).isOk = (ofRun second right).isOk ∧
      ((ofRun first left).isOk → (ofRun first left).output = (ofRun second right).output) := by
  have same := alike.result
  rw [ofRun, ofRun]
  cases leftEnds : left.outcome with
  | error problem =>
    cases rightEnds : right.outcome with
    | error other => exact ⟨rfl, fun isOk => absurd isOk Bool.false_ne_true⟩
    | ok output =>
      rw [leftEnds, rightEnds] at same
      exact absurd same.symm (Option.some_ne_none output)
  | ok output =>
    cases rightEnds : right.outcome with
    | error problem =>
      rw [leftEnds, rightEnds] at same
      exact absurd same (Option.some_ne_none output)
    | ok other =>
      rw [leftEnds, rightEnds] at same
      exact ⟨rfl, fun _ => Option.some.inj same⟩

end Alike

end Report

namespace Environment

variable (environment : Environment)

/-- Reading says nothing but what is wrong. -/
theorem announce_isLike
    {parsed : Parsed}
    (faultless : parsed.problems = []) : (environment.announce parsed).IsLike (pure ()) := by
  rw [announce_eq, faultless]
  refine ⟨?_, rfl⟩
  have silent : (parsed.remarks.map Event.noticed).filter (fun event => !event.isRemark) = [] := by
    rw [List.filter_map]
    exact List.map_eq_nil_iff.mpr (List.filter_eq_nil_iff.mpr fun _ _ => Bool.false_ne_true)
  exact (congrArg (List.filter _) (List.append_nil _)).trans silent

theorem evaluateTemplate_isLike
    {template : Text}
    {token : Token}
    (single : (environment.source ⟨template, 0⟩).parse.tokens = [token])
    (whole : token.span = ⟨0, Text.size template⟩)
    (data : Value) :
    (environment.evaluateTemplate template data).IsLike
      (environment.token (environment.evaluateBody environment.options.maxDepth)
        (Scope.root data) token) := by
  have found : token ∈ (environment.source ⟨template, 0⟩).parse.tokens :=
    single ▸ List.mem_singleton_self token
  have faultless := Source.problems_eq_nil_of_whole found whole
  have substituted : environment.substitute (environment.evaluateBody environment.options.maxDepth)
      template [token] (Scope.root data) =
        environment.token (environment.evaluateBody environment.options.maxDepth)
          (Scope.root data) token := by
    simp only [substitute_eq, Run.collect, edit, whole, bind_assoc, pure_bind, Text.splice_whole,
      bind_pure]
  rw [evaluateTemplate, evaluate_singleton, single, substituted]
  exact (environment.announce_isLike faultless).bind fun _ => .refl _

theorem evaluateBody_isLike
    (room : Nat)
    (text : Text)
    (left right : Nat)
    (scopes : List Scope) :
    (environment.evaluateBody room ⟨text, left⟩ scopes).IsLike
      (environment.evaluateBody room ⟨text, right⟩ scopes) := by
  have atStart (offset : Nat) : (environment.evaluateBody room ⟨text, offset⟩ scopes).IsLike
      (environment.evaluateBody room ⟨text, 0⟩ scopes) := by
    have moved := environment.evaluateBody_relocate ⟨offset, environment.options.maxDepth⟩ room
      ⟨text, 0⟩ scopes
    rw [Body.shift, Nat.zero_add] at moved
    rw [show environment.evaluateBody room ⟨text, offset⟩ scopes = _ from moved]
    exact Run.relocate_isLike _ _
  exact (atStart left).trans (atStart right).symm

/-- Two blocks that wait for opposite conditions, with their bodies swapped. -/
theorem branch_isLike
    (room : Nat)
    (path : Text)
    (words : List Text)
    (body alternative : Text)
    (bodyStart alternativeStart otherStart otherAlternativeStart : Nat)
    (scope : Scope) :
    (environment.branch (environment.evaluateBody room) false path words ⟨body, bodyStart⟩
        (some ⟨alternative, alternativeStart⟩) scope).IsLike
      (environment.branch (environment.evaluateBody room) true path words
        ⟨alternative, otherStart⟩ (some ⟨body, otherAlternativeStart⟩) scope) := by
  refine (Run.IsLike.refl _).bind fun holds => (Run.IsLike.refl _).bind fun _ => ?_
  cases holds with
  | false => exact environment.evaluateBody_isLike room body bodyStart otherAlternativeStart _
  | true => exact environment.evaluateBody_isLike room alternative alternativeStart otherStart _

end Environment

namespace Engine

variable
  (engine : Engine)
  {options : Options}

theorem isOk_process_of_tolerant
    (tolerant : options.strict = false)
    (template : Text)
    (data : Value) : (engine.process template data options).isOk := by
  have lenient := Report.failure?_lenient (engine.run_abridges template data options) template
  rw [← tolerant] at lenient
  exact Option.isNone_iff_eq_none.mpr lenient

/-- A block that waits for a condition to fail is the block that waits for it to hold with its
bodies swapped, wherever the bodies stand.  Two templates that are nothing but these blocks use and
miss the same, count the same, and both go through with the same output or are both stopped. -/
theorem process_swapped
    {first second raw otherRaw path body alternative : Text}
    {words : List Text}
    {bodyStart alternativeStart otherStart otherAlternativeStart : Nat}
    (negative : engine.tokens options first =
      [⟨.branch false path words ⟨body, bodyStart⟩ (some ⟨alternative, alternativeStart⟩), raw,
        ⟨0, Text.size first⟩⟩])
    (positive : engine.tokens options second =
      [⟨.branch true path words ⟨alternative, otherStart⟩ (some ⟨body, otherAlternativeStart⟩),
        otherRaw, ⟨0, Text.size second⟩⟩])
    (data : Value) :
    let left := engine.process first data options
    let right := engine.process second data options
    left.used = right.used ∧ left.missing = right.missing ∧ left.counters = right.counters ∧
      left.isOk = right.isOk ∧ (left.isOk → left.output = right.output) ∧
      (options.strict = false → left.output = right.output) := by
  intro left right
  let environment := engine.environment options
  have rendered : (environment.evaluateTemplate first data).IsLike
      (environment.evaluateTemplate second data) := by
    have swapped := environment.branch_isLike options.maxDepth path words body alternative bodyStart
      alternativeStart otherStart otherAlternativeStart (Scope.root data)
    have left := environment.evaluateTemplate_isLike negative rfl data
    have right := environment.evaluateTemplate_isLike positive rfl data
    exact left.trans (swapped.trans right.symm)
  have alike : (engine.run first data options).IsLike (engine.run second data options) :=
    rendered.bind fun _ => .refl _
  obtain ⟨used, missing⟩ := Report.names_eq_of_isLike alike first second
  obtain ⟨isOk, output⟩ := Report.isOk_eq_of_isLike alike first second
  refine ⟨used, missing, ?_, isOk, output, fun tolerant => ?_⟩
  · exact Report.counters_eq_of_isLike alike first second
  · exact output (engine.isOk_process_of_tolerant tolerant first data)

/-- A variable that is missing, and a loop with a tag in its body that is reported where it
stands. -/
theorem process_swapped_bodies :
    let options : Options := { delimiters := ⟨"[[".toList, "]]".toList⟩ }
    let engine : Engine := { registry := [] }
    let body := "[[x]]".toList
    let alternative := "[[#each rows]][[#z]]-[[@index]][[/each]]".toList
    let first := "[[#unless a]]".toList ++ body ++ "[[else]]".toList ++ alternative ++
      "[[/unless]]".toList
    let second := "[[#if a]]".toList ++ alternative ++ "[[else]]".toList ++ body ++ "[[/if]]".toList
    let data := Value.object [("a".toList, .bool true), ("rows".toList, .array [.null, .null])]
    let left := engine.process first data options
    let right := engine.process second data options
    engine.tokens options first =
        [⟨.branch false "a".toList [] ⟨body, 13⟩ (some ⟨alternative, 26⟩), first,
          ⟨0, Text.size first⟩⟩] ∧
      engine.tokens options second =
        [⟨.branch true "a".toList [] ⟨alternative, 9⟩ (some ⟨body, 57⟩), second,
          ⟨0, Text.size second⟩⟩] ∧
      left.output = "[[#z]]-0[[#z]]-1".toList ∧
      right.output = "[[#z]]-0[[#z]]-1".toList ∧
      left.counters = right.counters ∧
      left.errors ≠ right.errors := by
  intro options engine body alternative first second data left right
  have negative : engine.tokens options first =
      [⟨.branch false "a".toList [] ⟨body, 13⟩ (some ⟨alternative, 26⟩), first,
        ⟨0, Text.size first⟩⟩] := by
    decide +kernel
  have positive : engine.tokens options second =
      [⟨.branch true "a".toList [] ⟨alternative, 9⟩ (some ⟨body, 57⟩), second,
        ⟨0, Text.size second⟩⟩] := by
    decide +kernel
  have output : left.output = "[[#z]]-0[[#z]]-1".toList := by decide +kernel
  have errors : left.errors ≠ right.errors := by decide +kernel
  obtain ⟨-, -, counters, -, -, same⟩ := engine.process_swapped negative positive data
  exact ⟨negative, positive, output, (same rfl).symm.trans output, counters, errors⟩

end Engine
end Stencil
