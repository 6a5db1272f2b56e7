import Stencil.Proofs.Render.Demand
import Stencil.Proofs.Render.Relocation
import Stencil.Proofs.Render.Sequence
import Stencil.Proofs.Render.Strictness
import Stencil.Proofs.Source.Nesting
import Stencil.Proofs.Tag.Exhaustion

/-!
# Evaluation without a limit

The bodies inside a body are shorter than the body, so an evaluation comes to an end also where
nothing limits its depth.  And every level takes away an opening tag of a block, so a limit that is
not below the number of these tags is never reached.
-/

namespace Stencil

/-- Whether an event is not the refusal of a body that lies too deep. -/
def Event.IsUncut (event : Event) : Prop := ∀ limit, event ≠ .failed (.depthExceeded limit)

namespace Environment

variable (environment : Environment)

section Congruence

variable {left right : BodyEvaluator}

theorem token_congr
    {token : Token}
    (same : ∀ inside ∈ token.bodies, left inside = right inside)
    (scope : Scope) : environment.token left scope token = environment.token right scope token := by
  rw [token_eq_demand, token_eq_demand]
  refine Run.bind_congr fun demand ends => ?_
  have isOf := environment.demand_isOf scope token demand ends
  cases demand with
  | text known => rfl
  | body inside scopes => exact congrFun (same inside isOf.1) scopes

/-- Of a text no other bodies are evaluated than those of its tokens. -/
theorem evaluate_congr_of_bodies
    {body : Body}
    (same : ∀ token ∈ (environment.source body).parse.tokens, ∀ inside ∈ token.bodies,
      left inside = right inside) :
    environment.evaluate left body = environment.evaluate right body := by
  have edits (scope : Scope) :
      Run.collect (environment.edit left scope) (environment.source body).parse.tokens =
        Run.collect (environment.edit right scope) (environment.source body).parse.tokens :=
    Run.collect_congr fun token found => by
      rw [edit, edit, environment.token_congr (same token found)]
  funext scopes
  rw [evaluate_eq, evaluate_eq]
  refine Run.bind_congr fun _ _ => ?_
  congr 2
  funext scope
  rw [substitute_eq, substitute_eq, edits]

end Congruence

/-- Induction along the bodies inside a body, which are shorter. -/
@[elab_as_elim]
theorem body_induction
    {motive : Body → Prop}
    (step : ∀ body,
      (∀ token ∈ (environment.source body).parse.tokens, ∀ inside ∈ token.bodies, motive inside) →
        motive body)
    (body : Body) : motive body := by
  induction length : body.text.length using Nat.strongRecOn generalizing body with
  | ind length inductionHypothesis =>
    subst length
    refine step body fun token found inside member => ?_
    exact inductionHypothesis _ (Source.length_lt_of_mem_bodies found member) inside rfl

/-- The body of a block, however deep it lies.  The bodies inside are shorter than the body, so
there is an end to it. -/
def evaluateUnbounded (body : Body) (scopes : List Scope) : Run Text :=
  Run.within <|
    environment.evaluate
      (fun inside scopes =>
        if inside.text.length < body.text.length then evaluateUnbounded inside scopes else pure [])
      body scopes
termination_by body.text.length

/-- Whether a way of evaluating bodies goes on in the same way with the bodies inside a body,
however deep they lie. -/
def IsUnbounded (evaluateBody : BodyEvaluator) : Prop :=
  ∀ body scopes,
    evaluateBody body scopes = Run.within (environment.evaluate evaluateBody body scopes)

theorem isUnbounded_evaluateUnbounded :
    environment.IsUnbounded environment.evaluateUnbounded := by
  intro body scopes
  rw [evaluateUnbounded]
  congr 1
  refine congrFun (environment.evaluate_congr_of_bodies fun token found inside member => ?_) scopes
  have shorter := Source.length_lt_of_mem_bodies found member
  funext scopes
  exact if_pos shorter

/-- There is only one way of evaluating bodies without a limit. -/
theorem isUnbounded_iff (evaluateBody : BodyEvaluator) :
    environment.IsUnbounded evaluateBody ↔ evaluateBody = environment.evaluateUnbounded := by
  constructor
  · intro isUnbounded
    funext body
    induction body using environment.body_induction with
    | step body inductionHypothesis =>
      have same := environment.evaluate_congr_of_bodies inductionHypothesis
      funext scopes
      rw [isUnbounded body scopes, environment.isUnbounded_evaluateUnbounded body scopes, same]
  · rintro rfl
    exact environment.isUnbounded_evaluateUnbounded

/-- The limit does not matter where it is not kept. -/
theorem evaluateUnbounded_withLimit (limit : Nat) :
    (environment.withLimit limit).evaluateUnbounded = environment.evaluateUnbounded :=
  (environment.isUnbounded_iff _).mp (environment.withLimit limit).isUnbounded_evaluateUnbounded

/-- A body is evaluated as it is without a limit if there is room for a level for every tag in it
that opens a block. -/
theorem evaluate_evaluateBody
    {room : Nat}
    {body : Body}
    (enough : (environment.source body).blockCount ≤ room) :
    environment.evaluate (environment.evaluateBody room) body =
      environment.evaluate environment.evaluateUnbounded body := by
  induction room generalizing body with
  | zero =>
    refine environment.evaluate_congr_of_bodies fun token found inside member => ?_
    have fewer := (Source.isBodyOf_of_mem_outline found member).blockCount_lt
    exact absurd (Nat.lt_of_lt_of_le fewer enough) (Nat.not_lt_zero _)
  | succ room inductionHypothesis =>
    refine environment.evaluate_congr_of_bodies fun token found inside member => ?_
    have fewer := (Source.isBodyOf_of_mem_outline found member).blockCount_lt
    have rest := @inductionHypothesis inside (Nat.le_of_lt_succ (Nat.lt_of_lt_of_le fewer enough))
    funext scopes
    calc
      environment.evaluateBody (room + 1) inside scopes =
          Run.within (environment.evaluate (environment.evaluateBody room) inside scopes) := rfl
      _ = Run.within (environment.evaluate environment.evaluateUnbounded inside scopes) := by
        rw [rest]
      _ = environment.evaluateUnbounded inside scopes :=
        (environment.isUnbounded_evaluateUnbounded inside scopes).symm

/-- Reading a text cuts nothing out. -/
theorem announce_uncut (source : Source) :
    (environment.announce source.parse).Records Event.IsUncut := by
  refine Run.Records.bind (.forAll fun _ _ => .record fun _ => nofun) fun _ _ => ?_
  refine Run.Records.bind (.forAll fun _ _ => .record fun _ => nofun) fun _ _ => ?_
  refine .forAll fun problem member => .report (fun limit same => ?_) _
  obtain ⟨tag, -, place, -⟩ := Source.exists_tag_of_mem_problems member
  rw [Event.failed.inj same] at place
  exact nomatch place

/-- Evaluation cuts nothing out of a text but what is cut out of the bodies in it. -/
theorem evaluate_uncut
    {evaluateBody : BodyEvaluator}
    {body : Body}
    (bodies : ∀ token ∈ (environment.source body).parse.tokens, ∀ inside ∈ token.bodies, ∀ scopes,
      (evaluateBody inside scopes).Records Event.IsUncut)
    (scopes : List Scope) :
    (environment.evaluate evaluateBody body scopes).Records Event.IsUncut := by
  refine environment.evaluate_records ?_ (environment.announce_uncut _) bodies scopes
  rintro _ plain limit rfl
  exact nomatch plain

theorem evaluateUnbounded_uncut (body : Body) (scopes : List Scope) :
    (environment.evaluateUnbounded body scopes).Records Event.IsUncut := by
  induction body using environment.body_induction generalizing scopes with
  | step body inductionHypothesis =>
    rw [environment.isUnbounded_evaluateUnbounded body scopes]
    refine Run.Records.within (fun _ => nofun) (fun _ => nofun) ?_
    exact environment.evaluate_uncut inductionHypothesis scopes

end Environment

namespace Engine

variable (engine : Engine) (template : Text) (data : Value) (options : Options)

/-- The run of a rendering without a limit to depth, its output trimmed if the settings say so. -/
def runUnbounded : Run Text := do
  let environment := engine.environment options
  let output ← environment.evaluate environment.evaluateUnbounded ⟨template, 0⟩ [Scope.root data]
  return if options.trims then Text.trim output else output

variable {engine template data options}

theorem run_eq_runUnbounded
    {limit : Nat}
    (enough : ((engine.environment options).source ⟨template, 0⟩).blockCount ≤ limit) :
    engine.run template data { options with maxDepth := limit } =
      engine.runUnbounded template data options := by
  have evaluated : ((engine.environment options).withLimit limit).evaluateTemplate template =
      fun data => (engine.environment options).evaluate
        (engine.environment options).evaluateUnbounded ⟨template, 0⟩ [Scope.root data] := by
    funext data
    have unlimited := ((engine.environment options).withLimit limit).evaluate_evaluateBody enough
    rw [Environment.evaluateUnbounded_withLimit] at unlimited
    exact congrFun unlimited [Scope.root data]
  exact congrArg (fun evaluate => evaluate data >>= _) evaluated

theorem runUnbounded_uncut :
    (engine.runUnbounded template data options).Records Event.IsUncut := by
  refine Run.Records.bind ?_ fun _ _ => .pure _
  exact (engine.environment options).evaluate_uncut (fun _ _ inside _ =>
    (engine.environment options).evaluateUnbounded_uncut inside) _

/-- A body is cut out only where more tags than the limit open a block. -/
theorem lt_blockCount_of_depthExceeded
    {bound : Nat}
    (cut : .depthExceeded bound ∈ engine.problems template data options) :
    options.maxDepth < ((engine.environment options).source ⟨template, 0⟩).blockCount := by
  refine Nat.lt_of_not_le fun enough => ?_
  have same : engine.run template data options = engine.runUnbounded template data options :=
    run_eq_runUnbounded enough
  have happened := failed_mem_events cut
  rw [same] at happened
  exact runUnbounded_uncut _ happened bound rfl

/-- The problem that stopped a rendering is one of its problems. -/
theorem mem_problems_of_failure
    {problem : Problem}
    (stopped : (engine.process template data options).failure? = some problem) :
    problem ∈ engine.problems template data options := by
  have abridges := engine.run_abridges template data options
  cases strict : options.strict with
  | false =>
    have same : { options with strict := false } = options := by rw [← strict]
    rw [same] at abridges
    have through := Report.failure?_lenient abridges template
    exact absurd (stopped.symm.trans through) (Option.some_ne_none problem)
  | true =>
    have same : { options with strict := true } = options := by rw [← strict]
    rw [same] at abridges
    rw [problems, Report.problems_of_failure abridges template stopped]
    exact List.mem_singleton_self problem

/-- Evaluation comes to an end by itself.  Every body of a text is shorter than the text, by the two
tags of its block at least.  So there is exactly one way of evaluating bodies that keeps no limit to
depth, and all limits that are not below the number of tags that open a block come to the same as
it.  A rendering reports that a body lies too deep only if a scan of the template hands out more
such tags than the limit. -/
theorem process_ends
    (engine : Engine)
    (template : Text)
    (data : Value)
    (options : Options) :
    let environment := engine.environment options
    let tags := (environment.source ⟨template, 0⟩).tags
    let blockCount := tags.countP Tag.opensBlock
    (∀ (source : Source), ∀ token ∈ source.parse.tokens, ∀ body ∈ token.bodies,
        Text.size body.text < Text.size source.text ∧
          ∃ opening ∈ source.tags, ∃ close ∈ source.tags, token.IsBlock opening close ∧
            Text.size body.text + opening.span.size + close.span.size ≤ Text.size source.text) ∧
      (∀ evaluateBody,
        environment.IsUnbounded evaluateBody ↔ evaluateBody = environment.evaluateUnbounded) ∧
      (∀ limit, blockCount ≤ limit →
        engine.process template data { options with maxDepth := limit } =
          Report.ofRun template (engine.runUnbounded template data options)) ∧
      (∃ abandoned unterminated?,
        (Scanner.ofText options.delimiters template).Yields tags abandoned unterminated?) ∧
      ∀ bound,
        .depthExceeded bound ∈ engine.problems template data options ∨
            (engine.process template data options).failure? = some (.depthExceeded bound) →
          options.maxDepth < blockCount := by
  intro environment tags blockCount
  refine ⟨?_, environment.isUnbounded_iff, ?_, ?_, ?_⟩
  · intro source token found body member
    have smaller := (Source.isBodyOf_of_mem_outline found member).size_add_le
    obtain ⟨opening, openingMember, close, closeMember, isBlock, size⟩ := smaller
    have wide := source.tags_ordered.1 opening openingMember
    refine ⟨?_, opening, openingMember, close, closeMember, isBlock, size⟩
    simp only [Span.size] at size
    omega
  · intro limit enough
    rw [process, run_eq_runUnbounded enough]
  · exact ⟨_, _, Scanner.yields_ofText options.delimiters template⟩
  · rintro bound (cut | stopped)
    · exact lt_blockCount_of_depthExceeded cut
    · exact lt_blockCount_of_depthExceeded (mem_problems_of_failure stopped)

/-- A loop in a branch lies too deep for the limit one, and for no other limit above it. -/
theorem process_ends_nested :
    let options : Options := { delimiters := ⟨"<".toList, ">".toList⟩, maxDepth := 1 }
    let engine : Engine := { registry := [] }
    let template := "<#if rows><#each rows>x</each></if>".toList
    let data := Value.object [("rows".toList, .array [.null, .null])]
    .depthExceeded 1 ∈ engine.problems template data options ∧
      options.maxDepth <
        ((engine.environment options).source ⟨template, 0⟩).tags.countP Tag.opensBlock ∧
      ∀ limit, 2 ≤ limit →
        engine.process template data { options with maxDepth := limit } =
          Report.ofRun template (engine.runUnbounded template data options) := by
  intro options engine template data
  obtain ⟨-, -, unlimited, -, low⟩ := engine.process_ends template data options
  have cut : .depthExceeded 1 ∈ engine.problems template data options := by decide +kernel
  have two :
      ((engine.environment options).source ⟨template, 0⟩).tags.countP Tag.opensBlock = 2 := by
    decide +kernel
  exact ⟨cut, low 1 (.inl cut), fun limit enough => unlimited limit (two ▸ enough)⟩

end Engine
end Stencil
