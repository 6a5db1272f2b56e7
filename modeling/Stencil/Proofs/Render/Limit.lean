import Stencil.Proofs.Render.Demand
import Stencil.Proofs.Render.Reading
import Stencil.Proofs.Render.Relocation

/-!
# Raising the limit to depth

The limit to depth only ever cuts bodies out of a rendering, and it says so.  A rendering in which
nothing is cut out comes to the same under every higher limit.
-/

namespace Stencil
namespace Run

/-- Whether a run was refused a body because it lay too deep. -/
def IsCut (run : Run α) : Prop := ∃ limit, .failed (.depthExceeded limit) ∈ run.events

/-- Whether a run does the same as another one unless it was cut. -/
def MatchesUnlessCut (run full : Run α) : Prop := run.IsCut ∨ run = full

namespace MatchesUnlessCut

theorem refl (run : Run α) : run.MatchesUnlessCut run := .inr rfl

theorem bind
    {run full : Run α}
    {next fullNext : α → Run β}
    (first : run.MatchesUnlessCut full)
    (later : ∀ result, run.outcome = .ok result →
      (next result).MatchesUnlessCut (fullNext result)) :
    (run >>= next).MatchesUnlessCut (full >>= fullNext) := by
  rcases first with ⟨limit, cut⟩ | rfl
  · refine .inl ⟨limit, ?_⟩
    cases ends : run.outcome with
    | error problem => rwa [bind_of_error next ends]
    | ok result =>
      rw [bind_of_ok next ends]
      exact List.mem_append_left _ cut
  · cases ends : run.outcome with
    | error problem =>
      rw [bind_of_error next ends, bind_of_error fullNext ends]
      exact .refl _
    | ok result =>
      rw [bind_of_ok next ends, bind_of_ok fullNext ends]
      rcases later result ends with ⟨limit, cut⟩ | same
      · exact .inl ⟨limit, List.mem_append_right _ cut⟩
      · rw [same]
        exact .refl _

theorem within
    {run full : Run α}
    (inside : run.MatchesUnlessCut full) :
    (Run.within run).MatchesUnlessCut (Run.within full) := by
  rcases inside with ⟨limit, cut⟩ | rfl
  · exact .inl ⟨limit, List.mem_append_left _ (List.mem_cons_of_mem _ cut)⟩
  · exact .refl _

theorem collect
    {each fullEach : α → Run β}
    {items : List α}
    (all : ∀ item ∈ items, (each item).MatchesUnlessCut (fullEach item)) :
    (Run.collect each items).MatchesUnlessCut (Run.collect fullEach items) := by
  induction items with
  | nil => exact .refl _
  | cons item items inductionHypothesis =>
    have later := inductionHypothesis fun other member =>
      all other (List.mem_cons_of_mem item member)
    exact (all item List.mem_cons_self).bind fun _ _ => later.bind fun _ _ => .refl _

end MatchesUnlessCut
end Run

namespace Environment

variable
  (environment : Environment)
  (limit higher : Nat)

/-- Two ways of evaluating bodies, of which the first one does the same as the second one unless it
is cut. -/
def BodiesMatch (evaluateBody fullBody : BodyEvaluator) : Prop :=
  ∀ body scopes, (evaluateBody body scopes).MatchesUnlessCut (fullBody body scopes)

/-- What stands for a token does not depend on the limit, so only bodies can be cut. -/
theorem token_matches
    {evaluateBody fullBody : BodyEvaluator}
    (bodies : BodiesMatch evaluateBody fullBody)
    (scope : Scope)
    (token : Token) :
    ((environment.withLimit limit).token evaluateBody scope token).MatchesUnlessCut
      ((environment.withLimit higher).token fullBody scope token) := by
  have same : (environment.withLimit limit).demand scope token =
      (environment.withLimit higher).demand scope token := rfl
  rw [token_eq_demand, token_eq_demand, same]
  refine Run.MatchesUnlessCut.bind (.refl _) fun demand _ => ?_
  cases demand with
  | text known => exact .refl _
  | body inside scopes => exact bodies inside scopes

theorem evaluate_matches
    {evaluateBody fullBody : BodyEvaluator}
    (bodies : BodiesMatch evaluateBody fullBody) :
    BodiesMatch ((environment.withLimit limit).evaluate evaluateBody)
      ((environment.withLimit higher).evaluate fullBody) := by
  intro body scopes
  have announced : (environment.withLimit limit).announce
      ((environment.withLimit limit).source body).parse =
        (environment.withLimit higher).announce
          ((environment.withLimit higher).source body).parse := rfl
  rw [evaluate_eq, evaluate_eq, announced]
  refine Run.MatchesUnlessCut.bind (.refl _) fun _ _ => ?_
  refine Run.MatchesUnlessCut.bind (.collect fun scope _ => ?_) fun _ _ => .refl _
  rw [substitute_eq, substitute_eq]
  refine Run.MatchesUnlessCut.bind (.collect fun token _ => ?_) fun _ _ => .refl _
  exact (environment.token_matches limit higher bodies scope token).bind fun _ _ => .refl _

/-- With more room for levels, a body is evaluated in the same way unless it is cut. -/
theorem evaluateBody_matches
    {room more : Nat}
    (enough : room ≤ more) :
    BodiesMatch ((environment.withLimit limit).evaluateBody room)
      ((environment.withLimit higher).evaluateBody more) := by
  induction room generalizing more with
  | zero =>
    intro body scopes
    refine .inl ⟨limit, ?_⟩
    rw [evaluateBody]
    change _ ∈ (Run.report environment.options.strict (.depthExceeded limit) >>= _).events
    cases environment.options.strict <;> exact List.mem_cons_self
  | succ room inductionHypothesis =>
    cases more with
    | zero => exact absurd enough (Nat.not_succ_le_zero room)
    | succ more =>
      intro body scopes
      rw [evaluateBody, evaluateBody]
      have bodies := inductionHypothesis (Nat.le_of_succ_le_succ enough)
      exact (environment.evaluate_matches limit higher bodies body scopes).within

theorem evaluateTemplate_matches
    (enough : limit ≤ higher)
    (template : Text)
    (data : Value) :
    ((environment.withLimit limit).evaluateTemplate template data).MatchesUnlessCut
      ((environment.withLimit higher).evaluateTemplate template data) :=
  environment.evaluate_matches limit higher
    (environment.evaluateBody_matches limit higher enough) _ _

end Environment

/-- A rendering in which nothing is cut out comes to the same under every higher limit. -/
theorem Engine.process_of_uncut
    (engine : Engine)
    {template : Text}
    {data : Value}
    {options : Options}
    {limit higher : Nat}
    (enough : limit ≤ higher)
    (uncut : ∀ bound, .depthExceeded bound ∉
      engine.problems template data { options with maxDepth := limit }) :
    engine.process template data { options with maxDepth := higher } =
      engine.process template data { options with maxDepth := limit } := by
  have evaluated := (engine.environment options).evaluateTemplate_matches limit higher enough
    template data
  have matched : (engine.run template data { options with maxDepth := limit }).MatchesUnlessCut
      (engine.run template data { options with maxDepth := higher }) :=
    evaluated.bind fun _ _ => .refl _
  rcases matched with ⟨bound, cut⟩ | same
  · have found : Problem.depthExceeded bound ∈
        engine.problems template data { options with maxDepth := limit } :=
      List.mem_filterMap.mpr ⟨_, cut, rfl⟩
    exact absurd found (uncut bound)
  · rw [process, process, same]

end Stencil
