import Stencil.Proofs.Render.Counter
import Stencil.Proofs.Render.Limit
import Stencil.Proofs.Source.Position

/-!
# The depth of an evaluation

Templates are evaluated here with a counter of depth, where the definition of evaluation hands down
the room for further levels.  The same things happen.  So the counter is at every step the number of
bodies that are being evaluated, never above the limit, and back where it was after every token,
also after one that stopped the rendering.
-/

namespace Stencil
namespace Counting

/-- What follows a run only has to agree on the result of the run. -/
theorem ofRun_bind_congr
    {run : Run α}
    {next other : α → Counting β}
    (same : ∀ result, run.outcome = .ok result → next result = other result) :
    (ofRun run >>= next) = (ofRun run >>= other) := by
  change Counting.bind _ _ = Counting.bind _ _
  funext depth
  simp only [Counting.bind, ofRun]
  cases ends : run.outcome with
  | error problem => rfl
  | ok result =>
    have here := congrFun (same result ends) depth
    simp only [here]

theorem collect_congr
    {each other : α → Counting β}
    {items : List α}
    (same : ∀ item ∈ items, each item = other item) :
    collect each items = collect other items := by
  induction items with
  | nil => rfl
  | cons item items inductionHypothesis =>
    rw [collect, collect, same item List.mem_cons_self,
      inductionHypothesis fun later member => same later (List.mem_cons_of_mem item member)]

end Counting

namespace Environment

variable (environment : Environment)

/-- The text of a token. -/
def countToken
    (countBody : Body → List Scope → Counting Text)
    (scope : Scope)
    (token : Token) : Counting Text := do
  match ← Counting.ofRun (environment.demand scope token) with
  | .text known => pure known
  | .body inside scopes => countBody inside scopes

/-- The edit that puts its text in place of a token. -/
def countEdit
    (countBody : Body → List Scope → Counting Text)
    (scope : Scope)
    (token : Token) : Counting Edit := do
  let replacement ← environment.countToken countBody scope token
  return ⟨token.span, replacement⟩

/-- A text, read once, in each of several scopes. -/
def countEvaluate
    (countBody : Body → List Scope → Counting Text)
    (body : Body)
    (scopes : List Scope) : Counting Text := do
  let parsed := (environment.source body).parse
  Counting.ofRun (environment.announce parsed)
  let texts ← Counting.collect
    (fun scope => do
      let edits ← Counting.collect (environment.countEdit countBody scope) parsed.tokens
      return Text.splice body.text edits)
    scopes
  return texts.flatten

/-- What comes of a body that lies too deep. -/
def refusal : Run Text := do
  environment.report (.depthExceeded environment.options.maxDepth)
  return []

/-- The body of a block, one level deeper.  The bodies inside are shorter than the body, so there
is an end to it. -/
def countBody (body : Body) (scopes : List Scope) : Counting Text :=
  Counting.nested environment.options.maxDepth environment.refusal <|
    environment.countEvaluate
      (fun inside scopes =>
        if inside.text.length < body.text.length then countBody inside scopes else pure [])
      body scopes
termination_by body.text.length

/-- A whole template. -/
def countTemplate (template : Text) (data : Value) : Counting Text :=
  environment.countEvaluate environment.countBody ⟨template, 0⟩ [Scope.root data]

section Congruence

variable {environment}
variable {countBody otherBody : Body → List Scope → Counting Text}

theorem countToken_congr
    {token : Token}
    (same : ∀ inside ∈ token.bodies, countBody inside = otherBody inside)
    (scope : Scope) :
    environment.countToken countBody scope token =
      environment.countToken otherBody scope token := by
  refine Counting.ofRun_bind_congr fun demand ends => ?_
  have isOf := environment.demand_isOf scope token demand ends
  cases demand with
  | text known => rfl
  | body inside scopes => exact congrFun (same inside isOf.1) scopes

/-- Of a text no other bodies are evaluated than those of its tokens. -/
theorem countEvaluate_congr
    {body : Body}
    (same : ∀ token ∈ (environment.source body).parse.tokens, ∀ inside ∈ token.bodies,
      countBody inside = otherBody inside)
    (scopes : List Scope) :
    environment.countEvaluate countBody body scopes =
      environment.countEvaluate otherBody body scopes := by
  have edits (scope : Scope) :
      Counting.collect (environment.countEdit countBody scope)
          (environment.source body).parse.tokens =
        Counting.collect (environment.countEdit otherBody scope)
          (environment.source body).parse.tokens :=
    Counting.collect_congr fun token found => by
      rw [countEdit, countEdit, countToken_congr (same token found)]
  simp only [countEvaluate, edits]

end Congruence

/-- The bodies inside a body are evaluated in the same way, for they are shorter. -/
theorem countBody_eq (body : Body) (scopes : List Scope) :
    environment.countBody body scopes =
      Counting.nested environment.options.maxDepth environment.refusal
        (environment.countEvaluate environment.countBody body scopes) := by
  rw [countBody]
  congr 1
  refine countEvaluate_congr (fun token found inside member => ?_) scopes
  have shorter := Source.length_lt_of_mem_bodies found member
  funext scopes
  exact if_pos shorter

section Following

variable {environment}
variable {limit depth : Nat}

theorem demand_flat (scope : Scope) (token : Token) :
    (environment.demand scope token).Records Event.IsFlat := by
  intro event member
  have plain := environment.demand_isPlain scope token event member
  cases event with
  | entered => exact Bool.noConfusion plain
  | left => exact Bool.noConfusion plain
  | _ => exact ⟨rfl, rfl⟩

theorem announce_flat (parsed : Parsed) :
    (environment.announce parsed).Records Event.IsFlat := by
  refine Run.Records.bind (.forAll fun _ _ => .record ⟨rfl, rfl⟩) fun _ _ => ?_
  refine Run.Records.bind (.forAll fun _ _ => .record ⟨rfl, rfl⟩) fun _ _ => ?_
  exact .forAll fun _ _ => .report ⟨rfl, rfl⟩ _

theorem refusal_flat : environment.refusal.Records Event.IsFlat :=
  Run.Records.bind (.report ⟨rfl, rfl⟩ _) fun _ _ => .pure _

/-- A way of evaluating bodies with a counter follows one without it, from a given depth. -/
def BodiesFollow
    (limit depth : Nat)
    (countBody : Body → List Scope → Counting Text)
    (evaluateBody : BodyEvaluator) : Prop :=
  ∀ body scopes, (countBody body scopes).Follows limit depth (evaluateBody body scopes)

variable {countBody : Body → List Scope → Counting Text} {evaluateBody : BodyEvaluator}

theorem countToken_follows
    (low : depth ≤ limit)
    (bodies : BodiesFollow limit depth countBody evaluateBody)
    (scope : Scope)
    (token : Token) :
    (environment.countToken countBody scope token).Follows limit depth
      (environment.token evaluateBody scope token) := by
  rw [token_eq_demand]
  refine Counting.Follows.bind (.ofRun low (demand_flat scope token)) fun demand _ => ?_
  cases demand with
  | text known => exact .pure low known
  | body inside scopes => exact bodies inside scopes

theorem countEvaluate_follows
    (low : depth ≤ limit)
    (bodies : BodiesFollow limit depth countBody evaluateBody) :
    BodiesFollow limit depth (environment.countEvaluate countBody)
      (environment.evaluate evaluateBody) := by
  intro body scopes
  rw [evaluate_eq]
  refine Counting.Follows.bind (.ofRun low (announce_flat _)) fun _ _ => ?_
  refine Counting.Follows.bind (.collect low fun scope _ => ?_) fun _ _ => .pure low _
  refine Counting.Follows.bind (.collect low fun token _ => ?_) fun _ _ => .pure low _
  exact (countToken_follows low bodies scope token).bind fun _ _ => .pure low _

/-- The counter and the room that is left add up to the limit. -/
theorem countBody_follows
    {room : Nat}
    (together : depth + room = environment.options.maxDepth) :
    BodiesFollow environment.options.maxDepth depth environment.countBody
      (environment.evaluateBody room) := by
  induction room generalizing depth with
  | zero =>
    intro body scopes
    rw [countBody_eq]
    exact .refused (Nat.le_of_eq together) (Nat.le_of_eq together.symm) refusal_flat _
  | succ room inductionHypothesis =>
    intro body scopes
    rw [countBody_eq]
    have low : depth < environment.options.maxDepth := by omega
    have bodies := @inductionHypothesis (depth + 1) (by omega)
    exact .nested low (countEvaluate_follows low bodies body scopes)

theorem countTemplate_follows (template : Text) (data : Value) :
    (environment.countTemplate template data).Follows environment.options.maxDepth 0
      (environment.evaluateTemplate template data) :=
  countEvaluate_follows (Nat.zero_le _) (countBody_follows (Nat.zero_add _)) _ _

end Following

end Environment

namespace Engine

/-- The limit to depth only ever cuts.  A rendering in which nothing is cut comes to the same under
every higher limit.  And a counter of depth, kept while the template is evaluated, is at every step
the number of bodies that have been begun and not ended, is never above the limit, and is back where
it was after every token, however the evaluation of the token ends. -/
theorem process_depth (engine : Engine) (template : Text) (data : Value) (options : Options) :
    let environment := engine.environment options
    let counted := environment.countTemplate template data 0
    let run := environment.evaluateTemplate template data
    (∀ least most, least ≤ most →
        (∀ bound, .depthExceeded bound ∉
          engine.problems template data { options with maxDepth := least }) →
        engine.process template data { options with maxDepth := most } =
          engine.process template data { options with maxDepth := least }) ∧
      (counted.steps.map Step.event = run.events ∧ counted.outcome = run.outcome ∧
        counted.depth = 0) ∧
      (∀ index : Fin counted.steps.length,
        let past := (counted.steps.take (index + 1)).map Step.event
        counted.steps[index].depth + past.countP Event.isExit = past.countP Event.isEntry ∧
          counted.steps[index].depth ≤ options.maxDepth) ∧
      ∀ depth ≤ options.maxDepth, ∀ scope token,
        (environment.countToken environment.countBody scope token depth).depth = depth := by
  intro environment counted run
  have follows := environment.countTemplate_follows template data
  refine ⟨fun least most enough uncut => engine.process_of_uncut enough uncut, ?_, ?_, ?_⟩
  · exact ⟨follows.events_eq, follows.outcome_eq, follows.depth_eq⟩
  · intro index past
    have split : counted.steps = counted.steps.take index ++
        counted.steps[index] :: counted.steps.drop (index + 1) := by
      rw [Fin.getElem_fin, List.getElem_cons_drop, List.take_append_drop]
    obtain ⟨level, low⟩ := follows.leads.depth_eq split
    rw [Fin.getElem_fin, List.take_append_getElem, Nat.zero_add] at level
    exact ⟨level, low⟩
  · intro depth low scope token
    have together : depth + (options.maxDepth - depth) = options.maxDepth := by omega
    exact (Environment.countToken_follows low (environment.countBody_follows together)
      scope token).depth_eq

/-- A loop in a branch goes two levels deep, so that no limit from two on changes anything. -/
theorem process_depth_two :
    let options : Options := { strict := true, delimiters := ⟨"<".toList, ">".toList⟩ }
    let template := "<#if rows><#each rows><this></each></if>".toList
    let data := Value.object [("rows".toList, .array [.bool true, .string "x".toList])]
    let engine : Engine := {}
    let environment := engine.environment options
    (∀ bound, .depthExceeded bound ∉
        engine.problems template data { options with maxDepth := 2 }) ∧
      engine.process template data { options with maxDepth := 3 } =
        engine.process template data { options with maxDepth := 2 } ∧
      ∀ scope, (environment.countToken environment.countBody scope
        ⟨.branch true "rows".toList [] ⟨template, 0⟩ none, template, ⟨0, 40⟩⟩ 5).depth = 5 := by
  intro options template data engine environment
  have none : engine.problems template data { options with maxDepth := 2 } = [] := by
    decide +kernel
  have uncut : ∀ bound, .depthExceeded bound ∉
      engine.problems template data { options with maxDepth := 2 } :=
    fun bound => none ▸ List.not_mem_nil
  have all := engine.process_depth template data options
  exact ⟨uncut, all.1 2 3 (by decide) uncut, fun scope => all.2.2.2 5 (by decide) scope _⟩

end Engine
end Stencil
