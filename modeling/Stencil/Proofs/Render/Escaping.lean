import Stencil.Proofs.Dictionary
import Stencil.Proofs.Render.Demand
import Stencil.Proofs.Render.Reading
import Stencil.Proofs.Source.Bodies
import Stencil.Proofs.Text.Markup

/-!
# Data cannot bring markup into the output

When escaping is on, variables come into the output escaped.  So if there is no markup in the
template, in the text for variables without a value and in the answers of the helpers, then there is
none in the output, whatever the data.
-/

namespace Stencil

/-- A helper that is known in a scope is an override or is registered. -/
theorem HelperScope.mem_of_get?
    {scope : HelperScope}
    {name : Text}
    {helper : Helper}
    (known : scope.get? name = some helper) :
    (name, helper) ∈ scope.overrides ∨ (name, helper) ∈ scope.base := by
  rw [get?] at known
  split at known
  · next overriding =>
    obtain rfl := Option.some.inj known
    exact .inl (Dictionary.mem_of_get? overriding)
  · exact .inr (Dictionary.mem_of_get? known)

/-- A body is a part of the text around it. -/
theorem Source.text_subset_of_mem_bodies
    {source : Source}
    {token : Token}
    {body : Body}
    (found : token ∈ source.parse.tokens)
    (member : body ∈ token.bodies) : body.text ⊆ source.text := by
  obtain ⟨early, left, middle, right, late, -, rfl⟩ := isBetween_of_mem_outline found member
  exact Text.slice_subset source.text _ _

/-- Whether bodies without markup are evaluated to texts without markup. -/
def BodyEvaluator.IsInert (evaluateBody : BodyEvaluator) : Prop :=
  ∀ body scopes, body.text.IsInert → (evaluateBody body scopes).Ends Text.IsInert

namespace Environment

/-- Whether an environment adds no markup of its own to what it renders. -/
structure IsGuarded (environment : Environment) : Prop where
  /-- Variables are escaped. -/
  escapes : environment.options.escapesMarkup = true
  /-- The text for variables without a value has no markup. -/
  fallback : ∀ text, environment.options.fallback? = some text → text.IsInert
  /-- Every helper fails or answers with a value whose text has no markup. -/
  helpers : ∀ name helper, environment.helpers.get? name = some helper →
    ∀ arguments value, helper arguments = .value value → value.text.IsInert

variable
  {environment : Environment}
  (guarded : environment.IsGuarded)

include guarded

/-- A variable comes into the output escaped, or its fallback does. -/
theorem field_isInert (path : Text) (scope : Scope) :
    (environment.field path scope).Ends Text.IsInert := by
  unfold field
  split
  · refine .bind fun _ _ => .bind fun _ _ => .pure ?_
    rw [if_pos guarded.escapes]
    exact Text.isInert_escapeMarkup _
  · refine .bind fun _ _ => .pure ?_
    cases given : environment.options.fallback? with
    | none => exact Text.isInert_nil
    | some text => exact guarded.fallback text given

theorem call_isInert
    {name : Text}
    {helper : Helper}
    (known : environment.helpers.get? name = some helper)
    (words : List Text)
    (scope : Scope) :
    (environment.call name helper words scope).Ends fun value? =>
      ∀ value, value? = some value → value.text.IsInert := by
  unfold call
  refine .bind fun arguments _ => .bind fun _ _ => ?_
  cases answer : helper arguments with
  | value result =>
    refine .pure fun value same => ?_
    rw [← Option.some.inj same]
    exact guarded.helpers name helper known arguments result answer
  | failure message => exact .bind fun _ _ => .pure fun value none => nomatch none
  | breakdown message? => exact .bind fun _ _ => .pure fun value none => nomatch none

theorem callText_isInert (name : Text) (words : List Text) (scope : Scope) :
    (environment.callText name words scope).Ends Text.IsInert := by
  unfold callText
  cases known : environment.helpers.get? name with
  | none => exact .bind fun _ _ => .pure Text.isInert_nil
  | some helper =>
    refine .bind fun value? ends => .pure ?_
    cases value? with
    | none => exact Text.isInert_nil
    | some value => exact call_isInert guarded known words scope _ ends value rfl

/-- A text that stands for a token has no markup. -/
theorem demand_isInert (scope : Scope) (token : Token) :
    (environment.demand scope token).Ends fun demand =>
      ∀ text, demand = .text text → text.IsInert := by
  unfold demand
  cases token.form with
  | field path =>
    refine .bind fun result ends => .pure fun text same => ?_
    rw [← Demand.text.inj same]
    exact field_isInert guarded path scope result ends
  | call name words =>
    refine .bind fun result ends => .pure fun text same => ?_
    rw [← Demand.text.inj same]
    exact callText_isInert guarded name words scope result ends
  | branch wanted path words body alternative? =>
    refine .bind fun holds _ => .bind fun _ _ => ?_
    cases if holds = wanted then some body else alternative? with
    | some chosen => exact .pure fun text other => nomatch other
    | none => exact .pure fun text same => Demand.text.inj same ▸ Text.isInert_nil
  | loop path body =>
    have passedOver : ∀ text, Demand.text [] = .text text → text.IsInert :=
      fun text same => Demand.text.inj same ▸ Text.isInert_nil
    dsimp only
    split
    · exact .bind fun _ _ => .bind fun _ _ => .pure fun text other => nomatch other
    · split
      · exact .bind fun _ _ => .pure passedOver
      · exact .bind fun _ _ => .pure passedOver

theorem token_isInert
    {evaluateBody : BodyEvaluator}
    (bodies : evaluateBody.IsInert)
    {token : Token}
    (inside : ∀ body ∈ token.bodies, body.text.IsInert)
    (scope : Scope) : (environment.token evaluateBody scope token).Ends Text.IsInert := by
  rw [token_eq_demand]
  refine .bind fun demand ends => ?_
  have text := demand_isInert guarded scope token demand ends
  have isOf := environment.demand_isOf scope token demand ends
  cases demand with
  | text known => exact .pure (text known rfl)
  | body body scopes => exact bodies body scopes (inside body isOf.1)

theorem evaluate_isInert
    {evaluateBody : BodyEvaluator}
    (bodies : evaluateBody.IsInert) : (environment.evaluate evaluateBody).IsInert := by
  intro body scopes inert
  rw [evaluate_eq]
  refine .bind fun _ _ => .bind fun texts ends => .pure (.flatten ?_)
  refine Run.Ends.collect (fun scope _ => ?_) texts ends
  rw [substitute_eq]
  refine .bind fun edits edited => .pure (inert.spliceFrom ?_ 0)
  refine Run.Ends.collect (fun token found => ?_) edits edited
  refine .bind fun replacement ends => .pure ?_
  refine token_isInert guarded bodies (fun inner member => ?_) scope replacement ends
  exact inert.of_subset (Source.text_subset_of_mem_bodies found member)

theorem evaluateBody_isInert (room : Nat) : (environment.evaluateBody room).IsInert := by
  induction room with
  | zero => exact fun body scopes _ => .bind fun _ _ => .pure Text.isInert_nil
  | succ room inductionHypothesis =>
    intro body scopes inert
    exact (evaluate_isInert guarded inductionHypothesis body scopes inert).within

end Environment

namespace Engine

/-- A rendering that escapes variables puts out no markup, if there is none in the template, in the
text for variables without a value and in the answers of the helpers. -/
theorem process_isInert
    (engine : Engine)
    {template : Text}
    {options : Options}
    (plain : template.IsInert)
    (guarded : (engine.environment options).IsGuarded)
    (data : Value) : (engine.process template data options).output.IsInert := by
  have bodies := Environment.evaluateBody_isInert guarded options.maxDepth
  have evaluated :=
    Environment.evaluate_isInert guarded bodies ⟨template, 0⟩ [Scope.root data] plain
  have rendered : (engine.run template data options).Ends Text.IsInert := by
    refine .bind fun output ends => .pure ?_
    have inert := evaluated output ends
    split
    · exact inert.of_subset (Text.trim_subset output)
    · exact inert
  rw [process, Report.ofRun]
  cases ends : (engine.run template data options).outcome with
  | ok output => exact rendered output ends
  | error problem => exact plain

/-- Items with markup in a loop, with a helper that answers, one that fails and a variable that is
missing. -/
theorem process_isInert_items :
    let options : Options :=
      { escapesMarkup := true
        fallback? := some "none".toList
        overrides := [("fail".toList, fun _ => .failure "<".toList)]
        delimiters := ⟨"[[".toList, "]]".toList⟩ }
    let engine : Engine := { registry := [("mark".toList, fun _ => .value (.bool true))] }
    let template := "[[#each rows]][[this]] [[mark this]]
      [[#if fail this]]?[[else]][[nobody]][[/if]][[/each]]".toList
    let data := Value.object [("rows".toList, .array [.string "<b>".toList, .object []])]
    Text.IsInert template ∧ (engine.environment options).IsGuarded ∧
      (engine.process template data options).output.IsInert := by
  intro options engine template data
  have plain : Text.IsInert template := by decide +kernel
  have guarded : (engine.environment options).IsGuarded := by
    refine ⟨rfl, fun text given => ?_, fun name helper known arguments value answer => ?_⟩
    · rw [← Option.some.inj given]
      decide
    · rcases HelperScope.mem_of_get? known with overriding | registered
      · obtain ⟨-, rfl⟩ := Prod.mk.inj (List.mem_singleton.mp overriding)
        exact nomatch answer
      · obtain ⟨-, rfl⟩ := Prod.mk.inj (List.mem_singleton.mp registered)
        obtain rfl := HelperAnswer.value.inj answer
        decide
  exact ⟨plain, guarded, engine.process_isInert plain guarded data⟩

end Engine
end Stencil
