import Stencil.Proofs.Dictionary
import Stencil.Proofs.Render.Demand

/-!
# Helpers for one rendering

The helpers of a rendering are asked in two roles: whether there is one of a name, when the words of
a tag are read at some depth, and which one it is, when it is called.  Both answers are those of one
lookup.  So a rendering depends on its helpers through that lookup only, and helpers that are laid
over a registry for one rendering do what they would do as part of it.
-/

namespace Stencil

/-- Which names are names of helpers can be read off the lookup. -/
theorem HelperScope.contains_congr
    {left right : HelperScope}
    (same : left.get? = right.get?) : left.contains = right.contains := by
  funext name
  rw [contains_eq_isSome_get?, contains_eq_isSome_get?, same]

namespace Environment

/-- The same rendering with other helpers. -/
def withHelpers (environment : Environment) (helpers : HelperScope) : Environment :=
  ⟨{ environment.options with overrides := helpers.overrides }, helpers⟩

variable
  (environment : Environment)
  {left right : HelperScope}
  (same : left.get? = right.get?)

include same

theorem source_withHelpers :
    (environment.withHelpers left).source = (environment.withHelpers right).source := by
  funext body
  have contains : (environment.withHelpers left).helpers.contains =
      (environment.withHelpers right).helpers.contains := HelperScope.contains_congr same
  rw [source, source, contains]
  rfl

theorem callText_withHelpers :
    (environment.withHelpers left).callText = (environment.withHelpers right).callText := by
  funext name words scope
  have found : (environment.withHelpers left).helpers.get? name =
      (environment.withHelpers right).helpers.get? name := congrFun same name
  rw [callText, callText, found]
  rfl

theorem condition_withHelpers :
    (environment.withHelpers left).condition = (environment.withHelpers right).condition := by
  funext path words scope
  have found : (environment.withHelpers left).helpers.get? path =
      (environment.withHelpers right).helpers.get? path := congrFun same path
  rw [condition, condition, found]
  rfl

theorem demand_withHelpers :
    (environment.withHelpers left).demand = (environment.withHelpers right).demand := by
  funext scope token
  have callText := environment.callText_withHelpers same
  have condition := environment.condition_withHelpers same
  rw [demand, demand, callText, condition]
  rfl

theorem substitute_withHelpers (evaluateBody : BodyEvaluator) :
    (environment.withHelpers left).substitute evaluateBody =
      (environment.withHelpers right).substitute evaluateBody := by
  funext text tokens scope
  have token : (environment.withHelpers left).token evaluateBody scope =
      (environment.withHelpers right).token evaluateBody scope := by
    funext token
    rw [token_eq_demand, token_eq_demand, environment.demand_withHelpers same]
  rw [substitute, substitute, token]

theorem evaluate_withHelpers (evaluateBody : BodyEvaluator) :
    (environment.withHelpers left).evaluate evaluateBody =
      (environment.withHelpers right).evaluate evaluateBody := by
  funext body scopes
  rw [evaluate_eq, evaluate_eq, environment.source_withHelpers same,
    environment.substitute_withHelpers same]
  rfl

/-- At every depth, helpers that are found under the same names do the same. -/
theorem evaluateBody_withHelpers (room : Nat) :
    (environment.withHelpers left).evaluateBody room =
      (environment.withHelpers right).evaluateBody room := by
  induction room with
  | zero => rfl
  | succ room inductionHypothesis =>
    funext body scopes
    rw [evaluateBody, evaluateBody, inductionHypothesis, environment.evaluate_withHelpers same]

theorem evaluateTemplate_withHelpers :
    (environment.withHelpers left).evaluateTemplate =
      (environment.withHelpers right).evaluateTemplate := by
  funext template data
  have limit : (environment.withHelpers left).options.maxDepth =
      (environment.withHelpers right).options.maxDepth := rfl
  rw [evaluateTemplate, evaluateTemplate, limit, environment.evaluateBody_withHelpers same,
    environment.evaluate_withHelpers same]

end Environment

namespace Engine

/-- Helpers for one rendering do what they would do as part of the registry, whichever helpers and
data have their names.  They may be registered in any order. -/
theorem process_overrides
    (engine : Engine)
    {options : Options}
    (distinct : (Dictionary.keys options.overrides).Nodup)
    {helpers : Registry}
    (same : helpers.Perm options.overrides)
    (template : Text)
    (data : Value) :
    engine.process template data options =
      (engine.registerAll helpers).process template data { options with overrides := [] } := by
  have lookup : HelperScope.get? ⟨options.overrides, engine.registry⟩ =
      HelperScope.get? ⟨[], (engine.registerAll helpers).registry⟩ := by
    have helpersDistinct : (Dictionary.keys helpers).Nodup :=
      (same.map Prod.fst).nodup_iff.mpr distinct
    funext name
    rw [HelperScope.get?_eq_or, HelperScope.get?_eq_or, registerAll,
      Dictionary.get?_insertAll helpersDistinct, Dictionary.get?_of_perm same helpersDistinct,
      Dictionary.get?_nil, Option.none_or]
  have evaluated := (engine.environment options).evaluateTemplate_withHelpers lookup
  have run : engine.run template data options =
      (engine.registerAll helpers).run template data { options with overrides := [] } :=
    congrArg (fun evaluate => evaluate template data >>= _) evaluated
  rw [process, process, run]

/-- One of the helpers has the name of a built-in helper and the other one that of an entry of the
data.  Both are used inside a loop: in a condition, and as the only word of a tag. -/
theorem process_overrides_colliding :
    let greet : Helper := fun _ => .value (.string "hello".toList)
    let refuse : Helper := fun arguments => .value (.bool arguments.isEmpty)
    let plain : Options := { delimiters := ⟨"[[".toList, "]]".toList⟩ }
    let options := { plain with overrides := [("name".toList, greet), ("upper".toList, refuse)] }
    let helpers := [("upper".toList, refuse), ("name".toList, greet)]
    let template := "[[#each rows]][[#if upper name]]a[[else]][[name]];[[/if]][[/each]]".toList
    let data := Value.object
      [("name".toList, .string "Ada".toList), ("rows".toList, .array [.null, .null])]
    (Dictionary.keys options.overrides).Nodup ∧ helpers.Perm options.overrides ∧
      (({} : Engine).process template data options).output = "hello;hello;".toList ∧
      ({} : Engine).process template data options =
        (({} : Engine).registerAll helpers).process template data plain := by
  intro greet refuse plain options helpers template data
  have distinct : (Dictionary.keys options.overrides).Nodup := by decide +kernel
  have same : helpers.Perm options.overrides := .swap _ _ _
  exact ⟨distinct, same, by decide +kernel, process_overrides {} distinct same template data⟩

end Engine
end Stencil
