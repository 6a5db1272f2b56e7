import Stencil.Proofs.Tree.Interpretation

/-!
# Evaluating the parts of a tree

The evaluation of variables, calls and conditions goes through and yields what the interpreter says,
unless it is strict.
-/

namespace Stencil

namespace Environment

variable
  {environment : Environment}
  (tolerant : environment.options.strict = false)
  (scope : Scope)

theorem argument_yields (word : Text) :
    (argument scope word).Yields (Interpreter.argument scope word)
      { used := if (scope.lookup? word).isSome then [word] else [] } := by
  rw [argument, Interpreter.argument]
  cases scope.lookup? word with
  | some value => exact ⟨rfl, rfl⟩
  | none =>
    cases Word.unquote? word with
    | some literal => exact ⟨rfl, rfl⟩
    | none =>
      cases Double.ofText? word with
      | none => exact ⟨rfl, rfl⟩
      | some number => cases number <;> exact ⟨rfl, rfl⟩

theorem arguments_yield (words : List Text) :
    (Run.collect (argument scope) words).Yields (words.map (Interpreter.argument scope))
      { used := words.filter fun word => (scope.lookup? word).isSome } := by
  induction words with
  | nil => exact ⟨rfl, rfl⟩
  | cons word words inductionHypothesis =>
    have whole := (argument_yields scope word).collect_cons inductionHypothesis
    rw [List.filter_cons]
    cases known : (scope.lookup? word).isSome with
    | true =>
      rw [known] at whole
      exact whole
    | false =>
      rw [known] at whole
      exact whole

include tolerant

theorem report_yields (problem : Problem) :
    (environment.report problem).Yields () { problems := [problem] } := by
  rw [report, tolerant]
  exact ⟨rfl, rfl⟩

theorem reportMissing_yields (path : Text) (problem : Problem) :
    (environment.reportMissing path problem).Yields () { missing := [path] } := by
  rw [reportMissing, tolerant]
  exact ⟨rfl, rfl⟩

theorem field_yields (path : Text) :
    (environment.field path scope).Yields (Interpreter.field environment scope path).result
      (Interpreter.field environment scope path).account := by
  have missing := (reportMissing_yields tolerant path (.missingVariable path)).map
    fun _ => environment.options.fallback?.getD []
  rw [field, Interpreter.field]
  cases scope.lookup? path with
  | none => exact missing
  | some value =>
    cases value with
    | null => exact missing
    | _ => exact ⟨rfl, rfl⟩

theorem call_yields
    {name : Text}
    {helper : Helper}
    (found : environment.helpers.get? name = some helper)
    (words : List Text) :
    (environment.call name helper words scope).Yields
      (Interpreter.call environment scope name words).result
      (Interpreter.call environment scope name words).account := by
  have values := arguments_yield scope words
  have failed (message : Text) := report_yields tolerant (.helperFailed name message)
  rw [call, Interpreter.call, found]
  dsimp only
  cases answered : helper (words.map (Interpreter.argument scope)) with
  | value result =>
    apply values.bind
    rw [answered]
    exact ⟨rfl, rfl⟩
  | failure message =>
    apply values.bind
    rw [answered, ← Account.empty_append { problems := _ }]
    exact (Run.Yields.record _).bind ((failed message).map fun _ => none)
  | breakdown message? =>
    apply values.bind
    rw [answered, ← Account.empty_append { problems := _ }]
    exact (Run.Yields.record _).bind ((failed _).map fun _ => none)

theorem callText_yields (name : Text) (words : List Text) :
    (environment.callText name words scope).Yields
      (((Interpreter.call environment scope name words).result.map Value.text).getD [])
      (Interpreter.call environment scope name words).account := by
  rw [callText]
  cases found : environment.helpers.get? name with
  | none =>
    rw [Interpreter.call, found]
    exact (reportMissing_yields tolerant name (.missingHelper name)).map fun _ => []
  | some helper =>
    exact (call_yields tolerant scope found words).map fun value? =>
      (value?.map Value.text).getD []

theorem condition_yields (path : Text) (words : List Text) :
    (environment.condition path words scope).Yields
      (Interpreter.condition environment scope path words).result
      (Interpreter.condition environment scope path words).account := by
  rw [condition, Interpreter.condition]
  cases words.isEmpty with
  | true =>
    dsimp only
    cases scope.lookup? path <;> exact ⟨rfl, rfl⟩
  | false =>
    dsimp only
    cases found : environment.helpers.get? path with
    | none =>
      rw [Interpreter.call, found]
      exact (reportMissing_yields tolerant path (.missingHelper path)).map fun _ => false
    | some helper => exact (call_yields tolerant scope found words).map Value.truth

/-- The token of an expression is evaluated as the expression. -/
theorem expression_yields
    (evaluateBody : BodyEvaluator)
    {token : Token}
    {name : Text}
    {arguments : List Text}
    (form : token.form = .ofWords environment.helpers.contains (name :: arguments)) :
    (environment.token evaluateBody scope token).Yields
      (Interpreter.expression environment scope name arguments).result
      (Interpreter.expression environment scope name arguments).account := by
  rw [Environment.token, form, Interpreter.expression]
  cases arguments with
  | nil =>
    rw [Token.Form.ofWords, HelperScope.contains_eq_isSome_get?]
    cases name.contains '.' with
    | true => exact field_yields tolerant scope name
    | false =>
      cases found : environment.helpers.get? name with
      | none => exact field_yields tolerant scope name
      | some helper => exact callText_yields tolerant scope name []
  | cons word words => exact callText_yields tolerant scope name (word :: words)

/-- A block with a condition goes on with the body that its condition chooses. -/
theorem branch_yields
    {evaluateBody : BodyEvaluator}
    {token : Token}
    {wanted : Bool}
    {path : Text}
    {words : List Text}
    {body : Body}
    {alternative? : Option Body}
    (form : token.form = .branch wanted path words body alternative?)
    {bodyText otherwise : Accounted Text}
    (bodyYields : (evaluateBody body [scope]).Yields bodyText.result bodyText.account)
    (otherwiseYields :
      match alternative? with
      | some alternative =>
        (evaluateBody alternative [scope]).Yields otherwise.result otherwise.account
      | none => otherwise = ⟨[], {}⟩) :
    let condition := Interpreter.condition environment scope path words
    let chosen := if condition.result = wanted then bodyText else otherwise
    (environment.token evaluateBody scope token).Yields chosen.result
      (condition.account ++ ({ counters := ⟨0, 1, 0, 0⟩ } ++ chosen.account)) := by
  intro condition chosen
  rw [Environment.token, form]
  dsimp only
  rw [branch]
  refine (condition_yields tolerant scope path words).bind ((Run.Yields.record .decided).bind ?_)
  by_cases holds : condition.result = wanted
  · have chosenBody : chosen = bodyText := if_pos holds
    rw [if_pos holds, chosenBody]
    exact bodyYields
  · have chosenOtherwise : chosen = otherwise := if_neg holds
    rw [if_neg holds, chosenOtherwise]
    cases alternative? with
    | some alternative => exact otherwiseYields
    | none =>
      obtain rfl := otherwiseYields
      exact .pure []

/-- A loop goes on with its body in the scopes of all items, if there is a list. -/
theorem loop_yields
    {evaluateBody : BodyEvaluator}
    {token : Token}
    {path : Text}
    {body : Body}
    (form : token.form = .loop path body)
    {texts : List Value → Accounted Text}
    (bodyYields : ∀ items, (evaluateBody body (loopScopes scope items)).Yields
      (texts items).result (texts items).account) :
    let here : Accounted Text :=
      match scope.lookup? path with
      | some (.array items) =>
        ⟨(texts items).result,
          { used := [path] } ++ ({ counters := ⟨0, 0, 1, 0⟩ } ++ (texts items).account)⟩
      | _ => ⟨[], { notices := [.notIterable path] }⟩
    (environment.token evaluateBody scope token).Yields here.result here.account := by
  intro here
  have passedOver : (do
      Run.record (.noticed (.notIterable path))
      return []).Yields ([] : Text) { notices := [.notIterable path] } :=
    (Run.Yields.record (.noticed (.notIterable path))).map fun _ => []
  rw [Environment.token, form]
  dsimp only [here]
  rw [loop, tolerant]
  cases scope.lookup? path with
  | none => exact passedOver
  | some value =>
    cases value with
    | array items =>
      exact (Run.Yields.record (.used path)).bind
        ((Run.Yields.record .unrolled).bind (bodyYields items))
    | _ => exact passedOver

end Environment
end Stencil
