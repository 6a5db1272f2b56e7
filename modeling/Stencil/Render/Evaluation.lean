import Stencil.Options
import Stencil.Render.Run
import Stencil.Scope
import Stencil.Source
import Stencil.Text.Entity
import Stencil.Value.Coercion

/-!
# Evaluating templates

A text is read, each of its tokens is evaluated in a scope, and the results are spliced into the
text in place of the tokens.  The bodies of blocks are evaluated in the same way, one level deeper,
as long as there is room for another level.
-/

namespace Stencil

/-- What stays the same throughout one rendering. -/
structure Environment where
  /-- The settings. -/
  options : Options
  /-- The helpers. -/
  helpers : HelperScope

/-- How the bodies of blocks are evaluated: a body, in each of several scopes, into one text. -/
abbrev BodyEvaluator := Body → List Scope → Run Text

namespace Environment

/-- Find a problem, which stops a strict rendering. -/
def report (environment : Environment) (problem : Problem) : Run Unit :=
  Run.report environment.options.strict problem

/-- Find a variable or helper to be missing, which is a problem for a strict rendering only. -/
def reportMissing (environment : Environment) (path : Text) (problem : Problem) : Run Unit := do
  Run.record (.missing path)
  if environment.options.strict then environment.report problem else pure ()

/-- The value of an argument: a variable, a quoted literal, a number, or the word itself. -/
def argument (scope : Scope) (word : Text) : Run Value :=
  match scope.lookup? word with
  | some value => do
    Run.record (.used word)
    return value
  | none =>
    match Word.unquote? word with
    | some literal => pure (.string literal)
    | none =>
      match Double.ofText? word with
      | some (.finite value) => pure (.ofDouble (.finite value))
      | _ => pure (.string word)

/-- Call a helper.  A helper that fails is a problem and gives no value. -/
def call
    (environment : Environment)
    (name : Text)
    (helper : Helper)
    (words : List Text)
    (scope : Scope) : Run (Option Value) := do
  let arguments ← Run.collect (argument scope) words
  let answer := helper arguments
  Run.record (.called name arguments answer)
  match answer.toExcept with
  | .ok value => return some value
  | .error message => do
    environment.report (.helperFailed name message)
    return none

/-- The text of a variable. -/
def field (environment : Environment) (path : Text) (scope : Scope) : Run Text :=
  match (scope.lookup? path).filter fun value => !value.isNull with
  | some value => do
    Run.record (.used path)
    Run.record .substituted
    return if environment.options.escapesMarkup then Text.escapeMarkup value.text else value.text
  | none => do
    environment.reportMissing path (.missingVariable path)
    return environment.options.fallback?.getD []

/-- The text of a call of a helper. -/
def callText
    (environment : Environment)
    (name : Text)
    (words : List Text)
    (scope : Scope) : Run Text :=
  match environment.helpers.get? name with
  | none => do
    environment.reportMissing name (.missingHelper name)
    return []
  | some helper => do
    let value? ← environment.call name helper words scope
    return (value?.map Value.text).getD []

/-- The truth of a condition: of the answer of a helper when there are arguments, and otherwise of
a variable. -/
def condition
    (environment : Environment)
    (path : Text)
    (words : List Text)
    (scope : Scope) : Run Bool :=
  if words.isEmpty then
    match scope.lookup? path with
    | some value => do
      Run.record (.used path)
      return Value.truth (some value)
    | none => pure (Value.truth none)
  else
    match environment.helpers.get? path with
    | none => do
      environment.reportMissing path (.missingHelper path)
      return false
    | some helper => do
      let value? ← environment.call path helper words scope
      return Value.truth value?

/-- The scopes of a loop: one for each item, with its position in the list. -/
def loopScopes (scope : Scope) (items : List Value) : List Scope :=
  items.zipIdx.map fun (item, index) =>
    scope.enter item ⟨index, index = 0, index + 1 = items.length⟩

/-- The text of a loop. -/
def loop
    (environment : Environment)
    (evaluateBody : BodyEvaluator)
    (path : Text)
    (body : Body)
    (scope : Scope) : Run Text :=
  match scope.lookup? path with
  | some (.array items) => do
    Run.record (.used path)
    Run.record .unrolled
    evaluateBody body (loopScopes scope items)
  | _ =>
    if environment.options.strict then do
      environment.report (.notIterable path)
      return []
    else do
      Run.record (.noticed (.notIterable path))
      return []

/-- The text of a block with a condition. -/
def branch
    (environment : Environment)
    (evaluateBody : BodyEvaluator)
    (wanted : Bool)
    (path : Text)
    (words : List Text)
    (body : Body)
    (alternative? : Option Body)
    (scope : Scope) : Run Text := do
  let holds ← environment.condition path words scope
  Run.record .decided
  match if holds = wanted then some body else alternative? with
  | some chosen => evaluateBody chosen [scope]
  | none => return []

/-- The text that stands for a token. -/
def token
    (environment : Environment)
    (evaluateBody : BodyEvaluator)
    (scope : Scope)
    (token : Token) : Run Text :=
  match token.form with
  | .field path => environment.field path scope
  | .call name words => environment.callText name words scope
  | .branch wanted path words body alternative? =>
    environment.branch evaluateBody wanted path words body alternative? scope
  | .loop path body => environment.loop evaluateBody path body scope

/-- Read a text, with the notices and problems of its tags. -/
def read (environment : Environment) (body : Body) : Run (List Token) := do
  let parsed :=
    Source.parse ⟨body.text, body.offset, environment.options.delimiters,
      environment.helpers.contains⟩
  Run.forAll (fun offset => Run.record (.noticed (.unterminated offset)))
    parsed.unterminated?.toList
  Run.forAll (fun offset => Run.record (.noticed (.reopened offset))) parsed.abandoned
  Run.forAll environment.report parsed.problems
  return parsed.tokens

/-- A text with each of its tokens replaced by what stands for it in a scope. -/
def substitute
    (environment : Environment)
    (evaluateBody : BodyEvaluator)
    (text : Text)
    (tokens : List Token)
    (scope : Scope) : Run Text := do
  let edits ← Run.collect
    (fun found => do
      let replacement ← environment.token evaluateBody scope found
      return Edit.mk found.span replacement)
    tokens
  return Text.splice text edits

/-- Evaluate a text, read once, in each of several scopes. -/
def evaluate (environment : Environment) (evaluateBody : BodyEvaluator) : BodyEvaluator :=
  fun body scopes => do
    let tokens ← environment.read body
    let texts ← Run.collect (environment.substitute evaluateBody body.text tokens) scopes
    return texts.flatten

/-- Evaluate the body of a block where there is room for a number of further levels. -/
def evaluateBody (environment : Environment) : Nat → BodyEvaluator
  | 0 => fun _ _ => do
    environment.report (.depthExceeded environment.options.maxDepth)
    return []
  | room + 1 => fun body scopes =>
    Run.within (environment.evaluate (environment.evaluateBody room) body scopes)

/-- Evaluate a whole template against data. -/
def evaluateTemplate (environment : Environment) (template : Text) (data : Value) : Run Text :=
  environment.evaluate (environment.evaluateBody environment.options.maxDepth)
    ⟨template, 0⟩ [Scope.root data]

end Environment
end Stencil
