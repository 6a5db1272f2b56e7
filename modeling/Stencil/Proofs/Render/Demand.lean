import Stencil.Proofs.Render.Contract
import Stencil.Proofs.Render.Reading
import Stencil.Proofs.Render.Replacement

/-!
# What stands for a token

A token is evaluated in two parts.  The first part looks at the data and calls helpers, and it ends
with a text, or with a body of the token that stands in its place.  The second part evaluates the
body.  So everything that is said about tags and depth is said in the second part.
-/

namespace Stencil

/-- Whether a problem is about the tags or the blocks of a template, rather than about the data. -/
def Problem.isStructural : Problem → Bool
  | .missingVariable _ => false
  | .missingHelper _ => false
  | .notIterable _ => false
  | .helperFailed _ _ => false
  | _ => true

/-- Whether a notice is about the tags of a template, rather than about the data. -/
def Notice.isStructural : Notice → Bool
  | .notIterable _ => false
  | _ => true

/-- Whether an event is about the tags or the blocks of a template, rather than about the data. -/
def Event.isStructural : Event → Bool
  | .failed problem => problem.isStructural
  | .noticed notice => notice.isStructural
  | .entered => true
  | .left => true
  | _ => false

/-- Whether an event names a variable or a helper. -/
def Event.isNaming : Event → Bool
  | .used _ => true
  | .missing _ => true
  | _ => false

/-- Whether all that a run records is about the data. -/
def Run.IsPlain (run : Run α) : Prop := run.Records fun event => event.isStructural = false

/-- What stands for a token. -/
inductive Demand where
  /-- A text. -/
  | text (text : Text)
  /-- What a body comes to in each of several scopes. -/
  | body (body : Body) (scopes : List Scope)

/-- Whether a token is a loop. -/
def Token.isLoop (token : Token) : Bool :=
  match token.form with
  | .loop _ _ => true
  | _ => false

/-- What may be recorded before a body of a token is evaluated.  A word of the token is used where
it has a value.  A variable is missing that is undefined or null, and so is a helper that is called
and that there is none of.  Nothing else is named, and nothing is said about tags and depth. -/
inductive Token.MayRecord (helpers : HelperScope) (scope : Scope) (token : Token) :
    Event → Prop where
  | used
    {path : Text}
    (word : path ∈ token.path :: token.arguments)
    (found : (scope.lookup? path).isSome) : MayRecord helpers scope token (.used path)
  | missingVariable
    {path : Text}
    (form : token.form = .field path)
    (empty : scope.lookup? path = none ∨ scope.lookup? path = some .null) :
    MayRecord helpers scope token (.missing path)
  | missingHelper
    {name : Text}
    {arguments : List Text}
    (form : token.form = .call name arguments)
    (unknown : helpers.get? name = none) : MayRecord helpers scope token (.missing name)
  | missingTest
    {wanted : Bool}
    {name argument : Text}
    {others : List Text}
    {body : Body}
    {alternative? : Option Body}
    (form : token.form = .branch wanted name (argument :: others) body alternative?)
    (unknown : helpers.get? name = none) : MayRecord helpers scope token (.missing name)
  | unnamed
    {event : Event}
    (unnamed : event.isNaming = false)
    (plain : event.isStructural = false) : MayRecord helpers scope token event

/-- A variable has nothing to show when its value is undefined or null. -/
theorem Value.filter_isNull_eq_none_iff {value? : Option Value} :
    (value?.filter fun value => !value.isNull) = none ↔ value? = none ∨ value? = some .null := by
  rcases value? with _ | value
  · simp
  · cases value <;> simp [Value.isNull]

namespace Demand

/-- The text that is demanded. -/
def meet (evaluateBody : BodyEvaluator) : Demand → Run Text
  | .text known => pure known
  | .body inside scopes => evaluateBody inside scopes

/-- Whether a body that is demanded belongs to a token, and is evaluated in the scope of the token
alone unless the token is a loop. -/
def IsOf (token : Token) (scope : Scope) : Demand → Prop
  | .text _ => True
  | .body inside scopes => inside ∈ token.bodies ∧ (token.isLoop ∨ scopes = [scope])

end Demand

namespace Environment

variable (environment : Environment)

/-- What stands for a token in a scope. -/
def demand (scope : Scope) (token : Token) : Run Demand :=
  match token.form with
  | .field path => return .text (← environment.field path scope)
  | .call name words => return .text (← environment.callText name words scope)
  | .branch wanted path words body alternative? => do
    let holds ← environment.condition path words scope
    Run.record .decided
    match if holds = wanted then some body else alternative? with
    | some chosen => return .body chosen [scope]
    | none => return .text []
  | .loop path body =>
    match scope.lookup? path with
    | some (.array items) => do
      Run.record (.used path)
      Run.record .unrolled
      return .body body (loopScopes scope items)
    | _ =>
      if environment.options.strict then do
        environment.report (.notIterable path)
        return .text []
      else do
        Run.record (.noticed (.notIterable path))
        return .text []

/-- The text of a token is what stands for it. -/
theorem token_eq_demand (evaluateBody : BodyEvaluator) (scope : Scope) (token : Token) :
    environment.token evaluateBody scope token =
      environment.demand scope token >>= Demand.meet evaluateBody := by
  unfold Environment.token demand
  cases token.form with
  | field path =>
    simp only [bind_assoc, pure_bind, Demand.meet]
    exact (bind_pure _).symm
  | call name words =>
    simp only [bind_assoc, pure_bind, Demand.meet]
    exact (bind_pure _).symm
  | branch wanted path words body alternative? =>
    dsimp only
    rw [branch, bind_assoc]
    congr 1
    funext holds
    rw [bind_assoc]
    congr 1
    funext _
    cases if holds = wanted then some body else alternative? with
    | some chosen => rfl
    | none => rfl
  | loop path body =>
    dsimp only
    rw [loop]
    cases scope.lookup? path with
    | none =>
      dsimp only
      split <;> simp only [bind_assoc, pure_bind, Demand.meet]
    | some value =>
      cases value with
      | array items => simp only [bind_assoc, pure_bind, Demand.meet]
      | _ =>
        dsimp only
        split <;> simp only [bind_assoc, pure_bind, Demand.meet]

section Leaves

variable {scope : Scope} {token : Token}

theorem argument_records
    (helpers : HelperScope)
    {word : Text}
    (mentioned : word ∈ token.path :: token.arguments) :
    (argument scope word).Records (token.MayRecord helpers scope) := by
  unfold argument
  split
  · next value found =>
    have isSome : (scope.lookup? word).isSome := Option.isSome_of_mem found
    exact Run.Records.bind (.record (.used mentioned isSome)) fun _ _ => .pure _
  · split
    · exact .pure _
    · split <;> exact .pure _

theorem call_records
    (name : Text)
    (helper : Helper)
    {words : List Text}
    (mentioned : ∀ word ∈ words, word ∈ token.path :: token.arguments) :
    (environment.call name helper words scope).Records
      (token.MayRecord environment.helpers scope) := by
  unfold call
  refine Run.Records.bind (.collect fun word member => ?_) fun arguments _ => ?_
  · exact argument_records environment.helpers (mentioned word member)
  refine Run.Records.bind (.record (.unnamed rfl rfl)) fun _ _ => ?_
  split
  · exact .pure _
  · exact (Run.Records.report (.unnamed rfl rfl) _).bind fun _ _ => .pure _

theorem reportMissing_records
    {path : Text}
    {problem : Problem}
    (missing : token.MayRecord environment.helpers scope (.missing path))
    (plain : problem.isStructural = false) :
    (environment.reportMissing path problem).Records
      (token.MayRecord environment.helpers scope) := by
  unfold reportMissing
  refine (Run.Records.record missing).bind fun _ _ => ?_
  split
  · exact .report (.unnamed rfl plain) _
  · exact .pure ()

theorem field_records
    {path : Text}
    (form : token.form = .field path) :
    (environment.field path scope).Records (token.MayRecord environment.helpers scope) := by
  unfold field
  split
  · next value found =>
    have isSome : (scope.lookup? path).isSome :=
      Option.isSome_of_mem (Option.filter_eq_some_iff.mp found).1
    have word : path ∈ token.path :: token.arguments := by
      rw [Token.path, form]
      exact List.mem_cons_self
    refine Run.Records.bind (.record (.used word isSome)) fun _ _ => ?_
    exact Run.Records.bind (.record (.unnamed rfl rfl)) fun _ _ => .pure _
  · next empty =>
    have missing : token.MayRecord environment.helpers scope (.missing path) :=
      .missingVariable form (Value.filter_isNull_eq_none_iff.mp empty)
    exact (environment.reportMissing_records missing rfl).bind fun _ _ => .pure _

theorem callText_records
    {name : Text}
    {words : List Text}
    (form : token.form = .call name words) :
    (environment.callText name words scope).Records
      (token.MayRecord environment.helpers scope) := by
  unfold callText
  split
  · next unknown =>
    exact (environment.reportMissing_records (.missingHelper form unknown) rfl).bind
      fun _ _ => .pure _
  · next helper _ =>
    have arguments : token.arguments = words := by rw [Token.arguments, form]
    have mentioned : ∀ word ∈ words, word ∈ token.path :: token.arguments :=
      fun word member => List.mem_cons_of_mem token.path (arguments ▸ member)
    exact (environment.call_records name helper mentioned).bind fun _ _ => .pure _

theorem condition_records
    {wanted : Bool}
    {path : Text}
    {words : List Text}
    {body : Body}
    {alternative? : Option Body}
    (form : token.form = .branch wanted path words body alternative?) :
    (environment.condition path words scope).Records
      (token.MayRecord environment.helpers scope) := by
  have tests : token.path = path ∧ token.arguments = words := by
    rw [Token.path, Token.arguments, form]
    exact ⟨rfl, rfl⟩
  cases words with
  | nil =>
    rw [condition, if_pos List.isEmpty_nil]
    split
    · next value found =>
      have isSome : (scope.lookup? path).isSome := Option.isSome_of_mem found
      have word : path ∈ token.path :: token.arguments := tests.1 ▸ List.mem_cons_self
      exact Run.Records.bind (.record (.used word isSome)) fun _ _ => .pure _
    · exact .pure _
  | cons argument others =>
    rw [condition, List.isEmpty_cons, if_neg Bool.false_ne_true]
    split
    · next unknown =>
      exact (environment.reportMissing_records (.missingTest form unknown) rfl).bind
        fun _ _ => .pure _
    · next helper _ =>
      have mentioned : ∀ word ∈ argument :: others, word ∈ token.path :: token.arguments :=
        fun word member => List.mem_cons_of_mem token.path (tests.2 ▸ member)
      exact (environment.call_records path helper mentioned).bind fun _ _ => .pure _

/-- Before a body of a token is evaluated, nothing is recorded but what the token may say. -/
theorem demand_records (scope : Scope) (token : Token) :
    (environment.demand scope token).Records (token.MayRecord environment.helpers scope) := by
  unfold demand
  cases form : token.form with
  | field path => exact (environment.field_records form).bind fun _ _ => .pure _
  | call name words => exact (environment.callText_records form).bind fun _ _ => .pure _
  | branch wanted path words body alternative? =>
    refine (environment.condition_records form).bind fun holds _ => ?_
    refine Run.Records.bind (.record (.unnamed rfl rfl)) fun _ _ => ?_
    cases if holds = wanted then some body else alternative? with
    | some chosen => exact .pure _
    | none => exact .pure _
  | loop path body =>
    dsimp only
    split
    · next items found =>
      have isSome : (scope.lookup? path).isSome := Option.isSome_of_mem found
      have word : path ∈ token.path :: token.arguments := by
        rw [Token.path, form]
        exact List.mem_cons_self
      refine Run.Records.bind (.record (.used word isSome)) fun _ _ => ?_
      exact Run.Records.bind (.record (.unnamed rfl rfl)) fun _ _ => .pure _
    · split
      · exact Run.Records.bind (.report (.unnamed rfl rfl) _) fun _ _ => .pure _
      · exact Run.Records.bind (.record (.unnamed rfl rfl)) fun _ _ => .pure _

/-- Nothing is said about tags and depth before a body is evaluated. -/
theorem demand_isPlain (scope : Scope) (token : Token) :
    (environment.demand scope token).IsPlain := by
  intro event member
  cases environment.demand_records scope token event member with
  | unnamed unnamed plain => exact plain
  | _ => rfl

end Leaves

/-- A body that stands for a token is one of its bodies. -/
theorem demand_isOf (scope : Scope) (token : Token) :
    (environment.demand scope token).Ends (Demand.IsOf token scope) := by
  unfold demand
  cases form : token.form with
  | field path => exact .bind fun _ _ => .pure trivial
  | call name words => exact .bind fun _ _ => .pure trivial
  | branch wanted path words body alternative? =>
    refine .bind fun holds _ => .bind fun _ _ => ?_
    have bodies : token.bodies = body :: alternative?.toList := by rw [Token.bodies, form]
    cases chosen : if holds = wanted then some body else alternative? with
    | none => exact .pure trivial
    | some other =>
      refine .pure ⟨?_, .inr rfl⟩
      rw [bodies]
      split at chosen
      · rw [Option.some.inj chosen]
        exact List.mem_cons_self
      · rw [chosen]
        exact List.mem_cons_of_mem body (List.mem_singleton_self other)
  | loop path body =>
    have bodies : token.bodies = [body] := by rw [Token.bodies, form]
    have isLoop : token.isLoop := by rw [Token.isLoop, form]
    dsimp only
    split
    · refine .bind fun _ _ => .bind fun _ _ => .pure ⟨?_, .inl isLoop⟩
      rw [bodies]
      exact List.mem_singleton_self body
    · split
      · exact .bind fun _ _ => .pure trivial
      · exact .bind fun _ _ => .pure trivial

section Rules

variable
  {allowed : Event → Prop}
  {evaluateBody : BodyEvaluator}

/-- What is said while a token is evaluated is said before its bodies are evaluated, or by them. -/
theorem token_records_of_demand
    {token : Token}
    {scope : Scope}
    (before : (environment.demand scope token).Records allowed)
    (bodies : ∀ inside scopes, (Demand.body inside scopes).IsOf token scope →
      (evaluateBody inside scopes).Records allowed) :
    (environment.token evaluateBody scope token).Records allowed := by
  rw [token_eq_demand]
  refine before.bind fun demand ends => ?_
  have isOf := environment.demand_isOf scope token demand ends
  cases demand with
  | text known => exact .pure known
  | body inside scopes => exact bodies inside scopes isOf

theorem substitute_records_of_tokens
    {tokens : List Token}
    {scope : Scope}
    (all : ∀ token ∈ tokens, (environment.token evaluateBody scope token).Records allowed)
    (text : Text) : (environment.substitute evaluateBody text tokens scope).Records allowed := by
  rw [substitute_eq]
  refine Run.Records.bind (.collect fun token found => ?_) fun _ _ => .pure _
  exact (all token found).bind fun _ _ => .pure _

theorem evaluate_records_of_tokens
    {body : Body}
    {scopes : List Scope}
    (announced : (environment.announce (environment.source body).parse).Records allowed)
    (all : ∀ scope ∈ scopes, ∀ token ∈ (environment.source body).parse.tokens,
      (environment.token evaluateBody scope token).Records allowed) :
    (environment.evaluate evaluateBody body scopes).Records allowed := by
  rw [evaluate_eq]
  refine announced.bind fun _ _ => ?_
  refine Run.Records.bind (.collect fun scope member => ?_) fun _ _ => .pure _
  exact environment.substitute_records_of_tokens (all scope member) body.text

variable (plain : ∀ event, event.isStructural = false → allowed event)

include plain

/-- The bodies of a token say all that is said about tags while it is evaluated. -/
theorem token_records
    {token : Token}
    (bodies : ∀ inside ∈ token.bodies, ∀ scopes, (evaluateBody inside scopes).Records allowed)
    (scope : Scope) : (environment.token evaluateBody scope token).Records allowed := by
  refine environment.token_records_of_demand (fun event member => ?_) fun inside scopes isOf => ?_
  · exact plain event (environment.demand_isPlain scope token event member)
  · exact bodies inside isOf.1 scopes

theorem substitute_records
    {tokens : List Token}
    (bodies : ∀ token ∈ tokens, ∀ inside ∈ token.bodies, ∀ scopes,
      (evaluateBody inside scopes).Records allowed)
    (text : Text)
    (scope : Scope) : (environment.substitute evaluateBody text tokens scope).Records allowed :=
  environment.substitute_records_of_tokens
    (fun token found => environment.token_records plain (bodies token found) scope) text

/-- Of a text, the reading and the bodies of its tokens say all that is said about tags. -/
theorem evaluate_records
    {body : Body}
    (announced : (environment.announce (environment.source body).parse).Records allowed)
    (bodies : ∀ token ∈ (environment.source body).parse.tokens, ∀ inside ∈ token.bodies, ∀ scopes,
      (evaluateBody inside scopes).Records allowed)
    (scopes : List Scope) : (environment.evaluate evaluateBody body scopes).Records allowed :=
  environment.evaluate_records_of_tokens announced fun scope _ token found =>
    environment.token_records plain (bodies token found) scope

end Rules

end Environment
end Stencil
