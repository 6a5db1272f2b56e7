import Stencil.Proofs.Report.Account
import Stencil.Proofs.Tree.Basic
import Stencil.Render.Evaluation

/-!
# Interpreting a tree

A tree can be interpreted directly, without writing it as a text: every node contributes a text and
an account, one after the other.  Problems are accounted for and never stop the interpretation.
-/

namespace Stencil

namespace Interpreter

/-- The value of an argument: a variable, or else a quoted literal, a number, or the word itself. -/
def argument (scope : Scope) (word : Text) : Value :=
  match scope.lookup? word, Word.unquote? word, Double.ofText? word with
  | some value, _, _ => value
  | none, some literal, _ => .string literal
  | none, none, some (.finite number) => .ofDouble (.finite number)
  | none, none, _ => .string word

variable (environment : Environment) (scope : Scope)

/-- What a helper answers, if it exists and answers with a value. -/
def call (name : Text) (words : List Text) : Accounted (Option Value) :=
  match environment.helpers.get? name with
  | none => ⟨none, { missing := [name] }⟩
  | some helper =>
    let used : Account := { used := words.filter fun word => (scope.lookup? word).isSome }
    match (helper (words.map (argument scope))).toExcept with
    | .ok value => ⟨some value, used ++ { counters := ⟨0, 0, 0, 1⟩ }⟩
    | .error message => ⟨none, used ++ { problems := [.helperFailed name message] }⟩

/-- The text of a variable.  An absent value counts as missing. -/
def field (path : Text) : Accounted Text :=
  match scope.lookup? path with
  | none | some .null => ⟨environment.options.fallback?.getD [], { missing := [path] }⟩
  | some value =>
    let text := value.text
    ⟨if environment.options.escapesMarkup then Text.escapeMarkup text else text,
      { used := [path], counters := ⟨1, 0, 0, 0⟩ }⟩

/-- The text of an expression: a call when there are arguments or the name is that of a helper and
not dotted, and otherwise a variable. -/
def expression (name : Text) (arguments : List Text) : Accounted Text :=
  if arguments.isEmpty && (name.contains '.' || (environment.helpers.get? name).isNone) then
    field environment scope name
  else
    let answer := call environment scope name arguments
    ⟨(answer.result.map Value.text).getD [], answer.account⟩

/-- The truth of a condition: of what a helper answers when there are arguments, and otherwise of a
variable. -/
def condition (path : Text) (arguments : List Text) : Accounted Bool :=
  if arguments.isEmpty then
    let value? := scope.lookup? path
    ⟨Value.truth value?, { used := if value?.isSome then [path] else [] }⟩
  else
    let answer := call environment scope path arguments
    ⟨Value.truth answer.result, answer.account⟩

/-- What stands inside a block, where there is room for a number of further levels. -/
def inside (room : Nat) (body : Nat → Accounted Text) : Accounted Text :=
  match room with
  | 0 => ⟨[], { problems := [.depthExceeded environment.options.maxDepth] }⟩
  | room + 1 => body room

end Interpreter

/-- What a tree comes to in a scope, where there is room for a number of further levels. -/
def Tree.interpret (environment : Environment) : Nat → Scope → Tree → Accounted Text
  | _, _, empty => ⟨[], {}⟩
  | room, scope, literal text rest => ⟨text, {}⟩ ++ rest.interpret environment room scope
  | room, scope, expression name arguments rest =>
    Interpreter.expression environment scope name arguments ++
      rest.interpret environment room scope
  | room, scope, branch wanted path arguments body alternative? rest =>
    let condition := Interpreter.condition environment scope path arguments
    let chosen :=
      if condition.result = wanted then
        Interpreter.inside environment room fun room => body.interpret environment room scope
      else
        match alternative? with
        | none => ⟨[], {}⟩
        | some alternative =>
          Interpreter.inside environment room fun room =>
            alternative.interpret environment room scope
    let decided : Account := { counters := ⟨0, 1, 0, 0⟩ }
    ⟨chosen.result, condition.account ++ (decided ++ chosen.account)⟩ ++
      rest.interpret environment room scope
  | room, scope, loop path _ body rest =>
    let here :=
      match scope.lookup? path with
      | some (.array items) =>
        let texts :=
          Interpreter.inside environment room fun room =>
            .join <| items.mapIdx fun index item =>
              body.interpret environment room
                (scope.enter item ⟨index, index = 0, index + 1 = items.length⟩)
        let begun : Account := { counters := ⟨0, 0, 1, 0⟩ }
        ⟨texts.result, { used := [path] } ++ (begun ++ texts.account)⟩
      | _ => ⟨[], { notices := [.notIterable path] }⟩
    here ++ rest.interpret environment room scope
termination_by structural _ _ tree => tree

theorem Tree.interpret_branch
    (environment : Environment)
    (room : Nat)
    (scope : Scope)
    (wanted : Bool)
    (path : Text)
    (arguments : List Text)
    (body : Tree)
    (alternative? : Option Tree)
    (rest : Tree) :
    (branch wanted path arguments body alternative? rest).interpret environment room scope =
      let condition := Interpreter.condition environment scope path arguments
      let inside (tree : Tree) :=
        Interpreter.inside environment room fun room => tree.interpret environment room scope
      let otherwise := (alternative?.map inside).getD ⟨[], {}⟩
      let chosen := if condition.result = wanted then inside body else otherwise
      ⟨chosen.result, condition.account ++ ({ counters := ⟨0, 1, 0, 0⟩ } ++ chosen.account)⟩ ++
        rest.interpret environment room scope := by
  cases alternative? <;> rfl

end Stencil
