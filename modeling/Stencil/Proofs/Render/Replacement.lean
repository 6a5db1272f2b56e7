import Stencil.Proofs.Render.Sequence
import Stencil.Proofs.Report.Account
import Stencil.Proofs.Text.Splice
import Stencil.Render.Evaluation

/-!
# Replacing the tokens of a text

A text is rendered token by token.  Each replacement is made in a text that is done up to there, so
what comes out is the replacements and the text between them, one after the other.
-/

namespace Stencil

namespace Environment

variable
  (environment : Environment)
  (evaluateBody : BodyEvaluator)
  (scope : Scope)

/-- The edit that puts what stands for a token in its place. -/
def edit (found : Token) : Run Edit := do
  let replacement ← environment.token evaluateBody scope found
  return ⟨found.span, replacement⟩

theorem substitute_eq (text : Text) (tokens : List Token) :
    environment.substitute evaluateBody text tokens scope = do
      let edits ← Run.collect (environment.edit evaluateBody scope) tokens
      return Text.splice text edits := rfl

/-- The edits for tokens have the spans of the tokens. -/
theorem spans_of_collect_edit
    {tokens : List Token}
    {edits : List Edit}
    (ends : (Run.collect (environment.edit evaluateBody scope) tokens).outcome = .ok edits) :
    edits.map Edit.span = tokens.map Token.span := by
  induction tokens generalizing edits with
  | nil =>
    obtain rfl := Except.ok.inj ends
    rfl
  | cons token tokens inductionHypothesis =>
    obtain ⟨edit, edited, rest⟩ := Run.exists_of_bind_ok ends
    obtain ⟨replacement, -, made⟩ := Run.exists_of_bind_ok edited
    obtain ⟨later, laterEdited, together⟩ := Run.exists_of_bind_ok rest
    obtain rfl := Except.ok.inj made
    obtain rfl := Except.ok.inj together
    rw [List.map_cons, List.map_cons, inductionHypothesis laterEdited]

/-- Whether a text that stands at a position comes to a rendering when its tokens are replaced, with
any text in front that is done already. -/
def Replaces
    (tokens : List Token)
    (position : Nat)
    (text : Text)
    (rendering : Accounted Text) : Prop :=
  ∃ edits,
    (Run.collect (environment.edit evaluateBody scope) tokens).Yields edits rendering.account ∧
      ∀ done : Text, Text.spliceFrom (Text.size done - position) (done ++ text) edits =
        done ++ rendering.result

variable
  {environment evaluateBody scope}
  {tokens : List Token}
  {position : Nat}
  {text : Text}
  {rendering : Accounted Text}

theorem Replaces.nil (position : Nat) :
    environment.Replaces evaluateBody scope [] position [] ⟨[], {}⟩ :=
  ⟨[], .pure [], fun _ => rfl⟩

theorem Replaces.literal_append
    (literal : Text)
    (replaces : environment.Replaces evaluateBody scope tokens
      (position + Text.size literal) text rendering) :
    environment.Replaces evaluateBody scope tokens position (literal ++ text)
      (⟨literal, {}⟩ ++ rendering) := by
  obtain ⟨edits, yields, splices⟩ := replaces
  refine ⟨edits, ?_, ?_⟩
  · change Run.Yields _ edits ({} ++ rendering.account)
    rw [Account.empty_append]
    exact yields
  · intro done
    have shift : (Text.size (done ++ literal) : Int) - (position + Text.size literal : Nat) =
        Text.size done - position := by
      rw [Text.size_append]
      omega
    have whole := splices (done ++ literal)
    rw [shift, List.append_assoc, List.append_assoc] at whole
    exact whole

/-- A token is replaced first, and the text after it is where the shift leads. -/
theorem Replaces.cons
    {token : Token}
    {old : Text}
    {here : Accounted Text}
    (start : token.span.start = position)
    (stop : token.span.stop = position + Text.size old)
    (tokenYields : (environment.token evaluateBody scope token).Yields here.result here.account)
    (replaces : environment.Replaces evaluateBody scope tokens token.span.stop text rendering) :
    environment.Replaces evaluateBody scope (token :: tokens) position (old ++ text)
      (here ++ rendering) := by
  obtain ⟨edits, yields, splices⟩ := replaces
  refine ⟨⟨token.span, here.result⟩ :: edits, ?_, ?_⟩
  · have edited : (environment.edit evaluateBody scope token).Yields
        ⟨token.span, here.result⟩ here.account :=
      tokenYields.map (Edit.mk token.span)
    exact edited.collect_cons yields
  · intro done
    have span : token.span = ⟨position, position + Text.size old⟩ :=
      congr (congrArg Span.mk start) stop
    rw [stop] at splices
    rw [span, ← List.append_assoc, Text.spliceFrom_cons_append, splices, List.append_assoc]
    rfl

theorem Replaces.substitute_yields
    (replaces : environment.Replaces evaluateBody scope tokens 0 text rendering) :
    (environment.substitute evaluateBody text tokens scope).Yields rendering.result
      rendering.account := by
  obtain ⟨edits, yields, splices⟩ := replaces
  have whole := yields.map (Text.splice text)
  rw [show Text.splice text edits = rendering.result from splices []] at whole
  exact whole

end Environment
end Stencil
