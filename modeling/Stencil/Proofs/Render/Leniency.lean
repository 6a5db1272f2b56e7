import Stencil.Proofs.Render.Abridgement
import Stencil.Proofs.Render.Reading
import Stencil.Proofs.Render.Replacement
import Stencil.Proofs.Source.Layout

/-!
# Lenient renderings

A lenient rendering never stops.  A text that is read once and rendered in several scopes comes to
the texts of the scopes, one after the other, and what is said about each of them adds up.
-/

namespace Stencil

/-- What reading a text says about itself. -/
def Parsed.account (parsed : Parsed) : Account where
  problems := parsed.problems
  notices :=
    parsed.unterminated?.toList.map Notice.unterminated ++ parsed.abandoned.map Notice.reopened

namespace Run

/-- The text that a run comes to, with its account.  A run that is stopped comes to no text. -/
def accounted (run : Run Text) : Accounted Text :=
  ⟨run.outcome.toOption.getD [], Account.ofEvents run.events⟩

theorem yields_accounted
    {run : Run Text}
    (through : ∃ text, run.outcome = .ok text) :
    run.Yields run.accounted.result run.accounted.account := by
  obtain ⟨text, ends⟩ := through
  rw [accounted, ends]
  exact ⟨ends, rfl⟩

end Run

namespace Environment

/-- What a text comes to in a scope, apart from what reading it says. -/
def rendering (environment : Environment) (room : Nat) (body : Body) (scope : Scope) :
    Accounted Text :=
  (environment.substitute (environment.evaluateBody room) body.text
    (environment.source body).parse.tokens scope).accounted

variable
  {environment : Environment}
  (tolerant : environment.options.strict = false)

include tolerant

theorem withStrict_eq_self : environment.withStrict false = environment := by
  rw [withStrict, ← tolerant]

theorem announce_yields (parsed : Parsed) :
    (environment.announce parsed).Yields () parsed.account := by
  have terminated := @Run.Yields.forAll _ parsed.unterminated?.toList
    (fun offset => Run.record (.noticed (.unterminated offset)))
    (fun offset => { notices := [.unterminated offset] }) fun _ _ => ⟨rfl, rfl⟩
  have closed := @Run.Yields.forAll _ parsed.abandoned
    (fun offset => Run.record (.noticed (.reopened offset)))
    (fun offset => { notices := [.reopened offset] }) fun _ _ => ⟨rfl, rfl⟩
  have paired := @Run.Yields.forAll _ parsed.problems environment.report
    (fun problem => { problems := [problem] }) fun problem _ => by
      rw [report, tolerant]
      exact ⟨rfl, rfl⟩
  have whole := terminated.andThen (closed.andThen paired)
  rw [Account.join_notices, Account.join_notices, Account.join_problems] at whole
  refine ⟨whole.1, whole.2.trans ?_⟩
  ext1 <;> simp [Parsed.account]

theorem evaluateBody_abridged (room : Nat) :
    BodiesAbridge ((environment.withStrict true).evaluateBody room)
      (environment.evaluateBody room) := by
  have abridges := environment.evaluateBody_abridges room
  rwa [withStrict_eq_self tolerant] at abridges

variable (room : Nat)

theorem edits_ok (tokens : List Token) (scope : Scope) :
    ∃ edits, (Run.collect (environment.edit (environment.evaluateBody room) scope) tokens).outcome =
      .ok edits := by
  have abridges := Run.Abridges.collect tokens fun token _ =>
    (token_abridges environment (evaluateBody_abridged tolerant room) scope token).bind
      fun replacement => .pure (Edit.mk token.span replacement)
  rw [withStrict_eq_self tolerant] at abridges
  exact abridges.lenient_ok

theorem substitute_ok (text : Text) (tokens : List Token) (scope : Scope) :
    ∃ result, (environment.substitute (environment.evaluateBody room) text tokens scope).outcome =
      .ok result := by
  have abridges := substitute_abridges environment (evaluateBody_abridged tolerant room) text tokens
    scope
  rw [withStrict_eq_self tolerant] at abridges
  exact abridges.lenient_ok

/-- A text that is rendered in several scopes comes to what it comes to in each of them. -/
theorem evaluate_yields_flatten (body : Body) (scopes : List Scope) :
    let parsed := (environment.source body).parse
    let texts := Accounted.join (scopes.map (environment.rendering room body))
    (environment.evaluate (environment.evaluateBody room) body scopes).Yields texts.result
      (parsed.account ++ texts.account) := by
  intro parsed texts
  rw [evaluate_eq]
  refine (announce_yields tolerant parsed).andThen (Run.Yields.map ?_ List.flatten)
  apply Run.Yields.collect
  intro scope _
  exact Run.yields_accounted (substitute_ok tolerant room body.text parsed.tokens scope)

end Environment

namespace Engine

variable
  (engine : Engine)
  (data : Value)
  {options : Options}

/-- The tokens that a rendering finds in a template. -/
def tokens (options : Options) (template : Text) : List Token :=
  ((engine.environment options).source ⟨template, 0⟩).parse.tokens

/-- The edits that a rendering makes at tokens of a template. -/
def edits (options : Options) (tokens : List Token) : Run (List Edit) :=
  let environment := engine.environment options
  Run.collect (environment.edit (environment.evaluateBody options.maxDepth) (Scope.root data))
    tokens

/-- The edits of a rendering are laid out in the template. -/
theorem hasSpans_of_edits_yield
    {template : Text}
    {edits : List Edit}
    {account : Account}
    (yields : (engine.edits data options (engine.tokens options template)).Yields edits account) :
    Text.HasSpans 0 template (edits.map Edit.span) := by
  have spans : edits.map Edit.span = (engine.tokens options template).map Token.span :=
    Environment.spans_of_collect_edit _ _ _ yields.1
  rw [spans]
  exact ((engine.environment options).source ⟨template, 0⟩).hasSpans_tokens

section Lenient

variable (tolerant : options.strict = false)

include tolerant

theorem exists_edits_yield (tokens : List Token) :
    ∃ edits account, (engine.edits data options tokens).Yields edits account := by
  obtain ⟨edits, ends⟩ := @Environment.edits_ok (engine.environment options) tolerant
    options.maxDepth tokens (Scope.root data)
  exact ⟨edits, _, ends, rfl⟩

/-- A rendering weaves its edits into the template, after saying what is wrong with the tags. -/
theorem process_of_edits_yield
    (untrimmed : options.trims = false)
    {template : Text}
    {edits : List Edit}
    {account : Account}
    (yields : (engine.edits data options (engine.tokens options template)).Yields edits account) :
    let parsed := ((engine.environment options).source ⟨template, 0⟩).parse
    engine.process template data options =
      (Accounted.mk (Text.weave 0 template edits) (parsed.account ++ account)).report := by
  intro parsed
  apply Report.ofRun_of_yields
  rw [run_of_untrimmed engine untrimmed, Environment.evaluateTemplate,
    Environment.evaluate_singleton, ← (hasSpans_of_edits_yield engine data yields).splice_eq_weave]
  exact (Environment.announce_yields tolerant parsed).andThen (yields.map (Text.splice template))

end Lenient

end Engine
end Stencil
