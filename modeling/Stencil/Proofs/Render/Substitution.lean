import Mathlib.Data.List.Forall2
import Stencil.Proofs.Render.Replacement
import Stencil.Proofs.Text.InPlace

/-!
# Substitution in place

The tokens of a text are replaced in place, one after the other.  What comes out is the text with
the renderings of the tokens put between what stands between the tokens, and on the way every token
is found in the text as it is by then.  The first token that cannot be rendered ends it.
-/

namespace Stencil

namespace Run

variable {each : α → Run β} {items front back : List α} {item : α} {results : List β}

/-- Runs that all go through are collected. -/
theorem outcome_collect_of_forall₂
    (ends : List.Forall₂ (fun item result => (each item).outcome = .ok result) items results) :
    (collect each items).outcome = .ok results := by
  induction ends with
  | nil => rfl
  | cons here later inductionHypothesis =>
    rw [collect, bind_of_ok _ here, bind_of_ok _ inductionHypothesis]
    rfl

/-- What is collected are the results of runs that all go through. -/
theorem forall₂_of_outcome_collect
    (collected : (collect each items).outcome = .ok results) :
    List.Forall₂ (fun item result => (each item).outcome = .ok result) items results := by
  induction items generalizing results with
  | nil =>
    obtain rfl := Except.ok.inj collected
    exact .nil
  | cons item items inductionHypothesis =>
    obtain ⟨result, here, rest⟩ := exists_of_bind_ok collected
    obtain ⟨others, later, together⟩ := exists_of_bind_ok rest
    obtain rfl := Except.ok.inj together
    exact .cons here (inductionHypothesis later)

/-- The first run that is stopped ends the collection. -/
theorem outcome_collect_of_error
    {problem : Problem}
    (ends : List.Forall₂ (fun item result => (each item).outcome = .ok result) front results)
    (stopped : (each item).outcome = .error problem) :
    (collect each (front ++ item :: back)).outcome = .error problem := by
  induction ends with
  | nil => rw [List.nil_append, collect, bind_of_error _ stopped]
  | cons here later inductionHypothesis =>
    rw [List.cons_append, collect, bind_of_ok _ here, bind_of_error _ inductionHypothesis]

end Run

namespace Environment

variable
  (environment : Environment)
  (evaluateBody : BodyEvaluator)
  (scope : Scope)

/-- Whether an edit puts what a token renders to in the place of the token. -/
structure IsEditFor (token : Token) (edit : Edit) : Prop where
  span_eq : edit.span = token.span
  outcome_eq : (environment.token evaluateBody scope token).outcome = .ok edit.replacement

variable {environment evaluateBody scope}

theorem IsEditFor.outcome_edit
    {token : Token}
    {edit : Edit}
    (renders : environment.IsEditFor evaluateBody scope token edit) :
    (environment.edit evaluateBody scope token).outcome = .ok edit := by
  obtain ⟨span, replacement⟩ := edit
  obtain rfl := renders.span_eq
  rw [Environment.edit, Run.bind_of_ok _ renders.outcome_eq]
  rfl

theorem isEditFor_of_outcome
    {token : Token}
    {edit : Edit}
    (edited : (environment.edit evaluateBody scope token).outcome = .ok edit) :
    environment.IsEditFor evaluateBody scope token edit := by
  obtain ⟨replacement, rendered, made⟩ := Run.exists_of_bind_ok edited
  obtain rfl := Except.ok.inj made
  exact ⟨rfl, rendered⟩

theorem outcome_edits
    {tokens : List Token}
    {edits : List Edit}
    (renders : List.Forall₂ (environment.IsEditFor evaluateBody scope) tokens edits) :
    List.Forall₂ (fun token edit => (environment.edit evaluateBody scope token).outcome = .ok edit)
      tokens edits :=
  renders.imp fun _ _ here => here.outcome_edit

theorem spans_edits
    {tokens : List Token}
    {edits : List Edit}
    (renders : List.Forall₂ (environment.IsEditFor evaluateBody scope) tokens edits) :
    edits.map Edit.span = tokens.map Token.span := by
  induction renders with
  | nil => rfl
  | cons here later inductionHypothesis =>
    rw [List.map_cons, List.map_cons, here.span_eq, inductionHypothesis]

/-- Tokens whose spans fit a text are replaced in it one after the other, and the text comes out
patched with what the tokens render to.  Each token is found where the shift says, in the text as it
is when those before it are replaced, and the first token that cannot be rendered ends the
replacement with its problem. -/
theorem substitute_isInPlace
    {text : Text}
    {tokens : List Token}
    (fits : Text.Fits text (tokens.map Token.span)) :
    (∀ edits, List.Forall₂ (environment.IsEditFor evaluateBody scope) tokens edits →
      (environment.substitute evaluateBody text tokens scope).outcome =
          .ok (edits.foldl Splicing.make ⟨0, text⟩).text ∧
        (edits.foldl Splicing.make ⟨0, text⟩).text = Text.patch text 0 edits) ∧
      ∀ early token late edits, tokens = early ++ token :: late →
        List.Forall₂ (environment.IsEditFor evaluateBody scope) early edits →
          let current := edits.foldl Splicing.make ⟨0, text⟩
          Text.HasRange current.text (token.span.start + current.shift)
              (token.span.stop + current.shift) ∧
            ∀ problem, (environment.token evaluateBody scope token).outcome = .error problem →
              (environment.substitute evaluateBody text tokens scope).outcome =
                .error problem := by
  constructor
  · intro edits renders
    have collected := Run.outcome_collect_of_forall₂ (outcome_edits renders)
    have states := Splicing.spliceFrom_eq_foldl ⟨0, text⟩ edits
    rw [substitute_eq, Run.bind_of_ok _ collected, ← states]
    refine ⟨rfl, Text.Fits.splice_eq_patch ?_⟩
    rwa [spans_edits renders]
  · rintro early token late edits rfl renders current
    constructor
    · have start : Splicing.Reaches ⟨0, text⟩ [] 0 text := ⟨rfl, rfl⟩
      have laid : Text.HasSpans 0 text
          (edits.map Edit.span ++ token.span :: late.map Token.span) := by
        rw [spans_edits renders, ← List.map_cons, ← List.map_append]
        exact Text.fits_iff_hasSpans.mp fits
      exact Splicing.hasRange_of_reaches start laid
    · intro problem stopped
      have edit : (environment.edit evaluateBody scope token).outcome = .error problem := by
        rw [Environment.edit, Run.bind_of_error _ stopped]
      have collected :
          (Run.collect (environment.edit evaluateBody scope) (early ++ token :: late)).outcome =
            .error problem :=
        Run.outcome_collect_of_error (outcome_edits renders) edit
      rw [substitute_eq, Run.bind_of_error _ collected]

/-- A short name is replaced by a longer text, a long name by nothing, and the last variable, which
has no value, ends a strict rendering. -/
theorem substitute_isInPlace_shifting :
    let environment (strict : Bool) : Environment := ⟨{ strict := strict }, ⟨[], []⟩⟩
    let evaluateBody : BodyEvaluator := fun _ _ => pure []
    let scope := Scope.root (.object
      [("a".toList, .string "größer".toList), ("empty".toList, .string [])])
    let text := "é<a><empty>ü<c>".toList
    let tokens : List Token :=
      [⟨.field "a".toList, "<a>".toList, ⟨2, 5⟩⟩,
        ⟨.field "empty".toList, "<empty>".toList, ⟨5, 12⟩⟩,
        ⟨.field "c".toList, "<c>".toList, ⟨14, 17⟩⟩]
    Text.Fits text (tokens.map Token.span) ∧
      ((environment false).substitute evaluateBody text tokens scope).outcome =
        .ok "égrößerü".toList ∧
      ((environment true).substitute evaluateBody text tokens scope).outcome =
        .error (.missingVariable "c".toList) := by
  intro environment evaluateBody scope text tokens
  have fits : Text.Fits text (tokens.map Token.span) := by
    constructor <;> decide
  have first (strict : Bool) : (environment strict).IsEditFor evaluateBody scope
      ⟨.field "a".toList, "<a>".toList, ⟨2, 5⟩⟩ ⟨⟨2, 5⟩, "größer".toList⟩ := ⟨rfl, rfl⟩
  have second (strict : Bool) : (environment strict).IsEditFor evaluateBody scope
      ⟨.field "empty".toList, "<empty>".toList, ⟨5, 12⟩⟩ ⟨⟨5, 12⟩, []⟩ := ⟨rfl, rfl⟩
  have third : (environment false).IsEditFor evaluateBody scope
      ⟨.field "c".toList, "<c>".toList, ⟨14, 17⟩⟩ ⟨⟨14, 17⟩, []⟩ := ⟨rfl, rfl⟩
  refine ⟨fits, ?_, ?_⟩
  · obtain ⟨ends, patched⟩ := (substitute_isInPlace fits).1 _
      (.cons (first false) (.cons (second false) (.cons third .nil)))
    rw [ends, patched]
    rfl
  · obtain ⟨-, stops⟩ := (substitute_isInPlace fits).2 _ _ [] _ rfl
      (.cons (first true) (.cons (second true) .nil))
    exact stops _ rfl

end Environment
end Stencil
