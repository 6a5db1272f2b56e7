import Stencil.Proofs.Render.Reading
import Stencil.Proofs.Render.Replacement
import Stencil.Proofs.Source.Relocation

/-!
# Rendering a text in another place

Where a text stands in the whole template, and how deep blocks may be there, shows only in the
places and limits that problems and notices name.  Otherwise the text is rendered as it was.
-/

namespace Stencil

/-- What happens in the new place. -/
def Event.relocate (relocation : Relocation) : Event → Event
  | failed problem => failed (problem.relocate relocation)
  | noticed notice => noticed (notice.relocate relocation)
  | event => event

namespace Run

/-- The same run in the new place. -/
def relocate (relocation : Relocation) (run : Run α) : Run α where
  events := run.events.map (Event.relocate relocation)
  outcome := run.outcome.mapError (Problem.relocate relocation)

section Rules

variable (relocation : Relocation)

theorem relocate_pure (result : α) :
    (pure result : Run α).relocate relocation = pure result := rfl

theorem relocate_bind (run : Run α) (next : α → Run β) :
    (run >>= next).relocate relocation =
      run.relocate relocation >>= fun result => (next result).relocate relocation := by
  obtain ⟨events, outcome⟩ := run
  cases outcome with
  | error problem => rfl
  | ok result =>
    rw [bind_of_ok next rfl, bind_of_ok _ rfl]
    simp only [relocate, List.map_append]

theorem relocate_record (event : Event) :
    (record event).relocate relocation = record (event.relocate relocation) := rfl

theorem relocate_report (stops : Bool) (problem : Problem) :
    (report stops problem).relocate relocation = report stops (problem.relocate relocation) := by
  cases stops <;> rfl

theorem relocate_within (run : Run α) :
    (within run).relocate relocation = within (run.relocate relocation) := by
  simp [within, relocate, Event.relocate]

theorem relocate_forAll (each : α → Run Unit) (items : List α) :
    (forAll each items).relocate relocation =
      forAll (fun item => (each item).relocate relocation) items := by
  induction items with
  | nil => rfl
  | cons item items inductionHypothesis =>
    rw [forAll, forAll, relocate_bind, inductionHypothesis]

theorem relocate_collect (each : α → Run β) (items : List α) :
    (collect each items).relocate relocation =
      collect (fun item => (each item).relocate relocation) items := by
  induction items with
  | nil => rfl
  | cons item items inductionHypothesis =>
    rw [collect, collect]
    simp only [relocate_bind, relocate_pure, inductionHypothesis]

end Rules
end Run

/-- What is said in the new place. -/
def Account.relocate (relocation : Relocation) (account : Account) : Account :=
  { account with
    problems := account.problems.map (Problem.relocate relocation)
    notices := account.notices.map (Notice.relocate relocation) }

theorem Account.relocate_append (relocation : Relocation) (left right : Account) :
    (left ++ right).relocate relocation =
      left.relocate relocation ++ right.relocate relocation := by
  ext1 <;> simp [relocate]

theorem Account.ofEvents_map_relocate (relocation : Relocation) (events : List Event) :
    ofEvents (events.map (Event.relocate relocation)) = (ofEvents events).relocate relocation := by
  induction events with
  | nil => rfl
  | cons event events inductionHypothesis =>
    have split (event : Event) (events : List Event) :
        ofEvents (event :: events) = ofEvents [event] ++ ofEvents events :=
      ofEvents_append [event] events
    have first : ofEvents [event.relocate relocation] =
        (ofEvents [event]).relocate relocation := by
      cases event <;> rfl
    rw [List.map_cons, split, split event, first, inductionHypothesis, relocate_append]

theorem Run.Yields.relocate
    {run : Run α}
    {result : α}
    {account : Account}
    (yields : run.Yields result account)
    (relocation : Relocation) :
    (run.relocate relocation).Yields result (account.relocate relocation) := by
  refine ⟨congrArg (Except.mapError _) yields.1, ?_⟩
  rw [← yields.2]
  exact Account.ofEvents_map_relocate relocation run.events

namespace Environment

/-- The same environment with another limit to the depth of blocks. -/
def withLimit (environment : Environment) (limit : Nat) : Environment :=
  { environment with options := { environment.options with maxDepth := limit } }

section Leaves

variable (environment : Environment) (relocation : Relocation) (scope : Scope)

theorem relocate_report (problem : Problem) :
    (environment.report problem).relocate relocation =
      environment.report (problem.relocate relocation) :=
  Run.relocate_report relocation environment.options.strict problem

theorem relocate_reportMissing
    (path : Text)
    {problem : Problem}
    (unplaced : problem.relocate relocation = problem) :
    (environment.reportMissing path problem).relocate relocation =
      environment.reportMissing path problem := by
  rw [reportMissing, Run.relocate_bind, Run.relocate_record]
  split
  · simp only [relocate_report, unplaced, Event.relocate]
  · rfl

theorem relocate_argument (word : Text) :
    (argument scope word).relocate relocation = argument scope word := by
  rw [argument]
  split
  · rfl
  · split
    · rfl
    · split <;> rfl

theorem relocate_call (name : Text) (helper : Helper) (words : List Text) :
    (environment.call name helper words scope).relocate relocation =
      environment.call name helper words scope := by
  rw [call, Run.relocate_bind, Run.relocate_collect]
  simp only [relocate_argument]
  congr 1
  funext arguments
  rw [Run.relocate_bind, Run.relocate_record]
  congr 1
  funext _
  split
  · rfl
  · rw [Run.relocate_bind, relocate_report]
    rfl

theorem relocate_field (path : Text) :
    (environment.field path scope).relocate relocation = environment.field path scope := by
  rw [field]
  split
  · rfl
  · rw [Run.relocate_bind, relocate_reportMissing environment relocation path rfl]
    rfl

theorem relocate_callText (name : Text) (words : List Text) :
    (environment.callText name words scope).relocate relocation =
      environment.callText name words scope := by
  rw [callText]
  split
  · rw [Run.relocate_bind, relocate_reportMissing environment relocation name rfl]
    rfl
  · rw [Run.relocate_bind, relocate_call]
    rfl

theorem relocate_condition (path : Text) (words : List Text) :
    (environment.condition path words scope).relocate relocation =
      environment.condition path words scope := by
  rw [condition]
  split
  · split <;> rfl
  · split
    · rw [Run.relocate_bind, relocate_reportMissing environment relocation path rfl]
      rfl
    · rw [Run.relocate_bind, relocate_call]
      rfl

end Leaves

/-- Whether bodies are evaluated in the new place by one evaluator as they are evaluated in the old
place by another. -/
def BodiesRelocate (relocation : Relocation) (moved original : BodyEvaluator) : Prop :=
  ∀ body scopes,
    moved (body.shift relocation.distance) scopes = (original body scopes).relocate relocation

section Bodies

variable
  (environment : Environment)
  {relocation : Relocation}
  {moved original : BodyEvaluator}
  (bodies : BodiesRelocate relocation moved original)
  (scope : Scope)

include bodies

theorem loop_relocate (path : Text) (body : Body) :
    (environment.withLimit relocation.limit).loop moved path (body.shift relocation.distance)
        scope =
      (environment.loop original path body scope).relocate relocation := by
  rw [loop, loop]
  split
  · rw [bodies]
    simp only [Run.relocate_bind, Run.relocate_record]
    rfl
  · change (if environment.options.strict then _ else _) = _
    split
    · rw [Run.relocate_bind, relocate_report]
      rfl
    · rfl

theorem branch_relocate
    (wanted : Bool)
    (path : Text)
    (words : List Text)
    (body : Body)
    (alternative? : Option Body) :
    (environment.withLimit relocation.limit).branch moved wanted path words
        (body.shift relocation.distance)
        (alternative?.map (Body.shift relocation.distance)) scope =
      (environment.branch original wanted path words body alternative? scope).relocate
        relocation := by
  rw [branch, branch, Run.relocate_bind, relocate_condition]
  congr 1
  funext holds
  rw [Run.relocate_bind]
  congr 1
  funext _
  have chosen : (if holds = wanted then some (body.shift relocation.distance)
      else alternative?.map (Body.shift relocation.distance)) =
      (if holds = wanted then some body else alternative?).map
        (Body.shift relocation.distance) := by
    split <;> rfl
  rw [chosen]
  cases if holds = wanted then some body else alternative? with
  | none => rfl
  | some chosen => exact bodies chosen [scope]

/-- A token in the new place is evaluated as in the old place. -/
theorem token_relocate (inset : Nat) (token : Token) :
    (environment.withLimit relocation.limit).token moved scope
        (token.move inset relocation.distance) =
      (environment.token original scope token).relocate relocation := by
  obtain ⟨form, raw, span⟩ := token
  cases form with
  | field path => exact (relocate_field environment relocation scope path).symm
  | call name words => exact (relocate_callText environment relocation scope name words).symm
  | branch wanted path words body alternative? =>
    exact branch_relocate environment bodies scope wanted path words body alternative?
  | loop path body => exact loop_relocate environment bodies scope path body

/-- The edits for tokens in the new place are those of the old place, moved along. -/
theorem collect_edit_relocate (inset : Nat) (tokens : List Token) :
    Run.collect ((environment.withLimit relocation.limit).edit moved scope)
        (tokens.map (Token.move inset relocation.distance)) = do
      let edits ← (Run.collect (environment.edit original scope) tokens).relocate relocation
      return edits.map (Edit.shift inset) := by
  have edit (token : Token) :
      (environment.withLimit relocation.limit).edit moved scope
          (token.move inset relocation.distance) = do
        let edit ← (environment.edit original scope token).relocate relocation
        return edit.shift inset := by
    rw [Environment.edit, Environment.edit, token_relocate environment bodies, Run.relocate_bind,
      bind_assoc]
    rfl
  rw [Run.collect_map, Run.relocate_collect]
  simp only [edit]
  exact Run.collect_bind_pure _ _ tokens

theorem substitute_relocate (text : Text) (tokens : List Token) :
    (environment.withLimit relocation.limit).substitute moved text
        (tokens.map (Token.move 0 relocation.distance)) scope =
      (environment.substitute original text tokens scope).relocate relocation := by
  have edits := collect_edit_relocate environment bodies scope 0 tokens
  have unmoved (edits : List Edit) : edits.map (Edit.shift 0) = edits := List.map_id _
  simp only [unmoved, bind_pure] at edits
  rw [substitute_eq, substitute_eq, edits, Run.relocate_bind]
  rfl

end Bodies

/-- Reading a text in the new place announces the same, with other places. -/
theorem announce_relocate
    (environment : Environment)
    (relocation : Relocation)
    (parsed : Parsed) :
    (environment.withLimit relocation.limit).announce (parsed.relocate relocation) =
      (environment.announce parsed).relocate relocation := by
  rw [announce, announce, Run.relocate_bind, Run.relocate_forAll]
  simp only [Run.relocate_bind, Run.relocate_forAll, Run.relocate_record, relocate_report,
    Parsed.relocate, Option.toList_map, Run.forAll_map]
  rfl

theorem evaluate_relocate
    (environment : Environment)
    {relocation : Relocation}
    {moved original : BodyEvaluator}
    (bodies : BodiesRelocate relocation moved original) :
    BodiesRelocate relocation
      ((environment.withLimit relocation.limit).evaluate moved)
      (environment.evaluate original) := by
  intro body scopes
  have parsed : ((environment.withLimit relocation.limit).source
      (body.shift relocation.distance)).parse =
        (environment.source body).parse.relocate relocation :=
    (environment.source body).parse_shift relocation
  rw [evaluate_eq, evaluate_eq, parsed, announce_relocate]
  simp only [Run.relocate_bind, Run.relocate_collect, Run.relocate_pure]
  simp only [← substitute_relocate environment bodies]
  rfl

/-- Bodies are evaluated in the new place as in the old one. -/
theorem evaluateBody_relocate
    (environment : Environment)
    (relocation : Relocation)
    (room : Nat) :
    BodiesRelocate relocation
      ((environment.withLimit relocation.limit).evaluateBody room)
      (environment.evaluateBody room) := by
  induction room with
  | zero =>
    intro body scopes
    rw [evaluateBody, evaluateBody, Run.relocate_bind, relocate_report]
    rfl
  | succ room inductionHypothesis =>
    intro body scopes
    rw [evaluateBody, evaluateBody, Run.relocate_within]
    exact congrArg Run.within (evaluate_relocate environment inductionHypothesis body scopes)

end Environment
end Stencil
