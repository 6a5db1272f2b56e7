import Stencil.Proofs.Render.Placement

/-!
# Every tag is blamed once

Where no body is evaluated more than once, no two problems are about the same tag.  The parts that a
text is read into do not overlap, and whatever is found wrong in a body lies in the body, so the
problems of different parts are about different tags.
-/

namespace Stencil
namespace Event

variable {event : Event}

/-- Where the tag stands that a problem is about. -/
def blamed? (event : Event) : Option Nat := event.problem?.bind Problem.offset?

theorem offset?_of_blamed?
    {offset : Nat}
    (blamed : event.blamed? = some offset) : event.offset? = some offset := by
  cases event with
  | failed problem => exact blamed
  | _ => exact nomatch blamed

end Event

namespace Run

/-- Where the tags stand that the problems of a run are about. -/
def blamed (run : Run α) : List Nat := run.events.filterMap Event.blamed?

/-- Whether the problems of a run are about different tags, all of them in one area. -/
structure Blames (area : Nat → Prop) (run : Run α) : Prop where
  nodup : run.blamed.Nodup
  inside : ∀ offset ∈ run.blamed, area offset

namespace Blames

variable {area other : Nat → Prop}

theorem of_nil {run : Run α} (none : run.blamed = []) : run.Blames area where
  nodup := none ▸ .nil
  inside := none ▸ fun _ member => absurd member List.not_mem_nil

theorem of_isPlain {run : Run α} (plain : run.IsPlain) : run.Blames area := by
  refine .of_nil (List.filterMap_eq_nil_iff.mpr fun event member => ?_)
  cases blamed : event.blamed? with
  | none => rfl
  | some offset =>
    have nowhere := Event.offset?_of_isPlain (plain event member)
    rw [Event.offset?_of_blamed? blamed] at nowhere
    exact nomatch nowhere

theorem pure (result : α) : (Pure.pure result : Run α).Blames area := .of_nil rfl

theorem mono
    {run : Run α}
    (blames : run.Blames area)
    (wider : ∀ offset, area offset → other offset) : run.Blames other :=
  ⟨blames.nodup, fun offset member => wider offset (blames.inside offset member)⟩

/-- Runs one after the other, with problems in areas that do not overlap. -/
theorem bind
    {run : Run α}
    {next : α → Run β}
    (first : run.Blames area)
    (later : ∀ result, run.outcome = .ok result → (next result).Blames other)
    (apart : ∀ offset, area offset → ¬ other offset) :
    (run >>= next).Blames fun offset => area offset ∨ other offset := by
  cases ends : run.outcome with
  | error problem =>
    rw [bind_of_error next ends]
    exact ⟨first.nodup, fun offset member => .inl (first.inside offset member)⟩
  | ok result =>
    have second := later result ends
    have both : (run >>= next).blamed = run.blamed ++ (next result).blamed := by
      rw [bind_of_ok next ends, blamed, List.filterMap_append]
      rfl
    refine ⟨?_, ?_⟩
    · rw [both]
      refine List.nodup_append.mpr ⟨first.nodup, second.nodup, ?_⟩
      rintro offset here _ there rfl
      exact apart offset (first.inside offset here) (second.inside offset there)
    · rw [both]
      intro offset member
      exact (List.mem_append.mp member).imp (first.inside offset) (second.inside offset)

/-- Only the second of two runs says something about tags. -/
theorem bind_of_isPlain
    {run : Run α}
    {next : α → Run β}
    (first : run.IsPlain)
    (later : ∀ result, run.outcome = .ok result → (next result).Blames area) :
    (run >>= next).Blames area := by
  have nothing : run.Blames fun _ => False := .of_isPlain first
  exact (nothing.bind later fun _ => False.elim).mono fun _ either => either.resolve_left id

/-- Only the first of two runs says something about tags. -/
theorem bind_isPlain
    {run : Run α}
    {next : α → Run β}
    (first : run.Blames area)
    (later : ∀ result, (next result).IsPlain) : (run >>= next).Blames area := by
  have nothing (result : α) : (next result).Blames fun _ => False := .of_isPlain (later result)
  exact (first.bind (fun result _ => nothing result) fun _ _ => id).mono
    fun _ either => either.resolve_right id

theorem within {run : Run α} (blames : run.Blames area) : (Run.within run).Blames area := by
  have same : (Run.within run).blamed = run.blamed := by
    change (Event.entered :: run.events ++ [Event.left]).filterMap Event.blamed? = _
    rw [List.filterMap_append]
    exact List.append_nil _
  exact ⟨same ▸ blames.nodup, same ▸ blames.inside⟩

/-- Runs for several items, each with its problems in an area of its own. -/
theorem collect
    {areaOf : α → Nat → Prop}
    {each : α → Run β}
    {items : List α}
    (all : ∀ item ∈ items, (each item).Blames (areaOf item))
    (apart : items.Pairwise fun left right =>
      ∀ offset, areaOf left offset → ¬ areaOf right offset) :
    (Run.collect each items).Blames fun offset => ∃ item ∈ items, areaOf item offset := by
  induction items with
  | nil => exact .pure []
  | cons item items inductionHypothesis =>
    obtain ⟨here, apart⟩ := List.pairwise_cons.mp apart
    have later := inductionHypothesis
      (fun other member => all other (List.mem_cons_of_mem item member)) apart
    have joined : (Run.collect each (item :: items)).Blames fun offset =>
        areaOf item offset ∨ ∃ other ∈ items, areaOf other offset := by
      refine (all item List.mem_cons_self).bind (fun _ _ => ?_) ?_
      · exact later.bind_isPlain fun _ => .pure _
      · rintro offset covered ⟨other, member, again⟩
        exact here other member offset covered again
    refine joined.mono ?_
    rintro offset (covered | ⟨other, member, covered⟩)
    · exact ⟨item, List.mem_cons_self, covered⟩
    · exact ⟨other, List.mem_cons_of_mem item member, covered⟩

end Blames
end Run

/-- Whether a tag opens a block of the given name. -/
def Tag.Kind.opens (name : Text) : Kind → Bool
  | opening other _ => other = name
  | _ => false

namespace Source

variable {source : Source}

/-- Whether a text has no tag that opens a loop. -/
def IsLoopFree (source : Source) : Prop :=
  ∀ tag ∈ source.tags, tag.kind.opens "each".toList = false

instance : Decidable source.IsLoopFree :=
  inferInstanceAs (Decidable (∀ tag ∈ source.tags, tag.kind.opens "each".toList = false))

theorem IsLoopFree.isLoop_eq_false
    (loopFree : source.IsLoopFree)
    {token : Token}
    (found : token ∈ source.parse.tokens) : token.isLoop = false := by
  obtain ⟨tag, member, makes⟩ := exists_makes_of_mem_tokens found
  have opens := loopFree tag member
  rw [Token.isLoop]
  generalize tag.kind = kind at makes opens
  generalize token.form = form at makes
  cases makes with
  | loop path arguments body =>
    have each : Block.forEach.name = "each".toList := rfl
    exact absurd each (of_decide_eq_false opens)
  | _ => rfl

theorem IsLoopFree.of_mem_bodies
    (loopFree : source.IsLoopFree)
    {token : Token}
    {body : Body}
    (found : token ∈ source.parse.tokens)
    (member : body ∈ token.bodies) : (source.inside body).IsLoopFree := by
  intro tag met
  obtain ⟨outer, here, same⟩ := exists_kind_eq_of_mem_body found member met
  exact same ▸ loopFree outer here

end Source

namespace Environment

variable (environment : Environment)

/-- What is wrong with the tags of a body is announced once for each tag. -/
theorem announce_blames (body : Body) :
    let source := environment.source body
    (environment.announce source.parse).Blames fun offset =>
      offset ∈ (source.outline source.tags).offsets ∧ body.Covers offset := by
  intro source
  obtain ⟨found, early, same⟩ := environment.exists_prefix_of_announce source.parse
  have blamed : (environment.announce source.parse).blamed = found.filterMap Problem.offset? := by
    have remarks : (source.parse.remarks.map Event.noticed).filterMap Event.blamed? = [] := by
      rw [List.filterMap_map]
      exact List.filterMap_eq_nil_iff.mpr fun _ _ => rfl
    rw [Run.blamed, same, List.filterMap_append, remarks, List.nil_append, List.filterMap_map]
    rfl
  have sublist : (environment.announce source.parse).blamed.Sublist
      (source.outline source.tags).offsets := by
    rw [blamed]
    exact early.sublist.filterMap _
  refine ⟨source.isSpread_parse.offsets_nodup.sublist sublist, ?_⟩
  intro offset member
  obtain ⟨event, happened, blames⟩ := List.mem_filterMap.mp member
  have placed : event.IsPlaced (source.inside body) :=
    environment.announce_isPlaced source event happened
  exact ⟨sublist.subset member, placed.covers offset (Event.offset?_of_blamed? blames)⟩

theorem token_blames
    {source : Source}
    (loopFree : source.IsLoopFree)
    {evaluateBody : BodyEvaluator}
    {token : Token}
    (found : token ∈ source.parse.tokens)
    {scope : Scope}
    (bodies : ∀ inside ∈ token.bodies, (evaluateBody inside [scope]).Blames inside.Covers) :
    (environment.token evaluateBody scope token).Blames (token.Covers source.base) := by
  rw [token_eq_demand]
  refine .bind_of_isPlain (environment.demand_isPlain scope token) fun demand ends => ?_
  have isOf := environment.demand_isOf scope token demand ends
  cases demand with
  | text known => exact .pure known
  | body inside scopes =>
    obtain ⟨member, loop | rfl⟩ := isOf
    · rw [loopFree.isLoop_eq_false found] at loop
      exact absurd loop Bool.false_ne_true
    · exact (bodies inside member).mono fun _ => Source.covers_of_mem_bodies found member

/-- The problems of a text are about different tags if those of its bodies are. -/
theorem evaluate_blames
    {evaluateBody : BodyEvaluator}
    {body : Body}
    (loopFree : (environment.source body).IsLoopFree)
    (bodies : ∀ inside, (environment.source inside).IsLoopFree →
      ∀ scope, (evaluateBody inside [scope]).Blames inside.Covers)
    (scope : Scope) :
    (environment.evaluate evaluateBody body [scope]).Blames body.Covers := by
  have spread := (environment.source body).isSpread_parse
  have tokens : (Run.collect (environment.edit evaluateBody scope)
      (environment.source body).parse.tokens).Blames fun offset =>
        ∃ token ∈ (environment.source body).parse.tokens, token.Covers body.offset offset := by
    refine .collect (fun token found => .bind_isPlain ?_ fun _ => .pure _) spread.tokens_apart
    refine environment.token_blames loopFree found fun inside member => ?_
    exact bodies inside (loopFree.of_mem_bodies found member) scope
  rw [evaluate_singleton, substitute_eq]
  refine ((environment.announce_blames body).bind
    (fun _ _ => tokens.bind_isPlain fun _ => .pure _) ?_).mono ?_
  · rintro offset ⟨blamed, -⟩ ⟨token, found, covers⟩
    exact spread.offsets_uncovered offset blamed token found covers
  · rintro offset (⟨-, covers⟩ | ⟨token, found, covers⟩)
    · exact covers
    · exact Source.lt_of_covers_token found covers

theorem evaluateBody_blames
    (room : Nat)
    {body : Body}
    (loopFree : (environment.source body).IsLoopFree)
    (scope : Scope) : (environment.evaluateBody room body [scope]).Blames body.Covers := by
  induction room generalizing body scope with
  | zero => exact .bind_isPlain (.of_nil rfl) fun _ => .pure _
  | succ room inductionHypothesis =>
    refine .within (environment.evaluate_blames loopFree (fun inside loopFree scope => ?_) scope)
    exact inductionHypothesis loopFree scope

/-- Without loops, no two problems of a rendering are about the same tag. -/
theorem evaluateTemplate_blames
    {template : Text}
    (loopFree : (environment.source ⟨template, 0⟩).IsLoopFree)
    (data : Value) :
    (environment.evaluateTemplate template data).Blames (Body.mk template 0).Covers :=
  environment.evaluate_blames loopFree
    (fun _ loopFree scope =>
      environment.evaluateBody_blames environment.options.maxDepth loopFree scope)
    (Scope.root data)

end Environment
end Stencil
