import Stencil.Proofs.Render.Demand
import Stencil.Proofs.Render.Reading
import Stencil.Proofs.Source.Mention
import Stencil.Proofs.Source.Position

/-!
# Where problems and notices are placed

Problems and notices about tags carry positions, and the bodies in which they are found are read
over and over, each on its own.  All these positions are positions of the whole template: the tag or
the delimiter in question is found there when the whole template is read.
-/

namespace Stencil

/-- Where the delimiter stands that a notice is about. -/
def Notice.offset? : Notice → Option Nat
  | .unterminated offset => some offset
  | .reopened offset => some offset
  | .notIterable _ => none

namespace Event

/-- Where the tag or the delimiter stands that an event is about. -/
def offset? : Event → Option Nat
  | .failed problem => problem.offset?
  | .noticed notice => notice.offset?
  | _ => none

/-- Whether the place that an event is about is found in a text: a problem is about a tag of the
text, and a notice about a delimiter that is left as text there. -/
def IsPlaced (source : Source) : Event → Prop
  | .failed problem => problem.offset?.isSome → ∃ tag ∈ source.tags, problem.IsAbout source.base tag
  | .noticed notice =>
    ∀ offset ∈ notice.offset?, ∃ start ∈ source.loose, source.base + start = offset
  | _ => True

theorem offset?_of_isPlain {event : Event} (plain : event.isStructural = false) :
    event.offset? = none := by
  cases event with
  | failed problem =>
    cases problem with
    | missingVariable path => rfl
    | missingHelper name => rfl
    | notIterable path => rfl
    | helperFailed name message => rfl
    | _ => exact Bool.noConfusion plain
  | noticed notice =>
    cases notice with
    | notIterable path => rfl
    | _ => exact Bool.noConfusion plain
  | _ => rfl

variable {source : Source} {event : Event}

theorem isPlaced_of_offset? (nowhere : event.offset? = none) : event.IsPlaced source := by
  cases event with
  | failed problem =>
    intro somewhere
    rw [show problem.offset? = none from nowhere] at somewhere
    exact Bool.noConfusion somewhere
  | noticed notice =>
    intro offset member
    rw [show notice.offset? = none from nowhere] at member
    exact absurd member (Option.not_mem_none offset)
  | _ => trivial

/-- What is found in a body is found in the text around it. -/
theorem IsPlaced.of_shows
    {body : Body}
    {inset : Nat}
    (placed : event.IsPlaced (source.inside body))
    (shows : source.Shows body inset) : event.IsPlaced source := by
  have place (start : Nat) : body.offset + start = source.base + (start + inset) := by
    rw [shows.offset_eq, Nat.add_assoc, Nat.add_comm inset]
  cases event with
  | failed problem =>
    intro somewhere
    obtain ⟨tag, found, here, blames⟩ := placed somewhere
    refine ⟨tag.shift inset, shows.tags_subset (List.mem_map_of_mem found), ?_, blames⟩
    exact here.trans (congrArg Option.some (place tag.span.start))
  | noticed notice =>
    intro offset member
    obtain ⟨start, found, rfl⟩ := placed offset member
    exact ⟨start + inset, shows.loose_subset (List.mem_map_of_mem found), (place start).symm⟩
  | _ => trivial

/-- What is found in a body lies in it. -/
theorem IsPlaced.covers
    {body : Body}
    (placed : event.IsPlaced (source.inside body)) :
    ∀ offset ∈ event.offset?, body.Covers offset := by
  intro offset member
  cases event with
  | failed problem =>
    obtain ⟨tag, found, here, -⟩ := placed (Option.isSome_of_mem member)
    have bounds := (source.inside body).hasSpans_tags.bounds tag.span (List.mem_map_of_mem found)
    have wide := (source.inside body).tags_ordered.1 tag found
    have same : offset = body.offset + tag.span.start := Option.some.inj (member.symm.trans here)
    simp only [Source.inside] at bounds
    simp only [Body.Covers]
    omega
  | noticed notice =>
    obtain ⟨start, found, rfl⟩ := placed offset member
    obtain ⟨nonempty, before, after, split, rfl⟩ := Source.exists_occurrence_of_mem_loose found
    have wide := Text.size_pos_of_ne_nil nonempty
    have sizes := congrArg Text.size split
    simp only [Source.inside, Text.size_append] at sizes wide
    simp only [Body.Covers, Source.inside]
    omega
  | _ => exact absurd member (Option.not_mem_none offset)

end Event

namespace Environment

variable (environment : Environment)

/-- Reading a text announces what is found in it. -/
theorem announce_isPlaced (source : Source) :
    (environment.announce source.parse).Records (Event.IsPlaced source) := by
  have loose : ∀ offset ∈ source.parse.loose,
      ∃ start ∈ source.loose, source.base + start = offset :=
    fun offset member => List.mem_map.mp (source.loose_parse_perm.subset member)
  refine Run.Records.bind (.forAll fun offset member => .record ?_) fun _ _ => ?_
  · intro same here
    obtain rfl := Option.some.inj here
    exact loose offset (List.mem_append_left _ member)
  refine Run.Records.bind (.forAll fun offset member => .record ?_) fun _ _ => ?_
  · intro same here
    obtain rfl := Option.some.inj here
    exact loose offset (List.mem_append_right _ member)
  refine .forAll fun problem member => .report ?_ _
  exact fun _ => Source.exists_tag_of_mem_problems member

/-- Every place that is reported while a body is evaluated is found when the body is read. -/
theorem evaluate_isPlaced
    {evaluateBody : BodyEvaluator}
    (bodies : ∀ body scopes,
      (evaluateBody body scopes).Records (Event.IsPlaced (environment.source body)))
    (body : Body)
    (scopes : List Scope) :
    (environment.evaluate evaluateBody body scopes).Records
      (Event.IsPlaced (environment.source body)) := by
  refine environment.evaluate_records ?_ (environment.announce_isPlaced _) ?_ scopes
  · exact fun event plain => Event.isPlaced_of_offset? (Event.offset?_of_isPlain plain)
  · intro token found inside member scopes event happened
    obtain ⟨inset, -, shows⟩ := Source.exists_shows_of_mem_bodies found member
    have placed : event.IsPlaced ((environment.source body).inside inside) :=
      bodies inside scopes event happened
    exact placed.of_shows shows

theorem evaluateBody_isPlaced (room : Nat) (body : Body) (scopes : List Scope) :
    (environment.evaluateBody room body scopes).Records
      (Event.IsPlaced (environment.source body)) := by
  induction room generalizing body scopes with
  | zero =>
    refine Run.Records.bind (.report ?_ _) fun _ _ => .pure _
    exact Event.isPlaced_of_offset? rfl
  | succ room inductionHypothesis =>
    exact (environment.evaluate_isPlaced inductionHypothesis body scopes).within trivial trivial

theorem evaluateTemplate_isPlaced (template : Text) (data : Value) :
    (environment.evaluateTemplate template data).Records
      (Event.IsPlaced (environment.source ⟨template, 0⟩)) :=
  environment.evaluate_isPlaced (environment.evaluateBody_isPlaced environment.options.maxDepth) _ _

end Environment
end Stencil
