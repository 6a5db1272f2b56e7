import Stencil.Proofs.Block.Counting
import Stencil.Proofs.Source.Position

/-!
# Reading tags in portions

Tags are read in portions.  A portion is a tag that is read alone, or all the tags of a block, and
it comes to a token or to a problem.  The portions of a text lie one after the other, so what comes
of one of them lies apart from what comes of the others.
-/

namespace Stencil

/-- Tags that are read in one step, and what they come to. -/
structure Portion where
  /-- The tag that it starts with. -/
  first : Tag
  /-- The tags that it takes along. -/
  others : List Tag
  /-- The token or the problem that it comes to. -/
  result : Token ⊕ Problem

namespace Portion

/-- The tags of a portion. -/
def tags (portion : Portion) : List Tag := portion.first :: portion.others

/-- The tag that a portion ends with. -/
def last (portion : Portion) : Tag := portion.others.getLastD portion.first

/-- Where a portion stands. -/
def span (portion : Portion) : Span := ⟨portion.first.span.start, portion.last.span.stop⟩

/-- The token of a portion. -/
def token? (portion : Portion) : Option Token := portion.result.getLeft?

/-- The problem of a portion. -/
def problem? (portion : Portion) : Option Problem := portion.result.getRight?

theorem problem?_eq_none
    (portion : Portion)
    {token : Token}
    (made : portion.token? = some token) : portion.problem? = none := by
  obtain ⟨first, others, result⟩ := portion
  cases result with
  | inl token => rfl
  | inr problem => exact nomatch made

theorem token?_eq_none
    (portion : Portion)
    {problem : Problem}
    (found : portion.problem? = some problem) : portion.token? = none := by
  obtain ⟨first, others, result⟩ := portion
  cases result with
  | inl token => exact nomatch found
  | inr problem => rfl

end Portion

namespace Source

/-- How a portion is read when certain tags follow it. -/
inductive Reads (source : Source) (after : List Tag) : Portion → Prop where
  /-- An expression is a token. -/
  | expression
    {tag : Tag}
    {words : List Text}
    (kind : tag.kind = .expression words) :
    Reads source after ⟨tag, [], .inl (source.token (.ofWords source.isHelper words) tag.span)⟩
  /-- A tag that fits nowhere is a problem. -/
  | stray
    {tag : Tag}
    {problem : Problem}
    (about : problem.IsAbout source.base tag)
    (targeted : ∀ name offset, problem ≠ .missingBlockTarget name offset) :
    Reads source after ⟨tag, [], .inr problem⟩
  /-- A block without a target is a problem. -/
  | targetless
    {tag : Tag}
    {inside : List Tag}
    {block : Block}
    {closing : Block.Closing}
    (kind : tag.kind = .opening block.name [])
    (closed : block.closing? (inside ++ closing.close.tag :: after) = some closing) :
    Reads source after ⟨tag, inside ++ [closing.close.tag],
      .inr (.missingBlockTarget block.name (source.base + tag.span.start))⟩
  /-- A block with a target is a token. -/
  | block
    {tag : Tag}
    {inside : List Tag}
    {block : Block}
    {path : Text}
    {arguments : List Text}
    {closing : Block.Closing}
    (kind : tag.kind = .opening block.name (path :: arguments))
    (closed : block.closing? (inside ++ closing.close.tag :: after) = some closing) :
    Reads source after ⟨tag, inside ++ [closing.close.tag],
      .inl (source.blockToken block path arguments tag.span closing)⟩

/-- Portions that are read one after the other. -/
inductive ReadsAll (source : Source) : List Portion → Prop where
  | nil : ReadsAll source []
  | cons
    {portion : Portion}
    {portions : List Portion}
    (reads : source.Reads (portions.flatMap Portion.tags) portion)
    (later : ReadsAll source portions) : ReadsAll source (portion :: portions)

/-- Whether tags with an outline are divided into portions. -/
structure DividesInto
    (source : Source)
    (tags : List Tag)
    (outline : Outline)
    (portions : List Portion) : Prop where
  reads : source.ReadsAll portions
  tags_eq : portions.flatMap Portion.tags = tags
  tokens_eq : portions.filterMap Portion.token? = outline.tokens
  problems_eq : portions.filterMap Portion.problem? = outline.problems

namespace DividesInto

variable
  {source : Source}
  {tag : Tag}
  {tags others : List Tag}
  {outline : Outline}
  {portions : List Portion}

theorem withToken
    {token : Token}
    (divides : source.DividesInto tags outline portions)
    (reads : source.Reads tags ⟨tag, others, .inl token⟩) :
    source.DividesInto (tag :: (others ++ tags)) (outline.withToken token)
      (⟨tag, others, .inl token⟩ :: portions) where
  reads := .cons (by rwa [divides.tags_eq]) divides.reads
  tags_eq := by rw [List.flatMap_cons, divides.tags_eq, Portion.tags, List.cons_append]
  tokens_eq := by
    have here : Portion.token? ⟨tag, others, .inl token⟩ = some token := rfl
    rw [List.filterMap_cons_some here, divides.tokens_eq, Outline.withToken]
  problems_eq := (List.filterMap_cons_none rfl).trans divides.problems_eq

theorem withProblem
    {problem : Problem}
    (divides : source.DividesInto tags outline portions)
    (reads : source.Reads tags ⟨tag, others, .inr problem⟩) :
    source.DividesInto (tag :: (others ++ tags)) (outline.withProblem problem)
      (⟨tag, others, .inr problem⟩ :: portions) where
  reads := .cons (by rwa [divides.tags_eq]) divides.reads
  tags_eq := by rw [List.flatMap_cons, divides.tags_eq, Portion.tags, List.cons_append]
  tokens_eq := (List.filterMap_cons_none rfl).trans divides.tokens_eq
  problems_eq := by
    have here : Portion.problem? ⟨tag, others, .inr problem⟩ = some problem := rfl
    rw [List.filterMap_cons_some here, divides.problems_eq, Outline.withProblem]

end DividesInto

/-- Any tags are divided into portions. -/
theorem exists_dividesInto (source : Source) (tags : List Tag) :
    ∃ portions, source.DividesInto tags (source.outline tags) portions := by
  induction tags using source.outline_induction with
  | done => exact ⟨[], .nil, rfl, rfl, rfl⟩
  | expression kind inductionHypothesis =>
    obtain ⟨portions, divides⟩ := inductionHypothesis
    exact ⟨_, divides.withToken (.expression kind)⟩
  | stray stray inductionHypothesis =>
    obtain ⟨portions, divides⟩ := inductionHypothesis
    exact ⟨_, divides.withProblem (.stray stray.isAbout stray.targeted)⟩
  | targetless kind takes inductionHypothesis =>
    obtain ⟨portions, divides⟩ := inductionHypothesis
    have divided := divides.withProblem (.targetless kind takes.closing?_eq)
    rw [List.append_assoc, List.singleton_append] at divided
    exact ⟨_, divided⟩
  | block kind takes inductionHypothesis =>
    obtain ⟨portions, divides⟩ := inductionHypothesis
    have divided := divides.withToken (.block kind takes.closing?_eq)
    rw [List.append_assoc, List.singleton_append] at divided
    exact ⟨_, divided⟩

variable {source : Source}

/-- A portion that comes to a token stands where the token stands. -/
theorem Reads.span_eq
    {after : List Tag}
    {portion : Portion}
    {token : Token}
    (reads : source.Reads after portion)
    (made : portion.token? = some token) : token.span = portion.span := by
  cases reads with
  | expression kind =>
    obtain rfl := Option.some.inj made
    rfl
  | stray about targeted => exact nomatch made
  | targetless kind closed => exact nomatch made
  | block kind closed =>
    obtain rfl := Option.some.inj made
    rw [blockToken_eq, Portion.span, Portion.last, List.getLastD_concat]
    rfl

/-- The raw text of a token is the text at its span. -/
theorem Reads.raw_eq
    {after : List Tag}
    {portion : Portion}
    {token : Token}
    (reads : source.Reads after portion)
    (made : portion.token? = some token) :
    token.raw = Text.slice source.text token.span.start token.span.stop := by
  cases reads with
  | expression kind =>
    obtain rfl := Option.some.inj made
    rfl
  | stray about targeted => exact nomatch made
  | targetless kind closed => exact nomatch made
  | block kind closed =>
    obtain rfl := Option.some.inj made
    rfl

/-- A portion that comes to a problem starts with the tag that the problem is about. -/
theorem Reads.isAbout
    {after : List Tag}
    {portion : Portion}
    {problem : Problem}
    (reads : source.Reads after portion)
    (found : portion.problem? = some problem) : problem.IsAbout source.base portion.first := by
  cases reads with
  | expression kind => exact nomatch found
  | stray about targeted =>
    obtain rfl := Option.some.inj found
    exact about
  | targetless kind closed =>
    obtain rfl := Option.some.inj found
    exact ⟨rfl, kind⟩
  | block kind closed => exact nomatch found

theorem ReadsAll.exists_reads
    {early late : List Portion}
    {portion : Portion}
    (reads : source.ReadsAll (early ++ portion :: late)) :
    source.Reads (late.flatMap Portion.tags) portion := by
  induction early with
  | nil =>
    obtain _ | ⟨here, later⟩ := reads
    exact here
  | cons first early inductionHypothesis =>
    obtain _ | ⟨here, later⟩ := reads
    exact inductionHypothesis later

theorem ReadsAll.exists_reads_of_mem
    {portions : List Portion}
    {portion : Portion}
    (reads : source.ReadsAll portions)
    (member : portion ∈ portions) : ∃ after, source.Reads after portion := by
  obtain ⟨early, late, rfl⟩ := List.append_of_mem member
  exact ⟨_, reads.exists_reads⟩

end Source

namespace Portion

variable {portion : Portion}

theorem exists_tags_eq (portion : Portion) : ∃ front, portion.tags = front ++ [portion.last] := by
  obtain ⟨first, others, result⟩ := portion
  rcases List.eq_nil_or_concat others with rfl | ⟨front, final, rfl⟩
  · exact ⟨[], rfl⟩
  · refine ⟨first :: front, ?_⟩
    rw [tags, last, List.concat_eq_append, List.getLastD_concat, List.cons_append]

/-- The tags of a portion lie in it. -/
theorem bounds
    (inOrder : Tag.InOrder portion.tags) :
    ∀ tag ∈ portion.tags,
      portion.span.start ≤ tag.span.start ∧ tag.span.stop ≤ portion.span.stop := by
  obtain ⟨wide, ordered⟩ := inOrder
  intro tag member
  constructor
  · rcases List.mem_cons.mp member with rfl | later
    · exact Nat.le_refl _
    · have := wide portion.first List.mem_cons_self
      have := (List.pairwise_cons.mp ordered).1 tag later
      simp only [span]
      omega
  · obtain ⟨front, split⟩ := portion.exists_tags_eq
    rw [split] at wide ordered member
    rcases List.mem_append.mp member with early | final
    · have := wide portion.last (List.mem_append_right front (List.mem_singleton_self _))
      have := (List.pairwise_append.mp ordered).2.2 tag early _ (List.mem_singleton_self _)
      simp only [span]
      omega
    · rw [List.mem_singleton.mp final]
      exact Nat.le_refl _

theorem wide (inOrder : Tag.InOrder portion.tags) : portion.span.start < portion.span.stop := by
  have := inOrder.1 portion.first List.mem_cons_self
  have := (bounds inOrder portion.first List.mem_cons_self).2
  simp only [span] at *
  omega

theorem last_mem (portion : Portion) : portion.last ∈ portion.tags := by
  obtain ⟨front, split⟩ := portion.exists_tags_eq
  rw [split]
  exact List.mem_append_right front (List.mem_singleton_self _)

end Portion

namespace Source.DividesInto

variable
  {source : Source}
  {tags : List Tag}
  {outline : Outline}
  {portions : List Portion}
  (divides : source.DividesInto tags outline portions)
  (inOrder : Tag.InOrder tags)

include divides inOrder

theorem inOrder_of_mem
    {portion : Portion}
    (member : portion ∈ portions) : Tag.InOrder portion.tags := by
  obtain ⟨early, late, rfl⟩ := List.append_of_mem member
  rw [← divides.tags_eq, List.flatMap_append, List.flatMap_cons] at inOrder
  exact inOrder.of_append.left

/-- Portions lie one after the other. -/
theorem apart :
    portions.Pairwise fun left right => left.span.stop ≤ right.span.start := by
  have ordered := inOrder.2
  rw [← divides.tags_eq, List.pairwise_flatMap] at ordered
  exact ordered.2.imp fun before => before _ (Portion.last_mem _) _ List.mem_cons_self

end Source.DividesInto
end Stencil
