import Mathlib.Logic.ExistsUnique
import Stencil.Proofs.Source.Portion

/-!
# What becomes of the tags of a text

Each tag of a text meets one of four fates.  An expression is shown as a token, and a tag inside a
block is enclosed in the token of the block.  Any other tag is reported, or lies hidden in a block
that is reported because it has no target.
-/

namespace Stencil

/-- Whether exactly one item of a list is as wanted. -/
def OnlyOne (wanted : α → Prop) (items : List α) : Prop :=
  ∃ early item late, items = early ++ item :: late ∧ wanted item ∧
    ∀ other ∈ early ++ late, ¬ wanted other

/-- When what comes of the other items is not wanted, it depends on one item whether exactly one is
as wanted. -/
theorem onlyOne_filterMap_iff
    {wanted : β → Prop}
    {change : α → Option β}
    {early late : List α}
    {item : α}
    (others : ∀ other ∈ early ++ late, ∀ result, change other = some result → ¬ wanted result) :
    OnlyOne wanted ((early ++ item :: late).filterMap change) ↔
      ∃ result, change item = some result ∧ wanted result := by
  have unwanted : ∀ result ∈ early.filterMap change ++ late.filterMap change,
      ¬ wanted result := by
    intro result member
    rw [← List.filterMap_append] at member
    obtain ⟨other, member, same⟩ := List.mem_filterMap.mp member
    exact others other member result same
  constructor
  · rintro ⟨front, result, back, split, holds, -⟩
    refine ⟨result, ?_, holds⟩
    have member : result ∈ (early ++ item :: late).filterMap change := by
      rw [split]
      exact List.mem_append_right front List.mem_cons_self
    obtain ⟨other, member, same⟩ := List.mem_filterMap.mp member
    rcases List.mem_cons.mp (List.perm_middle.mem_iff.mp member) with rfl | elsewhere
    · exact same
    · exact absurd holds (others other elsewhere result same)
  · rintro ⟨result, same, holds⟩
    refine ⟨early.filterMap change, result, late.filterMap change, ?_, holds, unwanted⟩
    rw [List.filterMap_append, List.filterMap_cons_some same]

/-- Whether a span lies in another one. -/
def Span.Contains (outer inner : Span) : Prop :=
  outer.start ≤ inner.start ∧ inner.stop ≤ outer.stop

/-- Whether a token stands for an expression and not for a block. -/
def Token.isExpression (token : Token) : Bool :=
  match token.form with
  | .field _ | .call _ _ => true
  | .branch _ _ _ _ _ | .loop _ _ => false

/-- What can become of a tag of a text. -/
inductive Fate where
  /-- It is the place of a token. -/
  | shown
  /-- It lies in a token of a block. -/
  | enclosed
  /-- A problem is about it. -/
  | reported
  /-- It lies in a block that a problem is about. -/
  | hidden
deriving DecidableEq, Repr

namespace Source

/-- Whether a block that is reported because it has no target reaches from one tag of a text to
another one. -/
inductive Targetless (source : Source) : Tag → Tag → Prop where
  | intro
    {early behind : List Tag}
    {opening : Tag}
    {block : Block}
    {closing : Block.Closing}
    (split : source.tags = early ++ opening :: behind)
    (kind : opening.kind = .opening block.name [])
    (closed : block.closing? behind = some closing)
    (reported : .missingBlockTarget block.name (source.base + opening.span.start) ∈
      source.parse.problems) :
    Targetless source opening closing.close.tag

/-- Whether a tag of a text meets a fate. -/
def Meets (source : Source) (tag : Tag) : Fate → Prop
  | .shown => (∃ words, tag.kind = .expression words) ∧
      OnlyOne (fun token => token.isExpression ∧ token.span = tag.span) source.parse.tokens
  | .enclosed =>
    OnlyOne (fun token => ¬ token.isExpression ∧ token.span.Contains tag.span)
      source.parse.tokens
  | .reported => OnlyOne (·.IsAbout source.base tag) source.parse.problems
  | .hidden => ∃ opening close, source.Targetless opening close ∧ tag ≠ opening ∧
      (Span.mk opening.span.start close.span.stop).Contains tag.span

end Source

/-- Tags that lie one after the other are told apart by their positions. -/
theorem Tag.InOrder.split_eq
    {early late front back : List Tag}
    {left right : Tag}
    (inOrder : InOrder (early ++ left :: late))
    (split : early ++ left :: late = front ++ right :: back)
    (same : left.span.start = right.span.start) : left = right ∧ late = back := by
  induction early generalizing front with
  | nil =>
    cases front with
    | nil => exact List.cons.inj split
    | cons first front =>
      -- The other tag would lie behind this one.
      obtain ⟨rfl, rfl⟩ := List.cons.inj split
      have := inOrder.stop_le_start
      have := inOrder.1 left List.mem_cons_self
      omega
  | cons first early inductionHypothesis =>
    cases front with
    | nil =>
      obtain ⟨rfl, rfl⟩ := List.cons.inj split
      have := inOrder.stop_le_start
      have := inOrder.1 first List.mem_cons_self
      omega
    | cons other front =>
      obtain ⟨rfl, rest⟩ := List.cons.inj split
      exact inductionHypothesis inOrder.tail rest

theorem Token.isExpression_ofBlock
    (block : Block)
    (path : Text)
    (arguments : List Text)
    (body : Body)
    (alternative? : Option Body)
    (raw : Text)
    (span : Span) :
    (Token.mk (.ofBlock block path arguments body alternative?) raw span).isExpression = false := by
  cases block <;> rfl

namespace Source

variable {source : Source}

/-- A portion is reported for its missing target when it is a block that names nothing. -/
theorem Reads.exists_closing_of_missing
    {after : List Tag}
    {portion : Portion}
    {name : Text}
    {offset : Nat}
    (reads : source.Reads after portion)
    (missing : portion.problem? = some (.missingBlockTarget name offset)) :
    offset = source.base + portion.first.span.start ∧
      ∃ (block : Block) (closing : Block.Closing), block.name = name ∧
        portion.first.kind = .opening block.name [] ∧
        block.closing? (portion.others ++ after) = some closing ∧
        closing.close.tag = portion.last := by
  cases reads with
  | expression kind => exact nomatch missing
  | stray about targeted => exact absurd (Option.some.inj missing) (targeted name offset)
  | @targetless tag inside block closing kind closed =>
    obtain ⟨named, place⟩ := Problem.missingBlockTarget.inj (Option.some.inj missing)
    refine ⟨place.symm, block, closing, named, kind, ?_, List.getLastD_concat.symm⟩
    rw [List.append_assoc]
    exact closed
  | block kind closed => exact nomatch missing

namespace DividesInto

variable {portions early late : List Portion} {portion : Portion}

/-- The portion of a block without a target reaches from the opening tag to the closing tag. -/
theorem exists_portion_of_targetless
    (divides : source.DividesInto source.tags (source.outline source.tags) portions)
    {opening close : Tag}
    (targetless : source.Targetless opening close) :
    ∃ portion ∈ portions, portion.first = opening ∧ portion.last = close ∧
      ∃ name offset, portion.problem? = some (.missingBlockTarget name offset) := by
  obtain @⟨front, behind, opening, block, closing, split, kind, closed, reported⟩ := targetless
  change _ ∈ (source.outline source.tags).problems at reported
  rw [← divides.problems_eq] at reported
  obtain ⟨portion, member, missing⟩ := List.mem_filterMap.mp reported
  refine ⟨portion, member, ?_⟩
  obtain ⟨early, late, rfl⟩ := List.append_of_mem member
  obtain ⟨place, other, otherClosing, -, otherKind, otherClosed, last⟩ :=
    divides.reads.exists_reads.exists_closing_of_missing missing
  have whole := divides.tags_eq
  rw [List.flatMap_append, List.flatMap_cons, Portion.tags, List.cons_append] at whole
  have inOrder : Tag.InOrder source.tags := source.tags_ordered
  rw [← whole] at inOrder
  obtain ⟨same, rfl⟩ := inOrder.split_eq (whole.trans split) (by omega)
  rw [same, kind] at otherKind
  obtain rfl := Block.name_inj.mp (Tag.Kind.opening.inj otherKind).1
  obtain rfl := Option.some.inj (closed.symm.trans otherClosed)
  exact ⟨same, last.symm, _, _, missing⟩

theorem targetless_of_missing
    (divides : source.DividesInto source.tags (source.outline source.tags)
      (early ++ portion :: late))
    {name : Text}
    {offset : Nat}
    (missing : portion.problem? = some (.missingBlockTarget name offset)) :
    source.Targetless portion.first portion.last := by
  obtain ⟨rfl, block, closing, rfl, kind, closed, last⟩ :=
    divides.reads.exists_reads.exists_closing_of_missing missing
  have split := divides.tags_eq
  rw [List.flatMap_append, List.flatMap_cons, Portion.tags, List.cons_append] at split
  have reported : .missingBlockTarget block.name (source.base + portion.first.span.start) ∈
      source.parse.problems := by
    change _ ∈ (source.outline source.tags).problems
    rw [← divides.problems_eq]
    exact List.mem_filterMap.mpr
      ⟨portion, List.mem_append_right early List.mem_cons_self, missing⟩
  rw [← last]
  exact .intro split.symm kind closed reported

theorem inOrder_of_split
    (divides : source.DividesInto source.tags (source.outline source.tags)
      (early ++ portion :: late)) : Tag.InOrder portion.tags :=
  divides.inOrder_of_mem source.tags_ordered (List.mem_append_right early List.mem_cons_self)

/-- Portions of a text lie before each other or behind. -/
theorem apart_of_mem
    (divides : source.DividesInto source.tags (source.outline source.tags)
      (early ++ portion :: late))
    {other : Portion}
    (elsewhere : other ∈ early ++ late) :
    other.span.stop ≤ portion.span.start ∨ portion.span.stop ≤ other.span.start := by
  have apart := divides.apart source.tags_ordered
  obtain ⟨-, fromHere, across⟩ := List.pairwise_append.mp apart
  rcases List.mem_append.mp elsewhere with before | behind
  · exact .inl (across other before portion List.mem_cons_self)
  · exact .inr ((List.pairwise_cons.mp fromHere).1 other behind)

section Meeting

variable
  (divides : source.DividesInto source.tags (source.outline source.tags)
    (early ++ portion :: late))
  {tag : Tag}
  (member : tag ∈ portion.tags)

include divides member

/-- Another portion neither contains a tag nor starts where the tag does. -/
theorem not_contains
    {other : Portion}
    (elsewhere : other ∈ early ++ late) :
    (∃ after, source.Reads after other) ∧ ¬ other.span.Contains tag.span ∧
      other.span.start ≠ tag.span.start := by
  have inOrder : Tag.InOrder source.tags := source.tags_ordered
  have isPart : other ∈ early ++ portion :: late :=
    List.perm_middle.mem_iff.mpr (List.mem_cons_of_mem portion elsewhere)
  have here := divides.inOrder_of_split
  have wide := portion.wide here
  have tagWide := here.1 tag member
  have bounds := portion.bounds here tag member
  have otherWide := other.wide (divides.inOrder_of_mem inOrder isPart)
  have apart := divides.apart_of_mem elsewhere
  refine ⟨divides.reads.exists_reads_of_mem isPart, ?_, ?_⟩
  · simp only [Span.Contains]
    omega
  · omega

theorem meets_shown_iff :
    source.Meets tag .shown ↔ (∃ words, tag.kind = .expression words) ∧
      ∃ token, portion.token? = some token ∧ token.isExpression ∧ token.span = tag.span := by
  refine and_congr_right fun _ => ?_
  change OnlyOne _ (source.outline source.tags).tokens ↔ _
  rw [← divides.tokens_eq]
  refine onlyOne_filterMap_iff fun other elsewhere token made shown => ?_
  obtain ⟨⟨after, reads⟩, outside, -⟩ := divides.not_contains member elsewhere
  rw [← reads.span_eq made, shown.2] at outside
  exact outside ⟨Nat.le_refl _, Nat.le_refl _⟩

theorem meets_enclosed_iff :
    source.Meets tag .enclosed ↔ ∃ token, portion.token? = some token ∧
      ¬ token.isExpression ∧ token.span.Contains tag.span := by
  change OnlyOne _ (source.outline source.tags).tokens ↔ _
  rw [← divides.tokens_eq]
  refine onlyOne_filterMap_iff fun other elsewhere token made encloses => ?_
  obtain ⟨⟨after, reads⟩, outside, -⟩ := divides.not_contains member elsewhere
  rw [← reads.span_eq made] at outside
  exact outside encloses.2

theorem meets_reported_iff :
    source.Meets tag .reported ↔ ∃ problem, portion.problem? = some problem ∧
      problem.IsAbout source.base tag := by
  change OnlyOne _ (source.outline source.tags).problems ↔ _
  rw [← divides.problems_eq]
  refine onlyOne_filterMap_iff fun other elsewhere problem found about => ?_
  obtain ⟨⟨after, reads⟩, -, away⟩ := divides.not_contains member elsewhere
  have same := Option.some.inj ((reads.isAbout found).1.symm.trans about.1)
  exact away (Nat.add_left_cancel same)

theorem meets_hidden_iff :
    source.Meets tag .hidden ↔ tag ≠ portion.first ∧
      ∃ name offset, portion.problem? = some (.missingBlockTarget name offset) := by
  constructor
  · rintro ⟨opening, close, targetless, behind, inside⟩
    obtain ⟨other, isPart, rfl, rfl, missing⟩ := divides.exists_portion_of_targetless targetless
    rcases List.mem_cons.mp (List.perm_middle.mem_iff.mp isPart) with rfl | elsewhere
    · exact ⟨behind, missing⟩
    · exact absurd inside (divides.not_contains member elsewhere).2.1
  · rintro ⟨behind, name, offset, missing⟩
    exact ⟨portion.first, portion.last, divides.targetless_of_missing missing, behind,
      portion.bounds divides.inOrder_of_split tag member⟩

/-- A tag of a portion that comes to a token is not left as text. -/
theorem not_meets_of_token
    {token : Token}
    (made : portion.token? = some token) :
    ¬ source.Meets tag .reported ∧ ¬ source.Meets tag .hidden := by
  rw [divides.meets_reported_iff member, divides.meets_hidden_iff member]
  rw [portion.problem?_eq_none made]
  constructor
  · rintro ⟨problem, found, -⟩
    exact nomatch found
  · rintro ⟨-, name, offset, found⟩
    exact nomatch found

/-- A tag of a portion that comes to a problem is in no token. -/
theorem not_meets_of_problem
    {problem : Problem}
    (found : portion.problem? = some problem) :
    ¬ source.Meets tag .shown ∧ ¬ source.Meets tag .enclosed := by
  rw [divides.meets_shown_iff member, divides.meets_enclosed_iff member]
  rw [portion.token?_eq_none found]
  constructor
  · rintro ⟨-, token, made, -⟩
    exact nomatch made
  · rintro ⟨token, made, -⟩
    exact nomatch made

/-- A tag of a portion that comes to a token is the place of the token, or the token is a block. -/
theorem existsUnique_meets_of_token
    {token : Token}
    (made : portion.token? = some token)
    (plain : token.isExpression → (∃ words, tag.kind = .expression words) ∧
      token.span = tag.span) : ∃! fate, source.Meets tag fate := by
  have shown := divides.meets_shown_iff member
  have enclosed := divides.meets_enclosed_iff member
  obtain ⟨unreported, unhidden⟩ := divides.not_meets_of_token member made
  cases isExpression : token.isExpression with
  | true =>
    obtain ⟨kind, span⟩ := plain isExpression
    refine ⟨.shown, shown.mpr ⟨kind, token, made, isExpression, span⟩, fun fate met => ?_⟩
    cases fate with
    | shown => rfl
    | enclosed =>
      obtain ⟨other, madeOther, block, -⟩ := enclosed.mp met
      obtain rfl := Option.some.inj (made.symm.trans madeOther)
      exact absurd isExpression block
    | reported => exact absurd met unreported
    | hidden => exact absurd met unhidden
  | false =>
    have block : ¬ token.isExpression := Bool.eq_false_iff.mp isExpression
    have inside : token.span.Contains tag.span := by
      rw [divides.reads.exists_reads.span_eq made]
      exact portion.bounds divides.inOrder_of_split tag member
    refine ⟨.enclosed, enclosed.mpr ⟨token, made, block, inside⟩, fun fate met => ?_⟩
    cases fate with
    | shown =>
      obtain ⟨-, other, madeOther, expression, -⟩ := shown.mp met
      obtain rfl := Option.some.inj (made.symm.trans madeOther)
      exact absurd expression block
    | enclosed => rfl
    | reported => exact absurd met unreported
    | hidden => exact absurd met unhidden

/-- A tag of a portion that comes to a problem is the one that the problem is about, or it is hidden
behind it. -/
theorem existsUnique_meets_of_problem
    {problem : Problem}
    (found : portion.problem? = some problem)
    (alone : tag ≠ portion.first → ∃ name offset, problem = .missingBlockTarget name offset) :
    ∃! fate, source.Meets tag fate := by
  have reported := divides.meets_reported_iff member
  have hidden := divides.meets_hidden_iff member
  have about := divides.reads.exists_reads.isAbout found
  obtain ⟨unshown, unenclosed⟩ := divides.not_meets_of_problem member found
  by_cases first : tag = portion.first
  · refine ⟨.reported, reported.mpr ⟨problem, found, first ▸ about⟩, fun fate met => ?_⟩
    cases fate with
    | shown => exact absurd met unshown
    | enclosed => exact absurd met unenclosed
    | reported => rfl
    | hidden => exact absurd first (hidden.mp met).1
  · obtain ⟨name, offset, rfl⟩ := alone first
    refine ⟨.hidden, hidden.mpr ⟨first, name, offset, found⟩, fun fate met => ?_⟩
    cases fate with
    | shown => exact absurd met unshown
    | enclosed => exact absurd met unenclosed
    | reported =>
      obtain ⟨other, foundOther, aboutOther⟩ := reported.mp met
      obtain rfl := Option.some.inj (found.symm.trans foundOther)
      -- The tag lies behind the one that the problem is about.
      have here := divides.inOrder_of_split
      have behind := (List.pairwise_cons.mp here.2).1 tag
        ((List.mem_cons.mp member).resolve_left first)
      have wide := here.1 portion.first List.mem_cons_self
      have same := Option.some.inj (about.1.symm.trans aboutOther.1)
      omega
    | hidden => rfl

/-- A tag of a portion meets one fate. -/
theorem existsUnique_meets_of_mem : ∃! fate, source.Meets tag fate := by
  cases divides.reads.exists_reads with
  | @expression first words kind =>
    refine divides.existsUnique_meets_of_token member rfl fun _ => ?_
    obtain rfl := List.mem_singleton.mp member
    exact ⟨⟨words, kind⟩, rfl⟩
  | @stray first problem about targeted =>
    refine divides.existsUnique_meets_of_problem member rfl fun different => ?_
    exact absurd (List.mem_singleton.mp member) different
  | @targetless first inside block closing kind closed =>
    exact divides.existsUnique_meets_of_problem member rfl fun _ => ⟨_, _, rfl⟩
  | @block first inside block path arguments closing kind closed =>
    refine divides.existsUnique_meets_of_token member rfl fun expression => ?_
    rw [blockToken_eq, Source.token, Token.isExpression_ofBlock] at expression
    exact absurd expression Bool.false_ne_true

end Meeting

/-- The problems of a text come in the order of their places, and no two in the same place. -/
theorem offsets_increasing
    (divides : source.DividesInto source.tags (source.outline source.tags) portions) :
    (source.parse.problems.filterMap Problem.offset?).Pairwise (· < ·) := by
  have inOrder : Tag.InOrder source.tags := source.tags_ordered
  have place {portion : Portion} (member : portion ∈ portions) {offset : Nat}
      (found : portion.problem?.bind Problem.offset? = some offset) :
      offset = source.base + portion.span.start := by
    obtain ⟨problem, isProblem, here⟩ := Option.bind_eq_some_iff.mp found
    obtain ⟨after, reads⟩ := divides.reads.exists_reads_of_mem member
    exact Option.some.inj (here.symm.trans (reads.isAbout isProblem).1)
  change ((source.outline source.tags).problems.filterMap _).Pairwise _
  rw [← divides.problems_eq, List.filterMap_filterMap, List.pairwise_filterMap]
  refine (divides.apart inOrder).imp_of_mem fun {left right} isLeft isRight apart => ?_
  intro offset found other foundOther
  have wide := left.wide (divides.inOrder_of_mem inOrder isLeft)
  rw [place isLeft found, place isRight foundOther]
  omega

end DividesInto

end Source
end Stencil
