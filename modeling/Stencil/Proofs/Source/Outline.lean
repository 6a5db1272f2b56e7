import Stencil.Proofs.Block.Balance
import Stencil.Source

/-!
# Reading tags in order

Tags are read from left to right.  Each tag is an expression, or is reported and stays in the text,
or opens a block that takes all tags up to its closing tag.  What is read of some tags is not
changed by tags that follow them, unless a block among them is still open.
-/

namespace Stencil

namespace Problem

/-- Whether a problem is a block without a closing tag. -/
def isUnclosedBlock : Problem → Bool
  | .unclosedBlock _ _ => true
  | _ => false

/-- Where the tag stands that a problem is about. -/
def offset? : Problem → Option Nat
  | .unclosedBlock _ offset => some offset
  | .unexpectedClose _ offset => some offset
  | .strayElse offset => some offset
  | .unknownBlock _ offset => some offset
  | .missingBlockTarget _ offset => some offset
  | _ => none

/-- Whether a tag is of the kind that a problem is about: it opens the block that the problem names,
or closes it, or starts an alternative. -/
def Blames (problem : Problem) (kind : Tag.Kind) : Prop :=
  match problem with
  | .unclosedBlock name _ => ∃ arguments, kind = .opening name arguments
  | .unexpectedClose name _ => kind = .closing name
  | .strayElse _ => kind = .otherwise
  | .unknownBlock name _ => ∃ arguments, kind = .opening name arguments
  | .missingBlockTarget name _ => kind = .opening name []
  | _ => False

/-- Whether a problem is about a tag of a text that stands at `base` in the whole template. -/
def IsAbout (base : Nat) (tag : Tag) (problem : Problem) : Prop :=
  problem.offset? = some (base + tag.span.start) ∧ problem.Blames tag.kind

end Problem

namespace Outline

/-- One outline followed by another. -/
instance : Append Outline where
  append left right := ⟨left.tokens ++ right.tokens, left.problems ++ right.problems⟩

@[simp] theorem tokens_append (left right : Outline) :
    (left ++ right).tokens = left.tokens ++ right.tokens := rfl

@[simp] theorem problems_append (left right : Outline) :
    (left ++ right).problems = left.problems ++ right.problems := rfl

end Outline

/-- The tags that a block leaves are tags of the list. -/
theorem Tag.mem_behind
    {other : Tag}
    {after : List Tag}
    (member : other ∈ after)
    (tag : Tag)
    (inside : List Tag)
    (close : Tag) : other ∈ tag :: (inside ++ close :: after) :=
  List.mem_cons_of_mem tag (List.mem_append_right inside (List.mem_cons_of_mem close member))

namespace Block

/-- Whether a block takes certain tags and the tag that closes it, and leaves the tags that
follow. -/
structure Takes
    (block : Block)
    (inside : List Tag)
    (closing : Closing)
    (after : List Tag) : Prop where
  /-- The search for the end of the block finds the closing tag. -/
  closing?_eq : block.closing? (inside ++ closing.close.tag :: after) = some closing
  /-- The closing tag stands right behind the tags that the block takes. -/
  position_eq : closing.close.position = inside.length

variable {block : Block} {tags inside after : List Tag} {closing : Closing}

/-- A block takes the balanced tags inside it. -/
theorem takes_of_balanced
    {body : List Tag}
    (balanced : Balanced body)
    (span : Span)
    (after : List Tag) :
    block.Takes body ⟨none, ⟨body.length, ⟨.closing block.name, span⟩⟩⟩ after where
  closing?_eq := block.closing?_of_balanced balanced span after
  position_eq := rfl

/-- A block with an alternative takes the balanced tags on both sides of it. -/
theorem takes_of_balanced_choice
    (allowed : block.hasAlternative)
    {body alternative : List Tag}
    (bodyBalanced : Balanced body)
    (alternativeBalanced : Balanced alternative)
    (otherwise span : Span)
    (after : List Tag) :
    block.Takes (body ++ ⟨.otherwise, otherwise⟩ :: alternative)
      ⟨some ⟨body.length, ⟨.otherwise, otherwise⟩⟩,
        ⟨body.length + 1 + alternative.length, ⟨.closing block.name, span⟩⟩⟩ after where
  closing?_eq := by
    rw [List.append_assoc, List.cons_append]
    exact block.closing?_of_balanced_choice allowed bodyBalanced alternativeBalanced otherwise span
      after
  position_eq := by
    rw [List.length_append, List.length_cons, Nat.add_assoc, Nat.add_comm 1]

/-- A block that is closed takes the tags up to its closing tag. -/
theorem exists_takes
    (found : block.closing? tags = some closing) :
    ∃ inside after, tags = inside ++ closing.close.tag :: after ∧
      block.Takes inside closing after := by
  obtain ⟨inside, after, rfl, place, -⟩ := block.exists_split_of_closingFrom found
  rw [Nat.zero_add] at place
  exact ⟨inside, after, rfl, found, place⟩

/-- The end of a block and the start of its alternative are tags of the list. -/
theorem mem_of_closing?
    (found : block.closing? tags = some closing) :
    closing.close.tag ∈ tags ∧
      ∀ alternative ∈ closing.alternative?, alternative.tag ∈ tags := by
  obtain ⟨before, after, rfl, -, alternative⟩ := block.exists_split_of_closingFrom found
  refine ⟨List.mem_append_right before List.mem_cons_self, ?_⟩
  intro other member
  rcases alternative with none | ⟨early, alternative, late, rfl, some⟩
  · rw [none] at member
    exact absurd member (Option.not_mem_none other)
  · rw [some] at member
    obtain rfl := Option.some.inj member
    exact List.mem_append_left _ (List.mem_append_right early List.mem_cons_self)

namespace Takes

variable (takes : block.Takes inside closing after)

include takes

/-- The tags that follow are left. -/
theorem drop_eq :
    (inside ++ closing.close.tag :: after).drop (closing.close.position + 1) = after := by
  rw [takes.position_eq, List.drop_length_add_append, List.drop_one, List.tail_cons]

/-- A block that is closed takes the same tags when more tags follow. -/
theorem append (right : List Tag) : block.Takes inside closing (after ++ right) where
  closing?_eq := by
    have found := block.closingFrom_append_of_some takes.closing?_eq right
    rwa [List.append_assoc, List.cons_append] at found
  position_eq := takes.position_eq

end Takes

end Block

namespace Source

/-- The first body of a block ends where the alternative starts, or else where the block is
closed. -/
theorem blockToken_eq
    (source : Source)
    (block : Block)
    (path : Text)
    (arguments : List Text)
    (opening : Span)
    (closing : Block.Closing) :
    source.blockToken block path arguments opening closing =
      source.token
        (.ofBlock block path arguments
          (source.body opening.stop (closing.alternative?.getD closing.close).tag.span.start)
          (closing.alternative?.map fun alternative =>
            source.body alternative.tag.span.stop closing.close.tag.span.start))
        ⟨opening.start, closing.close.tag.span.stop⟩ := by
  rw [blockToken]
  cases closing.alternative? <;> rfl

/-- Whether a tag is reported alone when certain tags follow it. -/
inductive IsStray (source : Source) (tag : Tag) (tags : List Tag) : Problem → Prop where
  /-- An alternative belongs to no block. -/
  | otherwise
    (kind : tag.kind = .otherwise) :
    IsStray source tag tags (.strayElse (source.base + tag.span.start))
  /-- A closing tag belongs to no block. -/
  | closing
    {name : Text}
    (kind : tag.kind = .closing name) :
    IsStray source tag tags (.unexpectedClose name (source.base + tag.span.start))
  /-- No block has the name. -/
  | unknown
    {name : Text}
    {arguments : List Text}
    (kind : tag.kind = .opening name arguments)
    (unknown : Block.ofName? name = none) :
    IsStray source tag tags (.unknownBlock name (source.base + tag.span.start))
  /-- The block is not closed. -/
  | unclosed
    {block : Block}
    {arguments : List Text}
    (kind : tag.kind = .opening block.name arguments)
    (unclosed : block.closing? tags = none) :
    IsStray source tag tags (.unclosedBlock block.name (source.base + tag.span.start))

variable
  {source : Source}
  {tag : Tag}
  {tags inside after : List Tag}

namespace IsStray

variable
  {problem : Problem}
  (stray : source.IsStray tag tags problem)

include stray

/-- What is reported is about the tag. -/
theorem isAbout : problem.IsAbout source.base tag := by
  cases stray with
  | otherwise kind => exact ⟨rfl, kind⟩
  | closing kind => exact ⟨rfl, kind⟩
  | unknown kind unknown => exact ⟨rfl, _, kind⟩
  | unclosed kind unclosed => exact ⟨rfl, _, kind⟩

/-- Only a block that is closed is reported to be without a target. -/
theorem targeted (name : Text) (offset : Nat) : problem ≠ .missingBlockTarget name offset := by
  cases stray <;> exact Problem.noConfusion

/-- A tag stays alone when more tags follow, unless it opens a block that they may close. -/
theorem append
    (closed : problem.isUnclosedBlock = false)
    (right : List Tag) : source.IsStray tag (tags ++ right) problem := by
  cases stray with
  | otherwise kind => exact .otherwise kind
  | closing kind => exact .closing kind
  | unknown kind unknown => exact .unknown kind unknown
  | unclosed kind unclosed => exact absurd closed Bool.noConfusion

end IsStray

section Equations

theorem outline_nil : source.outline [] = {} := by rw [outline]

theorem outline_expression
    {words : List Text}
    (kind : tag.kind = .expression words) :
    source.outline (tag :: tags) =
      (source.outline tags).withToken
        (source.token (.ofWords source.isHelper words) tag.span) := by
  rw [outline, kind]

theorem outline_stray
    {problem : Problem}
    (stray : source.IsStray tag tags problem) :
    source.outline (tag :: tags) = (source.outline tags).withProblem problem := by
  cases stray with
  | otherwise kind => rw [outline, kind]
  | closing kind => rw [outline, kind]
  | unknown kind unknown =>
    rw [outline, kind]
    simp only [unknown]
  | unclosed kind unclosed =>
    rw [outline, kind]
    simp only [Block.ofName?_name, unclosed]

variable
  {block : Block}
  {closing : Block.Closing}
  (takes : block.Takes inside closing after)

include takes

theorem outline_targetless
    (kind : tag.kind = .opening block.name []) :
    source.outline (tag :: (inside ++ closing.close.tag :: after)) =
      (source.outline after).withProblem
        (.missingBlockTarget block.name (source.base + tag.span.start)) := by
  rw [outline, kind]
  simp only [Block.ofName?_name, takes.closing?_eq, takes.drop_eq]

theorem outline_block
    {path : Text}
    {others : List Text}
    (kind : tag.kind = .opening block.name (path :: others)) :
    source.outline (tag :: (inside ++ closing.close.tag :: after)) =
      (source.outline after).withToken
        (source.blockToken block path others tag.span closing) := by
  rw [outline, kind]
  simp only [Block.ofName?_name, takes.closing?_eq, takes.drop_eq]

end Equations

/-- A tag is an expression, or it is reported alone, or it opens a block that takes some of the tags
behind it. -/
theorem isExpression_or_isStray_or_takes (source : Source) (tag : Tag) (tags : List Tag) :
    (∃ words, tag.kind = .expression words) ∨
      (∃ problem, source.IsStray tag tags problem) ∨
      ∃ block arguments inside closing after, tag.kind = .opening (Block.name block) arguments ∧
        tags = inside ++ closing.close.tag :: after ∧ block.Takes inside closing after := by
  cases kind : tag.kind with
  | expression words => exact .inl ⟨words, rfl⟩
  | otherwise => exact .inr (.inl ⟨_, .otherwise kind⟩)
  | closing name => exact .inr (.inl ⟨_, .closing kind⟩)
  | opening name arguments =>
    cases known : Block.ofName? name with
    | none => exact .inr (.inl ⟨_, .unknown kind known⟩)
    | some block =>
      obtain rfl := Block.name_eq_of_ofName? known
      cases closed : block.closing? tags with
      | none => exact .inr (.inl ⟨_, .unclosed kind closed⟩)
      | some closing =>
        obtain ⟨inside, after, split, takes⟩ := Block.exists_takes closed
        exact .inr (.inr ⟨block, arguments, inside, closing, after, rfl, split, takes⟩)

/-- Induction along the tags as they are read.  A tag that is an expression or is reported alone is
read by itself, and a block, without a target or with one, together with the tags that it takes. -/
@[elab_as_elim]
theorem outline_induction
    {motive : List Tag → Outline → Prop}
    (done : motive [] {})
    (expression : ∀ {tag tags outline words}, tag.kind = .expression words →
      motive tags outline →
        motive (tag :: tags)
          (outline.withToken (source.token (.ofWords source.isHelper words) tag.span)))
    (stray : ∀ {tag tags outline problem}, source.IsStray tag tags problem →
      motive tags outline → motive (tag :: tags) (outline.withProblem problem))
    (targetless : ∀ {tag inside after outline} {block : Block} {closing : Block.Closing},
      tag.kind = .opening block.name [] → block.Takes inside closing after →
        motive after outline →
          motive (tag :: (inside ++ closing.close.tag :: after))
            (outline.withProblem (.missingBlockTarget block.name (source.base + tag.span.start))))
    (block : ∀ {tag inside after outline path others} {block : Block} {closing : Block.Closing},
      tag.kind = .opening block.name (path :: others) → block.Takes inside closing after →
        motive after outline →
          motive (tag :: (inside ++ closing.close.tag :: after))
            (outline.withToken (source.blockToken block path others tag.span closing)))
    (tags : List Tag) : motive tags (source.outline tags) := by
  induction count : tags.length using Nat.strongRecOn generalizing tags with
  | ind count shorter =>
    subst count
    cases tags with
    | nil =>
      rw [outline_nil]
      exact done
    | cons tag tags =>
      have rest := shorter tags.length (Nat.lt_succ_self _) tags rfl
      rcases source.isExpression_or_isStray_or_takes tag tags with
        ⟨words, kind⟩ | ⟨problem, isStray⟩ |
        ⟨opened, arguments, inside, closing, after, kind, rfl, takes⟩
      · rw [outline_expression kind]
        exact expression kind rest
      · rw [outline_stray isStray]
        exact stray isStray rest
      · have fewer : after.length < (tag :: (inside ++ closing.close.tag :: after)).length := by
          simp only [List.length_cons, List.length_append]
          omega
        have behind := shorter after.length fewer after rfl
        cases arguments with
        | nil =>
          rw [outline_targetless takes kind]
          exact targetless kind takes behind
        | cons path others =>
          rw [outline_block takes kind]
          exact block kind takes behind

/-- Tags that leave no block open are read in the same way when more tags follow. -/
theorem outline_append
    {left : List Tag}
    (closed : ∀ problem ∈ (source.outline left).problems, problem.isUnclosedBlock = false)
    (right : List Tag) :
    source.outline (left ++ right) = source.outline left ++ source.outline right := by
  induction left using source.outline_induction with
  | done => rfl
  | expression kind inductionHypothesis =>
    rw [List.cons_append, outline_expression kind, inductionHypothesis closed]
    rfl
  | stray stray inductionHypothesis =>
    -- A block that is still open could take the tags behind, but none is.
    obtain ⟨here, later⟩ := List.forall_mem_cons.mp closed
    rw [List.cons_append, outline_stray (stray.append here right), inductionHypothesis later]
    rfl
  | targetless kind takes inductionHypothesis =>
    have later := (List.forall_mem_cons.mp closed).2
    rw [List.cons_append, List.append_assoc, List.cons_append,
      outline_targetless (takes.append right) kind, inductionHypothesis later]
    rfl
  | block kind takes inductionHypothesis =>
    rw [List.cons_append, List.append_assoc, List.cons_append,
      outline_block (takes.append right) kind, inductionHypothesis closed]
    rfl

end Source
end Stencil
