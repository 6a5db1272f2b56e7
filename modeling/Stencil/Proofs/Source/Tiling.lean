import Stencil.Proofs.Block.Passage
import Stencil.Proofs.Source.Portion
import Stencil.Proofs.Tag.Account
import Stencil.Proofs.Text.Fitting

/-!
# What tokens are made of

A token of a text is made of tags of the text and of the bodies between them.  An expression is one
tag.  A block is its opening tag, its body, and its closing tag, or it has the tag of an alternative
in between with a body on each side.  Nothing of the token lies outside of these parts.
-/

namespace Stencil

open Text (OccursAt)

/-- Whether spans lie one after the other without gaps from a position to another one. -/
def Span.Tile (start : Nat) : List Span → Nat → Prop
  | [], stop => start = stop
  | span :: spans, stop => span.start = start ∧ span.start ≤ span.stop ∧ Tile span.stop spans stop

/-- Where a body stands in a text that stands at `base` in the whole template. -/
def Body.span (base : Nat) (body : Body) : Span :=
  ⟨body.offset - base, body.offset - base + Text.size body.text⟩

namespace Text

theorem eq_nil_of_size_eq_zero {text : Text} (empty : size text = 0) : text = [] := by
  cases text with
  | nil => rfl
  | cons character rest =>
    have := character.utf8Size_pos
    rw [size_cons] at empty
    omega

namespace OccursAt

variable {pattern front part back : Text} {position : Nat}

/-- What occurs where a part of a text starts, and is not longer, is the beginning of the part. -/
theorem isPrefix
    (occurs : OccursAt pattern (front ++ part ++ back) (size front))
    (short : size pattern ≤ size part) : pattern <+: part := by
  rw [List.append_assoc] at occurs
  obtain ⟨inset, ⟨before, after, split, place⟩, same⟩ := occurs.of_append (Nat.le_refl _)
  obtain rfl := eq_nil_of_size_eq_zero (place.trans (by omega))
  obtain ⟨late, rfl, -⟩ := exists_append_of_size_le split.symm short
  exact List.prefix_append pattern late

/-- What occurs inside a part of a text and ends where the part ends is the end of the part. -/
theorem isSuffix
    (occurs : OccursAt pattern (front ++ part ++ back) position)
    (behind : size front ≤ position)
    (stop : position + size pattern = size front + size part) : pattern <:+ part := by
  rw [List.append_assoc] at occurs
  obtain ⟨inset, ⟨before, after, split, rfl⟩, rfl⟩ := occurs.of_append behind
  have whole : size (before ++ pattern) = size part := by
    rw [size_append]
    omega
  obtain ⟨late, rfl, -⟩ := exists_append_of_size_le split.symm (Nat.le_of_eq whole)
  rw [size_append (before ++ pattern)] at whole
  obtain rfl := @eq_nil_of_size_eq_zero late (by omega)
  rw [List.append_nil]
  exact List.suffix_append before pattern

end OccursAt
end Text

namespace Source

/-- Whether a token is made of tags of a text and of the bodies between them. -/
inductive Composes (source : Source) (token : Token) : Prop where
  /-- An expression is one tag. -/
  | expression
    {tag : Tag}
    {words : List Text}
    (part : tag ∈ source.tags)
    (kind : tag.kind = .expression words)
    (bodies : token.bodies = [])
    (tile : Span.Tile token.span.start [tag.span] token.span.stop)
  /-- A block without an alternative is its body between two tags. -/
  | plain
    {block : Block}
    {words : List Text}
    {opening close : Tag}
    {body : Body}
    (parts : [opening, close].Sublist source.tags)
    (openingKind : opening.kind = .opening block.name words)
    (closeKind : close.kind = .closing block.name)
    (bodies : token.bodies = [body])
    (tile : Span.Tile token.span.start [opening.span, body.span source.base, close.span]
      token.span.stop)
  /-- A block with an alternative is its two bodies between three tags. -/
  | divided
    {block : Block}
    {words : List Text}
    {opening otherwise close : Tag}
    {first second : Body}
    (parts : [opening, otherwise, close].Sublist source.tags)
    (openingKind : opening.kind = .opening block.name words)
    (otherwiseKind : otherwise.kind = .otherwise)
    (closeKind : close.kind = .closing block.name)
    (bodies : token.bodies = [first, second])
    (tile : Span.Tile token.span.start
      [opening.span, first.span source.base, otherwise.span, second.span source.base, close.span]
      token.span.stop)

/-- Whether a body of a token stands in a text where its offset says, strictly inside the token. -/
structure Encloses (source : Source) (token : Token) (body : Body) : Prop where
  base_le : source.base ≤ body.offset
  occurs : OccursAt body.text source.text (body.offset - source.base)
  start_lt : token.span.start < (body.span source.base).start
  lt_stop : (body.span source.base).stop < token.span.stop

/-- Whether a token is the part of a text that its span says, from an opening delimiter to a closing
one, and is made of tags and of its bodies. -/
structure Represents (source : Source) (token : Token) : Prop where
  wide : token.span.start < token.span.stop
  occurs : OccursAt token.raw source.text token.span.start
  size_raw : token.span.start + Text.size token.raw = token.span.stop
  opened : source.delimiters.opening <+: token.raw
  closed : source.delimiters.closing <:+ token.raw
  encloses : ∀ body ∈ token.bodies, source.Encloses token body
  composes : source.Composes token

variable {source : Source}

theorem inOrder_of_tags_eq
    {early tags : List Tag}
    (split : source.tags = early ++ tags) : Tag.InOrder tags := by
  have all : Tag.InOrder source.tags := source.tags_ordered
  rw [split] at all
  exact all.of_append

/-- A tag of a text is its content between the delimiters. -/
theorem exists_encloses
    {tag : Tag}
    (member : tag ∈ source.tags) :
    ∃ content, source.delimiters.Encloses source.text content tag.span := by
  have usable := usable_of_mem_tags member
  obtain ⟨content, encloses, -⟩ :=
    ((scans_sightings usable).account usable.1).enclosed tag member
  exact ⟨content, encloses⟩

/-- The body between two tags fills what is between their spans. -/
theorem span_body
    {early middle late : List Tag}
    {left right : Tag}
    (split : source.tags = early ++ left :: (middle ++ right :: late)) :
    (source.body left.span.stop right.span.start).span source.base =
        ⟨left.span.stop, right.span.start⟩ ∧
      OccursAt (source.body left.span.stop right.span.start).text source.text
        left.span.stop := by
  obtain ⟨⟨front, back, whole, place, size⟩, -⟩ := reading_between split
  have inset : source.base + left.span.stop - source.base = left.span.stop :=
    Nat.add_sub_cancel_left _ _
  refine ⟨?_, front, back, whole, place⟩
  have start : (source.body left.span.stop right.span.start).offset - source.base =
      left.span.stop := inset
  rw [Body.span, start, size]

theorem encloses_body
    {token : Token}
    {early middle late : List Tag}
    {left right : Tag}
    (split : source.tags = early ++ left :: (middle ++ right :: late))
    (behind : token.span.start < left.span.stop)
    (before : right.span.start < token.span.stop) :
    source.Encloses token (source.body left.span.stop right.span.start) := by
  obtain ⟨span, occurs⟩ := span_body split
  have inset : source.base + left.span.stop - source.base = left.span.stop :=
    Nat.add_sub_cancel_left _ _
  refine ⟨Nat.le_add_right _ _, ?_, ?_, ?_⟩
  · rw [body, inset]
    exact occurs
  · rw [span]
    exact behind
  · rw [span]
    exact before

/-- A tag and the body behind it fill what is before the tag where the body ends. -/
theorem tile_body
    {early middle late : List Tag}
    {left right : Tag}
    (split : source.tags = early ++ left :: (middle ++ right :: late))
    {spans : List Span}
    {stop : Nat}
    (rest : Span.Tile right.span.start spans stop) :
    Span.Tile left.span.start
      (left.span :: (source.body left.span.stop right.span.start).span source.base :: spans)
      stop := by
  have inOrder := inOrder_of_tags_eq split
  have wide := inOrder.1 left List.mem_cons_self
  rw [Span.Tile, Span.Tile, (span_body split).1]
  exact ⟨rfl, Nat.le_of_lt wide, rfl, inOrder.stop_le_start, rest⟩

section Blocks

variable
  {token : Token}
  {block : Block}
  {words : List Text}
  {early late : List Tag}
  {opening close : Tag}
  (openingKind : opening.kind = .opening block.name words)
  (closeKind : close.kind = .closing block.name)
  (span : token.span = ⟨opening.span.start, close.span.stop⟩)

include openingKind closeKind span

theorem composes_plain
    {inside : List Tag}
    (split : source.tags = early ++ opening :: (inside ++ close :: late))
    (bodies : token.bodies = [source.body opening.span.stop close.span.start]) :
    source.Composes token ∧ ∀ body ∈ token.bodies, source.Encloses token body := by
  have inOrder := inOrder_of_tags_eq split
  have openingWide := inOrder.1 opening List.mem_cons_self
  have closeWide := inOrder.tail.of_append.1 close List.mem_cons_self
  constructor
  · refine .plain ?_ openingKind closeKind bodies ?_
    · rw [split]
      refine .trans (.cons_cons opening ?_) (List.sublist_append_right early _)
      exact List.singleton_sublist.mpr (List.mem_append_right inside List.mem_cons_self)
    · rw [span]
      exact tile_body split ⟨rfl, Nat.le_of_lt closeWide, rfl⟩
  · rw [bodies]
    refine List.forall_mem_singleton.mpr (encloses_body split ?_ ?_)
    · rwa [span]
    · rwa [span]

theorem composes_divided
    {inside others : List Tag}
    {otherwise : Tag}
    (otherwiseKind : otherwise.kind = .otherwise)
    (split : source.tags =
      early ++ opening :: (inside ++ otherwise :: (others ++ close :: late)))
    (bodies : token.bodies = [source.body opening.span.stop otherwise.span.start,
      source.body otherwise.span.stop close.span.start]) :
    source.Composes token ∧ ∀ body ∈ token.bodies, source.Encloses token body := by
  have inOrder := inOrder_of_tags_eq split
  have splitOthers : source.tags =
      (early ++ opening :: inside) ++ otherwise :: (others ++ close :: late) := by
    rw [split, List.append_assoc, List.cons_append]
  have openingWide := inOrder.1 opening List.mem_cons_self
  have toOtherwise := inOrder.stop_le_start
  have rest := inOrder.tail.of_append
  have otherwiseWide := rest.1 otherwise List.mem_cons_self
  have toClose := rest.stop_le_start
  have closeWide := rest.tail.of_append.1 close List.mem_cons_self
  constructor
  · refine .divided ?_ openingKind otherwiseKind closeKind bodies ?_
    · rw [split]
      refine .trans (.cons_cons opening (.trans (.cons_cons otherwise ?_)
        (List.sublist_append_right inside _))) (List.sublist_append_right early _)
      exact List.singleton_sublist.mpr (List.mem_append_right others List.mem_cons_self)
    · rw [span]
      exact tile_body split (tile_body splitOthers ⟨rfl, Nat.le_of_lt closeWide, rfl⟩)
  · rw [bodies]
    refine List.forall_mem_cons.mpr ⟨encloses_body split ?_ ?_,
      List.forall_mem_singleton.mpr (encloses_body splitOthers ?_ ?_)⟩
    all_goals
      rw [span]
      dsimp only
      omega

end Blocks

/-- A token of a block is made of the tags of the block and of its bodies. -/
theorem composes_blockToken
    {early inside late : List Tag}
    {tag : Tag}
    {block : Block}
    {path : Text}
    {arguments : List Text}
    {closing : Block.Closing}
    (split : source.tags = early ++ tag :: (inside ++ closing.close.tag :: late))
    (kind : tag.kind = .opening block.name (path :: arguments))
    (closed : block.closing? (inside ++ closing.close.tag :: late) = some closing) :
    let token := source.blockToken block path arguments tag.span closing
    source.Composes token ∧ ∀ body ∈ token.bodies, source.Encloses token body := by
  have closeKind := block.kind_of_closingFrom closed
  obtain ⟨before, after, last, cut, -, passes, -⟩ :=
    Block.exists_passes_of_closingFrom_eq_some closed
  have first := passes.isFirstAlternative rfl
  rw [cut] at split
  rw [blockToken_eq]
  cases started : closing.alternative? with
  | none =>
    refine composes_plain kind closeKind rfl split ?_
    cases block <;> rfl
  | some alternative =>
    rw [started] at first
    obtain ⟨inside, others, rfl, -, divides, -⟩ := first
    rw [List.append_assoc, List.cons_append] at split
    refine composes_divided kind closeKind rfl divides.kind_eq split ?_
    cases block with
    | forEach => exact absurd divides.allowed Bool.false_ne_true
    | _ => rfl

/-- A token reaches from the opening delimiter of its first tag to the closing delimiter of its last
one. -/
theorem delimited_of_span
    {token : Token}
    (occurs : OccursAt token.raw source.text token.span.start)
    (size : token.span.start + Text.size token.raw = token.span.stop)
    {first last : Tag}
    (firstMember : first ∈ source.tags)
    (lastMember : last ∈ source.tags)
    (span : token.span = ⟨first.span.start, last.span.stop⟩)
    (inside : first.span.stop ≤ last.span.stop ∧ first.span.start ≤ last.span.start) :
    source.delimiters.opening <+: token.raw ∧ source.delimiters.closing <:+ token.raw := by
  obtain ⟨front, back, split, place⟩ := occurs
  obtain ⟨content, opened⟩ := exists_encloses firstMember
  obtain ⟨other, closed⟩ := exists_encloses lastMember
  have openedSize := congrArg Span.stop opened.span_eq
  have closedSize := congrArg Span.stop closed.span_eq
  have starts := opened.occurs
  have stops := closed.occurs
  simp only [Delimiters.tagSpan] at openedSize closedSize
  rw [span] at place size
  dsimp only at place size
  rw [split] at starts stops
  rw [← place] at starts
  constructor
  · refine List.IsPrefix.trans ?_ (starts.isPrefix ?_)
    · rw [List.append_assoc]
      exact List.prefix_append _ _
    · simp only [Text.size_append]
      omega
  · refine List.IsSuffix.trans ?_ (stops.isSuffix ?_ ?_)
    · exact List.suffix_append _ _
    · omega
    · simp only [Text.size_append]
      omega

/-- A token of a text is the text at its span. -/
theorem occurs_raw
    {token : Token}
    (found : token ∈ source.parse.tokens)
    (raw : token.raw = Text.slice source.text token.span.start token.span.stop) :
    OccursAt token.raw source.text token.span.start ∧
      token.span.start + Text.size token.raw = token.span.stop := by
  have laid := source.hasSpans_tokens
  obtain ⟨early, late, split⟩ := List.append_of_mem (List.mem_map_of_mem found)
  rw [split] at laid
  obtain ⟨before, old, rest, whole, span, -⟩ := laid.exists_split
  simp only [Nat.zero_add] at span
  rw [span] at raw ⊢
  rw [whole, Text.slice_append] at raw
  rw [raw, whole]
  exact ⟨Text.occursAt_append before old rest, rfl⟩

section Portions

variable
  {portion : Portion}
  {token : Token}
  {early late : List Tag}
  (split : source.tags = early ++ (portion.tags ++ late))
  (reads : source.Reads late portion)
  (made : portion.token? = some token)

include split reads made

/-- The token of a portion is made of the tags of the portion and of its bodies. -/
theorem composes_of_reads :
    source.Composes token ∧ ∀ body ∈ token.bodies, source.Encloses token body := by
  cases reads with
  | @expression tag words kind =>
    obtain rfl := Option.some.inj made
    have member : tag ∈ source.tags := by
      rw [split]
      exact List.mem_append_right early List.mem_cons_self
    have wide := source.tags_ordered.1 tag member
    have bodies : (source.token (.ofWords source.isHelper words) tag.span).bodies = [] :=
      Token.bodies_ofWords _ _ _ _
    refine ⟨.expression member kind bodies ⟨rfl, Nat.le_of_lt wide, rfl⟩, ?_⟩
    rw [bodies]
    exact fun _ absent => absurd absent List.not_mem_nil
  | stray about targeted => exact nomatch made
  | targetless kind closed => exact nomatch made
  | block kind closed =>
    obtain rfl := Option.some.inj made
    rw [Portion.tags, List.cons_append, List.append_assoc] at split
    exact composes_blockToken split kind closed

theorem represents_of_reads (found : token ∈ source.parse.tokens) : source.Represents token := by
  have inOrder : Tag.InOrder portion.tags := (inOrder_of_tags_eq split).left
  have member {tag : Tag} (part : tag ∈ portion.tags) : tag ∈ source.tags := by
    rw [split]
    exact List.mem_append_right early (List.mem_append_left late part)
  have span := reads.span_eq made
  have first := portion.bounds inOrder portion.first List.mem_cons_self
  have last := portion.bounds inOrder portion.last portion.last_mem
  obtain ⟨occurs, size⟩ := occurs_raw found (reads.raw_eq made)
  obtain ⟨opened, closed⟩ := delimited_of_span occurs size (member List.mem_cons_self)
    (member portion.last_mem) span ⟨first.2, last.1⟩
  obtain ⟨composes, encloses⟩ := composes_of_reads split reads made
  exact ⟨span ▸ portion.wide inOrder, occurs, size, opened, closed, encloses, composes⟩

end Portions

/-- The tokens of a text lie in it one after the other, between characters.  Each of them is the
text at its span, starts with an opening delimiter and ends with a closing one, and is tiled by tags
of the text and by its bodies, which stand where their offsets say. -/
theorem parse_represents (source : Source) :
    Text.Fits source.text (source.parse.tokens.map Token.span) ∧
      (source.parse.tokens.Pairwise fun left right => left.span.start < right.span.start) ∧
      ∀ token ∈ source.parse.tokens, source.Represents token := by
  have fits := Text.fits_iff_hasSpans.mpr source.hasSpans_tokens
  have represents : ∀ token ∈ source.parse.tokens, source.Represents token := by
    intro token found
    obtain ⟨portions, divides⟩ := source.exists_dividesInto source.tags
    have among : token ∈ portions.filterMap Portion.token? := by
      rw [divides.tokens_eq]
      exact found
    obtain ⟨portion, member, made⟩ := List.mem_filterMap.mp among
    obtain ⟨early, late, rfl⟩ := List.append_of_mem member
    have split := divides.tags_eq
    rw [List.flatMap_append, List.flatMap_cons] at split
    exact represents_of_reads split.symm divides.reads.exists_reads made found
  refine ⟨fits, ?_, represents⟩
  refine (List.pairwise_map.mp fits.apart).imp_of_mem fun left _ apart => ?_
  exact Nat.lt_of_lt_of_le (represents _ left).wide apart

end Source
end Stencil
