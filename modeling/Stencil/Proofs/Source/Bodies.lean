import Stencil.Proofs.Source.Outline

/-!
# Bodies read alone

The body of a block is read as a text of its own, long after the text around it.  It has the tags
that the whole text has there, and its blocks end where they end in the whole text.
-/

namespace Stencil

/-- Whether a tag lies between two positions. -/
def Tag.liesIn (start stop : Nat) (tag : Tag) : Bool :=
  decide (start ≤ tag.span.start) && decide (tag.span.stop ≤ stop)

/-- An expression has no bodies. -/
theorem Token.bodies_ofWords
    (isHelper : Text → Bool)
    (words : List Text)
    (raw : Text)
    (span : Span) : (Token.mk (.ofWords isHelper words) raw span).bodies = [] := by
  rcases words with _ | ⟨word, _ | ⟨next, others⟩⟩
  · rfl
  · simp only [Form.ofWords]
    split <;> rfl
  · rfl

/-- The bodies of a block are its first body and that of its alternative. -/
theorem Token.mem_bodies_ofBlock
    {block : Block}
    {path raw : Text}
    {arguments : List Text}
    {first body : Body}
    {second? : Option Body}
    {span : Span}
    (member : body ∈ (Token.mk (.ofBlock block path arguments first second?) raw span).bodies) :
    body = first ∨ body ∈ second?.toList := by
  cases block with
  | forEach => exact .inl (List.mem_singleton.mp member)
  | _ => exact List.mem_cons.mp member

/-- Whether a token is a block that starts with one tag and ends with another one. -/
structure Token.IsBlock (token : Token) (opening close : Tag) : Prop where
  span_eq : token.span = ⟨opening.span.start, close.span.stop⟩
  exists_kinds : ∃ (block : Block) (path : Text) (others : List Text),
    opening.kind = .opening block.name (path :: others) ∧ close.kind = .closing block.name

namespace Source

/-- A body as a text to be read, at its place in the whole template. -/
def inside (source : Source) (body : Body) : Source :=
  { source with text := body.text, base := body.offset }

/-- Where opening delimiters stand that are left as text, positions being those in the text. -/
def loose (source : Source) : List Nat := source.sightings.filterMap Sighting.loose?

variable {source : Source}

theorem usable_of_mem_tags
    {tag : Tag}
    (member : tag ∈ source.tags) :
    source.delimiters.opening ≠ [] ∧ source.delimiters.closing ≠ [] := by
  unfold tags sightings Sighting.scan at member
  split at member
  · assumption
  · exact absurd member List.not_mem_nil

theorem sightings_eq_nil
    (unusable : ¬ (source.delimiters.opening ≠ [] ∧ source.delimiters.closing ≠ [])) :
    source.sightings = [] := by
  rw [sightings, Sighting.scan, dif_neg unusable]

theorem tags_eq_nil
    (unusable : ¬ (source.delimiters.opening ≠ [] ∧ source.delimiters.closing ≠ [])) :
    source.tags = [] := by
  rw [tags, sightings_eq_nil unusable]
  rfl

theorem scans_sightings
    (usable : source.delimiters.opening ≠ [] ∧ source.delimiters.closing ≠ []) :
    Sighting.Scans source.delimiters 0 source.text source.sightings := by
  rw [sightings, Sighting.scan, dif_pos usable]
  exact Sighting.scans_scanFrom usable.1 0 source.text

/-- The tags of a text are not empty and lie one after the other. -/
theorem tags_ordered (source : Source) :
    (∀ tag ∈ source.tags, tag.span.start < tag.span.stop) ∧
      source.tags.Pairwise fun left right => left.span.stop ≤ right.span.start := by
  by_cases usable : source.delimiters.opening ≠ [] ∧ source.delimiters.closing ≠ []
  · exact (scans_sightings usable).ordered usable.1
  · rw [tags_eq_nil usable]
    exact ⟨fun _ member => absurd member List.not_mem_nil, .nil⟩

/-- The text between two tags has, read alone, the tags between them, and leaves no other delimiters
as text than the whole. -/
theorem reading_between
    {early middle late : List Tag}
    {left right : Tag}
    (split : source.tags = early ++ left :: (middle ++ right :: late)) :
    let body := source.body left.span.stop right.span.start
    (∃ front back, source.text = front ++ body.text ++ back ∧
        Text.size front = left.span.stop ∧
        left.span.stop + Text.size body.text = right.span.start) ∧
      (source.inside body).tags.map (Tag.shift left.span.stop) = middle ∧
      (source.inside body).loose.map (· + left.span.stop) ⊆ source.loose := by
  intro body
  have member : left ∈ source.tags := by
    rw [split]
    exact List.mem_append_right early List.mem_cons_self
  have usable := usable_of_mem_tags member
  obtain ⟨before, rest, sightingsSplit, -, tagsRest⟩ := Sighting.exists_split_of_tags split
  obtain ⟨between, after, rfl, tagsBetween, -⟩ := Sighting.exists_split_of_tags tagsRest
  have scans := scans_sightings usable
  rw [sightingsSplit] at scans
  obtain ⟨front, text, back, sightings, textSplit, start, stop, scansBody, tagsBody, looseBody⟩ :=
    scans.between_tags usable.1
  rw [Nat.zero_add] at start
  have bodyText : body.text = text := by
    rw [show body.text = Text.slice source.text left.span.stop right.span.start from rfl, textSplit,
      ← stop, ← start, Text.slice_append]
  -- The moved scan of the body and the scan of the whole follow the rules for the same text.
  have same : (source.inside body).sightings.map (Sighting.shift left.span.stop) = sightings := by
    have moved := (@scans_sightings (source.inside body) usable).shift left.span.stop
    rw [Nat.zero_add] at moved
    have scanned := moved.eq_scanFrom usable.1
    rwa [show (source.inside body).text = text from bodyText, ← scansBody.eq_scanFrom usable.1]
      at scanned
  refine ⟨⟨front, back, by rw [bodyText, textSplit], start, by rw [bodyText, stop]⟩, ?_, ?_⟩
  · calc
      (source.inside body).tags.map (Tag.shift left.span.stop) =
          sightings.filterMap Sighting.tag? := by
        rw [tags, ← Sighting.tags_map_shift, same]
      _ = middle := tagsBody.trans tagsBetween
  · rw [loose, ← Sighting.loose_map_shift, same, loose, sightingsSplit, List.filterMap_append,
      List.filterMap_cons_none rfl, List.filterMap_append]
    exact List.Subset.trans looseBody
      (List.Subset.trans (List.subset_append_left _ _) (List.subset_append_right _ _))

/-- The text between two tags has, read alone, the tags between them. -/
theorem tags_between
    {early middle late : List Tag}
    {left right : Tag}
    (split : source.tags = early ++ left :: (middle ++ right :: late)) :
    left.span.stop + Text.size (source.body left.span.stop right.span.start).text =
        right.span.start ∧
      (source.inside (source.body left.span.stop right.span.start)).tags.map
        (Tag.shift left.span.stop) = middle := by
  obtain ⟨⟨front, back, -, -, size⟩, tags, -⟩ := reading_between split
  exact ⟨size, tags⟩

/-- A body reaches from one tag of the list to a later one. -/
def IsBetween (source : Source) (tags : List Tag) (body : Body) : Prop :=
  ∃ early left middle right late, tags = early ++ left :: (middle ++ right :: late) ∧
    body = source.body left.span.stop right.span.start

theorem IsBetween.append
    {tags : List Tag}
    {body : Body}
    (between : source.IsBetween tags body)
    (before : List Tag) : source.IsBetween (before ++ tags) body := by
  obtain ⟨early, left, middle, right, late, rfl, same⟩ := between
  exact ⟨before ++ early, left, middle, right, late, (List.append_assoc _ _ _).symm, same⟩

theorem IsBetween.extend
    {tags : List Tag}
    {body : Body}
    (between : source.IsBetween tags body)
    (after : List Tag) : source.IsBetween (tags ++ after) body := by
  obtain ⟨early, left, middle, right, late, rfl, same⟩ := between
  refine ⟨early, left, middle, right, late ++ after, ?_, same⟩
  simp only [List.append_assoc, List.cons_append]

/-- The bodies of a block reach from its opening tag to its alternative and on to its end. -/
theorem isBetween_of_mem_blockToken
    {block : Block}
    {path : Text}
    {arguments : List Text}
    {tag : Tag}
    {tags : List Tag}
    {closing : Block.Closing}
    {body : Body}
    (closed : block.closing? tags = some closing)
    (member : body ∈ (source.blockToken block path arguments tag.span closing).bodies) :
    ∃ inside late, tags = inside ++ closing.close.tag :: late ∧
      source.IsBetween (tag :: (inside ++ [closing.close.tag])) body := by
  obtain ⟨inside, late, rfl, -, alternative⟩ := block.exists_split_of_closingFrom closed
  refine ⟨inside, late, rfl, ?_⟩
  rw [blockToken_eq] at member
  rcases alternative with none | ⟨early, alternative, others, rfl, some⟩
  · rw [none] at member
    rcases Token.mem_bodies_ofBlock member with rfl | absent
    · exact ⟨[], tag, inside, closing.close.tag, [], rfl, rfl⟩
    · exact absurd absent List.not_mem_nil
  · rw [some] at member
    rcases Token.mem_bodies_ofBlock member with rfl | second
    · refine ⟨[], tag, early, alternative.tag, others ++ [closing.close.tag], ?_, rfl⟩
      simp only [List.nil_append, List.append_assoc, List.cons_append]
    · obtain rfl := List.mem_singleton.mp second
      refine ⟨tag :: early, alternative.tag, others, closing.close.tag, [], ?_, rfl⟩
      simp only [List.append_assoc, List.cons_append]

/-- Whether a token is a block that runs from one tag of the list to a later one, with a body that
reaches from one of the tags of the block to a later one. -/
def IsBodyOf (source : Source) (tags : List Tag) (token : Token) (body : Body) : Prop :=
  ∃ early opening inside close late, tags = early ++ (opening :: (inside ++ [close]) ++ late) ∧
    token.IsBlock opening close ∧ source.IsBetween (opening :: (inside ++ [close])) body

namespace IsBodyOf

variable
  {tags : List Tag}
  {token : Token}
  {body : Body}
  (isBodyOf : source.IsBodyOf tags token body)

include isBodyOf

theorem append (before : List Tag) : source.IsBodyOf (before ++ tags) token body := by
  obtain ⟨early, opening, inside, close, late, rfl, isBlock, between⟩ := isBodyOf
  exact ⟨before ++ early, opening, inside, close, late, (List.append_assoc _ _ _).symm, isBlock,
    between⟩

theorem behind (first : Tag) (before : List Tag) (last : Tag) :
    source.IsBodyOf (first :: (before ++ last :: tags)) token body := by
  have moved := isBodyOf.append (first :: (before ++ [last]))
  simpa only [List.cons_append, List.append_assoc, List.nil_append] using moved

theorem isBetween : source.IsBetween tags body := by
  obtain ⟨early, opening, inside, close, late, rfl, -, between⟩ := isBodyOf
  exact (between.extend late).append early

end IsBodyOf

/-- Every body of the tokens of a list of tags is a body of a block. -/
theorem isBodyOf_of_mem_outline
    {tags : List Tag}
    {token : Token}
    {body : Body}
    (found : token ∈ (source.outline tags).tokens)
    (member : body ∈ token.bodies) : source.IsBodyOf tags token body := by
  induction tags using source.outline_induction with
  | done => exact absurd found List.not_mem_nil
  | @expression tag tags outline words kind inductionHypothesis =>
    rcases List.mem_cons.mp found with rfl | later
    · rw [Source.token, Token.bodies_ofWords] at member
      exact absurd member List.not_mem_nil
    · exact (inductionHypothesis later).append [tag]
  | @stray tag tags outline problem stray inductionHypothesis =>
    exact (inductionHypothesis found).append [tag]
  | @targetless tag inside after outline block closing kind takes inductionHypothesis =>
    exact (inductionHypothesis found).behind tag inside closing.close.tag
  | @block tag inside after outline path others block closing kind takes inductionHypothesis =>
    rcases List.mem_cons.mp found with rfl | later
    · obtain ⟨early, late, split, between⟩ :=
        isBetween_of_mem_blockToken takes.closing?_eq member
      refine ⟨[], tag, early, closing.close.tag, late, ?_, ?_, between⟩
      · rw [split, List.nil_append, List.cons_append, List.append_assoc, List.singleton_append]
      · exact ⟨rfl, block, path, others, kind, block.kind_of_closingFrom takes.closing?_eq⟩
    · exact (inductionHypothesis later).behind tag inside closing.close.tag

/-- Every body of the tokens of a list of tags reaches from one of the tags to a later one. -/
theorem isBetween_of_mem_outline
    {tags : List Tag}
    {token : Token}
    {body : Body}
    (found : token ∈ (source.outline tags).tokens)
    (member : body ∈ token.bodies) : source.IsBetween tags body :=
  (isBodyOf_of_mem_outline found member).isBetween

/-- Two tags divide the tags of a text into those that start before the end of the first one, those
between the two, and those that end behind the start of the second one. -/
theorem tags_apart
    {early middle late : List Tag}
    {left right : Tag}
    (split : source.tags = early ++ left :: (middle ++ right :: late)) :
    (∀ tag ∈ early ++ [left], tag.span.start < left.span.stop) ∧
      (∀ tag ∈ middle, left.span.stop ≤ tag.span.start ∧ tag.span.stop ≤ right.span.start) ∧
      ∀ tag ∈ right :: late, right.span.start < tag.span.stop := by
  obtain ⟨wide, ordered⟩ := source.tags_ordered
  rw [split] at wide ordered
  simp only [List.mem_append, List.mem_cons] at wide
  simp only [List.pairwise_append, List.pairwise_cons, List.mem_append, List.mem_cons] at ordered
  obtain ⟨-, ⟨afterLeft, -, ⟨afterRight, -⟩, beforeRight⟩, beforeLeft⟩ := ordered
  have leftWide := wide left (.inr (.inl rfl))
  have rightWide := wide right (.inr (.inr (.inr (.inl rfl))))
  refine ⟨?_, ?_, ?_⟩
  · intro tag member
    rcases List.mem_append.mp member with first | last
    · have := wide tag (.inl first)
      have := beforeLeft tag first left (.inl rfl)
      omega
    · rwa [List.mem_singleton.mp last]
  · intro tag member
    exact ⟨afterLeft tag (.inl member), beforeRight tag member right (.inl rfl)⟩
  · intro tag member
    rcases List.mem_cons.mp member with rfl | last
    · exact rightWide
    · have := wide tag (.inr (.inr (.inr (.inr last))))
      have := afterRight tag last
      omega

/-- Of the tags of a text, those between two of them are the ones that lie between their spans. -/
theorem filter_liesIn
    {early middle late : List Tag}
    {left right : Tag}
    (split : source.tags = early ++ left :: (middle ++ right :: late)) :
    source.tags.filter (Tag.liesIn left.span.stop right.span.start) = middle := by
  obtain ⟨before, between, behind⟩ := tags_apart split
  have regrouped : source.tags = early ++ [left] ++ (middle ++ right :: late) := by
    rw [split, List.append_assoc, List.singleton_append]
  have beforeOut : (early ++ [left]).filter (Tag.liesIn left.span.stop right.span.start) = [] := by
    apply List.filter_eq_nil_iff.mpr
    intro tag member inside
    have := before tag member
    simp only [Tag.liesIn, Bool.and_eq_true, decide_eq_true_eq] at inside
    omega
  have behindOut : (right :: late).filter (Tag.liesIn left.span.stop right.span.start) = [] := by
    apply List.filter_eq_nil_iff.mpr
    intro tag member inside
    have := behind tag member
    simp only [Tag.liesIn, Bool.and_eq_true, decide_eq_true_eq] at inside
    omega
  have betweenIn : middle.filter (Tag.liesIn left.span.stop right.span.start) = middle := by
    apply List.filter_eq_self.mpr
    intro tag member
    simpa only [Tag.liesIn, Bool.and_eq_true, decide_eq_true_eq] using between tag member
  rw [regrouped, List.filter_append (early ++ [left]), beforeOut, List.filter_append, betweenIn,
    behindOut, List.nil_append, List.append_nil]

/-- No tag of a text stands twice in the list of its tags. -/
theorem index_eq_of_getElem?_tags
    {first second : Nat}
    {tag : Tag}
    (here : source.tags[first]? = some tag)
    (there : source.tags[second]? = some tag) : first = second := by
  obtain ⟨wide, ordered⟩ := source.tags_ordered
  obtain ⟨firstBound, isFirst⟩ := List.getElem?_eq_some_iff.mp here
  obtain ⟨secondBound, isSecond⟩ := List.getElem?_eq_some_iff.mp there
  have nonempty := wide tag (List.mem_of_getElem? here)
  rcases Nat.lt_trichotomy first second with before | same | after
  · have apart := List.pairwise_iff_getElem.mp ordered first second firstBound secondBound before
    rw [isFirst, isSecond] at apart
    omega
  · exact same
  · have apart := List.pairwise_iff_getElem.mp ordered second first secondBound firstBound after
    rw [isFirst, isSecond] at apart
    omega

/-- The search for the end of a block among the tags before a position finds the end that it finds
among all tags, provided that this end lies before the position. -/
theorem closing?_eq_filter
    {front back : List Tag}
    {stop : Nat}
    (early : ∀ tag ∈ front, tag.span.stop ≤ stop)
    (late : ∀ tag ∈ back, stop < tag.span.stop)
    (block : Block) :
    block.closing? front =
      (block.closing? (front ++ back)).filter fun closing =>
        closing.close.tag.span.stop ≤ stop := by
  unfold Block.closing?
  cases found : block.closingFrom 0 [] none front with
  | some closing =>
    rw [block.closingFrom_append_of_some found back]
    obtain ⟨before, after, rfl, -⟩ := block.exists_split_of_closingFrom found
    have kept := early closing.close.tag (List.mem_append_right before List.mem_cons_self)
    rw [Option.filter_some, if_pos (decide_eq_true kept)]
  | none =>
    cases foundAll : block.closingFrom 0 [] none (front ++ back) with
    | none => rfl
    | some closing =>
      have beyond := late closing.close.tag (block.closingFrom_append_of_none found foundAll)
      rw [Option.filter_some, if_neg]
      simp only [decide_eq_true_eq]
      omega

/-- Reading a body alone agrees with reading the text around it.  The body has the tags of the whole
text between its two ends, moved to its start.  A search for the end of a block from one of these
tags finds, in the body alone, what it finds in the whole text if that lies in the body, and nothing
otherwise. -/
theorem tags_inside_body
    {token : Token}
    {body : Body}
    (found : token ∈ source.parse.tokens)
    (member : body ∈ token.bodies) :
    let start := body.offset - source.base
    let stop := start + Text.size body.text
    (source.inside body).tags.map (Tag.shift start) = source.tags.filter (Tag.liesIn start stop) ∧
      ∀ (inner outer : Nat) (tag : Tag) (block : Block),
        (source.inside body).tags[inner]? = some tag →
        source.tags[outer]? = some (tag.shift start) →
          (block.closing? ((source.inside body).tags.drop (inner + 1))).map
              (Block.Closing.shift start) =
            (block.closing? (source.tags.drop (outer + 1))).filter fun closing =>
              closing.close.tag.span.stop ≤ stop := by
  obtain ⟨early, left, middle, right, late, split, rfl⟩ := isBetween_of_mem_outline found member
  change source.tags = _ at split
  obtain ⟨size, tagsBody⟩ := tags_between split
  have start : (source.body left.span.stop right.span.start).offset - source.base =
      left.span.stop := Nat.add_sub_cancel_left _ _
  dsimp only
  rw [start, size, filter_liesIn split]
  refine ⟨tagsBody, ?_⟩
  intro inner outer tag block here there
  have innerBound : inner < middle.length := by
    rw [← tagsBody, List.length_map]
    exact (List.getElem?_eq_some_iff.mp here).1
  have regrouped : source.tags = early ++ [left] ++ (middle ++ right :: late) := by
    rw [split, List.append_assoc, List.singleton_append]
  have place : outer = (early ++ [left]).length + inner := by
    apply index_eq_of_getElem?_tags there
    rw [regrouped, List.getElem?_append_right (Nat.le_add_right _ _), Nat.add_sub_cancel_left,
      List.getElem?_append_left innerBound, ← tagsBody, List.getElem?_map, here]
    rfl
  have ahead : source.tags.drop (outer + 1) =
      middle.drop (inner + 1) ++ right :: late := by
    rw [regrouped, place, Nat.add_assoc, List.drop_length_add_append,
      List.drop_append_of_le_length (Nat.succ_le_of_lt innerBound)]
  obtain ⟨-, between, behind⟩ := tags_apart split
  have moved := block.closingFrom_map_shift 0 [] none left.span.stop
    ((source.inside (source.body left.span.stop right.span.start)).tags.drop (inner + 1))
  rw [List.map_drop, tagsBody] at moved
  rw [ahead]
  refine moved.symm.trans (closing?_eq_filter ?_ behind block)
  intro other member
  exact (between other (List.mem_of_mem_drop member)).2

/-- A block whose body ends in an opening delimiter that the next tag opens again. -/
def cutShort : Source :=
  { text := "<#if a>>x<b>>< y<else>>z</if>>".toList
    base := 5
    delimiters := ⟨"<".toList, ">>".toList⟩
    isHelper := fun _ => false }

/-- Read alone, the body has a delimiter that never closes, and still the same tags. -/
theorem tags_inside_body_cutShort :
    (∃ token ∈ cutShort.parse.tokens, ⟨"x<b>>< y".toList, 13⟩ ∈ token.bodies) ∧
      (cutShort.inside ⟨"x<b>>< y".toList, 13⟩).tags.map (Tag.shift (13 - 5)) =
        cutShort.tags.filter (Tag.liesIn 8 16) := by
  have found : ∃ token ∈ cutShort.parse.tokens, ⟨"x<b>>< y".toList, 13⟩ ∈ token.bodies := by
    decide +kernel
  refine ⟨found, ?_⟩
  obtain ⟨token, read, member⟩ := found
  exact (tags_inside_body read member).1

end Source
end Stencil
