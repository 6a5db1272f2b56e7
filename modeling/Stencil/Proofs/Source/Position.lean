import Stencil.Proofs.Source.Layout
import Stencil.Proofs.Tag.Loose

/-!
# Positions in the whole template

A body carries its position in the whole template along.  So a tag that is met while a body is read,
or a delimiter that is left as text there, is found at the same place when the whole template is
read, however deep the body lies.  The parts that a text is read into do not overlap, which keeps
the positions of their problems apart.
-/

namespace Stencil

namespace Text

theorem size_takeBytes_le (count : Nat) (text : Text) : size (takeBytes count text) ≤ count := by
  induction text generalizing count with
  | nil => exact Nat.zero_le count
  | cons character rest inductionHypothesis =>
    unfold takeBytes
    split
    · next fits =>
      have := inductionHypothesis (count - character.utf8Size)
      simp only [size_cons]
      omega
    · exact Nat.zero_le count

end Text

namespace Tag

/-- Whether tags are not empty and lie one after the other. -/
def InOrder (tags : List Tag) : Prop :=
  (∀ tag ∈ tags, tag.span.start < tag.span.stop) ∧
    tags.Pairwise fun left right => left.span.stop ≤ right.span.start

namespace InOrder

variable {tag close : Tag} {tags before after : List Tag}

theorem tail (inOrder : InOrder (tag :: tags)) : InOrder tags :=
  ⟨(List.forall_mem_cons.mp inOrder.1).2, (List.pairwise_cons.mp inOrder.2).2⟩

theorem of_append (inOrder : InOrder (before ++ after)) : InOrder after :=
  ⟨fun tag member => inOrder.1 tag (List.mem_append_right before member),
    (List.pairwise_append.mp inOrder.2).2.1⟩

theorem left (inOrder : InOrder (before ++ after)) : InOrder before :=
  ⟨fun tag member => inOrder.1 tag (List.mem_append_left after member),
    (List.pairwise_append.mp inOrder.2).1⟩

theorem stop_le_start (inOrder : InOrder (tag :: (before ++ close :: after))) :
    tag.span.stop ≤ close.span.start :=
  (List.pairwise_cons.mp inOrder.2).1 close (List.mem_append_right before List.mem_cons_self)

/-- What follows a block lies behind its closing tag, and that behind its opening tag. -/
theorem closed (inOrder : InOrder (tag :: (before ++ close :: after))) :
    tag.span.start < close.span.stop ∧ InOrder after ∧
      ∀ other ∈ after, close.span.stop ≤ other.span.start := by
  have rest : InOrder (close :: after) := inOrder.tail.of_append
  have opening := inOrder.1 tag List.mem_cons_self
  have closing := rest.1 close List.mem_cons_self
  have apart := inOrder.stop_le_start
  exact ⟨by omega, rest.tail, (List.pairwise_cons.mp rest.2).1⟩

end InOrder
end Tag

/-- Whether a position of the whole template lies in a body. -/
def Body.Covers (body : Body) (offset : Nat) : Prop :=
  body.offset ≤ offset ∧ offset < body.offset + Text.size body.text

/-- Whether a position of the whole template lies in a token of a text that stands at `base`. -/
def Token.Covers (base : Nat) (token : Token) (offset : Nat) : Prop :=
  base + token.span.start ≤ offset ∧ offset < base + token.span.stop

/-- Where the delimiters stand that are left as text. -/
def Parsed.loose (parsed : Parsed) : List Nat :=
  parsed.unterminated?.toList ++ parsed.abandoned

/-- Where the tags stand that the problems are about. -/
def Outline.offsets (outline : Outline) : List Nat := outline.problems.filterMap Problem.offset?

/-- Whether the parts of a text that stands at `base` lie behind a position of it, and no two of
them in the same place. -/
structure Outline.IsSpread (base start : Nat) (outline : Outline) : Prop where
  offsets_behind : ∀ offset ∈ outline.offsets, base + start ≤ offset
  offsets_nodup : outline.offsets.Nodup
  tokens_behind : ∀ token ∈ outline.tokens, start ≤ token.span.start
  tokens_apart : outline.tokens.Pairwise fun left right =>
    ∀ offset, left.Covers base offset → ¬ right.Covers base offset
  offsets_uncovered : ∀ offset ∈ outline.offsets, ∀ token ∈ outline.tokens,
    ¬ token.Covers base offset

namespace Outline.IsSpread

variable {base start stop : Nat} {outline : Outline}

theorem empty (base start : Nat) : IsSpread base start {} where
  offsets_behind _ member := absurd member List.not_mem_nil
  offsets_nodup := .nil
  tokens_behind _ member := absurd member List.not_mem_nil
  tokens_apart := .nil
  offsets_uncovered _ member := absurd member List.not_mem_nil

theorem mono (spread : outline.IsSpread base stop) (before : start ≤ stop) :
    outline.IsSpread base start :=
  { spread with
    offsets_behind := fun offset member => by
      have := spread.offsets_behind offset member
      omega
    tokens_behind := fun token member =>
      Nat.le_trans before (spread.tokens_behind token member) }

/-- A problem about a tag in front of all other parts. -/
theorem withProblem
    (spread : outline.IsSpread base stop)
    (wide : start < stop)
    {problem : Problem}
    (place : problem.offset? = some (base + start)) :
    (outline.withProblem problem).IsSpread base start := by
  have offsets : (outline.withProblem problem).offsets = (base + start) :: outline.offsets :=
    List.filterMap_cons_some place
  have rest := spread.mono (Nat.le_of_lt wide)
  refine ⟨?_, ?_, rest.tokens_behind, rest.tokens_apart, ?_⟩
  · rw [offsets]
    exact List.forall_mem_cons.mpr ⟨Nat.le_refl _, rest.offsets_behind⟩
  · rw [offsets]
    refine List.nodup_cons.mpr ⟨fun again => ?_, rest.offsets_nodup⟩
    have := spread.offsets_behind _ again
    omega
  · rw [offsets]
    refine List.forall_mem_cons.mpr ⟨fun token member covers => ?_, rest.offsets_uncovered⟩
    have := spread.tokens_behind token member
    have := covers.1
    omega

/-- A token in front of all other parts. -/
theorem withToken
    (spread : outline.IsSpread base stop)
    {token : Token}
    (wide : token.span.start ≤ stop)
    (ends : token.span.stop = stop) :
    (outline.withToken token).IsSpread base token.span.start := by
  have rest := spread.mono wide
  refine ⟨rest.offsets_behind, rest.offsets_nodup, ?_, ?_, ?_⟩
  · exact List.forall_mem_cons.mpr ⟨Nat.le_refl _, rest.tokens_behind⟩
  · refine List.pairwise_cons.mpr ⟨fun other member offset first second => ?_, rest.tokens_apart⟩
    have := spread.tokens_behind other member
    have := first.2
    have := second.1
    omega
  · intro offset member other found
    rcases List.mem_cons.mp found with rfl | later
    · intro covers
      have := spread.offsets_behind offset member
      have := covers.2
      omega
    · exact rest.offsets_uncovered offset member other later

end Outline.IsSpread

namespace Source

variable {source : Source}

/-- Whether a body is a part of a text, so many bytes behind its start, and has no tags and no
delimiters left as text but those that the text has there. -/
structure Shows (source : Source) (body : Body) (inset : Nat) : Prop where
  offset_eq : body.offset = source.base + inset
  text_eq : ∃ front back, source.text = front ++ body.text ++ back ∧ Text.size front = inset
  tags_subset : (source.inside body).tags.map (Tag.shift inset) ⊆ source.tags
  loose_subset : (source.inside body).loose.map (· + inset) ⊆ source.loose

/-- A body of a token is a part of the text, and it does not start where the text starts. -/
theorem exists_shows_of_mem_bodies
    {token : Token}
    {body : Body}
    (found : token ∈ source.parse.tokens)
    (member : body ∈ token.bodies) : ∃ inset, 0 < inset ∧ source.Shows body inset := by
  obtain ⟨early, left, middle, right, late, split, rfl⟩ := isBetween_of_mem_outline found member
  change source.tags = _ at split
  obtain ⟨⟨front, back, text, place, -⟩, tags, loose⟩ := reading_between split
  have wide := source.tags_ordered.1 left
    (by rw [split]; exact List.mem_append_right early List.mem_cons_self)
  refine ⟨left.span.stop, Nat.lt_of_le_of_lt (Nat.zero_le _) wide, rfl, ?_, ?_, loose⟩
  · exact ⟨front, back, text, place⟩
  · rw [tags, split]
    exact List.Subset.trans (List.subset_append_left middle (right :: late))
      (List.Subset.trans (List.subset_cons_self left _) (List.subset_append_right early _))

/-- A body of a token is shorter than the text. -/
theorem length_lt_of_mem_bodies
    {token : Token}
    {body : Body}
    (found : token ∈ source.parse.tokens)
    (member : body ∈ token.bodies) : body.text.length < source.text.length := by
  obtain ⟨inset, positive, shows⟩ := exists_shows_of_mem_bodies found member
  obtain ⟨front, back, split, place⟩ := shows.text_eq
  have nonempty : front ≠ [] := by
    rintro rfl
    exact Nat.ne_of_lt positive place
  have := List.length_pos_iff.mpr nonempty
  rw [split]
  simp only [List.length_append]
  omega

/-- A body that was cut out between two positions lies between them. -/
theorem lt_of_covers_body
    {start stop : Nat}
    (ordered : start ≤ stop)
    {offset : Nat}
    (covers : (source.body start stop).Covers offset) :
    source.base + start ≤ offset ∧ offset < source.base + stop := by
  have short := Text.size_takeBytes_le (stop - start) (Text.dropBytes start source.text)
  obtain ⟨behind, before⟩ := covers
  simp only [body, Text.slice] at behind before
  omega

/-- The bodies of a block lie in it. -/
theorem covers_blockToken
    {block : Block}
    {path : Text}
    {arguments : List Text}
    {tag : Tag}
    {tags : List Tag}
    {closing : Block.Closing}
    (closed : block.closing? tags = some closing)
    (inOrder : Tag.InOrder (tag :: tags))
    {body : Body}
    (member : body ∈ (source.blockToken block path arguments tag.span closing).bodies)
    {offset : Nat}
    (covers : body.Covers offset) :
    (source.blockToken block path arguments tag.span closing).Covers source.base offset := by
  obtain ⟨before, after, rfl, -, alternative⟩ := block.exists_split_of_closingFrom closed
  have opening := inOrder.1 tag List.mem_cons_self
  have toClose := inOrder.stop_le_start
  have close := inOrder.tail.of_append.1 closing.close.tag List.mem_cons_self
  rw [blockToken_eq] at member ⊢
  -- It is enough that the body was cut out between the two tags that end the block.
  suffices between : ∃ start stop, tag.span.stop ≤ start ∧ start ≤ stop ∧
      stop ≤ closing.close.tag.span.start ∧ body = source.body start stop by
    obtain ⟨start, stop, low, ordered, high, rfl⟩ := between
    have inside := lt_of_covers_body ordered covers
    simp only [Token.Covers, token]
    omega
  rcases alternative with none | ⟨early, alternative, late, rfl, some⟩
  · rw [none] at member
    rcases Token.mem_bodies_ofBlock member with rfl | absent
    · exact ⟨_, _, Nat.le_refl _, toClose, Nat.le_refl _, rfl⟩
    · exact absurd absent List.not_mem_nil
  · rw [List.append_assoc, List.cons_append] at inOrder
    have toAlternative := inOrder.stop_le_start
    have rest := inOrder.tail.of_append
    have fromAlternative := rest.stop_le_start
    have wide := rest.1 alternative.tag List.mem_cons_self
    rw [some] at member
    rcases Token.mem_bodies_ofBlock member with rfl | second
    · exact ⟨tag.span.stop, alternative.tag.span.start, Nat.le_refl _, toAlternative, by omega, rfl⟩
    · exact ⟨alternative.tag.span.stop, closing.close.tag.span.start, by omega, fromAlternative,
        Nat.le_refl _, List.mem_singleton.mp second⟩

/-- The parts that tags are read into do not overlap when the tags do not. -/
theorem isSpread_outline
    {tags : List Tag}
    (inOrder : Tag.InOrder tags)
    {start : Nat}
    (behind : ∀ tag ∈ tags, start ≤ tag.span.start) :
    (source.outline tags).IsSpread source.base start := by
  induction tags using source.outline_induction generalizing start with
  | done => exact .empty _ _
  | @expression tag tags outline words kind inductionHypothesis =>
    have here := Nat.le_of_lt (inOrder.1 tag List.mem_cons_self)
    have rest := inductionHypothesis inOrder.tail (List.pairwise_cons.mp inOrder.2).1
    exact (rest.withToken here rfl).mono (behind tag List.mem_cons_self)
  | @stray tag tags outline problem stray inductionHypothesis =>
    have here := inOrder.1 tag List.mem_cons_self
    have rest := inductionHypothesis inOrder.tail (List.pairwise_cons.mp inOrder.2).1
    exact (rest.withProblem here stray.isAbout.1).mono (behind tag List.mem_cons_self)
  | @targetless tag inside after outline block closing kind takes inductionHypothesis =>
    obtain ⟨wide, inOrderAfter, later⟩ := inOrder.closed
    have rest := inductionHypothesis inOrderAfter later
    exact (rest.withProblem wide rfl).mono (behind tag List.mem_cons_self)
  | @block tag inside after outline path others block closing kind takes inductionHypothesis =>
    obtain ⟨wide, inOrderAfter, later⟩ := inOrder.closed
    have rest := inductionHypothesis inOrderAfter later
    rw [blockToken_eq]
    exact (rest.withToken (Nat.le_of_lt wide) rfl).mono (behind tag List.mem_cons_self)

/-- The parts of a text do not overlap. -/
theorem isSpread_parse (source : Source) :
    (source.outline source.tags).IsSpread source.base 0 :=
  isSpread_outline source.tags_ordered fun _ _ => Nat.zero_le _

/-- The bodies of the tokens of tags lie in their tokens. -/
theorem covers_of_mem_outline
    {tags : List Tag}
    (inOrder : Tag.InOrder tags)
    {token : Token}
    {body : Body}
    (found : token ∈ (source.outline tags).tokens)
    (member : body ∈ token.bodies)
    {offset : Nat}
    (covers : body.Covers offset) : token.Covers source.base offset := by
  induction tags using source.outline_induction with
  | done => exact absurd found List.not_mem_nil
  | @expression tag tags outline words kind inductionHypothesis =>
    rcases List.mem_cons.mp found with rfl | later
    · rw [token, Token.bodies_ofWords] at member
      exact absurd member List.not_mem_nil
    · exact inductionHypothesis inOrder.tail later
  | stray stray inductionHypothesis => exact inductionHypothesis inOrder.tail found
  | targetless kind takes inductionHypothesis =>
    exact inductionHypothesis inOrder.closed.2.1 found
  | block kind takes inductionHypothesis =>
    rcases List.mem_cons.mp found with rfl | later
    · exact covers_blockToken takes.closing?_eq inOrder member covers
    · exact inductionHypothesis inOrder.closed.2.1 later

/-- Whatever lies in a body of a token of a text lies in the token. -/
theorem covers_of_mem_bodies
    {token : Token}
    {body : Body}
    (found : token ∈ source.parse.tokens)
    (member : body ∈ token.bodies)
    {offset : Nat}
    (covers : body.Covers offset) : token.Covers source.base offset :=
  covers_of_mem_outline source.tags_ordered found member covers

/-- Whatever lies in a token of a text lies in the text. -/
theorem lt_of_covers_token
    {token : Token}
    (found : token ∈ source.parse.tokens)
    {offset : Nat}
    (covers : token.Covers source.base offset) :
    source.base ≤ offset ∧ offset < source.base + Text.size source.text := by
  have bounds := source.hasSpans_tokens.bounds token.span (List.mem_map_of_mem found)
  simp only [Token.Covers] at covers
  omega

theorem exists_tag_of_mem_problems
    {tags : List Tag}
    {problem : Problem}
    (found : problem ∈ (source.outline tags).problems) :
    ∃ tag ∈ tags, problem.IsAbout source.base tag := by
  induction tags using source.outline_induction with
  | done => exact absurd found List.not_mem_nil
  | @expression tag tags outline words kind inductionHypothesis =>
    obtain ⟨other, member, about⟩ := inductionHypothesis found
    exact ⟨other, List.mem_cons_of_mem tag member, about⟩
  | @stray tag tags outline problem stray inductionHypothesis =>
    rcases List.mem_cons.mp found with rfl | later
    · exact ⟨tag, List.mem_cons_self, stray.isAbout⟩
    · obtain ⟨other, member, about⟩ := inductionHypothesis later
      exact ⟨other, List.mem_cons_of_mem tag member, about⟩
  | @targetless tag inside after outline block closing kind takes inductionHypothesis =>
    rcases List.mem_cons.mp found with rfl | later
    · exact ⟨tag, List.mem_cons_self, rfl, kind⟩
    · obtain ⟨other, member, about⟩ := inductionHypothesis later
      exact ⟨other, Tag.mem_behind member tag inside closing.close.tag, about⟩
  | @block tag inside after outline path others block closing kind takes inductionHypothesis =>
    obtain ⟨other, member, about⟩ := inductionHypothesis found
    exact ⟨other, Tag.mem_behind member tag inside closing.close.tag, about⟩

/-- No tag is left to be reported beside a token that takes up the whole text. -/
theorem problems_eq_nil_of_whole
    {token : Token}
    (found : token ∈ source.parse.tokens)
    (whole : token.span = ⟨0, Text.size source.text⟩) : source.parse.problems = [] := by
  refine List.eq_nil_iff_forall_not_mem.mpr fun problem member => ?_
  obtain ⟨tag, there, place, -⟩ := exists_tag_of_mem_problems member
  have uncovered := source.isSpread_parse.offsets_uncovered _
    (List.mem_filterMap.mpr ⟨problem, member, place⟩) token found
  have wide := source.tags_ordered.1 tag there
  have bounds := source.hasSpans_tags.bounds tag.span (List.mem_map_of_mem there)
  rw [Token.Covers, whole] at uncovered
  dsimp only at uncovered
  omega

/-- The delimiters that the parse of a text leaves as text are those that its scan meets. -/
theorem loose_parse_perm (source : Source) :
    source.parse.loose.Perm (source.loose.map (source.base + ·)) := by
  have loose : source.loose = source.sightings.filterMap Sighting.reopened? ++
      (source.sightings.findSome? Sighting.unterminated?).toList := by
    by_cases usable : source.delimiters.opening ≠ [] ∧ source.delimiters.closing ≠ []
    · exact (scans_sightings usable).loose_eq_append
    · rw [Source.loose, sightings_eq_nil usable]
      rfl
  rw [loose, List.map_append, Parsed.loose, parse]
  refine List.perm_append_comm.trans (.of_eq ?_)
  congr 1
  cases source.sightings.findSome? Sighting.unterminated? <;> rfl

/-- The delimiters that are left as text stand in different places. -/
theorem loose_nodup (source : Source) : source.loose.Nodup := by
  by_cases usable : source.delimiters.opening ≠ [] ∧ source.delimiters.closing ≠ []
  · exact ((scans_sightings usable).loose_increasing usable.1).imp Nat.ne_of_lt
  · rw [loose, sightings_eq_nil usable]
    exact .nil

/-- Where a delimiter is left as text, the opening delimiter stands in the text. -/
theorem exists_occurrence_of_mem_loose
    {start : Nat}
    (met : start ∈ source.loose) :
    source.delimiters.opening ≠ [] ∧
      ∃ before after, source.text = before ++ source.delimiters.opening ++ after ∧
        Text.size before = start := by
  by_cases usable : source.delimiters.opening ≠ [] ∧ source.delimiters.closing ≠ []
  · refine ⟨usable.1, ?_⟩
    simpa only [Nat.zero_add] using (scans_sightings usable).exists_occurrence met
  · rw [loose, sightings_eq_nil usable] at met
    exact absurd met List.not_mem_nil

end Source
end Stencil
