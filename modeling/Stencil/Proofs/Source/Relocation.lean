import Stencil.Proofs.Source.Layout

/-!
# Reading a text in another place

A text can stand elsewhere: further to the right in the whole template, or as a part of a longer
text.  It has the same tokens and problems there, at the places that correspond to the old ones.
-/

namespace Stencil

/-- A change of the place where a text is read and rendered. -/
structure Relocation where
  /-- How far the text moves to the right in the whole template. -/
  distance : Nat
  /-- The limit to the depth of blocks that is reported in the new place. -/
  limit : Nat

/-- A problem as it is reported in the new place. -/
def Problem.relocate (relocation : Relocation) : Problem → Problem
  | unclosedBlock name offset => unclosedBlock name (offset + relocation.distance)
  | unexpectedClose name offset => unexpectedClose name (offset + relocation.distance)
  | strayElse offset => strayElse (offset + relocation.distance)
  | unknownBlock name offset => unknownBlock name (offset + relocation.distance)
  | missingBlockTarget name offset => missingBlockTarget name (offset + relocation.distance)
  | depthExceeded _ => depthExceeded relocation.limit
  | problem => problem

/-- A notice as it is given in the new place. -/
def Notice.relocate (relocation : Relocation) : Notice → Notice
  | unterminated offset => unterminated (offset + relocation.distance)
  | reopened offset => reopened (offset + relocation.distance)
  | notice => notice

@[simp] theorem Problem.isUnclosedBlock_relocate (relocation : Relocation) (problem : Problem) :
    (problem.relocate relocation).isUnclosedBlock = problem.isUnclosedBlock := by
  cases problem <;> rfl

/-- A body further to the right in the whole template. -/
def Body.shift (distance : Nat) (body : Body) : Body :=
  { body with offset := body.offset + distance }

namespace Token

/-- What a token stands for, its bodies further to the right. -/
def Form.shift (distance : Nat) : Form → Form
  | branch wanted path arguments body alternative? =>
    branch wanted path arguments (body.shift distance) (alternative?.map (Body.shift distance))
  | loop path body => loop path (body.shift distance)
  | form => form

/-- A token whose span is moved in the text that was read and whose bodies are moved in the whole
template. -/
def move (inset distance : Nat) (token : Token) : Token :=
  { token with form := token.form.shift distance, span := token.span.shift inset }

@[simp] theorem Form.shift_ofWords
    (distance : Nat)
    (isHelper : Text → Bool)
    (words : List Text) : (ofWords isHelper words).shift distance = ofWords isHelper words := by
  rcases words with _ | ⟨word, _ | ⟨next, others⟩⟩
  · rfl
  · rw [ofWords]
    split <;> rfl
  · rfl

theorem Form.shift_ofBlock
    (distance : Nat)
    (block : Block)
    (path : Text)
    (arguments : List Text)
    (body : Body)
    (alternative? : Option Body) :
    (ofBlock block path arguments body alternative?).shift distance =
      ofBlock block path arguments (body.shift distance)
        (alternative?.map (Body.shift distance)) := by
  cases block <;> rfl

end Token

@[simp] theorem Span.shift_zero (span : Span) : span.shift 0 = span := rfl

@[simp] theorem Tag.shift_zero (tag : Tag) : tag.shift 0 = tag := rfl

@[simp] theorem Body.shift_zero (body : Body) : body.shift 0 = body := rfl

@[simp] theorem Token.Form.shift_zero (form : Form) : form.shift 0 = form := by
  cases form with
  | branch wanted path arguments body alternative? => cases alternative? <;> rfl
  | _ => rfl

@[simp] theorem Token.move_zero (token : Token) : token.move 0 0 = token := by
  simp [Token.move]

namespace Outline

/-- The outline of the same tags in the new place, `inset` being how far they move in the text that
is read. -/
def relocate (inset : Nat) (relocation : Relocation) (outline : Outline) : Outline where
  tokens := outline.tokens.map (Token.move inset relocation.distance)
  problems := outline.problems.map (Problem.relocate relocation)

end Outline

/-- What is read in the new place, where the text is read as a whole. -/
def Parsed.relocate (relocation : Relocation) (parsed : Parsed) : Parsed where
  tokens := parsed.tokens.map (Token.move 0 relocation.distance)
  problems := parsed.problems.map (Problem.relocate relocation)
  unterminated? := parsed.unterminated?.map (· + relocation.distance)
  abandoned := parsed.abandoned.map (· + relocation.distance)

namespace Text

theorem takeBytes_append_of_le
    {count : Nat}
    {text : Text}
    (fits : count ≤ size text)
    (back : Text) : takeBytes count (text ++ back) = takeBytes count text := by
  induction text generalizing count with
  | nil =>
    obtain rfl := Nat.le_zero.mp fits
    exact takeBytes_size_append [] back
  | cons character text inductionHypothesis =>
    rw [size_cons] at fits
    rw [List.cons_append, takeBytes, takeBytes]
    split
    · rw [inductionHypothesis (by omega)]
    · rfl

theorem dropBytes_append_of_le
    {count : Nat}
    {text : Text}
    (fits : count ≤ size text)
    (back : Text) : dropBytes count (text ++ back) = dropBytes count text ++ back := by
  have whole := takeBytes_append_dropBytes count (text ++ back)
  have parts := congrArg (· ++ back) (takeBytes_append_dropBytes count text)
  rw [takeBytes_append_of_le fits] at whole
  rw [List.append_assoc] at parts
  exact List.append_cancel_left (whole.trans parts.symm)

theorem size_le_add_size_dropBytes (count : Nat) (text : Text) :
    size text ≤ count + size (dropBytes count text) := by
  induction text generalizing count with
  | nil => simp
  | cons character text inductionHypothesis =>
    rw [dropBytes]
    split
    · have := inductionHypothesis (count - character.utf8Size)
      rw [size_cons]
      omega
    · omega

/-- A part of a text is the same part of a longer text around it. -/
theorem slice_append_append
    (front text back : Text)
    (start : Nat)
    {stop : Nat}
    (inside : stop ≤ size text) :
    slice (front ++ text ++ back) (start + size front) (stop + size front) =
      slice text start stop := by
  rw [slice, slice, Nat.add_sub_add_right, Nat.add_comm start, List.append_assoc,
    dropBytes_size_add]
  rcases Nat.lt_or_ge (size text) start with beyond | before
  · have empty (text : Text) : takeBytes (stop - start) text = [] := by
      rw [Nat.sub_eq_zero_of_le (by omega)]
      exact takeBytes_size_append [] text
    rw [empty, empty]
  · have rest := size_le_add_size_dropBytes start text
    rw [dropBytes_append_of_le before, takeBytes_append_of_le (by omega)]

end Text

namespace Block

theorem Closing.close_tag_shift (amount : Nat) (closing : Closing) :
    (closing.shift amount).close.tag = closing.close.tag.shift amount := rfl

theorem closing?_map_shift (block : Block) (amount : Nat) (tags : List Tag) :
    block.closing? (tags.map (Tag.shift amount)) =
      (block.closing? tags).map (Closing.shift amount) :=
  block.closingFrom_map_shift 0 [] none amount tags

/-- A block takes the same tags further to the right. -/
theorem Takes.shift
    {block : Block}
    {inside after : List Tag}
    {closing : Closing}
    (takes : block.Takes inside closing after)
    (amount : Nat) :
    block.Takes (inside.map (Tag.shift amount)) (closing.shift amount)
      (after.map (Tag.shift amount)) where
  closing?_eq := by
    have moved := block.closing?_map_shift amount (inside ++ closing.close.tag :: after)
    rwa [takes.closing?_eq, List.map_append, List.map_cons] at moved
  position_eq := takes.position_eq.trans (List.length_map _).symm

end Block

namespace Source

/-- Whether the text of one source is a part of the text of another, `inset` bytes behind its start
and `distance` bytes further to the right in the whole template. -/
structure Holds (outer inner : Source) (inset distance : Nat) : Prop where
  isHelper_eq : outer.isHelper = inner.isHelper
  place_eq : outer.base + inset = inner.base + distance
  slice_eq : ∀ start stop, stop ≤ Text.size inner.text →
    Text.slice outer.text (start + inset) (stop + inset) = Text.slice inner.text start stop

variable {outer inner : Source} {inset distance : Nat}

theorem Holds.offset_eq
    (holds : outer.Holds inner inset distance)
    (start : Nat) : outer.base + (start + inset) = inner.base + start + distance := by
  have := holds.place_eq
  omega

theorem Holds.body_eq
    (holds : outer.Holds inner inset distance)
    (start : Nat)
    {stop : Nat}
    (inside : stop ≤ Text.size inner.text) :
    outer.body (start + inset) (stop + inset) = (inner.body start stop).shift distance := by
  rw [Source.body, holds.slice_eq start stop inside, holds.offset_eq]
  rfl

theorem Holds.token_eq
    (holds : outer.Holds inner inset distance)
    (form : Token.Form)
    {span : Span}
    (inside : span.stop ≤ Text.size inner.text) :
    outer.token (form.shift distance) (span.shift inset) =
      (inner.token form span).move inset distance := by
  rw [Source.token, Span.shift, holds.slice_eq span.start span.stop inside]
  rfl

/-- A block that is closed inside a part of a text has the same token there. -/
theorem Holds.blockToken_eq
    (holds : outer.Holds inner inset distance)
    (block : Block)
    (path : Text)
    (arguments : List Text)
    (opening : Span)
    {closing : Block.Closing}
    (closeInside : closing.close.tag.span.start ≤ closing.close.tag.span.stop ∧
      closing.close.tag.span.stop ≤ Text.size inner.text)
    (alternativeInside : ∀ alternative ∈ closing.alternative?,
      alternative.tag.span.start ≤ alternative.tag.span.stop ∧
        alternative.tag.span.stop ≤ Text.size inner.text) :
    outer.blockToken block path arguments (opening.shift inset) (closing.shift inset) =
      (inner.blockToken block path arguments opening closing).move inset distance := by
  have whole (form : Token.Form) := holds.token_eq form
    (show Span.stop ⟨opening.start, closing.close.tag.span.stop⟩ ≤ _ from closeInside.2)
  have close := Nat.le_trans closeInside.1 closeInside.2
  rw [Source.blockToken_eq, Source.blockToken_eq, ← whole, Token.Form.shift_ofBlock]
  obtain ⟨alternative?, closeTag⟩ := closing
  cases alternative? with
  | none =>
    have body := holds.body_eq opening.stop close
    dsimp only [Option.getD_none, Option.map_none]
    rw [← body]
    rfl
  | some alternative =>
    obtain ⟨ordered, inside⟩ := alternativeInside alternative rfl
    have body := holds.body_eq opening.stop (Nat.le_trans ordered inside)
    have alternativeBody := holds.body_eq alternative.tag.span.stop close
    dsimp only [Option.getD_some, Option.map_some]
    rw [← body, ← alternativeBody]
    rfl

/-- A tag that is reported alone is reported alone in the new place. -/
theorem Holds.isStray
    {relocation : Relocation}
    (holds : outer.Holds inner inset relocation.distance)
    {tag : Tag}
    {tags : List Tag}
    {problem : Problem}
    (stray : inner.IsStray tag tags problem) :
    outer.IsStray (tag.shift inset) (tags.map (Tag.shift inset)) (problem.relocate relocation) := by
  cases stray with
  | otherwise kind =>
    rw [Problem.relocate, ← holds.offset_eq]
    exact .otherwise kind
  | closing kind =>
    rw [Problem.relocate, ← holds.offset_eq]
    exact .closing kind
  | unknown kind unknown =>
    rw [Problem.relocate, ← holds.offset_eq]
    exact .unknown kind unknown
  | @unclosed block arguments kind unclosed =>
    have stillUnclosed := block.closing?_map_shift inset tags
    rw [unclosed, Option.map_none] at stillUnclosed
    rw [Problem.relocate, ← holds.offset_eq]
    exact .unclosed kind stillUnclosed

/-- Tags inside a part of a text are read in the part as they are read in the whole. -/
theorem Holds.outline_eq
    {relocation : Relocation}
    (holds : outer.Holds inner inset relocation.distance)
    {tags : List Tag}
    (inside : ∀ tag ∈ tags, tag.span.start ≤ tag.span.stop ∧
      tag.span.stop ≤ Text.size inner.text) :
    outer.outline (tags.map (Tag.shift inset)) =
      (inner.outline tags).relocate inset relocation := by
  induction tags using inner.outline_induction with
  | done => exact outline_nil
  | @expression tag tags outline words kind inductionHypothesis =>
    obtain ⟨here, later⟩ := List.forall_mem_cons.mp inside
    have token := holds.token_eq (.ofWords inner.isHelper words) here.2
    rw [Token.Form.shift_ofWords] at token
    rw [List.map_cons, outline_expression ((tag.shift_kind inset).trans kind),
      inductionHypothesis later, holds.isHelper_eq]
    exact congrArg (Outline.withToken _) token
  | stray stray inductionHypothesis =>
    have later := (List.forall_mem_cons.mp inside).2
    rw [List.map_cons, outline_stray (holds.isStray stray), inductionHypothesis later]
    rfl
  | @targetless tag taken after outline block closing kind takes inductionHypothesis =>
    obtain ⟨-, later⟩ := List.forall_mem_cons.mp inside
    obtain ⟨-, later⟩ := List.forall_mem_append.mp later
    have place := holds.offset_eq tag.span.start
    rw [List.map_cons, List.map_append, List.map_cons, ← Block.Closing.close_tag_shift,
      outline_targetless (takes.shift inset) ((tag.shift_kind inset).trans kind),
      inductionHypothesis (List.forall_mem_cons.mp later).2]
    exact congrArg (Outline.withProblem _) (congrArg (Problem.missingBlockTarget block.name) place)
  | @block tag taken after outline path others block closing kind takes inductionHypothesis =>
    obtain ⟨-, later⟩ := List.forall_mem_cons.mp inside
    obtain ⟨closeMember, alternativeMember⟩ := Block.mem_of_closing? takes.closing?_eq
    have token := holds.blockToken_eq block path others tag.span (later _ closeMember)
      fun alternative present => later _ (alternativeMember alternative present)
    obtain ⟨-, behind⟩ := List.forall_mem_append.mp later
    rw [List.map_cons, List.map_append, List.map_cons, ← Block.Closing.close_tag_shift,
      outline_block (takes.shift inset) ((tag.shift_kind inset).trans kind),
      inductionHypothesis (List.forall_mem_cons.mp behind).2]
    exact congrArg (Outline.withToken _) token

/-- The same text further to the right in the whole template. -/
def shift (distance : Nat) (source : Source) : Source :=
  { source with base := source.base + distance }

theorem holds_shift (source : Source) (distance : Nat) :
    (source.shift distance).Holds source 0 distance where
  isHelper_eq := rfl
  place_eq := rfl
  slice_eq _ _ _ := rfl

theorem tags_inside (source : Source) :
    ∀ tag ∈ source.tags, tag.span.start ≤ tag.span.stop ∧
      tag.span.stop ≤ Text.size source.text := by
  intro tag member
  obtain ⟨-, ordered, inside⟩ :=
    source.hasSpans_tags.bounds tag.span (List.mem_map_of_mem member)
  rw [Nat.zero_add] at inside
  exact ⟨ordered, inside⟩

/-- A text is read in the new place as in the old one. -/
theorem parse_shift (source : Source) (relocation : Relocation) :
    (source.shift relocation.distance).parse = source.parse.relocate relocation := by
  have outline := (source.holds_shift relocation.distance).outline_eq source.tags_inside
  have unmoved : source.tags.map (Tag.shift 0) = source.tags := List.map_id _
  rw [unmoved] at outline
  have place (start : Nat) :
      source.base + relocation.distance + start = source.base + start + relocation.distance := by
    omega
  change Parsed.mk ((source.shift relocation.distance).outline source.tags).tokens
    ((source.shift relocation.distance).outline source.tags).problems
    ((source.sightings.findSome? Sighting.unterminated?).map fun start =>
      source.base + relocation.distance + start)
    ((source.sightings.filterMap Sighting.reopened?).map fun start =>
      source.base + relocation.distance + start) = _
  rw [outline]
  simp only [place, Parsed.relocate, parse, Option.map_map, List.map_map]
  rfl

end Source
end Stencil
