import Stencil.Proofs.Source.Bodies
import Stencil.Proofs.Tree.Basic

/-!
# Reading a written tree

Reading the text of a tree finds its top level again: one token for every expression and every
block, with the texts of the trees inside a block as its bodies, and without any problem.
-/

namespace Stencil

namespace Block

/-- The tags of a block are balanced when those of its parts are. -/
theorem balanced_fragments
    (block : Block)
    (words : List Text)
    {delimiters : Delimiters}
    {body : List Fragment}
    {alternative? : Option (List Fragment)}
    (bodyBalanced : ∀ position, Balanced (Fragment.tags delimiters position body))
    (alternativeBalanced : ∀ alternative ∈ alternative?,
      ∀ position, Balanced (Fragment.tags delimiters position alternative))
    (position : Nat) :
    Balanced (Fragment.tags delimiters position (block.fragments words body alternative?)) := by
  cases alternative? with
  | none =>
    simp only [fragments, Fragment.tags, Fragment.tags_append, List.append_nil]
    exact .block block words _ _ (bodyBalanced _)
  | some alternative =>
    simp only [fragments, Fragment.tags, Fragment.tags_append, List.append_assoc,
      List.cons_append]
    exact .choice block words _ _ _ (bodyBalanced _) (alternativeBalanced alternative rfl _)

end Block

/-- Every block of a tree is closed. -/
theorem Tree.balanced_tags (delimiters : Delimiters) (tree : Tree) (position : Nat) :
    Block.Balanced (Fragment.tags delimiters position tree.fragments) := by
  induction tree generalizing position with
  | empty => exact .nil
  | literal text rest restHypothesis => exact restHypothesis _
  | expression name arguments rest restHypothesis =>
    exact .append (.expression _ _) (restHypothesis _)
  | branch wanted path arguments body alternative? rest bodyHypothesis alternativeHypothesis
      restHypothesis =>
    rw [fragments_branch, Fragment.tags_append]
    refine .append (Block.balanced_fragments _ _ bodyHypothesis ?_ _) (restHypothesis _)
    intro fragments member
    obtain ⟨alternative, present, rfl⟩ := Option.map_eq_some_iff.mp member
    exact alternativeHypothesis alternative present
  | loop path arguments body rest bodyHypothesis restHypothesis =>
    rw [fragments, Fragment.tags_append]
    refine .append (Block.balanced_fragments _ _ bodyHypothesis ?_ _) (restHypothesis _)
    intro fragments member
    exact absurd member (Option.not_mem_none _)

theorem Token.Form.ofBlock_ofWanted
    (wanted : Bool)
    (path : Text)
    (arguments : List Text)
    (body : Body)
    (alternative? : Option Body) :
    ofBlock (Block.ofWanted wanted) path arguments body alternative? =
      .branch wanted path arguments body alternative? := by
  cases wanted <;> rfl

theorem Outline.withToken_of_eq
    {outline : Outline}
    {tokens : List Token}
    (same : outline = ⟨tokens, []⟩)
    (token : Token) : outline.withToken token = ⟨token :: tokens, []⟩ := by
  rw [same]
  rfl

namespace Source

/-- The token of a block that is written at a position of a text, with the given bodies. -/
def writtenBlock
    (source : Source)
    (block : Block)
    (path : Text)
    (arguments : List Text)
    (body : Text)
    (alternative? : Option Text)
    (position : Nat) : Token :=
  let span := source.delimiters.tagSpan
  let opening := span position (Tag.Kind.opening block.name (path :: arguments)).content
  let close := (Tag.Kind.closing block.name).content
  let bodyStop := opening.stop + Text.size body
  match alternative? with
  | none =>
    source.token
      (.ofBlock block path arguments ⟨body, source.base + opening.stop⟩ none)
      ⟨position, (span bodyStop close).stop⟩
  | some alternative =>
    let otherwise := span bodyStop Tag.Kind.otherwise.content
    source.token
      (.ofBlock block path arguments ⟨body, source.base + opening.stop⟩
        (some ⟨alternative, source.base + otherwise.stop⟩))
      ⟨position, (span (otherwise.stop + Text.size alternative) close).stop⟩

section Form

variable
  (source : Source)
  (block : Block)
  (path : Text)
  (arguments : List Text)
  (body : Text)
  (alternative? : Option Text)
  (position : Nat)

theorem start_writtenBlock :
    (source.writtenBlock block path arguments body alternative? position).span.start =
      position := by
  cases alternative? <;> rfl

/-- The form of a written block, wherever its bodies are said to stand. -/
theorem form_writtenBlock :
    ∃ bodyOffset alternativeOffset,
      (source.writtenBlock block path arguments body alternative? position).form =
        .ofBlock block path arguments ⟨body, bodyOffset⟩
          (alternative?.map fun text => ⟨text, alternativeOffset⟩) := by
  cases alternative? with
  | none => exact ⟨_, 0, rfl⟩
  | some alternative => exact ⟨_, _, rfl⟩

end Form

variable {source : Source}

/-- The text between two positions, when it is known what stands there. -/
theorem body_of_text_eq
    {front middle back : Text}
    (written : source.text = front ++ middle ++ back)
    {start stop : Nat}
    (startsThere : start = Text.size front)
    (stopsThere : stop = start + Text.size middle) :
    source.body start stop = ⟨middle, source.base + start⟩ := by
  rw [body, written, stopsThere, startsThere, Text.slice_append]

/-- A written block takes its whole text. -/
theorem stop_writtenBlock
    (source : Source)
    (block : Block)
    (path : Text)
    (arguments : List Text)
    (body : List Fragment)
    (alternative? : Option (List Fragment))
    (position : Nat) :
    (source.writtenBlock block path arguments (Fragment.print source.delimiters body)
      (alternative?.map (Fragment.print source.delimiters)) position).span.stop =
      position + Text.size (Fragment.print source.delimiters
        (block.fragments (path :: arguments) body alternative?)) := by
  cases alternative? with
  | none =>
    simp only [writtenBlock, Option.map_none, token, Fragment.stop_tagSpan, Block.fragments,
      Fragment.print_cons, Fragment.print_append, Fragment.print_nil, Text.size_append,
      Text.size_nil]
    omega
  | some alternative =>
    simp only [writtenBlock, Option.map_some, token, Fragment.stop_tagSpan, Block.fragments,
      Fragment.print_cons, Fragment.print_append, Fragment.print_nil, Text.size_append,
      Text.size_nil]
    omega

section WrittenBlock

variable
  {block : Block}
  (path : Text)
  (arguments : List Text)
  {body rest : List Fragment}
  (bodyBalanced : ∀ position, Block.Balanced (Fragment.tags source.delimiters position body))
  {front : Text}

include bodyBalanced

/-- Reading finds a written block as one token and goes on behind it. -/
theorem outline_writtenBlock_none
    (written : source.text = front ++ Fragment.print source.delimiters
      (block.fragments (path :: arguments) body none ++ rest)) :
    let token := source.writtenBlock block path arguments
      (Fragment.print source.delimiters body) none (Text.size front)
    source.outline (Fragment.tags source.delimiters (Text.size front)
        (block.fragments (path :: arguments) body none ++ rest)) =
      (source.outline (Fragment.tags source.delimiters token.span.stop rest)).withToken token := by
  intro token
  let opening := Fragment.text source.delimiters (.tag (.opening block.name (path :: arguments)))
  let closing := Fragment.text source.delimiters (.tag (.closing block.name))
  let bodyText := Fragment.print source.delimiters body
  let restText := Fragment.print source.delimiters rest
  have openingStop := Fragment.stop_tagSpan source.delimiters (Text.size front)
    (.opening block.name (path :: arguments))
  have writtenBody : source.text = (front ++ opening) ++ bodyText ++ (closing ++ restText) := by
    simp [written, Block.fragments, opening, bodyText, closing, restText]
  have bodyThere := body_of_text_eq writtenBody (openingStop.trans (Text.size_append _ _).symm) rfl
  have stop := source.stop_writtenBlock block path arguments body none (Text.size front)
  rw [Fragment.tags_append, ← stop]
  simp only [Block.fragments, List.append_nil, List.cons_append, List.append_assoc,
    List.nil_append, Fragment.tags, Fragment.tags_append]
  rw [outline_block (Block.takes_of_balanced (bodyBalanced _) _ _) rfl]
  simp only [blockToken, Fragment.start_tagSpan]
  rw [bodyThere]
  rfl

/-- Reading finds a written block with an alternative as one token and goes on behind it. -/
theorem outline_writtenBlock_some
    {alternative : List Fragment}
    (allowed : block.hasAlternative)
    (alternativeBalanced : ∀ position,
      Block.Balanced (Fragment.tags source.delimiters position alternative))
    (written : source.text = front ++ Fragment.print source.delimiters
      (block.fragments (path :: arguments) body (some alternative) ++ rest)) :
    let token := source.writtenBlock block path arguments (Fragment.print source.delimiters body)
      (some (Fragment.print source.delimiters alternative)) (Text.size front)
    source.outline (Fragment.tags source.delimiters (Text.size front)
        (block.fragments (path :: arguments) body (some alternative) ++ rest)) =
      (source.outline (Fragment.tags source.delimiters token.span.stop rest)).withToken token := by
  intro token
  let opening := Fragment.text source.delimiters (.tag (.opening block.name (path :: arguments)))
  let otherwise := Fragment.text source.delimiters (.tag .otherwise)
  let closing := Fragment.text source.delimiters (.tag (.closing block.name))
  let bodyText := Fragment.print source.delimiters body
  let alternativeText := Fragment.print source.delimiters alternative
  let restText := Fragment.print source.delimiters rest
  have openingStop := Fragment.stop_tagSpan source.delimiters (Text.size front)
    (.opening block.name (path :: arguments))
  have otherwiseStop := Fragment.stop_tagSpan source.delimiters
    (Text.size (front ++ opening ++ bodyText)) .otherwise
  have writtenBody : source.text =
      (front ++ opening) ++ bodyText ++ (otherwise ++ alternativeText ++ closing ++ restText) := by
    simp [written, Block.fragments, opening, otherwise, closing, bodyText, alternativeText,
      restText]
  have writtenAlternative : source.text =
      (front ++ opening ++ bodyText ++ otherwise) ++ alternativeText ++ (closing ++ restText) := by
    simp [writtenBody]
  have bodyThere := body_of_text_eq writtenBody (openingStop.trans (Text.size_append _ _).symm) rfl
  have alternativeThere :=
    body_of_text_eq writtenAlternative (otherwiseStop.trans (Text.size_append _ _).symm) rfl
  rw [Text.size_append, Text.size_append, ← openingStop] at alternativeThere
  have stop :=
    source.stop_writtenBlock block path arguments body (some alternative) (Text.size front)
  rw [Fragment.tags_append, ← stop]
  simp only [Block.fragments, List.cons_append, List.append_assoc, List.nil_append,
    Fragment.tags, Fragment.tags_append]
  have regroup (inside others : List Tag) (dividing close : Tag) (after : List Tag) :
      inside ++ dividing :: (others ++ close :: after) =
        (inside ++ dividing :: others) ++ close :: after := by
    rw [List.append_assoc, List.cons_append]
  rw [regroup, outline_block (Block.takes_of_balanced_choice allowed (bodyBalanced _)
    (alternativeBalanced _) _ _ _) rfl]
  simp only [blockToken, Fragment.start_tagSpan]
  rw [bodyThere, alternativeThere]
  rfl

end WrittenBlock

end Source

namespace Tree

/-- The tokens of the top level of a tree that is written at a position of a text. -/
def tokens (source : Source) : Nat → Tree → List Token
  | _, empty => []
  | position, literal text rest => rest.tokens source (position + Text.size text)
  | position, expression name arguments rest =>
    let words := name :: arguments
    let span := source.delimiters.tagSpan position (Tag.Kind.expression words).content
    source.token (.ofWords source.isHelper words) span :: rest.tokens source span.stop
  | position, branch wanted path arguments body alternative? rest =>
    let token := source.writtenBlock (Block.ofWanted wanted) path arguments
      (body.text source.delimiters) (alternative?.map (text source.delimiters)) position
    token :: rest.tokens source token.span.stop
  | position, loop path arguments body rest =>
    let token := source.writtenBlock .forEach path arguments
      (body.text source.delimiters) none position
    token :: rest.tokens source token.span.stop

variable {source : Source}

/-- Reading the tags of a tree finds the tokens of its top level and no problem. -/
theorem outline_tags
    {tree : Tree}
    {front : Text}
    (written : source.text = front ++ tree.text source.delimiters) :
    source.outline (Fragment.tags source.delimiters (Text.size front) tree.fragments) =
      ⟨tree.tokens source (Text.size front), []⟩ := by
  induction tree generalizing front with
  | empty => rw [fragments, Fragment.tags, Source.outline_nil, tokens]
  | literal literalText rest restHypothesis =>
    have later := @restHypothesis (front ++ literalText)
      (by simp [written, text, fragments, Fragment.text])
    rw [Text.size_append] at later
    rw [fragments, Fragment.tags, later, tokens]
  | expression name arguments rest restHypothesis =>
    let tag := Fragment.tag (.expression (name :: arguments))
    have later := @restHypothesis (front ++ tag.text source.delimiters)
      (by simp [written, text, fragments, tag])
    rw [Text.size_append, ← Fragment.stop_tagSpan] at later
    rw [fragments, Fragment.tags, Source.outline_expression rfl, tokens]
    exact Outline.withToken_of_eq later _
  | branch wanted path arguments body alternative? rest bodyHypothesis alternativeHypothesis
      restHypothesis =>
    let block := Block.ofWanted wanted
    have stop := source.stop_writtenBlock block path arguments body.fragments
      (alternative?.map fragments) (Text.size front)
    have later := @restHypothesis (front ++ Fragment.print source.delimiters
        (block.fragments (path :: arguments) body.fragments (alternative?.map fragments)))
      (by simp [written, text, fragments_branch, block])
    rw [Text.size_append, ← stop] at later
    rw [text, fragments_branch] at written
    rw [fragments_branch, tokens]
    cases alternative? with
    | none =>
      have found :=
        Source.outline_writtenBlock_none path arguments (body.balanced_tags _) written
      exact found.trans (Outline.withToken_of_eq later _)
    | some alternative =>
      have found := Source.outline_writtenBlock_some path arguments (body.balanced_tags _)
        (Block.hasAlternative_ofWanted wanted) (alternative.balanced_tags _) written
      exact found.trans (Outline.withToken_of_eq later _)
  | loop path arguments body rest bodyHypothesis restHypothesis =>
    have stop := source.stop_writtenBlock .forEach path arguments body.fragments none
      (Text.size front)
    have later := @restHypothesis (front ++ Fragment.print source.delimiters
        (Block.forEach.fragments (path :: arguments) body.fragments none))
      (by simp [written, text, fragments])
    rw [Text.size_append, ← stop] at later
    rw [text, fragments] at written
    have found := Source.outline_writtenBlock_none path arguments (body.balanced_tags _) written
    rw [fragments, tokens]
    exact found.trans (Outline.withToken_of_eq later _)

/-- Reading the text of a tree finds the tokens of its top level.  Nothing in the text is a problem,
left open or opened again. -/
theorem parse_text
    {tree : Tree}
    (usable : source.delimiters.opening ≠ [] ∧ source.delimiters.closing ≠ [])
    (writable : tree.IsWritable source.delimiters)
    (written : source.text = tree.text source.delimiters) :
    source.parse = ⟨tree.tokens source 0, [], none, []⟩ := by
  have scans := Sighting.scans_print usable writable 0
  have sightings : source.sightings =
      (Fragment.tags source.delimiters 0 tree.fragments).map Sighting.tag := by
    have met := Source.scans_sightings usable
    rw [written, text] at met
    rw [met.eq_scanFrom usable.1, scans.eq_scanFrom usable.1]
  have tags : source.sightings.filterMap Sighting.tag? =
      Fragment.tags source.delimiters 0 tree.fragments := by
    rw [sightings, List.filterMap_map]
    exact List.filterMap_some
  have unterminated : source.sightings.findSome? Sighting.unterminated? = none := by
    rw [sightings, List.findSome?_map, List.findSome?_eq_none_iff]
    intro tag member
    rfl
  have abandoned : source.sightings.filterMap Sighting.reopened? = [] := by
    rw [sightings, List.filterMap_map, List.filterMap_eq_nil_iff]
    intro tag member
    rfl
  have outline := @outline_tags source tree [] (by rw [written, List.nil_append])
  rw [Text.size_nil] at outline
  rw [Source.parse, tags, unterminated, abandoned, outline]
  rfl

end Tree
end Stencil
