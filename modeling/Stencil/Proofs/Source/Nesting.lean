import Stencil.Proofs.Source.Position

/-!
# How blocks shrink

A body of a block is shorter than the text by the two tags of the block at least, and the opening
tags of blocks that are found in it are those of the text, without the one of the block.
-/

namespace Stencil
namespace Tag

/-- Whether a tag opens a block of a kind that there is. -/
def opensBlock (tag : Tag) : Bool :=
  match tag.kind with
  | .opening name _ => (Block.ofName? name).isSome
  | _ => false

/-- Tags lie behind the first one of them, and before the last one. -/
theorem InOrder.bounds
    {first last : Tag}
    {inside : List Tag}
    (inOrder : InOrder (first :: (inside ++ [last]))) :
    ∀ tag ∈ first :: (inside ++ [last]),
      first.span.stop ≤ tag.span.stop ∧ tag.span.start ≤ last.span.start := by
  obtain ⟨wide, ordered⟩ := inOrder
  have behind := (List.pairwise_cons.mp ordered).1
  have before := (List.pairwise_append.mp (List.pairwise_cons.mp ordered).2).2.2
  intro tag member
  have here := wide tag member
  rcases List.mem_cons.mp member with rfl | later
  · have := behind last (List.mem_append_right inside (List.mem_singleton_self last))
    omega
  · have := behind tag later
    rcases List.mem_append.mp later with between | final
    · have := before tag between last (List.mem_singleton_self last)
      omega
    · rw [List.mem_singleton.mp final] at this here ⊢
      omega

end Tag

theorem Token.IsBlock.opensBlock
    {token : Token}
    {opening close : Tag}
    (isBlock : token.IsBlock opening close) : opening.opensBlock := by
  obtain ⟨block, path, others, kind, -⟩ := isBlock.exists_kinds
  rw [Tag.opensBlock, kind]
  cases block <;> rfl

namespace Source

variable {source : Source}

/-- Number of tags of a text that open a block. -/
def blockCount (source : Source) : Nat := source.tags.countP Tag.opensBlock

namespace IsBodyOf

variable {token : Token} {body : Body} (isBodyOf : source.IsBodyOf source.tags token body)

include isBodyOf

/-- A body lies between two of the tags of its block, and read alone it has some of the tags behind
the opening one. -/
theorem exists_reading :
    ∃ early opening inside close late,
      source.tags = early ++ (opening :: (inside ++ [close]) ++ late) ∧
      token.IsBlock opening close ∧
      (∃ left ∈ opening :: (inside ++ [close]), ∃ right ∈ opening :: (inside ++ [close]),
        left.span.stop + Text.size body.text = right.span.start) ∧
      ∃ amount, ((source.inside body).tags.map (Tag.shift amount)).Sublist (inside ++ [close]) := by
  obtain ⟨early, opening, inside, close, late, split, isBlock, between⟩ := isBodyOf
  refine ⟨early, opening, inside, close, late, split, isBlock, ?_⟩
  obtain ⟨front, left, middle, right, back, cut, rfl⟩ := between
  have whole : source.tags = early ++ front ++ left :: (middle ++ right :: (back ++ late)) := by
    rw [split, cut]
    simp only [List.cons_append, List.append_assoc]
  obtain ⟨size, tags⟩ := tags_between whole
  refine ⟨⟨left, ?_, right, ?_, size⟩, left.span.stop, ?_⟩
  · rw [cut]
    exact List.mem_append_right front List.mem_cons_self
  · rw [cut]
    exact List.mem_append_right front (List.mem_cons_of_mem left
      (List.mem_append_right middle List.mem_cons_self))
  · have part : middle.Sublist (middle ++ right :: back) := List.sublist_append_left _ _
    rw [tags]
    cases front with
    | nil =>
      rw [(List.cons.inj cut).2]
      exact part
    | cons first front =>
      rw [(List.cons.inj cut).2]
      exact (part.cons left).trans (List.sublist_append_right front _)

/-- A body of a block is shorter than the text by the two tags of the block. -/
theorem size_add_le :
    ∃ opening ∈ source.tags, ∃ close ∈ source.tags, token.IsBlock opening close ∧
      Text.size body.text + opening.span.size + close.span.size ≤ Text.size source.text := by
  obtain ⟨early, opening, inside, close, late, split, isBlock,
    ⟨left, leftMember, right, rightMember, size⟩, -⟩ := isBodyOf.exists_reading
  have part : ∀ tag ∈ opening :: (inside ++ [close]), tag ∈ source.tags := by
    intro tag member
    rw [split]
    exact List.mem_append_right early (List.mem_append_left late member)
  have openingMember := part opening List.mem_cons_self
  have closeMember := part close
    (List.mem_cons_of_mem opening (List.mem_append_right inside (List.mem_singleton_self close)))
  refine ⟨opening, openingMember, close, closeMember, isBlock, ?_⟩
  have inOrder : Tag.InOrder (opening :: (inside ++ [close])) := by
    have all := source.tags_ordered
    rw [split] at all
    exact (Tag.InOrder.of_append all).left
  have behind := (inOrder.bounds left leftMember).1
  have before := (inOrder.bounds right rightMember).2
  have spans := source.hasSpans_tags.bounds
  have start := spans opening.span (List.mem_map_of_mem openingMember)
  have stop := spans close.span (List.mem_map_of_mem closeMember)
  simp only [Span.size]
  omega

/-- The opening tags of blocks in a body are those of the text around it, without the one of its
block. -/
theorem blockCount_lt : (source.inside body).blockCount < source.blockCount := by
  obtain ⟨early, opening, inside, close, late, split, isBlock, -, amount, part⟩ :=
    isBodyOf.exists_reading
  have moved : (source.inside body).blockCount =
      ((source.inside body).tags.map (Tag.shift amount)).countP Tag.opensBlock := by
    rw [List.countP_map]
    rfl
  have few : (source.inside body).blockCount ≤ (inside ++ [close]).countP Tag.opensBlock :=
    moved ▸ part.countP_le
  change (source.inside body).blockCount < source.tags.countP Tag.opensBlock
  rw [split]
  simp only [List.countP_append, List.countP_cons, List.countP_nil, isBlock.opensBlock,
    if_true] at few ⊢
  omega

end IsBodyOf
end Source
end Stencil
