import Mathlib.Order.Bounds.Defs
import Stencil.Proofs.Block.Passage

/-!
# Pairing as balanced matching

The search for the end of a block is balanced matching by kind.  A block ends at the first tag up to
which its kind is closed once more than it is opened, whatever other tags lie between.  Its
alternative starts at the first place before that where no block of any kind is open, and every
block that is opened before this place is closed before it.
-/

namespace Stencil
namespace Block

/-- The tags that stand between two positions of a list. -/
def between (tags : List Tag) (start stop : Nat) : List Tag :=
  (tags.drop (start + 1)).take (stop - (start + 1))

/-- Whether a block that is opened at a position can end at another one: behind the opening tag, up
to and with the tag at the end, its kind is closed once more than it is opened. -/
def CanEnd (block : Block) (tags : List Tag) (start stop : Nat) : Prop :=
  start < stop ∧ stop < tags.length ∧ Surplus block (between tags start (stop + 1)) 1

/-- Whether the alternative of a block that is opened at a position can start at another one: there
is a tag for it, and every block that is opened between the two is closed between them. -/
def CanDivide (block : Block) (tags : List Tag) (start place : Nat) : Prop :=
  start < place ∧ ∃ tag, tags[place]? = some tag ∧
    block.Divides (fun _ => 0) (between tags start place) tag

section Positions

variable {tags front behind rest back : List Tag} {tag : Tag} {start place : Nat}

/-- A tag before the end of a beginning divides the beginning as it divides the whole. -/
theorem exists_split_of_length_lt
    (split : front ++ back = behind ++ tag :: rest)
    (short : behind.length < front.length) : ∃ late, front = behind ++ tag :: late := by
  rcases List.append_eq_append_iff.mp split with ⟨middle, rfl, -⟩ | ⟨middle, rfl, remaining⟩
  · rw [List.length_append] at short
    omega
  · cases middle with
    | nil =>
      rw [List.append_nil] at short
      omega
    | cons first middle =>
      obtain ⟨rfl, -⟩ := List.cons.inj remaining
      exact ⟨middle, rfl⟩

theorem getElem?_of_split
    (split : tags.drop (start + 1) = front ++ tag :: back) :
    tags[start + 1 + front.length]? = some tag := by
  rw [← List.getElem?_drop, split, List.getElem?_append_right (Nat.le_refl _), Nat.sub_self]
  rfl

theorem exists_split_of_getElem?
    (behind : start < place)
    (here : tags[place]? = some tag) :
    ∃ front back, tags.drop (start + 1) = front ++ tag :: back ∧
      place = start + 1 + front.length := by
  have inset : start + 1 + (place - (start + 1)) = place := by omega
  have member : (tags.drop (start + 1))[place - (start + 1)]? = some tag := by
    rwa [List.getElem?_drop, inset]
  obtain ⟨bound, isTag⟩ := List.getElem?_eq_some_iff.mp member
  refine ⟨(tags.drop (start + 1)).take (place - (start + 1)),
    (tags.drop (start + 1)).drop (place - (start + 1) + 1), ?_, ?_⟩
  · rw [← isTag, List.getElem_cons_drop, List.take_append_drop]
  · rw [List.length_take, Nat.min_eq_left (Nat.le_of_lt bound), inset]

theorem between_of_split
    (split : tags.drop (start + 1) = front ++ back)
    (inset : place = start + 1 + front.length) : between tags start place = front := by
  rw [between, split, inset, Nat.add_sub_cancel_left, List.take_left]

variable {block : Block}

theorem canEnd_iff :
    block.CanEnd tags start place ↔
      ∃ front tag back, tags.drop (start + 1) = front ++ tag :: back ∧
        place = start + 1 + front.length ∧ Surplus block (front ++ [tag]) 1 := by
  constructor
  · rintro ⟨after, bound, surplus⟩
    obtain ⟨front, back, split, inset⟩ :=
      exists_split_of_getElem? after (List.getElem?_eq_getElem bound)
    refine ⟨front, _, back, split, inset, ?_⟩
    rw [List.append_cons] at split
    rwa [between_of_split split (by simp only [inset, List.length_append,
      List.length_singleton, Nat.add_assoc])] at surplus
  · rintro ⟨front, tag, back, split, rfl, surplus⟩
    refine ⟨by omega, (List.getElem?_eq_some_iff.mp (getElem?_of_split split)).1, ?_⟩
    rw [List.append_cons] at split
    rwa [between_of_split split (by simp only [List.length_append, List.length_singleton,
      Nat.add_assoc])]

theorem canDivide_iff :
    block.CanDivide tags start place ↔
      ∃ front tag back, tags.drop (start + 1) = front ++ tag :: back ∧
        place = start + 1 + front.length ∧ block.Divides (fun _ => 0) front tag := by
  constructor
  · rintro ⟨after, tag, here, divides⟩
    obtain ⟨front, back, split, inset⟩ := exists_split_of_getElem? after here
    rw [between_of_split split inset] at divides
    exact ⟨front, tag, back, split, inset, divides⟩
  · rintro ⟨front, tag, back, split, inset, divides⟩
    refine ⟨by omega, tag, inset ▸ getElem?_of_split split, ?_⟩
    rwa [between_of_split split inset]

end Positions

/-- A block ends at the first position where it can end. -/
theorem isLeast_of_closing?
    {block : Block}
    {tags : List Tag}
    {start : Nat}
    {closing : Closing}
    (found : block.closing? (tags.drop (start + 1)) = some closing) :
    let stop := start + 1 + closing.close.position
    IsLeast {stop | block.CanEnd tags start stop} stop ∧
      tags[stop]? = some closing.close.tag := by
  intro stop
  obtain ⟨front, back, last, split, place, passes, closes, none⟩ :=
    exists_passes_of_closingFrom_eq_some found
  rw [Nat.zero_add] at place
  have inset : stop = start + 1 + front.length := by rw [← place]
  rw [inset]
  refine ⟨⟨?_, ?_⟩, getElem?_of_split split⟩
  · refine canEnd_iff.mpr ⟨front, closing.close.tag, back, split, rfl, ?_⟩
    refine (passes.surplus_append_iff [closing.close.tag]).mpr ?_
    rw [none]
    exact surplus_singleton closes
  · intro stop ends
    obtain ⟨other, tag, behind, splitOther, rfl, surplus⟩ := canEnd_iff.mp ends
    refine Nat.add_le_add_left (Nat.le_of_not_lt fun short => ?_) (start + 1)
    obtain ⟨late, inside⟩ := exists_split_of_length_lt (split.symm.trans splitOther) short
    refine passes.not_surplus ⟨late, ?_⟩ surplus
    rw [inside, List.append_assoc, List.singleton_append]

theorem closing?_eq_none_iff {block : Block} {tags : List Tag} {start : Nat} :
    block.closing? (tags.drop (start + 1)) = none ↔ ∀ stop, ¬ block.CanEnd tags start stop := by
  constructor
  · intro unclosed stop ends
    obtain ⟨front, tag, back, split, -, surplus⟩ := canEnd_iff.mp ends
    obtain ⟨last, lastAlternative?, passes⟩ := exists_passes_of_closingFrom_eq_none unclosed
    refine passes.not_surplus ⟨back, ?_⟩ surplus
    rw [split, List.append_assoc, List.singleton_append]
  · intro never
    refine Option.eq_none_iff_forall_ne_some.mpr fun closing found => ?_
    exact never _ (isLeast_of_closing? found).1.1

/-- The alternative of a block starts at the first position where it can start, before the end of
the block. -/
theorem isLeast_alternative_of_closing?
    {block : Block}
    {tags : List Tag}
    {start : Nat}
    {closing : Closing}
    (found : block.closing? (tags.drop (start + 1)) = some closing) :
    let stop := start + 1 + closing.close.position
    match closing.alternative? with
    | none => ∀ place < stop, ¬ block.CanDivide tags start place
    | some alternative =>
      let place := start + 1 + alternative.position
      IsLeast {place | place < stop ∧ block.CanDivide tags start place} place ∧
        tags[place]? = some alternative.tag := by
  intro stop
  obtain ⟨front, back, last, split, place, passes, -⟩ :=
    exists_passes_of_closingFrom_eq_some found
  rw [Nat.zero_add] at place
  have first := passes.isFirstAlternative rfl
  have inside {other behind : List Tag} {tag : Tag}
      (splitOther : tags.drop (start + 1) = other ++ tag :: behind)
      (before : start + 1 + other.length < stop) : ∃ late, front = other ++ tag :: late := by
    apply exists_split_of_length_lt (split.symm.trans splitOther)
    omega
  cases started : closing.alternative? with
  | none =>
    rw [started] at first
    intro place before divides
    obtain ⟨other, tag, behind, splitOther, rfl, dividesOther⟩ := canDivide_iff.mp divides
    obtain ⟨late, within⟩ := inside splitOther before
    exact first other tag late within dividesOther
  | some alternative =>
    rw [started] at first
    obtain ⟨early, late, rfl, inset, divides, earliest⟩ := first
    rw [List.append_assoc, List.cons_append] at split
    rw [List.length_append, List.length_cons] at place
    dsimp only
    rw [inset, Nat.zero_add]
    refine ⟨⟨⟨by omega, ?_⟩, ?_⟩, getElem?_of_split split⟩
    · exact canDivide_iff.mpr ⟨early, alternative.tag, _, split, rfl, divides⟩
    · rintro place ⟨before, canDivide⟩
      obtain ⟨other, tag, behind, splitOther, rfl, dividesOther⟩ := canDivide_iff.mp canDivide
      obtain ⟨rest, within⟩ := inside splitOther before
      refine Nat.add_le_add_left (Nat.le_of_not_lt fun short => ?_) (start + 1)
      obtain ⟨middle, inEarly⟩ := exists_split_of_length_lt within short
      exact earliest other tag middle inEarly dividesOther

/-- A block that is opened before the alternative of another block ends before it. -/
theorem exists_closing?_of_canDivide
    {block inner : Block}
    {tags : List Tag}
    {start position place : Nat}
    {tag : Tag}
    (canDivide : block.CanDivide tags start place)
    (behind : start < position)
    (before : position < place)
    (here : tags[position]? = some tag)
    (opens : tag.opens inner) :
    ∃ closing, inner.closing? (tags.drop (position + 1)) = some closing ∧
      position + 1 + closing.close.position < place := by
  obtain ⟨front, alternative, back, split, rfl, divides⟩ := canDivide_iff.mp canDivide
  obtain ⟨early, rest, splitInner, rfl⟩ := exists_split_of_getElem? behind here
  obtain ⟨late, rfl⟩ := exists_split_of_length_lt (split.symm.trans splitInner) (by omega)
  have remaining : tags.drop (start + 1 + early.length + 1) = late ++ alternative :: back := by
    rw [Nat.add_assoc, ← List.drop_drop, split, List.append_assoc, List.drop_length_add_append]
    rfl
  -- The opening tag leaves at least one block open, which the tags up to the alternative close.
  have closed := divides.closed inner
  rw [openAfter, List.foldl_append, List.foldl_cons, openBehind, opens, if_pos rfl] at closed
  obtain ⟨shorter, isFront, surplus⟩ := exists_surplus_of_openAfter closed (Nat.succ_pos _)
  rw [remaining]
  obtain ⟨closing, found, short⟩ :=
    exists_closing?_of_surplus (isFront.trans (List.prefix_append late _)) surplus
  refine ⟨closing, found, ?_⟩
  have := isFront.length_le
  rw [List.length_append, List.length_cons]
  omega

/-- The search for the end of a block is balanced matching by kind.  Behind a tag of a list, a block
ends at the first position where its kind has been closed once more than it has been opened, and has
no end if there is no such position.  A loop has no alternative; the alternative of another block
starts at the first position before its end where every block that was opened is closed again, and
the search for the ends of those blocks finds them before this position. -/
theorem closing?_isMatching (block : Block) (tags : List Tag) (start : Nat) :
    (block.closing? (tags.drop (start + 1)) = none ↔ ∀ stop, ¬ block.CanEnd tags start stop) ∧
      ∀ closing, block.closing? (tags.drop (start + 1)) = some closing →
        let stop := start + 1 + closing.close.position
        IsLeast {stop | block.CanEnd tags start stop} stop ∧
        tags[stop]? = some closing.close.tag ∧
        (block = .forEach → closing.alternative? = none) ∧
        (closing.alternative? = none ↔ ∀ place < stop, ¬ block.CanDivide tags start place) ∧
        ∀ alternative ∈ closing.alternative?,
          let place := start + 1 + alternative.position
          IsLeast {place | place < stop ∧ block.CanDivide tags start place} place ∧
          tags[place]? = some alternative.tag ∧
          ∀ (position : Nat) (tag : Tag) (inner : Block), start < position → position < place →
            tags[position]? = some tag → tag.opens inner →
              ∃ innerClosing, inner.closing? (tags.drop (position + 1)) = some innerClosing ∧
                position + 1 + innerClosing.close.position < place := by
  refine ⟨closing?_eq_none_iff, fun closing found => ?_⟩
  have ends := isLeast_of_closing? found
  have divides := isLeast_alternative_of_closing? found
  intro stop
  cases started : closing.alternative? with
  | none =>
    rw [started] at divides
    refine ⟨ends.1, ends.2, fun _ => rfl, iff_of_true rfl divides, fun _ none => nomatch none⟩
  | some alternative =>
    rw [started] at divides
    obtain ⟨first, here⟩ := divides
    refine ⟨ends.1, ends.2, ?_, ?_, ?_⟩
    · rintro rfl
      obtain ⟨-, -, tag, -, impossible⟩ := first.1
      exact nomatch impossible.allowed
    · refine iff_of_false (Option.some_ne_none _) fun never => ?_
      exact never _ first.1.1 first.1.2
    · rintro _ ⟨⟩
      refine ⟨first, here, fun position tag inner behind before isTag opens => ?_⟩
      exact exists_closing?_of_canDivide first.1.2 behind before isTag opens

/-- Among interleaved blocks, a condition that is opened first ends at the last tag.  Its
alternative starts behind the end of the denial inside. -/
theorem closing?_isMatching_interleaved :
    let tag (kind : Tag.Kind) : Tag := ⟨kind, ⟨0, 0⟩⟩
    let tags :=
      [tag (.opening whenTrue.name []), tag (.opening whenFalse.name []),
        tag (.opening whenTrue.name []), tag (.closing whenFalse.name),
        tag (.closing whenTrue.name), tag .otherwise, tag (.closing forEach.name),
        tag (.closing whenTrue.name)]
    IsLeast {stop | whenTrue.CanEnd tags 0 stop} 7 ∧
      IsLeast {place | place < 7 ∧ whenTrue.CanDivide tags 0 place} 5 ∧
      ∃ closing, whenFalse.closing? (tags.drop 2) = some closing ∧
        2 + closing.close.position < 5 := by
  intro tag tags
  obtain ⟨ends, -, -, -, divides⟩ := (closing?_isMatching whenTrue tags 0).2
    ⟨some ⟨4, tag .otherwise⟩, ⟨6, tag (.closing whenTrue.name)⟩⟩ (by decide)
  obtain ⟨first, -, inner⟩ := divides ⟨4, tag .otherwise⟩ rfl
  exact ⟨ends, first,
    inner 1 (tag (.opening whenFalse.name [])) whenFalse (by decide) (by decide) rfl (by decide)⟩

end Block
end Stencil
