import Stencil.Proofs.Block.Counting

/-!
# Passing over the tags of a block

A search passes over the tags up to the end of the block.  Among them the block is not closed once
more than it is opened, and the alternative that is found is the first tag of its kind where no
block is open.
-/

namespace Stencil
namespace Block

/-- The steps of a search over tags from a position on, none of which is the end of the block: what
is pending and where the alternative starts, before them and behind them. -/
inductive Passes (block : Block) :
    Nat → List Block → Option Located → List Tag → List Block → Option Located → Prop where
  | nil
    {position : Nat}
    {pending : List Block}
    {alternative? : Option Located} :
    Passes block position pending alternative? [] pending alternative?
  | cons
    {position : Nat}
    {tag : Tag}
    {tags : List Tag}
    {pending next last : List Block}
    {alternative? nextAlternative? lastAlternative? : Option Located}
    (advance : block.advance ⟨position, tag⟩ pending alternative? = some (next, nextAlternative?))
    (rest : Passes block (position + 1) next nextAlternative? tags last lastAlternative?) :
    Passes block position pending alternative? (tag :: tags) last lastAlternative?

/-- A search without an end passes over all tags. -/
theorem exists_passes_of_closingFrom_eq_none
    {block : Block}
    {position : Nat}
    {pending : List Block}
    {alternative? : Option Located}
    {tags : List Tag}
    (unclosed : block.closingFrom position pending alternative? tags = none) :
    ∃ last lastAlternative?,
      block.Passes position pending alternative? tags last lastAlternative? := by
  induction tags generalizing position pending alternative? with
  | nil => exact ⟨pending, alternative?, .nil⟩
  | cons tag tags inductionHypothesis =>
    rw [closingFrom_cons] at unclosed
    cases advance : block.advance ⟨position, tag⟩ pending alternative? with
    | none =>
      rw [advance] at unclosed
      exact nomatch unclosed
    | some state =>
      rw [advance] at unclosed
      obtain ⟨last, lastAlternative?, rest⟩ := inductionHypothesis unclosed
      exact ⟨last, lastAlternative?, .cons advance rest⟩

/-- A search with an end passes over the tags before it, and ends there with the alternative that it
has found. -/
theorem exists_passes_of_closingFrom_eq_some
    {block : Block}
    {position : Nat}
    {pending : List Block}
    {alternative? : Option Located}
    {tags : List Tag}
    {closing : Closing}
    (found : block.closingFrom position pending alternative? tags = some closing) :
    ∃ before after last, tags = before ++ closing.close.tag :: after ∧
      closing.close.position = position + before.length ∧
      block.Passes position pending alternative? before last closing.alternative? ∧
      closing.close.tag.closes block ∧ last.count block = 0 := by
  induction tags generalizing position pending alternative? with
  | nil => exact nomatch found
  | cons tag tags inductionHypothesis =>
    rw [closingFrom_cons] at found
    cases advance : block.advance ⟨position, tag⟩ pending alternative? with
    | none =>
      rw [advance] at found
      obtain rfl := Option.some.inj found
      exact ⟨[], tags, pending, rfl, rfl, .nil, advance_eq_none_iff.mp advance⟩
    | some state =>
      rw [advance] at found
      obtain ⟨before, after, last, rfl, place, rest, ends⟩ := inductionHypothesis found
      refine ⟨tag :: before, after, last, rfl, ?_, .cons advance rest, ends⟩
      rw [place, List.length_cons]
      omega

/-- Whether a tag behind others can start the alternative of a block: it stands where no block is
open, if so many blocks of each kind are open before the others. -/
structure Divides
    (block : Block)
    (counts : Block → Nat)
    (tags : List Tag)
    (tag : Tag) : Prop where
  allowed : block.hasAlternative
  kind_eq : tag.kind = .otherwise
  closed : ∀ inner : Block, inner.openAfter (counts inner) tags = 0

/-- Whether what is found among tags from a position on is the first one of them that can start the
alternative of a block, or nothing if there is none. -/
def IsFirstAlternative
    (block : Block)
    (counts : Block → Nat)
    (position : Nat)
    (tags : List Tag) : Option Located → Prop
  | none => ∀ early tag late, tags = early ++ tag :: late → ¬ block.Divides counts early tag
  | some found =>
    ∃ early late, tags = early ++ found.tag :: late ∧ found.position = position + early.length ∧
      block.Divides counts early found.tag ∧
      ∀ before tag after, early = before ++ tag :: after → ¬ block.Divides counts before tag

/-- Whether a tag can start the alternative decides whether the search takes it for its start. -/
theorem Advances.divides_or
    {block : Block}
    {located : Located}
    {pending pendingAfter : List Block}
    {alternativeAfter? : Option Located}
    (advances : block.Advances located pending none pendingAfter alternativeAfter?) :
    block.Divides (pending.count ·) [] located.tag ∧ alternativeAfter? = some located ∨
      ¬ block.Divides (pending.count ·) [] located.tag ∧ alternativeAfter? = none := by
  cases advances with
  | opening opens =>
    obtain ⟨arguments, kind⟩ := Tag.exists_kind_of_opens opens
    exact .inr ⟨fun divides => Tag.Kind.noConfusion (kind.symm.trans divides.kind_eq), rfl⟩
  | closing closes waiting =>
    have kind := Tag.closes_iff.mp closes
    exact .inr ⟨fun divides => Tag.Kind.noConfusion (kind.symm.trans divides.kind_eq), rfl⟩
  | dividing kind allowed => exact .inl ⟨⟨allowed, kind, fun _ => rfl⟩, rfl⟩
  | passing opensNone closesNone undivided =>
    refine .inr ⟨fun divides => undivided divides.kind_eq divides.allowed ?_ rfl, rfl⟩
    exact List.eq_nil_iff_forall_not_mem.mpr fun inner =>
      List.count_eq_zero.mp (divides.closed inner)

namespace IsFirstAlternative

variable
  {block : Block}
  {counts : Block → Nat}
  {position : Nat}
  {tag : Tag}
  {tags : List Tag}
  {found? : Option Located}

theorem nil : block.IsFirstAlternative counts position [] none :=
  fun _ _ _ split => nomatch (List.append_eq_nil_iff.mp split.symm).2

/-- A tag that can start the alternative is the first one. -/
theorem here
    (divides : block.Divides counts [] tag)
    (tags : List Tag) :
    block.IsFirstAlternative counts position (tag :: tags) (some ⟨position, tag⟩) :=
  ⟨[], tags, rfl, rfl, divides, @nil block counts position⟩

/-- A tag that cannot start the alternative changes what is open for the tags behind it. -/
theorem later
    (undivided : ¬ block.Divides counts [] tag)
    (first : block.IsFirstAlternative (fun inner => inner.openBehind (counts inner) tag)
      (position + 1) tags found?) :
    block.IsFirstAlternative counts position (tag :: tags) found? := by
  have notBefore {tags : List Tag}
      (none : ∀ early other late, tags = early ++ other :: late →
        ¬ block.Divides (fun inner => inner.openBehind (counts inner) tag) early other) :
      ∀ early other late, tag :: tags = early ++ other :: late →
        ¬ block.Divides counts early other := by
    rintro (_ | ⟨head, early⟩) other late split divides
    · obtain ⟨rfl, -⟩ := List.cons.inj split
      exact undivided divides
    · obtain ⟨rfl, rest⟩ := List.cons.inj split
      exact none early other late rest ⟨divides.allowed, divides.kind_eq, divides.closed⟩
  cases found? with
  | none => exact notBefore first
  | some found =>
    obtain ⟨early, late, rfl, place, divides, none⟩ := first
    refine ⟨tag :: early, late, rfl, ?_, ⟨divides.allowed, divides.kind_eq, divides.closed⟩,
      notBefore none⟩
    rw [place, List.length_cons]
    omega

end IsFirstAlternative

namespace Passes

variable
  {block : Block}
  {position : Nat}
  {pending last : List Block}
  {alternative? lastAlternative? : Option Located}
  {tags : List Tag}

/-- Passing over tags, the search keeps up with the surplus. -/
theorem surplus_append_iff
    (passes : block.Passes position pending alternative? tags last lastAlternative?)
    (more : List Tag) :
    Surplus block (tags ++ more) (pending.count block + 1) ↔
      Surplus block more (last.count block + 1) := by
  induction passes with
  | nil => rfl
  | cons advance rest inductionHypothesis =>
    rw [List.cons_append, surplus_cons_of_advance advance]
    exact inductionHypothesis

/-- The block is not closed among the tags that the search passes over. -/
theorem not_surplus
    (passes : block.Passes position pending alternative? tags last lastAlternative?)
    {front : List Tag}
    (isFront : front <+: tags) : ¬ Surplus block front (pending.count block + 1) := by
  induction passes generalizing front with
  | nil =>
    rw [List.prefix_nil.mp isFront]
    exact not_surplus_nil block _
  | cons advance rest inductionHypothesis =>
    rcases List.prefix_cons_iff.mp isFront with rfl | ⟨shorter, rfl, isShorter⟩
    · exact not_surplus_nil block _
    · rw [surplus_cons_of_advance advance]
      exact inductionHypothesis isShorter

/-- The alternative stays where it was found. -/
theorem alternative_eq
    (passes : block.Passes position pending alternative? tags last lastAlternative?)
    {alternative : Located}
    (given : alternative? = some alternative) : lastAlternative? = some alternative := by
  induction passes with
  | nil => exact given
  | cons advance rest inductionHypothesis =>
    apply inductionHypothesis
    rcases block.alternative?_of_advance advance with same | ⟨absent, -⟩
    · exact same.trans given
    · exact nomatch given.symm.trans absent

/-- The alternative that is found is the first one where no block is open. -/
theorem isFirstAlternative
    (passes : block.Passes position pending alternative? tags last lastAlternative?)
    (absent : alternative? = none) :
    block.IsFirstAlternative (pending.count ·) position tags lastAlternative? := by
  induction passes with
  | nil =>
    rw [absent]
    exact .nil
  | cons advance rest inductionHypothesis =>
    subst absent
    have advances := advances_of_advance advance
    rcases advances.divides_or with ⟨divides, found⟩ | ⟨undivided, none⟩
    · rw [rest.alternative_eq found]
      exact .here divides _
    · refine .later undivided ?_
      simp only [← advances.count_eq]
      exact inductionHypothesis none

end Passes

/-- To bring the number of open blocks down to none, so many of them have to be closed. -/
theorem exists_surplus_of_openAfter
    {block : Block}
    {count excess : Nat}
    {tags : List Tag}
    (closed : block.openAfter count tags = 0)
    (fewer : excess < count) : ∃ front, front <+: tags ∧ Surplus block front (excess + 1) := by
  induction tags generalizing count excess with
  | nil =>
    have none : count = 0 := closed
    omega
  | cons tag tags inductionHypothesis =>
    change block.openAfter (block.openBehind count tag) tags = 0 at closed
    -- The tag may close the last one of the blocks that have to be closed.
    by_cases last : tag.closes block ∧ excess = 0
    · obtain ⟨closes, rfl⟩ := last
      exact ⟨[tag], List.cons_prefix_cons.mpr ⟨rfl, List.nil_prefix⟩, surplus_singleton closes⟩
    · obtain ⟨front, isFront, surplus⟩ :=
        inductionHypothesis closed (openBehind_lt_openBehind last fewer)
      exact ⟨tag :: front, List.cons_prefix_cons.mpr ⟨rfl, isFront⟩,
        (surplus_cons_iff last front).mpr surplus⟩

/-- A block is closed at the latest where it is closed once more than it is opened. -/
theorem exists_closing?_of_surplus
    {block : Block}
    {tags front : List Tag}
    (isFront : front <+: tags)
    (surplus : Surplus block front 1) :
    ∃ closing, block.closing? tags = some closing ∧ closing.close.position < front.length := by
  cases found : block.closing? tags with
  | none =>
    obtain ⟨last, lastAlternative?, passes⟩ := exists_passes_of_closingFrom_eq_none found
    exact absurd surplus (passes.not_surplus isFront)
  | some closing =>
    refine ⟨closing, rfl, ?_⟩
    obtain ⟨before, after, last, rfl, place, passes, -⟩ :=
      exists_passes_of_closingFrom_eq_some found
    rw [place, Nat.zero_add]
    refine Nat.lt_of_not_le fun long => passes.not_surplus ?_ surplus
    exact List.prefix_of_prefix_length_le isFront (List.prefix_append _ _) long

end Block
end Stencil
