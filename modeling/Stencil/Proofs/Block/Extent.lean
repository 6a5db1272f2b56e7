import Stencil.Block.Pairing
import Stencil.Proofs.Tag.Locality

/-!
# How far a block reaches

The search for the end of a block goes from tag to tag and knows only what is pending and where the
alternative starts.  So nothing after the end matters to it: a list of tags that goes on has the
same end, and one that is cut short before the end has none.
-/

namespace Stencil
namespace Block

theorem name_eq_of_ofName?
    {name : Text}
    {block : Block}
    (known : ofName? name = some block) : block.name = name := by
  simpa using List.find?_some known

/-- What is pending and where the alternative starts after one more tag, unless the tag is the end
of the block. -/
def advance
    (block : Block)
    (located : Located)
    (pending : List Block)
    (alternative? : Option Located) : Option (List Block × Option Located) :=
  match located.tag.kind with
  | .opening name _ =>
    match ofName? name with
    | some inner => some (inner :: pending, alternative?)
    | none => some (pending, alternative?)
  | .closing name =>
    match ofName? name with
    | some inner =>
      if inner ∈ pending then
        some (pending.erase inner, alternative?)
      else if inner = block then
        none
      else
        some (pending, alternative?)
    | none => some (pending, alternative?)
  | .otherwise =>
    if pending.isEmpty && alternative?.isNone && block.hasAlternative then
      some (pending, some located)
    else
      some (pending, alternative?)
  | .expression _ => some (pending, alternative?)

/-- A tag in a list, moved to the right in the text. -/
def Located.shift (amount : Nat) (located : Located) : Located :=
  { located with tag := located.tag.shift amount }

/-- The end of a block, moved to the right in the text. -/
def Closing.shift (amount : Nat) (closing : Closing) : Closing :=
  ⟨closing.alternative?.map (Located.shift amount), closing.close.shift amount⟩

variable
  (block : Block)
  (position : Nat)
  (pending : List Block)
  (alternative? : Option Located)

/-- The search takes one step at each tag. -/
theorem closingFrom_cons (tag : Tag) (tags : List Tag) :
    block.closingFrom position pending alternative? (tag :: tags) =
      match block.advance ⟨position, tag⟩ pending alternative? with
      | none => some ⟨alternative?, ⟨position, tag⟩⟩
      | some (pending, alternative?) =>
        block.closingFrom (position + 1) pending alternative? tags := by
  rw [closingFrom, advance]
  cases tag.kind with
  | opening name arguments =>
    dsimp only
    cases ofName? name <;> rfl
  | closing name =>
    dsimp only
    cases ofName? name with
    | none => rfl
    | some inner =>
      dsimp only
      by_cases waiting : inner ∈ pending
      · rw [if_pos waiting, if_pos waiting]
      · rw [if_neg waiting, if_neg waiting]
        split <;> rfl
  | otherwise =>
    dsimp only
    split <;> rfl
  | expression words => rfl

/-- An alternative stays where it is once it is found. -/
theorem alternative?_of_advance
    {located : Located}
    {pending pendingAfter : List Block}
    {alternative? alternativeAfter? : Option Located}
    (advances : block.advance located pending alternative? =
      some (pendingAfter, alternativeAfter?)) :
    alternativeAfter? = alternative? ∨
      alternative? = none ∧ alternativeAfter? = some located := by
  unfold advance at advances
  split at advances
  · split at advances <;> simp_all
  · split at advances
    · split at advances
      · simp_all
      · split at advances <;> simp_all
    · simp_all
  · split at advances <;> simp_all
  · simp_all

/-- The search ends at a closing tag of the block's name only. -/
theorem kind_of_advance_eq_none
    {located : Located}
    {pending : List Block}
    {alternative? : Option Located}
    (ends : block.advance located pending alternative? = none) :
    located.tag.kind = .closing block.name := by
  unfold advance at ends
  split at ends
  · split at ends <;> exact nomatch ends
  · next name kind =>
    split at ends
    · next inner known =>
      split at ends
      · exact nomatch ends
      · split at ends
        · next same => rw [kind, ← name_eq_of_ofName? known, same]
        · exact nomatch ends
    · exact nomatch ends
  · split at ends <;> exact nomatch ends
  · exact nomatch ends

theorem kind_of_closingFrom
    {position : Nat}
    {pending : List Block}
    {alternative? : Option Located}
    {tags : List Tag}
    {closing : Closing}
    (found : block.closingFrom position pending alternative? tags = some closing) :
    closing.close.tag.kind = .closing block.name := by
  induction tags generalizing position pending alternative? with
  | nil => exact nomatch found
  | cons tag tags inductionHypothesis =>
    rw [closingFrom_cons] at found
    cases advances : block.advance ⟨position, tag⟩ pending alternative? with
    | none =>
      rw [advances] at found
      obtain rfl := Option.some.inj found
      exact block.kind_of_advance_eq_none advances
    | some state =>
      rw [advances] at found
      exact inductionHypothesis found

/-- The end of a block and the start of its alternative are tags of the list, in this order. -/
theorem exists_split_of_closingFrom
    {position : Nat}
    {pending : List Block}
    {alternative? : Option Located}
    {tags : List Tag}
    {closing : Closing}
    (found : block.closingFrom position pending alternative? tags = some closing) :
    ∃ before after, tags = before ++ closing.close.tag :: after ∧
      closing.close.position = position + before.length ∧
      (closing.alternative? = alternative? ∨
        ∃ early alternative late, before = early ++ alternative.tag :: late ∧
          closing.alternative? = some alternative) := by
  induction tags generalizing position pending alternative? with
  | nil => exact absurd found.symm (Option.some_ne_none closing)
  | cons tag tags inductionHypothesis =>
    rw [closingFrom_cons] at found
    cases advances : block.advance ⟨position, tag⟩ pending alternative? with
    | none =>
      rw [advances] at found
      obtain rfl := Option.some.inj found
      exact ⟨[], tags, rfl, rfl, .inl rfl⟩
    | some state =>
      obtain ⟨pendingAfter, alternativeAfter?⟩ := state
      rw [advances] at found
      obtain ⟨before, after, split, place, alternative⟩ := inductionHypothesis found
      refine ⟨tag :: before, after, by rw [split, List.cons_append], ?_, ?_⟩
      · rw [place, List.length_cons]
        omega
      · rcases alternative with same | ⟨early, found, late, inside, located⟩
        · rcases block.alternative?_of_advance advances with unchanged | ⟨-, here⟩
          · exact .inl (same.trans unchanged)
          · exact .inr ⟨[], ⟨position, tag⟩, before, rfl, same.trans here⟩
        · exact .inr ⟨tag :: early, found, late, by rw [inside, List.cons_append], located⟩

/-- The end of a block that is found stays the same when the list of tags goes on. -/
theorem closingFrom_append_of_some
    {position : Nat}
    {pending : List Block}
    {alternative? : Option Located}
    {front : List Tag}
    {closing : Closing}
    (found : block.closingFrom position pending alternative? front = some closing)
    (back : List Tag) :
    block.closingFrom position pending alternative? (front ++ back) = some closing := by
  induction front generalizing position pending alternative? with
  | nil => exact absurd found.symm (Option.some_ne_none closing)
  | cons tag front inductionHypothesis =>
    rw [closingFrom_cons] at found
    rw [List.cons_append, closingFrom_cons]
    cases advances : block.advance ⟨position, tag⟩ pending alternative? with
    | none => rwa [advances] at found
    | some state =>
      rw [advances] at found
      exact inductionHypothesis found

/-- The end of a block that is not found at first is among the tags that are added. -/
theorem closingFrom_append_of_none
    {position : Nat}
    {pending : List Block}
    {alternative? : Option Located}
    {front back : List Tag}
    {closing : Closing}
    (absent : block.closingFrom position pending alternative? front = none)
    (found : block.closingFrom position pending alternative? (front ++ back) = some closing) :
    closing.close.tag ∈ back := by
  induction front generalizing position pending alternative? with
  | nil =>
    obtain ⟨before, after, split, -⟩ := block.exists_split_of_closingFrom found
    rw [List.nil_append] at split
    rw [split]
    exact List.mem_append_right before List.mem_cons_self
  | cons tag front inductionHypothesis =>
    rw [closingFrom_cons] at absent
    rw [List.cons_append, closingFrom_cons] at found
    cases advances : block.advance ⟨position, tag⟩ pending alternative? with
    | none =>
      rw [advances] at absent
      exact absurd absent (Option.some_ne_none _)
    | some state =>
      rw [advances] at absent found
      exact inductionHypothesis absent found

/-- Where the tags stand in the text does not matter to the search. -/
theorem advance_shift (amount : Nat) (located : Located) :
    block.advance (located.shift amount) pending (alternative?.map (Located.shift amount)) =
      (block.advance located pending alternative?).map fun (pending, alternative?) =>
        (pending, alternative?.map (Located.shift amount)) := by
  unfold advance
  rw [Located.shift, Tag.shift_kind]
  cases located.tag.kind with
  | opening name arguments =>
    dsimp only
    cases ofName? name <;> rfl
  | closing name =>
    dsimp only
    cases ofName? name with
    | none => rfl
    | some inner =>
      dsimp only
      split
      · rfl
      · split <;> rfl
  | otherwise =>
    dsimp only
    rw [Option.isNone_map]
    split <;> rfl
  | expression words => rfl

theorem closingFrom_map_shift (amount : Nat) (tags : List Tag) :
    block.closingFrom position pending (alternative?.map (Located.shift amount))
        (tags.map (Tag.shift amount)) =
      (block.closingFrom position pending alternative? tags).map (Closing.shift amount) := by
  induction tags generalizing position pending alternative? with
  | nil => rfl
  | cons tag tags inductionHypothesis =>
    rw [List.map_cons, closingFrom_cons, closingFrom_cons]
    have step := block.advance_shift pending alternative? amount ⟨position, tag⟩
    rw [Located.shift] at step
    rw [step]
    cases block.advance ⟨position, tag⟩ pending alternative? with
    | none => rfl
    | some state => exact inductionHypothesis (position + 1) state.1 state.2

end Block
end Stencil
