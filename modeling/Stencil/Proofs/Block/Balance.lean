import Stencil.Proofs.Block.Extent

/-!
# Balanced tags

In a balanced list of tags every block that is opened is closed, and every alternative belongs to a
block of the list.  The search for the end of a block passes over such a list.
-/

namespace Stencil
namespace Block

/-- The lists of tags in which every block is closed and no alternative stands outside a block. -/
inductive Balanced : List Tag → Prop where
  | nil : Balanced []
  | expression (words : List Text) (span : Span) : Balanced [⟨.expression words, span⟩]
  | append
    {left right : List Tag}
    (leftBalanced : Balanced left)
    (rightBalanced : Balanced right) : Balanced (left ++ right)
  | block
    (block : Block)
    (words : List Text)
    (opening closing : Span)
    {body : List Tag}
    (bodyBalanced : Balanced body) :
    Balanced (⟨.opening block.name words, opening⟩ :: (body ++ [⟨.closing block.name, closing⟩]))
  | choice
    (block : Block)
    (words : List Text)
    (opening otherwise closing : Span)
    {body alternative : List Tag}
    (bodyBalanced : Balanced body)
    (alternativeBalanced : Balanced alternative) :
    Balanced (⟨.opening block.name words, opening⟩ ::
      (body ++ ⟨.otherwise, otherwise⟩ :: (alternative ++ [⟨.closing block.name, closing⟩])))

@[simp] theorem ofName?_name (block : Block) : ofName? block.name = some block := by
  cases block <;> decide

variable
  (block : Block)
  (position : Nat)
  (pending : List Block)
  (alternative? : Option Located)

/-- An opening tag makes its block pending. -/
theorem closingFrom_opening (inner : Block) (words : List Text) (span : Span) (tags : List Tag) :
    block.closingFrom position pending alternative? (⟨.opening inner.name words, span⟩ :: tags) =
      block.closingFrom (position + 1) (inner :: pending) alternative? tags := by
  rw [closingFrom_cons, advance]
  simp only [ofName?_name]

/-- A closing tag ends a pending block. -/
theorem closingFrom_closing (inner : Block) (span : Span) (tags : List Tag) :
    block.closingFrom position (inner :: pending) alternative?
        (⟨.closing inner.name, span⟩ :: tags) =
      block.closingFrom (position + 1) pending alternative? tags := by
  rw [closingFrom_cons, advance]
  simp only [ofName?_name, List.mem_cons_self, if_true, List.erase_cons_head]

/-- The alternative of a pending block is passed over. -/
theorem closingFrom_otherwise (inner : Block) (span : Span) (tags : List Tag) :
    block.closingFrom position (inner :: pending) alternative? (⟨.otherwise, span⟩ :: tags) =
      block.closingFrom (position + 1) (inner :: pending) alternative? tags := by
  rw [closingFrom_cons, advance]
  rfl

/-- The search for the end of a block passes over a balanced list of tags. -/
theorem closingFrom_append_of_balanced
    {tags : List Tag}
    (balanced : Balanced tags)
    (rest : List Tag) :
    block.closingFrom position pending alternative? (tags ++ rest) =
      block.closingFrom (position + tags.length) pending alternative? rest := by
  -- A block inside stands on the pending ones while its body is passed over, so the hypotheses hold
  -- for any pending blocks.
  induction balanced generalizing position pending rest with
  | nil => rfl
  | expression words span => rfl
  | append leftBalanced rightBalanced leftHypothesis rightHypothesis =>
    rw [List.append_assoc, leftHypothesis, rightHypothesis, List.length_append, Nat.add_assoc]
  | block inner words opening closing bodyBalanced bodyHypothesis =>
    rw [List.cons_append, List.append_assoc, closingFrom_opening, bodyHypothesis,
      List.singleton_append, closingFrom_closing]
    congr 1
    simp only [List.length_cons, List.length_append, List.length_nil]
    omega
  | choice inner words opening otherwise closing bodyBalanced alternativeBalanced bodyHypothesis
      alternativeHypothesis =>
    rw [List.cons_append, List.append_assoc, closingFrom_opening, bodyHypothesis,
      List.cons_append, closingFrom_otherwise, List.append_assoc, alternativeHypothesis,
      List.singleton_append, closingFrom_closing]
    congr 1
    simp only [List.length_cons, List.length_append, List.length_nil]
    omega

/-- A block without an alternative ends behind its balanced body. -/
theorem closing?_of_balanced
    {body : List Tag}
    (balanced : Balanced body)
    (span : Span)
    (rest : List Tag) :
    block.closing? (body ++ ⟨.closing block.name, span⟩ :: rest) =
      some ⟨none, ⟨body.length, ⟨.closing block.name, span⟩⟩⟩ := by
  rw [closing?, closingFrom_append_of_balanced _ _ _ _ balanced, Nat.zero_add, closingFrom_cons,
    advance]
  simp only [ofName?_name, List.not_mem_nil, if_false, if_true]

/-- A block with an alternative has it between two balanced bodies and ends behind the second. -/
theorem closing?_of_balanced_choice
    (allowed : block.hasAlternative)
    {body alternative : List Tag}
    (bodyBalanced : Balanced body)
    (alternativeBalanced : Balanced alternative)
    (otherwise span : Span)
    (rest : List Tag) :
    block.closing?
        (body ++ ⟨.otherwise, otherwise⟩ :: (alternative ++ ⟨.closing block.name, span⟩ :: rest)) =
      some ⟨some ⟨body.length, ⟨.otherwise, otherwise⟩⟩,
        ⟨body.length + 1 + alternative.length, ⟨.closing block.name, span⟩⟩⟩ := by
  rw [closing?, closingFrom_append_of_balanced _ _ _ _ bodyBalanced, Nat.zero_add,
    closingFrom_cons, advance]
  simp only [List.isEmpty_nil, Option.isNone_none, allowed, Bool.and_self, if_true]
  rw [closingFrom_append_of_balanced _ _ _ _ alternativeBalanced, closingFrom_cons, advance]
  simp only [ofName?_name, List.not_mem_nil, if_false, if_true]

end Block
end Stencil
