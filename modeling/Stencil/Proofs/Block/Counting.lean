import Stencil.Proofs.Block.Balance

/-!
# Counting the blocks that a search passes

The search for the end of a block keeps the blocks that are pending.  For every kind it counts them
as if the other kinds did not exist: an opening tag adds one, and a closing tag takes one away if
there is one.
-/

namespace Stencil

namespace Tag

/-- Whether a tag opens a block of a kind. -/
def opens (block : Block) (tag : Tag) : Bool :=
  match tag.kind with
  | .opening name _ => name = block.name
  | _ => false

/-- Whether a tag closes a block of a kind. -/
def closes (block : Block) (tag : Tag) : Bool := tag.kind = .closing block.name

variable {block inner : Block} {tag : Tag}

theorem opens_of_kind
    {name : Text}
    {arguments : List Text}
    (kind : tag.kind = .opening name arguments) : tag.opens block = (name = block.name : Bool) := by
  rw [opens, kind]

theorem exists_kind_of_opens
    (opens : tag.opens block) : ∃ arguments, tag.kind = .opening block.name arguments := by
  unfold Tag.opens at opens
  split at opens
  · next name arguments kind => exact ⟨arguments, kind.trans (by rw [of_decide_eq_true opens])⟩
  · exact absurd opens Bool.false_ne_true

theorem closes_iff : tag.closes block ↔ tag.kind = .closing block.name := decide_eq_true_iff

end Tag

namespace Block

theorem ofName?_eq_some_iff {name : Text} {block : Block} :
    ofName? name = some block ↔ name = block.name := by
  constructor
  · exact fun known => (name_eq_of_ofName? known).symm
  · rintro rfl
    exact ofName?_name block

theorem name_inj {left right : Block} : left.name = right.name ↔ left = right := by
  rw [← ofName?_eq_some_iff, ofName?_name, Option.some.injEq]

/-- What a tag that does not end a block changes for the search of its end. -/
inductive Advances (block : Block) (located : Located) :
    List Block → Option Located → List Block → Option Located → Prop where
  /-- A block inside is opened and becomes pending. -/
  | opening
    {pending : List Block}
    {alternative? : Option Located}
    {inner : Block}
    (opens : located.tag.opens inner) :
    Advances block located pending alternative? (inner :: pending) alternative?
  /-- A pending block is closed. -/
  | closing
    {pending : List Block}
    {alternative? : Option Located}
    {inner : Block}
    (closes : located.tag.closes inner)
    (waiting : inner ∈ pending) :
    Advances block located pending alternative? (pending.erase inner) alternative?
  /-- The alternative of the block is found. -/
  | dividing
    (kind : located.tag.kind = .otherwise)
    (allowed : block.hasAlternative) :
    Advances block located [] none [] (some located)
  /-- The tag does not matter. -/
  | passing
    {pending : List Block}
    {alternative? : Option Located}
    (opensNone : ∀ inner, located.tag.opens inner = false)
    (closesNone : ∀ inner ∈ pending, located.tag.closes inner = false)
    (undivided : located.tag.kind = .otherwise → block.hasAlternative → pending = [] →
      alternative? ≠ none) :
    Advances block located pending alternative? pending alternative?

section Step

variable
  {block : Block}
  {located : Located}
  {pending pendingAfter : List Block}
  {alternative? alternativeAfter? : Option Located}

/-- An opening tag makes a block pending if its name is known. -/
theorem advances_of_opening
    {name : Text}
    {arguments : List Text}
    (kind : located.tag.kind = .opening name arguments)
    (advance : block.advance located pending alternative? =
      some (pendingAfter, alternativeAfter?)) :
    block.Advances located pending alternative? pendingAfter alternativeAfter? := by
  simp only [Block.advance, kind] at advance
  cases known : ofName? name with
  | none =>
    simp only [known] at advance
    obtain ⟨rfl, rfl⟩ := Prod.mk.inj (Option.some.inj advance)
    refine .passing (fun inner => ?_) (fun inner _ => ?_) fun other =>
      Tag.Kind.noConfusion (kind.symm.trans other)
    · rw [Tag.opens_of_kind kind]
      refine decide_eq_false fun same => ?_
      rw [ofName?_eq_some_iff.mpr same] at known
      exact Option.some_ne_none _ known
    · rw [Tag.closes, kind, decide_eq_false Tag.Kind.noConfusion]
  | some inner =>
    simp only [known] at advance
    obtain ⟨rfl, rfl⟩ := Prod.mk.inj (Option.some.inj advance)
    apply Advances.opening
    rw [Tag.opens_of_kind kind]
    exact decide_eq_true (ofName?_eq_some_iff.mp known)

/-- A closing tag that is not the end closes a pending block, if one of its name is pending. -/
theorem advances_of_closing
    {name : Text}
    (kind : located.tag.kind = .closing name)
    (advance : block.advance located pending alternative? =
      some (pendingAfter, alternativeAfter?)) :
    block.Advances located pending alternative? pendingAfter alternativeAfter? := by
  have closes (inner : Block) : located.tag.closes inner ↔ ofName? name = some inner := by
    rw [Tag.closes_iff, kind, Tag.Kind.closing.injEq, ofName?_eq_some_iff]
  have passing
      (absent : ∀ inner ∈ pending, ofName? name ≠ some inner) :
      block.Advances located pending alternative? pending alternative? := by
    refine .passing (fun inner => ?_) (fun inner member => ?_) fun other =>
      Tag.Kind.noConfusion (kind.symm.trans other)
    · rw [Tag.opens, kind]
    · exact Bool.eq_false_iff.mpr fun closed => absent inner member ((closes inner).mp closed)
  simp only [Block.advance, kind] at advance
  cases known : ofName? name with
  | none =>
    simp only [known] at advance
    obtain ⟨rfl, rfl⟩ := Prod.mk.inj (Option.some.inj advance)
    exact passing fun inner _ same => Option.some_ne_none _ (same.symm.trans known)
  | some inner =>
    simp only [known] at advance
    by_cases waiting : inner ∈ pending
    · rw [if_pos waiting] at advance
      obtain ⟨rfl, rfl⟩ := Prod.mk.inj (Option.some.inj advance)
      exact .closing ((closes inner).mpr known) waiting
    · rw [if_neg waiting] at advance
      split at advance
      · exact absurd advance.symm (Option.some_ne_none _)
      · obtain ⟨rfl, rfl⟩ := Prod.mk.inj (Option.some.inj advance)
        refine passing fun other member same => waiting ?_
        rwa [Option.some.inj (known.symm.trans same)]

/-- The tag of an alternative is taken when nothing is pending and none was taken before. -/
theorem advances_of_otherwise
    (kind : located.tag.kind = .otherwise)
    (advance : block.advance located pending alternative? =
      some (pendingAfter, alternativeAfter?)) :
    block.Advances located pending alternative? pendingAfter alternativeAfter? := by
  simp only [Block.advance, kind, Bool.and_eq_true, List.isEmpty_iff,
    Option.isNone_iff_eq_none] at advance
  split at advance
  · next divides =>
    obtain ⟨⟨rfl, rfl⟩, allowed⟩ := divides
    obtain ⟨rfl, rfl⟩ := Prod.mk.inj (Option.some.inj advance)
    exact .dividing kind allowed
  · next undivided =>
    obtain ⟨rfl, rfl⟩ := Prod.mk.inj (Option.some.inj advance)
    refine .passing (fun inner => ?_) (fun inner _ => ?_) fun _ allowed empty none =>
      undivided ⟨⟨empty, none⟩, allowed⟩
    · rw [Tag.opens, kind]
    · rw [Tag.closes, kind, decide_eq_false Tag.Kind.noConfusion]

theorem advances_of_advance
    (advance : block.advance located pending alternative? =
      some (pendingAfter, alternativeAfter?)) :
    block.Advances located pending alternative? pendingAfter alternativeAfter? := by
  cases kind : located.tag.kind with
  | opening name arguments => exact advances_of_opening kind advance
  | closing name => exact advances_of_closing kind advance
  | otherwise => exact advances_of_otherwise kind advance
  | expression words =>
    simp only [Block.advance, kind] at advance
    obtain ⟨rfl, rfl⟩ := Prod.mk.inj (Option.some.inj advance)
    refine .passing (fun inner => ?_) (fun inner _ => ?_) fun other =>
      Tag.Kind.noConfusion (kind.symm.trans other)
    · rw [Tag.opens, kind]
    · rw [Tag.closes, kind, decide_eq_false Tag.Kind.noConfusion]

end Step

/-- How many blocks of a kind are open behind a tag, of which so many are open before it.  A closing
tag closes nothing when no block of its kind is open. -/
def openBehind (block : Block) (count : Nat) (tag : Tag) : Nat :=
  if tag.opens block then count + 1 else if tag.closes block then count - 1 else count

/-- How many blocks of a kind are open behind tags, of which so many are open before them. -/
def openAfter (block : Block) (count : Nat) (tags : List Tag) : Nat :=
  tags.foldl block.openBehind count

/-- Whether tags close blocks of a kind so many times more than they open them. -/
def Surplus (block : Block) (tags : List Tag) (surplus : Nat) : Prop :=
  tags.countP (Tag.closes block) = tags.countP (Tag.opens block) + surplus

section Counting

variable
  {block : Block}
  {located : Located}
  {pending pendingAfter : List Block}
  {alternative? alternativeAfter? : Option Located}

theorem closes_eq_false_of_opens
    {inner other : Block}
    {tag : Tag}
    (opens : tag.opens inner) : tag.closes other = false := by
  obtain ⟨arguments, kind⟩ := Tag.exists_kind_of_opens opens
  rw [Tag.closes, kind, decide_eq_false Tag.Kind.noConfusion]

theorem opens_eq_false_of_closes
    {inner other : Block}
    {tag : Tag}
    (closes : tag.closes inner) : tag.opens other = false := by
  rw [Tag.opens, Tag.closes_iff.mp closes]

theorem opens_iff_of_opens
    {inner other : Block}
    {tag : Tag}
    (opens : tag.opens inner) : tag.opens other = (inner = other : Bool) := by
  obtain ⟨arguments, kind⟩ := Tag.exists_kind_of_opens opens
  simp only [Tag.opens_of_kind kind, name_inj]

theorem closes_iff_of_closes
    {inner other : Block}
    {tag : Tag}
    (closes : tag.closes inner) : tag.closes other = (inner = other : Bool) := by
  simp only [Tag.closes, Tag.closes_iff.mp closes, Tag.Kind.closing.injEq, name_inj]

/-- The search counts the pending blocks of every kind as if the other kinds did not exist. -/
theorem Advances.count_eq
    (advances : block.Advances located pending alternative? pendingAfter alternativeAfter?)
    (inner : Block) :
    pendingAfter.count inner = inner.openBehind (pending.count inner) located.tag := by
  rw [openBehind]
  cases advances with
  | @opening _ _ opened opens =>
    rw [opens_iff_of_opens opens, closes_eq_false_of_opens opens, List.count_cons]
    by_cases same : opened = inner <;> simp [same]
  | @closing _ _ closed closes waiting =>
    rw [opens_eq_false_of_closes closes, closes_iff_of_closes closes, List.count_erase]
    by_cases same : closed = inner <;> simp [same]
  | dividing kind allowed =>
    rw [Tag.opens, Tag.closes, kind, decide_eq_false Tag.Kind.noConfusion]
    rfl
  | passing opensNone closesNone undivided =>
    rw [opensNone]
    by_cases waiting : inner ∈ pending
    · rw [closesNone inner waiting]
      rfl
    · rw [List.count_eq_zero.mpr waiting]
      simp

/-- The search ends at a closing tag of the block's kind when no block of this kind is pending. -/
theorem advance_eq_none_iff :
    block.advance located pending alternative? = none ↔
      located.tag.closes block ∧ pending.count block = 0 := by
  rw [List.count_eq_zero, Tag.closes_iff]
  constructor
  · intro ends
    have kind := block.kind_of_advance_eq_none ends
    refine ⟨kind, fun waiting => ?_⟩
    rw [advance, kind] at ends
    simp only [ofName?_name, if_pos waiting] at ends
    exact Option.some_ne_none _ ends
  · rintro ⟨kind, absent⟩
    rw [advance, kind]
    simp only [ofName?_name, if_neg absent, if_true]

/-- Unless a tag closes what was never opened, it changes the surplus that is needed as it changes
what is open. -/
theorem surplus_cons_iff
    {count : Nat}
    {tag : Tag}
    (continues : ¬ (tag.closes block ∧ count = 0))
    (tags : List Tag) :
    Surplus block (tag :: tags) (count + 1) ↔
      Surplus block tags (block.openBehind count tag + 1) := by
  rw [Surplus, Surplus, List.countP_cons, List.countP_cons, openBehind]
  cases opens : tag.opens block with
  | true =>
    rw [closes_eq_false_of_opens opens]
    simp only [if_true, Bool.false_eq_true, if_false]
    omega
  | false =>
    cases closes : tag.closes block with
    | true =>
      have positive : count ≠ 0 := fun none => continues ⟨closes, none⟩
      simp only [if_true, Bool.false_eq_true, if_false]
      omega
    | false => simp only [Bool.false_eq_true, if_false, Nat.add_zero]

/-- Where more blocks are open before a tag, more are open behind it. -/
theorem openBehind_lt_openBehind
    {fewer more : Nat}
    {tag : Tag}
    (continues : ¬ (tag.closes block ∧ fewer = 0))
    (less : fewer < more) : block.openBehind fewer tag < block.openBehind more tag := by
  rw [openBehind, openBehind]
  split
  · exact Nat.succ_lt_succ less
  · split
    · next closes =>
      have positive : fewer ≠ 0 := fun none => continues ⟨closes, none⟩
      omega
    · exact less

/-- Unless it is the end, a tag changes the surplus that is needed as it changes what is pending. -/
theorem surplus_cons_of_advance
    (advance : block.advance located pending alternative? =
      some (pendingAfter, alternativeAfter?))
    (tags : List Tag) :
    Surplus block (located.tag :: tags) (pending.count block + 1) ↔
      Surplus block tags (pendingAfter.count block + 1) := by
  rw [(advances_of_advance advance).count_eq]
  exact surplus_cons_iff
    (fun ends => nomatch advance.symm.trans (advance_eq_none_iff.mpr ends)) tags

theorem surplus_singleton {tag : Tag} (closes : tag.closes block) : Surplus block [tag] 1 := by
  rw [Surplus, List.countP_singleton, List.countP_singleton, closes,
    opens_eq_false_of_closes closes]
  rfl

theorem not_surplus_nil (block : Block) (count : Nat) : ¬ Surplus block [] (count + 1) := by
  rw [Surplus, List.countP_nil, List.countP_nil]
  omega

end Counting

end Block
end Stencil
