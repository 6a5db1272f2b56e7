import Stencil.Proofs.Block.Balance
import Stencil.Proofs.Tag.Fragment

/-!
# Template trees

A tree is what an author has in mind when writing a template.  It is written as a text with any
delimiters that do not occur in it, one fragment after the other.
-/

namespace Stencil

/-- A template as a tree.  Every node holds what follows it on its level. -/
inductive Tree where
  /-- Nothing. -/
  | empty
  /-- Literal text. -/
  | literal (text : Text) (rest : Tree)
  /-- An expression, with its words. -/
  | expression (name : Text) (arguments : List Text) (rest : Tree)
  /-- A block for when its condition comes out as `wanted`, with what stands there otherwise. -/
  | branch
    (wanted : Bool)
    (path : Text)
    (arguments : List Text)
    (body : Tree)
    (alternative? : Option Tree)
    (rest : Tree)
  /-- A block for every item of a list.  It has no use for words after the first. -/
  | loop (path : Text) (arguments : List Text) (body : Tree) (rest : Tree)

namespace Block

/-- The kind of block that is rendered when its condition comes out as `wanted`. -/
def ofWanted : Bool → Block
  | true => whenTrue
  | false => whenFalse

/-- The fragments of a block. -/
def fragments
    (block : Block)
    (words : List Text)
    (body : List Fragment)
    (alternative? : Option (List Fragment)) : List Fragment :=
  let alternative :=
    match alternative? with
    | none => []
    | some alternative => .tag .otherwise :: alternative
  .tag (.opening block.name words) :: (body ++ alternative ++ [.tag (.closing block.name)])

theorem body_subset_fragments
    (block : Block)
    (words : List Text)
    (body : List Fragment)
    (alternative? : Option (List Fragment)) : body ⊆ block.fragments words body alternative? := by
  intro fragment member
  apply List.mem_cons_of_mem
  exact List.mem_append_left _ (List.mem_append_left _ member)

theorem alternative_subset_fragments
    (block : Block)
    (words : List Text)
    (body alternative : List Fragment) :
    alternative ⊆ block.fragments words body (some alternative) := by
  intro fragment member
  apply List.mem_cons_of_mem
  apply List.mem_append_left
  exact List.mem_append_right _ (List.mem_cons_of_mem _ member)

@[simp] theorem hasAlternative_ofWanted (wanted : Bool) : (ofWanted wanted).hasAlternative := by
  cases wanted <;> rfl

end Block

namespace Tree

/-- Induction over trees, with a hypothesis for the alternative where there is one. -/
@[elab_as_elim, induction_eliminator]
theorem induction
    {motive : Tree → Prop}
    (empty : motive .empty)
    (literal : ∀ text rest, motive rest → motive (.literal text rest))
    (expression : ∀ name arguments rest, motive rest → motive (.expression name arguments rest))
    (branch : ∀ wanted path arguments body alternative? rest,
      motive body → (∀ alternative ∈ alternative?, motive alternative) → motive rest →
        motive (.branch wanted path arguments body alternative? rest))
    (loop : ∀ path arguments body rest,
      motive body → motive rest → motive (.loop path arguments body rest))
    (tree : Tree) : motive tree :=
  @Tree.rec motive (fun alternative? => ∀ alternative ∈ alternative?, motive alternative)
    empty literal expression branch loop
    (fun _ member => absurd member (Option.not_mem_none _))
    (fun _ holds _ member => Option.some.inj member ▸ holds)
    tree

/-- The fragments of a tree, in the order of its text. -/
def fragments : Tree → List Fragment
  | empty => []
  | literal text rest => .literal text :: rest.fragments
  | expression name arguments rest => .tag (.expression (name :: arguments)) :: rest.fragments
  | branch wanted path arguments body none rest =>
    (Block.ofWanted wanted).fragments (path :: arguments) body.fragments none ++ rest.fragments
  | branch wanted path arguments body (some alternative) rest =>
    (Block.ofWanted wanted).fragments (path :: arguments) body.fragments
      (some alternative.fragments) ++ rest.fragments
  | loop path arguments body rest =>
    Block.forEach.fragments (path :: arguments) body.fragments none ++ rest.fragments

theorem fragments_branch
    (wanted : Bool)
    (path : Text)
    (arguments : List Text)
    (body : Tree)
    (alternative? : Option Tree)
    (rest : Tree) :
    (branch wanted path arguments body alternative? rest).fragments =
      (Block.ofWanted wanted).fragments (path :: arguments) body.fragments
        (alternative?.map fragments) ++ rest.fragments := by
  cases alternative? <;> rw [fragments] <;> rfl

/-- The text of a tree, which is a template. -/
def text (delimiters : Delimiters) (tree : Tree) : Text :=
  Fragment.print delimiters tree.fragments

/-- A tree can be written with delimiters when its words are words, none of its expressions looks
like another tag, and no character of a delimiter occurs in its literals and tags. -/
def IsWritable (delimiters : Delimiters) (tree : Tree) : Prop :=
  ∀ fragment ∈ tree.fragments, fragment.isWritable delimiters

instance (delimiters : Delimiters) (tree : Tree) : Decidable (tree.IsWritable delimiters) :=
  inferInstanceAs (Decidable (∀ fragment ∈ tree.fragments, _))

variable {delimiters : Delimiters} {path : Text} {arguments : List Text} {body rest : Tree}

theorem isWritable_of_branch
    {wanted : Bool}
    {alternative? : Option Tree}
    (writable : (branch wanted path arguments body alternative? rest).IsWritable delimiters) :
    body.IsWritable delimiters ∧
      (∀ alternative ∈ alternative?, alternative.IsWritable delimiters) ∧
        rest.IsWritable delimiters := by
  rw [IsWritable, fragments_branch] at writable
  refine ⟨?_, ?_, ?_⟩
  · intro fragment member
    apply writable fragment
    exact List.mem_append_left _ (Block.body_subset_fragments _ _ _ _ member)
  · intro alternative present fragment member
    obtain rfl := Option.mem_def.mp present
    apply writable fragment
    exact List.mem_append_left _ (Block.alternative_subset_fragments _ _ _ _ member)
  · intro fragment member
    exact writable fragment (List.mem_append_right _ member)

theorem isWritable_of_loop
    (writable : (loop path arguments body rest).IsWritable delimiters) :
    body.IsWritable delimiters ∧ rest.IsWritable delimiters := by
  rw [IsWritable, fragments] at writable
  constructor
  · intro fragment member
    apply writable fragment
    exact List.mem_append_left _ (Block.body_subset_fragments _ _ _ _ member)
  · intro fragment member
    exact writable fragment (List.mem_append_right _ member)

end Tree

end Stencil
