import Stencil.Tag.Basic

/-!
# Pairing the tags of blocks

A block runs to the closing tag of its name that is not taken by a block of that name inside it.
Blocks inside are counted by name, so a closing tag without an open block of its name is passed
over, wherever it stands.
-/

namespace Stencil

/-- The kinds of blocks. -/
inductive Block where
  /-- Rendered when its condition holds. -/
  | whenTrue
  /-- Rendered when its condition fails. -/
  | whenFalse
  /-- Rendered for every item of a list. -/
  | forEach
deriving DecidableEq, Repr

namespace Block

/-- The name of a kind of block in templates. -/
def name : Block → Text
  | whenTrue => "if".toList
  | whenFalse => "unless".toList
  | forEach => "each".toList

/-- The kind of block that a name stands for. -/
def ofName? (name : Text) : Option Block :=
  [whenTrue, whenFalse, forEach].find? fun block => block.name = name

/-- Whether blocks of a kind can have an alternative. -/
def hasAlternative : Block → Bool
  | forEach => false
  | _ => true

/-- A tag together with its position in a list of tags. -/
structure Located where
  /-- Number of tags before it. -/
  position : Nat
  /-- The tag. -/
  tag : Tag
deriving DecidableEq, Repr

/-- The tags that end the parts of a block. -/
structure Closing where
  /-- The tag that starts the alternative. -/
  alternative? : Option Located
  /-- The closing tag. -/
  close : Located
deriving DecidableEq, Repr

/-- Look for the end of a block in the tags from `position` on, where `pending` holds the blocks
inside that are still open and `alternative?` the alternative found so far.  An alternative belongs
to the block only while nothing is pending. -/
def closingFrom
    (block : Block)
    (position : Nat)
    (pending : List Block)
    (alternative? : Option Located) : List Tag → Option Closing
  | [] => none
  | tag :: tags =>
    match tag.kind with
    | .opening name _ =>
      match ofName? name with
      | some inner => closingFrom block (position + 1) (inner :: pending) alternative? tags
      | none => closingFrom block (position + 1) pending alternative? tags
    | .closing name =>
      match ofName? name with
      | some inner =>
        if inner ∈ pending then
          closingFrom block (position + 1) (pending.erase inner) alternative? tags
        else if inner = block then
          some ⟨alternative?, ⟨position, tag⟩⟩
        else
          closingFrom block (position + 1) pending alternative? tags
      | none => closingFrom block (position + 1) pending alternative? tags
    | .otherwise =>
      if pending.isEmpty && alternative?.isNone && block.hasAlternative then
        closingFrom block (position + 1) pending (some ⟨position, tag⟩) tags
      else
        closingFrom block (position + 1) pending alternative? tags
    | .expression _ => closingFrom block (position + 1) pending alternative? tags

/-- The end of a block among the tags that follow its opening tag. -/
def closing? (block : Block) (tags : List Tag) : Option Closing :=
  closingFrom block 0 [] none tags

end Block
end Stencil
