import Stencil.Text.Basic

/-!
# Splicing replacements into a text

Edits name spans of the text as it was before any of them was made.  They are made one after the
other in place; each replacement moves what follows it, so the next spans are shifted by the total
change of size so far.
-/

namespace Stencil

/-- A range of bytes in a text. -/
structure Span where
  /-- Position of the first byte. -/
  start : Nat
  /-- Position after the last byte. -/
  stop : Nat
deriving DecidableEq, Repr

namespace Span

/-- Number of bytes in the range. -/
def size (span : Span) : Nat := span.stop - span.start

end Span

/-- A replacement for a span of a text. -/
structure Edit where
  /-- What is replaced. -/
  span : Span
  /-- What stands there afterwards. -/
  replacement : Text
deriving DecidableEq, Repr

namespace Text

/-- Replace the bytes between two positions. -/
def replaceRange (text : Text) (start stop : Nat) (replacement : Text) : Text :=
  takeBytes start text ++ replacement ++ dropBytes stop text

/-- Make edits in place, where `shift` is how far the edits made before moved what follows. -/
def spliceFrom (shift : Int) (text : Text) : List Edit → Text
  | [] => text
  | edit :: edits =>
    let start := (edit.span.start + shift).toNat
    let stop := (edit.span.stop + shift).toNat
    let change := (size edit.replacement : Int) - edit.span.size
    spliceFrom (shift + change) (replaceRange text start stop edit.replacement) edits

/-- Make edits, whose spans are in order, in place. -/
def splice (text : Text) (edits : List Edit) : Text := spliceFrom 0 text edits

@[simp] theorem splice_nil (text : Text) : splice text [] = text := rfl

end Text
end Stencil
