import Stencil.Value.Basic
import Stencil.Number.Numeral

/-!
# Scopes

A scope is a chain of frames, the innermost one first.  The root frame holds the data; every loop
adds a frame for its current item.  A path names a value: its first segment is looked up frame by
frame, and every further segment descends into the value found, never back into another frame.
-/

namespace Stencil

/-- Where a loop stands. -/
structure LoopPosition where
  /-- Number of items before the current one. -/
  index : Nat
  /-- Whether the current item is the first one. -/
  isFirst : Bool
  /-- Whether the current item is the last one. -/
  isLast : Bool
deriving DecidableEq, Repr

namespace LoopPosition

/-- The value of a loop marker. -/
def marker? (position : LoopPosition) (name : Text) : Option Value :=
  if name = "@index".toList then
    some (.ofInt position.index)
  else if name = "@key".toList then
    some (.string (Text.ofNat position.index))
  else if name = "@first".toList then
    some (.bool position.isFirst)
  else if name = "@last".toList then
    some (.bool position.isLast)
  else
    none

end LoopPosition

/-- One level of a scope. -/
structure Frame where
  /-- The data of the level. -/
  data : Value
  /-- Where the loop of the level stands; the root has no loop. -/
  position? : Option LoopPosition := none
deriving Repr

namespace Frame

/-- The name by which a frame's own data is reached. -/
def selfName : Text := "this".toList

/-- The frame of a loop item.  An object is the data of its frame; anything else is its only
entry. -/
def ofItem (item : Value) (position : LoopPosition) : Frame :=
  match item with
  | .object entries => ⟨.object entries, some position⟩
  | other => ⟨.object [(selfName, other)], some position⟩

/-- An entry of the frame's data. -/
def entry? (frame : Frame) (name : Text) : Option Value :=
  match frame.data with
  | .object entries => Dictionary.get? name entries
  | _ => none

/-- What a frame knows under a name: an entry, a loop marker, or its own data. -/
def get? (frame : Frame) (name : Text) : Option Value :=
  match frame.entry? name with
  | some value => some value
  | none =>
    match frame.position?.bind fun position => position.marker? name with
    | some value => some value
    | none => if name = selfName then some frame.data else none

end Frame

/-- A chain of frames, the innermost one first. -/
abbrev Scope := List Frame

namespace Path

/-- The name under which the size of a list or text is found. -/
def lengthName : Text := "length".toList

/-- The list index that a segment stands for: digits, after a plus sign at most. -/
def index? (segment : Text) : Option Nat :=
  let digits :=
    match segment with
    | '+' :: rest => rest
    | text => text
  if digits.isEmpty || !digits.all Char.isDigit then none else some (Numeral.digitsValue digits)

/-- The part of a value that a segment names. -/
def child? (value : Value) (segment : Text) : Option Value :=
  match value with
  | .object entries => Dictionary.get? segment entries
  | .array items =>
    if segment = lengthName then
      some (.ofInt items.length)
    else
      (index? segment).bind fun index => items[index]?
  | .string text => if segment = lengthName then some (.ofInt text.length) else none
  | _ => none

/-- The part of a value that a list of segments leads to. -/
def descend? (value : Value) : List Text → Option Value
  | [] => some value
  | segment :: segments => (child? value segment).bind fun part => descend? part segments

/-- The segments of a path. -/
def segments (path : Text) : List Text := Text.pieces '.' path

end Path

namespace Scope

/-- The scope of the data alone. -/
def root (data : Value) : Scope := [⟨data, none⟩]

/-- The scope inside a loop, for one of its items. -/
def enter (scope : Scope) (item : Value) (position : LoopPosition) : Scope :=
  Frame.ofItem item position :: scope

/-- What the innermost frame that knows a name knows under it. -/
def get? (name : Text) : Scope → Option Value
  | [] => none
  | frame :: outer =>
    match frame.get? name with
    | some value => some value
    | none => get? name outer

/-- The value of a path.  A value that is present may be `null`; `none` means undefined. -/
def lookup? (scope : Scope) (path : Text) : Option Value :=
  match Path.segments path with
  | [] => none
  | head :: segments => (scope.get? head).bind fun value => Path.descend? value segments

end Scope
end Stencil
