import Stencil.Proofs.Scope.Descent
import Stencil.Proofs.Scope.Flattening

/-!
# Loops inside each other as plain data

The scope inside several loops, one inside the other, knows what one object knows that is made by
laying each loop over the data around it.  So every path has the same value in both, and a path that
is undefined in the innermost value it reaches stays undefined.
-/

namespace Stencil

/-- Data and the loops around a place as one object, the innermost loop laid over the others. -/
def Value.flatten (data : Value) (loops : List (Value × LoopPosition)) : Value :=
  loops.foldl (fun whole (item, position) => whole.flat item position) (.object data.entries)

namespace Scope

/-- The scope inside loops over items, the outermost loop first. -/
def nest (data : Value) (loops : List (Value × LoopPosition)) : Scope :=
  loops.foldl (fun scope (item, position) => scope.enter item position) (root data)

/-- An item hides the same names whatever is around its loop. -/
theorem get?_enter_congr
    {left right : Scope}
    {name : Text}
    (agree : left.get? name = right.get? name)
    (item : Value)
    (position : LoopPosition) :
    (left.enter item position).get? name = (right.enter item position).get? name := by
  rw [enter, enter, get?_cons, get?_cons, agree]

/-- Loops that are entered where scopes agree on a name do not set them apart. -/
theorem get?_nest_flat
    {scope : Scope}
    {data : Value}
    {name : Text}
    (agree : scope.get? name = (root data).get? name)
    (loops : List (Value × LoopPosition)) :
    (loops.foldl (fun scope (item, position) => scope.enter item position) scope).get? name =
      (root (loops.foldl (fun whole (item, position) => whole.flat item position) data)).get?
        name := by
  induction loops generalizing scope data with
  | nil => exact agree
  | cons loop loops inductionHypothesis =>
    refine inductionHypothesis ?_
    exact (get?_enter_congr agree loop.1 loop.2).trans (get?_enter_root data loop.1 loop.2 name)

/-- A path has the same value inside loops as in the one object that they are flattened to. -/
theorem lookup?_nest
    (data : Value)
    (outermost : Value × LoopPosition)
    (inner : List (Value × LoopPosition))
    (path : Text) :
    (nest data (outermost :: inner)).lookup? path =
      (root (data.flatten (outermost :: inner))).lookup? path :=
  -- Data that is no object is hidden by the item of the outermost loop, as an empty object is.
  lookup?_congr (get?_nest_flat (get?_enter_root data outermost.1 outermost.2 _) inner)

/-- Inside one or more loops, every path has the value that it has in one object: the entries of the
data, and over them for each loop, from the outermost to the innermost, the item as a whole, the
loop markers and the entries of the item.  And in any scope, a path that is longer by a segment is
defined exactly when the shorter path has a value with a part of that name, and this part is its
value, whatever other frames know. -/
theorem lookup?_isFlat :
    (∀ (data : Value) (outermost : Value × LoopPosition) (inner : List (Value × LoopPosition))
      (path : Text),
      (nest data (outermost :: inner)).lookup? path =
        (root (data.flatten (outermost :: inner))).lookup? path) ∧
    ∀ (scope : Scope) (path segment : Text), '.' ∉ segment →
      (scope.lookup? path = none → scope.lookup? (path ++ '.' :: segment) = none) ∧
      ∀ value, scope.lookup? path = some value → ∀ part,
        scope.lookup? (path ++ '.' :: segment) = some part ↔ value.HasPart segment part := by
  refine ⟨lookup?_nest, fun scope path segment single => ⟨fun undefined => ?_, ?_⟩⟩
  · rw [lookup?_append scope path single, undefined]
    rfl
  · intro value found part
    rw [lookup?_append scope path single, found]
    exact Path.child?_eq_some_iff

/-- The item of an inner loop hides a list of the data that is longer: the path to an item that only
the longer list has is undefined, and so is the path to an entry of this item. -/
theorem lookup?_isFlat_hidden :
    let data := Value.object
      [("rows".toList, .array [.null, .object [("name".toList, .bool true)]])]
    let row := Value.object [("rows".toList, .array [.null])]
    let inside := nest data [(.null, ⟨0, true, false⟩), (row, ⟨3, false, true⟩)]
    ('.' ∉ "1".toList ∧ '.' ∉ "name".toList) ∧
      (root data).lookup? "rows.1.name".toList = some (.bool true) ∧
      inside.lookup? "rows".toList = some (.array [.null]) ∧
      (∀ part, inside.lookup? "rows.1".toList = some part ↔
        (Value.array [.null]).HasPart "1".toList part) ∧
      inside.lookup? "rows.1".toList = none ∧
      inside.lookup? "rows.1.name".toList = none := by
  intro data row inside
  have index : '.' ∉ "1".toList := by decide
  have name : '.' ∉ "name".toList := by decide
  have list : inside.lookup? "rows".toList = some (.array [.null]) := rfl
  have item := (lookup?_isFlat.2 inside "rows".toList _ index).2 _ list
  have outside : inside.lookup? "rows.1".toList = none := rfl
  have entry := (lookup?_isFlat.2 inside "rows.1".toList _ name).1 outside
  exact ⟨⟨index, name⟩, rfl, list, item, outside, entry⟩

end Scope
end Stencil
