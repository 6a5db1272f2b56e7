import Stencil.Proofs.Scope.Lookup

/-!
# Loop scopes as plain data

Inside a loop the item, the loop markers and the data around the loop are looked up one after the
other.  One object that holds all their entries, the inner ones over the outer ones, knows the same
under every name.
-/

namespace Stencil

namespace LoopPosition

/-- The loop markers as entries. -/
def markers (position : LoopPosition) : Dictionary Value :=
  [("@index".toList, .ofInt position.index),
    ("@key".toList, .string (Text.ofNat position.index)),
    ("@first".toList, .bool position.isFirst),
    ("@last".toList, .bool position.isLast)]

theorem get?_markers (position : LoopPosition) (name : Text) :
    Dictionary.get? name position.markers = position.marker? name := by
  have get?_cons (key : Text) (value : Value) (rest : Dictionary Value) :
      Dictionary.get? name ((key, value) :: rest) =
        if name = key then some value else Dictionary.get? name rest :=
    ite_congr (propext eq_comm) (fun _ => rfl) fun _ => rfl
  rw [markers, get?_cons, get?_cons, get?_cons, get?_cons, Dictionary.get?_nil]
  rfl

theorem marker?_selfName (position : LoopPosition) : position.marker? Frame.selfName = none := rfl

end LoopPosition

/-- Data around a loop, an item of the loop and its position as one object: the entries of the item
lie over the loop markers, these over the item itself, and this over the entries of the data. -/
def Value.flat (data item : Value) (position : LoopPosition) : Value :=
  .object <|
    Dictionary.overlay item.entries <|
      Dictionary.overlay position.markers <|
        Dictionary.insert Frame.selfName item data.entries

namespace Scope

theorem get?_flat (data item : Value) (position : LoopPosition) (name : Text) :
    (root (data.flat item position)).get? name =
      (Dictionary.get? name item.entries).or
        ((position.marker? name).or
          (if name = Frame.selfName then some item else Dictionary.get? name data.entries)) := by
  rw [Value.flat, get?_root, Value.entries_object, Dictionary.get?_overlay, Dictionary.get?_overlay,
    Dictionary.get?_insert, LoopPosition.get?_markers]
  by_cases self : name = Frame.selfName
  · simp [self]
  · simp [self, Ne.symm self]

/-- An item without entries is the only entry of its frame, under its own name. -/
theorem get?_onlyEntry (item : Value) (position : LoopPosition) (name : Text) :
    Frame.get? ⟨.object [(Frame.selfName, item)], some position⟩ name =
      (position.marker? name).or (if name = Frame.selfName then some item else none) := by
  rw [Frame.get?_eq]
  by_cases self : name = Frame.selfName
  · rw [self, position.marker?_selfName]
    rfl
  · have absent : Dictionary.get? name [(Frame.selfName, item)] = none := if_neg (Ne.symm self)
    rw [if_neg self, if_neg self, Value.entries_object, absent]
    rfl

/-- What an item of a loop knows under a name. -/
theorem get?_ofItem (item : Value) (position : LoopPosition) (name : Text) :
    (Frame.ofItem item position).get? name =
      (Dictionary.get? name item.entries).or
        ((position.marker? name).or
          (if name = Frame.selfName then some item else none)) := by
  cases item with
  | object entries => exact Frame.get?_eq ⟨.object entries, some position⟩ name
  | _ => exact get?_onlyEntry _ position name

/-- Inside a loop over an item, the names are those of the one object. -/
theorem get?_enter_root (data item : Value) (position : LoopPosition) (name : Text) :
    ((root data).enter item position).get? name = (root (data.flat item position)).get? name := by
  rw [enter, get?_cons, get?_ofItem, get?_root, get?_flat]
  by_cases self : name = Frame.selfName
  · simp [self]
  · simp [self, Option.or_assoc]

end Scope
end Stencil
