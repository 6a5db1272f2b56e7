import Mathlib.Data.List.TakeWhile
import Stencil.Scope

/-!
# What a path looks up

Only the first segment of a path is looked up in a scope; every further segment descends into the
value found.  So scopes that know the same under a name agree on all paths that start with it.
-/

namespace Stencil

namespace Path

/-- The first segment of a path: what stands before its first dot. -/
def head (path : Text) : Text := path.takeWhile fun character => character ≠ '.'

theorem exists_segments_eq (path : Text) : ∃ rest, segments path = head path :: rest := by
  unfold segments head
  induction path with
  | nil => exact ⟨[], rfl⟩
  | cons character path inductionHypothesis =>
    obtain ⟨rest, same⟩ := inductionHypothesis
    by_cases dot : character = '.'
    · exact ⟨Text.pieces '.' path, by simp [Text.pieces, dot]⟩
    · exact ⟨rest, by simp [Text.pieces, dot, same]⟩

theorem head_eq_self
    {segment : Text}
    (single : '.' ∉ segment) : head segment = segment := by
  rw [head, List.takeWhile_eq_self_iff]
  intro character member
  exact decide_eq_true fun dot => single (dot ▸ member)

theorem segments_eq_singleton
    {path : Text}
    (whole : head path = path) : segments path = [path] := by
  unfold segments
  unfold head at whole
  induction path with
  | nil => rfl
  | cons character path inductionHypothesis =>
    by_cases dot : character = '.'
    · simp [dot] at whole
    · have rest := inductionHypothesis (by simpa [dot] using whole)
      simp [Text.pieces, dot, rest]

end Path

/-- The entries of an object; any other value has none. -/
def Value.entries : Value → Dictionary Value
  | object entries => entries
  | _ => []

@[simp] theorem Value.entries_object (entries : Dictionary Value) :
    (object entries).entries = entries := rfl

namespace Frame

theorem entry?_eq (frame : Frame) (name : Text) :
    frame.entry? name = Dictionary.get? name frame.data.entries := by
  obtain ⟨data, position?⟩ := frame
  cases data <;> rfl

/-- A frame knows its entries first, then its loop markers, and then its data as a whole. -/
theorem get?_eq (frame : Frame) (name : Text) :
    frame.get? name =
      (Dictionary.get? name frame.data.entries).or
        ((frame.position?.bind fun position => position.marker? name).or
          (if name = selfName then some frame.data else none)) := by
  rw [get?, entry?_eq]
  cases Dictionary.get? name frame.data.entries with
  | some value => rfl
  | none => cases frame.position?.bind fun position => position.marker? name <;> rfl

end Frame

namespace Scope

/-- Scopes agree on a path when they know the same under its first segment. -/
theorem lookup?_congr
    {left right : Scope}
    {path : Text}
    (agree : left.get? (Path.head path) = right.get? (Path.head path)) :
    left.lookup? path = right.lookup? path := by
  obtain ⟨rest, segments⟩ := Path.exists_segments_eq path
  rw [lookup?, lookup?, segments]
  dsimp only
  rw [agree]

theorem lookup?_eq_get?
    {path : Text}
    (whole : Path.head path = path)
    (scope : Scope) : scope.lookup? path = scope.get? path := by
  rw [lookup?, Path.segments_eq_singleton whole]
  exact Option.bind_fun_some (scope.get? path)

theorem get?_cons (frame : Frame) (outer : Scope) (name : Text) :
    get? name (frame :: outer) = (frame.get? name).or (get? name outer) := by
  rw [get?]
  cases frame.get? name <;> rfl

/-- The data is known by its entries, and as a whole. -/
theorem get?_root (data : Value) (name : Text) :
    (root data).get? name =
      (Dictionary.get? name data.entries).or
        (if name = Frame.selfName then some data else none) := by
  rw [root, get?_cons, get?, Option.or_none, Frame.get?_eq, Option.bind_none, Option.none_or]

end Scope
end Stencil
