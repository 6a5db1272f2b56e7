import Stencil.Text.Splice

/-!
# Making edits from left to right

While edits are made in place, the text splits into what is done and what is still as it was.  The
shift is how far what is done has outgrown the text it came from.
-/

namespace Stencil
namespace Text

theorem replaceRange_append (done old rest replacement : Text) :
    replaceRange (done ++ old ++ rest) (size done) (size done + size old) replacement =
      done ++ replacement ++ rest := by
  rw [replaceRange, ← size_append, dropBytes_size_append, List.append_assoc done,
    takeBytes_size_append]

/-- An edit of the first text that is still as it was adds its replacement to what is done. -/
theorem spliceFrom_cons_append
    (done old rest replacement : Text)
    (position : Nat)
    (edits : List Edit) :
    spliceFrom (size done - position) (done ++ old ++ rest)
        (⟨⟨position, position + size old⟩, replacement⟩ :: edits) =
      spliceFrom (size (done ++ replacement) - (position + size old : Nat))
        (done ++ replacement ++ rest) edits := by
  have start : (position + ((size done : Int) - position)).toNat = size done := by omega
  have stop : ((position + size old : Nat) + ((size done : Int) - position)).toNat =
      size done + size old := by omega
  have shift : (size done : Int) - position +
      (size replacement - (position + size old - position : Nat)) =
        size (done ++ replacement) - (position + size old : Nat) := by
    rw [size_append]
    omega
  rw [spliceFrom]
  dsimp only [Span.size]
  rw [start, stop, shift, replaceRange_append]

/-- An edit of a whole text leaves nothing but its replacement. -/
theorem splice_whole (text replacement : Text) :
    splice text [⟨⟨0, size text⟩, replacement⟩] = replacement := by
  have whole := spliceFrom_cons_append [] text [] replacement 0 []
  rw [List.append_nil, List.nil_append, List.append_nil, Nat.zero_add] at whole
  exact whole

end Text
end Stencil
