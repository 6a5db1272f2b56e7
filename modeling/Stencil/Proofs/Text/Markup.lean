import Stencil.Text.Blank
import Stencil.Text.Entity
import Stencil.Text.Splice

/-!
# Text without markup

Four characters can start, end or quote markup.  Escaping removes them from any text, and cutting,
splicing and trimming bring none of them into a text that has none.
-/

namespace Stencil
namespace Text

/-- The characters that start, end or quote markup. -/
def markup : List Char := ['<', '>', '"', '\'']

/-- Whether a text holds no character of markup. -/
def IsInert (text : Text) : Prop := ∀ character ∈ text, character ∉ markup

instance : DecidablePred IsInert := fun text =>
  List.decidableBAll (fun character => character ∉ markup) text

theorem IsInert.of_subset {left right : Text} (inert : right.IsInert) (subset : left ⊆ right) :
    left.IsInert :=
  fun character member => inert character (subset member)

theorem IsInert.append {left right : Text} (leftInert : left.IsInert) (rightInert : right.IsInert) :
    (left ++ right).IsInert := by
  intro character member
  rcases List.mem_append.mp member with front | back
  · exact leftInert character front
  · exact rightInert character back

theorem IsInert.flatten {texts : List Text} (inert : ∀ text ∈ texts, text.IsInert) :
    IsInert texts.flatten := by
  intro character member
  obtain ⟨text, among, inside⟩ := List.mem_flatten.mp member
  exact inert text among character inside

theorem isInert_nil : IsInert [] := fun _ member => absurd member List.not_mem_nil

/-- An entity is written without markup. -/
theorem isInert_entity (character : Char) : (entity character).IsInert := by
  unfold entity
  split
  case h_6 notAmpersand notOpening notClosing notDouble notSingle =>
    intro other member
    rw [List.mem_singleton.mp member]
    simp only [markup, List.mem_cons, List.not_mem_nil, or_false, not_or]
    exact ⟨notOpening, notClosing, notDouble, notSingle⟩
  all_goals decide

/-- An escaped text holds no markup, whatever the text. -/
theorem isInert_escapeMarkup (text : Text) : (escapeMarkup text).IsInert := by
  intro character member
  obtain ⟨original, -, inside⟩ := List.mem_flatMap.mp member
  exact isInert_entity original character inside

theorem takeBytes_subset (count : Nat) (text : Text) : takeBytes count text ⊆ text := by
  have split := takeBytes_append_dropBytes count text
  exact fun character member => split ▸ List.mem_append_left _ member

theorem dropBytes_subset (count : Nat) (text : Text) : dropBytes count text ⊆ text := by
  have split := takeBytes_append_dropBytes count text
  exact fun character member => split ▸ List.mem_append_right _ member

theorem slice_subset (text : Text) (start stop : Nat) : slice text start stop ⊆ text :=
  fun _ member => dropBytes_subset start text (takeBytes_subset _ _ member)

theorem trim_subset (text : Text) : trim text ⊆ text := by
  intro character member
  have inReverse := (List.dropWhile_sublist isBlank).subset (List.mem_reverse.mp member)
  exact (List.dropWhile_sublist isBlank).subset (List.mem_reverse.mp inReverse)

/-- Splicing puts nothing into a text but the replacements. -/
theorem IsInert.spliceFrom
    {text : Text}
    (inert : text.IsInert)
    {edits : List Edit}
    (replacements : ∀ edit ∈ edits, edit.replacement.IsInert)
    (shift : Int) : (Text.spliceFrom shift text edits).IsInert := by
  induction edits generalizing text shift with
  | nil => exact inert
  | cons edit edits inductionHypothesis =>
    have here := replacements edit List.mem_cons_self
    apply inductionHypothesis
    · exact ((inert.of_subset (takeBytes_subset _ text)).append here).append
        (inert.of_subset (dropBytes_subset _ text))
    · exact fun other member => replacements other (List.mem_cons_of_mem edit member)

end Text
end Stencil
