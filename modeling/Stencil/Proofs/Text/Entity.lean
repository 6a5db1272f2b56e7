import Mathlib.Logic.Function.Defs
import Stencil.Proofs.Text.Markup

/-!
# Reading entities back

In an escaped text every ampersand begins an entity, also where the text held entities, or parts of
them, before it was escaped.  So a reader that replaces entities by their characters from left to
right always meets a whole entity or a character that stands for itself, and gets the text back.
-/

namespace Stencil
namespace Text

/-- The entities that characters with a meaning in markup are written as. -/
def entities : List Text :=
  ["&amp;".toList, "&lt;".toList, "&gt;".toList, "&quot;".toList, "&#39;".toList]

/-- A text with its entities replaced by their characters, from left to right. -/
def unescape : Text → Text
  | '&' :: 'a' :: 'm' :: 'p' :: ';' :: rest => '&' :: unescape rest
  | '&' :: 'l' :: 't' :: ';' :: rest => '<' :: unescape rest
  | '&' :: 'g' :: 't' :: ';' :: rest => '>' :: unescape rest
  | '&' :: 'q' :: 'u' :: 'o' :: 't' :: ';' :: rest => '"' :: unescape rest
  | '&' :: '#' :: '3' :: '9' :: ';' :: rest => '\'' :: unescape rest
  | character :: rest => character :: unescape rest
  | [] => []

/-- Whether every ampersand of a text begins an entity. -/
def AmpersandsBeginEntities (text : Text) : Prop :=
  ∀ before after, text = before ++ '&' :: after → ∃ written ∈ entities, written <+: '&' :: after

theorem AmpersandsBeginEntities.append
    {left right : Text}
    (leftBegin : left.AmpersandsBeginEntities)
    (rightBegin : right.AmpersandsBeginEntities) : AmpersandsBeginEntities (left ++ right) := by
  intro before after same
  rcases List.append_eq_append_iff.mp same with ⟨middle, -, inRight⟩ | ⟨middle, inLeft, rest⟩
  · exact rightBegin middle after inRight
  · cases middle with
    | nil => exact rightBegin [] after rest.symm
    | cons first middle =>
      obtain ⟨rfl, rfl⟩ := List.cons.inj rest
      obtain ⟨written, among, begins⟩ := leftBegin before middle inLeft
      exact ⟨written, among, begins.trans (List.prefix_append _ _)⟩

/-- An entity holds no ampersand but the one that begins it. -/
theorem ampersandsBeginEntities_cons
    {name : Text}
    (among : '&' :: name ∈ entities)
    (noOther : '&' ∉ name) : AmpersandsBeginEntities ('&' :: name) := by
  intro before after same
  cases before with
  | nil => exact ⟨'&' :: name, among, same ▸ List.prefix_rfl⟩
  | cons first before =>
    have inName : '&' ∈ name := by
      rw [(List.cons.inj same).2]
      exact List.mem_append_right before List.mem_cons_self
    exact absurd inName noOther

theorem ampersandsBeginEntities_of_not_mem
    {text : Text}
    (none : '&' ∉ text) : text.AmpersandsBeginEntities := by
  intro before after same
  rw [same] at none
  exact absurd (List.mem_append_right before List.mem_cons_self) none

theorem ampersandsBeginEntities_entity (character : Char) :
    (entity character).AmpersandsBeginEntities := by
  unfold entity
  split
  case h_6 notAmpersand _ _ _ _ =>
    exact ampersandsBeginEntities_of_not_mem fun member =>
      notAmpersand (List.mem_singleton.mp member).symm
  all_goals exact ampersandsBeginEntities_cons (by decide) (by decide)

theorem ampersandsBeginEntities_escapeMarkup (text : Text) :
    (escapeMarkup text).AmpersandsBeginEntities := by
  induction text with
  | nil => exact ampersandsBeginEntities_of_not_mem List.not_mem_nil
  | cons character rest inductionHypothesis =>
    exact (ampersandsBeginEntities_entity character).append inductionHypothesis

/-- Outside entities a character stands for itself. -/
theorem unescape_cons
    {character : Char}
    (notAmpersand : character ≠ '&')
    (rest : Text) : unescape (character :: rest) = character :: unescape rest := by
  rw [unescape]
  all_goals exact fun _ same => absurd same notAmpersand

/-- What a character is written as is read as the character, whatever follows. -/
theorem unescape_entity_append (character : Char) (rest : Text) :
    unescape (entity character ++ rest) = character :: unescape rest := by
  unfold entity
  split
  case h_6 notAmpersand _ _ _ _ => exact unescape_cons notAmpersand rest
  all_goals rfl

theorem unescape_escapeMarkup (text : Text) : unescape (escapeMarkup text) = text := by
  induction text with
  | nil => rfl
  | cons character rest inductionHypothesis =>
    rw [escapeMarkup_cons, unescape_entity_append, inductionHypothesis]

/-- Escaping leaves no markup and no ampersand that does not begin an entity; replacing the entities
gives every text back, so that no two texts are escaped alike; and parts of a text are escaped on
their own. -/
theorem escapeMarkup_reversible :
    (∀ text, (escapeMarkup text).IsInert) ∧
      (∀ text, (escapeMarkup text).AmpersandsBeginEntities) ∧
      (∀ text, unescape (escapeMarkup text) = text) ∧
      Function.Injective escapeMarkup ∧
      ∀ left right, escapeMarkup (left ++ right) = escapeMarkup left ++ escapeMarkup right := by
  have reads : Function.LeftInverse unescape escapeMarkup := unescape_escapeMarkup
  exact ⟨isInert_escapeMarkup, ampersandsBeginEntities_escapeMarkup, reads, reads.injective,
    fun left right => List.flatMap_append⟩

example : escapeMarkup "&lt;&amp".toList = "&amp;lt;&amp;amp".toList := by decide

end Text
end Stencil
