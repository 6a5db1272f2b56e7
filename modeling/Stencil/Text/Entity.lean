import Stencil.Text.Basic

/-!
# Character entities

Five characters have a meaning in markup.  Escaping writes each of them as an entity, so that the
escaped text holds no markup of its own.
-/

namespace Stencil
namespace Text

/-- How a character is written inside markup. -/
def entity (character : Char) : Text :=
  match character with
  | '&' => "&amp;".toList
  | '<' => "&lt;".toList
  | '>' => "&gt;".toList
  | '"' => "&quot;".toList
  | '\'' => "&#39;".toList
  | _ => [character]

/-- A text in which the characters with a meaning in markup are written as entities. -/
def escapeMarkup (text : Text) : Text := text.flatMap entity

@[simp] theorem escapeMarkup_nil : escapeMarkup [] = [] := rfl

@[simp] theorem escapeMarkup_cons (character : Char) (rest : Text) :
    escapeMarkup (character :: rest) = entity character ++ escapeMarkup rest := rfl

end Text
end Stencil
