import Stencil.Text.Case
import Stencil.Value.Coercion

/-!
# Helpers on texts and lists

These helpers change the case of a text, shorten it, join a list, measure a value, or put a value in
the place of one that is missing.
-/

namespace Stencil
namespace Wording

/-- The text of the first argument; a missing argument has the empty text. -/
def firstText (arguments : List Value) : Text := (arguments.head?.map Value.text).getD []

/-- The first argument in upper case. -/
def upper (arguments : List Value) : Value := .string (Text.toUpper (firstText arguments))

/-- The first argument in lower case. -/
def lower (arguments : List Value) : Value := .string (Text.toLower (firstText arguments))

/-- The first argument with its first character in upper case. -/
def capitalize (arguments : List Value) : Value :=
  .string (Text.capitalize (firstText arguments))

/-- The number of characters that a number admits; `none` admits any number. -/
def characterLimit? : Double → Option Nat
  | .nan => none
  | .infinite negative => if negative then some 0 else none
  | .finite value => some value.truncate.toNat

/-- The beginning of the first argument, with a mark where something was left out. -/
def truncate (arguments : List Value) : Value :=
  let text := firstText arguments
  match characterLimit? (Value.toDouble arguments[1]?) with
  | none => .string text
  | some limit =>
    if text.length ≤ limit then
      .string text
    else
      .string (text.take limit ++ (arguments[2]?.map Value.text).getD "...".toList)

/-- The first argument, or the second one when the first is missing, `null` or an empty text. -/
def orDefault (arguments : List Value) : Value :=
  let fallback := arguments[1]?.getD .null
  match arguments.head? with
  | none => fallback
  | some .null => fallback
  | some (.string []) => fallback
  | some value => value

/-- The texts of a list with a separator between them. -/
def join (arguments : List Value) : Value :=
  let separator := (arguments[1]?.map Value.text).getD ", ".toList
  match arguments.head? with
  | some (.array items) => .string (separator.intercalate (items.map Value.text))
  | some value => .string value.text
  | none => .string []

/-- The number of items, characters or entries of the first argument. -/
def length (arguments : List Value) : Value :=
  match arguments.head? with
  | some (.array items) => .ofInt items.length
  | some (.string text) => .ofInt text.length
  | some (.object entries) => .ofInt entries.length
  | _ => .ofInt 0

end Wording
end Stencil
