import Stencil.Value.Basic
import Stencil.Number.Format

/-!
# Data text

The compact notation of values: no spaces, text in double quotes, objects in the order of their
keys.
-/

namespace Stencil
namespace DataText

/-- A digit of the hexadecimal notation, in lower case. -/
def hexDigit (value : Nat) : Char :=
  if value < 10 then Char.ofNat ('0'.toNat + value) else Char.ofNat ('a'.toNat + (value - 10))

/-- How a character is written inside quotes.  Quotes, backslashes and control characters are
escaped; every other character stands for itself. -/
def escape (character : Char) : Text :=
  match character with
  | '"' => ['\\', '"']
  | '\\' => ['\\', '\\']
  | '\x08' => ['\\', 'b']
  | '\x0c' => ['\\', 'f']
  | '\n' => ['\\', 'n']
  | '\r' => ['\\', 'r']
  | '\t' => ['\\', 't']
  | _ =>
    if character.toNat < 0x20 then
      ['\\', 'u', '0', '0', hexDigit (character.toNat / 16), hexDigit (character.toNat % 16)]
    else
      [character]

/-- A text in double quotes. -/
def quoted (text : Text) : Text := '"' :: text.flatMap escape ++ ['"']

end DataText

/-- A number in data text. -/
def Number.dataText : Number → Text
  | integer value => Text.ofInt value
  | float value => value.dataText

namespace Value

mutual
/-- A value in data text. -/
def dataText : Value → Text
  | null => "null".toList
  | bool true => "true".toList
  | bool false => "false".toList
  | number value => value.dataText
  | string value => DataText.quoted value
  | array items => '[' :: itemsText items ++ [']']
  | object entries => '\x7b' :: entriesText entries ++ ['\x7d']

/-- The items of a list, separated by commas. -/
def itemsText : List Value → Text
  | [] => []
  | [item] => item.dataText
  | item :: items => item.dataText ++ ',' :: itemsText items

/-- The entries of an object, separated by commas. -/
def entriesText : List (Text × Value) → Text
  | [] => []
  | [(key, value)] => DataText.quoted key ++ ':' :: value.dataText
  | (key, value) :: entries =>
    DataText.quoted key ++ ':' :: value.dataText ++ ',' :: entriesText entries
end

end Value
end Stencil
