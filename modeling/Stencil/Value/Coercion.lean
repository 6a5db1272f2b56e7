import Stencil.Value.DataText
import Stencil.Number.Numeral
import Stencil.Text.Blank

/-!
# Reading values as truth, text and number

Every value has a truth, a text and a number.  Conditions use the first, output the second and the
numeric helpers the third; an undefined value, written `none`, has a truth and a number as well.
-/

namespace Stencil

/-- A number as output text. -/
def Number.text : Number → Text
  | integer value => Text.ofInt value
  | float value => (Double.finite value).text

namespace Value

/-- Whether a value counts as true.  Undefined values, `null`, zero, and empty texts and lists count
as false; objects always count as true. -/
def truth : Option Value → Bool
  | none => false
  | some null => false
  | some (bool value) => value
  | some (number value) => !(value.toDouble.equal .zero)
  | some (string value) => !value.isEmpty
  | some (array items) => !items.isEmpty
  | some (object _) => true

mutual
/-- The text of a value in output.  The items of a list are joined with commas, and objects are
written as data text. -/
def text : Value → Text
  | null => []
  | bool true => "true".toList
  | bool false => "false".toList
  | number value => value.text
  | string value => value
  | array items => joinedText items
  | object entries => dataText (.object entries)

/-- The texts of a list of values, separated by commas. -/
def joinedText : List Value → Text
  | [] => []
  | [item] => item.text
  | item :: items => item.text ++ ',' :: joinedText items
end

/-- Whether a text, past any number of signs, starts like a numeral. -/
def startsNumeral (text : Text) : Bool :=
  match text.dropWhile fun character => character = '+' || character = '-' with
  | [] => false
  | character :: _ => character.isDigit || character = '.'

/-- The number that a text casts to.  Only numerals cast; the words for infinite and undefined
numbers do not. -/
def castText (text : Text) : Double :=
  let trimmed := Text.trim text
  if trimmed.isEmpty then
    .zero
  else if startsNumeral trimmed then
    (Double.ofText? trimmed).getD .nan
  else
    .nan

/-- The number that a value casts to. -/
def toDouble : Option Value → Double
  | some (number value) => value.toDouble
  | some (bool true) => Double.ofInt 1
  | some (bool false) => .zero
  | some null => .zero
  | some (string value) => castText value
  | some (array _) => .nan
  | some (object _) => .nan
  | none => .nan

/-- The value that holds the result of a calculation.  Whole numbers below the limit become
integers; numbers that are not finite have no place in data and become texts. -/
def ofDouble : Double → Value
  | .finite value =>
    if value.isIntegral then
      .number (.integer value.truncate)
    else
      .number (.float value)
  | value => .string value.text

end Value
end Stencil
