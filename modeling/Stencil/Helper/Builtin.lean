import Stencil.Calendar.Pattern
import Stencil.Helper.Basic
import Stencil.Helper.Comparison
import Stencil.Helper.Currency
import Stencil.Helper.Wording
import Stencil.Number.Arithmetic

/-!
# The built-in helpers

Every built-in helper answers every list of arguments with a value.
-/

namespace Stencil
namespace Builtin

/-- The result of an operation on the numbers of the first two arguments. -/
def calculate
    (operation : Double → Double → Double)
    (arguments : List Value) : Value :=
  .ofDouble (operation (Value.toDouble arguments.head?) (Value.toDouble arguments[1]?))

/-- The built-in helpers by name. -/
def functions : List (Text × (List Value → Value)) :=
  [("formatDate".toList, Moment.formatArguments),
    ("formatCurrency".toList, Currency.formatArguments),
    ("upper".toList, Wording.upper),
    ("lower".toList, Wording.lower),
    ("capitalize".toList, Wording.capitalize),
    ("truncate".toList, Wording.truncate),
    ("default".toList, Wording.orDefault),
    ("join".toList, Wording.join),
    ("length".toList, Wording.length),
    ("add".toList, calculate Double.add),
    ("subtract".toList, calculate Double.subtract),
    ("multiply".toList, calculate Double.multiply),
    ("divide".toList, calculate Double.divide),
    ("eq".toList, Comparison.equal),
    ("ne".toList, Comparison.notEqual),
    ("gt".toList, Comparison.greater),
    ("lt".toList, Comparison.less),
    ("and".toList, Comparison.all),
    ("or".toList, Comparison.any),
    ("not".toList, Comparison.negation)]

end Builtin

namespace Registry

/-- The registry without helpers. -/
def empty : Registry := []

/-- The registry of the built-in helpers. -/
def builtin : Registry :=
  Dictionary.ofList <|
    Builtin.functions.map fun (name, function) =>
      (name, fun arguments => HelperAnswer.value (function arguments))

end Registry
end Stencil
