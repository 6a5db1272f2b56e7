import Stencil.Text.Case
import Stencil.Value.Coercion

/-!
# Amounts of money

An amount is rounded to the places of its currency.  Its digits are grouped by three before the
point, and its sign is dropped when all that is left is zero.
-/

namespace Stencil

/-- How amounts of a currency are written. -/
structure Currency where
  /-- What stands in front of the digits. -/
  lead : Text
  /-- Number of digits after the point. -/
  places : Nat
deriving DecidableEq, Repr

namespace Currency

/-- The currency of a code in upper case.  A code without a sign of its own is written out. -/
def ofCode (code : Text) : Currency :=
  if code = "USD".toList then
    ⟨"$".toList, 2⟩
  else if code = "EUR".toList then
    ⟨"€".toList, 2⟩
  else if code = "GBP".toList then
    ⟨"£".toList, 2⟩
  else if code = "JPY".toList then
    ⟨"¥".toList, 0⟩
  else
    ⟨code ++ [' '], 2⟩

/-- Digits with a comma before every full group of three. -/
def grouped : Text → Text
  | [] => []
  | digit :: rest =>
    if !rest.isEmpty && rest.length % 3 = 0 then
      digit :: ',' :: grouped rest
    else
      digit :: grouped rest

/-- The digits before the point of a whole number of last places. -/
def wholeDigits (places amount : Nat) : Text := Text.ofNat (amount / Nat.pow 10 places)

/-- The point and the digits after it. -/
def fractionDigits (places amount : Nat) : Text :=
  if places = 0 then
    []
  else
    '.' :: Text.padZeros places (Text.ofNat (amount % Nat.pow 10 places))

/-- The text of a finite amount. -/
def format (currency : Currency) (amount : Finite) : Text :=
  let rounded := amount.inPlaces currency.places
  let sign := if amount.negative && decide (rounded ≠ 0) then ['-'] else []
  sign ++ currency.lead ++ grouped (wholeDigits currency.places rounded) ++
    fractionDigits currency.places rounded

/-- The first argument as an amount of the currency that the second one names. -/
def formatArguments (arguments : List Value) : Value :=
  match Value.toDouble arguments.head? with
  | .finite amount =>
    let code := (arguments[1]?.map Value.text).getD "USD".toList
    .string ((ofCode (Text.toUpper code)).format amount)
  | amount => .string amount.text

end Currency
end Stencil
