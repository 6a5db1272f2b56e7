import Stencil.Text.Blank

/-!
# Words of a tag

The content of a tag is a list of words.  Blank characters separate them, except inside a quoted
literal, which is one word with its quotes and ends at its closing quote.
-/

namespace Stencil
namespace Word

/-- Whether a character opens a quoted literal. -/
def isQuote (character : Char) : Bool := character = '"' || character = '\''

/-- What follows an opening quote up to and with the closing quote, and what comes after it.
Without a closing quote the literal runs to the end. -/
def throughQuote (quote : Char) : Text → Text × Text
  | [] => ([], [])
  | character :: rest =>
    if character = quote then
      ([character], rest)
    else
      let (literal, after) := throughQuote quote rest
      (character :: literal, after)

theorem length_throughQuote_le (quote : Char) (text : Text) :
    (throughQuote quote text).2.length ≤ text.length := by
  induction text with
  | nil => simp [throughQuote]
  | cons character rest inductionHypothesis =>
    unfold throughQuote
    split
    · simp
    · simpa using Nat.le_succ_of_le inductionHypothesis

theorem length_dropWhile_le (keep : Char → Bool) (text : Text) :
    (text.dropWhile keep).length ≤ text.length :=
  (List.dropWhile_sublist keep).length_le

/-- The words of a text, in order. -/
def split : Text → List Text
  | [] => []
  | character :: rest =>
    if Text.isBlank character then
      split rest
    else if isQuote character then
      (character :: (throughQuote character rest).1) :: split (throughQuote character rest).2
    else
      (character :: rest.takeWhile fun next => !Text.isBlank next) ::
        split (rest.dropWhile fun next => !Text.isBlank next)
termination_by text => text.length
decreasing_by
  · simp
  · exact Nat.lt_succ_of_le (length_throughQuote_le character rest)
  · exact Nat.lt_succ_of_le (length_dropWhile_le _ rest)

/-- What a literal holds between two equal quotes. -/
def unquote? : Text → Option Text
  | [] => none
  | first :: rest =>
    if isQuote first && rest.getLast? = some first then some rest.dropLast else none

end Word
end Stencil
