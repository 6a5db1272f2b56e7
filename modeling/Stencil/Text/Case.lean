import Stencil.Text.CaseMapping
import Stencil.Text.CaseContext
import Stencil.Text.Basic

/-!
# Changing the case of a text

Upper and lower case follow the full Unicode mappings: one character may become several, and a
capital sigma at the end of a word becomes a final sigma.
-/

namespace Stencil
namespace Text

/-- The mapping of one character: its sequence if it has one, or else its run. -/
def mapCharacter
    (sequences : List (Nat × List Nat))
    (runs : List CaseRun)
    (character : Char) : Text :=
  match sequences.lookup character.toNat with
  | some codes => codes.map Char.ofNat
  | none => [Char.ofNat (mapThrough runs character.toNat)]

/-- The upper-case form of one character. -/
def upperCharacter (character : Char) : Text :=
  mapCharacter upperSequences upperRuns character

/-- The lower-case form of one character outside any word. -/
def lowerCharacter (character : Char) : Text :=
  mapCharacter lowerSequences lowerRuns character

/-- A text in upper case. -/
def toUpper (text : Text) : Text := text.flatMap upperCharacter

/-- A text whose first character is in upper case. -/
def capitalize : Text → Text
  | [] => []
  | first :: rest => upperCharacter first ++ rest

/-- Whether the next character that is not looked through is a letter. -/
def meetsLetter (text : Text) : Bool :=
  match text.dropWhile (inRanges caseIgnorableRanges) with
  | [] => false
  | character :: _ => inRanges casedRanges character

/-- A text in lower case, where `before` holds the characters already passed, nearest first. -/
def lowerFrom (before : Text) : Text → Text
  | [] => []
  | character :: rest =>
    let lowered :=
      if character = 'Σ' then
        if meetsLetter before && !meetsLetter rest then ['ς'] else ['σ']
      else
        lowerCharacter character
    lowered ++ lowerFrom (character :: before) rest

/-- A text in lower case. -/
def toLower (text : Text) : Text := lowerFrom [] text

end Text
end Stencil
