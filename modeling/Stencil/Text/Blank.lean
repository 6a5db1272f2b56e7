import Stencil.Text.Basic

/-!
# Blank characters

A character is blank when it has the Unicode property `White_Space`.  Blank characters separate the
words of a tag, and trimming removes them from both ends of a text.
-/

namespace Stencil
namespace Text

/-- The characters with the property `White_Space`, as ranges of code points. -/
def blankRanges : List (Nat × Nat) :=
  [(0x9, 0xD), (0x20, 0x20), (0x85, 0x85), (0xA0, 0xA0), (0x1680, 0x1680), (0x2000, 0x200A),
    (0x2028, 0x2029), (0x202F, 0x202F), (0x205F, 0x205F), (0x3000, 0x3000)]

/-- Whether a character is blank. -/
def isBlank (character : Char) : Bool := inRanges blankRanges character

/-- A text without the blank characters at its start. -/
def trimStart (text : Text) : Text := text.dropWhile isBlank

/-- A text without the blank characters at its end. -/
def trimEnd (text : Text) : Text := (text.reverse.dropWhile isBlank).reverse

/-- A text without the blank characters at either end. -/
def trim (text : Text) : Text := trimEnd (trimStart text)

end Text
end Stencil
