import Stencil.Helper.Basic
import Stencil.Tag.Basic
import Stencil.Value.DataText

/-!
# Options of a rendering

Each rendering has settings of its own.  The delimiters can also be read from a configuration value
and written as data text.
-/

namespace Stencil
namespace Delimiters

/-- The delimiters that are used unless others are given: double braces. -/
def standard : Delimiters := {}

/-- A delimiter of a configuration: the given text, or the standard one where none is given. -/
def setting? (fallback : Text) : Option Value → Option Text
  | none => some fallback
  | some (.string text) => some text
  | some _ => none

/-- The delimiters of a configuration value: an object with the entries `open` and `close`, or a
list of at most two texts in this order. -/
def ofValue? : Value → Option Delimiters
  | .object entries => do
    let opening ← setting? standard.opening (Dictionary.get? "open".toList entries)
    let closing ← setting? standard.closing (Dictionary.get? "close".toList entries)
    return ⟨opening, closing⟩
  | .array items => do
    let opening ← setting? standard.opening items.head?
    let closing ← setting? standard.closing items[1]?
    if items.length ≤ 2 then some ⟨opening, closing⟩ else none
  | _ => none

/-- The delimiters as an object in data text. -/
def dataText (delimiters : Delimiters) : Text :=
  Value.dataText <| .object
    [("open".toList, .string delimiters.opening), ("close".toList, .string delimiters.closing)]

end Delimiters

/-- The settings of one rendering. -/
structure Options where
  /-- Whether the first problem ends the rendering. -/
  strict : Bool := false
  /-- What stands in the output for a variable without a value. -/
  fallback? : Option Text := none
  /-- Whether the characters with a meaning in markup are escaped in variables. -/
  escapesMarkup : Bool := false
  /-- Helpers for this rendering only, which count before those of the engine. -/
  overrides : Registry := []
  /-- Whether blanks are removed from both ends of the output. -/
  trims : Bool := false
  /-- Reserved for rendering parts of a template; it has no effect. -/
  inParts : Bool := false
  /-- The delimiters of tags. -/
  delimiters : Delimiters := .standard
  /-- How many blocks may stand inside each other. -/
  maxDepth : Nat := 64

end Stencil
