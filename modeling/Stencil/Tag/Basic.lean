import Stencil.Tag.Word
import Stencil.Text.Splice

/-!
# Tags

A tag is a piece of template text between an opening and a closing delimiter.  Its content decides
whether it opens a block, closes one, starts an alternative or stands for an expression.
-/

namespace Stencil

/-- The delimiters of tags. -/
structure Delimiters where
  /-- What a tag starts with. -/
  opening : Text := ['\x7b', '\x7b']
  /-- What a tag ends with. -/
  closing : Text := ['\x7d', '\x7d']
deriving DecidableEq, Repr, Inhabited

namespace Tag

/-- What a tag is for. -/
inductive Kind where
  /-- Opens a block, or claims to. -/
  | opening (name : Text) (arguments : List Text)
  /-- Closes a block. -/
  | closing (name : Text)
  /-- Starts the alternative of a block. -/
  | otherwise
  /-- A variable or a call of a helper. -/
  | expression (words : List Text)
deriving DecidableEq, Repr

end Tag

/-- A tag of a text. -/
structure Tag where
  /-- What the tag is for. -/
  kind : Tag.Kind
  /-- Where the tag stands, delimiters included. -/
  span : Span
deriving DecidableEq, Repr

namespace Tag

/-- The kind of a tag with the given trimmed content. -/
def Kind.ofContent : Text → Kind
  | '#' :: rest =>
    match Word.split rest with
    | [] => .opening [] []
    | name :: arguments => .opening name arguments
  | '/' :: rest => .closing (Text.trim rest)
  | content => if content = "else".toList then .otherwise else .expression (Word.split content)

end Tag
end Stencil
