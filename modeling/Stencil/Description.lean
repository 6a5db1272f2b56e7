import Stencil.Engine

/-!
# Descriptions of settings and engines

Settings, registries and engines can be described for a reader: as one line, or with one field to a
line.  Helpers are described by their names alone.
-/

namespace Stencil

/-- The parts of a description. -/
inductive Description where
  /-- A word or a number. -/
  | word (text : Text)
  /-- A quoted text. -/
  | quoted (text : Text)
  /-- A description inside a named wrapper. -/
  | wrapped (name : Text) (content : Description)
  /-- Several descriptions. -/
  | list (items : List Description)
  /-- Named fields. -/
  | record (name : Text) (fields : List (Text × Description))
deriving Repr, Inhabited

namespace Description

/-- How a character is written inside quotes.  Quotes, backslashes and control characters are
escaped. -/
def escape (character : Char) : Text :=
  match character with
  | '"' => ['\\', '"']
  | '\\' => ['\\', '\\']
  | '\n' => ['\\', 'n']
  | '\r' => ['\\', 'r']
  | '\t' => ['\\', 't']
  | '\x00' => ['\\', '0']
  | _ =>
    if character.toNat < 0x20 || character.toNat = 0x7F then
      "\\u\x7b".toList ++ Nat.toDigits 16 character.toNat ++ ['\x7d']
    else
      [character]

/-- A text in double quotes. -/
def quote (text : Text) : Text := '"' :: text.flatMap escape ++ ['"']

mutual
/-- A description as one line. -/
def line : Description → Text
  | word text => text
  | quoted text => quote text
  | wrapped name content => name ++ '(' :: content.line ++ [')']
  | list items => '[' :: lineItems items ++ [']']
  | record name fields => name ++ " \x7b ".toList ++ lineFields fields ++ " \x7d".toList

/-- Descriptions separated by commas. -/
def lineItems : List Description → Text
  | [] => []
  | [item] => item.line
  | item :: items => item.line ++ ", ".toList ++ lineItems items

/-- Fields separated by commas. -/
def lineFields : List (Text × Description) → Text
  | [] => []
  | [(name, content)] => name ++ ": ".toList ++ content.line
  | (name, content) :: fields =>
    name ++ ": ".toList ++ content.line ++ ", ".toList ++ lineFields fields
end

/-- The start of a line at a level of indentation. -/
def indentation (level : Nat) : Text := List.replicate (4 * level) ' '

mutual
/-- A description over several lines, at a level of indentation. -/
def block (level : Nat) : Description → Text
  | word text => text
  | quoted text => quote text
  | wrapped name content =>
    name ++ "(\n".toList ++ indentation (level + 1) ++ content.block (level + 1) ++
      ",\n".toList ++ indentation level ++ [')']
  | list [] => "[]".toList
  | list (item :: items) =>
    "[\n".toList ++ blockItems (level + 1) (item :: items) ++ indentation level ++ [']']
  | record name fields =>
    name ++ " \x7b\n".toList ++ blockFields (level + 1) fields ++ indentation level ++ ['\x7d']

/-- Descriptions on lines of their own. -/
def blockItems (level : Nat) : List Description → Text
  | [] => []
  | item :: items =>
    indentation level ++ item.block level ++ ",\n".toList ++ blockItems level items

/-- Fields on lines of their own. -/
def blockFields (level : Nat) : List (Text × Description) → Text
  | [] => []
  | (name, content) :: fields =>
    indentation level ++ name ++ ": ".toList ++ content.block level ++ ",\n".toList ++
      blockFields level fields
end

/-- A truth value. -/
def ofBool (value : Bool) : Description :=
  .word (if value then "true".toList else "false".toList)

/-- A text that may be absent. -/
def ofText? : Option Text → Description
  | none => .word "None".toList
  | some text => .wrapped "Some".toList (.quoted text)

/-- The names of the helpers of a registry, in order. -/
def ofNames (registry : Registry) : Description :=
  .list ((Dictionary.keys registry).map Description.quoted)

/-- Delimiters of tags. -/
def ofDelimiters (delimiters : Delimiters) : Description :=
  .record "Delimiters".toList
    [("open".toList, .quoted delimiters.opening), ("close".toList, .quoted delimiters.closing)]

/-- A registry of helpers. -/
def ofRegistry (registry : Registry) : Description :=
  .record "HelperRegistry".toList [("helpers".toList, ofNames registry)]

/-- An engine. -/
def ofEngine (engine : Engine) : Description :=
  .record "TemplateEngine".toList [("helpers".toList, ofRegistry engine.registry)]

/-- The settings of a rendering. -/
def ofOptions (options : Options) : Description :=
  .record "ProcessOptions".toList
    [("strict".toList, ofBool options.strict),
      ("default_value".toList, ofText? options.fallback?),
      ("escape_html".toList, ofBool options.escapesMarkup),
      ("helpers".toList, ofNames options.overrides),
      ("trim".toList, ofBool options.trims),
      ("partial".toList, ofBool options.inParts),
      ("delimiters".toList, ofDelimiters options.delimiters),
      ("max_depth".toList, .word (Text.ofNat options.maxDepth))]

end Description
end Stencil
