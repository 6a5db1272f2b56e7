import Stencil.Block.Pairing

/-!
# Tokens of a template

A token is an expression or a whole block.  The bodies of a block are kept as text, together with
where they stand in the whole template, and are read when they are rendered.
-/

namespace Stencil

/-- The text inside a block. -/
structure Body where
  /-- The text. -/
  text : Text
  /-- Where the text stands in the whole template. -/
  offset : Nat
deriving DecidableEq, Repr

namespace Token

/-- What a token stands for. -/
inductive Form where
  /-- The value of a variable. -/
  | field (path : Text)
  /-- The result of a helper. -/
  | call (name : Text) (arguments : List Text)
  /-- One of two bodies: the first one when the condition comes out as `wanted`. -/
  | branch
    (wanted : Bool)
    (path : Text)
    (arguments : List Text)
    (body : Body)
    (alternative? : Option Body)
  /-- A body for every item of a list. -/
  | loop (path : Text) (body : Body)
deriving DecidableEq, Repr

end Token

/-- An expression or a whole block of a text. -/
structure Token where
  /-- What the token stands for. -/
  form : Token.Form
  /-- The text of the token, delimiters included. -/
  raw : Text
  /-- Where the token stands in the text that was read. -/
  span : Span
deriving DecidableEq, Repr

namespace Token

/-- The variable or helper of a token. -/
def path (token : Token) : Text :=
  match token.form with
  | .field path => path
  | .call name _ => name
  | .branch _ path _ _ _ => path
  | .loop path _ => path

/-- The arguments of a token. -/
def arguments (token : Token) : List Text :=
  match token.form with
  | .call _ arguments => arguments
  | .branch _ _ arguments _ _ => arguments
  | _ => []

/-- The bodies of a token, in the order of their text. -/
def bodies (token : Token) : List Body :=
  match token.form with
  | .branch _ _ _ body alternative? => body :: alternative?.toList
  | .loop _ body => [body]
  | _ => []

/-- What the words of an expression stand for, where `isHelper` knows the names of helpers.  A
single word calls a helper of that name unless it is dotted; further words make a call of it. -/
def Form.ofWords (isHelper : Text → Bool) : List Text → Form
  | [] => .field []
  | [word] => if !word.contains '.' && isHelper word then .call word [] else .field word
  | name :: arguments => .call name arguments

/-- What a block stands for. -/
def Form.ofBlock
    (block : Block)
    (path : Text)
    (arguments : List Text)
    (body : Body)
    (alternative? : Option Body) : Form :=
  match block with
  | .whenTrue => .branch true path arguments body alternative?
  | .whenFalse => .branch false path arguments body alternative?
  | .forEach => .loop path body

end Token

end Stencil
