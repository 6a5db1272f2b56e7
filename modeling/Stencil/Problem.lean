import Stencil.Text.Basic

/-!
# Problems of templates

A problem is a fault of a template, of the data it is rendered against or of a helper.  A notice is
a remark about a place where rendering goes on as if nothing were wrong.  Both have a text, and some
of them are about a variable or a helper, which is then their path.
-/

namespace Stencil

/-- A fault found while reading or rendering a template. -/
inductive Problem where
  /-- A block without a closing tag. -/
  | unclosedBlock (name : Text) (offset : Nat)
  /-- A closing tag without a block. -/
  | unexpectedClose (name : Text) (offset : Nat)
  /-- An alternative outside the blocks that can have one. -/
  | strayElse (offset : Nat)
  /-- A block of no known kind. -/
  | unknownBlock (name : Text) (offset : Nat)
  /-- A block that names nothing to decide or to repeat. -/
  | missingBlockTarget (name : Text) (offset : Nat)
  /-- A variable without a value. -/
  | missingVariable (path : Text)
  /-- A helper that is not known. -/
  | missingHelper (name : Text)
  /-- A loop over something that is not a list. -/
  | notIterable (path : Text)
  /-- A helper that failed. -/
  | helperFailed (name message : Text)
  /-- Blocks inside each other beyond the limit. -/
  | depthExceeded (limit : Nat)
deriving DecidableEq, Repr

namespace Problem

/-- The text that reports a problem. -/
def message : Problem → Text
  | unclosedBlock name offset =>
    "block `#".toList ++ name ++ "` opened at offset ".toList ++ Text.ofNat offset ++
      " is never closed".toList
  | unexpectedClose name offset =>
    "closing tag `/".toList ++ name ++ "` at offset ".toList ++ Text.ofNat offset ++
      " has no matching open block".toList
  | strayElse offset =>
    "`else` at offset ".toList ++ Text.ofNat offset ++
      " is not inside an `if` or `unless` block".toList
  | unknownBlock name offset =>
    "unknown block `#".toList ++ name ++ "` at offset ".toList ++ Text.ofNat offset
  | missingBlockTarget name offset =>
    "block `#".toList ++ name ++ "` at offset ".toList ++ Text.ofNat offset ++
      " has no target".toList
  | missingVariable path => "missing variable `".toList ++ path ++ "`".toList
  | missingHelper name => "missing helper `".toList ++ name ++ "`".toList
  | notIterable path => "`".toList ++ path ++ "` is not a list and cannot be iterated".toList
  | helperFailed name message =>
    "helper `".toList ++ name ++ "` failed: ".toList ++ message
  | depthExceeded limit =>
    "blocks nested deeper than ".toList ++ Text.ofNat limit ++ " levels".toList

/-- The variable or helper that a problem is about. -/
def path? : Problem → Option Text
  | missingVariable path => some path
  | notIterable path => some path
  | missingHelper name => some name
  | helperFailed name _ => some name
  | _ => none

end Problem

/-- A remark about something that rendering passes over. -/
inductive Notice where
  /-- An opening delimiter that is never closed. -/
  | unterminated (offset : Nat)
  /-- An opening delimiter that is opened again before it is closed. -/
  | reopened (offset : Nat)
  /-- A loop over something that is not a list. -/
  | notIterable (path : Text)
deriving DecidableEq, Repr

namespace Notice

/-- The text that reports a remark. -/
def message : Notice → Text
  | unterminated offset =>
    "unterminated tag at offset ".toList ++ Text.ofNat offset ++ " left as text".toList
  | reopened offset =>
    "tag opened at offset ".toList ++ Text.ofNat offset ++
      " is reopened before closing, left as text".toList
  | notIterable path => (Problem.notIterable path).message

/-- The variable that a remark is about. -/
def path? : Notice → Option Text
  | notIterable path => some path
  | _ => none

end Notice

/-- What a report says about one problem or notice. -/
structure Diagnostic where
  /-- The text. -/
  message : Text
  /-- The variable or helper that it is about. -/
  path? : Option Text
deriving DecidableEq, Repr

/-- The entry for a problem. -/
def Problem.diagnostic (problem : Problem) : Diagnostic := ⟨problem.message, problem.path?⟩

/-- The entry for a notice. -/
def Notice.diagnostic (notice : Notice) : Diagnostic := ⟨notice.message, notice.path?⟩

end Stencil
