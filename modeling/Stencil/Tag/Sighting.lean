import Stencil.Tag.Basic

/-!
# What a scan for tags meets

Scanning goes through a text from one opening delimiter to the next and gives an account of all of
them: a tag, a blank tag, a delimiter that is opened again before it is closed, or one that is never
closed.  Nothing else of the text matters to it, and an empty delimiter meets nothing.
-/

namespace Stencil

/-- What scanning meets at an opening delimiter. -/
inductive Sighting where
  /-- A tag. -/
  | tag (tag : Tag)
  /-- A tag without content, which is left as text. -/
  | blank (span : Span)
  /-- A delimiter at the given position that opens again before it closes. -/
  | reopened (start : Nat)
  /-- A delimiter at the given position that never closes. -/
  | unterminated (start : Nat)
deriving DecidableEq, Repr

namespace Sighting

/-- The tag that was met. -/
def tag? : Sighting → Option Tag
  | .tag found => some found
  | _ => none

/-- The position of a reopened delimiter. -/
def reopened? : Sighting → Option Nat
  | .reopened start => some start
  | _ => none

/-- The position of a delimiter that never closes. -/
def unterminated? : Sighting → Option Nat
  | .unterminated start => some start
  | _ => none

/-- What is met by a scan with a nonempty opening delimiter, from a text that stands at the given
position of the whole. -/
def scanFrom
    (delimiters : Delimiters)
    (usable : delimiters.opening ≠ [])
    (position : Nat)
    (text : Text) : List Sighting :=
  match _opened : Text.cut? delimiters.opening text with
  | none => []
  | some (before, inside) =>
    let start := position + Text.size before
    match _closed : Text.cut? delimiters.closing inside with
    | none => [.unterminated start]
    | some (content, after) =>
      match Text.cut? delimiters.opening content with
      | some (skipped, _) =>
        .reopened start ::
          scanFrom delimiters usable
            (start + Text.size delimiters.opening + Text.size skipped)
            (inside.drop skipped.length)
      | none =>
        let stop :=
          start + Text.size delimiters.opening + Text.size content + Text.size delimiters.closing
        let trimmed := Text.trim content
        let sighting :=
          if trimmed.isEmpty then .blank ⟨start, stop⟩
          else .tag ⟨Tag.Kind.ofContent trimmed, ⟨start, stop⟩⟩
        sighting :: scanFrom delimiters usable stop after
termination_by text.length
decreasing_by
  all_goals
    have opening := List.length_pos_iff.mpr usable
    have outer := congrArg List.length (Text.eq_append_of_cut? _opened)
    have inner := congrArg List.length (Text.eq_append_of_cut? _closed)
    simp only [List.length_append, List.length_drop] at outer inner ⊢
    omega

/-- What is met by a scan of a text that stands at the given position of the whole. -/
def scan (delimiters : Delimiters) (position : Nat) (text : Text) : List Sighting :=
  if usable : delimiters.opening ≠ [] ∧ delimiters.closing ≠ [] then
    scanFrom delimiters usable.1 position text
  else
    []

end Sighting

/-- A scan in progress, which hands out one tag at a time. -/
structure Scanner where
  /-- What is still to be met. -/
  ahead : List Sighting
  /-- Positions of the reopened delimiters met so far, in order. -/
  abandoned : List Nat := []
  /-- Position of the delimiter that never closes, once met. -/
  unterminated? : Option Nat := none
deriving DecidableEq, Repr

namespace Scanner

/-- A scan at the start of a text. -/
def ofText (delimiters : Delimiters) (text : Text) : Scanner :=
  { ahead := Sighting.scan delimiters 0 text }

/-- The next tag among what is ahead, and the scan after it. -/
def nextFrom (abandoned : List Nat) (unterminated? : Option Nat) :
    List Sighting → Option Tag × Scanner
  | [] => (none, ⟨[], abandoned, unterminated?⟩)
  | .tag tag :: ahead => (some tag, ⟨ahead, abandoned, unterminated?⟩)
  | .blank _ :: ahead => nextFrom abandoned unterminated? ahead
  | .reopened start :: ahead => nextFrom (abandoned ++ [start]) unterminated? ahead
  | .unterminated start :: ahead => nextFrom abandoned (some start) ahead

/-- The next tag, if there is one, and the scan after it. -/
def next (scanner : Scanner) : Option Tag × Scanner :=
  nextFrom scanner.abandoned scanner.unterminated? scanner.ahead

end Scanner
end Stencil
