import Stencil.Problem
import Stencil.Tag.Sighting
import Stencil.Token

/-!
# Reading one level of a template

A template is read one level at a time.  Its tokens are the expressions and the whole blocks at the
top level.  Tags that fit nowhere are reported and stay in the text.
-/

namespace Stencil

/-- A text that stands at a position of the whole template, with what is needed to read it. -/
structure Source where
  /-- The text. -/
  text : Text
  /-- Where the text stands in the whole template. -/
  base : Nat
  /-- The delimiters of tags. -/
  delimiters : Delimiters
  /-- Which names are names of helpers. -/
  isHelper : Text → Bool

/-- The tokens and the problems of a list of tags. -/
structure Outline where
  /-- The tokens, in the order of their spans. -/
  tokens : List Token := []
  /-- The problems, in the order of their tags. -/
  problems : List Problem := []
deriving DecidableEq, Repr

namespace Outline

/-- Put a token in front. -/
def withToken (outline : Outline) (token : Token) : Outline :=
  { outline with tokens := token :: outline.tokens }

/-- Put a problem in front. -/
def withProblem (outline : Outline) (problem : Problem) : Outline :=
  { outline with problems := problem :: outline.problems }

end Outline

namespace Source

/-- The token of a text with the given form and span. -/
def token (source : Source) (form : Token.Form) (span : Span) : Token :=
  ⟨form, Text.slice source.text span.start span.stop, span⟩

/-- The body between two positions of the text. -/
def body (source : Source) (start stop : Nat) : Body :=
  ⟨Text.slice source.text start stop, source.base + start⟩

/-- The token of a block, from its opening tag to its closing tag. -/
def blockToken
    (source : Source)
    (block : Block)
    (path : Text)
    (arguments : List Text)
    (opening : Span)
    (closing : Block.Closing) : Token :=
  let close := closing.close.tag.span
  let form :=
    match closing.alternative? with
    | some alternative =>
      Token.Form.ofBlock block path arguments
        (source.body opening.stop alternative.tag.span.start)
        (some (source.body alternative.tag.span.stop close.start))
    | none =>
      Token.Form.ofBlock block path arguments (source.body opening.stop close.start) none
  source.token form ⟨opening.start, close.stop⟩

/-- Read a list of tags.  A block takes all tags up to its closing tag; an opening tag that cannot
be paired is reported alone, and the tags after it are read as usual. -/
def outline (source : Source) : List Tag → Outline
  | [] => {}
  | tag :: tags =>
    let offset := source.base + tag.span.start
    match tag.kind with
    | .expression words =>
      (source.outline tags).withToken
        (source.token (Token.Form.ofWords source.isHelper words) tag.span)
    | .otherwise => (source.outline tags).withProblem (.strayElse offset)
    | .closing name => (source.outline tags).withProblem (.unexpectedClose name offset)
    | .opening name arguments =>
      match Block.ofName? name with
      | none => (source.outline tags).withProblem (.unknownBlock name offset)
      | some block =>
        match block.closing? tags with
        | none => (source.outline tags).withProblem (.unclosedBlock name offset)
        | some closing =>
          let after := source.outline (tags.drop (closing.close.position + 1))
          match arguments with
          | [] => after.withProblem (.missingBlockTarget name offset)
          | path :: others =>
            after.withToken (source.blockToken block path others tag.span closing)
termination_by tags => tags.length
decreasing_by
  all_goals
    simp only [List.length_cons, List.length_drop]
    omega

end Source

/-- What one level of a template holds. -/
structure Parsed where
  /-- The tokens, in the order of their spans. -/
  tokens : List Token
  /-- The problems of its tags. -/
  problems : List Problem
  /-- Where an opening delimiter stands that is never closed. -/
  unterminated? : Option Nat
  /-- Where opening delimiters stand that are opened again before they are closed. -/
  abandoned : List Nat
deriving DecidableEq, Repr

namespace Source

/-- What a scan of the text meets, positions being those in the text. -/
def sightings (source : Source) : List Sighting :=
  Sighting.scan source.delimiters 0 source.text

/-- The tags of the text. -/
def tags (source : Source) : List Tag := source.sightings.filterMap Sighting.tag?

/-- Read one level of a template. -/
def parse (source : Source) : Parsed :=
  let sightings := source.sightings
  let outline := source.outline (sightings.filterMap Sighting.tag?)
  { tokens := outline.tokens
    problems := outline.problems
    unterminated? :=
      (sightings.findSome? Sighting.unterminated?).map fun start => source.base + start
    abandoned :=
      (sightings.filterMap Sighting.reopened?).map fun start => source.base + start }

end Source
end Stencil
