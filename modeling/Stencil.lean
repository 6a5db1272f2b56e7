import Stencil.Block.Pairing
import Stencil.Calendar.Date
import Stencil.Calendar.Pattern
import Stencil.Calendar.Reading
import Stencil.Description
import Stencil.Dictionary
import Stencil.Engine
import Stencil.Helper.Basic
import Stencil.Helper.Builtin
import Stencil.Helper.Comparison
import Stencil.Helper.Currency
import Stencil.Helper.Wording
import Stencil.Number.Arithmetic
import Stencil.Number.Double
import Stencil.Number.Format
import Stencil.Number.Numeral
import Stencil.Number.Rounding
import Stencil.Number.Shortest
import Stencil.Options
import Stencil.Problem
import Stencil.Proofs.Block.Balance
import Stencil.Proofs.Block.Counting
import Stencil.Proofs.Block.Extent
import Stencil.Proofs.Block.Matching
import Stencil.Proofs.Block.Passage
import Stencil.Proofs.Calendar.Fields
import Stencil.Proofs.Calendar.Interchange
import Stencil.Proofs.Calendar.RoundTrip
import Stencil.Proofs.Calendar.Validity
import Stencil.Proofs.Dictionary
import Stencil.Proofs.Helper.Builtin
import Stencil.Proofs.Helper.Comparison
import Stencil.Proofs.Helper.Currency
import Stencil.Proofs.Number.Decimal
import Stencil.Proofs.Number.Digits
import Stencil.Proofs.Number.Integer
import Stencil.Proofs.Number.Magnitude
import Stencil.Proofs.Number.Nearest
import Stencil.Proofs.Number.Rational
import Stencil.Proofs.Number.Rounding
import Stencil.Proofs.Number.Spelling
import Stencil.Proofs.Render.Abridgement
import Stencil.Proofs.Render.Blame
import Stencil.Proofs.Render.Concatenation
import Stencil.Proofs.Render.Contract
import Stencil.Proofs.Render.Counter
import Stencil.Proofs.Render.Demand
import Stencil.Proofs.Render.Depth
import Stencil.Proofs.Render.Escaping
import Stencil.Proofs.Render.Independence
import Stencil.Proofs.Render.Leniency
import Stencil.Proofs.Render.Limit
import Stencil.Proofs.Render.Literals
import Stencil.Proofs.Render.Naming
import Stencil.Proofs.Render.Overriding
import Stencil.Proofs.Render.Placement
import Stencil.Proofs.Render.Positions
import Stencil.Proofs.Render.Reading
import Stencil.Proofs.Render.Relocation
import Stencil.Proofs.Render.Remainder
import Stencil.Proofs.Render.Replacement
import Stencil.Proofs.Render.Sequence
import Stencil.Proofs.Render.Strictness
import Stencil.Proofs.Render.Substitution
import Stencil.Proofs.Render.Swapping
import Stencil.Proofs.Render.Termination
import Stencil.Proofs.Render.Uniformity
import Stencil.Proofs.Render.Unrolling
import Stencil.Proofs.Render.Variation
import Stencil.Proofs.Report.Account
import Stencil.Proofs.Report.Basic
import Stencil.Proofs.Scope.Chain
import Stencil.Proofs.Scope.Descent
import Stencil.Proofs.Scope.Flattening
import Stencil.Proofs.Scope.Lookup
import Stencil.Proofs.Source.Bodies
import Stencil.Proofs.Source.Concatenation
import Stencil.Proofs.Source.Fate
import Stencil.Proofs.Source.Layout
import Stencil.Proofs.Source.Lone
import Stencil.Proofs.Source.Mention
import Stencil.Proofs.Source.Nesting
import Stencil.Proofs.Source.Outline
import Stencil.Proofs.Source.Portion
import Stencil.Proofs.Source.Position
import Stencil.Proofs.Source.Relocation
import Stencil.Proofs.Source.Tiling
import Stencil.Proofs.Tag.Account
import Stencil.Proofs.Tag.Content
import Stencil.Proofs.Tag.Exhaustion
import Stencil.Proofs.Tag.Fragment
import Stencil.Proofs.Tag.Locality
import Stencil.Proofs.Tag.Loose
import Stencil.Proofs.Tag.Scanning
import Stencil.Proofs.Tag.Segment
import Stencil.Proofs.Tag.Splitting
import Stencil.Proofs.Text.Cut
import Stencil.Proofs.Text.Entity
import Stencil.Proofs.Text.Fitting
import Stencil.Proofs.Text.Gap
import Stencil.Proofs.Text.InPlace
import Stencil.Proofs.Text.Layout
import Stencil.Proofs.Text.Markup
import Stencil.Proofs.Text.Occurrence
import Stencil.Proofs.Text.Splice
import Stencil.Proofs.Text.Trimming
import Stencil.Proofs.Tree.Basic
import Stencil.Proofs.Tree.Evaluation
import Stencil.Proofs.Tree.Interpretation
import Stencil.Proofs.Tree.Reading
import Stencil.Proofs.Tree.Rendering
import Stencil.Proofs.Value.Casting
import Stencil.Proofs.Value.Numeral
import Stencil.Proofs.Value.Sameness
import Stencil.Proofs.Value.Wrapping
import Stencil.Render.Evaluation
import Stencil.Render.Run
import Stencil.Report
import Stencil.Scope
import Stencil.Source
import Stencil.Tag.Basic
import Stencil.Tag.Sighting
import Stencil.Tag.Word
import Stencil.Text.Basic
import Stencil.Text.Blank
import Stencil.Text.Case
import Stencil.Text.CaseContext
import Stencil.Text.CaseMapping
import Stencil.Text.Entity
import Stencil.Text.Splice
import Stencil.Token
import Stencil.Value.Basic
import Stencil.Value.Coercion
import Stencil.Value.DataText
