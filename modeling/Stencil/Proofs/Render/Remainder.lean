import Stencil.Proofs.Render.Substitution
import Stencil.Proofs.Source.Fate
import Stencil.Proofs.Source.Layout

/-!
# What reading leaves as text

Reading a text loses none of its tags.  The tags that come to no token are reported, alone or with
the block that they lie in, and rendering leaves them in the output as they are.
-/

namespace Stencil

/-- Tokens that lie outside of a span are those before it and those behind it. -/
theorem Token.exists_split_of_apart
    {text : Text}
    {tokens : List Token}
    {span : Span}
    (fits : Text.Fits text (tokens.map Token.span))
    (apart : ∀ token ∈ tokens, token.span.stop ≤ span.start ∨ span.stop ≤ token.span.start) :
    ∃ early late, tokens = early ++ late ∧ (∀ token ∈ early, token.span.stop ≤ span.start) ∧
      ∀ token ∈ late, span.stop ≤ token.span.start := by
  induction tokens with
  | nil =>
    exact ⟨[], [], rfl, fun _ absent => absurd absent List.not_mem_nil,
      fun _ absent => absurd absent List.not_mem_nil⟩
  | cons token tokens inductionHypothesis =>
    obtain ⟨here, others⟩ := List.forall_mem_cons.mp apart
    rcases here with before | behind
    · obtain ⟨early, late, rfl, isEarly, isLate⟩ := inductionHypothesis fits.tail others
      exact ⟨token :: early, late, rfl, List.forall_mem_cons.mpr ⟨before, isEarly⟩, isLate⟩
    · have ordered := fits.ordered token.span List.mem_cons_self
      have later := (List.pairwise_cons.mp fits.apart).1
      refine ⟨[], token :: tokens, rfl, fun _ absent => absurd absent List.not_mem_nil, ?_⟩
      refine List.forall_mem_cons.mpr ⟨behind, fun other member => ?_⟩
      have := later other.span (List.mem_map_of_mem member)
      omega

namespace Environment

variable
  (environment : Environment)
  (evaluateBody : BodyEvaluator)
  (scope : Scope)

/-- Whether an output keeps a span of a text as it is, between what becomes of the text before it
and of the text behind it when the tokens on either side are replaced. -/
def Keeps (text : Text) (tokens : List Token) (span : Span) (output : Text) : Prop :=
  ∃ early late edits later, tokens = early ++ late ∧
    (∀ token ∈ early, token.span.stop ≤ span.start) ∧
    (∀ token ∈ late, span.stop ≤ token.span.start) ∧
    List.Forall₂ (environment.IsEditFor evaluateBody scope) early edits ∧
    List.Forall₂ (environment.IsEditFor evaluateBody scope) late later ∧
    output = Text.patch (Text.slice text 0 span.start) 0 edits ++
      Text.slice text span.start span.stop ++ Text.patch text span.stop later

variable {environment evaluateBody scope}

/-- A span outside of all tokens is kept. -/
theorem keeps_of_apart
    {text output : Text}
    {tokens : List Token}
    {span : Span}
    (fits : Text.Fits text (tokens.map Token.span))
    (apart : ∀ token ∈ tokens, token.span.stop ≤ span.start ∨ span.stop ≤ token.span.start)
    (ordered : span.start ≤ span.stop)
    (startBoundary : Text.IsBoundary text span.start)
    (stopBoundary : Text.IsBoundary text span.stop)
    (ends : (environment.substitute evaluateBody text tokens scope).outcome = .ok output) :
    environment.Keeps evaluateBody scope text tokens span output := by
  obtain ⟨early, late, rfl, isEarly, isLate⟩ := Token.exists_split_of_apart fits apart
  rw [substitute_eq, Run.collect_append] at ends
  obtain ⟨all, collected, made⟩ := Run.exists_of_bind_ok ends
  obtain ⟨edits, collectedEarly, rest⟩ := Run.exists_of_bind_ok collected
  obtain ⟨later, collectedLate, together⟩ := Run.exists_of_bind_ok rest
  obtain rfl := Except.ok.inj made
  obtain rfl := Except.ok.inj together
  have earlySpans := environment.spans_of_collect_edit evaluateBody scope collectedEarly
  have lateSpans := environment.spans_of_collect_edit evaluateBody scope collectedLate
  have fitsEdits : Text.Fits text ((edits ++ later).map Edit.span) := by
    rw [List.map_append, earlySpans, lateSpans, ← List.map_append]
    exact fits
  have onSpans (holds : Span → Prop) {edits : List Edit} {tokens : List Token}
      (same : edits.map Edit.span = tokens.map Token.span)
      (all : ∀ token ∈ tokens, holds token.span) : ∀ edit ∈ edits, holds edit.span := by
    intro edit member
    have isSpan : edit.span ∈ tokens.map Token.span := same ▸ List.mem_map_of_mem member
    obtain ⟨token, found, here⟩ := List.mem_map.mp isSpan
    exact here ▸ all token found
  have before : ∀ edit ∈ edits, edit.span.stop ≤ span.start :=
    onSpans (·.stop ≤ span.start) earlySpans isEarly
  have behind : ∀ edit ∈ later, span.stop ≤ edit.span.start :=
    onSpans (span.stop ≤ ·.start) lateSpans isLate
  exact ⟨early, late, edits, later, rfl, isEarly, isLate,
    (Run.forall₂_of_outcome_collect collectedEarly).imp fun _ _ => isEditFor_of_outcome,
    (Run.forall₂_of_outcome_collect collectedLate).imp fun _ _ => isEditFor_of_outcome,
    fitsEdits.splice_eq_of_apart ordered startBoundary stopBoundary before behind⟩

end Environment

namespace Source

variable {source : Source}

/-- Whether a span of a text is left as it is: the span of a tag that is reported, or of a whole
block that is reported because it has no target. -/
def IsLeft (source : Source) (span : Span) : Prop :=
  (∃ tag ∈ source.tags, source.Meets tag .reported ∧ span = tag.span) ∨
    ∃ opening close, source.Targetless opening close ∧
      span = ⟨opening.span.start, close.span.stop⟩

/-- A span that is left as it is lies in a portion that comes to a problem. -/
theorem IsLeft.exists_portion
    {portions : List Portion}
    {span : Span}
    (isLeft : source.IsLeft span)
    (divides : source.DividesInto source.tags (source.outline source.tags) portions) :
    ∃ portion ∈ portions, ∃ problem, portion.problem? = some problem ∧
      portion.span.Contains span ∧ span.start ≤ span.stop ∧
      ∃ first ∈ source.tags, ∃ last ∈ source.tags,
        span.start = first.span.start ∧ span.stop = last.span.stop := by
  rcases isLeft with ⟨tag, member, reported, rfl⟩ | ⟨opening, close, targetless, rfl⟩
  · have among := member
    rw [← divides.tags_eq] at among
    obtain ⟨portion, isPart, inside⟩ := List.mem_flatMap.mp among
    obtain ⟨early, late, rfl⟩ := List.append_of_mem isPart
    obtain ⟨problem, found, -⟩ := (divides.meets_reported_iff inside).mp reported
    have bounds := portion.bounds divides.inOrder_of_split tag inside
    have wide := source.tags_ordered.1 tag member
    exact ⟨portion, isPart, problem, found, bounds, Nat.le_of_lt wide, tag, member, tag, member,
      rfl, rfl⟩
  · obtain ⟨portion, isPart, rfl, rfl, name, offset, missing⟩ :=
      divides.exists_portion_of_targetless targetless
    have wide := portion.wide (divides.inOrder_of_mem source.tags_ordered isPart)
    have among {tag : Tag} (inside : tag ∈ portion.tags) : tag ∈ source.tags := by
      rw [← divides.tags_eq]
      exact List.mem_flatMap.mpr ⟨portion, isPart, inside⟩
    exact ⟨portion, isPart, _, missing, ⟨Nat.le_refl _, Nat.le_refl _⟩, Nat.le_of_lt wide,
      portion.first, among List.mem_cons_self, portion.last, among portion.last_mem, rfl, rfl⟩

/-- A span that is left as it is lies outside of all tokens. -/
theorem IsLeft.apart
    {span : Span}
    (isLeft : source.IsLeft span) :
    ∀ token ∈ source.parse.tokens,
      token.span.stop ≤ span.start ∨ span.stop ≤ token.span.start := by
  intro token found
  obtain ⟨portions, divides⟩ := source.exists_dividesInto source.tags
  obtain ⟨portion, member, problem, isProblem, contains, -⟩ := isLeft.exists_portion divides
  change token ∈ (source.outline source.tags).tokens at found
  rw [← divides.tokens_eq] at found
  obtain ⟨other, isPart, made⟩ := List.mem_filterMap.mp found
  obtain ⟨after, reads⟩ := divides.reads.exists_reads_of_mem isPart
  obtain ⟨early, late, rfl⟩ := List.append_of_mem member
  rcases List.mem_cons.mp (List.perm_middle.mem_iff.mp isPart) with rfl | elsewhere
  · exact absurd made (by rw [other.token?_eq_none isProblem]; exact (Option.some_ne_none _).symm)
  · have apart := divides.apart_of_mem elsewhere
    rw [reads.span_eq made]
    simp only [Span.Contains] at contains
    omega

/-- The ends of a span that is left as it is lie between characters. -/
theorem IsLeft.boundaries
    {span : Span}
    (isLeft : source.IsLeft span) :
    span.start ≤ span.stop ∧ Text.IsBoundary source.text span.start ∧
      Text.IsBoundary source.text span.stop := by
  obtain ⟨portions, divides⟩ := source.exists_dividesInto source.tags
  obtain ⟨portion, -, problem, -, -, ordered, first, isFirst, last, isLast, start, stop⟩ :=
    isLeft.exists_portion divides
  have boundaries := (Text.fits_iff_hasSpans.mpr source.hasSpans_tags).boundaries
  rw [start, stop]
  exact ⟨start ▸ stop ▸ ordered, (boundaries _ (List.mem_map_of_mem isFirst)).1,
    (boundaries _ (List.mem_map_of_mem isLast)).2⟩

/-- Reading a text loses none of its tags, and reports each problem once.  Every tag meets exactly
one fate, every problem is about a tag, and the problems come in the order of their places.  What is
left as text, a reported tag or a whole block without a target, lies outside of all tokens, and
every rendering of the text keeps it. -/
theorem parse_losesNothing (source : Source) :
    (∀ tag ∈ source.tags, ∃! fate, source.Meets tag fate) ∧
      (∀ problem ∈ source.parse.problems, ∃ tag ∈ source.tags, problem.IsAbout source.base tag) ∧
      (source.parse.problems.filterMap Problem.offset?).Pairwise (· < ·) ∧
      ∀ span, source.IsLeft span →
        (∀ token ∈ source.parse.tokens,
          token.span.stop ≤ span.start ∨ span.stop ≤ token.span.start) ∧
        ∀ (environment : Environment) (evaluateBody : BodyEvaluator) (scope : Scope)
          (output : Text),
          (environment.substitute evaluateBody source.text source.parse.tokens scope).outcome =
              .ok output →
            environment.Keeps evaluateBody scope source.text source.parse.tokens span output := by
  obtain ⟨portions, divides⟩ := source.exists_dividesInto source.tags
  refine ⟨?_, fun problem => exists_tag_of_mem_problems, divides.offsets_increasing, ?_⟩
  · intro tag member
    rw [← divides.tags_eq] at member
    obtain ⟨portion, isPart, inside⟩ := List.mem_flatMap.mp member
    obtain ⟨early, late, rfl⟩ := List.append_of_mem isPart
    exact divides.existsUnique_meets_of_mem inside
  · intro span isLeft
    have apart := isLeft.apart
    refine ⟨apart, fun environment evaluateBody scope output ends => ?_⟩
    have fits := Text.fits_iff_hasSpans.mpr source.hasSpans_tokens
    obtain ⟨ordered, startBoundary, stopBoundary⟩ := isLeft.boundaries
    exact Environment.keeps_of_apart fits apart ordered startBoundary stopBoundary ends

/-- A block without a target is kept, with the expression inside it. -/
theorem parse_losesNothing_targetless :
    let source : Source :=
      ⟨"<a><#if x><b></if><else><#each><c></each>".toList, 0, ⟨"<".toList, ">".toList⟩,
        fun _ => false⟩
    (∃! fate, source.Meets ⟨.expression ["c".toList], ⟨31, 34⟩⟩ fate) ∧
      source.IsLeft ⟨24, 41⟩ ∧
      ∀ (environment : Environment) (evaluateBody : BodyEvaluator) (scope : Scope) (output : Text),
        (environment.substitute evaluateBody source.text source.parse.tokens scope).outcome =
            .ok output →
          environment.Keeps evaluateBody scope source.text source.parse.tokens ⟨24, 41⟩ output := by
  intro source
  let opening : Tag := ⟨.opening "each".toList [], ⟨24, 31⟩⟩
  let inside : Tag := ⟨.expression ["c".toList], ⟨31, 34⟩⟩
  let close : Tag := ⟨.closing "each".toList, ⟨34, 41⟩⟩
  have split : source.tags = source.tags.take 5 ++ opening :: [inside, close] := by decide +kernel
  have closed : Block.forEach.closing? [inside, close] = some ⟨none, ⟨1, close⟩⟩ := by decide
  have reported : .missingBlockTarget Block.forEach.name (source.base + opening.span.start) ∈
      source.parse.problems := by
    decide +kernel
  have isLeft : source.IsLeft ⟨24, 41⟩ :=
    .inr ⟨opening, close, .intro split rfl closed reported, rfl⟩
  obtain ⟨fates, -, -, kept⟩ := parse_losesNothing source
  exact ⟨fates inside (by decide +kernel), isLeft, (kept _ isLeft).2⟩

end Source
end Stencil
