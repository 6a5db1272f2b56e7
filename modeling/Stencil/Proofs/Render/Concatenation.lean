import Stencil.Proofs.Render.Leniency
import Stencil.Proofs.Render.Relocation
import Stencil.Proofs.Source.Concatenation

/-!
# Rendering one text after another

The rendering of two texts that are put together is the one rendering after the other, when the
first text leaves nothing open.  The second text stands further to the right there, which changes
only the places that its problems name.
-/

namespace Stencil

namespace Engine

variable
  (engine : Engine)
  (data : Value)
  {options : Options}

/-- The edits at tokens further to the right are those at the tokens, moved along. -/
theorem edits_append_map_move
    {front back : List Token}
    {frontEdits backEdits : List Edit}
    {frontAccount backAccount : Account}
    (frontYields : (engine.edits data options front).Yields frontEdits frontAccount)
    (backYields : (engine.edits data options back).Yields backEdits backAccount)
    (distance : Nat) :
    (engine.edits data options (front ++ back.map (Token.move distance distance))).Yields
      (frontEdits ++ backEdits.map (Edit.shift distance))
      (frontAccount ++ backAccount.relocate ⟨distance, options.maxDepth⟩) := by
  let environment := engine.environment options
  have moved : engine.edits data options (back.map (Token.move distance distance)) = do
      let edits ← (engine.edits data options back).relocate ⟨distance, options.maxDepth⟩
      return edits.map (Edit.shift distance) :=
    Environment.collect_edit_relocate environment
      (environment.evaluateBody_relocate ⟨distance, options.maxDepth⟩ options.maxDepth)
      (Scope.root data) distance back
  have backMoved := (backYields.relocate ⟨distance, options.maxDepth⟩).map
    (List.map (Edit.shift distance))
  rw [← moved] at backMoved
  rw [edits, Run.collect_append]
  exact frontYields.bind (backMoved.map (frontEdits ++ ·))

/-- Rendering is compositional.  When a text leaves no delimiter and no block open, what follows it
has the tokens that it has alone, only further to the right, and the rendering of both comes to the
two renderings, one after the other. -/
theorem process_append
    (tolerant : options.strict = false)
    (untrimmed : options.trims = false)
    {left right : Text}
    (terminated : ((engine.environment options).source ⟨left, 0⟩).parse.unterminated? = none)
    (apart : ¬ Text.Straddles options.delimiters.opening left right)
    (paired : ∀ problem ∈ ((engine.environment options).source ⟨left, 0⟩).parse.problems,
      problem.isUnclosedBlock = false) :
    let first := engine.process left data options
    let second := engine.process right data options
    let whole := engine.process (left ++ right) data options
    engine.tokens options (left ++ right) =
        engine.tokens options left ++
          (engine.tokens options right).map (Token.move (Text.size left) (Text.size left)) ∧
      whole.output = first.output ++ second.output ∧
      whole.counters = first.counters + second.counters ∧
      whole.used = first.used ++ second.used.filter (· ∉ first.used) ∧
      whole.missing = first.missing ++ second.missing.filter (· ∉ first.missing) := by
  intro first second whole
  have tokens : engine.tokens options (left ++ right) =
      engine.tokens options left ++
        (engine.tokens options right).map (Token.move (Text.size left) (Text.size left)) :=
    ((engine.environment options).source ⟨left, 0⟩).tokens_append terminated apart paired
  obtain ⟨leftEdits, leftAccount, leftYields⟩ :=
    engine.exists_edits_yield data tolerant (engine.tokens options left)
  obtain ⟨rightEdits, rightAccount, rightYields⟩ :=
    engine.exists_edits_yield data tolerant (engine.tokens options right)
  have wholeYields := engine.edits_append_map_move data leftYields rightYields (Text.size left)
  have woven := (hasSpans_of_edits_yield engine data leftYields).weave_append right rightEdits
  rw [Nat.zero_add] at woven
  rw [← tokens] at wholeYields
  have firstReport : first = _ := engine.process_of_edits_yield data tolerant untrimmed leftYields
  have secondReport : second = _ :=
    engine.process_of_edits_yield data tolerant untrimmed rightYields
  have wholeReport : whole = _ := engine.process_of_edits_yield data tolerant untrimmed wholeYields
  refine ⟨tokens, ?_⟩
  rw [firstReport, secondReport, wholeReport, woven]
  simp [Accounted.report, Parsed.account, Account.relocate, firstOccurrences_append]

/-- The first letter has a block, a delimiter that is opened again and a stray closing tag.  The
second one starts with half a delimiter and uses a variable of the first one again. -/
theorem process_append_letters :
    let options : Options := { delimiters := ⟨"[[".toList, "]]".toList⟩, maxDepth := 1 }
    let engine : Engine := { registry := [] }
    let data := Value.object [("name".toList, .string "Ann".toList)]
    let left := "Dear [[#if name]][[name]][[/if]], [[ [[/each]]".toList
    let right := "[so] long [[friend]], [[name]]".toList
    let first := engine.process left data options
    let second := engine.process right data options
    let whole := engine.process (left ++ right) data options
    options.strict = false ∧ options.trims = false ∧
      ((engine.environment options).source ⟨left, 0⟩).parse.unterminated? = none ∧
      ¬ Text.Straddles options.delimiters.opening left right ∧
      (∀ problem ∈ ((engine.environment options).source ⟨left, 0⟩).parse.problems,
        problem.isUnclosedBlock = false) ∧
      whole.output = first.output ++ second.output ∧
      whole.counters = first.counters + second.counters ∧
      whole.used = first.used ++ second.used.filter (· ∉ first.used) := by
  intro options engine data left right first second whole
  have terminated :
      ((engine.environment options).source ⟨left, 0⟩).parse.unterminated? = none := by
    decide +kernel
  have apart : ¬ Text.Straddles options.delimiters.opening left right := by decide +kernel
  have paired : ∀ problem ∈ ((engine.environment options).source ⟨left, 0⟩).parse.problems,
      problem.isUnclosedBlock = false := by
    decide +kernel
  obtain ⟨-, output, counters, used, -⟩ :=
    @process_append engine data options rfl rfl left right terminated apart paired
  exact ⟨rfl, rfl, terminated, apart, paired, output, counters, used⟩

end Engine
end Stencil
