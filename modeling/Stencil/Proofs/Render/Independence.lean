import Stencil.Engine
import Stencil.Proofs.Render.Variation

/-!
# Independence of the data

A report depends on the data only through the names that the tags of the template mention.  And a
string in the data is never read as a part of the template: where it is only shown, it stands in the
output as it is, and nothing else depends on it.
-/

namespace Stencil

/-- Runs to texts that are the same up to gaps have the same report but for the gaps. -/
theorem Report.exists_chunks_of_uniform
    {ι : Type}
    {filling : ι → Text}
    {runs : ι → Run Text}
    (uniform : Run.Uniform (Text.Fills filling) runs)
    (template : Text) :
    ∃ (chunks : List Text) (report : Report), chunks ≠ [] ∧ ∀ index,
      ofRun template (runs index) =
        { report with output := List.intercalate (filling index) chunks } := by
  cases uniform with
  | through events fills =>
    obtain ⟨chunks, nonempty, same⟩ := fills.exists_chunks
    refine ⟨chunks, ofEvents [] none events, nonempty, fun index => ?_⟩
    exact congrArg (fun output => ofEvents output none events) (same index)
  | stopped events problem =>
    -- A rendering that is stopped returns the template, which has no gaps.
    refine ⟨[template], ofEvents template (some problem) events, List.cons_ne_nil _ _, ?_⟩
    intro index
    rw [List.intercalate_singleton]
    rfl

namespace Variation

/-- Two scopes, which vary in no way under the names on which they agree. -/
def pair (left right : Scope) : Variation Bool where
  steady name := left.get? name = right.get? name
  filled _ := False
  strings _ := []

theorem pair_covers (left right : Scope) :
    (pair left right).Covers fun isLeft => if isLeft then left else right where
  steady name same first second := by
    cases first <;> cases second
    · rfl
    · exact same.symm
    · exact same
    · rfl
  filled _ never := never.elim

/-- The root data where an entry is a string of its own for each index. -/
def stringAt (key : Text) : Variation Text where
  steady name := name ≠ key ∧ name ≠ Frame.selfName
  filled name := name = key
  strings string := string

theorem stringAt_covers (key : Text) (entries : Dictionary Value) :
    (stringAt key).Covers fun string =>
      Scope.root (.object (Dictionary.insert key (.string string) entries)) where
  steady name different left right := by
    simp only [Scope.get?_root, Value.entries_object, Dictionary.get?_insert,
      if_neg different.1.symm, if_neg different.2]
  filled name same := by
    refine .inr fun string => ?_
    rw [Scope.get?_root, Value.entries_object, Dictionary.get?_insert, if_pos same.symm]
    rfl

end Variation

/-- A text is rendered in the same way in scopes that agree on all names that its tags mention. -/
theorem Environment.evaluate_congr
    (environment : Environment)
    (room : Nat)
    {body : Body}
    {left right : Scope}
    (agree : ∀ name ∈ (environment.source body).names, left.get? name = right.get? name) :
    environment.evaluate (environment.evaluateBody room) body [left] =
      environment.evaluate (environment.evaluateBody room) body [right] := by
  have allowed : ∀ tag ∈ (environment.source body).tags,
      (Variation.pair left right).Allows tag.kind :=
    fun tag member => .inl fun word mentioned => agree _ (Source.head_mem_names member mentioned)
  have bodies := environment.evaluateBody_respects (Variation.pair left right) room
  have alike := evaluate_respects bodies body [fun isLeft => if isLeft then left else right] allowed
    fun family member => List.mem_singleton.mp member ▸ Variation.pair_covers left right
  have unfilled : environment.filling (Variation.pair left right) true =
      environment.filling (Variation.pair left right) false := rfl
  exact @Run.Uniform.eq_of_fits _ _ _ _ alike true false fun texts fills =>
    fills.eq_of_filling_eq unfilled

namespace Engine

variable
  (engine : Engine)
  {template : Text}
  {options : Options}

/-- Data that no tag mentions cannot influence a rendering. -/
theorem process_eq_of_agree
    {left right : Dictionary Value}
    (named : Frame.selfName ∉ ((engine.environment options).source ⟨template, 0⟩).names)
    (agree : ∀ name ∈ ((engine.environment options).source ⟨template, 0⟩).names,
      Dictionary.get? name left = Dictionary.get? name right) :
    engine.process template (.object left) options =
      engine.process template (.object right) options := by
  have agreeRoot : ∀ name ∈ ((engine.environment options).source ⟨template, 0⟩).names,
      (Scope.root (.object left)).get? name = (Scope.root (.object right)).get? name := by
    intro name member
    have different : name ≠ Frame.selfName := fun same => named (same ▸ member)
    rw [Scope.get?_root, Scope.get?_root, Value.entries_object, Value.entries_object,
      agree name member, if_neg different, if_neg different]
  have same := (engine.environment options).evaluate_congr options.maxDepth agreeRoot
  rw [process, process, run, run, Environment.evaluateTemplate, Environment.evaluateTemplate]
  exact congrArg (fun rendering => Report.ofRun template (rendering >>= _)) same

/-- Entries that no tag mentions may be added, changed and removed, also with a name that an item of
a loop has. -/
theorem process_eq_of_agree_unmentioned :
    let options : Options := { delimiters := ⟨"[[".toList, "]]".toList⟩ }
    let template := "[[#each rows]][[name.first]][[#if open x]]![[/if]][[/each]]".toList
    let left := [("rows".toList, Value.array [.object [("secret".toList, .null)]])]
    let right := Dictionary.insert "secret".toList (.string "x".toList) left
    let names := ((({} : Engine).environment options).source ⟨template, 0⟩).names
    Frame.selfName ∉ names ∧
      (∀ name ∈ names, Dictionary.get? name left = Dictionary.get? name right) ∧
      ({} : Engine).process template (.object left) options =
        ({} : Engine).process template (.object right) options := by
  intro options template left right names
  have named : Frame.selfName ∉ names := by decide +kernel
  have absent : "secret".toList ∉ names := by decide +kernel
  have agree : ∀ name ∈ names, Dictionary.get? name left = Dictionary.get? name right := by
    intro name member
    have different : "secret".toList ≠ name := fun same => absent (same ▸ member)
    rw [Dictionary.get?_insert, if_neg different]
  exact ⟨named, agree, process_eq_of_agree {} named agree⟩

/-- Data is never read as a part of the template.  When every word that starts with a key is an
expression of its own, and no word starts with the name of the data as a whole, then the output is
the same chunks for every string under the key, with the string between them, and all else in the
report is the same. -/
theorem process_insert_string
    (untrimmed : options.trims = false)
    (key : Text)
    (entries : Dictionary Value)
    (named : Frame.selfName ∉ ((engine.environment options).source ⟨template, 0⟩).names)
    (shown : ∀ tag ∈ ((engine.environment options).source ⟨template, 0⟩).tags,
      ∀ word ∈ tag.kind.words, Path.head word = key → tag.kind = .expression [key]) :
    ∃ (chunks : List Text) (report : Report), chunks ≠ [] ∧ ∀ string : Text,
      let filling := if options.escapesMarkup then Text.escapeMarkup string else string
      engine.process template (.object (Dictionary.insert key (.string string) entries)) options =
        { report with output := List.intercalate filling chunks } := by
  have allowed : ∀ tag ∈ ((engine.environment options).source ⟨template, 0⟩).tags,
      (Variation.stringAt key).Allows tag.kind := by
    intro tag member
    by_cases mentions : ∃ word ∈ tag.kind.words, Path.head word = key
    · obtain ⟨word, mentioned, starts⟩ := mentions
      have kind := shown tag member word mentioned starts
      rw [kind] at mentioned
      obtain rfl : word = key := List.mem_singleton.mp mentioned
      exact .inr ⟨word, kind, starts, rfl⟩
    · refine .inl fun word mentioned => ⟨fun same => mentions ⟨word, mentioned, same⟩, ?_⟩
      exact fun same => named (same ▸ Source.head_mem_names member mentioned)
  have alike := (engine.environment options).evaluateTemplate_uniform allowed
    (Variation.stringAt_covers key entries)
  obtain ⟨chunks, report, nonempty, same⟩ := Report.exists_chunks_of_uniform alike template
  refine ⟨chunks, report, nonempty, fun string => ?_⟩
  rw [process, run_of_untrimmed engine untrimmed]
  exact same string

/-- The string is shown in a block, and in a loop where one of the items hides it. -/
theorem process_insert_string_shown :
    let options : Options := { delimiters := ⟨"[[".toList, "]]".toList⟩, escapesMarkup := true }
    let engine : Engine := { registry := [] }
    let template := "[[#each rows]]-[[name]][[/each]][[#if rows]] [[name]][[/if]]".toList
    let entries := [("rows".toList, Value.array [.object [("name".toList, .null)], .bool true])]
    let source := (engine.environment options).source ⟨template, 0⟩
    options.trims = false ∧ Frame.selfName ∉ source.names ∧
      (∀ tag ∈ source.tags, ∀ word ∈ tag.kind.words, Path.head word = "name".toList →
        tag.kind = .expression ["name".toList]) ∧
      ∃ (chunks : List Text) (report : Report), chunks ≠ [] ∧ ∀ string : Text,
        engine.process template
            (.object (Dictionary.insert "name".toList (.string string) entries)) options =
          { report with output := List.intercalate (Text.escapeMarkup string) chunks } := by
  intro options engine template entries source
  have named : Frame.selfName ∉ source.names := by decide +kernel
  have shown : ∀ tag ∈ source.tags, ∀ word ∈ tag.kind.words, Path.head word = "name".toList →
      tag.kind = .expression ["name".toList] := by
    decide +kernel
  exact ⟨rfl, named, shown, engine.process_insert_string rfl "name".toList entries named shown⟩

end Engine
end Stencil
