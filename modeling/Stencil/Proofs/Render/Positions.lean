import Stencil.Proofs.Render.Blame

/-!
# Positions in reports

The errors of a report are about tags of the template, found by a scan of the whole template at the
position that the error names, and without loops they are about different tags.  The warnings about
delimiters are about those that the scan of the whole template leaves as text.  Each of these is
warned about once when the template is read, and may be again when a body that holds it is read.
-/

namespace Stencil

/-- Where the delimiter stands that a notice is about. -/
def Event.warned? (event : Event) : Option Nat := event.notice?.bind Notice.offset?

theorem Event.offset?_of_warned?
    {event : Event}
    {offset : Nat}
    (warned : event.warned? = some offset) : event.offset? = some offset := by
  cases event with
  | noticed notice => exact warned
  | _ => exact nomatch warned

theorem Parsed.offsets_remarks (parsed : Parsed) :
    parsed.remarks.filterMap Notice.offset? = parsed.loose := by
  rw [remarks, List.filterMap_append, List.filterMap_map, List.filterMap_map, loose]
  change List.filterMap some _ ++ List.filterMap some _ = _
  rw [List.filterMap_some, List.filterMap_some]

namespace Environment

variable (environment : Environment)

/-- Reading a text warns about each delimiter that is left as text. -/
theorem warned_announce (parsed : Parsed) :
    (environment.announce parsed).events.filterMap Event.warned? = parsed.loose := by
  obtain ⟨found, -, same⟩ := environment.exists_prefix_of_announce parsed
  have silent : (found.map Event.failed).filterMap Event.warned? = [] := by
    rw [List.filterMap_map]
    exact List.filterMap_eq_nil_iff.mpr fun _ _ => rfl
  rw [same, List.filterMap_append, silent, List.append_nil, List.filterMap_map,
    ← parsed.offsets_remarks]
  rfl

/-- What is warned about after a template is read lies in bodies of its tokens. -/
theorem exists_warned_evaluateTemplate (template : Text) (data : Value) :
    let parsed := (environment.source ⟨template, 0⟩).parse
    ∃ repeated,
      (environment.evaluateTemplate template data).events.filterMap Event.warned? =
        parsed.loose ++ repeated ∧
      ∀ offset ∈ repeated, ∃ token ∈ parsed.tokens, ∃ body ∈ token.bodies, body.Covers offset := by
  intro parsed
  have inBodies (scope : Scope) :
      (environment.substitute (environment.evaluateBody environment.options.maxDepth) template
        parsed.tokens scope).Records fun event => ∀ offset ∈ event.offset?,
          ∃ token ∈ parsed.tokens, ∃ body ∈ token.bodies, body.Covers offset := by
    refine environment.substitute_records (fun event plain offset here => ?_) ?_ template scope
    · rw [Event.offset?_of_isPlain plain] at here
      exact absurd here (Option.not_mem_none offset)
    · intro token found inside member scopes event happened offset here
      have placed : event.IsPlaced ((environment.source ⟨template, 0⟩).inside inside) :=
        environment.evaluateBody_isPlaced _ inside scopes event happened
      exact ⟨token, found, inside, member, placed.covers offset here⟩
  rw [evaluateTemplate, evaluate_singleton]
  obtain ⟨more, same, allowed⟩ := Run.Records.exists_events_bind (environment.announce parsed)
    fun _ => inBodies (Scope.root data)
  refine ⟨more.filterMap Event.warned?, ?_, ?_⟩
  · rw [same, List.filterMap_append, warned_announce]
  · intro offset member
    obtain ⟨event, happened, warned⟩ := List.mem_filterMap.mp member
    exact allowed event happened offset (Event.offset?_of_warned? warned)

end Environment

namespace Engine

variable (engine : Engine) (template : Text) (data : Value) (options : Options)

/-- Every position that a report names is a position of the whole template.  An error about a tag
names where a tag of the right kind starts, a warning about a delimiter names where the opening
delimiter occurs, and no two errors are about the same tag if the template opens no loop. -/
theorem process_positions :
    let source := (engine.environment options).source ⟨template, 0⟩
    let problems := engine.problems template data options
    let notices := engine.notices template data options
    (engine.process template data options).errors = problems.map Problem.diagnostic ∧
      (engine.process template data options).warnings = notices.map Notice.diagnostic ∧
      (∀ problem ∈ problems, ∀ offset ∈ problem.offset?,
        ∃ tag ∈ source.tags, tag.span.start = offset ∧ problem.Blames tag.kind) ∧
      (∀ notice ∈ notices, ∀ offset ∈ notice.offset?,
        ∃ before after, template = before ++ options.delimiters.opening ++ after ∧
          Text.size before = offset) ∧
      (source.IsLoopFree → (problems.filterMap Problem.offset?).Nodup) := by
  intro source problems notices
  have errors := engine.errors_process template data options
  have warnings := engine.warnings_process template data options
  have placed := (engine.environment options).evaluateTemplate_isPlaced template data
  rw [Run.Records, ← engine.events_run template data options] at placed
  refine ⟨errors, warnings, ?_, ?_, ?_⟩
  · intro problem found offset here
    obtain ⟨tag, member, place, blames⟩ :=
      placed _ (failed_mem_events found) (Option.isSome_of_mem here)
    have same : offset = 0 + tag.span.start := Option.some.inj (here.symm.trans place)
    exact ⟨tag, member, by omega, blames⟩
  · intro notice given offset here
    obtain ⟨start, left, same⟩ := placed _ (noticed_mem_events given) offset here
    obtain ⟨-, before, after, split, size⟩ := Source.exists_occurrence_of_mem_loose left
    exact ⟨before, after, split, size.trans ((Nat.zero_add start).symm.trans same)⟩
  · intro loopFree
    have blames := (engine.environment options).evaluateTemplate_blames loopFree data
    have same : problems.filterMap Problem.offset? =
        ((engine.environment options).evaluateTemplate template data).blamed := by
      rw [Run.blamed, ← engine.events_run]
      exact List.filterMap_filterMap
    rw [same]
    exact blames.nodup

/-- Problems of all kinds, in and around bodies that are read on their own. -/
theorem process_positions_nested :
    let options : Options := { delimiters := ⟨"<".toList, ">".toList⟩ }
    let template :=
      "<#if a>x<else><#unless b></each><#foo>< <#if></if></unless></if><else><#if c>".toList
    let source := (({} : Engine).environment options).source ⟨template, 0⟩
    let problems := ({} : Engine).problems template .null options
    let notices := ({} : Engine).notices template .null options
    (.missingBlockTarget "if".toList 40 ∈ problems ∧
        ∃ tag ∈ source.tags, tag.span.start = 40 ∧ tag.kind = .opening "if".toList []) ∧
      (.reopened 38 ∈ notices ∧
        ∃ before after, template = before ++ "<".toList ++ after ∧ Text.size before = 38) ∧
      source.IsLoopFree ∧ (problems.filterMap Problem.offset?).Nodup := by
  intro options template source problems notices
  have found : .missingBlockTarget "if".toList 40 ∈ problems := by decide +kernel
  have given : .reopened 38 ∈ notices := by decide +kernel
  have loopFree : source.IsLoopFree := by decide +kernel
  obtain ⟨-, -, blamed, warned, apart⟩ := process_positions {} template .null options
  exact ⟨⟨found, blamed _ found 40 rfl⟩, ⟨given, warned _ given 38 rfl⟩, loopFree, apart loopFree⟩

/-- Reading the template warns about each of its delimiters that are left as text, and about none of
them twice.  Whatever is warned about after that has been warned about before, and lies in a body of
a block.  So nothing is warned about twice exactly when no body is read that warns about
anything. -/
theorem process_repeated_warnings :
    let source := (engine.environment options).source ⟨template, 0⟩
    let offsets := (engine.notices template data options).filterMap Notice.offset?
    (engine.process template data options).warnings =
        (engine.notices template data options).map Notice.diagnostic ∧
      ∃ repeated, offsets = source.parse.loose ++ repeated ∧ source.parse.loose.Nodup ∧
        (∀ offset ∈ repeated, offset ∈ source.parse.loose ∧
          ∃ token ∈ source.parse.tokens, ∃ body ∈ token.bodies, body.Covers offset) ∧
        (offsets.Nodup ↔ repeated = []) := by
  intro source offsets
  obtain ⟨repeated, same, inBodies⟩ :=
    (engine.environment options).exists_warned_evaluateTemplate template data
  rw [← engine.events_run template data options] at same
  have split : offsets = source.parse.loose ++ repeated := Eq.trans List.filterMap_filterMap same
  have distinct : source.parse.loose.Nodup := by
    refine source.loose_parse_perm.nodup_iff.mpr (List.pairwise_map.mpr ?_)
    exact source.loose_nodup.imp fun different same => different (Nat.add_left_cancel same)
  have again : ∀ offset ∈ repeated, offset ∈ source.parse.loose := by
    intro offset member
    have warned : offset ∈ offsets := split ▸ List.mem_append_right _ member
    obtain ⟨notice, given, here⟩ := List.mem_filterMap.mp warned
    have happened := noticed_mem_events given
    rw [events_run] at happened
    obtain ⟨start, left, place⟩ :=
      (engine.environment options).evaluateTemplate_isPlaced template data _ happened offset here
    exact source.loose_parse_perm.mem_iff.mpr (List.mem_map.mpr ⟨start, left, place⟩)
  refine ⟨engine.warnings_process template data options, repeated, split, distinct,
    fun offset member => ⟨again offset member, inBodies offset member⟩, ?_⟩
  rw [split]
  constructor
  · intro once
    refine List.eq_nil_iff_forall_not_mem.mpr fun offset member => ?_
    exact (List.nodup_append.mp once).2.2 offset (again offset member) offset member rfl
  · rintro rfl
    rwa [List.append_nil]

/-- The same delimiter is warned about when the template is read and when the body is read. -/
theorem process_repeated_warnings_body :
    let options : Options := { delimiters := ⟨"[[".toList, "]]".toList⟩ }
    let template := "[[#if a]][[x [[y]][[/if]]".toList
    let data := Value.object [("a".toList, .bool true), ("y".toList, .string "v".toList)]
    let source := (({} : Engine).environment options).source ⟨template, 0⟩
    source.IsLoopFree ∧ options.strict = false ∧
      (({} : Engine).process template data options).warnings =
        [(Notice.reopened 9).diagnostic, (Notice.reopened 9).diagnostic] := by
  decide +kernel

end Engine
end Stencil
