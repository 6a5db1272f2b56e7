import Stencil.Proofs.Render.Blame
import Stencil.Proofs.Tag.Exhaustion

/-!
# Names in reports

A report names variables that have a value, and variables and helpers that are missing.  Every name
is a word of a tag of the whole template, however deep the body stands that is evaluated.  And what
a report says of a name is so in the scope where the token of the tag is evaluated, which is that of
the data unless there are loops.
-/

namespace Stencil

/-- Whether an event that names something is right to do so in a scope, and takes the name from a
tag of the given kind. -/
inductive Event.IsSound (helpers : HelperScope) (scope : Scope) (kind : Tag.Kind) :
    Event → Prop where
  | used
    {path : Text}
    (word : path ∈ kind.words)
    (found : (scope.lookup? path).isSome) : IsSound helpers scope kind (.used path)
  | missingVariable
    {path : Text}
    (alone : kind = .expression [path])
    (empty : scope.lookup? path = none ∨ scope.lookup? path = some .null) :
    IsSound helpers scope kind (.missing path)
  | missingHelper
    {name argument : Text}
    {arguments : List Text}
    (called : kind.words = name :: argument :: arguments)
    (unknown : helpers.get? name = none) : IsSound helpers scope kind (.missing name)
  | unnamed
    {event : Event}
    (unnamed : event.isNaming = false) : IsSound helpers scope kind event

theorem Tag.Kind.Makes.mem_words
    {isHelper : Text → Bool}
    {kind : Tag.Kind}
    {token : Token}
    (makes : kind.Makes isHelper token.form)
    {word : Text}
    (mentioned : word ∈ token.path :: token.arguments) : word ∈ kind.words := by
  rw [Token.path, Token.arguments] at mentioned
  generalize token.form = form at makes mentioned
  cases makes with
  | loop path arguments body =>
    obtain rfl := List.mem_singleton.mp mentioned
    exact List.mem_cons_self
  | _ => exact mentioned

/-- What a token may say is sound for the tag that makes the token. -/
theorem Token.MayRecord.isSound
    {helpers : HelperScope}
    {scope : Scope}
    {token : Token}
    {event : Event}
    (recorded : token.MayRecord helpers scope event)
    {kind : Tag.Kind}
    (makes : kind.Makes helpers.contains token.form) : event.IsSound helpers scope kind := by
  cases recorded with
  | used word found => exact .used (makes.mem_words word) found
  | missingVariable form empty =>
    rw [form] at makes
    cases makes
    exact .missingVariable rfl empty
  | @missingHelper name words form unknown =>
    rw [form] at makes
    cases makes with
    | call _ _ known =>
      cases words with
      | nil =>
        have there := known rfl
        rw [HelperScope.contains_eq_isSome_get?, unknown] at there
        exact absurd there Bool.false_ne_true
      | cons argument others => exact .missingHelper rfl unknown
  | missingTest form unknown =>
    rw [form] at makes
    cases makes
    exact .missingHelper rfl unknown
  | unnamed unnamed plain => exact .unnamed unnamed

/-- Whether a text that is evaluated in some scopes belongs to a whole template that is evaluated in
one: it has no tags of other kinds, and without loops it is evaluated in no other scope. -/
structure Source.Belongs (part : Source) (scopes : List Scope) (whole : Source) (root : Scope) :
    Prop where
  kinds : ∀ tag ∈ part.tags, ∃ other ∈ whole.tags, other.kind = tag.kind
  unchanged : whole.IsLoopFree → ∀ scope ∈ scopes, scope = root

namespace Source.Belongs

variable
  {part whole : Source}
  {scopes : List Scope}
  {root : Scope}

theorem refl (source : Source) (root : Scope) : source.Belongs [root] source root where
  kinds tag member := ⟨tag, member, rfl⟩
  unchanged _ _ member := List.mem_singleton.mp member

theorem isLoopFree
    (belongs : part.Belongs scopes whole root)
    (loopFree : whole.IsLoopFree) : part.IsLoopFree := by
  intro tag member
  obtain ⟨other, there, same⟩ := belongs.kinds tag member
  exact same ▸ loopFree other there

/-- The bodies of a text belong to what the text belongs to. -/
theorem body
    (belongs : part.Belongs scopes whole root)
    {token : Token}
    (found : token ∈ part.parse.tokens)
    {scope : Scope}
    (here : scope ∈ scopes)
    {inside : Body}
    {others : List Scope}
    (isOf : (Demand.body inside others).IsOf token scope) :
    (part.inside inside).Belongs others whole root where
  kinds tag member := by
    obtain ⟨between, met, same⟩ := exists_kind_eq_of_mem_body found isOf.1 member
    obtain ⟨other, there, again⟩ := belongs.kinds between met
    exact ⟨other, there, again.trans same⟩
  unchanged loopFree := by
    have noLoop := (belongs.isLoopFree loopFree).isLoop_eq_false found
    rw [isOf.2.resolve_left (Bool.eq_false_iff.mp noLoop)]
    intro other member
    rw [List.mem_singleton.mp member]
    exact belongs.unchanged loopFree scope here

end Source.Belongs

/-- Whether an event that names something is right about a word of a tag of a template, and that in
the scope of the template unless there are loops. -/
def Event.IsGrounded
    (helpers : HelperScope)
    (whole : Source)
    (root : Scope)
    (event : Event) : Prop :=
  event.isNaming → ∃ tag ∈ whole.tags, ∃ scope, (whole.IsLoopFree → scope = root) ∧
    event.IsSound helpers scope tag.kind

namespace Environment

variable
  (environment : Environment)
  {whole : Source}
  {root : Scope}

/-- Reading a text names nothing. -/
theorem announce_isGrounded (parsed : Parsed) :
    (environment.announce parsed).Records
      (Event.IsGrounded environment.helpers whole root) := by
  obtain ⟨found, -, same⟩ := environment.exists_prefix_of_announce parsed
  intro event member naming
  rw [same] at member
  rcases List.mem_append.mp member with remark | problem
  · obtain ⟨notice, -, rfl⟩ := List.mem_map.mp remark
    exact absurd naming Bool.false_ne_true
  · obtain ⟨problem, -, rfl⟩ := List.mem_map.mp problem
    exact absurd naming Bool.false_ne_true

theorem evaluate_isGrounded
    {evaluateBody : BodyEvaluator}
    {body : Body}
    {scopes : List Scope}
    (belongs : (environment.source body).Belongs scopes whole root)
    (bodies : ∀ inside others, (environment.source inside).Belongs others whole root →
      (evaluateBody inside others).Records (Event.IsGrounded environment.helpers whole root)) :
    (environment.evaluate evaluateBody body scopes).Records
      (Event.IsGrounded environment.helpers whole root) := by
  refine environment.evaluate_records_of_tokens (environment.announce_isGrounded _) ?_
  intro scope here token found
  refine environment.token_records_of_demand ?_ fun inside others isOf => ?_
  · intro event happened _
    obtain ⟨tag, member, makes⟩ := Source.exists_makes_of_mem_tokens found
    obtain ⟨outer, there, same⟩ := belongs.kinds tag member
    refine ⟨outer, there, scope, fun loopFree => belongs.unchanged loopFree scope here, ?_⟩
    rw [same]
    exact (environment.demand_records scope token event happened).isSound makes
  · exact bodies inside others (belongs.body found here isOf)

/-- Whatever is named while a body is evaluated, at whatever depth, is grounded in the template. -/
theorem evaluateBody_isGrounded
    (room : Nat)
    {body : Body}
    {scopes : List Scope}
    (belongs : (environment.source body).Belongs scopes whole root) :
    (environment.evaluateBody room body scopes).Records
      (Event.IsGrounded environment.helpers whole root) := by
  have grounded {event : Event} (unnamed : event.isNaming = false) :
      event.IsGrounded environment.helpers whole root :=
    fun naming => absurd (unnamed.symm.trans naming) Bool.false_ne_true
  induction room generalizing body scopes with
  | zero => exact Run.Records.bind (.report (grounded rfl) _) fun _ _ => .pure _
  | succ room inductionHypothesis =>
    refine .within (grounded rfl) (grounded rfl) ?_
    exact environment.evaluate_isGrounded belongs fun _ _ inner => inductionHypothesis inner

theorem evaluateTemplate_isGrounded (template : Text) (data : Value) :
    (environment.evaluateTemplate template data).Records
      (Event.IsGrounded environment.helpers (environment.source ⟨template, 0⟩)
        (.root data)) :=
  environment.evaluate_isGrounded (.refl _ _) fun _ _ inner =>
    environment.evaluateBody_isGrounded environment.options.maxDepth inner

end Environment

namespace Engine

variable
  {engine : Engine}
  {template : Text}
  {data : Value}
  {options : Options}

theorem exists_tag_of_mem_used
    {path : Text}
    (member : path ∈ (engine.process template data options).used) :
    let source := (engine.environment options).source ⟨template, 0⟩
    ∃ tag ∈ source.tags, path ∈ tag.kind.words ∧
      (source.IsLoopFree → ((Scope.root data).lookup? path).isSome) := by
  intro source
  have happened := (Report.mem_used_ofRun _ _).mp member
  rw [events_run] at happened
  obtain ⟨tag, there, scope, alone, sound⟩ :=
    (engine.environment options).evaluateTemplate_isGrounded template data _ happened rfl
  refine ⟨tag, there, ?_⟩
  cases sound with
  | used word found => exact ⟨word, fun loopFree => alone loopFree ▸ found⟩
  | unnamed unnamed => exact nomatch unnamed

theorem exists_tag_of_mem_missing
    {path : Text}
    (member : path ∈ (engine.process template data options).missing) :
    let environment := engine.environment options
    let source := environment.source ⟨template, 0⟩
    let value? := (Scope.root data).lookup? path
    ∃ tag ∈ source.tags, path ∈ tag.kind.words ∧
      (source.IsLoopFree →
        tag.kind = .expression [path] ∧ (value? = none ∨ value? = some .null) ∨
          (∃ argument others, tag.kind.words = path :: argument :: others) ∧
            environment.helpers.get? path = none) := by
  intro environment source value?
  have happened := (Report.mem_missing_ofRun _ _).mp member
  rw [events_run] at happened
  obtain ⟨tag, there, scope, alone, sound⟩ :=
    environment.evaluateTemplate_isGrounded template data _ happened rfl
  refine ⟨tag, there, ?_⟩
  cases sound with
  | missingVariable single empty =>
    refine ⟨single ▸ List.mem_singleton_self path, fun loopFree => .inl ⟨single, ?_⟩⟩
    obtain rfl := alone loopFree
    exact empty
  | missingHelper called unknown =>
    exact ⟨called ▸ List.mem_cons_self, fun _ => .inr ⟨⟨_, _, called⟩, unknown⟩⟩
  | unnamed unnamed => exact nomatch unnamed

/-- Names in a report are words of expressions and of opening tags, as a scan of the template finds
them.  Without loops, what is used has a value in the data, and what is missing is a variable that
is undefined or null in the data, or is given arguments but is no helper.  So a variable with a
value that is not null is not missing unless it is no helper, and an undefined variable is not
used. -/
theorem process_names
    (engine : Engine)
    (template : Text)
    (data : Value)
    (options : Options) :
    let environment := engine.environment options
    let source := environment.source ⟨template, 0⟩
    let root := Scope.root data
    let report := engine.process template data options
    (∀ calls, ((Scanner.ofText options.delimiters template).after calls).next.1 =
        source.tags[calls]?) ∧
      (∀ path ∈ report.used, ∃ tag ∈ source.tags, path ∈ tag.kind.words) ∧
      (∀ path ∈ report.missing, ∃ tag ∈ source.tags, path ∈ tag.kind.words) ∧
      (source.IsLoopFree →
        (∀ path ∈ report.used, (root.lookup? path).isSome) ∧
        (∀ path ∈ report.missing,
          (∃ tag ∈ source.tags, tag.kind = .expression [path]) ∧
              (root.lookup? path = none ∨ root.lookup? path = some .null) ∨
            (∃ tag ∈ source.tags, ∃ argument others,
              tag.kind.words = path :: argument :: others) ∧
              environment.helpers.get? path = none) ∧
        (∀ path value, root.lookup? path = some value → value ≠ .null →
          environment.helpers.get? path ≠ none → path ∉ report.missing) ∧
        ∀ path, root.lookup? path = none → path ∉ report.used) := by
  intro environment source root report
  have answers := (Scanner.yields_ofText options.delimiters template).answer_eq
  refine ⟨answers, fun path member => ?_, fun path member => ?_, fun loopFree => ?_⟩
  · obtain ⟨tag, there, word, -⟩ := exists_tag_of_mem_used member
    exact ⟨tag, there, word⟩
  · obtain ⟨tag, there, word, -⟩ := exists_tag_of_mem_missing member
    exact ⟨tag, there, word⟩
  have used (path : Text) (member : path ∈ report.used) : (root.lookup? path).isSome := by
    obtain ⟨tag, -, -, found⟩ := exists_tag_of_mem_used member
    exact found loopFree
  have missing (path : Text) (member : path ∈ report.missing) :
      (∃ tag ∈ source.tags, tag.kind = .expression [path]) ∧
          (root.lookup? path = none ∨ root.lookup? path = some .null) ∨
        (∃ tag ∈ source.tags, ∃ argument others, tag.kind.words = path :: argument :: others) ∧
          environment.helpers.get? path = none := by
    obtain ⟨tag, there, -, reason⟩ := exists_tag_of_mem_missing member
    exact (reason loopFree).imp (.imp_left fun alone => ⟨tag, there, alone⟩)
      (.imp_left fun called => ⟨tag, there, called⟩)
  refine ⟨used, missing, fun path value found notNull known member => ?_,
    fun path undefined member => ?_⟩
  · rcases missing path member with ⟨-, undefined | null⟩ | ⟨-, unknown⟩
    · exact nomatch found.symm.trans undefined
    · exact notNull (Option.some.inj (found.symm.trans null))
    · exact known unknown
  · have isSome := used path member
    rw [undefined] at isSome
    exact absurd isSome Bool.false_ne_true

/-- A null variable and two helpers that there are none of, inside a block whose condition holds. -/
theorem process_names_nested :
    let options : Options := { delimiters := ⟨"[[".toList, "]]".toList⟩ }
    let engine : Engine := { registry := [] }
    let template := "[[#if a]][[b]][[#unless c a]][[e.length]][[/unless]][[f e]][[/if]]".toList
    let data := Value.object
      [("a".toList, .bool true), ("b".toList, .null), ("e".toList, .string "xy".toList)]
    let environment := engine.environment options
    let source := environment.source ⟨template, 0⟩
    let root := Scope.root data
    let report := engine.process template data options
    source.IsLoopFree ∧
      report.used = ["a".toList, "e.length".toList] ∧
      report.missing = ["b".toList, "c".toList, "f".toList] ∧
      (root.lookup? "e.length".toList).isSome ∧
      (∀ path ∈ report.missing,
        (∃ tag ∈ source.tags, tag.kind = .expression [path]) ∧
            (root.lookup? path = none ∨ root.lookup? path = some .null) ∨
          (∃ tag ∈ source.tags, ∃ argument others,
            tag.kind.words = path :: argument :: others) ∧
            environment.helpers.get? path = none) := by
  intro options engine template data environment source root report
  have loopFree : source.IsLoopFree := by decide +kernel
  have names : report.used = ["a".toList, "e.length".toList] ∧
      report.missing = ["b".toList, "c".toList, "f".toList] := by
    decide +kernel
  obtain ⟨used, missing, -, -⟩ := (process_names engine template data options).2.2.2 loopFree
  have length := used "e.length".toList (names.1 ▸ List.mem_cons_of_mem _ List.mem_cons_self)
  exact ⟨loopFree, names.1, names.2, length, missing⟩

end Engine
end Stencil
