import Stencil.Engine
import Stencil.Proofs.Render.Reading
import Stencil.Proofs.Render.Replacement
import Stencil.Proofs.Tree.Evaluation
import Stencil.Proofs.Tree.Reading

/-!
# Rendering a written tree

Rendering never builds a tree.  It reads one level of text at a time and puts the results into the
text with a shift that runs along.  For the text of a tree this comes to the same as interpreting
the tree, down to the whole report.
-/

namespace Stencil

namespace Environment

/-- Whether the tokens of a tree are replaced as the tree is interpreted, wherever it stands. -/
def Renders (environment : Environment) (tree : Tree) : Prop :=
  ∀ room scope body position,
    environment.Replaces (environment.evaluateBody room) scope
      (tree.tokens (environment.source body) position) position
      (tree.text environment.options.delimiters) (tree.interpret environment room scope)

section Bodies

variable
  {environment : Environment}
  (tolerant : environment.options.strict = false)
  (usable : environment.options.delimiters.opening ≠ [] ∧
    environment.options.delimiters.closing ≠ [])
  {tree : Tree}
  (writable : tree.IsWritable environment.options.delimiters)
  (renders : environment.Renders tree)
  (room : Nat)
  (offset : Nat)

include usable writable

/-- Reading the text of a tree is no part of the account. -/
theorem read_yields :
    let body := ⟨tree.text environment.options.delimiters, offset⟩
    (environment.read body).Yields (tree.tokens (environment.source body) 0) {} := by
  intro body
  have parsed := @Tree.parse_text (environment.source body) tree usable writable rfl
  rw [source] at parsed
  rw [read, parsed]
  exact ⟨rfl, rfl⟩

include renders

/-- The text of a tree is rendered in several scopes as the tree is interpreted there. -/
theorem evaluate_yields (scopes : List Scope) :
    let texts := Accounted.join (scopes.map fun scope => tree.interpret environment room scope)
    (environment.evaluate (environment.evaluateBody room)
      ⟨tree.text environment.options.delimiters, offset⟩ scopes).Yields
      texts.result texts.account := by
  intro texts
  rw [evaluate, ← Account.empty_append texts.account]
  refine (read_yields usable writable offset).bind (Run.Yields.map ?_ List.flatten)
  apply Run.Yields.collect
  intro scope _
  exact (renders room scope _ 0).substitute_yields

include tolerant

/-- Inside a block, the text of a tree is rendered only where there is room for it. -/
theorem evaluateBody_yields (scopes : List Scope) :
    let texts := Interpreter.inside environment room fun room =>
      .join (scopes.map fun scope => tree.interpret environment room scope)
    (environment.evaluateBody room ⟨tree.text environment.options.delimiters, offset⟩
      scopes).Yields texts.result texts.account := by
  cases room with
  | zero =>
    exact (report_yields tolerant (.depthExceeded environment.options.maxDepth)).map fun _ => []
  | succ room => exact (evaluate_yields usable writable renders room offset scopes).within

theorem evaluateBody_yields_singleton (scope : Scope) :
    let text := Interpreter.inside environment room fun room =>
      tree.interpret environment room scope
    (environment.evaluateBody room ⟨tree.text environment.options.delimiters, offset⟩
      [scope]).Yields text.result text.account := by
  have yields := evaluateBody_yields tolerant usable writable renders room offset [scope]
  simp only [List.map_cons, List.map_nil, Accounted.join_singleton] at yields
  exact yields

end Bodies

section Blocks

variable
  {environment : Environment}
  (tolerant : environment.options.strict = false)
  (usable : environment.options.delimiters.opening ≠ [] ∧
    environment.options.delimiters.closing ≠ [])
  {body rest : Tree}
  (bodyWritable : body.IsWritable environment.options.delimiters)
  (bodyRenders : environment.Renders body)
  (restRenders : environment.Renders rest)
  (path : Text)
  (arguments : List Text)

include tolerant usable bodyWritable bodyRenders restRenders

theorem renders_branch
    (wanted : Bool)
    {alternative? : Option Tree}
    (alternativeWritable : ∀ alternative ∈ alternative?,
      alternative.IsWritable environment.options.delimiters)
    (alternativeRenders : ∀ alternative ∈ alternative?, environment.Renders alternative) :
    environment.Renders (.branch wanted path arguments body alternative? rest) := by
  intro room scope whole position
  let delimiters := environment.options.delimiters
  let block := Block.ofWanted wanted
  let source := environment.source whole
  let alternativeText? := alternative?.map (Tree.text delimiters)
  have start := source.start_writtenBlock block path arguments (body.text delimiters)
    alternativeText? position
  have stop := source.stop_writtenBlock block path arguments body.fragments
    (alternative?.map Tree.fragments) position
  obtain ⟨bodyOffset, alternativeOffset, form⟩ := source.form_writtenBlock block path arguments
    (body.text delimiters) alternativeText? position
  rw [Option.map_map] at stop
  rw [Tree.interpret_branch, Tree.text, Tree.fragments_branch, Fragment.print_append]
  refine (restRenders room scope whole _).cons start stop ?_
  rw [Token.Form.ofBlock_ofWanted] at form
  have bodyYields := evaluateBody_yields_singleton tolerant usable bodyWritable bodyRenders room
    bodyOffset scope
  refine branch_yields tolerant scope form bodyYields ?_
  cases alternative? with
  | none => rfl
  | some alternative =>
    exact evaluateBody_yields_singleton tolerant usable (alternativeWritable alternative rfl)
      (alternativeRenders alternative rfl) room alternativeOffset scope

theorem renders_loop : environment.Renders (.loop path arguments body rest) := by
  intro room scope whole position
  let bodyText := body.text environment.options.delimiters
  let source := environment.source whole
  have start := source.start_writtenBlock .forEach path arguments bodyText none position
  have stop := source.stop_writtenBlock .forEach path arguments body.fragments none position
  obtain ⟨bodyOffset, _, form⟩ := source.form_writtenBlock .forEach path arguments bodyText none
    position
  have bodyYields (items : List Value) := evaluateBody_yields tolerant usable bodyWritable
    bodyRenders room bodyOffset (loopScopes scope items)
  have yields := loop_yields tolerant scope form bodyYields
  simp only [loopScopes, List.map_map] at yields
  rw [Tree.interpret, Tree.text, Tree.fragments, Fragment.print_append]
  refine (restRenders room scope whole _).cons start stop ?_
  simp only [List.mapIdx_eq_zipIdx_map]
  exact yields

end Blocks

end Environment

namespace Tree

/-- The tokens of a tree are replaced as the tree is interpreted. -/
theorem renders
    {environment : Environment}
    (tolerant : environment.options.strict = false)
    (usable : environment.options.delimiters.opening ≠ [] ∧
      environment.options.delimiters.closing ≠ [])
    {tree : Tree}
    (writable : tree.IsWritable environment.options.delimiters) : environment.Renders tree := by
  -- A body is rendered with less room, in other scopes and as a text of its own, all of which the
  -- hypothesis for it leaves open.
  induction tree with
  | empty =>
    intro room scope body position
    exact .nil position
  | literal literalText rest restHypothesis =>
    have restRenders := restHypothesis fun fragment member =>
      writable fragment (List.mem_cons_of_mem _ member)
    intro room scope body position
    exact (restRenders room scope body _).literal_append literalText
  | expression name arguments rest restHypothesis =>
    have restRenders := restHypothesis fun fragment member =>
      writable fragment (List.mem_cons_of_mem _ member)
    intro room scope body position
    exact (restRenders room scope body _).cons rfl (Fragment.stop_tagSpan _ position _)
      (Environment.expression_yields tolerant scope _ rfl)
  | branch wanted path arguments body alternative? rest bodyHypothesis alternativeHypothesis
      restHypothesis =>
    obtain ⟨bodyWritable, alternativeWritable, restWritable⟩ := isWritable_of_branch writable
    exact Environment.renders_branch tolerant usable bodyWritable (bodyHypothesis bodyWritable)
      (restHypothesis restWritable) path arguments wanted alternativeWritable
      fun alternative present =>
        alternativeHypothesis alternative present (alternativeWritable alternative present)
  | loop path arguments body rest bodyHypothesis restHypothesis =>
    obtain ⟨bodyWritable, restWritable⟩ := isWritable_of_loop writable
    exact Environment.renders_loop tolerant usable bodyWritable (bodyHypothesis bodyWritable)
      (restHypothesis restWritable) path arguments

end Tree

/-- Rendering the text of a tree gives the report of interpreting the tree, for any delimiters that
do not occur in it, any helpers and any limit to the depth. -/
theorem Engine.process_text
    (engine : Engine)
    {tree : Tree}
    (data : Value)
    {options : Options}
    (tolerant : options.strict = false)
    (untrimmed : options.trims = false)
    (usable : options.delimiters.opening ≠ [] ∧ options.delimiters.closing ≠ [])
    (writable : tree.IsWritable options.delimiters) :
    engine.process (tree.text options.delimiters) data options =
      (tree.interpret (engine.environment options) options.maxDepth (Scope.root data)).report := by
  apply Report.ofRun_of_yields
  have renders := @Tree.renders (engine.environment options) tolerant usable tree writable
  have whole := Environment.evaluate_yields usable writable renders options.maxDepth 0
    [Scope.root data]
  simp only [List.map_cons, List.map_nil, Accounted.join_singleton] at whole
  have kept := whole.map fun output => if options.trims then Text.trim output else output
  rw [untrimmed] at kept
  rw [run, untrimmed]
  exact kept

/-- A letter with a block of every kind. -/
def Tree.letter : Tree :=
  .literal "Dear ".toList <|
  .branch false "name".toList [] (.literal "friend".toList .empty)
    (some (.expression "upper".toList ["name".toList] .empty)) <|
  .literal ", enjoy your ".toList <|
  .loop "items".toList []
    (.branch true "@first".toList [] .empty (some (.literal " and ".toList .empty)) <|
      .expression "this".toList [] .empty) <|
  .literal ". ".toList <|
  .expression "capitalize".toList ["'yours truly, '".toList] <|
  .expression "sender".toList [] .empty

theorem Engine.process_text_letter :
    let options : Options := { delimiters := ⟨['<'], ['>']⟩, maxDepth := 2 }
    let template :=
      "Dear <#unless name>friend<else><upper name></unless>, enjoy your <#each items>".toList ++
        "<#if @first><else> and </if><this></each>. <capitalize 'yours truly, '><sender>".toList
    let data := Value.ofEntries
      [("items".toList, .array [.string "tea".toList, .string "jam".toList]),
        ("name".toList, .string "Ann".toList)]
    let report := ({} : Engine).process template data options
    options.strict = false ∧ options.trims = false ∧
      (options.delimiters.opening ≠ [] ∧ options.delimiters.closing ≠ []) ∧
      Tree.letter.IsWritable options.delimiters ∧
      report.output = "Dear ANN, enjoy your tea and jam. Yours truly, ".toList ∧
      report.used = ["name".toList, "items".toList, "@first".toList, "this".toList] ∧
      report.missing = ["sender".toList] ∧
      report.counters = ⟨2, 3, 1, 2⟩ := by
  intro options template data report
  have writable : Tree.letter.IsWritable options.delimiters := by decide +kernel
  have written : Tree.letter.text options.delimiters = template := by decide +kernel
  have rendered := @Engine.process_text {} Tree.letter data options rfl rfl (by decide) writable
  rw [written] at rendered
  refine ⟨rfl, rfl, by decide, writable, ?_⟩
  rw [show report = _ from rendered]
  decide +kernel

end Stencil
