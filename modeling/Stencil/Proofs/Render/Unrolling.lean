import Stencil.Proofs.Render.Independence
import Stencil.Proofs.Render.Leniency
import Stencil.Proofs.Render.Relocation
import Stencil.Proofs.Scope.Flattening

/-!
# Unrolling a loop

A loop reads its body once and renders it in a scope for each item.  This comes to the same as a
rendering of its own for each item, of the text of the body against one object that holds the item,
the loop markers and the data, with room for one level of blocks less.
-/

namespace Stencil

/-- The data for the items of a loop, one object for each of them. -/
def Value.unrolled (data : Value) (items : List Value) : List Value :=
  items.zipIdx.map fun (item, index) =>
    data.flat item ⟨index, index = 0, index + 1 = items.length⟩

/-- A replacement for a whole text is what comes out. -/
theorem Text.weave_whole (text replacement : Text) :
    weave 0 text [⟨⟨0, size text⟩, replacement⟩] = replacement := by
  have whole := weave_cons 0 [] text [] replacement []
  simpa [weave] using whole

namespace Environment

variable
  {environment : Environment}
  (tolerant : environment.options.strict = false)

include tolerant

/-- A body inside a template, one level deeper, comes to what its text comes to as a template of its
own. -/
theorem evaluateBody_yields_rendering
    (room limit : Nat)
    (body : Body)
    (scopes : List Scope) :
    let texts := Accounted.join (scopes.map (environment.rendering room ⟨body.text, 0⟩))
    ((environment.withLimit limit).evaluateBody (room + 1) body scopes).Yields texts.result
      (((environment.source ⟨body.text, 0⟩).parse.account ++ texts.account).relocate
        ⟨body.offset, limit⟩) := by
  intro texts
  have moved := evaluate_relocate environment
    (environment.evaluateBody_relocate ⟨body.offset, limit⟩ room) ⟨body.text, 0⟩ scopes
  rw [Body.shift, Nat.zero_add] at moved
  rw [evaluateBody]
  apply Run.Yields.within
  rw [moved]
  exact (evaluate_yields_flatten tolerant room ⟨body.text, 0⟩ scopes).relocate _

/-- A loop over a list comes to the text of its body in the scopes of the items. -/
theorem token_yields_renderings
    (room limit : Nat)
    {token : Token}
    {path : Text}
    {body : Body}
    {scope : Scope}
    {items : List Value}
    (form : token.form = .loop path body)
    (found : scope.lookup? path = some (.array items)) :
    let outer := environment.withLimit limit
    let texts := Accounted.join
      ((loopScopes scope items).map (environment.rendering room ⟨body.text, 0⟩))
    (outer.token (outer.evaluateBody (room + 1)) scope token).Yields texts.result
      ({ used := [path] } ++ ({ counters := ⟨0, 0, 1, 0⟩ } ++
        ((environment.source ⟨body.text, 0⟩).parse.account ++ texts.account).relocate
          ⟨body.offset, limit⟩)) := by
  intro outer texts
  have bodyYields := evaluateBody_yields_rendering tolerant room limit body
    (loopScopes scope items)
  rw [Environment.token, form]
  dsimp only
  rw [loop, found]
  exact (Run.Yields.record (.used path)).andThen ((Run.Yields.record .unrolled).andThen bodyYields)

end Environment

namespace Engine

section Lenient

variable
  (engine : Engine)
  {options : Options}
  (tolerant : options.strict = false)
  (untrimmed : options.trims = false)

include tolerant untrimmed

/-- A template is rendered against the object for an item as it is rendered inside the loop. -/
theorem process_flat
    (template : Text)
    (data item : Value)
    (position : LoopPosition) :
    let environment := engine.environment options
    let text := environment.rendering options.maxDepth ⟨template, 0⟩
      ((Scope.root data).enter item position)
    engine.process template (data.flat item position) options =
      (Accounted.mk text.result
        ((environment.source ⟨template, 0⟩).parse.account ++ text.account)).report := by
  intro environment text
  -- The scope of the item and the object for it agree on every name, whatever the tags mention.
  have same : environment.evaluate (environment.evaluateBody options.maxDepth) ⟨template, 0⟩
      [(Scope.root data).enter item position] =
        environment.evaluateTemplate template (data.flat item position) :=
    environment.evaluate_congr options.maxDepth fun name _ =>
      Scope.get?_enter_root data item position name
  have yields := @Environment.evaluate_yields_flatten environment tolerant options.maxDepth
    ⟨template, 0⟩ [(Scope.root data).enter item position]
  rw [same] at yields
  simp only [List.map_cons, List.map_nil, Accounted.join_singleton] at yields
  apply Report.ofRun_of_yields
  rw [run_of_untrimmed engine untrimmed]
  exact yields

theorem map_process_unrolled (template : Text) (data : Value) (items : List Value) :
    let environment := engine.environment options
    (data.unrolled items).map (fun flat => engine.process template flat options) =
      (Environment.loopScopes (Scope.root data) items).map fun scope =>
        let text := environment.rendering options.maxDepth ⟨template, 0⟩ scope
        (Accounted.mk text.result
          ((environment.source ⟨template, 0⟩).parse.account ++ text.account)).report := by
  intro environment
  rw [Value.unrolled, Environment.loopScopes, List.map_map, List.map_map]
  exact List.map_congr_left fun (item, index) _ =>
    engine.process_flat tolerant untrimmed template data item _

/-- A template that is nothing but one token comes to what the token comes to. -/
theorem process_of_token_yields
    {template : Text}
    {data : Value}
    {token : Token}
    {text : Text}
    {account : Account}
    (single : engine.tokens options template = [token])
    (whole : token.span = ⟨0, Text.size template⟩)
    (yields : let environment := engine.environment options
      (environment.token (environment.evaluateBody options.maxDepth) (Scope.root data) token).Yields
        text account) :
    let parsed := ((engine.environment options).source ⟨template, 0⟩).parse
    engine.process template data options =
      (Accounted.mk text (parsed.account ++ account)).report := by
  intro parsed
  let environment := engine.environment options
  have edit : (environment.edit (environment.evaluateBody options.maxDepth) (Scope.root data)
      token).Yields ⟨token.span, text⟩ account :=
    yields.map (Edit.mk token.span)
  have edited : (engine.edits data options (engine.tokens options template)).Yields
      [⟨⟨0, Text.size template⟩, text⟩] account := by
    rw [single, ← whole, ← account.append_empty]
    exact edit.collect_cons (Run.Yields.pure [])
  have woven := Text.weave_whole template text
  have report := engine.process_of_edits_yield data tolerant untrimmed edited
  rwa [woven] at report

/-- A loop over a list is its unrolling.  A template that is nothing but the loop comes to the texts
of its body for the items, one after the other, each rendered against one object for the item. -/
theorem process_loop
    {template : Text}
    {data : Value}
    {token : Token}
    {path : Text}
    {body : Body}
    {items : List Value}
    (single : engine.tokens options template = [token])
    (form : token.form = .loop path body)
    (whole : token.span = ⟨0, Text.size template⟩)
    (found : (Scope.root data).lookup? path = some (.array items))
    (room : Nat) :
    let report := engine.process template data { options with maxDepth := room + 1 }
    let reports := (data.unrolled items).map fun flat =>
      engine.process body.text flat { options with maxDepth := room }
    report.output = (reports.map Report.output).flatten ∧
      report.counters = ⟨0, 0, 1, 0⟩ + (reports.map Report.counters).sum := by
  intro report reports
  have tokenYields := @Environment.token_yields_renderings
    (engine.environment { options with maxDepth := room }) tolerant room (room + 1) token path body
    (Scope.root data) items form found
  have reportSame : report = _ :=
    @process_of_token_yields engine { options with maxDepth := room + 1 } tolerant untrimmed
      template data token _ _ single whole tokenYields
  have reportsSame : reports = _ :=
    @map_process_unrolled engine { options with maxDepth := room } tolerant untrimmed body.text data
      items
  rw [reportSame, reportsSame]
  simp [Accounted.report, Accounted.join, Account.relocate, Parsed.account, Function.comp_def]

end Lenient

/-- A loop with a loop inside, over items that hide a marker, that are no objects, and that are
objects with a list of their own. -/
theorem process_loop_rows :
    let options : Options := { delimiters := ⟨"[[".toList, "]]".toList⟩ }
    let engine : Engine := { registry := [] }
    let inside := "[[@index]][[#each cells]][[@key]][[title]][[/each]][[#if @last]].[[/if]]".toList
    let template := "[[#each rows]]".toList ++ inside ++ "[[/each]]".toList
    let items := [Value.object [("@index".toList, .string "x".toList)], .bool true,
      .object [("cells".toList, .array [.null, .null])]]
    let data := Value.object [("rows".toList, .array items), ("title".toList, .string "t".toList)]
    let token : Token :=
      ⟨.loop "rows".toList ⟨inside, 14⟩, template, ⟨0, Text.size template⟩⟩
    engine.tokens options template = [token] ∧
      (Scope.root data).lookup? "rows".toList = some (.array items) ∧
      (engine.process template data { options with maxDepth := 1 + 1 }).output =
        "x120t1t.".toList := by
  intro options engine inside template items data token
  have single : engine.tokens options template = [token] := by decide +kernel
  have found : (Scope.root data).lookup? "rows".toList = some (.array items) := rfl
  have unrolled := engine.process_loop rfl rfl single rfl rfl found 1
  refine ⟨single, found, unrolled.1.trans ?_⟩
  decide +kernel

end Engine
end Stencil
