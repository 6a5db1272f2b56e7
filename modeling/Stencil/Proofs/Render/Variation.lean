import Stencil.Proofs.Render.Reading
import Stencil.Proofs.Render.Replacement
import Stencil.Proofs.Render.Uniformity
import Stencil.Proofs.Scope.Lookup
import Stencil.Proofs.Source.Layout
import Stencil.Proofs.Source.Mention
import Stencil.Proofs.Text.Gap

/-!
# Data that varies

A text may be rendered in scopes that vary in a limited way: under some names all scopes know the
same, and under others each scope may know a string of its own.  If the tags of the text look up
nothing else, and put the strings nowhere but into the output, then all the renderings are alike up
to the places where the strings stand.
-/

namespace Stencil

/-- A limited way for scopes to vary. -/
structure Variation (ι : Type) where
  /-- The names under which all scopes know the same. -/
  steady : Text → Prop
  /-- The names under which each scope may know its own string. -/
  filled : Text → Prop
  /-- The string of each scope. -/
  strings : ι → Text

namespace Variation

variable {ι : Type}

/-- Whether scopes vary in no other way. -/
structure Covers (variation : Variation ι) (scopes : ι → Scope) : Prop where
  steady : ∀ name, variation.steady name → ∀ left right,
    (scopes left).get? name = (scopes right).get? name
  filled : ∀ name, variation.filled name →
    (∀ left right, (scopes left).get? name = (scopes right).get? name) ∨
      ∀ index, (scopes index).get? name = some (.string (variation.strings index))

/-- Whether a tag looks up only what is the same in all scopes, or else is an expression that shows
the string of each scope. -/
def Allows (variation : Variation ι) (kind : Tag.Kind) : Prop :=
  (∀ word ∈ kind.words, variation.steady (Path.head word)) ∨
    ∃ word, kind = .expression [word] ∧ Path.head word = word ∧ variation.filled word

variable
  {variation : Variation ι}
  {scopes : ι → Scope}
  (covers : variation.Covers scopes)

include covers

theorem Covers.lookup?_eq
    {path : Text}
    (steady : variation.steady (Path.head path))
    (left right : ι) : (scopes left).lookup? path = (scopes right).lookup? path :=
  Scope.lookup?_congr (covers.steady _ steady left right)

/-- An item of a loop is the same in all scopes and hides the same names. -/
theorem Covers.enter (item : Value) (position : LoopPosition) :
    variation.Covers fun index => (scopes index).enter item position where
  steady name isSteady left right := by
    rw [Scope.enter, Scope.enter, Scope.get?_cons, Scope.get?_cons,
      covers.steady name isSteady left right]
  filled name isFilled := by
    simp only [Scope.enter, Scope.get?_cons]
    cases (Frame.ofItem item position).get? name with
    | some value => exact .inl fun _ _ => rfl
    | none => exact covers.filled name isFilled

/-- The scopes of a loop vary as those around the loop. -/
theorem Covers.exists_loopScopes (items : List Value) :
    ∃ families : List (ι → Scope), (∀ family ∈ families, variation.Covers family) ∧
      ∀ index, Environment.loopScopes (scopes index) items =
        families.map fun family => family index := by
  refine ⟨items.zipIdx.map fun entry index =>
    (scopes index).enter entry.1 ⟨entry.2, entry.2 = 0, entry.2 + 1 = items.length⟩, ?_, ?_⟩
  · intro family member
    obtain ⟨entry, -, rfl⟩ := List.mem_map.mp member
    exact covers.enter entry.1 _
  · intro index
    rw [List.map_map]
    rfl

end Variation

namespace Environment

section Agreement

variable (environment : Environment) {left right : Scope}

theorem field_congr
    {path : Text}
    (agree : left.lookup? path = right.lookup? path) :
    environment.field path left = environment.field path right := by
  rw [field, field, agree]

theorem argument_congr
    {word : Text}
    (agree : left.lookup? word = right.lookup? word) :
    argument left word = argument right word := by
  rw [argument, argument, agree]

variable {words : List Text} (agree : ∀ word ∈ words, left.lookup? word = right.lookup? word)

include agree

theorem call_congr (name : Text) (helper : Helper) :
    environment.call name helper words left = environment.call name helper words right := by
  rw [call, call, Run.collect_congr fun word member => argument_congr (agree word member)]

theorem callText_congr (name : Text) :
    environment.callText name words left = environment.callText name words right := by
  rw [callText, callText]
  cases environment.helpers.get? name with
  | none => rfl
  | some helper =>
    dsimp only
    rw [call_congr environment agree name helper]

theorem condition_congr
    {path : Text}
    (agreePath : left.lookup? path = right.lookup? path) :
    environment.condition path words left = environment.condition path words right := by
  rw [condition, condition, agreePath]
  cases environment.helpers.get? path with
  | none => rfl
  | some helper =>
    dsimp only
    rw [call_congr environment agree path helper]

end Agreement

variable {ι : Type}

/-- What is shown of the string of each scope. -/
def filling (environment : Environment) (variation : Variation ι) (index : ι) : Text :=
  if environment.options.escapesMarkup then
    Text.escapeMarkup (variation.strings index)
  else
    variation.strings index

/-- Whether runs are alike up to what is shown of the string of each scope. -/
abbrev Alike
    (environment : Environment)
    (variation : Variation ι)
    (runs : ι → Run Text) : Prop :=
  Run.Uniform (Text.Fills (environment.filling variation)) runs

/-- Whether bodies are rendered alike in scopes that vary in a limited way. -/
def Respects
    (environment : Environment)
    (variation : Variation ι)
    (evaluateBody : BodyEvaluator) : Prop :=
  ∀ body (families : List (ι → Scope)),
    (∀ tag ∈ (environment.source body).tags, variation.Allows tag.kind) →
    (∀ family ∈ families, variation.Covers family) →
      environment.Alike variation fun index =>
        evaluateBody body (families.map fun family => family index)

section Tokens

variable
  [Inhabited ι]
  {environment : Environment}
  {variation : Variation ι}
  {scopes : ι → Scope}
  (covers : variation.Covers scopes)

include covers

theorem field_uniform
    {path : Text}
    (allowed : variation.Allows (.expression [path])) :
    environment.Alike variation fun index =>
      environment.field path (scopes index) := by
  have alike (agree : ∀ left right, (scopes left).get? (Path.head path) =
      (scopes right).get? (Path.head path)) :
      environment.Alike variation fun index =>
        environment.field path (scopes index) := by
    have same (index : ι) : environment.field path (scopes index) =
        environment.field path (scopes default) :=
      field_congr environment (Scope.lookup?_congr (agree index default))
    simp only [same]
    exact .constant _ fun text => .last text
  rcases allowed with steady | ⟨word, same, whole, filled⟩
  · exact alike (covers.steady _ (steady path List.mem_cons_self))
  · obtain rfl := List.singleton_inj.mp (Tag.Kind.expression.inj same)
    rcases covers.filled path filled with agree | shown
    · -- An item of a loop hides the string.
      rw [whole] at alike
      exact alike agree
    · have shows (index : ι) : environment.field path (scopes index) =
          ⟨[.used path, .substituted], .ok (environment.filling variation index)⟩ := by
        rw [field, Scope.lookup?_eq_get? whole, shown index]
        rfl
      simp only [shows]
      exact .through _ (.gap _)

theorem callText_uniform
    {words : List Text}
    (steady : ∀ word ∈ words, variation.steady (Path.head word))
    (name : Text) :
    environment.Alike variation fun index =>
      environment.callText name words (scopes index) := by
  have same (index : ι) : environment.callText name words (scopes index) =
      environment.callText name words (scopes default) :=
    callText_congr environment
      (fun word member => covers.lookup?_eq (steady word member) index default) name
  simp only [same]
  exact .constant _ fun text => .last text

variable
  {evaluateBody : BodyEvaluator}
  (respects : environment.Respects variation evaluateBody)
  {path : Text}
  (steadyPath : variation.steady (Path.head path))

include respects steadyPath

theorem branch_uniform
    {words : List Text}
    (steady : ∀ word ∈ words, variation.steady (Path.head word))
    {body : Body}
    {alternative? : Option Body}
    (allowed : ∀ chosen ∈ body :: alternative?.toList, ∀ tag ∈ (environment.source chosen).tags,
      variation.Allows tag.kind)
    (wanted : Bool) :
    environment.Alike variation fun index =>
      environment.branch evaluateBody wanted path words body alternative? (scopes index) := by
  have same (index : ι) : environment.condition path words (scopes index) =
      environment.condition path words (scopes default) :=
    condition_congr environment
      (fun word member => covers.lookup?_eq (steady word member) index default)
      (covers.lookup?_eq steadyPath index default)
  -- The condition is the same in all scopes, so all of them choose the same body.
  simp only [branch, same]
  refine .bind_constant _ fun holds => .bind_constant _ fun _ => ?_
  have chosenAllowed : ∀ chosen ∈ (if holds = wanted then some body else alternative?),
      chosen ∈ body :: alternative?.toList := by
    intro chosen member
    split at member
    · obtain rfl := Option.some.inj member
      exact List.mem_cons_self
    · exact List.mem_cons_of_mem body (Option.mem_toList.mpr member)
  cases choice : if holds = wanted then some body else alternative? with
  | none => exact .pure (.last [])
  | some chosen =>
    refine respects chosen [scopes] (allowed chosen (chosenAllowed chosen choice)) ?_
    exact fun family member => List.mem_singleton.mp member ▸ covers

theorem loop_uniform
    {body : Body}
    (allowed : ∀ tag ∈ (environment.source body).tags, variation.Allows tag.kind) :
    environment.Alike variation fun index =>
      environment.loop evaluateBody path body (scopes index) := by
  have same (index : ι) := covers.lookup?_eq steadyPath index default
  -- The list is the same in all scopes, so there is one family of scopes for each of its items.
  simp only [loop, same]
  split
  · next items _ =>
    obtain ⟨families, familiesCovered, scopesSame⟩ := covers.exists_loopScopes items
    simp only [scopesSame]
    refine .bind_constant _ fun _ => .bind_constant _ fun _ => ?_
    exact respects body families allowed familiesCovered
  · split <;> exact .constant _ fun text => .last text

omit steadyPath in
/-- A block is rendered alike if its tag looks up only what is the same in all scopes. -/
theorem block_uniform
    {name : Text}
    {others : List Text}
    (allowed : variation.Allows (.opening name (path :: others)))
    (block : Block)
    {body : Body}
    {alternative? : Option Body}
    {token : Token}
    (form : token.form = .ofBlock block path others body alternative?)
    (bodiesAllowed : ∀ chosen ∈ token.bodies, ∀ tag ∈ (environment.source chosen).tags,
      variation.Allows tag.kind) :
    environment.Alike variation fun index =>
      environment.token evaluateBody (scopes index) token := by
  obtain ⟨_, raw, span⟩ := token
  obtain rfl := form
  rcases allowed with steady | ⟨other, single, -⟩
  · have steadyPath := steady path List.mem_cons_self
    have steadyOthers : ∀ word ∈ others, variation.steady (Path.head word) :=
      fun word member => steady word (List.mem_cons_of_mem path member)
    cases block with
    | whenTrue => exact branch_uniform covers respects steadyPath steadyOthers bodiesAllowed true
    | whenFalse => exact branch_uniform covers respects steadyPath steadyOthers bodiesAllowed false
    | forEach =>
      exact loop_uniform covers respects steadyPath (bodiesAllowed body List.mem_cons_self)
  · exact Tag.Kind.noConfusion single

omit respects steadyPath in
/-- An expression is rendered alike if it shows nothing but the string, or looks up only what is the
same in all scopes. -/
theorem expression_uniform
    {words : List Text}
    (nonempty : words ≠ [])
    (allowed : variation.Allows (.expression words))
    {token : Token}
    (form : token.form = .ofWords environment.helpers.contains words) :
    environment.Alike variation fun index =>
      environment.token evaluateBody (scopes index) token := by
  obtain ⟨_, raw, span⟩ := token
  obtain rfl := form
  rcases words with _ | ⟨name, _ | ⟨word, words⟩⟩
  · exact absurd rfl nonempty
  · rcases Token.Form.ofWords_singleton environment.helpers.contains name with call | field
    · rw [call]
      exact callText_uniform covers (fun _ member => absurd member List.not_mem_nil) name
    · rw [field]
      exact field_uniform covers allowed
  · rcases allowed with steady | ⟨other, single, -⟩
    · exact callText_uniform covers
        (fun other member => steady other (List.mem_cons_of_mem name member)) name
    · exact absurd (Tag.Kind.expression.inj single) (by simp)

omit steadyPath

variable
  {outer : Body}
  (allowed : ∀ tag ∈ (environment.source outer).tags, variation.Allows tag.kind)

include allowed

/-- A token is rendered alike in all scopes if the tags of its text are allowed. -/
theorem token_uniform
    {token : Token}
    (found : token ∈ (environment.source outer).parse.tokens) :
    environment.Alike variation fun index =>
      environment.token evaluateBody (scopes index) token := by
  obtain ⟨tag, isTag, expression | block⟩ := Source.exists_tag_of_mem_outline found
  · obtain ⟨words, kind, form⟩ := expression
    have allowedHere := allowed tag isTag
    rw [kind] at allowedHere
    exact expression_uniform covers (Source.words_ne_nil_of_mem_tags isTag kind) allowedHere form
  · obtain ⟨name, path, others, block, body, alternative?, kind, -, form⟩ := block
    have allowedHere := allowed tag isTag
    rw [kind] at allowedHere
    refine block_uniform covers respects allowedHere block form ?_
    intro chosen member inner mentioned
    obtain ⟨other, isOther, same⟩ := Source.exists_kind_eq_of_mem_body found member mentioned
    rw [← same]
    exact allowed other isOther

/-- Replacements that are alike make texts that are alike, wherever their lengths move what
follows. -/
theorem substitute_uniform :
    environment.Alike variation fun index =>
      environment.substitute evaluateBody outer.text (environment.source outer).parse.tokens
        (scopes index) := by
  let tokens := (environment.source outer).parse.tokens
  have edits : ∀ token ∈ tokens, Run.Uniform
      (fun edits => ∃ span texts, Text.Fills (environment.filling variation) texts ∧
        edits = fun index => ⟨span, texts index⟩)
      fun index => environment.edit evaluateBody (scopes index) token := by
    intro token found
    refine (token_uniform covers respects allowed found).bind fun texts fills => ?_
    exact .pure ⟨token.span, texts, fills, rfl⟩
  suffices splices : Run.Uniform
      (fun edits => Text.Fills (environment.filling variation) fun index =>
        Text.splice outer.text (edits index))
      fun index => Run.collect (environment.edit evaluateBody (scopes index)) tokens by
    simp only [substitute_eq]
    exact splices.bind fun edits fills => .pure fills
  refine (Run.Uniform.collect edits).consequence fun results ends fit => ?_
  obtain ⟨families, fills, rfl⟩ := fit
  -- Edits in place move what follows by lengths that vary.  Weaving does not speak of lengths.
  have woven (index : ι) : Text.splice outer.text (families.map fun family => family index) =
      Text.weave 0 outer.text (families.map fun family => family index) := by
    apply Text.HasSpans.splice_eq_weave
    rw [spans_of_collect_edit _ _ _ (ends index)]
    exact (environment.source outer).hasSpans_tokens
  simp only [woven]
  exact .weave fills 0 outer.text

omit covers allowed in
/-- A text is read in the same way whatever the scopes know, and so rendered alike. -/
theorem evaluate_respects :
    environment.Respects variation (environment.evaluate evaluateBody) := by
  intro body families allowed covered
  simp only [evaluate_eq, Run.collect_map]
  refine .bind_constant _ fun _ => ?_
  refine (Run.Uniform.collect fun family member => substitute_uniform (covered family member)
    respects allowed).bind fun texts fit => ?_
  obtain ⟨texts, fills, rfl⟩ := fit
  exact .pure (.flatten fills)

end Tokens

/-- Bodies are rendered alike at every depth. -/
theorem evaluateBody_respects
    [Inhabited ι]
    (environment : Environment)
    (variation : Variation ι)
    (room : Nat) : environment.Respects variation (environment.evaluateBody room) := by
  induction room with
  | zero =>
    intro body families _ _
    exact .constant _ fun text => .last text
  | succ room inductionHypothesis =>
    intro body families allowed covered
    exact (evaluate_respects inductionHypothesis body families allowed covered).within

/-- A template is rendered alike in scopes that vary in a limited way, if its tags are allowed. -/
theorem evaluateTemplate_uniform
    [Inhabited ι]
    (environment : Environment)
    {variation : Variation ι}
    {template : Text}
    {data : ι → Value}
    (allowed : ∀ tag ∈ (environment.source ⟨template, 0⟩).tags, variation.Allows tag.kind)
    (covers : variation.Covers fun index => Scope.root (data index)) :
    environment.Alike variation fun index =>
      environment.evaluateTemplate template (data index) := by
  have bodies := environment.evaluateBody_respects variation environment.options.maxDepth
  refine evaluate_respects bodies ⟨template, 0⟩ [fun index => Scope.root (data index)] allowed ?_
  exact fun family member => List.mem_singleton.mp member ▸ covers

end Environment
end Stencil
