import Stencil.Proofs.Dictionary
import Stencil.Proofs.Render.Reading
import Stencil.Proofs.Report.Basic
import Stencil.Proofs.Scope.Lookup
import Stencil.Proofs.Source.Lone
import Stencil.Proofs.Value.Numeral

/-!
# Arguments that are written out

A helper may be given texts between quotes and integers.  Each of them is looked up as a path first,
and the text of an integer is read as a double; still, a helper is called with exactly what is
written, as long as the data has no entry of that name.
-/

namespace Stencil

/-- An argument that is written out. -/
inductive Literal where
  /-- A text between quotes. -/
  | quoted (quote : Char) (content : Text)
  /-- An integer in decimal. -/
  | integer (value : Int)
deriving DecidableEq, Repr

namespace Literal

/-- The word that is written. -/
def word : Literal → Text
  | quoted quote content => quote :: (content ++ [quote])
  | integer value => Text.ofInt value

/-- The value that is meant. -/
def value : Literal → Value
  | quoted _ content => .string content
  | integer value => .ofInt value

/-- Whether a literal can be written: a text does not contain its quote, and an integer has at most
fifteen digits. -/
def IsValid : Literal → Prop
  | quoted quote content => Word.isQuote quote ∧ quote ∉ content
  | integer value => value.natAbs < 10 ^ 15

instance : DecidablePred IsValid
  | quoted quote content => inferInstanceAs (Decidable (Word.isQuote quote ∧ quote ∉ content))
  | integer value => inferInstanceAs (Decidable (value.natAbs < 10 ^ 15))

/-- Whether no literal is the name of an entry of data. -/
structure AreUnlisted (data : Value) (literals : List Literal) : Prop where
  /-- No key starts with a quote. -/
  quoted : ∀ key ∈ Dictionary.keys data.entries,
    ∀ character ∈ key.head?, Word.isQuote character = false
  /-- No key is the text of one of the integers. -/
  integer : ∀ value, .integer value ∈ literals →
    Text.ofInt value ∉ Dictionary.keys data.entries

end Literal

/-- The text of an integer has neither blanks, quotes nor dots, and it is not the beginning of the
name of the data itself. -/
theorem Text.plain_of_mem_ofInt
    {value : Int}
    {character : Char}
    (member : character ∈ ofInt value) :
    isBlank character = false ∧ Word.isQuote character = false ∧ character ≠ '.' ∧
      character ≠ 't' := by
  rcases isDigit_of_mem_ofInt member with digit | rfl
  · have differs (other : Char) (noDigit : other.isDigit = false) : character ≠ other := by
      rintro rfl
      exact Bool.false_ne_true (noDigit.symm.trans digit)
    have unquoted : Word.isQuote character = false := by
      rw [Word.isQuote, Bool.or_eq_false_iff, decide_eq_false_iff_not, decide_eq_false_iff_not]
      exact ⟨differs '"' rfl, differs '\'' rfl⟩
    exact ⟨isBlank_of_isDigit digit, unquoted, differs '.' rfl, differs 't' rfl⟩
  · decide

/-- A name that data has no entry for is no path into the data, unless it names the data itself. -/
theorem Scope.lookup?_root_eq_none
    {data : Value}
    {path : Text}
    (absent : Path.head path ∉ Dictionary.keys data.entries)
    (notSelf : Path.head path ≠ Frame.selfName) : (root data).lookup? path = none := by
  obtain ⟨rest, segments⟩ := Path.exists_segments_eq path
  rw [lookup?, segments]
  dsimp only
  rw [get?_root, if_neg notSelf, Dictionary.get?_eq_none absent]
  rfl

namespace Literal

variable {literal : Literal} (valid : literal.IsValid)

include valid

/-- A literal is a single word. -/
theorem isWord_word : Word.isWord literal.word := by
  cases literal with
  | quoted quote content =>
    obtain ⟨isQuote, inside⟩ := valid
    rw [word, Word.isWord, if_pos isQuote, List.getLast?_concat, List.dropLast_concat]
    simpa using inside
  | integer value =>
    have plain : ∀ character ∈ Text.ofInt value,
        Text.isBlank character = false ∧ Word.isQuote character = false :=
      fun _ member => (Text.plain_of_mem_ofInt member).imp_right And.left
    obtain ⟨first, rest, written⟩ := List.exists_cons_of_ne_nil (Text.ofInt_ne_nil value)
    rw [written] at plain
    have unquoted := (plain first List.mem_cons_self).2
    rw [word, written, Word.isWord, unquoted, if_neg Bool.false_ne_true, List.all_eq_true]
    intro character member
    rw [(plain character member).1]
    rfl

variable {data : Value} {literals : List Literal}

/-- A literal is not taken for a path. -/
theorem lookup?_word
    (unlisted : AreUnlisted data literals)
    (member : literal ∈ literals) : (Scope.root data).lookup? literal.word = none := by
  cases literal with
  | quoted quote content =>
    obtain ⟨isQuote, inside⟩ := valid
    have notDot : quote ≠ '.' := by
      rintro rfl
      exact absurd isQuote (by decide)
    have starts : (Path.head (word (.quoted quote content))).head? = some quote := by
      rw [word, Path.head, List.head?_takeWhile, List.head?_cons]
      exact Option.filter_some_pos (decide_eq_true notDot)
    apply Scope.lookup?_root_eq_none
    · intro listed
      have notQuote := unlisted.quoted _ listed quote starts
      exact Bool.false_ne_true (notQuote.symm.trans isQuote)
    · intro same
      rw [same] at starts
      obtain rfl := Option.some.inj starts
      exact absurd isQuote (by decide)
  | integer value =>
    have whole : Path.head (Text.ofInt value) = Text.ofInt value :=
      Path.head_eq_self fun inIt => (Text.plain_of_mem_ofInt inIt).2.2.1 rfl
    apply Scope.lookup?_root_eq_none
    · rw [word, whole]
      exact unlisted.integer value member
    · rw [word, whole]
      intro same
      have first : 't' ∈ Text.ofInt value := same ▸ List.mem_cons_self
      exact (Text.plain_of_mem_ofInt first).2.2.2 rfl

/-- A literal that is not taken for a path is what is meant by it. -/
theorem argument_word
    (notPath : (Scope.root data).lookup? literal.word = none) :
    Environment.argument (Scope.root data) literal.word = pure literal.value := by
  rw [Environment.argument, notPath]
  dsimp only
  cases literal with
  | quoted quote content =>
    have held : Word.unquote? (word (.quoted quote content)) = some content := by
      rw [word, Word.unquote?, List.getLast?_concat, List.dropLast_concat, valid.1]
      exact if_pos (decide_eq_true rfl)
    rw [held]
    rfl
  | integer value =>
    obtain ⟨first, rest, written⟩ := List.exists_cons_of_ne_nil (Text.ofInt_ne_nil value)
    have plain := Text.plain_of_mem_ofInt (written ▸ List.mem_cons_self)
    have unheld : Word.unquote? (Text.ofInt value) = none := by
      rw [written, Word.unquote?, plain.2.1]
      rfl
    obtain ⟨nearest, read, same⟩ := Value.exists_ofText?_ofInt valid
    rw [word, unheld, read]
    exact congrArg pure same

end Literal

/-- Whether an event is a call of a helper. -/
def Event.isCall : Event → Bool
  | .called _ _ _ => true
  | _ => false

section Calls

variable
  {data : Value}
  {literals : List Literal}
  (valid : ∀ literal ∈ literals, literal.IsValid)
  (unlisted : Literal.AreUnlisted data literals)

include valid unlisted

/-- Nothing happens while literals are evaluated. -/
theorem Literal.collect_words :
    Run.collect (Environment.argument (Scope.root data)) (literals.map Literal.word) =
      pure (literals.map Literal.value) := by
  rw [Run.collect_map, ← Run.collect_pure]
  refine Run.collect_congr fun literal member => ?_
  have literalValid := valid literal member
  exact argument_word literalValid (lookup?_word literalValid unlisted member)

namespace Environment

/-- A call with literals is a call with their values.  After it, nothing but the failure of the
helper is recorded. -/
theorem exists_events_call (environment : Environment) (name : Text) (helper : Helper) :
    let values := literals.map Literal.value
    let words := literals.map Literal.word
    ∃ problems : List Problem, (environment.call name helper words (Scope.root data)).events =
      .called name values (helper values) :: problems.map Event.failed := by
  intro values words
  rw [call, Literal.collect_words valid unlisted]
  simp only [pure_bind]
  rw [Run.bind_of_ok _ rfl]
  cases (helper values).toExcept with
  | ok value => exact ⟨[], rfl⟩
  | error message =>
    refine ⟨[.helperFailed name message], ?_⟩
    exact congrArg _ (Run.events_bind_pure _ _)

end Environment

end Calls

/-- A name with literals behind it is an expression, unless it starts like another tag. -/
theorem Literal.isWritable_call
    {content name : Text}
    {literals : List Literal}
    (notOpening : name.head? ≠ some '#')
    (notClosing : name.head? ≠ some '/')
    (nonempty : literals ≠ [])
    (valid : ∀ literal ∈ literals, literal.IsValid)
    (splits : Word.SplitsInto content (name :: literals.map Literal.word)) :
    (Tag.Kind.expression (name :: literals.map Literal.word)).isWritable := by
  obtain ⟨literal, others, rfl⟩ := List.exists_cons_of_ne_nil nonempty
  -- Only a last word may lack its closing quote.
  have nameSingle : Word.isWord name := by
    cases splits.areWords with
    | word single others => exact single
  rw [Tag.Kind.isWritable, Bool.and_eq_true, List.all_eq_true]
  constructor
  · refine List.forall_mem_cons.mpr ⟨nameSingle, fun word member => ?_⟩
    obtain ⟨written, listed, rfl⟩ := List.mem_map.mp member
    exact Literal.isWord_word (valid written listed)
  · simp [Tag.Kind.isExpression, notOpening, notClosing]

/-- What happens where a template is one expression is what happens when its token is evaluated. -/
theorem Environment.exists_events_evaluateTemplate
    {environment : Environment}
    {content : Text}
    {words : List Text}
    (usable : environment.options.delimiters.opening ≠ [] ∧
      environment.options.delimiters.closing ≠ [])
    (absent : environment.options.delimiters.areAbsentFrom content)
    (splits : Word.SplitsInto content words)
    (writable : (Tag.Kind.expression words).isWritable)
    (data : Value) :
    let delimiters := environment.options.delimiters
    let template := delimiters.opening ++ content ++ delimiters.closing
    ∃ (token : Token) (evaluateBody : BodyEvaluator),
      token.form = .ofWords environment.helpers.contains words ∧
        (environment.evaluateTemplate template data).events =
          (environment.token evaluateBody (Scope.root data) token).events := by
  intro delimiters template
  let source := environment.source ⟨template, 0⟩
  let token := source.token (.ofWords source.isHelper words) (delimiters.tagSpan 0 content)
  have parsed : source.parse = ⟨[token], [], none, []⟩ :=
    Source.parse_of_expression usable absent splits writable rfl
  have silent : environment.announce ⟨[token], [], none, []⟩ = pure () := rfl
  refine ⟨token, environment.evaluateBody environment.options.maxDepth, rfl, ?_⟩
  rw [evaluateTemplate, evaluate_singleton, parsed, silent, pure_bind, substitute]
  simp only [Run.collect, bind_assoc, pure_bind]
  exact Run.events_bind_pure _ _

/-- Literals reach a helper as they are meant.  A tag whose words are the name of a helper and
literals, joined by spaces or laid out otherwise, calls the helper once, with what the literals
stand for, and nothing counts as used. -/
theorem Engine.process_literals
    {engine : Engine}
    {options : Options}
    {data : Value}
    {name content : Text}
    {helper : Helper}
    {literals : List Literal}
    (usable : options.delimiters.opening ≠ [] ∧ options.delimiters.closing ≠ [])
    (absent : options.delimiters.areAbsentFrom content)
    (notOpening : name.head? ≠ some '#')
    (notClosing : name.head? ≠ some '/')
    (known : (engine.environment options).helpers.get? name = some helper)
    (nonempty : literals ≠ [])
    (valid : ∀ literal ∈ literals, literal.IsValid)
    (unlisted : Literal.AreUnlisted data literals)
    (splits : Word.SplitsInto content (name :: literals.map Literal.word)) :
    let template := options.delimiters.opening ++ content ++ options.delimiters.closing
    let values := literals.map Literal.value
    (engine.run template data options).events.filter Event.isCall =
        [.called name values (helper values)] ∧
      (engine.process template data options).used = [] := by
  intro template values
  have writable := Literal.isWritable_call notOpening notClosing nonempty valid splits
  obtain ⟨token, evaluateBody, form, events⟩ :=
    @Environment.exists_events_evaluateTemplate (engine.environment options) _ _
      usable absent splits writable data
  have called : token.form = .call name (literals.map Literal.word) := by
    obtain ⟨literal, others, rfl⟩ := List.exists_cons_of_ne_nil nonempty
    exact form
  obtain ⟨problems, call⟩ :=
    (engine.environment options).exists_events_call valid unlisted name helper
  rw [Environment.token, called] at events
  dsimp only at events
  rw [Environment.callText, known] at events
  dsimp only at events
  rw [Run.events_bind_pure, call] at events
  have happened : (engine.run template data options).events =
      .called name values (helper values) :: problems.map Event.failed := by
    rw [events_run]
    exact events
  rw [Engine.process, Report.used_ofRun, happened]
  constructor
  · rw [List.filter_cons_of_pos rfl, List.filter_map]
    simp [Event.isCall, Function.comp_def]
  · simp [Event.usedPath?]

/-- Texts that look like paths and numbers, and integers next to the limit, one of which is a key
without its sign. -/
theorem Engine.process_literals_pair :
    let helper : Helper := fun arguments => .value (.array arguments)
    let options : Options :=
      { delimiters := ⟨"<".toList, ">".toList⟩, overrides := [("pair".toList, helper)] }
    let data : Value := .object [("999999999999999".toList, .null), ("a".toList, .null)]
    let template := "<pair 'a.b \"1\" ' -999999999999999 \"\" 0>".toList
    let values : List Value :=
      [.string "a.b \"1\" ".toList, .ofInt (-999999999999999), .string [], .ofInt 0]
    (({} : Engine).run template data options).events.filter Event.isCall =
        [.called "pair".toList values (helper values)] ∧
      (({} : Engine).process template data options).used = [] := by
  intro helper options data template values
  let literals : List Literal :=
    [.quoted '\'' "a.b \"1\" ".toList, .integer (-999999999999999), .quoted '"' [], .integer 0]
  have valid : ∀ literal ∈ literals, literal.IsValid := by decide
  have unlisted : Literal.AreUnlisted data literals := by
    refine ⟨by simp [data, Dictionary.keys, Word.isQuote], fun value member => ?_⟩
    have candidates : value = -999999999999999 ∨ value = 0 := by
      simpa [literals] using member
    rcases candidates with rfl | rfl <;> decide
  have areWords : Word.AreWords ("pair".toList :: literals.map Literal.word) :=
    .of_forall_isWord (by decide)
  have written : options.delimiters.opening ++
      Word.join ("pair".toList :: literals.map Literal.word) ++ options.delimiters.closing =
        template := by
    decide +kernel
  have called := @process_literals {} options data "pair".toList _ helper literals (by decide)
    (by decide +kernel) (by decide) (by decide) rfl (by decide) valid unlisted
    (Word.splitsInto_join areWords)
  rw [written] at called
  exact called

end Stencil
