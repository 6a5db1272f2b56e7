import Stencil.Proofs.Scope.Lookup
import Stencil.Proofs.Source.Bodies
import Stencil.Proofs.Source.Outline
import Stencil.Proofs.Tag.Content

/-!
# What the tags of a text mention

Rendering looks up no words but those that stand in the tags of the whole template: every token
comes from a tag, and the tags of a body are tags of the text around it.
-/

namespace Stencil

/-- The words of a tag that may be looked up: those of an expression, and the arguments of a
block. -/
def Tag.Kind.words : Kind → List Text
  | opening _ arguments => arguments
  | expression words => words
  | _ => []

theorem Word.split_ne_nil
    {text : Text}
    (nonempty : text ≠ [])
    (starts : ∀ character ∈ text.head?, Text.isBlank character = false) : split text ≠ [] := by
  cases text with
  | nil => exact absurd rfl nonempty
  | cons first rest =>
    rw [split, starts first rfl, if_neg Bool.false_ne_true]
    split <;> exact List.cons_ne_nil _ _

/-- An expression has at least one word. -/
theorem Tag.Kind.words_ne_nil_of_ofContent
    {text : Text}
    (nonempty : Text.trim text ≠ [])
    {words : List Text}
    (kind : ofContent (Text.trim text) = .expression words) : words ≠ [] := by
  have split := Word.split_ne_nil nonempty (Text.head?_trim text)
  unfold ofContent at kind
  split at kind
  · split at kind <;> exact Kind.noConfusion kind
  · exact Kind.noConfusion kind
  · split at kind
    · exact Kind.noConfusion kind
    · obtain rfl := Kind.expression.inj kind
      exact split

/-- A tag that a scan meets comes from a content that is not blank. -/
theorem Sighting.Scans.exists_content
    {delimiters : Delimiters}
    {position : Nat}
    {text : Text}
    {sightings : List Sighting}
    (scans : Scans delimiters position text sightings)
    {tag : Tag}
    (met : .tag tag ∈ sightings) :
    ∃ content, Text.trim content ≠ [] ∧ tag.kind = Tag.Kind.ofContent (Text.trim content) := by
  induction scans with
  | done absent => exact absurd met List.not_mem_nil
  | unclosed opened absent => exact Sighting.noConfusion (List.mem_singleton.mp met)
  | reopened opened closed again rest inductionHypothesis =>
    rcases List.mem_cons.mp met with first | later
    · exact Sighting.noConfusion first
    · exact inductionHypothesis later
  | @closed position text before inside content after sightings opened closed single rest
      inductionHypothesis =>
    rcases List.mem_cons.mp met with first | later
    · refine ⟨content, ?_⟩
      unfold ofContent at first
      split at first
      · exact Sighting.noConfusion first
      · next nonempty =>
        obtain rfl := Sighting.tag.inj first
        exact ⟨fun empty => nonempty (List.isEmpty_iff.mpr empty), rfl⟩
    · exact inductionHypothesis later

theorem Token.Form.ofWords_singleton (isHelper : Text → Bool) (word : Text) :
    ofWords isHelper [word] = .call word [] ∨ ofWords isHelper [word] = .field word := by
  rw [ofWords]
  split
  · exact .inl rfl
  · exact .inr rfl

/-- What a tag of some kind stands for: an expression for a variable or for a call, and an opening
tag with a target for a block.  A call without arguments is of a helper that there is. -/
inductive Tag.Kind.Makes (isHelper : Text → Bool) : Kind → Token.Form → Prop where
  | field (path : Text) : Makes isHelper (expression [path]) (.field path)
  | call
    (name : Text)
    (arguments : List Text)
    (known : arguments = [] → isHelper name) :
    Makes isHelper (expression (name :: arguments)) (.call name arguments)
  | branch
    (wanted : Bool)
    (path : Text)
    (arguments : List Text)
    (body : Body)
    (alternative? : Option Body) :
    Makes isHelper
      (opening (if wanted then Block.whenTrue else Block.whenFalse).name (path :: arguments))
      (.branch wanted path arguments body alternative?)
  | loop (path : Text) (arguments : List Text) (body : Body) :
    Makes isHelper (opening Block.forEach.name (path :: arguments)) (.loop path body)

theorem Tag.Kind.makes_ofWords
    (isHelper : Text → Bool)
    {words : List Text}
    (nonempty : words ≠ []) : Makes isHelper (expression words) (.ofWords isHelper words) := by
  rcases words with _ | ⟨word, _ | ⟨next, others⟩⟩
  · exact absurd rfl nonempty
  · rw [Token.Form.ofWords]
    split
    · next calls => exact .call word [] fun _ => (Bool.and_eq_true_iff.mp calls).2
    · exact .field word
  · exact .call word (next :: others) fun none => absurd none (List.cons_ne_nil next others)

theorem Tag.Kind.makes_ofBlock
    (isHelper : Text → Bool)
    (block : Block)
    (path : Text)
    (arguments : List Text)
    (body : Body)
    (alternative? : Option Body) :
    Makes isHelper (opening block.name (path :: arguments))
      (.ofBlock block path arguments body alternative?) := by
  cases block with
  | whenTrue => exact .branch true path arguments body alternative?
  | whenFalse => exact .branch false path arguments body alternative?
  | forEach => exact .loop path arguments body

namespace Source

/-- The names under which the words of the tags of a text start to look. -/
def names (source : Source) : List Text :=
  source.tags.flatMap fun tag => tag.kind.words.map Path.head

variable {source : Source}

theorem head_mem_names
    {tag : Tag}
    {word : Text}
    (member : tag ∈ source.tags)
    (mentioned : word ∈ tag.kind.words) : Path.head word ∈ source.names :=
  List.mem_flatMap.mpr ⟨tag, member, List.mem_map_of_mem mentioned⟩

theorem words_ne_nil_of_mem_tags
    {tag : Tag}
    (member : tag ∈ source.tags)
    {words : List Text}
    (kind : tag.kind = .expression words) : words ≠ [] := by
  have scans := scans_sightings (usable_of_mem_tags member)
  obtain ⟨sighting, met, isTag⟩ := List.mem_filterMap.mp member
  cases sighting with
  | tag found =>
    obtain rfl := Option.some.inj isTag
    obtain ⟨content, nonempty, same⟩ := scans.exists_content met
    exact Tag.Kind.words_ne_nil_of_ofContent nonempty (same.symm.trans kind)
  | _ => exact absurd isTag.symm (Option.some_ne_none tag)

/-- What a token stands for is said by one of the tags. -/
theorem exists_tag_of_mem_outline
    {tags : List Tag}
    {token : Token}
    (found : token ∈ (source.outline tags).tokens) :
    ∃ tag ∈ tags,
      (∃ words, tag.kind = .expression words ∧
        token.form = .ofWords source.isHelper words) ∨
      ∃ name path others block body alternative?, tag.kind = .opening name (path :: others) ∧
        Block.ofName? name = some block ∧
        token.form = .ofBlock block path others body alternative? := by
  induction tags using source.outline_induction with
  | done => exact absurd found List.not_mem_nil
  | @expression tag tags outline words kind inductionHypothesis =>
    rcases List.mem_cons.mp found with rfl | later
    · exact ⟨tag, List.mem_cons_self, .inl ⟨words, kind, rfl⟩⟩
    · obtain ⟨other, member, meaning⟩ := inductionHypothesis later
      exact ⟨other, List.mem_cons_of_mem tag member, meaning⟩
  | @stray tag tags outline problem stray inductionHypothesis =>
    obtain ⟨other, member, meaning⟩ := inductionHypothesis found
    exact ⟨other, List.mem_cons_of_mem tag member, meaning⟩
  | @targetless tag inside after outline block closing kind takes inductionHypothesis =>
    obtain ⟨other, member, meaning⟩ := inductionHypothesis found
    exact ⟨other, Tag.mem_behind member tag inside closing.close.tag, meaning⟩
  | @block tag inside after outline path others block closing kind takes inductionHypothesis =>
    rcases List.mem_cons.mp found with rfl | later
    · have form := congrArg Token.form (source.blockToken_eq block path others tag.span closing)
      exact ⟨tag, List.mem_cons_self, .inr ⟨block.name, path, others, block, _, _, kind,
        block.ofName?_name, form⟩⟩
    · obtain ⟨other, member, meaning⟩ := inductionHypothesis later
      exact ⟨other, Tag.mem_behind member tag inside closing.close.tag, meaning⟩

/-- Every token is what one of the tags stands for. -/
theorem exists_makes_of_mem_tokens
    {token : Token}
    (found : token ∈ source.parse.tokens) :
    ∃ tag ∈ source.tags, tag.kind.Makes source.isHelper token.form := by
  obtain ⟨tag, member, ⟨words, kind, form⟩ |
    ⟨name, path, others, block, body, alternative?, kind, known, form⟩⟩ :=
      exists_tag_of_mem_outline found
  · refine ⟨tag, member, ?_⟩
    rw [kind, form]
    exact Tag.Kind.makes_ofWords _ (words_ne_nil_of_mem_tags member kind)
  · refine ⟨tag, member, ?_⟩
    rw [kind, form, ← Block.name_eq_of_ofName? known]
    exact Tag.Kind.makes_ofBlock _ block path others body alternative?

/-- The tags of a body are of the kinds that tags of the text around it are of. -/
theorem exists_kind_eq_of_mem_body
    {token : Token}
    {body : Body}
    {tag : Tag}
    (found : token ∈ source.parse.tokens)
    (member : body ∈ token.bodies)
    (mentioned : tag ∈ (source.inside body).tags) :
    ∃ outer ∈ source.tags, outer.kind = tag.kind := by
  obtain ⟨early, left, middle, right, late, split, rfl⟩ := isBetween_of_mem_outline found member
  change source.tags = _ at split
  obtain ⟨-, same⟩ := tags_between split
  refine ⟨tag.shift left.span.stop, ?_, rfl⟩
  have between : tag.shift left.span.stop ∈ middle := by
    rw [← same]
    exact List.mem_map_of_mem mentioned
  rw [split]
  exact List.mem_append_right early
    (List.mem_cons_of_mem left (List.mem_append_left _ between))

end Source
end Stencil
