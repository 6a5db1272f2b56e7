import Stencil.Text.Blank

/-!
# Blanks at the ends of a text

Trimming takes blanks from both ends of a text and nothing else: it leaves a text alone that has a
character at each end that is not blank, and it leaves nothing of a text that is all blank.
-/

namespace Stencil
namespace Text

theorem dropWhile_isBlank_eq_self
    {text : Text}
    (starts : ∀ character ∈ text.head?, isBlank character = false) :
    text.dropWhile isBlank = text := by
  cases text with
  | nil => rfl
  | cons character rest =>
    apply List.dropWhile_cons_of_neg
    rw [starts character rfl]
    exact Bool.false_ne_true

/-- Trimming leaves a text alone that neither starts nor ends with a blank. -/
theorem trim_eq_self
    {text : Text}
    (starts : ∀ character ∈ text.head?, isBlank character = false)
    (ends : ∀ character ∈ text.getLast?, isBlank character = false) : trim text = text := by
  have reversed : ∀ character ∈ text.reverse.head?, isBlank character = false := by
    rw [List.head?_reverse]
    exact ends
  rw [trim, trimStart, dropWhile_isBlank_eq_self starts, trimEnd,
    dropWhile_isBlank_eq_self reversed, List.reverse_reverse]

theorem trim_cons_eq_self
    {first : Char}
    {rest : Text}
    (plain : isBlank first = false)
    (ends : ∀ character ∈ rest.getLast?, isBlank character = false) :
    trim (first :: rest) = first :: rest := by
  apply trim_eq_self
  · intro character starts
    obtain rfl := Option.some.inj starts
    exact plain
  · intro character last
    rw [List.getLast?_cons] at last
    obtain rfl := Option.some.inj last
    cases restLast : rest.getLast? with
    | none => exact plain
    | some final => exact ends final restLast

theorem dropWhile_isBlank_eq_nil_iff {text : Text} :
    text.dropWhile isBlank = [] ↔ ∀ character ∈ text, isBlank character := by
  constructor
  · intro empty
    have whole := List.takeWhile_append_dropWhile (p := isBlank) (l := text)
    rw [empty, List.append_nil] at whole
    rw [← whole]
    exact List.all_eq_true.mp List.all_takeWhile
  · intro blank
    have passed : (text ++ []).dropWhile isBlank = [] := List.dropWhile_append_of_pos blank
    rwa [List.append_nil] at passed

/-- Trimming leaves nothing of a text exactly when all of it is blank. -/
theorem trim_eq_nil_iff {text : Text} :
    trim text = [] ↔ ∀ character ∈ text, isBlank character := by
  rw [trim, trimEnd, List.reverse_eq_nil_iff, dropWhile_isBlank_eq_nil_iff, trimStart]
  constructor
  · intro blank character member
    rw [← List.takeWhile_append_dropWhile (p := isBlank) (l := text)] at member
    rcases List.mem_append.mp member with front | rest
    · exact List.all_eq_true.mp List.all_takeWhile character front
    · exact blank character (List.mem_reverse.mpr rest)
  · intro blank character member
    exact blank character ((List.dropWhile_sublist isBlank).subset (List.mem_reverse.mp member))

theorem head?_trimStart (text : Text) :
    ∀ character ∈ (trimStart text).head?, isBlank character = false := by
  intro character first
  have plain := List.head?_dropWhile_not isBlank text
  rw [show text.dropWhile isBlank = trimStart text from rfl, first] at plain
  simpa using plain

/-- Blanks that are removed at the end do not matter to how a text starts, unless all of it is
removed. -/
theorem head?_of_head?_trimEnd
    {text : Text}
    {character : Char}
    (first : (trimEnd text).head? = some character) : text.head? = some character := by
  have suffix := List.reverse_prefix.mpr (List.dropWhile_suffix isBlank (l := text.reverse))
  rw [List.reverse_reverse] at suffix
  obtain ⟨rest, split⟩ := suffix
  rw [← split, List.head?_append]
  exact (congrArg (Option.or · rest.head?) first).trans Option.some_or

/-- What is left of a text after trimming does not start with a blank. -/
theorem head?_trim (text : Text) :
    ∀ character ∈ (trim text).head?, isBlank character = false :=
  fun character first => head?_trimStart text character (head?_of_head?_trimEnd first)

/-- What is in front stays when blanks are removed at the end, unless it ends with a blank. -/
theorem trimEnd_append
    {front : Text}
    (ends : ∀ character ∈ front.getLast?, isBlank character = false)
    (rest : Text) : trimEnd (front ++ rest) = front ++ trimEnd rest := by
  have kept : front.reverse.dropWhile isBlank = front.reverse := by
    apply dropWhile_isBlank_eq_self
    rw [List.head?_reverse]
    exact ends
  rw [trimEnd, trimEnd, List.reverse_append, List.dropWhile_append]
  split
  · next blank =>
    rw [kept, List.reverse_reverse, List.isEmpty_iff.mp blank, List.reverse_nil, List.append_nil]
  · rw [List.reverse_append, List.reverse_reverse]

/-- Digits are not blank. -/
theorem isBlank_of_isDigit
    {character : Char}
    (digit : character.isDigit) : isBlank character = false := by
  rw [Char.isDigit, Bool.and_eq_true, decide_eq_true_eq, decide_eq_true_eq] at digit
  have first : 48 ≤ character.toNat := digit.1
  have last : character.toNat ≤ 57 := digit.2
  simp [isBlank, inRanges, blankRanges]
  omega

end Text
end Stencil
