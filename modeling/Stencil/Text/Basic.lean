/-!
# Text measured in bytes

Text is a list of characters.  Positions and spans count the bytes of its UTF-8 encoding, so this
module measures, cuts and searches text in that unit, and writes whole numbers in decimal.
-/

namespace Stencil

/-- The text that templates, data and output are made of. -/
abbrev Text := List Char

namespace Text

/-- Number of bytes in the UTF-8 encoding of a text. -/
def size : Text → Nat
  | [] => 0
  | character :: rest => character.utf8Size + size rest

@[simp] theorem size_nil : size [] = 0 := rfl

@[simp] theorem size_cons (character : Char) (rest : Text) :
    size (character :: rest) = character.utf8Size + size rest := rfl

@[simp] theorem size_append (left right : Text) :
    size (left ++ right) = size left + size right := by
  induction left with
  | nil => simp
  | cons character rest inductionHypothesis =>
    simp [inductionHypothesis, Nat.add_assoc]

theorem size_pos_of_ne_nil {text : Text} (nonempty : text ≠ []) : 0 < size text := by
  cases text with
  | nil => exact absurd rfl nonempty
  | cons character rest =>
    have := character.utf8Size_pos
    simp only [size_cons]
    omega

/-- The longest beginning of a text that fits into the given number of bytes. -/
def takeBytes : Nat → Text → Text
  | _, [] => []
  | count, character :: rest =>
    if character.utf8Size ≤ count then
      character :: takeBytes (count - character.utf8Size) rest
    else
      []

/-- What follows the longest beginning that fits into the given number of bytes. -/
def dropBytes : Nat → Text → Text
  | _, [] => []
  | count, character :: rest =>
    if character.utf8Size ≤ count then
      dropBytes (count - character.utf8Size) rest
    else
      character :: rest

@[simp] theorem takeBytes_append_dropBytes (count : Nat) (text : Text) :
    takeBytes count text ++ dropBytes count text = text := by
  induction text generalizing count with
  | nil => rfl
  | cons character rest inductionHypothesis =>
    by_cases fits : character.utf8Size ≤ count <;>
      simp [takeBytes, dropBytes, fits, inductionHypothesis]

/-- A beginning of known size is exactly what is taken. -/
theorem takeBytes_size_append (left right : Text) :
    takeBytes (size left) (left ++ right) = left := by
  induction left with
  | nil =>
    cases right with
    | nil => rfl
    | cons character rest =>
      have := character.utf8Size_pos
      have tooLarge : ¬ character.utf8Size ≤ 0 := by omega
      simp [takeBytes, tooLarge]
  | cons character rest inductionHypothesis =>
    have fits : character.utf8Size ≤ character.utf8Size + size rest := by omega
    simp [takeBytes, fits, inductionHypothesis]

/-- What follows a beginning of known size is exactly what remains. -/
theorem dropBytes_size_append (left right : Text) :
    dropBytes (size left) (left ++ right) = right := by
  have whole := takeBytes_append_dropBytes (size left) (left ++ right)
  rw [takeBytes_size_append] at whole
  exact List.append_cancel_left whole

/-- The part of a text between two byte positions. -/
def slice (text : Text) (start stop : Nat) : Text :=
  takeBytes (stop - start) (dropBytes start text)

/-- What follows `lead` when the text begins with it. -/
def remainder? : (lead text : Text) → Option Text
  | [], text => some text
  | _ :: _, [] => none
  | expected :: lead, character :: rest =>
    if expected = character then remainder? lead rest else none

theorem eq_append_of_remainder? {lead text rest : Text}
    (found : remainder? lead text = some rest) : text = lead ++ rest := by
  fun_induction remainder? lead text with
  | case1 text => simpa using found
  | case2 => simp at found
  | case3 lead character text inductionHypothesis => simp [inductionHypothesis found]
  | case4 => simp at found

/-- The text before and after the first occurrence of a pattern. -/
def cut? (pattern : Text) : Text → Option (Text × Text)
  | [] => (remainder? pattern []).map fun after => ([], after)
  | character :: rest =>
    match remainder? pattern (character :: rest) with
    | some after => some ([], after)
    | none => (cut? pattern rest).map fun (before, after) => (character :: before, after)

/-- Cutting splits the text around the pattern and loses nothing. -/
theorem eq_append_of_cut? {pattern text before after : Text}
    (found : cut? pattern text = some (before, after)) :
    text = before ++ pattern ++ after := by
  induction text generalizing before with
  | nil =>
    simp only [cut?, Option.map_eq_some_iff, Prod.mk.injEq] at found
    obtain ⟨rest, remains, rfl, rfl⟩ := found
    simpa using eq_append_of_remainder? remains
  | cons character rest inductionHypothesis =>
    unfold cut? at found
    split at found
    · next remaining remains =>
      simp only [Option.some.injEq, Prod.mk.injEq] at found
      obtain ⟨rfl, rfl⟩ := found
      simpa using eq_append_of_remainder? remains
    · simp only [Option.map_eq_some_iff, Prod.mk.injEq] at found
      obtain ⟨⟨front, back⟩, cutRest, rfl, rfl⟩ := found
      simp [inductionHypothesis cutRest]

/-- The pieces of a text between occurrences of a separating character. -/
def pieces (separator : Char) : Text → List Text
  | [] => [[]]
  | character :: rest =>
    if character = separator then
      [] :: pieces separator rest
    else
      match pieces separator rest with
      | [] => [[character]]
      | piece :: others => (character :: piece) :: others

/-- Whether a character lies in one of the given ranges of code points. -/
def inRanges (ranges : List (Nat × Nat)) (character : Char) : Bool :=
  ranges.any fun (first, last) =>
    decide (first ≤ character.toNat) && decide (character.toNat ≤ last)

/-- A natural number in decimal, without leading zeros. -/
def ofNat (value : Nat) : Text := Nat.toDigits 10 value

/-- An integer in decimal, with a minus sign when it is negative. -/
def ofInt (value : Int) : Text :=
  if value < 0 then '-' :: ofNat value.natAbs else ofNat value.natAbs

/-- A text filled up with zeros on its left to the given number of characters. -/
def padZeros (width : Nat) (text : Text) : Text :=
  List.replicate (width - text.length) '0' ++ text

end Text

end Stencil
