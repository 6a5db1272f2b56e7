import Stencil.Proofs.Helper.Builtin
import Stencil.Proofs.Number.Digits
import Stencil.Proofs.Number.Magnitude

/-!
# What the text of an amount consists of

An amount is rounded to the places of its currency, and the text spells out the rounded amount: its
sign, the currency, the digits before the point in groups of three, and the digits after it.
Nothing else than the rounded amount decides the digits, so a carry may add a group, and an amount
that is rounded to zero has no sign.
-/

namespace Stencil

namespace Finite

theorem isRounding_inPlaces (amount : Finite) (places : Nat) :
    IsRounding (amount.units * 10 ^ places) Double.unitsPerOne (amount.inPlaces places) :=
  isRounding_roundToEven Double.unitsPerOne_pos (amount.units * 10 ^ places)

theorem signedUnits_neg_iff (amount : Finite) :
    amount.signedUnits < 0 ↔ amount.negative ∧ amount.units ≠ 0 := by
  unfold signedUnits
  cases amount.negative with
  | false => simp
  | true =>
    rw [if_pos rfl, eq_self, true_and]
    omega

theorem inPlaces_eq_zero
    {amount : Finite}
    (zero : amount.units = 0)
    (places : Nat) : amount.inPlaces places = 0 := by
  have rounded := roundToEven_mul_self Double.unitsPerOne_pos 0
  rw [Nat.zero_mul] at rounded
  rw [inPlaces, zero, Nat.zero_mul]
  exact rounded

/-- Whether a minus sign is dropped does not depend on which zero an amount is. -/
theorem negative_iff
    {amount : Finite}
    {places : Nat}
    (nonzero : amount.inPlaces places ≠ 0) : amount.negative ↔ amount.signedUnits < 0 := by
  have hasUnits : amount.units ≠ 0 := fun zero => nonzero (inPlaces_eq_zero zero places)
  rw [signedUnits_neg_iff, and_iff_left hasUnits]

end Finite

namespace Currency

/-- Whether the pieces of a text between commas are groups of three characters, the first of which
may lack some. -/
def IsGrouped (text : Text) : Prop :=
  ∃ first others, Text.pieces ',' text = first :: others ∧
    (1 ≤ first.length ∧ first.length ≤ 3) ∧ ∀ group ∈ others, group.length = 3

/-- Grouping digits only adds commas. -/
theorem filter_grouped
    {digits : Text}
    (plain : ',' ∉ digits) : (grouped digits).filter (· != ',') = digits := by
  induction digits with
  | nil => rfl
  | cons digit rest inductionHypothesis =>
    rw [List.mem_cons, not_or] at plain
    have kept : digit != ',' := bne_iff_ne.mpr (Ne.symm plain.1)
    rw [grouped]
    split <;> simp [kept, inductionHypothesis plain.2]

theorem grouped_cons_of_full
    {rest : Text}
    (nonempty : rest ≠ [])
    (full : rest.length % 3 = 0)
    (digit : Char) : grouped (digit :: rest) = digit :: ',' :: grouped rest := by
  rw [grouped, if_pos (by simp [nonempty, full])]

theorem grouped_cons_of_not_full
    {rest : Text}
    (started : rest.length % 3 ≠ 0)
    (digit : Char) : grouped (digit :: rest) = digit :: grouped rest := by
  rw [grouped, if_neg (by simp [started])]

/-- The first group has the digits that are left over when all others are full. -/
theorem exists_pieces_grouped
    {digit : Char}
    {rest : Text}
    (plain : ',' ∉ digit :: rest) :
    ∃ first others, Text.pieces ',' (grouped (digit :: rest)) = first :: others ∧
      first.length = rest.length % 3 + 1 ∧ ∀ group ∈ others, group.length = 3 := by
  induction rest generalizing digit with
  | nil =>
    have notComma : digit ≠ ',' := fun same => plain (same ▸ List.mem_cons_self ..)
    exact ⟨[digit], [], by simp [grouped, Text.pieces, notComma], rfl, by simp⟩
  | cons next rest inductionHypothesis =>
    rw [List.mem_cons, not_or] at plain
    have notComma : digit ≠ ',' := Ne.symm plain.1
    obtain ⟨first, others, split, length, full⟩ := inductionHypothesis plain.2
    by_cases whole : (next :: rest).length % 3 = 0
    · have begun := grouped_cons_of_full (List.cons_ne_nil next rest) whole digit
      refine ⟨[digit], first :: others, ?_, ?_, ?_⟩
      · simp [begun, Text.pieces, notComma, split]
      · rw [whole]
        rfl
      · rw [List.length_cons] at whole
        exact List.forall_mem_cons.mpr ⟨by omega, full⟩
    · have continued := grouped_cons_of_not_full whole digit
      refine ⟨digit :: first, others, ?_, ?_, full⟩
      · simp [continued, Text.pieces, notComma, split]
      · rw [List.length_cons] at whole ⊢
        rw [List.length_cons]
        omega

theorem isGrouped_grouped
    {digits : Text}
    (nonempty : digits ≠ [])
    (plain : ',' ∉ digits) : IsGrouped (grouped digits) := by
  cases digits with
  | nil => exact absurd rfl nonempty
  | cons digit rest =>
    obtain ⟨first, others, split, length, full⟩ := exists_pieces_grouped plain
    exact ⟨first, others, split, by omega, full⟩

/-- The codes that have a sign of their own. -/
def symbols : List (Text × Text) :=
  [("USD".toList, "$".toList), ("EUR".toList, "€".toList), ("GBP".toList, "£".toList),
    ("JPY".toList, "¥".toList)]

/-- Number of digits after the point in amounts of a currency. -/
def placesOf (code : Text) : Nat := if code = "JPY".toList then 0 else 2

theorem ofCode_eq (code : Text) :
    ofCode code = ⟨(symbols.lookup code).getD (code ++ [' ']), placesOf code⟩ := by
  unfold ofCode
  split
  · next same => rw [same]; rfl
  · next notDollar =>
    split
    · next same => rw [same]; rfl
    · next notEuro =>
      split
      · next same => rw [same]; rfl
      · next notPound =>
        split
        · next same => rw [same]; rfl
        · next notYen =>
          have unknown : symbols.lookup code = none := by
            simp only [List.lookup_eq_none_iff, symbols, List.forall_mem_cons, bne_iff_ne]
            exact ⟨notDollar, notEuro, notPound, notYen, fun _ member => nomatch member⟩
          rw [unknown, placesOf, if_neg notYen]
          rfl

/-- The parts of the text of an amount. -/
structure Parts where
  /-- The minus sign, if there is one. -/
  sign : Text
  /-- What stands for the currency. -/
  lead : Text
  /-- The digits before the point, in groups. -/
  groups : Text
  /-- The point and the digits after it, if there are any. -/
  fraction : Text

/-- The whole text. -/
def Parts.text (parts : Parts) : Text :=
  parts.sign ++ parts.lead ++ parts.groups ++ parts.fraction

/-- Whether parts spell out an amount that is rounded to a number of last places. -/
structure Parts.Spell
    (parts : Parts)
    (code : Text)
    (amount : Finite)
    (rounded : Nat) : Prop where
  /-- An amount has a sign when it is negative and not rounded to zero. -/
  sign_eq : parts.sign = if amount.signedUnits < 0 ∧ rounded ≠ 0 then ['-'] else []
  /-- A currency without a sign of its own is written out. -/
  lead_eq : parts.lead = (symbols.lookup code).getD (code ++ [' '])
  /-- The groups hold the digits before the point. -/
  groups_eq : parts.groups.filter (· != ',') = Text.ofNat (rounded / 10 ^ placesOf code)
  /-- The digits before the point are grouped. -/
  isGrouped : IsGrouped parts.groups
  /-- Without places there is no point. -/
  fraction_eq_nil : placesOf code = 0 → parts.fraction = []
  /-- There are as many digits after the point as there are places. -/
  exists_fraction_eq : placesOf code ≠ 0 → ∃ digits, parts.fraction = '.' :: digits ∧
    digits.length = placesOf code ∧ (∀ digit ∈ digits, digit.isDigit) ∧
    Numeral.digitsValue digits = rounded % 10 ^ placesOf code

/-- The parts that an amount is put together from. -/
def parts (code : Text) (amount : Finite) (rounded : Nat) : Parts where
  sign := if amount.negative && decide (rounded ≠ 0) then ['-'] else []
  lead := (ofCode code).lead
  groups := grouped (wholeDigits (ofCode code).places rounded)
  fraction := fractionDigits (ofCode code).places rounded

theorem format_eq (code : Text) (amount : Finite) :
    (ofCode code).format amount =
      (parts code amount (amount.inPlaces (placesOf code))).text := by
  have places : (ofCode code).places = placesOf code := by rw [ofCode_eq]
  rw [← places]
  rfl

/-- The parts that an amount is put together from spell it out. -/
theorem parts_spell (code : Text) (amount : Finite) :
    let rounded := amount.inPlaces (placesOf code)
    (parts code amount rounded).Spell code amount rounded := by
  intro rounded
  have comma (value : Nat) : ',' ∉ Text.ofNat value := fun member =>
    absurd (Text.isDigit_of_mem_ofNat member) (by decide)
  refine
    { sign_eq := ?_
      lead_eq := ?_
      groups_eq := ?_
      isGrouped := ?_
      fraction_eq_nil := fun pointless => ?_
      exists_fraction_eq := fun hasPlaces => ?_ }
  all_goals simp only [parts, ofCode_eq]
  · have sign_iff := and_congr_left (@Finite.negative_iff amount (placesOf code))
    simp only [Bool.and_eq_true, decide_eq_true_iff, rounded, sign_iff]
  · exact filter_grouped (comma _)
  · exact isGrouped_grouped (Text.ofNat_ne_nil _) (comma _)
  · exact if_pos pointless
  · rw [fractionDigits, if_neg hasPlaces]
    have small : rounded % 10 ^ placesOf code < 10 ^ placesOf code :=
      Nat.mod_lt rounded (Nat.pow_pos (by decide))
    have fits := Text.length_ofNat_le (Nat.pos_of_ne_zero hasPlaces) small
    refine ⟨_, rfl, Text.length_padZeros fits, fun digit member => ?_, ?_⟩
    · exact Text.isDigit_of_mem_padZeros (fun _ => Text.isDigit_of_mem_ofNat) member
    · exact (Numeral.digitsValue_padZeros _ _).trans (Numeral.digitsValue_ofNat _)

example :
    (ofCode "EUR".toList).format ⟨true, 4696837146650326598, by decide⟩ =
      "-€1,000,000.00".toList := by
  decide +kernel

end Currency

namespace Builtin

open Currency

/-- The text of an amount spells out the amount rounded to the places of its currency. -/
theorem formatCurrency_spells
    {arguments : List Value}
    {amount : Finite}
    (casts : Value.toDouble arguments.head? = .finite amount) :
    let code := Text.toUpper ((arguments[1]?.map Value.text).getD "USD".toList)
    ∃ rounded parts,
      IsRounding (amount.units * 10 ^ placesOf code) Double.unitsPerOne rounded ∧
        Parts.Spell parts code amount rounded ∧
        answer? "formatCurrency".toList arguments = some (.value (.string parts.text)) := by
  intro code
  have listed : ("formatCurrency".toList, formatArguments) ∈ functions := by simp [functions]
  refine ⟨_, _, amount.isRounding_inPlaces _, parts_spell code amount, ?_⟩
  rw [answer?_eq listed, formatArguments, casts, ← format_eq]

/-- A carry into a seventh digit begins a group, in a currency named in lower case. -/
theorem formatCurrency_spells_carry :
    ∃ amount rounded parts,
      Value.toDouble (some (.string "-999999.996".toList)) = .finite amount ∧
        IsRounding (amount.units * 10 ^ 2) Double.unitsPerOne rounded ∧
        Parts.Spell parts "EUR".toList amount rounded ∧
        answer? "formatCurrency".toList [.string "-999999.996".toList, .string "eur".toList] =
          some (.value (.string parts.text)) := by
  let amount : Finite := ⟨true, 4696837146650326598, by decide⟩
  have casts : Value.toDouble (some (.string "-999999.996".toList)) = .finite amount := by
    decide +kernel
  have upper : Text.toUpper "eur".toList = "EUR".toList := by decide +kernel
  obtain ⟨rounded, parts, rounds, spells, answers⟩ :=
    @formatCurrency_spells [.string "-999999.996".toList, .string "eur".toList] amount casts
  change Parts.Spell parts (Text.toUpper "eur".toList) amount rounded at spells
  change IsRounding (_ * 10 ^ placesOf (Text.toUpper "eur".toList)) _ rounded at rounds
  rw [upper] at rounds spells
  exact ⟨amount, rounded, parts, casts, rounds, spells, answers⟩

end Builtin
end Stencil
