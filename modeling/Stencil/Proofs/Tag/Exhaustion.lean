import Stencil.Proofs.Tag.Loose

/-!
# Scanning to the end

A scan hands out one tag at each call.  Calls can go on for ever, but only the first ones are
answered with a tag: there are as many of them as the scan meets tags, and after the first call
without an answer nothing changes any more.
-/

namespace Stencil
namespace Scanner

/-- The scan after a number of calls. -/
def after (scanner : Scanner) : Nat → Scanner
  | 0 => scanner
  | calls + 1 => scanner.next.2.after calls

/-- Whether the calls of a scan are answered with a list of tags, one after the other, and with
nothing for ever after, when the scan has nothing ahead and is left with the given delimiters. -/
structure Yields
    (scanner : Scanner)
    (tags : List Tag)
    (abandoned : List Nat)
    (unterminated? : Option Nat) : Prop where
  answer_eq : ∀ calls, (scanner.after calls).next.1 = tags[calls]?
  after_eq : ∀ calls, tags.length < calls → scanner.after calls = ⟨[], abandoned, unterminated?⟩

namespace Yields

variable
  {scanner other : Scanner}
  {tags : List Tag}
  {abandoned : List Nat}
  {unterminated? : Option Nat}

theorem done (abandoned : List Nat) (unterminated? : Option Nat) :
    Yields ⟨[], abandoned, unterminated?⟩ [] abandoned unterminated? := by
  have same (calls : Nat) :
      after ⟨[], abandoned, unterminated?⟩ calls = ⟨[], abandoned, unterminated?⟩ := by
    induction calls with
    | zero => rfl
    | succ calls inductionHypothesis => exact inductionHypothesis
  refine ⟨fun calls => ?_, fun calls _ => same calls⟩
  rw [same]
  rfl

/-- All calls are answered in the same way if the first one is. -/
theorem of_next_eq
    (yields : other.Yields tags abandoned unterminated?)
    (same : scanner.next = other.next) : scanner.Yields tags abandoned unterminated? := by
  have later (calls : Nat) : scanner.after (calls + 1) = other.after (calls + 1) := by
    rw [after, after, same]
  constructor
  · intro calls
    cases calls with
    | zero => exact (congrArg Prod.fst same).trans (yields.answer_eq 0)
    | succ calls => rw [later, yields.answer_eq]
  · intro calls many
    cases calls with
    | zero => exact absurd many (Nat.not_lt_zero _)
    | succ calls => rw [later, yields.after_eq _ many]

/-- The first call is answered with a tag, and the other calls go to the scan after it. -/
theorem cons
    {tag : Tag}
    (yields : other.Yields tags abandoned unterminated?)
    (answer : scanner.next = (some tag, other)) :
    scanner.Yields (tag :: tags) abandoned unterminated? := by
  have later (calls : Nat) : scanner.after (calls + 1) = other.after calls := by
    rw [after, answer]
  constructor
  · intro calls
    cases calls with
    | zero => exact congrArg Prod.fst answer
    | succ calls => rw [later, yields.answer_eq, List.getElem?_cons_succ]
  · intro calls many
    cases calls with
    | zero => exact absurd many (Nat.not_lt_zero _)
    | succ calls => rw [later, yields.after_eq _ (Nat.lt_of_succ_lt_succ many)]

end Yields

/-- The calls of a scan are answered with the tags that it meets. -/
theorem yields_of_scans
    {delimiters : Delimiters}
    {position : Nat}
    {text : Text}
    {sightings : List Sighting}
    (scans : Sighting.Scans delimiters position text sightings)
    (abandoned : List Nat) :
    Yields ⟨sightings, abandoned, none⟩ (sightings.filterMap Sighting.tag?)
      (abandoned ++ sightings.filterMap Sighting.reopened?)
      (sightings.findSome? Sighting.unterminated?) := by
  induction scans generalizing abandoned with
  | done absent =>
    change Yields _ [] (abandoned ++ []) none
    rw [List.append_nil]
    exact .done abandoned none
  | @unclosed position text before inside opened absent =>
    change Yields _ [] (abandoned ++ []) (some (position + Text.size before))
    rw [List.append_nil]
    exact (Yields.done abandoned (some (position + Text.size before))).of_next_eq rfl
  | @reopened position text before inside content after skipped more sightings opened closed again
      rest inductionHypothesis =>
    change Yields _ _ (abandoned ++ (position + Text.size before) :: _) _
    rw [List.append_cons]
    exact (inductionHypothesis _).of_next_eq rfl
  | @closed position text before inside content after sightings opened closed single rest
      inductionHypothesis =>
    have later := inductionHypothesis abandoned
    rw [List.filterMap_cons_none (Sighting.reopened?_ofContent _ _ _), List.findSome?_cons,
      Sighting.unterminated?_ofContent]
    unfold Sighting.ofContent
    split
    · exact later.of_next_eq rfl
    · exact later.cons rfl

/-- A scan of a text hands out the tags of the text. -/
theorem yields_ofText (delimiters : Delimiters) (text : Text) :
    (ofText delimiters text).Yields
      ((Sighting.scan delimiters 0 text).filterMap Sighting.tag?)
      ((Sighting.scan delimiters 0 text).filterMap Sighting.reopened?)
      ((Sighting.scan delimiters 0 text).findSome? Sighting.unterminated?) := by
  unfold ofText Sighting.scan
  split
  · next usable => exact yields_of_scans (Sighting.scans_scanFrom usable.1 0 text) []
  · exact .done [] none

end Scanner
end Stencil
