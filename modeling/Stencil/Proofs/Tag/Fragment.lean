import Stencil.Proofs.Tag.Content
import Stencil.Proofs.Tag.Scanning

/-!
# Scanning what was written

A text is written as a list of fragments, which are literal text or tags.  When no character of a
delimiter occurs in a fragment, a scan of the written text meets exactly the tags among them.
-/

namespace Stencil

/-- Whether no character of a delimiter occurs in a text. -/
def Delimiters.areAbsentFrom (delimiters : Delimiters) (text : Text) : Bool :=
  text.all fun character =>
    !delimiters.opening.contains character && !delimiters.closing.contains character

theorem Delimiters.disjoint_of_areAbsentFrom
    {delimiters : Delimiters}
    {text : Text}
    (absent : delimiters.areAbsentFrom text) :
    (∀ character ∈ text, character ∉ delimiters.opening) ∧
      ∀ character ∈ text, character ∉ delimiters.closing := by
  rw [areAbsentFrom, List.all_eq_true] at absent
  simp only [Bool.and_eq_true, Bool.not_eq_true', List.contains_eq_mem,
    decide_eq_false_iff_not] at absent
  constructor
  · intro character member
    exact (absent character member).1
  · intro character member
    exact (absent character member).2

/-- A part of a written text. -/
inductive Fragment where
  /-- Text that stands for itself. -/
  | literal (text : Text)
  /-- A tag. -/
  | tag (kind : Tag.Kind)
deriving DecidableEq, Repr

namespace Fragment

/-- The text of a fragment. -/
def text (delimiters : Delimiters) : Fragment → Text
  | literal text => text
  | tag kind => delimiters.opening ++ kind.content ++ delimiters.closing

/-- Whether a fragment can be written between others and found again. -/
def isWritable (delimiters : Delimiters) : Fragment → Bool
  | literal text => delimiters.areAbsentFrom text
  | tag kind => kind.isWritable && delimiters.areAbsentFrom kind.content

/-- The text of a list of fragments. -/
def print (delimiters : Delimiters) (fragments : List Fragment) : Text :=
  fragments.flatMap (text delimiters)

/-- The tags of fragments that are written from a position on. -/
def tags (delimiters : Delimiters) : Nat → List Fragment → List Tag
  | _, [] => []
  | position, literal text :: rest => tags delimiters (position + Text.size text) rest
  | position, tag kind :: rest =>
    ⟨kind, delimiters.tagSpan position kind.content⟩ ::
      tags delimiters (delimiters.tagSpan position kind.content).stop rest

variable (delimiters : Delimiters)

@[simp] theorem print_nil : print delimiters [] = [] := rfl

@[simp] theorem print_cons (fragment : Fragment) (rest : List Fragment) :
    print delimiters (fragment :: rest) = fragment.text delimiters ++ print delimiters rest :=
  List.flatMap_cons

@[simp] theorem print_append (left right : List Fragment) :
    print delimiters (left ++ right) = print delimiters left ++ print delimiters right :=
  List.flatMap_append

@[simp] theorem start_tagSpan (position : Nat) (content : Text) :
    (delimiters.tagSpan position content).start = position := rfl

theorem stop_tagSpan (position : Nat) (kind : Tag.Kind) :
    (delimiters.tagSpan position kind.content).stop =
      position + Text.size (text delimiters (tag kind)) := by
  simp only [Delimiters.tagSpan, text, Text.size_append]
  omega

theorem tags_append (position : Nat) (left right : List Fragment) :
    tags delimiters position (left ++ right) =
      tags delimiters position left ++
        tags delimiters (position + Text.size (print delimiters left)) right := by
  induction left generalizing position with
  | nil => rfl
  | cons fragment left inductionHypothesis =>
    cases fragment with
    | literal text =>
      rw [List.cons_append, tags, tags, inductionHypothesis, print_cons, Text.size_append,
        Nat.add_assoc, Fragment.text]
    | tag kind =>
      rw [List.cons_append, tags, tags, inductionHypothesis, stop_tagSpan, print_cons,
        Text.size_append, Nat.add_assoc, List.cons_append]

end Fragment

namespace Sighting

variable {delimiters : Delimiters}

/-- A scan passes over text that shares no character with the opening delimiter. -/
theorem Scans.literal_append
    (usable : delimiters.opening ≠ [])
    {front text : Text}
    (disjoint : ∀ character ∈ front, character ∉ delimiters.opening)
    {position : Nat}
    {sightings : List Sighting}
    (scans : Scans delimiters (position + Text.size front) text sightings) :
    Scans delimiters position (front ++ text) sightings :=
  scans.prepend (Text.cut?_append_of_disjoint usable disjoint text)

/-- A scan meets a content where one was written between delimiters that share no character with
it. -/
theorem Scans.content_append
    (usable : delimiters.opening ≠ [] ∧ delimiters.closing ≠ [])
    {content : Text}
    (absent : delimiters.areAbsentFrom content)
    {position : Nat}
    {text : Text}
    {sightings : List Sighting}
    (scans : Scans delimiters (delimiters.tagSpan position content).stop text sightings) :
    Scans delimiters position (delimiters.opening ++ content ++ delimiters.closing ++ text)
      (ofContent delimiters position content :: sightings) := by
  obtain ⟨notOpening, notClosing⟩ := Delimiters.disjoint_of_areAbsentFrom absent
  have opened : Text.cut? delimiters.opening
      (delimiters.opening ++ content ++ delimiters.closing ++ text) =
        some ([], content ++ delimiters.closing ++ text) := by
    apply Text.cut?_of_remainder?
    rw [List.append_assoc, List.append_assoc, ← List.append_assoc content]
    exact Text.remainder?_append_self _ _
  have closed := Text.cut?_of_disjoint usable.2 notClosing text
  have single := Text.cut?_eq_none_of_disjoint usable.1 notOpening
  have rule := @Scans.closed delimiters position _ _ _ _ _ _ opened closed single scans
  rwa [Text.size_nil, Nat.add_zero] at rule

/-- A scan meets a tag where one was written. -/
theorem Scans.tag_append
    (usable : delimiters.opening ≠ [] ∧ delimiters.closing ≠ [])
    {kind : Tag.Kind}
    (writable : (Fragment.tag kind).isWritable delimiters)
    {position : Nat}
    {text : Text}
    {sightings : List Sighting}
    (scans : Scans delimiters (delimiters.tagSpan position kind.content).stop text sightings) :
    Scans delimiters position ((Fragment.tag kind).text delimiters ++ text)
      (.tag ⟨kind, delimiters.tagSpan position kind.content⟩ :: sightings) := by
  rw [Fragment.isWritable, Bool.and_eq_true] at writable
  obtain ⟨kindWritable, absent⟩ := writable
  have met : ofContent delimiters position kind.content =
      .tag ⟨kind, delimiters.tagSpan position kind.content⟩ := by
    rw [ofContent, Tag.Kind.trim_content kindWritable, Tag.Kind.ofContent_content kindWritable,
      if_neg]
    rw [List.isEmpty_iff]
    exact Tag.Kind.content_ne_nil kindWritable
  rw [← met]
  exact scans.content_append usable absent

/-- A scan of written fragments meets the tags among them. -/
theorem scans_print
    (usable : delimiters.opening ≠ [] ∧ delimiters.closing ≠ [])
    {fragments : List Fragment}
    (writable : ∀ fragment ∈ fragments, fragment.isWritable delimiters)
    (position : Nat) :
    Scans delimiters position (Fragment.print delimiters fragments)
      ((Fragment.tags delimiters position fragments).map Sighting.tag) := by
  induction fragments generalizing position with
  | nil => exact .done (Text.cut?_nil usable.1)
  | cons fragment fragments inductionHypothesis =>
    have here := writable fragment List.mem_cons_self
    have later := inductionHypothesis fun other member =>
      writable other (List.mem_cons_of_mem fragment member)
    rw [Fragment.print_cons]
    cases fragment with
    | literal text =>
      exact (later _).literal_append usable.1 (Delimiters.disjoint_of_areAbsentFrom here).1
    | tag kind => exact Scans.tag_append usable here (later _)

end Sighting
end Stencil
