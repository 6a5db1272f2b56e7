import Stencil.Report

/-!
# Reading reports off events

What a report says of one stretch of events followed by another is what it says of the two, put
together: names of the second stretch count only where they are new, and counters add up.
-/

namespace Stencil

theorem firstOccurrences_append [DecidableEq α] (left right : List α) :
    firstOccurrences (left ++ right) =
      firstOccurrences left ++ (firstOccurrences right).filter fun item => item ∉ left := by
  induction left with
  | nil =>
    simp only [List.nil_append, firstOccurrences]
    exact (List.filter_eq_self.mpr fun item _ => by simp).symm
  | cons first rest inductionHypothesis =>
    rw [List.cons_append, firstOccurrences, inductionHypothesis, List.filter_append,
      List.filter_filter, firstOccurrences, List.cons_append]
    congr 2
    apply List.filter_congr
    intro item _
    simp [List.mem_cons, not_or]

@[simp] theorem firstOccurrences_eq_nil_iff [DecidableEq α] {items : List α} :
    firstOccurrences items = [] ↔ items = [] := by
  cases items <;> simp [firstOccurrences]

@[simp] theorem mem_firstOccurrences [DecidableEq α] {item : α} {items : List α} :
    item ∈ firstOccurrences items ↔ item ∈ items := by
  induction items with
  | nil => rfl
  | cons first rest inductionHypothesis =>
    rw [firstOccurrences, List.mem_cons, List.mem_cons, List.mem_filter, inductionHypothesis]
    by_cases same : item = first <;> simp [same]

/-- Names found first stay first when more are found. -/
theorem firstOccurrences_isPrefix [DecidableEq α] {left right : List α}
    (isPrefix : left <+: right) : firstOccurrences left <+: firstOccurrences right := by
  obtain ⟨more, rfl⟩ := isPrefix
  rw [firstOccurrences_append]
  exact List.prefix_append _ _

namespace Counters

instance : Zero Counters := ⟨⟨0, 0, 0, 0⟩⟩

instance : Add Counters where
  add left right :=
    ⟨left.substitutions + right.substitutions, left.conditions + right.conditions,
      left.loops + right.loops, left.helpers + right.helpers⟩

/-- No counter of `left` exceeds the same counter of `right`. -/
instance : LE Counters where
  le left right :=
    left.substitutions ≤ right.substitutions ∧ left.conditions ≤ right.conditions ∧
      left.loops ≤ right.loops ∧ left.helpers ≤ right.helpers

@[simp] theorem ofEvents_nil : ofEvents [] = 0 := rfl

@[simp] theorem ofEvents_append (left right : List Event) :
    ofEvents (left ++ right) = ofEvents left + ofEvents right := by
  simp only [ofEvents, List.countP_append]
  rfl

theorem le_add_right (left right : Counters) : left ≤ left + right :=
  ⟨Nat.le_add_right _ _, Nat.le_add_right _ _, Nat.le_add_right _ _, Nat.le_add_right _ _⟩

@[simp] protected theorem add_zero (counters : Counters) : counters + 0 = counters := rfl

@[simp] protected theorem zero_add (counters : Counters) : 0 + counters = counters := by
  change Counters.mk (0 + _) (0 + _) (0 + _) (0 + _) = counters
  simp only [Nat.zero_add]

end Counters

namespace Event

variable {event : Event} {path : Text}

theorem usedPath?_eq_some_iff : event.usedPath? = some path ↔ event = .used path := by
  cases event <;> simp [usedPath?]

theorem missingPath?_eq_some_iff : event.missingPath? = some path ↔ event = .missing path := by
  cases event <;> simp [missingPath?]

end Event

namespace Report

section Lists

variable (template : Text) (run : Run Text)

/-- A run that is stopped is reported on like any other, but for the output. -/
theorem used_ofRun :
    (ofRun template run).used = firstOccurrences (run.events.filterMap Event.usedPath?) := by
  rw [ofRun]
  split <;> rfl

theorem missing_ofRun :
    (ofRun template run).missing = firstOccurrences (run.events.filterMap Event.missingPath?) := by
  rw [ofRun]
  split <;> rfl

theorem counters_ofRun : (ofRun template run).counters = Counters.ofEvents run.events := by
  rw [ofRun]
  split <;> rfl

theorem mem_used_ofRun {path : Text} :
    path ∈ (ofRun template run).used ↔ .used path ∈ run.events := by
  rw [used_ofRun, mem_firstOccurrences, List.mem_filterMap]
  simp only [Event.usedPath?_eq_some_iff, exists_eq_right]

theorem mem_missing_ofRun {path : Text} :
    path ∈ (ofRun template run).missing ↔ .missing path ∈ run.events := by
  rw [missing_ofRun, mem_firstOccurrences, List.mem_filterMap]
  simp only [Event.missingPath?_eq_some_iff, exists_eq_right]

end Lists

/-- Whether nothing went wrong in a rendering: there is no problem, nothing was missing, and no
notice is about a variable. -/
def IsClean (report : Report) : Prop :=
  report.errors = [] ∧ report.missing = [] ∧ ∀ warning ∈ report.warnings, warning.path? = none

end Report
end Stencil
