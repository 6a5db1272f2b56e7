import Stencil.Text.Basic

/-!
# Dictionaries

A dictionary is a list of entries.  Insertion keeps the entries in the order of their keys, which
compare by code point, and replaces the entry of an equal key.  Looking a key up finds its first
entry, so the laws of lookup hold of every list of entries, ordered or not.
-/

namespace Stencil

/-- Entries from text keys to values. -/
abbrev Dictionary (α : Type) := List (Text × α)

namespace Dictionary

/-- The value stored under a key. -/
def get? (key : Text) : Dictionary α → Option α
  | [] => none
  | (candidate, value) :: rest => if candidate = key then some value else get? key rest

/-- Whether a key has an entry. -/
def contains (key : Text) (entries : Dictionary α) : Bool :=
  entries.any fun (candidate, _) => candidate = key

/-- Store a value under a key, in place of the value stored there before. -/
def insert (key : Text) (value : α) : Dictionary α → Dictionary α
  | [] => [(key, value)]
  | (candidate, other) :: rest =>
    match compare key candidate with
    | .lt => (key, value) :: (candidate, other) :: rest
    | .eq => (key, value) :: rest
    | .gt => (candidate, other) :: insert key value rest

/-- Store every entry of `additions`, the later ones over the earlier ones. -/
def insertAll (entries additions : Dictionary α) : Dictionary α :=
  additions.foldl (fun current (key, value) => insert key value current) entries

/-- The ordered dictionary of a list of entries; the last value of a key counts. -/
def ofList (entries : List (Text × α)) : Dictionary α := insertAll [] entries

/-- The entries of `upper` laid over those of `lower`: a key of both has its value in `upper`. -/
def overlay (upper lower : Dictionary α) : Dictionary α :=
  upper.foldr (fun (key, value) merged => insert key value merged) lower

/-- The keys that have an entry. -/
def keys (entries : Dictionary α) : List Text := entries.map Prod.fst

@[simp] theorem get?_nil (key : Text) : get? key ([] : Dictionary α) = none := rfl

/-- A stored value is found under its key, and every other key is left alone. -/
theorem get?_insert (sought key : Text) (value : α) (entries : Dictionary α) :
    get? sought (insert key value entries) =
      if key = sought then some value else get? sought entries := by
  induction entries with
  | nil => rfl
  | cons entry rest inductionHypothesis =>
    obtain ⟨candidate, other⟩ := entry
    unfold insert
    split
    · rfl
    · next same =>
      have equal : key = candidate := Std.LawfulEqOrd.eq_of_compare same
      subst equal
      by_cases found : key = sought <;> simp [get?, found]
    · next greater =>
      have different : key ≠ candidate := by
        rintro rfl
        simp at greater
      by_cases found : candidate = sought
      · subst found
        simp [get?, different]
      · simp [get?, found, inductionHypothesis]

/-- A key is looked up in the upper entries first. -/
theorem get?_overlay (key : Text) (upper lower : Dictionary α) :
    get? key (overlay upper lower) = (get? key upper).or (get? key lower) := by
  induction upper with
  | nil => rfl
  | cons entry rest inductionHypothesis =>
    obtain ⟨candidate, value⟩ := entry
    change get? key (insert candidate value (overlay rest lower)) = _
    rw [get?_insert, inductionHypothesis]
    by_cases found : candidate = key <;> simp [get?, found]

/-- The entry that is stored last lies over those stored before. -/
theorem insertAll_eq_overlay (entries additions : Dictionary α) :
    insertAll entries additions = overlay additions.reverse entries := by
  rw [insertAll, overlay, List.foldr_reverse]

@[simp] theorem contains_eq_isSome_get? (key : Text) (entries : Dictionary α) :
    contains key entries = (get? key entries).isSome := by
  induction entries with
  | nil => rfl
  | cons entry rest inductionHypothesis =>
    obtain ⟨candidate, value⟩ := entry
    unfold contains at inductionHypothesis ⊢
    by_cases found : candidate = key <;> simp_all [get?]

end Dictionary
end Stencil
