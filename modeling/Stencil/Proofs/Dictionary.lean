import Stencil.Dictionary

/-!
# Finding entries

What is found under a key is one of the entries.  Where no key has two entries, their order does not
matter: every entry is found under its key, and the entries may be stored in any order.
-/

namespace Stencil

namespace Dictionary

/-- The order of entries with different keys does not matter. -/
theorem get?_of_perm
    {left right : Dictionary α}
    (same : left.Perm right)
    (distinct : (keys left).Nodup)
    (key : Text) : get? key left = get? key right := by
  induction same with
  | nil => rfl
  | cons entry _ inductionHypothesis =>
    obtain ⟨candidate, value⟩ := entry
    have later := inductionHypothesis (List.nodup_cons.mp distinct).2
    rw [get?, get?, later]
  | swap first second entries =>
    obtain ⟨candidate, value⟩ := first
    obtain ⟨other, otherValue⟩ := second
    have different : other ≠ candidate := fun equal =>
      (List.nodup_cons.mp distinct).1 (equal ▸ List.mem_cons_self)
    by_cases found : candidate = key
    · subst found
      simp only [get?, if_neg different]
    · simp only [get?, if_neg found]
  | trans first _ inductionHypothesis laterHypothesis =>
    have between := (first.map Prod.fst).nodup_iff.mp distinct
    exact (inductionHypothesis distinct).trans (laterHypothesis between)

/-- Entries with different keys may be stored in any order. -/
theorem get?_insertAll
    {additions entries : Dictionary α}
    (distinct : (keys additions).Nodup)
    (key : Text) :
    get? key (insertAll entries additions) = (get? key additions).or (get? key entries) := by
  rw [insertAll_eq_overlay, get?_overlay,
    get?_of_perm additions.reverse_perm.symm distinct key]

/-- Of entries with different keys, each is found under its key. -/
theorem get?_of_mem
    {entries : Dictionary α}
    (distinct : (keys entries).Nodup)
    {key : Text}
    {value : α}
    (member : (key, value) ∈ entries) : get? key entries = some value := by
  induction entries with
  | nil => exact absurd member List.not_mem_nil
  | cons entry entries inductionHypothesis =>
    obtain ⟨candidate, other⟩ := entry
    obtain ⟨fresh, distinct⟩ := List.nodup_cons.mp distinct
    rcases List.mem_cons.mp member with same | later
    · obtain ⟨rfl, rfl⟩ := Prod.mk.inj same
      rw [get?, if_pos rfl]
    · have different : candidate ≠ key := by
        rintro rfl
        exact fresh (List.mem_map.mpr ⟨(candidate, value), later, rfl⟩)
      rw [get?, if_neg different, inductionHypothesis distinct later]

theorem mem_of_get?
    {key : Text}
    {value : α}
    {entries : Dictionary α}
    (found : get? key entries = some value) : (key, value) ∈ entries := by
  induction entries with
  | nil => exact nomatch found
  | cons entry rest inductionHypothesis =>
    obtain ⟨candidate, other⟩ := entry
    rw [get?] at found
    split at found
    · next same =>
      rw [same, Option.some.inj found]
      exact List.mem_cons_self
    · exact List.mem_cons_of_mem _ (inductionHypothesis found)

theorem get?_eq_none
    {entries : Dictionary α}
    {key : Text}
    (absent : key ∉ keys entries) : get? key entries = none := by
  cases found : get? key entries with
  | none => rfl
  | some value => exact absurd (List.mem_map_of_mem (mem_of_get? found)) absent

end Dictionary

end Stencil
