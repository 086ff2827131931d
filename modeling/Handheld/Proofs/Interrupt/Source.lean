import Handheld.Interrupt.Source

/-!
# Proofs/Interrupt/Source — sets of sources by their members

A set of sources is its members, and the first source of a set is its member with the lowest number.
-/

namespace Handheld

namespace Source

theorem exists_index {i : Nat} (h : i < 14) : ∃ k : Source, k.index = i := by
  have all : ∀ j : Fin 14, ∃ k ∈ Source.all, k.index = j.val := by decide
  obtain ⟨k, -, hk⟩ := all ⟨i, h⟩
  exact ⟨k, hk⟩

/-- The list of all sources is in the order of their numbers. -/
theorem pairwise_all : Source.all.Pairwise fun k l => k.index < l.index := by decide

end Source

namespace SourceSet

/-- **Two sets with the same members are the same.** -/
theorem ext {s t : SourceSet} (h : ∀ k, has s k = has t k) : s = t := by
  apply BitVec.eq_of_getLsbD_eq
  intro i hi
  obtain ⟨k, rfl⟩ := Source.exists_index hi
  exact h k

theorem eq_empty_iff {s : SourceSet} : s = 0#14 ↔ ∀ k, has s k = false := by
  constructor
  · rintro rfl k
    exact has_empty k
  · intro h
    exact ext fun k => (h k).trans (has_empty k).symm

theorem first?_eq_none_iff {s : SourceSet} : first? s = none ↔ s = 0#14 := by
  rw [eq_empty_iff, first?, List.find?_eq_none]
  constructor
  · intro h k
    simpa using h k (Source.mem_all k)
  · intro h k _
    simp [h k]

/-- The first of some sources is the one with the least number. -/
theorem least_of_first? {s : SourceSet} {k : Source} (h : first? s = some k) :
    has s k = true ∧ ∀ l, has s l = true → k.index ≤ l.index := by
  obtain ⟨hk, before, after, hall, hbefore⟩ := List.find?_eq_some_iff_append.mp h
  refine ⟨hk, fun l hl => ?_⟩
  have hp := Source.pairwise_all
  have hm := Source.mem_all l
  rw [hall, List.pairwise_append, List.pairwise_cons] at hp
  rw [hall, List.mem_append, List.mem_cons] at hm
  rcases hm with hm | rfl | hm
  · exact absurd hl (by simpa using hbefore l hm)
  · exact Nat.le_refl _
  · exact Nat.le_of_lt (hp.2.1.1 l hm)

/-- **The source served first is the member with the lowest number.** -/
theorem first?_eq_some_iff {s : SourceSet} {k : Source} :
    first? s = some k ↔ has s k = true ∧ ∀ l, has s l = true → k.index ≤ l.index := by
  refine ⟨least_of_first?, fun ⟨hk, hleast⟩ => ?_⟩
  cases hf : first? s with
  | none => exact absurd hk (by rw [first?_eq_none_iff.mp hf, has_empty]; decide)
  | some l =>
    obtain ⟨hl, hl'⟩ := least_of_first? hf
    rw [Source.index_injective (Nat.le_antisymm (hl' k hk) (hleast l hl))]

end SourceSet

end Handheld
