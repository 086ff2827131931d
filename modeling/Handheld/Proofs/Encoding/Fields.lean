import Handheld.Encoding.Basic

/-!
# Proofs/Encoding/Fields — fields of instructions and their bits

A field of a word is some bits in a row.  To compare fields that overlap, they are taken apart into
bits or into smaller fields.
-/

namespace Handheld

variable {n : Nat} {w : BitVec n} {s l : Nat} {v : BitVec l}

theorem two_bits_cases : ∀ v : BitVec 2, v = 0b00#2 ∨ v = 0b01#2 ∨ v = 0b10#2 ∨ v = 0b11#2 := by
  decide

theorem three_bits_cases : ∀ v : BitVec 3, v = 0b000#3 ∨ v = 0b001#3 ∨ v = 0b010#3 ∨ v = 0b011#3 ∨
    v = 0b100#3 ∨ v = 0b101#3 ∨ v = 0b110#3 ∨ v = 0b111#3 := by decide

/-- A field is its bits. -/
theorem field_eq_iff :
    w.extractLsb' s l = v ↔ ∀ i, i < l → w.getLsbD (s + i) = v.getLsbD i := by
  constructor
  · rintro rfl i hi
    rw [BitVec.getLsbD_extractLsb', decide_eq_true hi, Bool.true_and]
  · intro h
    apply BitVec.eq_of_getLsbD_eq
    intro i hi
    rw [BitVec.getLsbD_extractLsb', decide_eq_true hi, Bool.true_and, ← h i hi]

/-- A bit of a field is a bit of the word. -/
theorem bit_of_field (h : w.extractLsb' s l = v) (i : Nat) (hi : i < l) :
    w.getLsbD (s + i) = v.getLsbD i :=
  field_eq_iff.mp h i hi

/-- A part of a field is a part of the word. -/
theorem part_of_field (h : w.extractLsb' s l = v) (k m : Nat) (hk : k + m ≤ l) :
    w.extractLsb' (s + k) m = v.extractLsb' k m := by
  rw [field_eq_iff]
  intro i hi
  rw [BitVec.getLsbD_extractLsb', decide_eq_true hi, Bool.true_and, Nat.add_assoc]
  exact bit_of_field h (k + i) (by omega)

/-! The same for a field at the low end, where what the bit or the part is worth comes with it. -/

theorem bit_of_low {i : Nat} {b : Bool} (h : w.extractLsb' 0 l = v) (hi : i < l)
    (hv : v.getLsbD i = b) : w.getLsbD i = b := by
  rw [← hv, ← bit_of_field h i hi, Nat.zero_add]

theorem part_of_low {k m : Nat} {f : BitVec m} (h : w.extractLsb' 0 l = v) (hk : k + m ≤ l)
    (hv : v.extractLsb' k m = f) : w.extractLsb' k m = f := by
  rw [← hv, ← part_of_field h k m hk, Nat.zero_add]

/-- A field is its two parts. -/
theorem field_eq_iff_parts (k : Nat) (hk : k ≤ l) :
    w.extractLsb' s l = v ↔
      w.extractLsb' s k = v.extractLsb' 0 k
        ∧ w.extractLsb' (s + k) (l - k) = v.extractLsb' k (l - k) := by
  refine ⟨fun h => ⟨part_of_field h 0 k (by omega), part_of_field h k (l - k) (by omega)⟩, ?_⟩
  rintro ⟨hlow, hhigh⟩
  rw [field_eq_iff]
  intro i hi
  by_cases hik : i < k
  · rw [bit_of_field hlow i hik, BitVec.getLsbD_extractLsb', decide_eq_true hik, Bool.true_and,
      Nat.zero_add]
  · have h := bit_of_field hhigh (i - k) (by omega)
    rw [BitVec.getLsbD_extractLsb', decide_eq_true (by omega : i - k < l - k), Bool.true_and,
      Nat.add_assoc, Nat.add_sub_cancel' (by omega)] at h
    exact h

/-- A field is its lowest bit and the others. -/
theorem field_succ_iff {v : BitVec (l + 1)} :
    w.extractLsb' s (l + 1) = v ↔
      w.getLsbD s = v.getLsbD 0 ∧ w.extractLsb' (s + 1) l = v.extractLsb' 1 l := by
  refine ⟨fun h => ⟨bit_of_field h 0 (by omega), part_of_field h 1 l (by omega)⟩, ?_⟩
  rintro ⟨hlow, hhigh⟩
  rw [field_eq_iff]
  intro i hi
  cases i with
  | zero => exact hlow
  | succ i =>
    have h := bit_of_field hhigh i (by omega)
    rwa [BitVec.getLsbD_extractLsb', decide_eq_true (by omega : i < l), Bool.true_and,
      Nat.add_assoc, Nat.add_comm 1 i] at h

/-! ## Fields put into place -/

/-- A field put into place in a word whose other bits are clear. -/
def place {l n : Nat} (start : Nat) (field : BitVec l) : BitVec n := field.setWidth n <<< start

variable {t m i : Nat}

/-- A placed field has its bits at its place and zeros elsewhere. -/
theorem getLsbD_place : (place t v : BitVec n).getLsbD i =
    (decide (t ≤ i) && decide (i < n) && v.getLsbD (i - t)) := by
  have hle : (!decide (i < t)) = decide (t ≤ i) := by
    rw [← decide_not, decide_eq_decide, Nat.not_lt]
  rw [place, BitVec.getLsbD_shiftLeft, BitVec.getLsbD_setWidth, hle]
  by_cases hin : i < n
  · have hsub : i - t < n := Nat.lt_of_le_of_lt (Nat.sub_le i t) hin
    rw [decide_eq_true hin, decide_eq_true hsub, Bool.true_and, Bool.true_and, Bool.and_true]
  · rw [decide_eq_false hin, Bool.false_and, Bool.false_and, Bool.and_false, Bool.false_and]

/-! A bit or a part of the word lies within the field, or below or above it.  The hypotheses exclude
each other, so that `simp` finds its way. -/

@[simp] theorem bit_place_within (ht : t ≤ i) (_hl : i < t + l) (hn : i < n) :
    (place t v : BitVec n).getLsbD i = v.getLsbD (i - t) := by
  rw [getLsbD_place, decide_eq_true ht, decide_eq_true hn, Bool.true_and, Bool.true_and]

@[simp] theorem bit_place_below (ht : i < t) : (place t v : BitVec n).getLsbD i = false := by
  rw [getLsbD_place, decide_eq_false (Nat.not_le.mpr ht), Bool.false_and, Bool.false_and]

@[simp] theorem bit_place_above (ht : t + l ≤ i) :
    (place t v : BitVec n).getLsbD i = false := by
  rw [getLsbD_place, BitVec.getLsbD_of_ge v (i - t) (by omega), Bool.and_false]

/-- A field within the place is a part of what was placed. -/
@[simp] theorem extract_place_within (ht : t ≤ s) (hl : s + m ≤ t + l) (hn : s + m ≤ n) :
    (place t v : BitVec n).extractLsb' s m = v.extractLsb' (s - t) m := by
  rw [field_eq_iff]
  intro i hi
  rw [bit_place_within (by omega) (by omega) (by omega), BitVec.getLsbD_extractLsb',
    decide_eq_true hi, Bool.true_and, show s + i - t = s - t + i by omega]

/-- Below the place there is nothing. -/
@[simp] theorem extract_place_below (ht : s + m ≤ t) :
    (place t v : BitVec n).extractLsb' s m = 0#m := by
  rw [field_eq_iff]
  intro i hi
  rw [bit_place_below (by omega), BitVec.getLsbD_zero]

/-- Above the place there is nothing. -/
@[simp] theorem extract_place_above (ht : t + l ≤ s) :
    (place t v : BitVec n).extractLsb' s m = 0#m := by
  rw [field_eq_iff]
  intro i hi
  rw [bit_place_above (by omega), BitVec.getLsbD_zero]

end Handheld
