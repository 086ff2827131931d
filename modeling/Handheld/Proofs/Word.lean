import Handheld.Word

/-!
# Proofs/Word — aligned addresses and parts of words

Aligning an address clears its low bits, so as a number it is rounded down to a multiple of the
alignment, and it stays as it is exactly if it was such a multiple.  The bytes of the halfwords of a
word are its bytes, and the top byte of an address is the region it lies in.
-/

namespace Handheld.Word

variable (a : Word)

/-! ## Alignment -/

/-- Clearing low bits is shifting them out and back in. -/
theorem and_not_eq_shift {mask : Word} (k : Nat)
    (h : ∀ i, i < 32 → mask.getLsbD i = decide (i < k)) : a &&& ~~~mask = (a >>> k) <<< k := by
  apply BitVec.eq_of_getLsbD_eq
  intro i hi
  rw [BitVec.getLsbD_and, BitVec.getLsbD_not, h i hi, BitVec.getLsbD_shiftLeft,
    BitVec.getLsbD_ushiftRight]
  by_cases hk : i < k
  · simp [hk]
  · simp [hi, hk, show k + (i - k) = i by omega]

theorem toNat_alignHalf : a.alignHalf.toNat = a.toNat / 2 * 2 := by
  have h : ∀ i : Fin 32, (1#32).getLsbD i = decide (i.val < 1) := by decide
  rw [alignHalf, and_not_eq_shift a 1 fun i hi => h ⟨i, hi⟩]
  simp only [BitVec.toNat_shiftLeft, BitVec.toNat_ushiftRight, Nat.shiftRight_eq_div_pow,
    Nat.shiftLeft_eq]
  omega

theorem toNat_alignWord : a.alignWord.toNat = a.toNat / 4 * 4 := by
  have h : ∀ i : Fin 32, (3#32).getLsbD i = decide (i.val < 2) := by decide
  rw [alignWord, and_not_eq_shift a 2 fun i hi => h ⟨i, hi⟩]
  simp only [BitVec.toNat_shiftLeft, BitVec.toNat_ushiftRight, Nat.shiftRight_eq_div_pow,
    Nat.shiftLeft_eq]
  omega

theorem alignHalf_eq_self_iff : a.alignHalf = a ↔ a.toNat % 2 = 0 := by
  rw [← BitVec.toNat_inj, toNat_alignHalf]
  omega

theorem alignWord_eq_self_iff : a.alignWord = a ↔ a.toNat % 4 = 0 := by
  rw [← BitVec.toNat_inj, toNat_alignWord]
  omega

/-- Addresses in the same halfword are aligned to the same address. -/
theorem alignHalf_congr {a b : Word} (h : a.toNat / 2 = b.toNat / 2) :
    a.alignHalf = b.alignHalf := by
  rw [← BitVec.toNat_inj, toNat_alignHalf, toNat_alignHalf, h]

theorem alignHalf_alignHalf_add {i : Word} (h : i.toNat < 2) :
    (a.alignHalf + i).alignHalf = a.alignHalf := by
  have := a.isLt
  apply alignHalf_congr
  rw [BitVec.toNat_add, toNat_alignHalf]
  omega

/-- An even address is what is left of it with its low bit set. -/
theorem alignHalf_or_one {a : Word} (even : a.toNat % 2 = 0) :
    alignHalf (a ||| 1#32) = a := by
  have hdiv : (a ||| 1#32).toNat / 2 = a.toNat / 2 := by
    rw [BitVec.toNat_or, Nat.or_div_two]
    exact Nat.or_zero _
  rw [alignHalf_congr hdiv, alignHalf_eq_self_iff]
  exact even

theorem alignHalf_alignHalf : a.alignHalf.alignHalf = a.alignHalf := by
  simpa using a.alignHalf_alignHalf_add (i := 0#32) (by decide)

/-- Both halfwords of an aligned word are aligned. -/
theorem alignHalf_alignWord : a.alignWord.alignHalf = a.alignWord := by
  rw [alignHalf_eq_self_iff, toNat_alignWord]
  omega

theorem alignHalf_alignWord_add_two : (a.alignWord + 2).alignHalf = a.alignWord + 2 := by
  have := a.isLt
  rw [alignHalf_eq_self_iff, BitVec.toNat_add, toNat_alignWord, show (2 : Word).toNat = 2 from rfl]
  omega

/-- Addresses in the same word are aligned to the same address. -/
theorem alignWord_congr {a b : Word} (h : a.toNat / 4 = b.toNat / 4) :
    a.alignWord = b.alignWord := by
  rw [← BitVec.toNat_inj, toNat_alignWord, toNat_alignWord, h]

theorem alignWord_alignWord_add {i : Word} (h : i.toNat < 4) :
    (a.alignWord + i).alignWord = a.alignWord := by
  have := a.isLt
  have he : a.alignWord.alignWord = a.alignWord := by
    rw [alignWord_eq_self_iff, toNat_alignWord]
    omega
  refine Eq.trans (alignWord_congr ?_) he
  rw [BitVec.toNat_add, toNat_alignWord]
  omega

theorem alignWord_alignWord : a.alignWord.alignWord = a.alignWord := by
  simpa using a.alignWord_alignWord_add (i := 0#32) (by decide)

/-- Both bytes of an aligned halfword lie in its word. -/
theorem alignWord_alignHalf_add {i : Word} (h : i.toNat < 2) :
    (a.alignHalf + i).alignWord = a.alignWord := by
  have := a.isLt
  apply alignWord_congr
  rw [BitVec.toNat_add, toNat_alignHalf]
  omega

theorem alignWord_add_four : (a + 4).alignWord = a.alignWord + 4 := by
  rw [← BitVec.toNat_inj, BitVec.toNat_add, toNat_alignWord, toNat_alignWord, BitVec.toNat_add,
    show (4 : Word).toNat = 4 from rfl]
  omega

/-- An address is less than a word past the start of its word. -/
theorem toNat_sub_alignWord_lt : (a - a.alignWord).toNat < 4 := by
  rw [BitVec.toNat_sub, toNat_alignWord]
  have := a.isLt
  omega

/-! ## Parts -/

theorem low_lowHalf : a.lowHalf.low = a.byte 0 := by
  apply BitVec.eq_of_getLsbD_eq
  intro i hi
  simp [lowHalf, Half.low, byte, hi]

theorem high_lowHalf : a.lowHalf.high = a.byte 1 := by
  apply BitVec.eq_of_getLsbD_eq
  intro i hi
  simp [lowHalf, Half.high, byte, hi]

theorem low_highHalf : a.highHalf.low = a.byte 2 := by
  apply BitVec.eq_of_getLsbD_eq
  intro i hi
  simp [highHalf, Half.low, byte, hi, show i < 16 by omega]

theorem high_highHalf : a.highHalf.high = a.byte 3 := by
  apply BitVec.eq_of_getLsbD_eq
  intro i hi
  simp [highHalf, Half.high, byte, hi, show 8 + i < 16 by omega,
    show 16 + (8 + i) = 24 + i by omega]

/-- Two halfwords of two bytes each are a word of four. -/
theorem ofHalves_ofBytes (b₀ b₁ b₂ b₃ : Byte) :
    ofHalves (Half.ofBytes b₀ b₁) (Half.ofBytes b₂ b₃) = ofBytes b₀ b₁ b₂ b₃ :=
  (@BitVec.append_assoc _ _ _ (b₃ ++ b₂) b₁ b₀).symm

theorem getLsbD_byte (i : Nat) {j : Nat} (hj : j < 8) :
    (a.byte i).getLsbD j = a.getLsbD (8 * i + j) := by
  rw [byte, BitVec.getLsbD_extractLsb', decide_eq_true hj, Bool.true_and]

/-- A word is its four bytes. -/
theorem eq_of_byte {v w : Word} (h : ∀ i, i < 4 → v.byte i = w.byte i) : v = w := by
  apply BitVec.eq_of_getLsbD_eq
  intro i hi
  have hj : i % 8 < 8 := Nat.mod_lt i (by decide)
  have hb := congrArg (fun b : Byte => b.getLsbD (i % 8)) (h (i / 8) (by omega))
  rwa [getLsbD_byte v _ hj, getLsbD_byte w _ hj, Nat.div_add_mod] at hb

/-- The bytes of a word of four bytes. -/
theorem byte_ofBytes (f : Nat → Byte) {i : Nat} (hi : i < 4) :
    (ofBytes (f 0) (f 1) (f 2) (f 3)).byte i = f i := by
  apply BitVec.eq_of_getLsbD_eq
  intro j hj
  rw [getLsbD_byte _ _ hj, ofBytes, BitVec.getLsbD_append, BitVec.getLsbD_append,
    BitVec.getLsbD_append]
  have h : i = 0 ∨ i = 1 ∨ i = 2 ∨ i = 3 := by omega
  obtain rfl | rfl | rfl | rfl := h
  · rw [if_pos (by omega)]
    exact congrArg (f 0).getLsbD (by omega)
  · rw [if_neg (by omega), if_pos (by omega)]
    exact congrArg (f 1).getLsbD (by omega)
  · rw [if_neg (by omega), if_neg (by omega), if_pos (by omega)]
    exact congrArg (f 2).getLsbD (by omega)
  · rw [if_neg (by omega), if_neg (by omega), if_neg (by omega)]
    exact congrArg (f 3).getLsbD (by omega)

theorem ofBytes_byte : ofBytes (a.byte 0) (a.byte 1) (a.byte 2) (a.byte 3) = a :=
  eq_of_byte fun _ hi => byte_ofBytes a.byte hi

theorem toNat_byte_three : (a.byte 3).toNat = a.toNat / 0x1000000 := by
  rw [byte, BitVec.extractLsb'_toNat, Nat.shiftRight_eq_div_pow]
  have := a.isLt
  omega

end Handheld.Word
