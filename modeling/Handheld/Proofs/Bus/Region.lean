import Handheld.Bus.Access
import Handheld.Proofs.Word

/-!
# Proofs/Bus/Region — the regions of neighbouring addresses

A region begins and ends at multiples of four, so the bytes of an aligned halfword or word lie in
one region, the one that the unaligned address leads to.  Among the device registers aligning an
address aligns its offset.
-/

namespace Handheld.Region

/-- The bytes of an aligned word lie in one region. -/
theorem of?_congr {a b : Word} (h : a.toNat / 4 = b.toNat / 4) : of? a = of? b := by
  have h₃ : a.byte 3 = b.byte 3 := by
    rw [← BitVec.toNat_inj, Word.toNat_byte_three, Word.toNat_byte_three]
    omega
  have hb : a < 0x4000#32 ↔ b < 0x4000#32 := by
    rw [BitVec.lt_def, BitVec.lt_def, show (0x4000#32).toNat = 0x4000 from rfl]
    omega
  unfold of?
  rw [h₃]
  simp only [hb]

/-- The bytes of a word lie in one region. -/
theorem of?_alignWord_add (a : Word) {i : Word} (h : i.toNat < 4) :
    of? (a.alignWord + i) = of? a := by
  have := a.isLt
  apply of?_congr
  rw [BitVec.toNat_add, Word.toNat_alignWord]
  omega

/-- The bytes of a halfword lie in one region. -/
theorem of?_alignHalf_add (a : Word) {i : Word} (h : i.toNat < 2) :
    of? (a.alignHalf + i) = of? a := by
  have := a.isLt
  apply of?_congr
  rw [BitVec.toNat_add, Word.toNat_alignHalf]
  omega

theorem of?_alignWord (a : Word) : of? a.alignWord = of? a := by
  simpa using of?_alignWord_add a (i := 0#32) (by decide)

theorem of?_alignHalf (a : Word) : of? a.alignHalf = of? a := by
  simpa using of?_alignHalf_add a (i := 0#32) (by decide)

/-! ## Offsets of the device registers -/

/-- An offset counts from the start of the registers, around the end of the addresses. -/
theorem toNat_registerOffset (a : Word) :
    (registerOffset a).toNat = (a.toNat + 0xFC000000) % 0x100000000 := by
  rw [registerOffset, BitVec.toNat_sub, show (0x04000000#32).toNat = 0x04000000 from rfl]
  omega

theorem getLsbD_zero_registerOffset (a : Word) :
    (registerOffset a).getLsbD 0 = decide (a.toNat % 2 = 1) := by
  rw [BitVec.getLsbD, toNat_registerOffset, Nat.testBit_zero]
  exact decide_eq_decide.mpr (by omega)

/-- Alignment of an offset is alignment of its address. -/
theorem alignHalf_registerOffset (a : Word) :
    (registerOffset a).alignHalf = registerOffset a.alignHalf := by
  rw [← BitVec.toNat_inj, Word.toNat_alignHalf, toNat_registerOffset, toNat_registerOffset,
    Word.toNat_alignHalf]
  have := a.isLt
  omega

theorem alignWord_registerOffset (a : Word) :
    (registerOffset a).alignWord = registerOffset a.alignWord := by
  rw [← BitVec.toNat_inj, Word.toNat_alignWord, toNat_registerOffset, toNat_registerOffset,
    Word.toNat_alignWord]
  have := a.isLt
  omega

/-- Offsets count on as addresses do. -/
theorem registerOffset_add (a i : Word) :
    registerOffset a + i = registerOffset (a + i) := by
  unfold registerOffset
  bv_omega

end Handheld.Region
