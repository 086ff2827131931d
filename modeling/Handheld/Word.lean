/-!
# Word — bytes, halfwords and words, and how they are put together

Every quantity the processor handles is a vector of bits of fixed width, so arithmetic wraps and
nothing is ever out of range.  Memory is little-endian: the byte at the lowest address is the low
byte of a halfword or word, and a wide access covers the addresses from its aligned start.
-/

namespace Handheld

/-- Eight bits, the unit of memory. -/
abbrev Byte := BitVec 8

/-- Sixteen bits: a narrow instruction or a device register. -/
abbrev Half := BitVec 16

/-- Thirty-two bits: a wide instruction, a register or an address. -/
abbrev Word := BitVec 32

/-- Sixty-four bits: a long product or the cycle counter. -/
abbrev Double := BitVec 64

/-! ## Halfwords -/

namespace Half

/-- The low byte. -/
def low (h : Half) : Byte := h.extractLsb' 0 8

/-- The high byte. -/
def high (h : Half) : Byte := h.extractLsb' 8 8

/-- The halfword of two bytes, the low one first. -/
def ofBytes (b₀ b₁ : Byte) : Half := b₁ ++ b₀

/-- Replaces the bits of `old` that `mask` selects by those of `value`. -/
def merge (old value mask : Half) : Half := (old &&& ~~~mask) ||| (value &&& mask)

@[simp] theorem ofBytes_low_high (h : Half) : ofBytes h.low h.high = h := by
  unfold ofBytes low high
  ext i hi
  simp only [BitVec.getElem_append, BitVec.getElem_extractLsb']
  split <;> simp_all [BitVec.getLsbD_eq_getElem]

@[simp] theorem low_ofBytes (b₀ b₁ : Byte) : (ofBytes b₀ b₁).low = b₀ := by
  unfold ofBytes low
  apply BitVec.eq_of_getLsbD_eq
  intro i hi
  rw [BitVec.getLsbD_extractLsb', BitVec.getLsbD_append]
  simp [hi]

@[simp] theorem high_ofBytes (b₀ b₁ : Byte) : (ofBytes b₀ b₁).high = b₁ := by
  unfold ofBytes high
  apply BitVec.eq_of_getLsbD_eq
  intro i hi
  rw [BitVec.getLsbD_extractLsb', BitVec.getLsbD_append]
  simp [hi]

@[simp] theorem merge_all (old value : Half) : merge old value 0xFFFF#16 = value := by
  change (old &&& ~~~BitVec.allOnes 16) ||| (value &&& BitVec.allOnes 16) = value
  rw [BitVec.and_allOnes, BitVec.not_allOnes, BitVec.and_zero, BitVec.zero_or]

@[simp] theorem merge_none (old value : Half) : merge old value 0#16 = old := by
  rw [merge, BitVec.not_zero, BitVec.and_allOnes, BitVec.and_zero, BitVec.or_zero]

end Half

/-! ## Words -/

namespace Word

/-- The `i`-th byte, counted from the low end. -/
def byte (w : Word) (i : Nat) : Byte := w.extractLsb' (8 * i) 8

/-- The low halfword. -/
def lowHalf (w : Word) : Half := w.extractLsb' 0 16

/-- The high halfword. -/
def highHalf (w : Word) : Half := w.extractLsb' 16 16

/-- The word of two halfwords, the low one first. -/
def ofHalves (h₀ h₁ : Half) : Word := h₁ ++ h₀

/-- The word of four bytes, the lowest one first. -/
def ofBytes (b₀ b₁ b₂ b₃ : Byte) : Word := b₃ ++ b₂ ++ b₁ ++ b₀

/-- The address rounded down to a multiple of two. -/
def alignHalf (a : Word) : Word := a &&& ~~~1#32

/-- The address rounded down to a multiple of four. -/
def alignWord (a : Word) : Word := a &&& ~~~3#32

/-- The word whose four byte lanes are each all ones or all zeros, lowest lane first. -/
def ofLanes (l₀ l₁ l₂ l₃ : Bool) : Word :=
  let lane (b : Bool) : Byte := if b then 0xFF#8 else 0#8
  ofBytes (lane l₀) (lane l₁) (lane l₂) (lane l₃)

@[simp] theorem ofHalves_low_high (w : Word) : ofHalves w.lowHalf w.highHalf = w := by
  unfold ofHalves lowHalf highHalf
  ext i hi
  simp only [BitVec.getElem_append, BitVec.getElem_extractLsb']
  split <;> simp_all [BitVec.getLsbD_eq_getElem]

@[simp] theorem lowHalf_ofHalves (h₀ h₁ : Half) : (ofHalves h₀ h₁).lowHalf = h₀ := by
  unfold ofHalves lowHalf
  apply BitVec.eq_of_getLsbD_eq
  intro i hi
  rw [BitVec.getLsbD_extractLsb', BitVec.getLsbD_append]
  simp [hi]

@[simp] theorem highHalf_ofHalves (h₀ h₁ : Half) : (ofHalves h₀ h₁).highHalf = h₁ := by
  unfold ofHalves highHalf
  apply BitVec.eq_of_getLsbD_eq
  intro i hi
  rw [BitVec.getLsbD_extractLsb', BitVec.getLsbD_append]
  simp [hi]

end Word

/-! ## Doubles -/

namespace Double

/-- The double of two words, the low one first. -/
def ofWords (w₀ w₁ : Word) : Double := w₁ ++ w₀

/-- The low word. -/
def lowWord (d : Double) : Word := d.extractLsb' 0 32

/-- The high word. -/
def highWord (d : Double) : Word := d.extractLsb' 32 32

@[simp] theorem ofWords_low_high (d : Double) : ofWords d.lowWord d.highWord = d := by
  unfold ofWords lowWord highWord
  ext i hi
  simp only [BitVec.getElem_append, BitVec.getElem_extractLsb']
  split <;> simp_all [BitVec.getLsbD_eq_getElem]

end Double

end Handheld
