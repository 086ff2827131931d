import Handheld.Proofs.Encoding.Spaces

/-!
# Proofs/Encoding/WellFormed — what a wide word can encode

Registers, lists, comments and coprocessor numbers are as wide as their fields, so all of their
values can be encoded.  Distances, offsets and masks are wider than their fields, and five
operations exist in narrow code only.  An operation is well-formed if it is none of these and if its
numbers fit.  Whatever a wide word encodes is well-formed.
-/

namespace Handheld

/-! ## Operands that fit their fields -/

/-- A byte, rotated right by an even distance that is at least twice `least`. -/
def IsRotatedByte (least : Nat) (value : Word) : Prop :=
  ∃ (b : Byte) (k : Nat), least ≤ k ∧ k < 16 ∧ value = (b.setWidth 32).rotateRight (2 * k)

/-- The distances of a shift by a number.  A left shift by zero is none, right shifts reach the
width, and a rotation by zero stands for another operation. -/
def ShiftKind.Fits : ShiftKind → Nat → Prop
  | lsl, distance => distance < 32
  | lsr, distance => 0 < distance ∧ distance ≤ 32
  | asr, distance => 0 < distance ∧ distance ≤ 32
  | ror, distance => 0 < distance ∧ distance < 32

namespace Operand

/-- A register that is not shifted. -/
def IsPlain : Operand → Prop
  | shifted _ kind distance => kind = .lsl ∧ distance = 0
  | immediate _ | rotated _ | throughCarry _ => False

/-- A register, shifted by a number if at all. -/
def IsShift : Operand → Prop
  | shifted _ kind distance => kind.Fits distance
  | throughCarry _ => True
  | immediate _ | rotated _ => False

/-- The second operands of data operations, except shifts by a register. -/
def FitsData : Operand → Prop
  | immediate value => value.toNat < 256
  | rotated value => IsRotatedByte 1 value
  | operand => operand.IsShift

/-- The offsets of transfers of words and unsigned bytes. -/
def FitsTransfer : Operand → Prop
  | immediate value => value.toNat < 4096
  | operand => operand.IsShift

/-- The offsets of transfers of halfwords, and of signed loads. -/
def FitsHalfwordTransfer : Operand → Prop
  | immediate value => value.toNat < 256
  | operand => operand.IsPlain

/-- What can be written to a status word. -/
def FitsStatus : Operand → Prop
  | immediate value => IsRotatedByte 0 value
  | operand => operand.IsPlain

end Operand

/-- The second operands of data operations. -/
def DataOperand.Fits : DataOperand → Prop
  | fixed operand => operand.FitsData
  | byRegister .. => True

/-- The offsets of loads. -/
def LoadKind.Fits : LoadKind → Operand → Prop
  | word | byte => Operand.FitsTransfer
  | half | signedByte | signedHalf => Operand.FitsHalfwordTransfer

/-- The offsets of stores. -/
def StoreKind.Fits : StoreKind → Operand → Prop
  | word | byte => Operand.FitsTransfer
  | half => Operand.FitsHalfwordTransfer

/-- A number of 24 bits, extended with its sign and multiplied by four. -/
def IsBranchOffset (offset : Word) : Prop := ∃ k : BitVec 24, offset = k.signExtend 32 * 4#32

/-- A union of the four bytes of a word. -/
def IsStatusMask (mask : Word) : Prop := ∃ l₀ l₁ l₂ l₃, mask = Word.ofLanes l₀ l₁ l₂ l₃

namespace Operation

/-- The operations that exist in narrow code only. -/
def IsNarrowOnly : Operation → Prop
  | branchNarrow _ | linkHigh _ | linkLow _ | loadFromPc .. | addToPc .. => True
  | _ => False

/-- The operations that wide code can express. -/
def WellFormed : Operation → Prop
  | branch offset | branchLink offset => IsBranchOffset offset
  | load kind _ _ offset => kind.Fits offset
  | store kind _ _ offset => kind.Fits offset
  | loadMultiple mode _ _ | storeMultiple mode _ _ => mode.base ≠ .pc
  | binary _ _ _ _ operand | test _ _ operand | move _ _ _ operand => operand.Fits
  | writeStatus _ mask data => IsStatusMask mask ∧ data.FitsStatus
  | operation => ¬operation.IsNarrowOnly

end Operation

namespace Operand

variable {o : Operand}

theorem IsShift.fitsData (h : o.IsShift) : o.FitsData := by
  cases o with
  | shifted | throughCarry => exact h
  | immediate | rotated => exact h.elim

theorem IsShift.fitsTransfer (h : o.IsShift) : o.FitsTransfer := by
  cases o with
  | shifted | throughCarry => exact h
  | immediate | rotated => exact h.elim

end Operand

/-- A number of 26 bits, of which the lowest two are clear, is four times one of 24 bits. -/
theorem signExtend_append_zeros (k : BitVec 24) :
    (k ++ 0b00#2).signExtend 32 = k.signExtend 32 * 4#32 := by
  have hfour : (4#32) = BitVec.twoPow 32 2 := rfl
  rw [hfour, BitVec.mul_twoPow_eq_shiftLeft]
  apply BitVec.eq_of_getLsbD_eq
  intro i hi
  rw [BitVec.getLsbD_signExtend, BitVec.getLsbD_append, BitVec.msb_append,
    BitVec.getLsbD_shiftLeft, BitVec.getLsbD_signExtend]
  by_cases h2 : i < 2
  · simp [hi, h2]
    omega
  · simp [hi, h2, show i - 2 < 32 by omega, show i < 26 ↔ i - 2 < 24 by omega]

namespace Wide

variable {w : Word} {op : Operation}

/-! ## Decoded operands -/

theorem isRotatedByte_rotatedByte : IsRotatedByte 0 (rotatedByte w) :=
  ⟨_, _, Nat.zero_le _, (w.extractLsb' 8 4).isLt, rfl⟩

theorem isShift_shiftedRegister : (shiftedRegister w).IsShift := by
  have hdistance : (w.extractLsb' 7 5).toNat < 32 := (w.extractLsb' 7 5).isLt
  unfold shiftedRegister
  generalize (w.extractLsb' 7 5).toNat = distance at hdistance
  -- A zero stands for 32 in the right shifts and for another operation in the rotation.
  by_cases hzero : distance = 0
  all_goals
    cases ShiftKind.ofCode (w.extractLsb' 5 2)
    all_goals simp [Operand.IsShift, ShiftKind.Fits, hzero]
  all_goals omega

/-- A second operand that was decoded has one of the forms that a data operation can have. -/
theorem fits_dataOperand : (dataOperand w).Fits := by
  unfold dataOperand
  split
  · split
    · change ((w.extractLsb' 0 8).setWidth 32).toNat < 256
      rw [BitVec.toNat_setWidth_of_le (by decide)]
      exact (w.extractLsb' 0 8).isLt
    · next h =>
      refine ⟨_, _, ?_, (w.extractLsb' 8 4).isLt, rfl⟩
      rw [Nat.one_le_iff_ne_zero]
      exact fun h0 => h (BitVec.eq_of_toNat_eq h0)
  · split
    · trivial
    · exact isShift_shiftedRegister.fitsData

theorem isBranchOffset_offset :
    IsBranchOffset ((w.extractLsb' 0 24 ++ 0b00#2).signExtend 32) :=
  ⟨_, signExtend_append_zeros _⟩

/-! ## Decoded operations -/

/-- A branch that was decoded has a whole number of words as its offset. -/
theorem wellFormed_branch : (branch w).WellFormed := by
  unfold branch
  split
  all_goals exact isBranchOffset_offset

theorem wellFormed_of_halfwordTransfer? (h : halfwordTransfer? w = some op) : op.WellFormed := by
  have hnumber : ((w.extractLsb' 8 4 ++ w.extractLsb' 0 4).setWidth 32).toNat < 256 := by
    rw [BitVec.toNat_setWidth_of_le (by decide)]
    exact (w.extractLsb' 8 4 ++ w.extractLsb' 0 4).isLt
  unfold halfwordTransfer? at h
  split at h
  · split at h
    case h_5 => cases h
    all_goals
      cases h
      exact hnumber
  · split at h
    case h_5 => cases h
    all_goals
      cases h
      exact ⟨rfl, rfl⟩

theorem wellFormed_of_writeStatus? (h : writeStatus? w = some op) : op.WellFormed := by
  have hmask : IsStatusMask (statusMask w) := ⟨_, _, _, _, rfl⟩
  unfold writeStatus? at h
  split at h
  · cases h
    exact ⟨hmask, isRotatedByte_rotatedByte⟩
  · split at h
    · cases h
      exact ⟨hmask, rfl, rfl⟩
    · cases h

theorem wellFormed_of_dataOperation? (h : dataOperation? w = some op) : op.WellFormed := by
  have hoperand : (dataOperand w).Fits := fits_dataOperand
  unfold dataOperation? at h
  split at h
  · cases h
  · generalize bit w 20 = flags at h
    cases flags with
    | true =>
      simp only [if_true] at h
      split at h
      all_goals
        cases h
        exact hoperand
    | false =>
      simp only [Bool.false_eq_true, if_false] at h
      split at h
      case h_9 | h_10 | h_11 | h_12 => cases h
      all_goals
        cases h
        exact hoperand

theorem wellFormed_singleTransfer : (singleTransfer w).WellFormed := by
  have hoffset : (if bit w 25 then shiftedRegister w
      else .immediate ((w.extractLsb' 0 12).setWidth 32)).FitsTransfer := by
    split
    · exact isShift_shiftedRegister.fitsTransfer
    · change ((w.extractLsb' 0 12).setWidth 32).toNat < 4096
      rw [BitVec.toNat_setWidth_of_le (by decide)]
      exact (w.extractLsb' 0 12).isLt
  unfold singleTransfer
  cases bit w 20
  all_goals
    cases bit w 22
    all_goals exact hoffset

theorem wellFormed_of_blockTransfer? (h : blockTransfer? w = some op) : op.WellFormed := by
  unfold blockTransfer? at h
  split at h
  · cases h
  · next hbase =>
    split at h
    all_goals
      cases h
      exact hbase

theorem wellFormed_of_extension? (h : extension? w = some op) : op.WellFormed := by
  unfold extension? at h
  split at h
  · cases h
    exact id
  · split at h
    · cases h
      exact id
    · split at h
      · cases h
        exact id
      · exact wellFormed_of_halfwordTransfer? h

theorem wellFormed_of_status? (h : status? w = some op) : op.WellFormed := by
  unfold status? at h
  split at h
  · cases h
    exact id
  · split at h
    · cases h
      exact id
    · split at h
      · exact wellFormed_of_writeStatus? h
      · cases h

/-- **What a wide word encodes is well-formed.** -/
theorem wellFormed_of_operation? (h : operation? w = some op) : op.WellFormed := by
  rcases two_bits_cases (w.extractLsb' 26 2) with hs | hs | hs | hs
  · rw [operation?_of_data hs] at h
    split at h
    · exact wellFormed_of_extension? h
    · split at h
      · exact wellFormed_of_status? h
      · exact wellFormed_of_dataOperation? h
  · rw [operation?_of_transfer hs] at h
    split at h
    · cases h
    · cases h
      exact wellFormed_singleTransfer
  · rw [operation?_of_block hs] at h
    split at h
    · cases h
      exact wellFormed_branch
    · exact wellFormed_of_blockTransfer? h
  · rw [operation?_of_call hs] at h
    split at h
    all_goals
      cases h
      exact id

end Wide

end Handheld
