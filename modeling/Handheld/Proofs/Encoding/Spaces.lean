import Handheld.Proofs.Encoding.Fields

/-!
# Proofs/Encoding/Spaces — the list of patterns, sorted by space

Which pattern of the list fits first depends on few bits.  Bits 27 to 25 select a space, and only in
the space of the data operations, bits 27 and 26 clear, do patterns overlap: bits 7 and 4 set
without a number lead to the extensions (products, exchanges, transfers of halfwords), and a
comparison that sets no flags leads to the status words.  There is one equation for each space, and
later proofs use these and not the list.
-/

namespace Handheld.Wide

variable {w : Word}

/-- The three bits that select a space are two and one. -/
theorem space_eq_iff {v : BitVec 3} :
    w.extractLsb' 25 3 = v ↔ w.extractLsb' 26 2 = v.extractLsb' 1 2 ∧ bit w 25 = v.getLsbD 0 :=
  field_succ_iff.trans and_comm

/-! ## The patterns inside the space of the data operations -/

/-- A product of one word. -/
abbrev IsMultiply (w : Word) : Prop :=
  w.extractLsb' 22 6 = 0b000000#6 ∧ w.extractLsb' 4 4 = 0b1001#4

/-- A product of two words. -/
abbrev IsMultiplyLong (w : Word) : Prop :=
  w.extractLsb' 23 5 = 0b00001#5 ∧ w.extractLsb' 4 4 = 0b1001#4

/-- An exchange with memory. -/
abbrev IsSwap (w : Word) : Prop :=
  w.extractLsb' 23 5 = 0b00010#5 ∧ w.extractLsb' 20 2 = 0b00#2 ∧
    w.extractLsb' 4 8 = 0b00001001#8

/-- A jump to a register. -/
abbrev IsBranchExchange (w : Word) : Prop := w.extractLsb' 4 24 = 0x12FFF1#24

/-- A read of a status word. -/
abbrev IsReadStatus (w : Word) : Prop :=
  w.extractLsb' 23 5 = 0b00010#5 ∧ w.extractLsb' 16 6 = 0b001111#6 ∧ w.extractLsb' 0 12 = 0#12

/-- A write to a status word. -/
abbrev IsWriteStatus (w : Word) : Prop :=
  w.extractLsb' 26 2 = 0b00#2 ∧ w.extractLsb' 23 2 = 0b10#2 ∧ w.extractLsb' 20 2 = 0b10#2 ∧
    w.extractLsb' 12 4 = 0b1111#4

/-- What lies in the gap that shifts by a register leave. -/
def extension? (w : Word) : Option Operation :=
  if IsMultiply w then some (multiply w)
  else if IsMultiplyLong w then some (multiplyLong w)
  else if IsSwap w then some (.swap (bit w 22) (register w 16) (register w 12) (register w 0))
  else halfwordTransfer? w

/-- What lies in the gap that comparisons leave, which always set flags. -/
def status? (w : Word) : Option Operation :=
  if IsBranchExchange w then some (.branchExchange (register w 0))
  else if IsReadStatus w then some (.readStatus (bit w 22) (register w 12))
  else if IsWriteStatus w then writeStatus? w
  else none

/-- The gap that shifts by a register leave among the data operations. -/
abbrev InGap (w : Word) : Prop :=
  w.extractLsb' 25 3 = 0b000#3 ∧ bit w 7 = true ∧ bit w 4 = true

theorem IsMultiply.inGap (h : IsMultiply w) : InGap w :=
  ⟨part_of_field h.1 3 3 (by decide), bit_of_field h.2 3 (by decide),
    bit_of_field h.2 0 (by decide)⟩

theorem IsMultiplyLong.inGap (h : IsMultiplyLong w) : InGap w :=
  ⟨part_of_field h.1 2 3 (by decide), bit_of_field h.2 3 (by decide),
    bit_of_field h.2 0 (by decide)⟩

theorem IsSwap.inGap (h : IsSwap w) : InGap w :=
  ⟨part_of_field h.1 2 3 (by decide), bit_of_field h.2.2 3 (by decide),
    bit_of_field h.2.2 0 (by decide)⟩

/-- The gap that comparisons leave, which always set flags. -/
abbrev IsSilentComparison (w : Word) : Prop := w.extractLsb' 23 2 = 0b10#2 ∧ bit w 20 = false

theorem IsBranchExchange.isSilentComparison (h : IsBranchExchange w) : IsSilentComparison w :=
  ⟨part_of_field h 19 2 (by decide), bit_of_field h 16 (by decide)⟩

theorem IsReadStatus.isSilentComparison (h : IsReadStatus w) : IsSilentComparison w :=
  ⟨part_of_field h.1 0 2 (by decide), bit_of_field h.2.1 4 (by decide)⟩

theorem IsWriteStatus.isSilentComparison (h : IsWriteStatus w) : IsSilentComparison w :=
  ⟨h.2.1, bit_of_field h.2.2.1 0 (by decide)⟩

/-! ## Comparisons that set no flags -/

/-- A data operation is refused if it lies in the gap of the extensions, and if it is a comparison
that sets no flags. -/
theorem dataOperation?_eq_none_iff : dataOperation? w = none ↔
    (bit w 25 = false ∧ bit w 4 = true ∧ bit w 7 = true) ∨
      (w.extractLsb' 23 2 = 0b10#2 ∧ bit w 20 = false) := by
  have hclass : w.extractLsb' 23 2 = (w.extractLsb' 21 4).extractLsb' 2 2 :=
    part_of_field rfl 2 2 (by decide)
  have hlast : ∀ op : BitVec 4, op ≠ 0x8#4 → op ≠ 0x9#4 → op ≠ 0xA#4 → op ≠ 0xB#4 →
      op.extractLsb' 2 2 ≠ 0b10#2 := by decide
  unfold dataOperation?
  rw [hclass]
  by_cases hgap : (!bit w 25 && bit w 4 && bit w 7) = true
  · rw [if_pos hgap]
    simp only [Bool.and_eq_true, Bool.not_eq_true'] at hgap
    exact iff_of_true rfl (.inl ⟨hgap.1.1, hgap.1.2, hgap.2⟩)
  · have hgap' : ¬(bit w 25 = false ∧ bit w 4 = true ∧ bit w 7 = true) := fun h =>
      hgap (by rw [h.1, h.2.1, h.2.2]; rfl)
    rw [if_neg hgap, or_iff_right hgap']
    generalize w.extractLsb' 21 4 = op
    generalize bit w 20 = flags
    cases flags with
    | true =>
      simp only [Bool.true_eq_false, and_false, iff_false, if_true]
      split
      all_goals exact Option.some_ne_none _
    | false =>
      simp only [Bool.false_eq_true, and_true, if_false]
      split
      case h_16 h8 h9 hA hB _ _ _ =>
        exact iff_of_false (Option.some_ne_none _) (hlast op h8 h9 hA hB)
      all_goals simp

/-! ## One equation for each space -/

/-- Outside the space of the data operations few patterns are left. -/
theorem operation?_of_upper (h : w.extractLsb' 26 2 ≠ 0b00#2) :
    operation? w =
      if w.extractLsb' 24 4 = 0b1111#4 then some (.softwareInterrupt (w.extractLsb' 0 24))
      else if w.extractLsb' 25 3 = 0b101#3 then some (branch w)
      else if w.extractLsb' 25 3 = 0b011#3 ∧ bit w 4 = true then none
      else if w.extractLsb' 26 2 = 0b01#2 then some (singleTransfer w)
      else if w.extractLsb' 25 3 = 0b100#3 then blockTransfer? w
      else some (.coprocessor (w.extractLsb' 8 4)) := by
  have hmultiply : ¬IsMultiply w := fun hm => h (part_of_field hm.1 4 2 (by decide))
  have hlong : ¬IsMultiplyLong w := fun hm => h (part_of_field hm.1 3 2 (by decide))
  have hswap : ¬IsSwap w := fun hm => h (part_of_field hm.1 3 2 (by decide))
  have hexchange : ¬IsBranchExchange w := fun hm => h (part_of_field hm 22 2 (by decide))
  have hhalf : ¬InGap w := fun hm => h (part_of_field hm.1 1 2 (by decide))
  have hread : ¬IsReadStatus w := fun hm => h (part_of_field hm.1 3 2 (by decide))
  have hwrite : ¬IsWriteStatus w := fun hm => h hm.1
  rw [operation?, if_neg hmultiply, if_neg hlong, if_neg hswap, if_neg hexchange, if_neg hhalf,
    if_neg hread, if_neg hwrite, if_neg h]

/-- Bits 27 and 26 set: a software interrupt or a coprocessor operation. -/
theorem operation?_of_call (h : w.extractLsb' 26 2 = 0b11#2) :
    operation? w =
      if w.extractLsb' 24 4 = 0b1111#4 then some (.softwareInterrupt (w.extractLsb' 0 24))
      else some (.coprocessor (w.extractLsb' 8 4)) := by
  rw [operation?_of_upper (by rw [h]; decide)]
  simp [space_eq_iff, h]

/-- Bit 27 set alone: a jump or a transfer of a register list. -/
theorem operation?_of_block (h : w.extractLsb' 26 2 = 0b10#2) :
    operation? w = if bit w 25 = true then some (branch w) else blockTransfer? w := by
  have hinterrupt : w.extractLsb' 24 4 ≠ 0b1111#4 := fun hm =>
    absurd (h.symm.trans (part_of_field hm 2 2 (by decide))) (by decide)
  rw [operation?_of_upper (by rw [h]; decide), if_neg hinterrupt]
  cases h25 : bit w 25
  all_goals simp [space_eq_iff, h, h25, -BitVec.getLsbD_eq_getElem]

/-- Bit 26 set alone: a transfer of a register, whose offset no register shifts. -/
theorem operation?_of_transfer (h : w.extractLsb' 26 2 = 0b01#2) :
    operation? w =
      if bit w 25 = true ∧ bit w 4 = true then none else some (singleTransfer w) := by
  have hinterrupt : w.extractLsb' 24 4 ≠ 0b1111#4 := fun hm =>
    absurd (h.symm.trans (part_of_field hm 2 2 (by decide))) (by decide)
  rw [operation?_of_upper (by rw [h]; decide), if_neg hinterrupt]
  simp [space_eq_iff, h]

/-- Bits 27 and 26 clear: a data operation, and in its gaps what else was to be encoded. -/
theorem operation?_of_data (h : w.extractLsb' 26 2 = 0b00#2) :
    operation? w =
      if InGap w then extension? w
      else if IsSilentComparison w then status? w
      else dataOperation? w := by
  have hinterrupt : w.extractLsb' 24 4 ≠ 0b1111#4 := fun hm =>
    absurd (h.symm.trans (part_of_field hm 2 2 (by decide))) (by decide)
  have hbranch : w.extractLsb' 25 3 ≠ 0b101#3 := fun hm =>
    absurd (h.symm.trans (part_of_field hm 1 2 (by decide))) (by decide)
  rw [operation?, if_neg hinterrupt, if_neg hbranch]
  by_cases hgap : InGap w
  · have hexchange : ¬IsBranchExchange w := fun hm =>
      absurd (hgap.2.1.symm.trans (bit_of_field hm 3 (by decide))) (by decide)
    rw [if_neg hexchange, if_pos hgap, if_pos hgap]
    rfl
  · have hmultiply : ¬IsMultiply w := fun hm => hgap (IsMultiply.inGap hm)
    have hlong : ¬IsMultiplyLong w := fun hm => hgap (IsMultiplyLong.inGap hm)
    have hswap : ¬IsSwap w := fun hm => hgap (IsSwap.inGap hm)
    rw [if_neg hmultiply, if_neg hlong, if_neg hswap, if_neg hgap, if_neg hgap]
    by_cases hs : IsSilentComparison w
    · have hnone : dataOperation? w = none := dataOperation?_eq_none_iff.mpr (.inr hs)
      rw [if_pos hs, status?, if_pos h, hnone]
    · have hexchange : ¬IsBranchExchange w := fun hm =>
        hs (IsBranchExchange.isSilentComparison hm)
      have hread : ¬IsReadStatus w := fun hm => hs (IsReadStatus.isSilentComparison hm)
      have hwrite : ¬IsWriteStatus w := fun hm => hs (IsWriteStatus.isSilentComparison hm)
      rw [if_neg hexchange, if_neg hread, if_neg hwrite, if_pos h, if_neg hs]

end Handheld.Wide
