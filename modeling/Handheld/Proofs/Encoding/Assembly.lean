import Handheld.Proofs.Encoding.Grammar
import Handheld.Proofs.Encoding.Layout
import Handheld.Proofs.Encoding.WellFormed

/-!
# Proofs/Encoding/Assembly — every well-formed instruction has a word

`Instruction.assemble` puts the fields of an instruction into place, one layout for each space of
the list of patterns.  If the instruction is well-formed, the word decodes to it: no pattern further
up in the list fits, and each field is read back from where it was put.
-/

namespace Handheld

/-! ## Assembly -/

/-- The word of an operation, but for the condition.  Operations that wide code cannot express get
no word of their own. -/
def Operation.body : Operation → Body
  | softwareInterrupt comment => place 24 0b1111#4 ||| place 0 comment
  | coprocessor number => place 24 0b1110#4 ||| place 8 number
  | branch offset => Layout.branch false offset
  | branchLink offset => Layout.branch true offset
  | branchExchange target => place 4 0x12FFF1#24 ||| registerAt 0 target
  | swap byte base rd rm => Layout.swap byte base rd rm
  | load .word mode rd offset => Layout.single true false mode rd offset
  | load .byte mode rd offset => Layout.single true true mode rd offset
  | load .half mode rd offset => Layout.halfword true 0b01#2 mode rd offset
  | load .signedByte mode rd offset => Layout.halfword true 0b10#2 mode rd offset
  | load .signedHalf mode rd offset => Layout.halfword true 0b11#2 mode rd offset
  | store .word mode rd offset => Layout.single false false mode rd offset
  | store .byte mode rd offset => Layout.single false true mode rd offset
  | store .half mode rd offset => Layout.halfword false 0b01#2 mode rd offset
  | loadMultiple mode list user => Layout.block true user mode list
  | storeMultiple mode list user => Layout.block false user mode list
  | binary op setFlags rd rn operand => Layout.data op.code setFlags rn rd operand
  | test op rn operand => Layout.data op.code true rn .r0 operand
  | move op setFlags rd operand => Layout.data op.code setFlags .r0 rd operand
  | multiply setFlags rd rs rm addend => Layout.multiply setFlags rd rs rm addend
  | multiplyLong signed accumulate setFlags high low rs rm =>
    Layout.multiplyLong signed accumulate setFlags high low rs rm
  | readStatus saved rd => Layout.readStatus saved rd
  | writeStatus saved mask (.immediate value) =>
    Layout.writeStatus saved mask true (rotationField 0 value)
  | writeStatus saved mask data => Layout.writeStatus saved mask false data.field
  | branchNarrow _ | linkHigh _ | linkLow _ | loadFromPc .. | addToPc .. => 0#28

/-- The word of an instruction. -/
def Instruction.assemble (i : Instruction) : Word :=
  place 28 i.condition.code ||| place 0 i.operation.body

/-! ## Numbers and rotated bytes are read back -/

namespace Operand

variable {o : Operand}

theorem FitsData.isShift (h : o.FitsData) (hn : o.isNumber = false) : o.IsShift := by
  cases o with
  | shifted | throughCarry => exact h
  | immediate | rotated => cases hn

theorem FitsTransfer.isShift (h : o.FitsTransfer) (hn : o.isNumber = false) : o.IsShift := by
  cases o with
  | shifted | throughCarry => exact h
  | immediate | rotated => cases hn

end Operand

namespace Wide

variable {w : Word}

/-- A small number is its low bits. -/
theorem setWidth_extract_of_lt {m : Nat} {v : Word} (h : v.toNat < 1 <<< m) :
    (v.extractLsb' 0 m).setWidth 32 = v := by
  rw [Nat.one_shiftLeft] at h
  apply BitVec.eq_of_toNat_eq
  rw [BitVec.toNat_setWidth, BitVec.extractLsb'_toNat, Nat.shiftRight_zero, Nat.mod_eq_of_lt h,
    Nat.mod_eq_of_lt v.isLt]

/-- A field above a number that is small enough is zero. -/
theorem extract_eq_zero_of_lt {s m : Nat} {v : Word} (h : v.toNat < 1 <<< s) :
    v.extractLsb' s m = 0#m := by
  rw [Nat.one_shiftLeft] at h
  apply BitVec.eq_of_toNat_eq
  rw [BitVec.extractLsb'_toNat, Nat.shiftRight_eq_div_pow, Nat.div_eq_of_lt h, Nat.zero_mod,
    BitVec.toNat_ofNat, Nat.zero_mod]

/-- Rotating left and then right as far leads back. -/
theorem rotateRight_rotateLeft (v : Word) {r : Nat} (hr : r < 32) :
    (v.rotateLeft r).rotateRight r = v := by
  apply BitVec.eq_of_getLsbD_eq
  intro i hi
  rw [BitVec.getLsbD_rotateRight, BitVec.getLsbD_rotateLeft, BitVec.getLsbD_rotateLeft,
    Nat.mod_eq_of_lt hr]
  by_cases h : i < 32 - r
  · simp [h, show r + i < 32 by omega, show ¬ r + i < r by omega]
  · simp [h, hi, show i - (32 - r) < r by omega, show 32 - r + (i - (32 - r)) = i by omega]

theorem rotateLeft_rotateRight (v : Word) {r : Nat} (hr : r < 32) :
    (v.rotateRight r).rotateLeft r = v := by
  apply BitVec.eq_of_getLsbD_eq
  intro i hi
  rw [BitVec.getLsbD_rotateLeft, BitVec.getLsbD_rotateRight, BitVec.getLsbD_rotateRight,
    Nat.mod_eq_of_lt hr]
  by_cases h : i < r
  · simp [h, show ¬ 32 - r + i < 32 - r by omega, show 32 - r + i < 32 by omega]
  · simp [h, hi, show i - r < 32 - r by omega, show r + (i - r) = i by omega]

/-- If a value is a rotated byte, the search finds a distance. -/
theorem rotation_spec {least : Nat} {value : Word} (h : IsRotatedByte least value) :
    least ≤ rotation least value ∧ rotation least value < 16
      ∧ (value.rotateLeft (2 * rotation least value)).toNat < 256 := by
  obtain ⟨b, k, hleast, hk, hvalue⟩ := h
  have hback : value.rotateLeft (2 * k) = b.setWidth 32 := by
    rw [hvalue, rotateLeft_rotateRight _ (by omega)]
  have hbyte : (value.rotateLeft (2 * k)).toNat < 256 := by
    rw [hback, BitVec.toNat_setWidth_of_le (by decide)]
    exact b.isLt
  -- The search may stop at a smaller distance than `k`; that one does as well.
  unfold rotation
  cases hfind : (List.range 16).find? fun k =>
      decide (least ≤ k ∧ (value.rotateLeft (2 * k)).toNat < 256) with
  | none =>
    rw [List.find?_eq_none] at hfind
    exact absurd (decide_eq_true ⟨hleast, hbyte⟩) (hfind k (List.mem_range.mpr hk))
  | some d =>
    have hd : least ≤ d ∧ (value.rotateLeft (2 * d)).toNat < 256 := by
      simpa using List.find?_some hfind
    exact ⟨hd.1, List.mem_range.mp (List.mem_of_find?_eq_some hfind), hd.2⟩

/-- The field of a rotated byte is read back, and its rotation is at least the one that was asked
for. -/
theorem rotatedByte_of_field {least : Nat} {value : Word} (h : IsRotatedByte least value)
    (hw : w.extractLsb' 0 12 = rotationField least value) :
    rotatedByte w = value ∧ least ≤ (w.extractLsb' 8 4).toNat := by
  obtain ⟨hleast, hk, hbyte⟩ := rotation_spec h
  have hb : w.extractLsb' 0 8 = (value.rotateLeft (2 * rotation least value)).extractLsb' 0 8 :=
    part_of_low hw (by decide) (by simp [rotationField, BitVec.extractLsb'_or])
  have hdistance : (w.extractLsb' 8 4).toNat = rotation least value := by
    have hfield : w.extractLsb' 8 4 = BitVec.ofNat 4 (rotation least value) :=
      part_of_low hw (by decide) (by simp [rotationField, BitVec.extractLsb'_or])
    rw [hfield, BitVec.toNat_ofNat, Nat.mod_eq_of_lt hk]
  rw [rotatedByte, hdistance, hb, setWidth_extract_of_lt hbyte]
  exact ⟨rotateRight_rotateLeft value (by omega), hleast⟩

/-! ## Operands are read back -/

/-- The field of a jump holds its offset without the two low bits and the copies of the sign. -/
theorem extract_signExtend_mul_four (k : BitVec 24) :
    (k.signExtend 32 * 4#32).extractLsb' 2 24 = k := by
  rw [← signExtend_append_zeros, field_eq_iff]
  intro i hi
  rw [BitVec.getLsbD_signExtend, BitVec.getLsbD_append, decide_eq_true (by omega),
    Bool.true_and, if_pos (by omega), if_neg (by omega), Nat.add_sub_cancel_left]

/-- Five bits are enough: a right shift by zero stands for one by 32. -/
theorem shiftedRegister_of_shiftField {n : Register} {kind : ShiftKind} {distance : Nat}
    (hfits : kind.Fits distance) (h : w.extractLsb' 0 12 = shiftField n kind distance) :
    shiftedRegister w = .shifted n kind distance := by
  obtain ⟨hn, hkind, hdistance, -⟩ := parts_of_shiftField h
  have hright : 0 < distance ∧ distance ≤ 32 →
      (if distance % 32 = 0 then 32 else distance % 32) = distance := by
    intro hd
    split
    all_goals omega
  unfold shiftedRegister
  rw [hn, hkind, hdistance]
  cases kind with
  | lsl => exact congrArg _ (Nat.mod_eq_of_lt hfits)
  | lsr => exact congrArg _ (hright hfits)
  | asr => exact congrArg _ (hright hfits)
  | ror =>
    rw [ShiftKind.Fits] at hfits
    rw [Nat.mod_eq_of_lt hfits.2]
    exact if_neg (Nat.ne_of_gt hfits.1)

/-- The field of a shifted register is read back. -/
theorem shiftedRegister_of_field {o : Operand} (ho : o.IsShift)
    (h : w.extractLsb' 0 12 = o.field) : shiftedRegister w = o ∧ bit w 4 = false := by
  cases o with
  | immediate | rotated => exact ho.elim
  | shifted n kind distance =>
    exact ⟨shiftedRegister_of_shiftField ho h, (parts_of_shiftField h).2.2.2⟩
  | throughCarry n =>
    have hfield : w.extractLsb' 0 12 = shiftField n .ror 0 := h
    obtain ⟨hn, hkind, hdistance, h4⟩ := parts_of_shiftField hfield
    refine ⟨?_, h4⟩
    unfold shiftedRegister
    rw [hn, hkind, hdistance]
    rfl

/-- The field of a second operand is read back, in each of its three forms. -/
theorem dataOperand_of_field {o : DataOperand} (ho : o.Fits) (h25 : bit w 25 = o.isNumber)
    (h : w.extractLsb' 0 12 = o.field) : dataOperand w = o := by
  unfold dataOperand
  rw [h25]
  cases o with
  | fixed o =>
    have hshift : o.isNumber = false → shiftedRegister w = o ∧ bit w 4 = false := fun hn =>
      shiftedRegister_of_field (ho.isShift hn) h
    cases o with
    | immediate value =>
      have hvalue : value.toNat < 1 <<< 8 := ho
      have hlow : w.extractLsb' 0 8 = value.extractLsb' 0 8 :=
        part_of_low h (by decide) (BitVec.extractLsb'_extractLsb'_of_le (by decide))
      have hhigh : w.extractLsb' 8 4 = 0#4 := part_of_low h (by decide)
        ((BitVec.extractLsb'_extractLsb'_of_le (by decide)).trans (extract_eq_zero_of_lt hvalue))
      rw [hhigh, hlow, setWidth_extract_of_lt hvalue]
      rfl
    | rotated value =>
      obtain ⟨hrotated, hleast⟩ := rotatedByte_of_field ho h
      have hdistance : w.extractLsb' 8 4 ≠ 0#4 := fun h0 => by
        rw [h0] at hleast
        exact absurd hleast (by decide)
      rw [if_neg hdistance, hrotated]
      rfl
    | shifted | throughCarry =>
      obtain ⟨hs, h4⟩ := hshift rfl
      rw [h4, hs]
      rfl
  | byRegister n kind distance =>
    obtain ⟨hn, hkind, hdistance, h4, -⟩ := parts_of_byRegister h
    rw [h4, hn, hkind, hdistance]
    rfl

/-- An operand of a data operation does not lead into the gap of the extensions. -/
theorem not_gap_of_field {o : DataOperand} (ho : o.Fits) (h25 : bit w 25 = o.isNumber)
    (h : w.extractLsb' 0 12 = o.field) :
    ¬(bit w 25 = false ∧ bit w 7 = true ∧ bit w 4 = true) := by
  rintro ⟨hspace, h7, h4⟩
  rw [h25] at hspace
  cases o with
  | fixed o =>
    have h4' : bit w 4 = false := (shiftedRegister_of_field (ho.isShift hspace) h).2
    exact absurd (h4.symm.trans h4') (by decide)
  | byRegister n kind distance =>
    exact absurd (h7.symm.trans (parts_of_byRegister h).2.2.2.2) (by decide)

/-! ## Operations are read back -/

variable {op : Operation} {mode : Addressing} {rd rn rs rm : Register}
  {setFlags load byte user : Bool}

/-- A data operation is decoded by its code, whatever its operand. -/
theorem operation?_of_parts_of_data {code : BitVec 4} {o : DataOperand} (ho : o.Fits)
    (hcode : code.extractLsb' 2 2 = 0b10#2 → setFlags = true)
    (h : w.extractLsb' 0 28 = Layout.data code setFlags rn rd o)
    (hop : ¬(!bit w 25 && bit w 4 && bit w 7) = true → w.extractLsb' 21 4 = code →
      bit w 20 = setFlags → register w 16 = rn → register w 12 = rd → dataOperand w = o →
      dataOperation? w = some op) :
    operation? w = some op := by
  obtain ⟨hspace, h25, h21, h20, hrn, hrd, hfield⟩ := parts_of_data h
  have hgap := not_gap_of_field ho h25 hfield
  have hextension : ¬InGap w := fun hg => hgap ⟨(space_eq_iff.mp hg.1).2, hg.2⟩
  -- The codes of comparisons are the only ones of their class, and comparisons set flags.
  have hsilent : ¬IsSilentComparison w := fun hs => by
    have hclass : code.extractLsb' 2 2 = 0b10#2 :=
      (part_of_field h21 2 2 (by decide)).symm.trans hs.1
    exact absurd (hs.2.symm.trans (h20.trans (hcode hclass))) (by decide)
  have hgap' : ¬(!bit w 25 && bit w 4 && bit w 7) = true := fun hg => by
    simp only [Bool.and_eq_true, Bool.not_eq_true'] at hg
    exact hgap ⟨hg.1.1, hg.2, hg.1.2⟩
  rw [operation?_of_data hspace, if_neg hextension, if_neg hsilent]
  exact hop hgap' h21 h20 hrn hrd (dataOperand_of_field ho h25 hfield)

/-- A binary operation is read back from its bits. -/
theorem operation?_binary {op : BinaryOp} {o : DataOperand} (ho : o.Fits)
    (h : w.extractLsb' 0 28 = (Operation.binary op setFlags rd rn o).body) :
    operation? w = some (.binary op setFlags rd rn o) := by
  refine operation?_of_parts_of_data ho ?_ h ?_
  · cases op
    all_goals exact fun hc => absurd hc (by decide)
  · intro hgap h21 h20 hrn hrd hoperand
    unfold dataOperation?
    rw [if_neg hgap, h21, h20, hrn, hrd, hoperand]
    cases op
    all_goals rfl

theorem operation?_test {op : TestOp} {o : DataOperand} (ho : o.Fits)
    (h : w.extractLsb' 0 28 = (Operation.test op rn o).body) :
    operation? w = some (.test op rn o) := by
  refine operation?_of_parts_of_data ho (fun _ => rfl) h ?_
  intro hgap h21 h20 hrn hrd hoperand
  unfold dataOperation?
  rw [if_neg hgap, h21, h20, hrn, hoperand]
  cases op
  all_goals rfl

theorem operation?_move {op : MoveOp} {o : DataOperand} (ho : o.Fits)
    (h : w.extractLsb' 0 28 = (Operation.move op setFlags rd o).body) :
    operation? w = some (.move op setFlags rd o) := by
  refine operation?_of_parts_of_data ho ?_ h ?_
  · cases op
    all_goals exact fun hc => absurd hc (by decide)
  · intro hgap h21 h20 hrn hrd hoperand
    unfold dataOperation?
    rw [if_neg hgap, h21, h20, hrd, hoperand]
    cases op
    all_goals rfl

/-- A transfer of a word or byte is read back from its bits. -/
theorem operation?_single {offset : Operand} (ho : offset.FitsTransfer)
    (h : w.extractLsb' 0 28 = Layout.single load byte mode rd offset) :
    operation? w = some (if load then .load (if byte then .byte else .word) mode rd offset
      else .store (if byte then .byte else .word) mode rd offset) := by
  obtain ⟨hspace, h25, hmode, h22, h20, hrd, hfield⟩ := parts_of_single h
  have hshift : offset.isNumber = false → shiftedRegister w = offset ∧ bit w 4 = false := fun hn =>
    shiftedRegister_of_field (ho.isShift hn) hfield
  have hrefused : ¬(bit w 25 = true ∧ bit w 4 = true) := fun hr => by
    have hn : offset.isNumber = false := by simpa using h25.symm.trans hr.1
    exact absurd (hr.2.symm.trans (hshift hn).2) (by decide)
  have hoffset : (if bit w 25 then shiftedRegister w
      else .immediate ((w.extractLsb' 0 12).setWidth 32)) = offset := by
    rw [h25]
    cases offset with
    | immediate value =>
      have hvalue : value.toNat < 1 <<< 12 := ho
      rw [hfield, Operand.field, setWidth_extract_of_lt hvalue]
      rfl
    | rotated => exact ho.elim
    | shifted | throughCarry => exact (hshift rfl).1
  rw [operation?_of_transfer hspace, if_neg hrefused, singleTransfer, hoffset, h20, h22, hmode, hrd]

/-- A transfer of a halfword or signed value is told from the classes before it, and its offset is
read back. -/
theorem operation?_halfword {code : BitVec 2} {offset : Operand} (hcode : code ≠ 0b00#2)
    (ho : offset.FitsHalfwordTransfer)
    (h : w.extractLsb' 0 28 = Layout.halfword load code mode rd offset) :
    operation? w = halfwordTransfer? w
      ∧ (if bit w 22 then .immediate ((w.extractLsb' 8 4 ++ w.extractLsb' 0 4).setWidth 32)
        else .plain (register w 0)) = offset := by
  obtain ⟨h25, -, h22, -, -, h8, h7, h5, h4, h0⟩ := parts_of_halfword h
  have hspace : w.extractLsb' 26 2 = 0b00#2 := part_of_field h25 1 2 (by decide)
  have hgap : InGap w := ⟨h25, h7, h4⟩
  -- Products and exchanges are where the code of a transfer would be zero.
  have hproduct : w.extractLsb' 4 4 ≠ 0b1001#4 := fun hp =>
    hcode (h5.symm.trans (part_of_field hp 1 2 (by decide)))
  have hmultiply : ¬IsMultiply w := fun hm => hproduct hm.2
  have hlong : ¬IsMultiplyLong w := fun hm => hproduct hm.2
  have hswap : ¬IsSwap w := fun hm => hproduct (part_of_field hm.2.2 0 4 (by decide))
  constructor
  · rw [operation?_of_data hspace, if_pos hgap, extension?, if_neg hmultiply, if_neg hlong,
      if_neg hswap]
  · rw [h22, h8, h0]
    cases offset with
    | immediate value =>
      have hvalue : value.toNat < 1 <<< 8 := ho
      have happend : (value.extractLsb' 0 12).extractLsb' 4 4
          ++ (value.extractLsb' 0 12).extractLsb' 0 4 = value.extractLsb' 0 8 :=
        (BitVec.extractLsb'_append_extractLsb'_eq_extractLsb' rfl).trans
          (BitVec.extractLsb'_extractLsb'_of_le (by decide))
      rw [Operand.field, happend, setWidth_extract_of_lt hvalue]
      rfl
    | rotated | throughCarry => exact ho.elim
    | shifted n kind distance =>
      obtain ⟨rfl, rfl⟩ := ho
      have hn : w.extractLsb' 0 4 = BitVec.ofFin n :=
        h0.trans (by simp [Operand.field, shiftField, BitVec.extractLsb'_or])
      rw [register_of_field hn]
      rfl

theorem operation?_load {kind : LoadKind} {offset : Operand} (ho : kind.Fits offset)
    (h : w.extractLsb' 0 28 = (Operation.load kind mode rd offset).body) :
    operation? w = some (.load kind mode rd offset) := by
  cases kind with
  | word | byte => exact operation?_single ho h
  | half | signedByte | signedHalf =>
    obtain ⟨-, hmode, -, h20, hrd, -, -, h5, -, -⟩ := parts_of_halfword h
    obtain ⟨hop, hoffset⟩ := operation?_halfword (by decide) ho h
    rw [hop]
    unfold halfwordTransfer?
    rw [hoffset, hmode, h20, hrd, h5]
    rfl

theorem operation?_store {kind : StoreKind} {offset : Operand} (ho : kind.Fits offset)
    (h : w.extractLsb' 0 28 = (Operation.store kind mode rd offset).body) :
    operation? w = some (.store kind mode rd offset) := by
  cases kind with
  | word | byte => exact operation?_single ho h
  | half =>
    obtain ⟨-, hmode, -, h20, hrd, -, -, h5, -, -⟩ := parts_of_halfword h
    obtain ⟨hop, hoffset⟩ := operation?_halfword (by decide) ho h
    rw [hop]
    unfold halfwordTransfer?
    rw [hoffset, hmode, h20, hrd, h5]
    rfl

/-- A transfer of a register list is read back from its bits. -/
theorem operation?_block {list : Half} (hbase : mode.base ≠ .pc)
    (h : w.extractLsb' 0 28 = Layout.block load user mode list) :
    operation? w = some (if load then .loadMultiple mode list user
      else .storeMultiple mode list user) := by
  obtain ⟨hspace, h25, hmode, h22, h20, hlist⟩ := parts_of_block h
  have hbase' : register w 16 ≠ .pc := by
    rwa [← hmode] at hbase
  rw [operation?_of_block hspace, h25, if_neg Bool.false_ne_true, blockTransfer?, if_neg hbase',
    hmode, h22, h20, hlist]
  cases load
  all_goals rfl

/-- A branch is read back from its bits, with the sign of its offset. -/
theorem operation?_branch {link : Bool} {offset : Word} (ho : IsBranchOffset offset)
    (h : w.extractLsb' 0 28 = Layout.branch link offset) :
    operation? w = some (if link then .branchLink offset else .branch offset) := by
  obtain ⟨hspace, h25, h24, hfield⟩ := parts_of_branch h
  have hoffset : (w.extractLsb' 0 24 ++ 0b00#2).signExtend 32 = offset := by
    obtain ⟨k, rfl⟩ := ho
    rw [hfield, extract_signExtend_mul_four, signExtend_append_zeros]
  rw [operation?_of_block hspace, h25, if_pos rfl, branch, hoffset, h24]

/-- A product is read back from its bits, with its addend or without. -/
theorem operation?_multiply {addend : Option Register}
    (h : w.extractLsb' 0 28 = Layout.multiply setFlags rd rs rm addend) :
    operation? w = some (.multiply setFlags rd rs rm addend) := by
  obtain ⟨his, hspace, h21, h20, hrd, hrn, hrs, hrm⟩ := parts_of_multiply h
  rw [operation?_of_data hspace, if_pos his.inGap, extension?, if_pos his, multiply, h21, h20, hrd,
    hrn, hrs, hrm]
  cases addend
  all_goals rfl

theorem operation?_multiplyLong {signed accumulate : Bool} {high low : Register}
    (h : w.extractLsb' 0 28 =
      Layout.multiplyLong signed accumulate setFlags high low rs rm) :
    operation? w = some (.multiplyLong signed accumulate setFlags high low rs rm) := by
  obtain ⟨his, hspace, h22, h21, h20, hhigh, hlow, hrs, hrm⟩ := parts_of_multiplyLong h
  have hmultiply : ¬IsMultiply w := fun hm =>
    absurd ((part_of_field hm.1 1 5 (by decide)).symm.trans his.1) (by decide)
  rw [operation?_of_data hspace, if_pos his.inGap, extension?, if_neg hmultiply, if_pos his,
    multiplyLong, h22, h21, h20, hhigh, hlow, hrs, hrm]

theorem operation?_swap {base : Register}
    (h : w.extractLsb' 0 28 = Layout.swap byte base rd rm) :
    operation? w = some (.swap byte base rd rm) := by
  obtain ⟨his, hspace, h22, hbase, hrd, hrm⟩ := parts_of_swap h
  have hmultiply : ¬IsMultiply w := fun hm =>
    absurd ((part_of_field hm.1 1 5 (by decide)).symm.trans his.1) (by decide)
  have hlong : ¬IsMultiplyLong w := fun hm =>
    absurd (hm.1.symm.trans his.1) (by decide)
  rw [operation?_of_data hspace, if_pos his.inGap, extension?, if_neg hmultiply, if_neg hlong,
    if_pos his, h22, hbase, hrd, hrm]

theorem operation?_branchExchange {target : Register}
    (h : w.extractLsb' 0 28 = (Operation.branchExchange target).body) :
    operation? w = some (.branchExchange target) := by
  have his : IsBranchExchange w := part_of_low h (by decide)
    (by simp [Operation.body, BitVec.extractLsb'_or])
  have hrm : register w 0 = target := register_of_low h (by decide)
    (by simp [Operation.body, BitVec.extractLsb'_or])
  have hspace : w.extractLsb' 26 2 = 0b00#2 := part_of_field his 22 2 (by decide)
  have hgap : ¬InGap w := fun hg =>
    absurd (hg.2.1.symm.trans (bit_of_field his 3 (by decide))) (by decide)
  rw [operation?_of_data hspace, if_neg hgap, if_pos his.isSilentComparison, status?, if_pos his,
    hrm]

/-- A read status is told from the comparisons whose space it shares. -/
theorem operation?_readStatus {saved : Bool}
    (h : w.extractLsb' 0 28 = Layout.readStatus saved rd) :
    operation? w = some (.readStatus saved rd) := by
  obtain ⟨his, hspace, h4, h22, hrd⟩ := parts_of_readStatus h
  have hgap : ¬InGap w := fun hg => absurd (hg.2.2.symm.trans h4) (by decide)
  have hexchange : ¬IsBranchExchange w := fun hm =>
    absurd (h4.symm.trans (bit_of_field hm 0 (by decide))) (by decide)
  rw [operation?_of_data hspace, if_neg hgap, if_pos his.isSilentComparison, status?,
    if_neg hexchange, if_pos his, h22, hrd]

theorem operation?_of_parts_of_writeStatus (his : IsWriteStatus w)
    (hplain : bit w 25 = false → bit w 4 = false) : operation? w = writeStatus? w := by
  -- A jump to a register differs in bit 4 only, which the data of a write would have to set.
  have hgap : ¬InGap w := fun hg =>
    absurd (hg.2.2.symm.trans (hplain (space_eq_iff.mp hg.1).2)) (by decide)
  have hexchange : ¬IsBranchExchange w := fun hm =>
    have h4 : bit w 4 = true := bit_of_field hm 0 (by decide)
    absurd ((hplain (bit_of_field hm 21 (by decide))).symm.trans h4) (by decide)
  have hread : ¬IsReadStatus w := fun hm =>
    absurd ((part_of_field hm.2.1 4 2 (by decide)).symm.trans his.2.2.1) (by decide)
  rw [operation?_of_data his.1, if_neg hgap, if_pos his.isSilentComparison, status?,
    if_neg hexchange, if_neg hread, if_pos his]

/-- The four bits of a mask tell the mask. -/
theorem statusMask_of_bits {mask : Word} (hmask : IsStatusMask mask)
    (h19 : bit w 19 = mask.getLsbD 24) (h18 : bit w 18 = mask.getLsbD 16)
    (h17 : bit w 17 = mask.getLsbD 8) (h16 : bit w 16 = mask.getLsbD 0) : statusMask w = mask := by
  have hlanes : ∀ l₀ l₁ l₂ l₃, Word.ofLanes ((Word.ofLanes l₀ l₁ l₂ l₃).getLsbD 0)
      ((Word.ofLanes l₀ l₁ l₂ l₃).getLsbD 8) ((Word.ofLanes l₀ l₁ l₂ l₃).getLsbD 16)
      ((Word.ofLanes l₀ l₁ l₂ l₃).getLsbD 24) = Word.ofLanes l₀ l₁ l₂ l₃ := by decide
  obtain ⟨l₀, l₁, l₂, l₃, rfl⟩ := hmask
  rw [statusMask, h16, h17, h18, h19, hlanes]

/-- A written status is told from the comparisons whose space it shares. -/
theorem operation?_writeStatus {saved : Bool} {mask : Word} {data : Operand}
    (hmask : IsStatusMask mask) (hdata : data.FitsStatus)
    (h : w.extractLsb' 0 28 = (Operation.writeStatus saved mask data).body) :
    operation? w = some (.writeStatus saved mask data) := by
  cases data with
  | immediate value =>
    obtain ⟨his, h25, h22, h19, h18, h17, h16, hfield⟩ := parts_of_writeStatus h
    rw [operation?_of_parts_of_writeStatus his fun h0 => absurd (h25.symm.trans h0) (by decide),
      writeStatus?, h25, if_pos rfl, h22, statusMask_of_bits hmask h19 h18 h17 h16,
      (rotatedByte_of_field hdata hfield).1]
  | rotated | throughCarry => exact hdata.elim
  | shifted n kind distance =>
    obtain ⟨rfl, rfl⟩ := hdata
    obtain ⟨his, h25, h22, h19, h18, h17, h16, hfield⟩ := parts_of_writeStatus h
    have hplain : w.extractLsb' 0 12 = registerAt 0 n :=
      hfield.trans (by simp [Operand.field, shiftField, ShiftKind.code, place])
    have hn : register w 0 = n := register_of_low hplain (by decide) (by simp)
    have hzero : w.extractLsb' 4 8 = 0#8 := part_of_low hplain (by decide) (by simp)
    have h4 : bit w 4 = false := bit_of_field hzero 0 (by decide)
    rw [operation?_of_parts_of_writeStatus his fun _ => h4, writeStatus?, h25,
      if_neg Bool.false_ne_true, if_pos hzero, h22, statusMask_of_bits hmask h19 h18 h17 h16, hn]

/-- **A well-formed operation is read back from its word.** -/
theorem operation?_of_body (hop : op.WellFormed) (h : w.extractLsb' 0 28 = op.body) :
    operation? w = some op := by
  cases op with
  | softwareInterrupt comment =>
    have hspace : w.extractLsb' 26 2 = 0b11#2 := part_of_low h (by decide)
      (by simp [Operation.body, BitVec.extractLsb'_or])
    have h24 : w.extractLsb' 24 4 = 0b1111#4 := part_of_low h (by decide)
      (by simp [Operation.body, BitVec.extractLsb'_or])
    have hcomment : w.extractLsb' 0 24 = comment := part_of_low h (by decide)
      (by simp [Operation.body, BitVec.extractLsb'_or])
    rw [operation?_of_call hspace, if_pos h24, hcomment]
  | coprocessor number =>
    have hspace : w.extractLsb' 26 2 = 0b11#2 := part_of_low h (by decide)
      (by simp [Operation.body, BitVec.extractLsb'_or])
    have h24 : w.extractLsb' 24 4 = 0b1110#4 := part_of_low h (by decide)
      (by simp [Operation.body, BitVec.extractLsb'_or])
    have hnumber : w.extractLsb' 8 4 = number := part_of_low h (by decide)
      (by simp [Operation.body, BitVec.extractLsb'_or])
    rw [operation?_of_call hspace, if_neg (by rw [h24]; decide), hnumber]
  | branch | branchLink => exact operation?_branch hop h
  | branchExchange => exact operation?_branchExchange h
  | swap => exact operation?_swap h
  | load => exact operation?_load hop h
  | store => exact operation?_store hop h
  | loadMultiple | storeMultiple => exact operation?_block hop h
  | binary => exact operation?_binary hop h
  | test => exact operation?_test hop h
  | move => exact operation?_move hop h
  | multiply => exact operation?_multiply h
  | multiplyLong => exact operation?_multiplyLong h
  | writeStatus => exact operation?_writeStatus hop.1 hop.2 h
  | readStatus => exact operation?_readStatus h
  | branchNarrow | linkHigh | linkLow | loadFromPc | addToPc => exact (hop trivial).elim

/-! ## The condition -/

/-- The four bits of the condition play no part in the choice of the operation. -/
theorem operation?_congr {v : Word} (h : v.extractLsb' 0 28 = w.extractLsb' 0 28) :
    operation? v = operation? w := by
  -- Every field that the list of patterns looks at lies below the condition.
  have hfield : ∀ s m, s + m ≤ 28 → v.extractLsb' s m = w.extractLsb' s m := fun s m hm =>
    part_of_low h hm (BitVec.extractLsb'_extractLsb'_of_le hm)
  have hbit : ∀ i, i < 28 → v.getLsbD i = w.getLsbD i := fun i hi => bit_of_low h hi (by
    rw [BitVec.getLsbD_extractLsb', decide_eq_true hi, Bool.true_and, Nat.zero_add])
  have hregister : ∀ s, s + 4 ≤ 28 → register v s = register w s := fun s hs => by
    rw [register, hfield s 4 hs, register]
  have hmode : addressing v = addressing w := by
    simp (disch := decide) only [addressing, hbit, hregister]
  have hshift : shiftedRegister v = shiftedRegister w := by
    simp (disch := decide) only [shiftedRegister, hfield, hregister]
  have hrotated : rotatedByte v = rotatedByte w := by
    simp (disch := decide) only [rotatedByte, hfield]
  have hoperand : dataOperand v = dataOperand w := by
    simp (disch := decide) only [dataOperand, hshift, hrotated, hfield, hregister, hbit]
  have hdata : dataOperation? v = dataOperation? w := by
    simp (disch := decide) only [dataOperation?, hoperand, hfield, hregister, hbit]
  have hhalf : halfwordTransfer? v = halfwordTransfer? w := by
    simp (disch := decide) only [halfwordTransfer?, hmode, hfield, hregister, hbit]
  have hwrite : writeStatus? v = writeStatus? w := by
    simp (disch := decide) only [writeStatus?, statusMask, hrotated, hfield, hregister, hbit]
  have hsingle : singleTransfer v = singleTransfer w := by
    simp (disch := decide) only [singleTransfer, hmode, hshift, hfield, hregister, hbit]
  have hblock : blockTransfer? v = blockTransfer? w := by
    simp (disch := decide) only [blockTransfer?, hmode, hfield, hregister, hbit]
  simp only [operation?, branch, multiply, multiplyLong, hdata, hhalf, hwrite, hsingle, hblock,
    hregister, hfield, hbit, Nat.reduceAdd, Nat.reduceLeDiff, Nat.reduceLT]

end Wide

/-! ## Words and instructions -/

/-- Decoding succeeds with the operation of the lower bits and the condition of the upper ones. -/
theorem decode_wide_eq_ok_iff {w : Word} {i : Instruction} : decode false w = .ok i ↔
    Wide.operation? w = some i.operation ∧ Condition.ofCode (w.extractLsb' 28 4) = i.condition := by
  rw [decode_eq_ok_iff]
  change (Wide.operation? w).map _ = some i ↔ _
  rw [Option.map_eq_some_iff]
  constructor
  · rintro ⟨op, hop, rfl⟩
    exact ⟨hop, rfl⟩
  · rintro ⟨hop, hcondition⟩
    exact ⟨i.operation, hop, by rw [hcondition]⟩

/-- **Assembling and decoding leads back**, for every well-formed instruction. -/
theorem decode_assemble {i : Instruction} (h : i.operation.WellFormed) :
    decode false i.assemble = .ok i := by
  have hcondition : i.assemble.extractLsb' 28 4 = i.condition.code := by
    simp [Instruction.assemble, BitVec.extractLsb'_or]
  have hbody : i.assemble.extractLsb' 0 28 = i.operation.body := by
    simp [Instruction.assemble, BitVec.extractLsb'_or]
  rw [decode_wide_eq_ok_iff, hcondition, Condition.ofCode_code]
  exact ⟨Wide.operation?_of_body h hbody, rfl⟩

/-- **Wide words encode exactly the well-formed instructions**, with any condition: what a word
decodes to is well-formed, the word of a well-formed instruction decodes to it, and other bits in
the place of the condition change nothing else. -/
theorem decode_wide_image (i : Instruction) :
    ((∃ w, decode false w = .ok i) ↔ i.operation.WellFormed)
      ∧ (i.operation.WellFormed → decode false i.assemble = .ok i)
      ∧ ∀ v w : Word, v.extractLsb' 0 28 = w.extractLsb' 0 28 → decode false w = .ok i →
        decode false v = .ok { i with condition := .ofCode (v.extractLsb' 28 4) } := by
  refine ⟨⟨?_, fun h => ⟨i.assemble, decode_assemble h⟩⟩, decode_assemble, ?_⟩
  · rintro ⟨w, hw⟩
    exact Wide.wellFormed_of_operation? (decode_wide_eq_ok_iff.mp hw).1
  · intro v w h hw
    rw [decode_wide_eq_ok_iff, Wide.operation?_congr h]
    exact ⟨(decode_wide_eq_ok_iff.mp hw).1, rfl⟩

/-- An addition of a shifted register, and the same with another condition. -/
theorem decode_wide_image_add :
    decode false 0x10921023#32
        = .ok ⟨.ne, .binary .add true .r1 .r2 (.fixed (.shifted .r3 .lsr 32))⟩
      ∧ decode false 0xE0921023#32
        = .ok ⟨.al, .binary .add true .r1 .r2 (.fixed (.shifted .r3 .lsr 32))⟩ := by
  have hword : (⟨.ne, .binary .add true .r1 .r2 (.fixed (.shifted .r3 .lsr 32))⟩ :
      Instruction).assemble = 0x10921023#32 := by decide
  have hfits : ShiftKind.lsr.Fits 32 := ⟨by decide, by decide⟩
  have h := (decode_wide_image ⟨.ne, .binary .add true .r1 .r2
    (.fixed (.shifted .r3 .lsr 32))⟩).2.1 hfits
  rw [hword] at h
  exact ⟨h, (decode_wide_image _).2.2 0xE0921023#32 0x10921023#32 (by decide) h⟩

end Handheld
