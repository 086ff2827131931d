import Handheld.Encoding.Wide
import Handheld.Proofs.Checked.Arithmetic

/-!
# Proofs/Checked/Wide — instructions of 32 bits decoded with every operation checked

A decoder shifts a word to each of its fields, looks at single bits, and takes four bits for the
number of a register.  Decoding goes well for every word, so the numbers of all registers in an
instruction are below sixteen.
-/

namespace Handheld.Wide

open Checked

variable (w : Word)

/-! ## Fields -/

/-- The register named by the four bits from `start`. -/
def checkedRegister (start : Nat) : Checked Register := registerField w start 0xF#32

/-- The eight low bits, rotated right by twice the four bits above them. -/
def checkedRotatedByte : Checked Word := do
  let half ← field w 8 4
  return ((w.extractLsb' 0 8).setWidth 32).rotateRight (2 * half.toNat)

/-- The register in the low bits, shifted by a distance given in five bits. -/
def checkedShiftedRegister : Checked Operand := do
  let n ← checkedRegister w 0
  let bits ← field w 7 5
  let code ← field w 5 2
  let distance := bits.toNat
  return match ShiftKind.ofCode code with
    | .lsl => .shifted n .lsl distance
    | .lsr => .shifted n .lsr (if distance = 0 then 32 else distance)
    | .asr => .shifted n .asr (if distance = 0 then 32 else distance)
    | .ror => if distance = 0 then .throughCarry n else .shifted n .ror distance

/-- The second operand of a data operation. -/
def checkedDataOperand : Checked DataOperand := do
  if ← testBit w 25 then
    let half ← field w 8 4
    if half = 0#4 then return .immediate ((w.extractLsb' 0 8).setWidth 32)
    else
      let v ← checkedRotatedByte w
      return .fixed (.rotated v)
  else if ← testBit w 4 then
    let n ← checkedRegister w 0
    let code ← field w 5 2
    let distance ← checkedRegister w 8
    return .byRegister n (ShiftKind.ofCode code) distance
  else
    let o ← checkedShiftedRegister w
    return .fixed o

/-- The addressing of a transfer. -/
def checkedAddressing : Checked Addressing := do
  let base ← checkedRegister w 16
  let up ← testBit w 23
  let early ← testBit w 24
  let writeBack ← testBit w 21
  return { base, up, early, writeBack }

/-- The bits of a status word that the four field bits select. -/
def checkedStatusMask : Checked Word := do
  let b₀ ← testBit w 16
  let b₁ ← testBit w 17
  let b₂ ← testBit w 18
  let b₃ ← testBit w 19
  return Word.ofLanes b₀ b₁ b₂ b₃

/-- The low `width` bits of a word, extended with their sign by shifts. -/
def checkedSignExtend (v width : Word) : Checked Word := do
  let distance ← sub 32#32 width
  let up ← shiftLeft v distance.toNat
  signedShiftRight up distance.toNat

variable {w}

/-- Four bits give the number of a register, wherever they start. -/
theorem checkedRegister_eq_ok {start : Nat} (h : start < 32) :
    checkedRegister w start = .ok (register w start) := by
  rw [checkedRegister, registerField_eq_ok h (l := 4) (by decide) (by decide), register,
    BitVec.setWidth_eq]

variable (w)

/-- Twice four bits are a distance of 30 at most. -/
@[simp] theorem checkedRotatedByte_eq_ok : checkedRotatedByte w = .ok (rotatedByte w) := by
  rw [checkedRotatedByte, field_eq_ok (by decide), ok_bind, pure_eq_ok, rotatedByte]

/-- Five bits give a distance, and two more the kind of the shift. -/
@[simp] theorem checkedShiftedRegister_eq_ok :
    checkedShiftedRegister w = .ok (shiftedRegister w) := by
  rw [checkedShiftedRegister, checkedRegister_eq_ok (by decide), ok_bind, field_eq_ok (by decide),
    ok_bind, field_eq_ok (by decide), ok_bind, pure_eq_ok]
  rfl

/-- The second operand of a data operation is found in its three forms. -/
@[simp] theorem checkedDataOperand_eq_ok : checkedDataOperand w = .ok (dataOperand w) := by
  simp (disch := decide) only [checkedDataOperand, dataOperand, bit, testBit_eq_ok, field_eq_ok,
    checkedRegister_eq_ok, checkedRotatedByte_eq_ok, checkedShiftedRegister_eq_ok, ok_bind,
    pure_eq_ok]
  split
  · split <;> rfl
  · split <;> rfl

/-- The way of addressing a transfer is told by three bits and a register. -/
@[simp] theorem checkedAddressing_eq_ok : checkedAddressing w = .ok (addressing w) := by
  rw [checkedAddressing, checkedRegister_eq_ok (by decide), ok_bind, testBit_eq_ok (by decide),
    ok_bind, testBit_eq_ok (by decide), ok_bind, testBit_eq_ok (by decide), ok_bind, pure_eq_ok]
  rfl

/-- Each of the four bits for the parts of a status selects eight bits. -/
@[simp] theorem checkedStatusMask_eq_ok : checkedStatusMask w = .ok (statusMask w) := by
  rw [checkedStatusMask, testBit_eq_ok (by decide), ok_bind, testBit_eq_ok (by decide), ok_bind,
    testBit_eq_ok (by decide), ok_bind, testBit_eq_ok (by decide), ok_bind, pure_eq_ok]
  rfl

/-! ## Operations -/

/-- A jump or a call. -/
def checkedBranch : Checked Operation := do
  let places ← checkedSignExtend (w &&& 0xFFFFFF#32) 24#32
  let offset ← shiftLeft places 2
  if ← testBit w 24 then return .branchLink offset else return .branch offset

/-- A product of one word. -/
def checkedMultiply : Checked Operation := do
  let setFlags ← testBit w 20
  let rd ← checkedRegister w 16
  let rn ← checkedRegister w 12
  let rs ← checkedRegister w 8
  let rm ← checkedRegister w 0
  let adds ← testBit w 21
  return .multiply setFlags rd rs rm (if adds then some rn else none)

/-- A product of two words. -/
def checkedMultiplyLong : Checked Operation := do
  let setFlags ← testBit w 20
  let high ← checkedRegister w 16
  let low ← checkedRegister w 12
  let rs ← checkedRegister w 8
  let rm ← checkedRegister w 0
  let signed ← testBit w 22
  let accumulate ← testBit w 21
  return .multiplyLong signed accumulate setFlags high low rs rm

/-- An exchange with memory. -/
def checkedSwap : Checked Operation := do
  let base ← checkedRegister w 16
  let rd ← checkedRegister w 12
  let rm ← checkedRegister w 0
  let byte ← testBit w 22
  return .swap byte base rd rm

/-- A jump to a register. -/
def checkedBranchExchange : Checked Operation := do
  let target ← checkedRegister w 0
  return .branchExchange target

/-- A transfer of a halfword, or a signed load. -/
def checkedHalfwordTransfer? : Checked (Option Operation) := do
  let rd ← checkedRegister w 12
  let n ← checkedRegister w 0
  let high ← field w 8 4
  let immediate ← testBit w 22
  let mode ← checkedAddressing w
  let load ← testBit w 20
  let code ← field w 5 2
  let offset : Operand :=
    if immediate then .immediate ((high ++ w.extractLsb' 0 4).setWidth 32) else .plain n
  return match load, code with
    | true, 0b01#2 => some (.load .half mode rd offset)
    | true, 0b10#2 => some (.load .signedByte mode rd offset)
    | true, 0b11#2 => some (.load .signedHalf mode rd offset)
    | false, 0b01#2 => some (.store .half mode rd offset)
    | _, _ => none

/-- A read of a status word. -/
def checkedReadStatus : Checked Operation := do
  let rd ← checkedRegister w 12
  let saved ← testBit w 22
  return .readStatus saved rd

/-- A write to a status word. -/
def checkedWriteStatus? : Checked (Option Operation) := do
  let saved ← testBit w 22
  let mask ← checkedStatusMask w
  if ← testBit w 25 then
    let v ← checkedRotatedByte w
    return some (.writeStatus saved mask (.immediate v))
  else
    let n ← checkedRegister w 0
    if w.extractLsb' 4 8 = 0#8 then return some (.writeStatus saved mask (.plain n))
    else return none

/-- A data operation. -/
def checkedDataOperation? : Checked (Option Operation) := do
  let immediate ← testBit w 25
  let byRegister ← testBit w 4
  let gap ← testBit w 7
  let setFlags ← testBit w 20
  let rn ← checkedRegister w 16
  let rd ← checkedRegister w 12
  let operand ← checkedDataOperand w
  let code ← field w 21 4
  if !immediate && byRegister && gap then return none
  else
    let binary (op : BinaryOp) : Option Operation := some (.binary op setFlags rd rn operand)
    let test (op : TestOp) : Option Operation :=
      if setFlags then some (.test op rn operand) else none
    let move (op : MoveOp) : Option Operation := some (.move op setFlags rd operand)
    return match code with
      | 0x0#4 => binary .and
      | 0x1#4 => binary .eor
      | 0x2#4 => binary .sub
      | 0x3#4 => binary .rsb
      | 0x4#4 => binary .add
      | 0x5#4 => binary .adc
      | 0x6#4 => binary .sbc
      | 0x7#4 => binary .rsc
      | 0x8#4 => test .tst
      | 0x9#4 => test .teq
      | 0xA#4 => test .cmp
      | 0xB#4 => test .cmn
      | 0xC#4 => binary .orr
      | 0xD#4 => move .mov
      | 0xE#4 => binary .bic
      | _ => move .mvn

/-- A transfer of a word or an unsigned byte. -/
def checkedSingleTransfer : Checked Operation := do
  let rd ← checkedRegister w 12
  let shifted ← checkedShiftedRegister w
  let byRegister ← testBit w 25
  let mode ← checkedAddressing w
  let load ← testBit w 20
  let byte ← testBit w 22
  let offset : Operand :=
    if byRegister then shifted else .immediate ((w.extractLsb' 0 12).setWidth 32)
  return if load then .load (if byte then .byte else .word) mode rd offset
    else .store (if byte then .byte else .word) mode rd offset

/-- A transfer of a register list. -/
def checkedBlockTransfer? : Checked (Option Operation) := do
  let mode ← checkedAddressing w
  let load ← testBit w 20
  let user ← testBit w 22
  return if mode.base = .pc then none
    else if load then some (.loadMultiple mode (w.extractLsb' 0 16) user)
    else some (.storeMultiple mode (w.extractLsb' 0 16) user)

/-- A coprocessor operation. -/
def checkedCoprocessor : Checked Operation := do
  let number ← field w 8 4
  return .coprocessor number

/-- The operation that a word encodes, whatever its condition. -/
def checkedOperation? : Checked (Option Operation) :=
  if w.extractLsb' 24 4 = 0b1111#4 then return some (.softwareInterrupt (w.extractLsb' 0 24))
  else if w.extractLsb' 25 3 = 0b101#3 then (checkedBranch w).map some
  else if w.extractLsb' 22 6 = 0b000000#6 ∧ w.extractLsb' 4 4 = 0b1001#4 then
    (checkedMultiply w).map some
  else if w.extractLsb' 23 5 = 0b00001#5 ∧ w.extractLsb' 4 4 = 0b1001#4 then
    (checkedMultiplyLong w).map some
  else if w.extractLsb' 23 5 = 0b00010#5 ∧ w.extractLsb' 20 2 = 0b00#2 ∧
      w.extractLsb' 4 8 = 0b00001001#8 then
    (checkedSwap w).map some
  else if w.extractLsb' 4 24 = 0x12FFF1#24 then (checkedBranchExchange w).map some
  else if w.extractLsb' 25 3 = 0b000#3 ∧ bit w 7 = true ∧ bit w 4 = true then
    checkedHalfwordTransfer? w
  else if w.extractLsb' 23 5 = 0b00010#5 ∧ w.extractLsb' 16 6 = 0b001111#6 ∧
      w.extractLsb' 0 12 = 0#12 then
    (checkedReadStatus w).map some
  else if w.extractLsb' 26 2 = 0b00#2 ∧ w.extractLsb' 23 2 = 0b10#2 ∧
      w.extractLsb' 20 2 = 0b10#2 ∧ w.extractLsb' 12 4 = 0b1111#4 then
    checkedWriteStatus? w
  else if w.extractLsb' 26 2 = 0b00#2 then checkedDataOperation? w
  else if w.extractLsb' 25 3 = 0b011#3 ∧ bit w 4 = true then return none
  else if w.extractLsb' 26 2 = 0b01#2 then (checkedSingleTransfer w).map some
  else if w.extractLsb' 25 3 = 0b100#3 then checkedBlockTransfer? w
  else (checkedCoprocessor w).map some

/-- The instruction that a word encodes, if it encodes one. -/
def checkedDecode? : Checked (Option Instruction) := do
  let condition ← field w 28 4
  let operation? ← checkedOperation? w
  return operation?.map (Instruction.mk (Condition.ofCode condition))

/-! ## Nothing goes wrong -/

/-- A field as wide as a word at most is shifted to the top and back. -/
theorem checkedSignExtend_eq_ok {v width : Word} (h : 0 < width.toNat ∧ width.toNat ≤ 32) :
    checkedSignExtend v width
      = .ok ((v <<< (32 - width.toNat)).sshiftRight (32 - width.toNat)) := by
  have hd : (32#32 - width).toNat = 32 - width.toNat := BitVec.toNat_sub_of_le h.2
  rw [checkedSignExtend, sub_eq_ok h.2, ok_bind, hd, shiftLeft_eq_ok (by omega), ok_bind,
    signedShiftRight_eq_ok (by omega)]

/-- The offset of a jump by shifts. -/
theorem signed_offset :
    ((w &&& 0xFFFFFF#32) <<< 8).sshiftRight 8 <<< 2
      = (w.extractLsb' 0 24 ++ 0b00#2).signExtend 32 := by
  refine BitVec.eq_of_getLsbD_eq fun i hi => ?_
  have hmask : ∀ j, (0xFFFFFF#32).getLsbD j = decide (j < 24) := by
    intro j
    rw [show 0xFFFFFF#32 = (BitVec.allOnes 24).setWidth 32 from rfl, BitVec.getLsbD_setWidth,
      BitVec.getLsbD_allOnes]
    grind
  simp only [BitVec.getLsbD_shiftLeft, BitVec.getLsbD_sshiftRight, BitVec.getLsbD_and, hmask,
    BitVec.getLsbD_signExtend, BitVec.getLsbD_append, BitVec.getLsbD_extractLsb',
    BitVec.msb_eq_getLsbD_last]
  grind

/-- The offset of a branch is extended with its sign and counted in words. -/
@[simp] theorem checkedBranch_eq_ok : checkedBranch w = .ok (branch w) := by
  simp (disch := decide) only [checkedBranch, checkedSignExtend_eq_ok, shiftLeft_eq_ok,
    testBit_eq_ok, ok_bind, pure_eq_ok, branch, ← signed_offset]
  split <;> rfl

@[simp] theorem checkedMultiply_eq_ok : checkedMultiply w = .ok (multiply w) := by
  simp (disch := decide) only [checkedMultiply, testBit_eq_ok, checkedRegister_eq_ok, ok_bind,
    pure_eq_ok]
  rfl

@[simp] theorem checkedMultiplyLong_eq_ok : checkedMultiplyLong w = .ok (multiplyLong w) := by
  simp (disch := decide) only [checkedMultiplyLong, testBit_eq_ok, checkedRegister_eq_ok, ok_bind,
    pure_eq_ok]
  rfl

@[simp] theorem checkedSwap_eq_ok :
    checkedSwap w
      = .ok (.swap (bit w 22) (register w 16) (register w 12) (register w 0)) := by
  simp (disch := decide) only [checkedSwap, testBit_eq_ok, checkedRegister_eq_ok, ok_bind,
    pure_eq_ok]

@[simp] theorem checkedBranchExchange_eq_ok :
    checkedBranchExchange w = .ok (.branchExchange (register w 0)) := by
  rw [checkedBranchExchange, checkedRegister_eq_ok (by decide), ok_bind, pure_eq_ok]

/-- The two halves of a short offset are put together. -/
@[simp] theorem checkedHalfwordTransfer?_eq_ok :
    checkedHalfwordTransfer? w = .ok (halfwordTransfer? w) := by
  simp (disch := decide) only [checkedHalfwordTransfer?, testBit_eq_ok, checkedRegister_eq_ok,
    field_eq_ok, checkedAddressing_eq_ok, ok_bind, pure_eq_ok]
  rfl

@[simp] theorem checkedReadStatus_eq_ok :
    checkedReadStatus w = .ok (.readStatus (bit w 22) (register w 12)) := by
  rw [checkedReadStatus, checkedRegister_eq_ok (by decide), ok_bind, testBit_eq_ok (by decide),
    ok_bind, pure_eq_ok]

/-- Transfers to a status are told from data operations without a result. -/
@[simp] theorem checkedWriteStatus?_eq_ok : checkedWriteStatus? w = .ok (writeStatus? w) := by
  simp (disch := decide) only [checkedWriteStatus?, testBit_eq_ok, checkedRegister_eq_ok,
    checkedStatusMask_eq_ok, checkedRotatedByte_eq_ok, ok_bind, pure_eq_ok, writeStatus?]
  split
  · rfl
  · split <;> rfl

/-- Four bits choose one of sixteen operations. -/
@[simp] theorem checkedDataOperation?_eq_ok : checkedDataOperation? w = .ok (dataOperation? w) := by
  simp (disch := decide) only [checkedDataOperation?, testBit_eq_ok, checkedRegister_eq_ok,
    field_eq_ok, checkedDataOperand_eq_ok, ok_bind, pure_eq_ok]
  exact (apply_ite Except.ok _ _ _).symm

@[simp] theorem checkedSingleTransfer_eq_ok : checkedSingleTransfer w = .ok (singleTransfer w) := by
  simp (disch := decide) only [checkedSingleTransfer, testBit_eq_ok, checkedRegister_eq_ok,
    checkedShiftedRegister_eq_ok, checkedAddressing_eq_ok, ok_bind, pure_eq_ok]
  rfl

@[simp] theorem checkedBlockTransfer?_eq_ok : checkedBlockTransfer? w = .ok (blockTransfer? w) := by
  simp (disch := decide) only [checkedBlockTransfer?, testBit_eq_ok, checkedAddressing_eq_ok,
    ok_bind, pure_eq_ok]
  rfl

@[simp] theorem checkedCoprocessor_eq_ok :
    checkedCoprocessor w = .ok (.coprocessor (w.extractLsb' 8 4)) := by
  rw [checkedCoprocessor, field_eq_ok (by decide), ok_bind, pure_eq_ok]

/-- **Every word decodes or is refused without going wrong**, class by class. -/
@[simp] theorem checkedOperation?_eq_ok : checkedOperation? w = .ok (operation? w) := by
  simp only [checkedOperation?, checkedBranch_eq_ok, checkedMultiply_eq_ok,
    checkedMultiplyLong_eq_ok, checkedSwap_eq_ok, checkedBranchExchange_eq_ok,
    checkedHalfwordTransfer?_eq_ok, checkedReadStatus_eq_ok, checkedWriteStatus?_eq_ok,
    checkedDataOperation?_eq_ok, checkedSingleTransfer_eq_ok, checkedBlockTransfer?_eq_ok,
    checkedCoprocessor_eq_ok, map_ok, pure_eq_ok, ← apply_ite Except.ok]
  rfl

/-- **No word makes the decoder go wrong.** -/
theorem checkedDecode?_eq_ok : checkedDecode? w = .ok (decode? w) := by
  rw [checkedDecode?, field_eq_ok (by decide), ok_bind, checkedOperation?_eq_ok, ok_bind,
    pure_eq_ok, decode?]

end Handheld.Wide
