import Handheld.Instruction.Basic

/-!
# Encoding/Wide — instructions of 32 bits

The top four bits are the condition.  Which operation the others encode is decided by a list of
patterns, of which the first that fits counts: multiplications, swaps and halfword transfers lie in
gaps of the data operations, and so do the accesses to the status words.
-/

namespace Handheld.Wide

/-! ## Fields -/

/-- One bit. -/
abbrev bit (w : Word) (i : Nat) : Bool := w.getLsbD i

/-- The register named by the four bits from `start`. -/
def register (w : Word) (start : Nat) : Register := (w.extractLsb' start 4).toFin

/-- The eight low bits, rotated right by twice the four bits above them. -/
def rotatedByte (w : Word) : Word :=
  ((w.extractLsb' 0 8).setWidth 32).rotateRight (2 * (w.extractLsb' 8 4).toNat)

/-- The register in the low bits, shifted by a distance given in five bits.  A right shift by zero
stands for one by the width, and a rotation by zero for one bit with the carry. -/
def shiftedRegister (w : Word) : Operand :=
  let n := register w 0
  let distance := (w.extractLsb' 7 5).toNat
  match ShiftKind.ofCode (w.extractLsb' 5 2) with
  | .lsl => .shifted n .lsl distance
  | .lsr => .shifted n .lsr (if distance = 0 then 32 else distance)
  | .asr => .shifted n .asr (if distance = 0 then 32 else distance)
  | .ror => if distance = 0 then .throughCarry n else .shifted n .ror distance

/-- The second operand of a data operation. -/
def dataOperand (w : Word) : DataOperand :=
  if bit w 25 then
    if w.extractLsb' 8 4 = 0#4 then .immediate ((w.extractLsb' 0 8).setWidth 32)
    else .fixed (.rotated (rotatedByte w))
  else if bit w 4 then
    .byRegister (register w 0) (ShiftKind.ofCode (w.extractLsb' 5 2)) (register w 8)
  else .fixed (shiftedRegister w)

/-- The addressing of a transfer. -/
def addressing (w : Word) : Addressing where
  base := register w 16
  up := bit w 23
  early := bit w 24
  writeBack := bit w 21

/-- The bits of a status word that the four field bits select. -/
def statusMask (w : Word) : Word :=
  Word.ofLanes (bit w 16) (bit w 17) (bit w 18) (bit w 19)

/-! ## Operations -/

/-- A jump or a call. -/
def branch (w : Word) : Operation :=
  let offset := (w.extractLsb' 0 24 ++ 0b00#2).signExtend 32
  if bit w 24 then .branchLink offset else .branch offset

/-- A product of one word. -/
def multiply (w : Word) : Operation :=
  .multiply (bit w 20) (register w 16) (register w 8) (register w 0)
    (if bit w 21 then some (register w 12) else none)

/-- A product of two words. -/
def multiplyLong (w : Word) : Operation :=
  .multiplyLong (bit w 22) (bit w 21) (bit w 20) (register w 16) (register w 12) (register w 8)
    (register w 0)

/-- A transfer of a halfword, or a signed load. -/
def halfwordTransfer? (w : Word) : Option Operation :=
  let offset : Operand :=
    if bit w 22 then .immediate ((w.extractLsb' 8 4 ++ w.extractLsb' 0 4).setWidth 32)
    else .plain (register w 0)
  match bit w 20, w.extractLsb' 5 2 with
  | true, 0b01#2 => some (.load .half (addressing w) (register w 12) offset)
  | true, 0b10#2 => some (.load .signedByte (addressing w) (register w 12) offset)
  | true, 0b11#2 => some (.load .signedHalf (addressing w) (register w 12) offset)
  | false, 0b01#2 => some (.store .half (addressing w) (register w 12) offset)
  | _, _ => none

/-- A write to a status word. -/
def writeStatus? (w : Word) : Option Operation :=
  if bit w 25 then some (.writeStatus (bit w 22) (statusMask w) (.immediate (rotatedByte w)))
  else if w.extractLsb' 4 8 = 0#8 then
    some (.writeStatus (bit w 22) (statusMask w) (.plain (register w 0)))
  else none

/-- A data operation.  Comparisons that set no flags do not exist. -/
def dataOperation? (w : Word) : Option Operation :=
  if !bit w 25 && bit w 4 && bit w 7 then none
  else
    let binary (op : BinaryOp) : Option Operation :=
      some (.binary op (bit w 20) (register w 12) (register w 16) (dataOperand w))
    let test (op : TestOp) : Option Operation :=
      if bit w 20 then some (.test op (register w 16) (dataOperand w)) else none
    let move (op : MoveOp) : Option Operation :=
      some (.move op (bit w 20) (register w 12) (dataOperand w))
    match w.extractLsb' 21 4 with
    | 0x0#4 => binary .and
    | 0x1#4 => binary .eor
    | 0x2#4 => binary .sub
    | 0x3#4 => binary .rsb
    | 0x4#4 => binary .add
    | 0x5#4 => binary .adc
    | 0x6#4 => binary .sbc
    | 0x7#4 => binary .rsc
    | 0x8#4 => test .tst
    | 0x9#4 => test .teq
    | 0xA#4 => test .cmp
    | 0xB#4 => test .cmn
    | 0xC#4 => binary .orr
    | 0xD#4 => move .mov
    | 0xE#4 => binary .bic
    | _ => move .mvn

/-- A transfer of a word or an unsigned byte. -/
def singleTransfer (w : Word) : Operation :=
  let offset : Operand :=
    if bit w 25 then shiftedRegister w else .immediate ((w.extractLsb' 0 12).setWidth 32)
  if bit w 20 then
    .load (if bit w 22 then .byte else .word) (addressing w) (register w 12) offset
  else .store (if bit w 22 then .byte else .word) (addressing w) (register w 12) offset

/-- A transfer of a register list, which cannot be based on the program counter. -/
def blockTransfer? (w : Word) : Option Operation :=
  if register w 16 = .pc then none
  else if bit w 20 then some (.loadMultiple (addressing w) (w.extractLsb' 0 16) (bit w 22))
  else some (.storeMultiple (addressing w) (w.extractLsb' 0 16) (bit w 22))

/-- The operation that a word encodes, whatever its condition. -/
def operation? (w : Word) : Option Operation :=
  if w.extractLsb' 24 4 = 0b1111#4 then some (.softwareInterrupt (w.extractLsb' 0 24))
  else if w.extractLsb' 25 3 = 0b101#3 then some (branch w)
  else if w.extractLsb' 22 6 = 0b000000#6 ∧ w.extractLsb' 4 4 = 0b1001#4 then some (multiply w)
  else if w.extractLsb' 23 5 = 0b00001#5 ∧ w.extractLsb' 4 4 = 0b1001#4 then some (multiplyLong w)
  else if w.extractLsb' 23 5 = 0b00010#5 ∧ w.extractLsb' 20 2 = 0b00#2 ∧
      w.extractLsb' 4 8 = 0b00001001#8 then
    some (.swap (bit w 22) (register w 16) (register w 12) (register w 0))
  else if w.extractLsb' 4 24 = 0x12FFF1#24 then some (.branchExchange (register w 0))
  else if w.extractLsb' 25 3 = 0b000#3 ∧ bit w 7 = true ∧ bit w 4 = true then halfwordTransfer? w
  else if w.extractLsb' 23 5 = 0b00010#5 ∧ w.extractLsb' 16 6 = 0b001111#6 ∧
      w.extractLsb' 0 12 = 0#12 then
    some (.readStatus (bit w 22) (register w 12))
  else if w.extractLsb' 26 2 = 0b00#2 ∧ w.extractLsb' 23 2 = 0b10#2 ∧
      w.extractLsb' 20 2 = 0b10#2 ∧ w.extractLsb' 12 4 = 0b1111#4 then
    writeStatus? w
  else if w.extractLsb' 26 2 = 0b00#2 then dataOperation? w
  else if w.extractLsb' 25 3 = 0b011#3 ∧ bit w 4 = true then none
  else if w.extractLsb' 26 2 = 0b01#2 then some (singleTransfer w)
  else if w.extractLsb' 25 3 = 0b100#3 then blockTransfer? w
  else some (.coprocessor (w.extractLsb' 8 4))

/-- The instruction that a word encodes, if it encodes one. -/
def decode? (w : Word) : Option Instruction :=
  (operation? w).map (Instruction.mk (Condition.ofCode (w.extractLsb' 28 4)))

end Handheld.Wide
