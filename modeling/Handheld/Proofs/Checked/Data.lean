import Handheld.Execution.Data
import Handheld.Execution.Multiply
import Handheld.Execution.StatusTransfer
import Handheld.Proofs.Checked.Bus
import Handheld.Proofs.Checked.Registers
import Handheld.Proofs.Execution.Arithmetic

/-!
# Proofs/Checked/Data — operations on registers with every operation checked

The program counter is read by doubling the size of the instruction, the flags of a result are bits
of it, and a second operand goes through the shifter.  A sum carries out of one addition or of
either of two in a row, and a difference carries unless it borrows; each is the one sum of the adder
(`checkedAddCarry_eq_ok` and its like).  For an instruction of the usual size none of this goes
wrong, whatever the registers hold.
-/

namespace Handheld

open Checked

/-! ## Results and flags -/

/-- The sum of two words overflows if both differ from it in their sign. -/
def checkedAddOverflow (a b v : Word) : Checked Bool := testBit (~~~(a ^^^ b) &&& (a ^^^ v)) 31

/-- The difference of two words overflows if they differ in their sign, and the first from it. -/
def checkedSubOverflow (a b v : Word) : Checked Bool := testBit ((a ^^^ b) &&& (a ^^^ v)) 31

/-- A sum of two words, which carries out if it wraps. -/
def checkedAdd (a b : Word) : Checked Sum := do
  let v := a + b
  let overflow ← checkedAddOverflow a b v
  return ⟨v, BitVec.uaddOverflow a b, overflow⟩

/-- A difference of two words, which carries out if nothing is borrowed. -/
def checkedSub (a b : Word) : Checked Sum := do
  let v := a - b
  let overflow ← checkedSubOverflow a b v
  return ⟨v, !BitVec.usubOverflow a b, overflow⟩

/-- A sum of two words and then of the carry; either sum may carry out. -/
def checkedAddCarry (a b : Word) (carry : Bool) : Checked Sum := do
  let digit := if carry then 1#32 else 0#32
  let v := a + b + digit
  let overflow ← checkedAddOverflow a b v
  return ⟨v, BitVec.uaddOverflow a b || BitVec.uaddOverflow (a + b) digit, overflow⟩

/-- A logical result and the flags after it. -/
def checkedLogical (v : Word) (shifter : Bool) (f : Flags) : Checked (Word × Flags) := do
  let negative ← testBit v 31
  return (v, { f with negative, zero := v == 0, carry := shifter })

/-- An arithmetic result and the flags after it. -/
def checkedArithmetic (s : Checked Sum) (f : Flags) : Checked (Word × Flags) := do
  let s ← s
  let negative ← testBit s.value 31
  return (s.value,
    { f with negative, zero := s.value == 0, carry := s.carry, overflow := s.overflow })

/-- The result of an operation and the flags after it. -/
def BinaryOp.checkedEval (op : BinaryOp) (a b : Word) (shifter : Bool) (f : Flags) :
    Checked (Word × Flags) :=
  match op with
  | and => checkedLogical (a &&& b) shifter f
  | eor => checkedLogical (a ^^^ b) shifter f
  | sub => checkedArithmetic (checkedSub a b) f
  | rsb => checkedArithmetic (checkedSub b a) f
  | add => checkedArithmetic (checkedAdd a b) f
  | adc => checkedArithmetic (checkedAddCarry a b f.carry) f
  | sbc => checkedArithmetic (checkedAddCarry a (~~~b) f.carry) f
  | rsc => checkedArithmetic (checkedAddCarry b (~~~a) f.carry) f
  | orr => checkedLogical (a ||| b) shifter f
  | bic => checkedLogical (a &&& ~~~b) shifter f

/-- The result of a move and the flags after it. -/
def MoveOp.checkedEval (op : MoveOp) (v : Word) (shifter : Bool) (f : Flags) :
    Checked (Word × Flags) :=
  match op with
  | mov => checkedLogical v shifter f
  | mvn => checkedLogical (~~~v) shifter f

/-- A truth value as a digit. -/
theorem toNat_decide (p : Prop) [Decidable p] : (decide p).toNat = if p then 1 else 0 := by
  by_cases h : p <;> simp [h]

/-- What the adder gives is known by one equation: its value, with its carry as the next digit, is
the sum; and it overflows if both words differ from the value in their sign. -/
theorem addWithCarry_eq {a b v : Word} {digit carry : Bool}
    (h : v.toNat + 0x100000000 * carry.toNat = a.toNat + b.toNat + digit.toNat) :
    addWithCarry a b digit = ⟨v, carry, a.msb == b.msb && a.msb != v.msb⟩ := by
  have key := toNat_addWithCarry a b digit
  have hc : (addWithCarry a b digit).carry = carry := by
    have := v.isLt
    have := (addWithCarry a b digit).value.isLt
    cases hd : (addWithCarry a b digit).carry <;> cases carry <;> simp [hd] at key h ⊢ <;> omega
  have hv : (addWithCarry a b digit).value = v := by
    apply BitVec.eq_of_toNat_eq
    rw [hc] at key
    omega
  have ho : (addWithCarry a b digit).overflow
    = (a.msb == b.msb && a.msb != (addWithCarry a b digit).value.msb) := rfl
  rw [hv] at ho
  calc addWithCarry a b digit
      = ⟨(addWithCarry a b digit).value, (addWithCarry a b digit).carry,
          (addWithCarry a b digit).overflow⟩ := rfl
    _ = ⟨v, carry, a.msb == b.msb && a.msb != v.msb⟩ := by rw [hv, hc, ho]

/-- A sum overflows where its operands have one sign and it has the other. -/
@[simp] theorem checkedAddOverflow_eq_ok (a b v : Word) :
    checkedAddOverflow a b v = .ok (a.msb == b.msb && a.msb != v.msb) := by
  rw [checkedAddOverflow, testBit_eq_ok (by decide)]
  simp only [BitVec.msb_eq_getLsbD_last, BitVec.getLsbD_and, BitVec.getLsbD_not,
    BitVec.getLsbD_xor]
  grind

/-- A difference overflows where the sum with the complement does. -/
@[simp] theorem checkedSubOverflow_eq_ok (a b v : Word) :
    checkedSubOverflow a b v = .ok (a.msb == (~~~b).msb && a.msb != v.msb) := by
  have h : ((a ^^^ b) &&& (a ^^^ v)).getLsbD 31 = (a.msb == (~~~b).msb && a.msb != v.msb) := by
    simp only [BitVec.msb_eq_getLsbD_last, BitVec.getLsbD_and, BitVec.getLsbD_not,
      BitVec.getLsbD_xor]
    cases a.getLsbD 31 <;> cases b.getLsbD 31 <;> cases v.getLsbD 31 <;> rfl
  rw [checkedSubOverflow, testBit_eq_ok (by decide), h]

/-- A plain sum is the adder's without a carry. -/
@[simp] theorem checkedAdd_eq_ok (a b : Word) :
    checkedAdd a b = .ok (addWithCarry a b false) := by
  have h : (a + b).toNat + 0x100000000 * (BitVec.uaddOverflow a b).toNat
      = a.toNat + b.toNat + Bool.false.toNat := by
    have := a.isLt
    have := b.isLt
    rw [BitVec.toNat_add, BitVec.uaddOverflow, toNat_decide, Bool.toNat_false]
    split <;> omega
  rw [checkedAdd, checkedAddOverflow_eq_ok, addWithCarry_eq h]
  rfl

/-- A difference is the adder's sum with the complement and a carry: the carry is clear exactly if
something is borrowed. -/
@[simp] theorem checkedSub_eq_ok (a b : Word) : checkedSub a b = .ok (subWithCarry a b true) := by
  have h : (a - b).toNat + 0x100000000 * (!BitVec.usubOverflow a b).toNat
      = a.toNat + (~~~b).toNat + Bool.true.toNat := by
    have := a.isLt
    have := b.isLt
    rw [BitVec.toNat_sub, BitVec.toNat_not, BitVec.usubOverflow, ← decide_not, toNat_decide,
      Bool.toNat_true]
    split <;> omega
  rw [checkedSub, checkedSubOverflow_eq_ok, subWithCarry, addWithCarry_eq h]
  rfl

/-- Of two sums one after the other at most one carries out, as the adder does. -/
@[simp] theorem checkedAddCarry_eq_ok (a b : Word) (carry : Bool) :
    checkedAddCarry a b carry = .ok (addWithCarry a b carry) := by
  have h : (a + b + if carry then 1#32 else 0#32).toNat
        + 0x100000000 * (BitVec.uaddOverflow a b
          || BitVec.uaddOverflow (a + b) (if carry then 1#32 else 0#32)).toNat
      = a.toNat + b.toNat + carry.toNat := by
    have := a.isLt
    have := b.isLt
    have hdigit : (if carry then 1#32 else 0#32 : Word).toNat = carry.toNat := by
      cases carry <;> rfl
    -- The second sum adds one at most, so it wraps only if the first did not.
    have hcarry := carry.toNat_le
    rw [BitVec.toNat_add, BitVec.uaddOverflow, BitVec.uaddOverflow, BitVec.toNat_add, hdigit,
      ← Bool.decide_or, toNat_decide]
    split <;> omega
  rw [checkedAddCarry, checkedAddOverflow_eq_ok, addWithCarry_eq h]
  rfl

/-- A logical operation looks at the sign of its result, which has a place in the word. -/
@[simp] theorem checkedLogical_eq_ok (v : Word) (shifter : Bool) (f : Flags) :
    checkedLogical v shifter f = .ok (logical v shifter f) := by
  rw [checkedLogical, testBit_eq_ok (by decide), ok_bind, pure_eq_ok, logical, Flags.setLogical,
    BitVec.msb_eq_getLsbD_last]

/-- An arithmetic operation takes its carry and its overflow over from the sum. -/
@[simp] theorem checkedArithmetic_eq_ok (s : Sum) (f : Flags) :
    checkedArithmetic (.ok s) f = .ok (arithmetic s f) := by
  rw [checkedArithmetic, ok_bind, testBit_eq_ok (by decide), ok_bind, pure_eq_ok, arithmetic,
    Flags.setSum, Flags.setArithmetic, BitVec.msb_eq_getLsbD_last]

/-- **No binary operation goes wrong**, and the flags that it computes by chained additions are
those of the one sum. -/
@[simp] theorem BinaryOp.checkedEval_eq_ok (op : BinaryOp) (a b : Word) (shifter : Bool)
    (f : Flags) : op.checkedEval a b shifter f = .ok (op.eval a b shifter f) := by
  cases op
  all_goals simp only [checkedEval, eval, checkedLogical_eq_ok, checkedAdd_eq_ok,
    checkedSub_eq_ok, checkedAddCarry_eq_ok, subWithCarry, checkedArithmetic_eq_ok]

/-- Moving a value, or its complement, goes well. -/
@[simp] theorem MoveOp.checkedEval_eq_ok (op : MoveOp) (v : Word) (shifter : Bool) (f : Flags) :
    op.checkedEval v shifter f = .ok (op.eval v shifter f) := by
  cases op
  all_goals exact checkedLogical_eq_ok _ shifter f

namespace Context

variable (c : Context Bus)

/-! ## Registers and operands -/

/-- The program counter as the instruction reads it. -/
def checkedPc : Checked Word := do
  let ahead ← mul c.size 2#32
  return c.address + ahead

/-- The content of a register. -/
def checkedRead (n : Register) : Checked Word :=
  if n = .pc then c.checkedPc else return c.registers.read n

/-- Changes the registers. -/
def withRegisters (c : Context Bus) (r : Registers) : Context Bus := { c with registers := r }

/-- The content of a register as user mode sees it. -/
def checkedReadUser (n : Register) : Checked Word :=
  if n = .pc then c.checkedPc else c.registers.checkedReadUser n

/-- Writes a register as user mode sees it. -/
def checkedWriteUser (n : Register) (v : Word) : Checked (Context Bus) :=
  if n = .pc then return c.jump v else (c.registers.checkedWriteUser n v).map c.withRegisters

/-- Returns to the status saved for the current mode. -/
def checkedRestoreStatus : Checked (Context Bus) := do
  let saved ← c.registers.checkedSavedStatus
  (c.registers.checkedWriteStatus saved).map c.withRegisters

/-- The value of an operand and the carry of its shifter. -/
def checkedOperand : Operand → Checked (Word × Bool)
  | .immediate v => return (v, c.flags.carry)
  | .rotated v => do
    let carry ← testBit v 31
    return (v, carry)
  | .shifted n kind distance => do
    let v ← c.checkedRead n
    kind.checkedApply v distance c.flags.carry
  | .throughCarry n => do
    let v ← c.checkedRead n
    checkedRotateThroughCarry v c.flags.carry

/-- The value of the second operand of a data operation and the carry of its shifter. -/
def checkedDataOperand : DataOperand → Checked (Word × Bool)
  | .fixed o => c.checkedOperand o
  | .byRegister n kind distance => do
    let v ← c.checkedRead n
    let d ← c.checkedRead distance
    kind.checkedApply (if n = .pc then v + 4 else v) (d.byte 0).toNat c.flags.carry

/-- Twice the size of the instruction is a word. -/
def Sized (c : Context Bus) : Prop := c.size.toNat * 2 < 1 <<< 32

/-- An instruction starts with a size of two or four bytes. -/
theorem sized_start (r : Registers) (b : Bus) : (start r b).Sized := by
  change r.flags.instructionSize.toNat * 2 < 1 <<< 32
  unfold Flags.instructionSize
  split
  all_goals decide

variable {c} (hc : c.Sized)

include hc

/-- The program counter is read ahead by two sizes of the instruction. -/
theorem checkedPc_eq_ok : c.checkedPc = .ok c.pc := by
  rw [checkedPc, mul_eq_ok hc, ok_bind, pure_eq_ok, pc, BitVec.mul_two]

theorem checkedRead_eq_ok (n : Register) : c.checkedRead n = .ok (c.read n) := by
  unfold checkedRead read
  split
  · exact checkedPc_eq_ok hc
  · rfl

/-- Every register can be read as user mode sees it, the program counter ahead. -/
theorem checkedReadUser_eq_ok (n : Register) : c.checkedReadUser n = .ok (c.readUser n) := by
  unfold checkedReadUser readUser
  split
  · exact checkedPc_eq_ok hc
  · exact c.registers.checkedReadUser_eq_ok n

/-- Every operand is evaluated, whatever its register holds. -/
theorem checkedOperand_eq_ok (o : Operand) : c.checkedOperand o = .ok (c.operand o) := by
  cases o with
  | immediate v => rfl
  | rotated v =>
    rw [checkedOperand, testBit_eq_ok (by decide), ok_bind, pure_eq_ok, operand,
      BitVec.msb_eq_getLsbD_last]
  | shifted n kind distance =>
    rw [checkedOperand, checkedRead_eq_ok hc, ok_bind, ShiftKind.checkedApply_eq_ok, operand]
  | throughCarry n =>
    rw [checkedOperand, checkedRead_eq_ok hc, ok_bind, checkedRotateThroughCarry_eq_ok, operand]

/-- The distance of a shift by a register is the low byte there, which the shifter takes whatever it
is. -/
theorem checkedDataOperand_eq_ok (o : DataOperand) :
    c.checkedDataOperand o = .ok (c.dataOperand o) := by
  cases o with
  | fixed o => exact checkedOperand_eq_ok hc o
  | byRegister n kind distance =>
    have hpc : (if n = .pc then c.read n + 4 else c.read n)
        = if n = .pc then c.pc + 4 else c.read n := by
      split
      · next h => rw [h]; rfl
      · rfl
    rw [checkedDataOperand, checkedRead_eq_ok hc, ok_bind, checkedRead_eq_ok hc, ok_bind,
      ShiftKind.checkedApply_eq_ok, hpc]
    rfl

omit hc

/-- Every register can be written as user mode sees it, the program counter by a jump. -/
theorem checkedWriteUser_eq_ok (n : Register) (v : Word) :
    c.checkedWriteUser n v = .ok (c.writeUser n v) := by
  unfold checkedWriteUser writeUser
  split
  · rfl
  · rw [Registers.checkedWriteUser_eq_ok]
    rfl

/-- The saved status is found in every mode, and can be written as the status. -/
theorem checkedRestoreStatus_eq_ok : c.checkedRestoreStatus = .ok c.restoreStatus := by
  rw [checkedRestoreStatus, Registers.checkedSavedStatus_eq_ok, ok_bind,
    Registers.checkedWriteStatus_eq_ok]
  rfl

/-! ## Operations on registers -/

variable (c)

/-- Writes the result of a data operation, and its flags if they are asked for. -/
def checkedWriteResult (setFlags : Bool) (rd : Register) (result : Word × Flags) :
    Checked (Context Bus) := do
  if rd = .pc then
    let c ← if setFlags then c.checkedRestoreStatus else pure c
    return c.write rd result.1
  else return c.writeResult setFlags rd result

/-- Combines two values into a register. -/
def checkedBinary (op : BinaryOp) (setFlags : Bool) (rd rn : Register) (operand : DataOperand) :
    Checked (Context Bus) := do
  let (b, shifter) ← c.checkedDataOperand operand
  let a ← c.checkedRead rn
  let result ← op.checkedEval a b shifter c.flags
  c.checkedWriteResult setFlags rd result

/-- Compares two values. -/
def checkedTest (op : TestOp) (rn : Register) (operand : DataOperand) :
    Checked (Context Bus) := do
  let (b, shifter) ← c.checkedDataOperand operand
  let a ← c.checkedRead rn
  let result ← op.binary.checkedEval a b shifter c.flags
  return c.setFlags result.2

/-- Moves a value into a register. -/
def checkedMove (op : MoveOp) (setFlags : Bool) (rd : Register) (operand : DataOperand) :
    Checked (Context Bus) := do
  let (v, shifter) ← c.checkedDataOperand operand
  let result ← op.checkedEval v shifter c.flags
  c.checkedWriteResult setFlags rd result

/-- Adds to the aligned program counter. -/
def checkedAddToPc (rd : Register) (offset : Word) : Checked (Context Bus) := do
  let pc ← c.checkedRead .pc
  return c.write rd (pc.alignWord + offset)

/-- Multiplies, and adds a register if one is given. -/
def checkedMultiply (setFlags : Bool) (rd rs rm : Register) (addend : Option Register) :
    Checked (Context Bus) := do
  let m ← c.checkedRead rm
  let s ← c.checkedRead rs
  let n ← match addend with
    | some rn => c.checkedRead rn
    | none => pure 0#32
  let v := m * s + n
  let negative ← testBit v 31
  return (c.write rd v).setProductFlags setFlags negative (v == 0)

/-- A register extended to a double. -/
def checkedExtended (signed : Bool) (n : Register) : Checked Double := do
  let v ← c.checkedRead n
  return if signed then v.signExtend 64 else v.setWidth 64

/-- Multiplies to a double in two registers, and adds their former content if asked to. -/
def checkedMultiplyLong (signed accumulate setFlags : Bool) (high low rs rm : Register) :
    Checked (Context Bus) := do
  let m ← c.checkedExtended signed rm
  let s ← c.checkedExtended signed rs
  let lowWord ← c.checkedRead low
  let highWord ← c.checkedRead high
  let v := m * s + if accumulate then Double.ofWords lowWord highWord else 0#64
  let negative ← testBit v 63
  return ((c.write low (Double.lowWord v)).write high (Double.highWord v)).setProductFlags setFlags
    negative (v == 0)

/-- Reads the status or the saved status. -/
def checkedReadStatus (saved : Bool) (rd : Register) : Checked (Context Bus) := do
  let p ← if saved then c.registers.checkedSavedStatus else pure c.registers.status
  return c.write rd p.toWord

/-- Writes the bits of the status, or the saved status, that `mask` selects. -/
def checkedWriteStatus (saved : Bool) (mask : Word) (data : Operand) :
    Checked (Context Bus) := do
  let (v, _) ← c.checkedOperand data
  let r := c.registers
  if saved then do
    let old ← r.checkedSavedStatus
    (r.checkedWriteSavedStatus (old.patch mask v)).map c.withRegisters
  else (r.checkedWriteStatus (r.status.patch (mask &&& Psr.writable r.mode) v)).map c.withRegisters

/-- A result is written and its flags are too, unless it is a jump that restores the status. -/
@[simp] theorem checkedWriteResult_eq_ok (setFlags : Bool) (rd : Register)
    (result : Word × Flags) :
    c.checkedWriteResult setFlags rd result = .ok (c.writeResult setFlags rd result) := by
  unfold checkedWriteResult
  split
  · next h =>
    rw [writeResult, if_pos h]
    cases setFlags
    · rfl
    · simp only [if_true, checkedRestoreStatus_eq_ok, ok_bind, pure_eq_ok]
  · rfl

/-- Either status is found and written to a register. -/
@[simp] theorem checkedReadStatus_eq_ok (saved : Bool) (rd : Register) :
    c.checkedReadStatus saved rd = .ok (c.readStatus saved rd) := by
  cases saved
  · rfl
  · simp only [checkedReadStatus, if_true, Registers.checkedSavedStatus_eq_ok, ok_bind, pure_eq_ok]
    rfl

variable {c}

include hc

theorem checkedBinary_eq_ok (op : BinaryOp) (setFlags : Bool) (rd rn : Register)
    (operand : DataOperand) :
    c.checkedBinary op setFlags rd rn operand = .ok (c.binary op setFlags rd rn operand) := by
  simp only [checkedBinary, checkedDataOperand_eq_ok hc, checkedRead_eq_ok hc,
    BinaryOp.checkedEval_eq_ok, checkedWriteResult_eq_ok, ok_bind]
  rfl

theorem checkedTest_eq_ok (op : TestOp) (rn : Register) (operand : DataOperand) :
    c.checkedTest op rn operand = .ok (c.test op rn operand) := by
  simp only [checkedTest, checkedDataOperand_eq_ok hc, checkedRead_eq_ok hc,
    BinaryOp.checkedEval_eq_ok, ok_bind]
  rfl

theorem checkedMove_eq_ok (op : MoveOp) (setFlags : Bool) (rd : Register)
    (operand : DataOperand) :
    c.checkedMove op setFlags rd operand = .ok (c.move op setFlags rd operand) := by
  simp only [checkedMove, checkedDataOperand_eq_ok hc, MoveOp.checkedEval_eq_ok,
    checkedWriteResult_eq_ok, ok_bind]
  rfl

theorem checkedAddToPc_eq_ok (rd : Register) (offset : Word) :
    c.checkedAddToPc rd offset = .ok (c.addToPc rd offset) := by
  rw [checkedAddToPc, checkedRead_eq_ok hc, ok_bind, pure_eq_ok]
  rfl

theorem checkedMultiply_eq_ok (setFlags : Bool) (rd rs rm : Register) (addend : Option Register) :
    c.checkedMultiply setFlags rd rs rm addend = .ok (c.multiply setFlags rd rs rm addend) := by
  unfold checkedMultiply multiply
  cases addend
  all_goals
    simp (disch := decide) only [checkedRead_eq_ok hc, testBit_eq_ok, ok_bind, pure_eq_ok,
      BitVec.msb_eq_getLsbD_last]

/-- A register is extended to the double width with its sign or without. -/
theorem checkedExtended_eq_ok (signed : Bool) (n : Register) :
    c.checkedExtended signed n = .ok (c.extended signed n) := by
  rw [checkedExtended, checkedRead_eq_ok hc, ok_bind, pure_eq_ok]
  rfl

theorem checkedMultiplyLong_eq_ok (signed accumulate setFlags : Bool)
    (high low rs rm : Register) : c.checkedMultiplyLong signed accumulate setFlags high low rs rm
      = .ok (c.multiplyLong signed accumulate setFlags high low rs rm) := by
  simp (disch := decide) only [checkedMultiplyLong, multiplyLong, checkedExtended_eq_ok hc,
    checkedRead_eq_ok hc, testBit_eq_ok, ok_bind, pure_eq_ok, BitVec.msb_eq_getLsbD_last]

/-- A masked write to either status goes well, in every mode. -/
theorem checkedWriteStatus_eq_ok (saved : Bool) (mask : Word) (data : Operand) :
    c.checkedWriteStatus saved mask data = .ok (c.writeStatus saved mask data) := by
  rw [checkedWriteStatus, checkedOperand_eq_ok hc, ok_bind]
  cases saved
  all_goals simp
  all_goals rfl

omit hc

end Context

end Handheld
