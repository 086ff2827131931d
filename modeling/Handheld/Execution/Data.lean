import Handheld.Execution.Context

/-!
# Execution/Data — operations on registers

Additions and subtractions all go through one adder: a subtraction adds the complement and a carry,
so its carry out says that nothing was borrowed.  An operation that writes the program counter and
is asked to set flags returns from an exception instead.
-/

namespace Handheld

/-! ## The adder -/

/-- A sum of two words and a carry. -/
structure Sum where
  /-- The sum, reduced to a word. -/
  value : Word
  /-- The carry out of the word. -/
  carry : Bool
  /-- The sum does not fit a signed word. -/
  overflow : Bool
  deriving DecidableEq

/-- Adds two words and a carry. -/
def addWithCarry (a b : Word) (carry : Bool) : Sum :=
  let wide : BitVec 33 := a.setWidth 33 + b.setWidth 33 + (BitVec.ofBool carry).setWidth 33
  let value := wide.setWidth 32
  ⟨value, wide.msb, a.msb == b.msb && a.msb != value.msb⟩

/-- Subtracts by adding the complement; without a carry one more is borrowed. -/
def subWithCarry (a b : Word) (carry : Bool) : Sum := addWithCarry a (~~~b) carry

/-! ## Results and flags -/

namespace Flags

/-- Records a sum. -/
def setSum (f : Flags) (s : Sum) : Flags := f.setArithmetic s.value s.carry s.overflow

end Flags

/-- A logical result and the flags after it. -/
def logical (v : Word) (shifter : Bool) (f : Flags) : Word × Flags := (v, f.setLogical v shifter)

/-- An arithmetic result and the flags after it. -/
def arithmetic (s : Sum) (f : Flags) : Word × Flags := (s.value, f.setSum s)

namespace BinaryOp

/-- The result of an operation and the flags after it, from both values, the carry of the shifter
and the flags before. -/
def eval (op : BinaryOp) (a b : Word) (shifter : Bool) (f : Flags) : Word × Flags :=
  match op with
  | and => logical (a &&& b) shifter f
  | eor => logical (a ^^^ b) shifter f
  | sub => arithmetic (subWithCarry a b true) f
  | rsb => arithmetic (subWithCarry b a true) f
  | add => arithmetic (addWithCarry a b false) f
  | adc => arithmetic (addWithCarry a b f.carry) f
  | sbc => arithmetic (subWithCarry a b f.carry) f
  | rsc => arithmetic (subWithCarry b a f.carry) f
  | orr => logical (a ||| b) shifter f
  | bic => logical (a &&& ~~~b) shifter f

end BinaryOp

namespace TestOp

/-- The operation whose flags a comparison takes. -/
def binary : TestOp → BinaryOp
  | tst => .and
  | teq => .eor
  | cmp => .sub
  | cmn => .add

end TestOp

namespace MoveOp

/-- The result of a move and the flags after it. -/
def eval (op : MoveOp) (v : Word) (shifter : Bool) (f : Flags) : Word × Flags :=
  match op with
  | mov => logical v shifter f
  | mvn => logical (~~~v) shifter f

end MoveOp

namespace Context

variable {M : Type}

/-- Writes the result of a data operation, and its flags if they are asked for. -/
def writeResult (c : Context M) (setFlags : Bool) (rd : Register) (result : Word × Flags) :
    Context M :=
  if rd = .pc then
    (if setFlags then c.restoreStatus else c).write rd result.1
  else
    let c := c.write rd result.1
    if setFlags then c.setFlags result.2 else c

/-- Combines two values into a register. -/
def binary (c : Context M) (op : BinaryOp) (setFlags : Bool) (rd rn : Register)
    (operand : DataOperand) : Context M :=
  let (b, shifter) := c.dataOperand operand
  c.writeResult setFlags rd (op.eval (c.read rn) b shifter c.flags)

/-- Compares two values. -/
def test (c : Context M) (op : TestOp) (rn : Register) (operand : DataOperand) : Context M :=
  let (b, shifter) := c.dataOperand operand
  c.setFlags (op.binary.eval (c.read rn) b shifter c.flags).2

/-- Moves a value into a register. -/
def move (c : Context M) (op : MoveOp) (setFlags : Bool) (rd : Register) (operand : DataOperand) :
    Context M :=
  let (v, shifter) := c.dataOperand operand
  c.writeResult setFlags rd (op.eval v shifter c.flags)

/-- Adds to the aligned program counter. -/
def addToPc (c : Context M) (rd : Register) (offset : Word) : Context M :=
  c.write rd (c.pc.alignWord + offset)

end Context

end Handheld
