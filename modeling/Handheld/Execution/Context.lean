import Handheld.Registers.Basic
import Handheld.Memory.Basic
import Handheld.Instruction.Basic

/-!
# Execution/Context — what an instruction sees while it executes

The program counter reads two instructions ahead of the executing one.  Writing it jumps, to an
address aligned to the instructions of the width now in force; an instruction that jumps is not
followed by its successor.  Reading operands and the memory accesses of transfers are here too.
-/

namespace Handheld

/-- Registers and memory during the execution of one instruction. -/
structure Context (M : Type) where
  /-- The registers; their program counter holds the instruction's address until it jumps. -/
  registers : Registers
  /-- The memory. -/
  memory : M
  /-- The instruction's address. -/
  address : Word
  /-- The instruction's size in bytes. -/
  size : Word
  /-- The program counter was written. -/
  branched : Bool := false

namespace Context

variable {M : Type}

/-- Before the instruction at the program counter executes. -/
def start (r : Registers) (m : M) : Context M where
  registers := r
  memory := m
  address := r.pc
  size := r.flags.instructionSize

/-! ## Registers -/

/-- The program counter as the instruction reads it. -/
def pc (c : Context M) : Word := c.address + (c.size + c.size)

/-- Changes the registers. -/
def mapRegisters (c : Context M) (f : Registers → Registers) : Context M :=
  { c with registers := f c.registers }

/-- The content of a register. -/
def read (c : Context M) (n : Register) : Word := if n = .pc then c.pc else c.registers.read n

/-- Jumps to an address, aligned to the instructions in force. -/
def jump (c : Context M) (a : Word) : Context M :=
  { c.mapRegisters fun r => r.setPc (if r.flags.thumb then a.alignHalf else a.alignWord) with
    branched := true }

/-- Writes a register; the program counter is written by jumping. -/
def write (c : Context M) (n : Register) (v : Word) : Context M :=
  if n = .pc then c.jump v else c.mapRegisters fun r => r.write n v

/-- The content of a register as user mode sees it. -/
def readUser (c : Context M) (n : Register) : Word :=
  if n = .pc then c.pc else c.registers.readUser n

/-- Writes a register as user mode sees it. -/
def writeUser (c : Context M) (n : Register) (v : Word) : Context M :=
  if n = .pc then c.jump v else c.mapRegisters fun r => r.writeUser n v

/-- The flags. -/
def flags (c : Context M) : Flags := c.registers.flags

/-- Replaces the flags. -/
def setFlags (c : Context M) (f : Flags) : Context M := c.mapRegisters fun r => r.setFlags f

/-- Returns to the status saved for the current mode. -/
def restoreStatus (c : Context M) : Context M :=
  c.mapRegisters fun r => r.writeStatus r.savedStatus

/-! ## Operands -/

/-- The value of an operand and the carry of its shifter. -/
def operand (c : Context M) : Operand → Word × Bool
  | .immediate v => (v, c.flags.carry)
  | .rotated v => (v, v.msb)
  | .shifted n kind distance => kind.apply (c.read n) distance c.flags.carry
  | .throughCarry n => rotateThroughCarry (c.read n) c.flags.carry

/-- The value of the second operand of a data operation and the carry of its shifter.  While the
shift distance is read the program counter moves on by one wide instruction. -/
def dataOperand (c : Context M) : DataOperand → Word × Bool
  | .fixed o => c.operand o
  | .byRegister n kind distance =>
    let value := if n = .pc then c.pc + 4 else c.read n
    kind.apply value ((c.read distance).byte 0).toNat c.flags.carry

/-! ## Memory -/

variable [Memory M]

/-- Loads a byte. -/
def loadByte (c : Context M) (a : Word) : Byte × Context M :=
  let ⟨registers, memory, address, size, branched⟩ := c
  let (v, memory) := Memory.loadByte memory a
  (v, ⟨registers, memory, address, size, branched⟩)

/-- Loads the halfword around an address. -/
def loadHalf (c : Context M) (a : Word) : Half × Context M :=
  let ⟨registers, memory, address, size, branched⟩ := c
  let (v, memory) := Memory.loadHalf memory a
  (v, ⟨registers, memory, address, size, branched⟩)

/-- Loads the word around an address. -/
def loadWord (c : Context M) (a : Word) : Word × Context M :=
  let ⟨registers, memory, address, size, branched⟩ := c
  let (v, memory) := Memory.loadWord memory a
  (v, ⟨registers, memory, address, size, branched⟩)

/-- Loads the word around an address, rotated so that the byte at the address comes lowest. -/
def loadRotated (c : Context M) (a : Word) : Word × Context M :=
  let (v, c) := c.loadWord a.alignWord
  (v.rotateRight (8 * (a &&& 3#32).toNat), c)

/-- Loads what a load instruction asks for.  A misaligned halfword is rotated like a word, but with
a sign it reads as the byte at its address. -/
def loadKind (c : Context M) (kind : LoadKind) (a : Word) : Word × Context M :=
  match kind with
  | .word => c.loadRotated a
  | .byte =>
    let (v, c) := c.loadByte a
    (v.setWidth 32, c)
  | .half =>
    let (v, c) := c.loadHalf a
    ((v.setWidth 32).rotateRight (if a.getLsbD 0 then 8 else 0), c)
  | .signedByte =>
    let (v, c) := c.loadByte a
    (v.signExtend 32, c)
  | .signedHalf =>
    if a.getLsbD 0 then
      let (v, c) := c.loadByte a
      (v.signExtend 32, c)
    else
      let (v, c) := c.loadHalf a
      (v.signExtend 32, c)

/-- Stores a byte. -/
def storeByte (c : Context M) (a : Word) (v : Byte) : Context M :=
  let ⟨registers, memory, address, size, branched⟩ := c
  ⟨registers, Memory.storeByte memory a v, address, size, branched⟩

/-- Stores the halfword around an address. -/
def storeHalf (c : Context M) (a : Word) (v : Half) : Context M :=
  let ⟨registers, memory, address, size, branched⟩ := c
  ⟨registers, Memory.storeHalf memory a v, address, size, branched⟩

/-- Stores the word around an address. -/
def storeWord (c : Context M) (a v : Word) : Context M :=
  let ⟨registers, memory, address, size, branched⟩ := c
  ⟨registers, Memory.storeWord memory a v, address, size, branched⟩

/-- Stores what a store instruction asks for, at the address aligned to its width. -/
def storeKind (c : Context M) (kind : StoreKind) (a v : Word) : Context M :=
  match kind with
  | .word => c.storeWord a.alignWord v
  | .byte => c.storeByte a (v.byte 0)
  | .half => c.storeHalf a.alignHalf v.lowHalf

end Context

end Handheld
