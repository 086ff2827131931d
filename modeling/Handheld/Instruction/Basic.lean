import Handheld.Condition
import Handheld.Shifter
import Handheld.Registers.Basic

/-!
# Instruction/Basic — instructions as values

An instruction is a condition and an operation.  Wide and narrow encodings share the operations;
a few exist in narrow code only, because they read the program counter in a way of their own.
The cost of an operation depends on nothing but the operation (`Operation.cycles`).
-/

namespace Handheld

/-- The second operand of an operation, the offset of a transfer, or the data of a status write. -/
inductive Operand where
  /-- A number; the carry stays. -/
  | immediate (value : Word)
  /-- A number that was rotated into place; its top bit becomes the carry. -/
  | rotated (value : Word)
  /-- A register shifted by a fixed distance. -/
  | shifted (register : Register) (kind : ShiftKind) (distance : Nat)
  /-- A register rotated with the carry by one bit. -/
  | throughCarry (register : Register)
  deriving DecidableEq, Inhabited

namespace Operand

/-- A register as it is. -/
@[match_pattern] abbrev plain (n : Register) : Operand := .shifted n .lsl 0

end Operand

/-- The second operand of a data operation. -/
inductive DataOperand where
  /-- An operand that needs no extra cycle. -/
  | fixed (operand : Operand)
  /-- A register shifted by the low byte of another. -/
  | byRegister (register : Register) (kind : ShiftKind) (distance : Register)
  deriving DecidableEq, Inhabited

namespace DataOperand

/-- A number as it is. -/
abbrev immediate (value : Word) : DataOperand := .fixed (.immediate value)

/-- A register as it is. -/
abbrev plain (n : Register) : DataOperand := .fixed (.plain n)

end DataOperand

/-- How a transfer computes its address from a base register. -/
structure Addressing where
  /-- The base register. -/
  base : Register
  /-- The offset is added, not subtracted. -/
  up : Bool
  /-- The offset applies before the access. -/
  early : Bool
  /-- The new address is written back even if the offset applies before the access. -/
  writeBack : Bool
  deriving DecidableEq, Inhabited

/-- What a load reads, and how it is extended to a word. -/
inductive LoadKind where
  /-- A word, rotated by the misalignment of its address. -/
  | word
  /-- A byte, extended with zeros. -/
  | byte
  /-- A halfword, extended with zeros. -/
  | half
  /-- A byte, extended with its sign. -/
  | signedByte
  /-- A halfword, extended with its sign. -/
  | signedHalf
  deriving DecidableEq, Inhabited

/-- What a store writes. -/
inductive StoreKind where
  /-- The whole register. -/
  | word
  /-- Its low byte. -/
  | byte
  /-- Its low halfword. -/
  | half
  deriving DecidableEq, Inhabited

/-- Operations on two values that write a register. -/
inductive BinaryOp where
  /-- Conjunction. -/
  | and
  /-- Exclusive disjunction. -/
  | eor
  /-- Subtraction. -/
  | sub
  /-- Subtraction of the first from the second. -/
  | rsb
  /-- Addition. -/
  | add
  /-- Addition with carry. -/
  | adc
  /-- Subtraction with borrow. -/
  | sbc
  /-- Subtraction of the first from the second, with borrow. -/
  | rsc
  /-- Disjunction. -/
  | orr
  /-- Clearing of bits. -/
  | bic
  deriving DecidableEq, Inhabited

/-- Operations on two values that write flags only. -/
inductive TestOp where
  /-- Flags of the conjunction. -/
  | tst
  /-- Flags of the exclusive disjunction. -/
  | teq
  /-- Flags of the difference. -/
  | cmp
  /-- Flags of the sum. -/
  | cmn
  deriving DecidableEq, Inhabited

/-- Operations on one value. -/
inductive MoveOp where
  /-- The value. -/
  | mov
  /-- Its complement. -/
  | mvn
  deriving DecidableEq, Inhabited

/-- What an instruction does when its condition holds. -/
inductive Operation where
  /-- Calls the supervisor. -/
  | softwareInterrupt (comment : BitVec 24)
  /-- Addresses a coprocessor; none is attached. -/
  | coprocessor (number : BitVec 4)
  /-- Jumps relative to the program counter. -/
  | branch (offset : Word)
  /-- Jumps relative to the program counter, in narrow code. -/
  | branchNarrow (offset : Word)
  /-- Calls relative to the program counter. -/
  | branchLink (offset : Word)
  /-- First half of a narrow call: puts the high part of the target into the link register. -/
  | linkHigh (offset : Word)
  /-- Second half of a narrow call: adds the low part and jumps. -/
  | linkLow (offset : Word)
  /-- Jumps to a register, whose low bit selects narrow or wide code. -/
  | branchExchange (target : Register)
  /-- Exchanges a register with memory. -/
  | swap (byte : Bool) (base rd rm : Register)
  /-- Loads a register. -/
  | load (kind : LoadKind) (mode : Addressing) (rd : Register) (offset : Operand)
  /-- Stores a register. -/
  | store (kind : StoreKind) (mode : Addressing) (rd : Register) (offset : Operand)
  /-- Loads a word relative to the aligned program counter, in narrow code. -/
  | loadFromPc (rd : Register) (offset : Word)
  /-- Loads the listed registers from ascending addresses. -/
  | loadMultiple (mode : Addressing) (list : Half) (user : Bool)
  /-- Stores the listed registers to ascending addresses. -/
  | storeMultiple (mode : Addressing) (list : Half) (user : Bool)
  /-- Combines two values into a register. -/
  | binary (op : BinaryOp) (setFlags : Bool) (rd rn : Register) (operand : DataOperand)
  /-- Compares two values. -/
  | test (op : TestOp) (rn : Register) (operand : DataOperand)
  /-- Moves a value into a register. -/
  | move (op : MoveOp) (setFlags : Bool) (rd : Register) (operand : DataOperand)
  /-- Adds to the aligned program counter, in narrow code. -/
  | addToPc (rd : Register) (offset : Word)
  /-- Multiplies, and adds a register if one is given. -/
  | multiply (setFlags : Bool) (rd rs rm : Register) (addend : Option Register)
  /-- Multiplies to a double in two registers, and adds their former content if asked to. -/
  | multiplyLong (signed accumulate setFlags : Bool) (high low rs rm : Register)
  /-- Writes the bits of the status, or the saved status, that `mask` selects. -/
  | writeStatus (saved : Bool) (mask : Word) (data : Operand)
  /-- Reads the status or the saved status. -/
  | readStatus (saved : Bool) (rd : Register)
  deriving DecidableEq, Inhabited

/-- An operation and the condition under which it takes effect. -/
structure Instruction where
  /-- When it takes effect. -/
  condition : Condition
  /-- What it does. -/
  operation : Operation
  deriving DecidableEq, Inhabited

/-! ## Register lists -/

/-- The registers of a list, in ascending order. -/
def listed (list : Half) : List Register := (List.finRange 16).filter fun n => list.getLsbD n

@[simp] theorem mem_listed (list : Half) (n : Register) : n ∈ listed list ↔ list.getLsbD n := by
  simp [listed, List.mem_finRange]

/-! ## Classes and costs -/

/-- The broad classes of operations. -/
inductive Category where
  /-- Calls of the supervisor. -/
  | softwareInterrupt
  /-- Jumps and calls. -/
  | branch
  /-- Products of one word. -/
  | multiply
  /-- Products of two words. -/
  | multiplyLong
  /-- Exchanges with memory. -/
  | swap
  /-- Operations on registers. -/
  | dataProcessing
  /-- Reads and writes of status words. -/
  | statusTransfer
  /-- Loads and stores of words and unsigned bytes. -/
  | singleTransfer
  /-- Loads and stores of halfwords, and signed loads. -/
  | halfwordTransfer
  /-- Loads and stores of register lists. -/
  | blockTransfer
  /-- Coprocessor operations. -/
  | coprocessor
  deriving DecidableEq, Inhabited

namespace LoadKind

/-- Bus cycles of the access. -/
def busCycles : LoadKind → Nat
  | word => 2
  | _ => 1

/-- Words and unsigned bytes are transferred by single transfers, the rest by halfword transfers. -/
def category : LoadKind → Category
  | word | byte => .singleTransfer
  | half | signedByte | signedHalf => .halfwordTransfer

end LoadKind

namespace StoreKind

/-- Bus cycles of the access. -/
def busCycles : StoreKind → Nat
  | word => 2
  | _ => 1

/-- Words and bytes are transferred by single transfers, halfwords by halfword transfers. -/
def category : StoreKind → Category
  | word | byte => .singleTransfer
  | half => .halfwordTransfer

end StoreKind

/-- Writing the program counter costs two more cycles. -/
def pcCycles (rd : Register) : Nat := if rd = .pc then 2 else 0

/-- Shifting by a register costs one more cycle. -/
def DataOperand.cycles : DataOperand → Nat
  | fixed _ => 0
  | byRegister .. => 1

namespace Operation

/-- The class of an operation. -/
def category : Operation → Category
  | softwareInterrupt _ => .softwareInterrupt
  | coprocessor _ => .coprocessor
  | branch _ | branchNarrow _ | branchLink _ | linkHigh _ | linkLow _ | branchExchange _ => .branch
  | swap .. => .swap
  | load kind .. => kind.category
  | store kind .. => kind.category
  | loadFromPc .. => .singleTransfer
  | loadMultiple .. | storeMultiple .. => .blockTransfer
  | binary .. | test .. | move .. | addToPc .. => .dataProcessing
  | multiply .. => .multiply
  | multiplyLong .. => .multiplyLong
  | writeStatus .. | readStatus .. => .statusTransfer

/-- The cycles that an operation costs when it takes effect. -/
def cycles : Operation → Nat
  | softwareInterrupt _ => 3
  | coprocessor _ => 0
  | branch _ | branchNarrow _ | branchLink _ | linkLow _ | branchExchange _ => 3
  | linkHigh _ => 1
  | swap .. => 4
  | load kind _ rd _ => 2 + kind.busCycles + pcCycles rd
  | store kind .. => 1 + kind.busCycles
  | loadFromPc .. => 4
  | loadMultiple _ list _ => (listed list).length + 2 + if list.getLsbD 15 then 2 else 0
  | storeMultiple _ list _ => (listed list).length + 1
  | binary _ _ rd _ operand => 1 + operand.cycles + pcCycles rd
  | test _ _ operand => 1 + operand.cycles
  | move _ _ rd operand => 1 + operand.cycles + pcCycles rd
  | addToPc .. => 1
  | multiply _ _ _ _ none => 3
  | multiply _ _ _ _ (some _) => 4
  | multiplyLong _ accumulate .. => if accumulate then 5 else 4
  | writeStatus .. | readStatus .. => 1

end Operation

end Handheld
