import Handheld.Execution.Fault
import Handheld.Execution.Data
import Handheld.Execution.Multiply
import Handheld.Execution.Branch
import Handheld.Execution.StatusTransfer
import Handheld.Execution.Block

/-!
# Execution/Basic — the execution of one instruction

`execute` runs an instruction on registers and a memory.  The only instruction that fails is one
that addresses a coprocessor; it reads its own word again to report it, and changes nothing.
-/

namespace Handheld

/-- How an instruction came to its end. -/
structure Retired where
  /-- The cycles it took. -/
  cycles : Nat
  /-- It wrote the program counter, which must not be moved on. -/
  branched : Bool
  deriving DecidableEq

/-- Registers and memory after an instruction, and how it ended. -/
structure Outcome (M : Type) where
  /-- The registers. -/
  registers : Registers
  /-- The memory. -/
  memory : M
  /-- How the instruction ended. -/
  result : Except Fault Retired

namespace Context

variable {M : Type} [Memory M]

/-- The effect of an operation.  A coprocessor operation has none. -/
def perform (c : Context M) (hook? : Option (Hook M)) : Operation → Context M
  | .softwareInterrupt comment => c.softwareInterrupt hook? comment
  | .coprocessor _ => c
  | .branch offset | .branchNarrow offset => c.branch offset
  | .branchLink offset => c.branchLink offset
  | .linkHigh offset => c.linkHigh offset
  | .linkLow offset => c.linkLow offset
  | .branchExchange n => c.branchExchange n
  | .swap byte base rd rm => c.swap byte base rd rm
  | .load kind mode rd offset => c.load kind mode rd offset
  | .store kind mode rd offset => c.store kind mode rd offset
  | .loadFromPc rd offset => c.loadFromPc rd offset
  | .loadMultiple mode list user => c.loadMultiple mode list user
  | .storeMultiple mode list user => c.storeMultiple mode list user
  | .binary op setFlags rd rn operand => c.binary op setFlags rd rn operand
  | .test op rn operand => c.test op rn operand
  | .move op setFlags rd operand => c.move op setFlags rd operand
  | .addToPc rd offset => c.addToPc rd offset
  | .multiply setFlags rd rs rm addend => c.multiply setFlags rd rs rm addend
  | .multiplyLong signed accumulate setFlags high low rs rm =>
    c.multiplyLong signed accumulate setFlags high low rs rm
  | .writeStatus saved mask data => c.writeStatus saved mask data
  | .readStatus saved rd => c.readStatus saved rd

/-- Ends an instruction well. -/
def retire (c : Context M) (cycles : Nat) : Outcome M :=
  ⟨c.registers, c.memory, .ok ⟨cycles, c.branched⟩⟩

/-- Ends an instruction that nothing can execute, reading its word again. -/
def refuse (c : Context M) : Outcome M :=
  let (word, memory) := Memory.load c.memory (if c.flags.thumb then .half else .word) c.address
  ⟨c.registers, memory, .error (.unimplemented c.address word)⟩

end Context

/-- Executes the instruction at the program counter, which stays there unless the instruction
jumps.  An instruction whose condition fails costs one cycle. -/
def execute {M : Type} [Memory M] (hook? : Option (Hook M)) (i : Instruction) (r : Registers)
    (m : M) : Outcome M :=
  let c := Context.start r m
  if i.condition.holds c.flags then
    match i.operation with
    | .coprocessor _ => c.refuse
    | operation => (c.perform hook? operation).retire operation.cycles
  else c.retire 1

end Handheld
