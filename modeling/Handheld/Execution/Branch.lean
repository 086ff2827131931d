import Handheld.Execution.Context
import Handheld.Registers.Exception

/-!
# Execution/Branch — jumps, calls and software interrupts

A narrow call takes two instructions, each of which is a whole step: the first leaves the high part
of the target in the link register, and the second adds the low part and puts the return address
there.  A software interrupt is handled by the host if a handler is installed, and otherwise enters
supervisor mode.
-/

namespace Handheld

/-- What a host learns of a software interrupt. -/
structure HookCall where
  /-- The comment of the instruction. -/
  comment : Word
  /-- The content of r0. -/
  r0 : Word
  /-- The content of r1. -/
  r1 : Word
  /-- The content of r2. -/
  r2 : Word
  /-- The content of r3. -/
  r3 : Word

/-- What a host answers to a software interrupt. -/
structure HookAnswer where
  /-- The new content of r0. -/
  r0 : Word
  /-- The new content of r1. -/
  r1 : Word
  /-- The new content of r3. -/
  r3 : Word

/-- A host's handler of software interrupts, which may use the memory. -/
abbrev Hook (M : Type) := HookCall → M → HookAnswer × M

/-- Where the handler of software interrupts starts. -/
def softwareInterruptVector : Word := 0x08#32

namespace Context

variable {M : Type}

/-- Jumps relative to the program counter. -/
def branch (c : Context M) (offset : Word) : Context M := c.jump (c.pc + offset)

/-- Calls relative to the program counter.  The link register receives the address of the
instruction before the call. -/
def branchLink (c : Context M) (offset : Word) : Context M :=
  (c.write .link (c.address - 4)).branch offset

/-- Puts the high part of a call's target into the link register. -/
def linkHigh (c : Context M) (offset : Word) : Context M := c.write .link (c.pc + offset)

/-- Completes a call's target, puts the return address into the link register and jumps. -/
def linkLow (c : Context M) (offset : Word) : Context M :=
  let target := c.read .link + offset
  (c.write .link ((c.address + 2) ||| 1#32)).jump target

/-- Jumps to a register, whose low bit selects narrow or wide code. -/
def branchExchange (c : Context M) (n : Register) : Context M :=
  let target := c.read n
  (c.setFlags { c.flags with thumb := target.getLsbD 0 }).jump target

/-- Enters supervisor mode. -/
def enterSupervisor (c : Context M) : Context M :=
  (c.mapRegisters fun r => r.enterException .supervisor (c.address + c.size)).jump
    softwareInterruptVector

/-- Lets a host handle a software interrupt. -/
def callHook (c : Context M) (hook : Hook M) (comment : Word) : Context M :=
  let ⟨r, memory, address, size, branched⟩ := c
  let (answer, memory) := hook ⟨comment, r.read .r0, r.read .r1, r.read .r2, r.read .r3⟩ memory
  let r := ((r.write .r0 answer.r0).write .r1 answer.r1).write .r3 answer.r3
  ⟨r, memory, address, size, branched⟩

/-- Calls the host if it handles software interrupts, and the supervisor otherwise. -/
def softwareInterrupt (c : Context M) (hook? : Option (Hook M)) (comment : BitVec 24) :
    Context M :=
  match hook? with
  | some hook => c.callHook hook (comment.setWidth 32)
  | none => c.enterSupervisor

end Context

end Handheld
