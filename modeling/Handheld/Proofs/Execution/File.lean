import Handheld.Proofs.Execution.Footprint
import Handheld.Proofs.Registers.File

/-!
# Proofs/Execution/File — instructions on a register file

An instruction that runs on a `RegisterFile` reads the status word where it needs a status: to save
it, to transfer it, and to see whether the mode is that of users.  It writes the status through
three operations of the file: a new status, flags under a mask, and a switch of modes.  Everything
else that it does is done to the registers in view and leaves the mode and the mode bits alone
(`FileContext.lift`).

Executing on the file of registers gives the file of what executing on the registers gives
(`Outcome.file_execute`), so no instruction parts the mode from the status.
-/

namespace Handheld

/-- A register file and memory during the execution of one instruction. -/
structure FileContext (M : Type) where
  /-- The register file; its program counter holds the instruction's address until it jumps. -/
  file : RegisterFile
  /-- The memory. -/
  memory : M
  /-- The instruction's address. -/
  address : Word
  /-- The instruction's size in bytes. -/
  size : Word
  /-- The program counter was written. -/
  branched : Bool := false

namespace FileContext

variable {M : Type}

/-- Before the instruction at the program counter executes. -/
def start (f : RegisterFile) (m : M) : FileContext M where
  file := f
  memory := m
  address := f.pc
  size := f.status.instructionSize

/-- The context without the mode bits of the status. -/
def view (c : FileContext M) : Context M :=
  ⟨c.file.view, c.memory, c.address, c.size, c.branched⟩

/-- Changes the register file. -/
def mapFile (c : FileContext M) (f : RegisterFile → RegisterFile) : FileContext M :=
  { c with file := f c.file }

/-- Does what writes no status, and neither the mode nor the mode bits. -/
def lift (c : FileContext M) (f : Context M → Context M) : FileContext M :=
  let d := f c.view
  ⟨c.file.adopt d.registers, d.memory, d.address, d.size, d.branched⟩

/-- The content of a register. -/
def read (c : FileContext M) (n : Register) : Word := c.view.read n

/-- The flags. -/
def flags (c : FileContext M) : Flags := c.file.status.toFlags

/-- Writes a register; the program counter is written by jumping. -/
def write (c : FileContext M) (n : Register) (v : Word) : FileContext M := c.lift (·.write n v)

/-- Jumps to an address, aligned to the instructions in force. -/
def jump (c : FileContext M) (a : Word) : FileContext M := c.lift (·.jump a)

/-- Writes back the status that was read, with other flags. -/
def setFlags (c : FileContext M) (f : Flags) : FileContext M :=
  c.mapFile fun file => file.setFlags .all { f with modeBits := file.status.modeBits }

/-- Returns to the status saved for the current mode. -/
def restoreStatus (c : FileContext M) : FileContext M :=
  c.mapFile fun file => file.writeStatus file.savedStatus

/-! ## Operations on registers -/

/-- Writes the result of a data operation, and its flags if they are asked for. -/
def writeResult (c : FileContext M) (setFlags : Bool) (rd : Register) (result : Word × Flags) :
    FileContext M :=
  if rd = .pc then
    (if setFlags then c.restoreStatus else c).write rd result.1
  else
    let c := c.write rd result.1
    if setFlags then c.setFlags result.2 else c

/-- Combines two values into a register. -/
def binary (c : FileContext M) (op : BinaryOp) (setFlags : Bool) (rd rn : Register)
    (operand : DataOperand) : FileContext M :=
  let (b, shifter) := c.view.dataOperand operand
  c.writeResult setFlags rd (op.eval (c.read rn) b shifter c.flags)

/-- Compares two values. -/
def test (c : FileContext M) (op : TestOp) (rn : Register) (operand : DataOperand) :
    FileContext M :=
  let (b, shifter) := c.view.dataOperand operand
  c.setFlags (op.binary.eval (c.read rn) b shifter c.flags).2

/-- Moves a value into a register. -/
def move (c : FileContext M) (op : MoveOp) (setFlags : Bool) (rd : Register)
    (operand : DataOperand) : FileContext M :=
  let (v, shifter) := c.view.dataOperand operand
  c.writeResult setFlags rd (op.eval v shifter c.flags)

/-- Records the sign and the vanishing of a product, if asked to. -/
def setProductFlags (c : FileContext M) (setFlags negative zero : Bool) : FileContext M :=
  if setFlags then c.setFlags (c.flags.setResult negative zero) else c

/-- Multiplies, and adds a register if one is given. -/
def multiply (c : FileContext M) (setFlags : Bool) (rd rs rm : Register)
    (addend : Option Register) : FileContext M :=
  let v := c.read rm * c.read rs + (match addend with
    | some rn => c.read rn
    | none => 0#32)
  (c.write rd v).setProductFlags setFlags v.msb (v == 0)

/-- Multiplies to a double in two registers, and adds their former content if asked to. -/
def multiplyLong (c : FileContext M) (signed accumulate setFlags : Bool)
    (high low rs rm : Register) : FileContext M :=
  let former := if accumulate then Double.ofWords (c.read low) (c.read high) else 0#64
  let v := c.view.extended signed rm * c.view.extended signed rs + former
  let c := (c.write low (Double.lowWord v)).write high (Double.highWord v)
  c.setProductFlags setFlags v.msb (v == 0)

/-- Jumps to a register, whose low bit selects narrow or wide code. -/
def branchExchange (c : FileContext M) (n : Register) : FileContext M :=
  let target := c.read n
  (c.setFlags { c.flags with thumb := target.getLsbD 0 }).jump target

/-! ## Status words -/

/-- Reads the status or the saved status. -/
def readStatus (c : FileContext M) (saved : Bool) (rd : Register) : FileContext M :=
  c.write rd (if saved then c.file.savedStatus else c.file.status).toWord

/-- Writes the bits of the status, or the saved status, that `mask` selects.  That user mode may
write the condition flags only is read off the mode bits of the status. -/
def writeStatus (c : FileContext M) (saved : Bool) (mask : Word) (data : Operand) :
    FileContext M :=
  let v := (c.view.operand data).1
  c.mapFile fun file =>
    if saved then file.writeSavedStatus (file.savedStatus.patch mask v)
    else
      let mask := mask &&& ~~~0x20#32
      let mask := if file.status.mode? = some .user then mask &&& 0xF0000000#32 else mask
      file.writeStatus (file.status.patch mask v)

/-- Enters supervisor mode. -/
def enterSupervisor (c : FileContext M) : FileContext M :=
  (c.mapFile fun file => file.enterException .supervisor (c.address + c.size)).jump
    softwareInterruptVector

/-- Calls the host if it handles software interrupts, and the supervisor otherwise. -/
def softwareInterrupt (c : FileContext M) (hook? : Option (Hook M)) (comment : BitVec 24) :
    FileContext M :=
  match hook? with
  | some hook => c.lift (·.callHook hook (comment.setWidth 32))
  | none => c.enterSupervisor

/-! ## Everything -/

variable [Memory M]

/-- Loads registers from ascending addresses, as `Context.loadRegisters` does. -/
def loadRegisters (user restore : Bool) : List Register → Word → FileContext M → FileContext M
  | [], _, c => c
  | n :: rest, a, c =>
    let v := (c.view.loadWord a.alignWord).1
    let c := c.lift fun d => (d.loadWord a.alignWord).2
    let c := if restore && n = .pc then c.restoreStatus else c
    let c := if user then c.lift (·.writeUser n v) else c.write n v
    loadRegisters user restore rest (a + 4) c

/-- Loads the listed registers. -/
def loadMultiple (c : FileContext M) (mode : Addressing) (list : Half) (user : Bool) :
    FileContext M :=
  let (a, moved) := c.view.blockAddresses mode (listed list).length
  let c := if mode.writeBack then c.write mode.base moved else c
  loadRegisters (user && !list.getLsbD 15) user (listed list) a c

/-- The effect of an operation. -/
def perform (c : FileContext M) (hook? : Option (Hook M)) : Operation → FileContext M
  | .softwareInterrupt comment => c.softwareInterrupt hook? comment
  | .branchExchange n => c.branchExchange n
  | .loadMultiple mode list user => c.loadMultiple mode list user
  | .binary op setFlags rd rn operand => c.binary op setFlags rd rn operand
  | .test op rn operand => c.test op rn operand
  | .move op setFlags rd operand => c.move op setFlags rd operand
  | .multiply setFlags rd rs rm addend => c.multiply setFlags rd rs rm addend
  | .multiplyLong signed accumulate setFlags high low rs rm =>
    c.multiplyLong signed accumulate setFlags high low rs rm
  | .writeStatus saved mask data => c.writeStatus saved mask data
  | .readStatus saved rd => c.readStatus saved rd
  | operation => c.lift (·.perform hook? operation)

end FileContext

/-- Register file and memory after an instruction, and how it ended. -/
structure FileOutcome (M : Type) where
  /-- The register file. -/
  file : RegisterFile
  /-- The memory. -/
  memory : M
  /-- How the instruction ended. -/
  result : Except Fault Retired

namespace FileContext

variable {M : Type} [Memory M]

/-- Ends an instruction well. -/
def retire (c : FileContext M) (cycles : Nat) : FileOutcome M :=
  ⟨c.file, c.memory, .ok ⟨cycles, c.branched⟩⟩

/-- Ends an instruction that nothing can execute, reading its word again. -/
def refuse (c : FileContext M) : FileOutcome M :=
  let (word, memory) :=
    Memory.load c.memory (if c.file.status.thumb then .half else .word) c.address
  ⟨c.file, memory, .error (.unimplemented c.address word)⟩

end FileContext

/-- Executes the instruction at the program counter of a register file. -/
def RegisterFile.execute {M : Type} [Memory M] (f : RegisterFile) (hook? : Option (Hook M))
    (i : Instruction) (m : M) : FileOutcome M :=
  let c := FileContext.start f m
  if i.condition.holds c.flags then
    match i.operation with
    | .coprocessor _ => c.refuse
    | operation => (c.perform hook? operation).retire operation.cycles
  else c.retire 1

/-! ## One square for each operation -/

/-- That user mode may write the condition flags only can be read off the status. -/
theorem Registers.and_writable (r : Registers) (mask : Word) : mask &&& Psr.writable r.mode
    = if r.status.mode? = some .user then mask &&& ~~~0x20#32 &&& 0xF0000000#32
      else mask &&& ~~~0x20#32 := by
  rw [mode?_status, Psr.writable]
  by_cases h : r.mode = .user
  · rw [if_pos h, if_pos (congrArg some h), BitVec.and_assoc]
    rfl
  · rw [if_neg h, if_neg (h <| Option.some.inj ·)]

/-- What a context is with the mode written into its status. -/
def Context.file {M : Type} (c : Context M) : FileContext M :=
  ⟨c.registers.file, c.memory, c.address, c.size, c.branched⟩

namespace Context

variable {M : Type} (c : Context M)

/-- What keeps the mode can be done in view. -/
theorem file_lift (f : Context M → Context M) (h : (f c).registers.mode = c.registers.mode) :
    (f c).file = c.file.lift f := by
  change _ = FileContext.mk (c.registers.file.adopt (f c).registers) (f c).memory (f c).address
    (f c).size (f c).branched
  rw [c.registers.file_adopt h]
  rfl

/-- What is done to the registers and to their file alike is done to both contexts alike. -/
theorem file_mapRegisters {f : Registers → Registers} {g : RegisterFile → RegisterFile}
    (h : (f c.registers).file = g c.registers.file) :
    (c.mapRegisters f).file = c.file.mapFile g :=
  congrArg (fun file => FileContext.mk file c.memory c.address c.size c.branched) h

/-- A write leaves the status alone, a jump too. -/
theorem file_write (n : Register) (v : Word) : (c.write n v).file = c.file.write n v :=
  c.file_lift (·.write n v) (steady_write (List.mem_singleton_self _) v).mode

/-- A write as user mode sees the registers leaves the status alone. -/
theorem file_writeUser (n : Register) (v : Word) :
    (c.writeUser n v).file = c.file.lift (·.writeUser n v) :=
  c.file_lift (·.writeUser n v) (steady_writeUser (List.mem_singleton_self _) v).mode

theorem file_jump (a : Word) : (c.jump a).file = c.file.jump a :=
  c.file_lift (·.jump a) rfl

/-- Flags are written under the mask of all bits, with the mode bits that are there. -/
theorem file_setFlags (f : Flags) : (c.setFlags f).file = c.file.setFlags f := by
  refine c.file_mapRegisters ?_
  exact c.registers.file_mergeFlags .all { f with modeBits := c.registers.status.modeBits }

/-- What is restored is the whole saved status, mode bits and all. -/
theorem file_restoreStatus : c.restoreStatus.file = c.file.restoreStatus :=
  c.file_mapRegisters (c.registers.file_writeStatus c.registers.savedStatus)

/-- A result that restores the status switches modes before it jumps. -/
theorem file_writeResult (setFlags : Bool) (rd : Register) (result : Word × Flags) :
    (c.writeResult setFlags rd result).file = c.file.writeResult setFlags rd result := by
  unfold writeResult FileContext.writeResult
  split
  · cases setFlags with
    | false => exact c.file_write rd result.1
    | true => exact (file_write _ rd result.1).trans (congrArg (·.write rd result.1)
        c.file_restoreStatus)
  · cases setFlags with
    | false => exact c.file_write rd result.1
    | true => exact (file_setFlags _ result.2).trans (congrArg (·.setFlags result.2)
        (c.file_write rd result.1))

theorem file_setProductFlags (setFlags negative zero : Bool) :
    (c.setProductFlags setFlags negative zero).file
      = c.file.setProductFlags setFlags negative zero := by
  cases setFlags with
  | false => rfl
  | true => exact c.file_setFlags (c.flags.setResult negative zero)

theorem file_multiply (setFlags : Bool) (rd rs rm : Register) (addend : Option Register) :
    (c.multiply setFlags rd rs rm addend).file = c.file.multiply setFlags rd rs rm addend := by
  unfold multiply FileContext.multiply
  dsimp only
  rw [file_setProductFlags, file_write]
  rfl

theorem file_multiplyLong (signed accumulate setFlags : Bool) (high low rs rm : Register) :
    (c.multiplyLong signed accumulate setFlags high low rs rm).file
      = c.file.multiplyLong signed accumulate setFlags high low rs rm := by
  rw [multiplyLong, FileContext.multiplyLong, file_setProductFlags, file_write, file_write]
  rfl

/-- A jump to a register writes a flag under the mode bits that are there. -/
theorem file_branchExchange (n : Register) :
    (c.branchExchange n).file = c.file.branchExchange n := by
  rw [branchExchange, FileContext.branchExchange, file_jump, file_setFlags]
  rfl

/-- A masked write finds the same bits to write, whether it looks at the status or at the mode. -/
theorem file_writeStatus (saved : Bool) (mask : Word) (data : Operand) :
    (c.writeStatus saved mask data).file = c.file.writeStatus saved mask data := by
  rw [writeStatus, FileContext.writeStatus]
  refine c.file_mapRegisters ?_
  cases saved with
  | true => exact c.registers.file_writeSavedStatus _
  | false =>
    refine (c.registers.file_writeStatus _).trans ?_
    rw [Registers.and_writable]
    rfl

/-- The supervisor is entered with the whole status saved. -/
theorem file_enterSupervisor : c.enterSupervisor.file = c.file.enterSupervisor := by
  rw [enterSupervisor, file_jump, FileContext.enterSupervisor]
  refine congrArg (·.jump softwareInterruptVector) (c.file_mapRegisters ?_)
  exact c.registers.file_enterException .supervisor (c.address + c.size)

variable [Memory M]

/-- Registers are loaded one after the other; the program counter may restore the status on the
way. -/
theorem file_loadRegisters (user restore : Bool) (list : List Register) (a : Word) :
    (loadRegisters user restore list a c).file
      = FileContext.loadRegisters user restore list a c.file := by
  induction list generalizing a c with
  | nil => rfl
  | cons n rest ih =>
    have hload : (c.loadWord a.alignWord).2.file
        = c.file.lift fun d => (d.loadWord a.alignWord).2 :=
      c.file_lift (fun d => (d.loadWord a.alignWord).2) rfl
    have hrestore (p : Prop) [Decidable p] (d : Context M) :
        (if p then d.restoreStatus else d).file = if p then d.file.restoreStatus else d.file := by
      split
      · exact d.file_restoreStatus
      · rfl
    have hwrite (d : Context M) (v : Word) :
        (if user then d.writeUser n v else d.write n v).file
          = if user then d.file.lift (·.writeUser n v) else d.file.write n v := by
      split
      · exact d.file_writeUser n v
      · exact d.file_write n v
    rw [loadRegisters, FileContext.loadRegisters, ih, hwrite, hrestore, hload]
    rfl

theorem file_loadMultiple (mode : Addressing) (list : Half) (user : Bool) :
    (c.loadMultiple mode list user).file = c.file.loadMultiple mode list user := by
  rw [loadMultiple_eq, file_loadRegisters, FileContext.loadMultiple]
  cases mode.writeBack with
  | false => rfl
  | true =>
    rw [if_pos rfl, file_write]
    rfl

/-- **Each operation on registers is that on their file.** -/
theorem file_perform (hook? : Option (Hook M)) (op : Operation) :
    (c.perform hook? op).file = c.file.perform hook? op := by
  have stays := (c.perform_stays hook? op).2
  cases op with
  | softwareInterrupt comment =>
    cases hook? with
    | none => exact c.file_enterSupervisor
    | some hook =>
      exact c.file_lift (·.callHook hook (comment.setWidth 32))
        (c.steady_callHook hook (comment.setWidth 32)).mode
  | branchExchange n => exact c.file_branchExchange n
  | loadMultiple mode list user => exact c.file_loadMultiple mode list user
  | binary op setFlags rd rn operand => exact c.file_writeResult setFlags rd _
  | test op rn operand => exact c.file_setFlags _
  | move op setFlags rd operand => exact c.file_writeResult setFlags rd _
  | multiply setFlags rd rs rm addend => exact c.file_multiply setFlags rd rs rm addend
  | multiplyLong signed accumulate setFlags high low rs rm =>
    exact c.file_multiplyLong signed accumulate setFlags high low rs rm
  | writeStatus saved mask data => exact c.file_writeStatus saved mask data
  | readStatus saved rd =>
    cases saved
    all_goals exact c.file_write rd _
  -- The rest keeps the status, as its footprint says.
  | _ => exact c.file_lift (·.perform hook? _) stays.1

end Context

/-- What an outcome is with the mode written into the status. -/
def Outcome.file {M : Type} (o : Outcome M) : FileOutcome M :=
  ⟨o.registers.file, o.memory, o.result⟩

/-- **Executing on the file of registers gives the file of what executing on them gives.** -/
theorem Outcome.file_execute {M : Type} [Memory M] (r : Registers) (hook? : Option (Hook M))
    (i : Instruction) (m : M) : (execute hook? i r m).file = r.file.execute hook? i m := by
  have hflags : (FileContext.start r.file m).flags = r.flags := rfl
  cases hc : i.condition.holds r.flags with
  | false =>
    rw [execute_skipped hc, RegisterFile.execute, hflags, hc]
    rfl
  | true =>
    by_cases hi : i.operation.IsCoprocessor
    · obtain ⟨word, hw⟩ := hi
      rw [execute_refused hc ⟨word, hw⟩, RegisterFile.execute, hflags, hc, hw]
      rfl
    · have hop : (Context.start r m).file = FileContext.start r.file m := rfl
      have hperform := (Context.start r m).file_perform hook? i.operation
      rw [hop] at hperform
      rw [execute_performed hc hi, RegisterFile.execute, hflags, hc, if_pos rfl]
      split
      · exact absurd ⟨_, ‹_›⟩ hi
      · rw [← hperform]
        rfl

end Handheld
