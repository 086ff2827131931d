import Handheld.Execution.Basic
import Handheld.Instruction.Text
import Handheld.Proofs.Checked.Data
import Handheld.Proofs.Machine.Failure

/-!
# Proofs/Checked/Execution — every instruction with every operation checked

A load multiplies the misalignment of its address, a transfer of a register list the length of the
list, and the cycles are summed up; all else is left to the registers, the shifter and the bus.
Whatever the registers and memories hold, no instruction goes wrong (`checkedExecute_eq_ok`).
-/

namespace Handheld

open Checked

/-! ## Register lists, texts and costs -/

/-- Those of some registers that a list names. -/
def checkedFilter (list : Half) : List Register → Checked (List Register)
  | [] => return []
  | n :: rest => do
    let named ← testBit (list.setWidth 32) n
    let others ← checkedFilter list rest
    return if named then n :: others else others

/-- The registers of a list, in ascending order. -/
def checkedListed (list : Half) : Checked (List Register) := checkedFilter list (List.finRange 16)

/-- The maximal runs of consecutive numbers in an ascending list. -/
def checkedRuns : List Nat → Checked (List (Nat × Nat))
  | [] => return []
  | n :: rest => do
    match ← checkedRuns rest with
    | [] => return [(n, n)]
    | (first, last) :: more => do
      let next ← add (BitVec.ofNat 64 n) 1#64
      return if next.toNat = first then (n, last) :: more else (n, n) :: (first, last) :: more

/-- The text of a register list. -/
def checkedListText (list : Half) : Checked String := do
  let registers ← checkedListed list
  let runs ← checkedRuns (registers.map Fin.val)
  return ",".intercalate (runs.map runText)

/-- The text of an instruction, which a step writes to the log.  Only register lists take more than
putting numbers into a text. -/
def Instruction.checkedText (i : Instruction) : Checked String := do
  match i.operation with
  | .loadMultiple _ list _ | .storeMultiple _ list _ =>
    let _ ← checkedListText list
    return i.text
  | _ => return i.text

/-- A sum of two numbers of cycles, which are counted in words. -/
def addCycles (a b : Nat) : Checked Nat :=
  if a + b < 1 <<< 32 then .ok (a + b) else .error .overflow

/-- The cycles of a data operation: those of its operand, and those of a jump. -/
def checkedDataCycles (rd : Register) (operand : DataOperand) : Checked Nat := do
  let cycles ← addCycles 1 operand.cycles
  addCycles cycles (pcCycles rd)

/-- The cycles that an operation costs, added up one after the other. -/
def Operation.checkedCycles : Operation → Checked Nat
  | load kind _ rd _ => do
    let cycles ← addCycles 2 kind.busCycles
    addCycles cycles (pcCycles rd)
  | store kind .. => addCycles 1 kind.busCycles
  | loadFromPc .. => addCycles 2 LoadKind.word.busCycles
  | loadMultiple _ list _ => do
    let cycles ← addCycles (listed list).length 2
    addCycles cycles (if list.getLsbD 15 then 2 else 0)
  | storeMultiple _ list _ => addCycles (listed list).length 1
  | binary _ _ rd _ operand | move _ _ rd operand => checkedDataCycles rd operand
  | test _ _ operand => addCycles 1 operand.cycles
  | operation => return operation.cycles

/-- Every bit of a register list has a place in the halfword. -/
@[simp] theorem checkedListed_eq_ok (list : Half) : checkedListed list = .ok (listed list) := by
  have h : ∀ rs, checkedFilter list rs = .ok (rs.filter fun n => list.getLsbD n) := by
    intro rs
    induction rs with
    | nil => rfl
    | cons n rest ih =>
      have hn : (list.setWidth 32).getLsbD n = list.getLsbD n := by
        rw [BitVec.getLsbD_setWidth, decide_eq_true (by omega), Bool.true_and]
      rw [checkedFilter, testBit_eq_ok (by omega), ok_bind, ih, ok_bind, pure_eq_ok, hn,
        List.filter_cons]
  exact h _

/-- The end of a run of register numbers is counted on without overflow. -/
theorem checkedRuns_eq_ok {ns : List Nat} (h : ∀ n ∈ ns, n < 16) :
    checkedRuns ns = .ok (runs ns) := by
  induction ns with
  | nil => rfl
  | cons n rest ih =>
    have h16 : n < 16 := h n List.mem_cons_self
    have hn : (BitVec.ofNat 64 n).toNat = n := Nat.mod_eq_of_lt (by omega)
    have hnext : (BitVec.ofNat 64 n).toNat + (1#64).toNat < 1 <<< 64 := by
      rw [hn, show (1#64).toNat = 1 from rfl]
      omega
    rw [checkedRuns, ih fun m hm => h m (List.mem_cons_of_mem n hm), ok_bind, runs]
    cases runs rest with
    | nil => rfl
    | cons run more =>
      dsimp only
      rw [add_eq_ok hnext, ok_bind, pure_eq_ok, BitVec.toNat_add_of_lt hnext, hn]
      rfl

/-- A register list is written out for every mask. -/
@[simp] theorem checkedListText_eq_ok (list : Half) :
    checkedListText list = .ok (listText list) := by
  have hlt : ∀ n ∈ (listed list).map Fin.val, n < 16 := by
    intro n hn
    obtain ⟨r, -, rfl⟩ := List.mem_map.mp hn
    exact r.isLt
  rw [checkedListText, checkedListed_eq_ok, ok_bind, checkedRuns_eq_ok hlt, ok_bind, pure_eq_ok,
    listText]

/-- **Every instruction can be written out**, the undefined and the unimplemented ones too. -/
@[simp] theorem Instruction.checkedText_eq_ok (i : Instruction) : i.checkedText = .ok i.text := by
  unfold checkedText
  split
  · rw [checkedListText_eq_ok, ok_bind, pure_eq_ok]
  · rw [checkedListText_eq_ok, ok_bind, pure_eq_ok]
  · rfl

theorem addCycles_eq_ok {a b : Nat} (h : a + b < 1 <<< 32) : addCycles a b = .ok (a + b) := if_pos h

/-- A data operation takes at most a handful of cycles. -/
theorem checkedDataCycles_eq_ok (rd : Register) (operand : DataOperand) :
    checkedDataCycles rd operand = .ok (1 + operand.cycles + pcCycles rd) := by
  have hpc := pcCycles_le rd
  have hoperand := operand.cycles_le
  rw [checkedDataCycles, addCycles_eq_ok (by omega), ok_bind, addCycles_eq_ok (by omega)]

/-- No sum of cycles comes near to the end of a word. -/
@[simp] theorem Operation.checkedCycles_eq_ok (o : Operation) : o.checkedCycles = .ok o.cycles := by
  cases o with
  | load kind _ rd _ =>
    have hpc := pcCycles_le rd
    have hbus := kind.busCycles_le
    rw [checkedCycles, addCycles_eq_ok (by omega), ok_bind, addCycles_eq_ok (by omega), cycles]
  | store kind =>
    have hbus := kind.busCycles_le
    rw [checkedCycles, addCycles_eq_ok (by omega), cycles]
  | loadMultiple _ list =>
    have hlist := length_listed_le list
    have hpc : (if list.getLsbD 15 then 2 else 0) ≤ 2 := by split <;> decide
    rw [checkedCycles, addCycles_eq_ok (by omega), ok_bind, addCycles_eq_ok (by omega), cycles]
  | storeMultiple _ list =>
    have hlist := length_listed_le list
    rw [checkedCycles, addCycles_eq_ok (by omega), cycles]
  | binary _ _ rd _ operand | move _ _ rd operand => exact checkedDataCycles_eq_ok rd operand
  | test _ _ operand =>
    have hoperand := operand.cycles_le
    rw [checkedCycles, addCycles_eq_ok (by omega), cycles]
  | _ => rfl

namespace Context

variable (c : Context Bus)

/-! ## Jumps -/

/-- Jumps relative to the program counter. -/
def checkedBranch (offset : Word) : Checked (Context Bus) := do
  let pc ← c.checkedRead .pc
  return c.jump (pc + offset)

/-- Calls relative to the program counter. -/
def checkedBranchLink (offset : Word) : Checked (Context Bus) :=
  (c.write .link (c.address - 4)).checkedBranch offset

/-- Puts the high part of a call's target into the link register. -/
def checkedLinkHigh (offset : Word) : Checked (Context Bus) := do
  let pc ← c.checkedRead .pc
  return c.write .link (pc + offset)

/-- Completes a call's target, puts the return address into the link register and jumps. -/
def checkedLinkLow (offset : Word) : Checked (Context Bus) := do
  let high ← c.checkedRead .link
  return (c.write .link ((c.address + 2) ||| 1#32)).jump (high + offset)

/-- Jumps to a register, whose low bit selects narrow or wide code. -/
def checkedBranchExchange (n : Register) : Checked (Context Bus) := do
  let target ← c.checkedRead n
  let thumb ← testBit target 0
  return (c.setFlags { c.flags with thumb }).jump target

/-- Calls the host if it handles software interrupts, and enters supervisor mode otherwise. -/
def checkedSoftwareInterrupt (hook? : Option (Hook Bus)) (comment : BitVec 24) :
    Checked (Context Bus) :=
  match hook? with
  | some hook => return c.callHook hook (comment.setWidth 32)
  | none => do
    let r ← c.registers.checkedEnterException .supervisor (c.address + c.size)
    return (c.withRegisters r).jump softwareInterruptVector

/-! ## Loads and stores of one register -/

/-- Loads a byte. -/
def checkedLoadByte (a : Word) : Checked (Byte × Context Bus) := do
  let v ← c.memory.checkedLoadByte a
  return (v, c)

/-- Loads the halfword around an address. -/
def checkedLoadHalf (a : Word) : Checked (Half × Context Bus) := do
  let v ← c.memory.checkedLoadHalf a
  return (v, c)

/-- Loads the word around an address. -/
def checkedLoadWord (a : Word) : Checked (Word × Context Bus) := do
  let v ← c.memory.checkedLoadWord a
  return (v, c)

/-- Changes the memory. -/
def withMemory (c : Context Bus) (b : Bus) : Context Bus := { c with memory := b }

/-- Stores a byte. -/
def checkedStoreByte (a : Word) (v : Byte) : Checked (Context Bus) :=
  (c.memory.checkedStoreByte a v).map c.withMemory

/-- Stores the halfword around an address. -/
def checkedStoreHalf (a : Word) (v : Half) : Checked (Context Bus) :=
  (c.memory.checkedStoreHalf a v).map c.withMemory

/-- Stores the word around an address. -/
def checkedStoreWord (a v : Word) : Checked (Context Bus) :=
  (c.memory.checkedStoreWord a v).map c.withMemory

/-- Loads the word around an address, rotated so that the byte at the address comes lowest. -/
def checkedLoadRotated (a : Word) : Checked (Word × Context Bus) := do
  let (v, c) ← c.checkedLoadWord a.alignWord
  let distance ← mul (a &&& 3#32) 8#32
  return (v.rotateRight distance.toNat, c)

/-- Loads what a load instruction asks for. -/
def checkedLoadKind (kind : LoadKind) (a : Word) : Checked (Word × Context Bus) :=
  match kind with
  | .word => c.checkedLoadRotated a
  | .byte => do
    let (v, c) ← c.checkedLoadByte a
    return (v.setWidth 32, c)
  | .half => do
    let (v, c) ← c.checkedLoadHalf a
    let distance ← mul (a &&& 1#32) 8#32
    return ((v.setWidth 32).rotateRight distance.toNat, c)
  | .signedByte => do
    let (v, c) ← c.checkedLoadByte a
    return (v.signExtend 32, c)
  | .signedHalf => do
    if ← testBit a 0 then
      let (v, c) ← c.checkedLoadByte a
      return (v.signExtend 32, c)
    else
      let (v, c) ← c.checkedLoadHalf a
      return (v.signExtend 32, c)

/-- Stores what a store instruction asks for. -/
def checkedStoreKind (kind : StoreKind) (a v : Word) : Checked (Context Bus) :=
  match kind with
  | .word => c.checkedStoreWord a.alignWord v
  | .byte => c.checkedStoreByte a (v.byte 0)
  | .half => c.checkedStoreHalf a.alignHalf v.lowHalf

/-- The address of a transfer and the address that is written back. -/
def checkedTransferAddresses (mode : Addressing) (offset : Word) : Checked (Word × Word) := do
  let base ← c.checkedRead mode.base
  let moved := if mode.up then base + offset else base - offset
  return (if mode.early then moved else base, moved)

/-- What a store finds in a register. -/
def checkedStored (n : Register) : Checked Word := do
  let v ← c.checkedRead n
  return if n = .pc then v + 4 else v

/-- Loads a register. -/
def checkedLoadRegister (kind : LoadKind) (mode : Addressing) (rd : Register) (offset : Operand) :
    Checked (Context Bus) := do
  let (offset, _) ← c.checkedOperand offset
  let (a, moved) ← c.checkedTransferAddresses mode offset
  let (v, c) ← c.checkedLoadKind kind a
  return (c.writeBack mode moved).write rd v

/-- Stores a register. -/
def checkedStoreRegister (kind : StoreKind) (mode : Addressing) (rd : Register)
    (offset : Operand) : Checked (Context Bus) := do
  let v ← c.checkedStored rd
  let (offset, _) ← c.checkedOperand offset
  let (a, moved) ← c.checkedTransferAddresses mode offset
  let c ← c.checkedStoreKind kind a v
  return c.writeBack mode moved

/-- Loads a word relative to the aligned program counter. -/
def checkedLoadFromPc (rd : Register) (offset : Word) : Checked (Context Bus) := do
  let pc ← c.checkedRead .pc
  let (v, c) ← c.checkedLoadWord (pc.alignWord + offset)
  return c.write rd v

/-- Exchanges a register with memory. -/
def checkedSwap (byte : Bool) (base rd rm : Register) : Checked (Context Bus) := do
  let a ← c.checkedRead base
  let v ← c.checkedRead rm
  if byte then
    let (old, c) ← c.checkedLoadByte a
    let c ← c.checkedStoreByte a (v.byte 0)
    return c.write rd (old.setWidth 32)
  else
    let (old, c) ← c.checkedLoadRotated a
    let c ← c.checkedStoreWord a v
    return c.write rd old

/-! ## Loads and stores of register lists -/

/-- The lowest address of a block of `count` words and the address that is written back. -/
def checkedBlockAddresses (mode : Addressing) (count : Nat) : Checked (Word × Word) := do
  let base ← c.checkedRead mode.base
  let length ← mul (BitVec.ofNat 32 count) 4#32
  return if mode.up then (if mode.early then base + 4 else base, base + length)
    else (if mode.early then base - length else base - length + 4, base - length)

/-- Loads registers from ascending addresses. -/
def checkedLoadRegisters (user restore : Bool) :
    List Register → Word → Context Bus → Checked (Context Bus)
  | [], _, c => return c
  | n :: rest, a, c => do
    let (v, c) ← c.checkedLoadWord a.alignWord
    let c ← if restore && n = .pc then c.checkedRestoreStatus else pure c
    let c ← if user then c.checkedWriteUser n v else pure (c.write n v)
    checkedLoadRegisters user restore rest (a + 4) c

/-- Loads the listed registers. -/
def checkedLoadMultiple (mode : Addressing) (list : Half) (user : Bool) :
    Checked (Context Bus) := do
  let withPc ← testBit (list.setWidth 32) 15
  let registers ← checkedListed list
  let (a, moved) ← c.checkedBlockAddresses mode registers.length
  let c := if mode.writeBack then c.write mode.base moved else c
  checkedLoadRegisters (user && !withPc) user registers a c

/-- Stores registers to ascending addresses. -/
def checkedStoreRegisters (user : Bool) :
    List Register → Word → Context Bus → Checked (Context Bus)
  | [], _, c => return c
  | n :: rest, a, c => do
    let v ← if user && n ≠ .pc then c.checkedReadUser n else c.checkedStored n
    let c ← c.checkedStoreWord a.alignWord v
    checkedStoreRegisters user rest (a + 4) c

/-- Stores the listed registers. -/
def checkedStoreMultiple (mode : Addressing) (list : Half) (user : Bool) :
    Checked (Context Bus) := do
  let registers ← checkedListed list
  let (a, moved) ← c.checkedBlockAddresses mode registers.length
  let c ← checkedStoreRegisters user registers a c
  return if mode.writeBack then c.write mode.base moved else c

/-! ## One instruction -/

/-- The effect of an operation. -/
def checkedPerform (hook? : Option (Hook Bus)) : Operation → Checked (Context Bus)
  | .softwareInterrupt comment => c.checkedSoftwareInterrupt hook? comment
  | .coprocessor _ => return c
  | .branch offset | .branchNarrow offset => c.checkedBranch offset
  | .branchLink offset => c.checkedBranchLink offset
  | .linkHigh offset => c.checkedLinkHigh offset
  | .linkLow offset => c.checkedLinkLow offset
  | .branchExchange n => c.checkedBranchExchange n
  | .swap byte base rd rm => c.checkedSwap byte base rd rm
  | .load kind mode rd offset => c.checkedLoadRegister kind mode rd offset
  | .store kind mode rd offset => c.checkedStoreRegister kind mode rd offset
  | .loadFromPc rd offset => c.checkedLoadFromPc rd offset
  | .loadMultiple mode list user => c.checkedLoadMultiple mode list user
  | .storeMultiple mode list user => c.checkedStoreMultiple mode list user
  | .binary op setFlags rd rn operand => c.checkedBinary op setFlags rd rn operand
  | .test op rn operand => c.checkedTest op rn operand
  | .move op setFlags rd operand => c.checkedMove op setFlags rd operand
  | .addToPc rd offset => c.checkedAddToPc rd offset
  | .multiply setFlags rd rs rm addend => c.checkedMultiply setFlags rd rs rm addend
  | .multiplyLong signed accumulate setFlags high low rs rm =>
    c.checkedMultiplyLong signed accumulate setFlags high low rs rm
  | .writeStatus saved mask data => c.checkedWriteStatus saved mask data
  | .readStatus saved rd => c.checkedReadStatus saved rd

/-- Ends an instruction that nothing can execute, reading its word again. -/
def checkedRefuse : Checked (Outcome Bus) := do
  let word ← c.memory.checkedLoad (if c.flags.thumb then .half else .word) c.address
  return ⟨c.registers, c.memory, .error (.unimplemented c.address word)⟩

end Context

/-- Executes the instruction at the program counter. -/
def checkedExecute (hook? : Option (Hook Bus)) (i : Instruction) (r : Registers) (b : Bus) :
    Checked (Outcome Bus) :=
  let c := Context.start r b
  if i.condition.holds c.flags then
    match i.operation with
    | .coprocessor _ => c.checkedRefuse
    | operation => do
      let c ← c.checkedPerform hook? operation
      let cycles ← operation.checkedCycles
      return c.retire cycles
  else return c.retire 1

/-! ## Nothing goes wrong -/

namespace Context

variable (c : Context Bus)

/-- The host is called, or the supervisor entered, behind the instruction. -/
@[simp] theorem checkedSoftwareInterrupt_eq_ok (hook? : Option (Hook Bus)) (comment : BitVec 24) :
    c.checkedSoftwareInterrupt hook? comment = .ok (c.softwareInterrupt hook? comment) := by
  cases hook? with
  | some hook => rfl
  | none =>
    rw [checkedSoftwareInterrupt, Registers.checkedEnterException_eq_ok, ok_bind, pure_eq_ok]
    rfl

/-- A byte is loaded within an instruction as on the bus. -/
@[simp] theorem checkedLoadByte_eq_ok (a : Word) : c.checkedLoadByte a = .ok (c.loadByte a) := by
  rw [checkedLoadByte, Bus.checkedLoadByte_eq_ok, ok_bind, pure_eq_ok]
  rfl

@[simp] theorem checkedLoadHalf_eq_ok (a : Word) : c.checkedLoadHalf a = .ok (c.loadHalf a) := by
  rw [checkedLoadHalf, Bus.checkedLoadHalf_eq_ok, ok_bind, pure_eq_ok]
  rfl

@[simp] theorem checkedLoadWord_eq_ok (a : Word) : c.checkedLoadWord a = .ok (c.loadWord a) := by
  rw [checkedLoadWord, Bus.checkedLoadWord_eq_ok, ok_bind, pure_eq_ok]
  rfl

/-- A byte is stored within an instruction as on the bus. -/
@[simp] theorem checkedStoreByte_eq_ok (a : Word) (v : Byte) :
    c.checkedStoreByte a v = .ok (c.storeByte a v) := by
  rw [checkedStoreByte, Bus.checkedStoreByte_eq_ok]
  rfl

@[simp] theorem checkedStoreHalf_eq_ok (a : Word) (v : Half) :
    c.checkedStoreHalf a v = .ok (c.storeHalf a v) := by
  rw [checkedStoreHalf, Bus.checkedStoreHalf_eq_ok]
  rfl

@[simp] theorem checkedStoreWord_eq_ok (a v : Word) :
    c.checkedStoreWord a v = .ok (c.storeWord a v) := by
  rw [checkedStoreWord, Bus.checkedStoreWord_eq_ok]
  rfl

/-- The distance by which a misaligned value is rotated. -/
theorem mul_misalignment (a : Word) {m : Word} (h : m.toNat ≤ 3) :
    mul (a &&& m) 8#32 = .ok ((a &&& m) * 8#32)
      ∧ ((a &&& m) * 8#32).toNat = 8 * (a &&& m).toNat := by
  have hle : (a &&& m).toNat ≤ 3 := by
    rw [BitVec.toNat_and]
    exact Nat.le_trans Nat.and_le_right h
  have hlt : (a &&& m).toNat * (8#32).toNat < 1 <<< 32 := by
    rw [show (8#32).toNat = 8 from rfl]
    omega
  refine ⟨mul_eq_ok hlt, ?_⟩
  rw [BitVec.toNat_mul_of_lt hlt, Nat.mul_comm]
  rfl

/-- A misalignment of three bytes at most is a rotation by 24 places at most. -/
@[simp] theorem checkedLoadRotated_eq_ok (a : Word) :
    c.checkedLoadRotated a = .ok (c.loadRotated a) := by
  obtain ⟨hmul, hdistance⟩ := mul_misalignment a (m := 3#32) (by decide)
  simp only [checkedLoadRotated, checkedLoadWord_eq_ok, hmul, ok_bind, pure_eq_ok, hdistance]
  rfl

/-- **Every kind of load goes well**, whatever the misalignment. -/
@[simp] theorem checkedLoadKind_eq_ok (kind : LoadKind) (a : Word) :
    c.checkedLoadKind kind a = .ok (c.loadKind kind a) := by
  cases kind with
  | word => exact c.checkedLoadRotated_eq_ok a
  | half =>
    obtain ⟨hmul, hdistance⟩ := mul_misalignment a (m := 1#32) (by decide)
    have hbit : 8 * (a &&& 1#32).toNat = if a.getLsbD 0 then 8 else 0 := by
      rw [BitVec.toNat_and, show (1#32).toNat = 1 from rfl, Nat.and_one_is_mod, BitVec.getLsbD,
        Nat.testBit_zero]
      grind
    simp only [checkedLoadKind, checkedLoadHalf_eq_ok, hmul, ok_bind, pure_eq_ok, hdistance, hbit]
    rfl
  | signedHalf =>
    simp (disch := decide) only [checkedLoadKind, testBit_eq_ok, checkedLoadByte_eq_ok,
      checkedLoadHalf_eq_ok, ok_bind, pure_eq_ok, loadKind]
    split <;> rfl
  | byte => simp only [checkedLoadKind, checkedLoadByte_eq_ok, ok_bind, pure_eq_ok]; rfl
  | signedByte => simp only [checkedLoadKind, checkedLoadByte_eq_ok, ok_bind, pure_eq_ok]; rfl

/-- Every kind of store goes well, at its aligned address. -/
@[simp] theorem checkedStoreKind_eq_ok (kind : StoreKind) (a v : Word) :
    c.checkedStoreKind kind a v = .ok (c.storeKind kind a v) := by
  cases kind with
  | word => exact c.checkedStoreWord_eq_ok _ v
  | byte => exact c.checkedStoreByte_eq_ok a _
  | half => exact c.checkedStoreHalf_eq_ok _ _

/-- Registers are loaded one after the other, as many as there are listed. -/
theorem checkedLoadRegisters_eq_ok (user restore : Bool) (rs : List Register) (a : Word) :
    checkedLoadRegisters user restore rs a c = .ok (loadRegisters user restore rs a c) := by
  induction rs generalizing a c with
  | nil => rfl
  | cons n rest ih =>
    simp only [checkedLoadRegisters, loadRegisters, checkedLoadWord_eq_ok,
      checkedRestoreStatus_eq_ok, checkedWriteUser_eq_ok, ok_bind, pure_eq_ok]
    cases restore && n = .pc
    all_goals
      cases user
      all_goals exact ih _ _

/-- Refusing an instruction reads its word again. -/
theorem checkedRefuse_eq_ok : c.checkedRefuse = .ok c.refuse := by
  have hload : ∀ w a, Memory.load c.memory w a = ((Memory.load c.memory w a).1, c.memory) := by
    intro w a
    cases w <;> rfl
  rw [checkedRefuse, Bus.checkedLoad_eq_ok, ok_bind, pure_eq_ok, refuse, hload]

variable {c} (hc : c.Sized)

include hc

/-- A branch reads the program counter ahead and jumps. -/
theorem checkedBranch_eq_ok (offset : Word) : c.checkedBranch offset = .ok (c.branch offset) := by
  rw [checkedBranch, checkedRead_eq_ok hc, ok_bind, pure_eq_ok]
  rfl

theorem checkedBranchLink_eq_ok (offset : Word) :
    c.checkedBranchLink offset = .ok (c.branchLink offset) :=
  checkedBranch_eq_ok (c := c.write .link (c.address - 4)) hc offset

/-- The first half of a long call leaves its part of the target in the link register. -/
theorem checkedLinkHigh_eq_ok (offset : Word) :
    c.checkedLinkHigh offset = .ok (c.linkHigh offset) := by
  rw [checkedLinkHigh, checkedRead_eq_ok hc, ok_bind, pure_eq_ok]
  rfl

/-- The second half of a long call jumps to the target and links to what follows. -/
theorem checkedLinkLow_eq_ok (offset : Word) :
    c.checkedLinkLow offset = .ok (c.linkLow offset) := by
  rw [checkedLinkLow, checkedRead_eq_ok hc, ok_bind, pure_eq_ok]
  rfl

/-- A jump to a register sets the width of instructions and aligns the target to it. -/
theorem checkedBranchExchange_eq_ok (n : Register) :
    c.checkedBranchExchange n = .ok (c.branchExchange n) := by
  rw [checkedBranchExchange, checkedRead_eq_ok hc, ok_bind, testBit_eq_ok (by decide), ok_bind,
    pure_eq_ok]
  rfl

/-- The addresses of a transfer wrap, as the sums that give them do. -/
theorem checkedTransferAddresses_eq_ok (mode : Addressing) (offset : Word) :
    c.checkedTransferAddresses mode offset = .ok (c.transferAddresses mode offset) := by
  rw [checkedTransferAddresses, checkedRead_eq_ok hc, ok_bind, pure_eq_ok]
  rfl

/-- A stored program counter is read further ahead. -/
theorem checkedStored_eq_ok (n : Register) : c.checkedStored n = .ok (c.stored n) := by
  rw [checkedStored, checkedRead_eq_ok hc, ok_bind, pure_eq_ok, stored]
  split
  · next h => rw [h]; rfl
  · rfl

theorem checkedLoadRegister_eq_ok (kind : LoadKind) (mode : Addressing) (rd : Register)
    (offset : Operand) :
    c.checkedLoadRegister kind mode rd offset = .ok (c.load kind mode rd offset) := by
  simp only [checkedLoadRegister, checkedOperand_eq_ok hc, checkedTransferAddresses_eq_ok hc,
    checkedLoadKind_eq_ok, ok_bind, pure_eq_ok]
  rfl

theorem checkedStoreRegister_eq_ok (kind : StoreKind) (mode : Addressing) (rd : Register)
    (offset : Operand) :
    c.checkedStoreRegister kind mode rd offset = .ok (c.store kind mode rd offset) := by
  simp only [checkedStoreRegister, checkedStored_eq_ok hc, checkedOperand_eq_ok hc,
    checkedTransferAddresses_eq_ok hc, checkedStoreKind_eq_ok, ok_bind, pure_eq_ok]
  rfl

theorem checkedLoadFromPc_eq_ok (rd : Register) (offset : Word) :
    c.checkedLoadFromPc rd offset = .ok (c.loadFromPc rd offset) := by
  simp only [checkedLoadFromPc, checkedRead_eq_ok hc, checkedLoadWord_eq_ok, ok_bind, pure_eq_ok]
  rfl

theorem checkedSwap_eq_ok (byte : Bool) (base rd rm : Register) :
    c.checkedSwap byte base rd rm = .ok (c.swap byte base rd rm) := by
  cases byte
  all_goals
    simp only [checkedSwap, checkedRead_eq_ok hc, checkedLoadByte_eq_ok, checkedStoreByte_eq_ok,
      checkedLoadRotated_eq_ok, checkedStoreWord_eq_ok, ok_bind, pure_eq_ok, if_true,
      Bool.false_eq_true, if_false]
    rfl

/-- The length of a register list, times four, is far from overflowing. -/
theorem checkedBlockAddresses_eq_ok (mode : Addressing) {count : Nat} (h : count ≤ 16) :
    c.checkedBlockAddresses mode count = .ok (c.blockAddresses mode count) := by
  have hcount : (BitVec.ofNat 32 count).toNat = count := Nat.mod_eq_of_lt (by omega)
  have hlt : (BitVec.ofNat 32 count).toNat * (4#32).toNat < 1 <<< 32 := by
    rw [hcount, show (4#32).toNat = 4 from rfl]
    omega
  have hlength : BitVec.ofNat 32 count * 4#32 = BitVec.ofNat 32 (4 * count) := by
    rw [Nat.mul_comm, BitVec.ofNat_mul]
  rw [checkedBlockAddresses, checkedRead_eq_ok hc, ok_bind, mul_eq_ok hlt, ok_bind, pure_eq_ok,
    hlength]
  rfl

/-- Every register list is loaded, the empty one too. -/
theorem checkedLoadMultiple_eq_ok (mode : Addressing) (list : Half) (user : Bool) :
    c.checkedLoadMultiple mode list user = .ok (c.loadMultiple mode list user) := by
  have hpc : (list.setWidth 32).getLsbD 15 = list.getLsbD 15 := by
    rw [BitVec.getLsbD_setWidth]
    rfl
  simp (disch := decide) only [checkedLoadMultiple, testBit_eq_ok, hpc, checkedListed_eq_ok,
    checkedBlockAddresses_eq_ok hc mode (length_listed_le list), checkedLoadRegisters_eq_ok,
    ok_bind]
  rfl

/-- Registers are stored one after the other, as many as there are listed. -/
theorem checkedStoreRegisters_eq_ok (user : Bool) (rs : List Register) (a : Word) :
    checkedStoreRegisters user rs a c = .ok (storeRegisters user rs a c) := by
  induction rs generalizing a c with
  | nil => rfl
  | cons n rest ih =>
    simp only [checkedStoreRegisters, storeRegisters, checkedReadUser_eq_ok hc,
      checkedStored_eq_ok hc, checkedStoreWord_eq_ok, ok_bind]
    cases user && n ≠ .pc
    all_goals exact ih (c := c.storeWord a.alignWord _) hc _

/-- Every register list is stored, the empty one too. -/
theorem checkedStoreMultiple_eq_ok (mode : Addressing) (list : Half) (user : Bool) :
    c.checkedStoreMultiple mode list user = .ok (c.storeMultiple mode list user) := by
  simp only [checkedStoreMultiple, checkedListed_eq_ok,
    checkedBlockAddresses_eq_ok hc mode (length_listed_le list), checkedStoreRegisters_eq_ok hc,
    ok_bind, pure_eq_ok]
  rfl

/-- **No operation goes wrong** in an instruction of the usual size. -/
theorem checkedPerform_eq_ok (hook? : Option (Hook Bus)) (o : Operation) :
    c.checkedPerform hook? o = .ok (c.perform hook? o) := by
  cases o with
  | softwareInterrupt comment => exact c.checkedSoftwareInterrupt_eq_ok hook? comment
  | coprocessor number => rfl
  | branch offset => exact checkedBranch_eq_ok hc offset
  | branchNarrow offset => exact checkedBranch_eq_ok hc offset
  | branchLink offset => exact checkedBranchLink_eq_ok hc offset
  | linkHigh offset => exact checkedLinkHigh_eq_ok hc offset
  | linkLow offset => exact checkedLinkLow_eq_ok hc offset
  | branchExchange n => exact checkedBranchExchange_eq_ok hc n
  | swap byte base rd rm => exact checkedSwap_eq_ok hc byte base rd rm
  | load kind mode rd offset => exact checkedLoadRegister_eq_ok hc kind mode rd offset
  | store kind mode rd offset => exact checkedStoreRegister_eq_ok hc kind mode rd offset
  | loadFromPc rd offset => exact checkedLoadFromPc_eq_ok hc rd offset
  | loadMultiple mode list user => exact checkedLoadMultiple_eq_ok hc mode list user
  | storeMultiple mode list user => exact checkedStoreMultiple_eq_ok hc mode list user
  | binary op setFlags rd rn operand => exact checkedBinary_eq_ok hc op setFlags rd rn operand
  | test op rn operand => exact checkedTest_eq_ok hc op rn operand
  | move op setFlags rd operand => exact checkedMove_eq_ok hc op setFlags rd operand
  | addToPc rd offset => exact checkedAddToPc_eq_ok hc rd offset
  | multiply setFlags rd rs rm addend => exact checkedMultiply_eq_ok hc setFlags rd rs rm addend
  | multiplyLong signed accumulate setFlags high low rs rm =>
    exact checkedMultiplyLong_eq_ok hc signed accumulate setFlags high low rs rm
  | writeStatus saved mask data => exact checkedWriteStatus_eq_ok hc saved mask data
  | readStatus saved rd => exact c.checkedReadStatus_eq_ok saved rd

end Context

/-- **No instruction goes wrong**, whatever the registers and memories hold. -/
theorem checkedExecute_eq_ok (hook? : Option (Hook Bus)) (i : Instruction) (r : Registers)
    (b : Bus) : checkedExecute hook? i r b = .ok (execute hook? i r b) := by
  unfold checkedExecute
  cases hcond : i.condition.holds r.flags with
  | false =>
    rw [execute_skipped hcond]
    exact if_neg (by rw [Context.flags, Context.start, hcond]; decide)
  | true =>
    rw [if_pos (by exact hcond)]
    split
    · next number hi => rw [execute_refused hcond ⟨number, hi⟩, Context.checkedRefuse_eq_ok]
    · next hi =>
      rw [execute_performed hcond fun h => h.elim hi,
        Context.checkedPerform_eq_ok (Context.sized_start r b), ok_bind,
        Operation.checkedCycles_eq_ok, ok_bind, pure_eq_ok]

end Handheld
