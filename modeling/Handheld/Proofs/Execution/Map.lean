import Handheld.Proofs.Execution.Cases

/-!
# Proofs/Execution/Map — executing behind a map

An instruction knows registers and memory by what it reads from them.  A map of memories that loads
and stores respect, and a change of the registers that the visible ones and the flags hide, can be
applied before an operation or after it, unless the operation looks behind the visible registers.
A map of memories alone passes through every instruction (`execute_map`): what a program does with
a memory, it does with every image of it.
-/

namespace Handheld

/-- A map of memories that loads and stores respect. -/
structure Memory.Respects {M N : Type} [Memory M] [Memory N] (f : M → N) : Prop where
  loadByte (m : M) (a : Word) :
    Memory.loadByte (f m) a = ((Memory.loadByte m a).1, f (Memory.loadByte m a).2)
  loadHalf (m : M) (a : Word) :
    Memory.loadHalf (f m) a = ((Memory.loadHalf m a).1, f (Memory.loadHalf m a).2)
  loadWord (m : M) (a : Word) :
    Memory.loadWord (f m) a = ((Memory.loadWord m a).1, f (Memory.loadWord m a).2)
  storeByte (m : M) (a : Word) (v : Byte) :
    Memory.storeByte (f m) a v = f (Memory.storeByte m a v)
  storeHalf (m : M) (a : Word) (v : Half) :
    Memory.storeHalf (f m) a v = f (Memory.storeHalf m a v)
  storeWord (m : M) (a v : Word) : Memory.storeWord (f m) a v = f (Memory.storeWord m a v)

/-- The map that changes nothing is respected. -/
theorem Memory.Respects.refl (M : Type) [Memory M] : Memory.Respects (id : M → M) :=
  ⟨fun _ _ => rfl, fun _ _ => rfl, fun _ _ => rfl, fun _ _ _ => rfl, fun _ _ _ => rfl,
    fun _ _ _ => rfl⟩

/-- A change of the registers behind the visible ones and the flags. -/
structure Registers.Hides (ρ : Registers → Registers) : Prop where
  /-- Registers are read as they were. -/
  read (r : Registers) (n : Register) : (ρ r).read n = r.read n
  /-- Writing before or after is the same. -/
  write (r : Registers) (n : Register) (v : Word) : (ρ r).write n v = ρ (r.write n v)
  /-- The flags are as they were. -/
  flags (r : Registers) : (ρ r).flags = r.flags
  /-- Writing flags before or after is the same. -/
  setFlags (r : Registers) (f : Flags) : (ρ r).setFlags f = ρ (r.setFlags f)

/-- To change nothing is to hide nothing. -/
theorem Registers.Hides.refl : Registers.Hides id :=
  ⟨fun _ _ => rfl, fun _ _ _ => rfl, fun _ => rfl, fun _ _ => rfl⟩

/-- Two hosts that answer alike behind a map of memories. -/
def Hook.Follows {M N : Type} (f : M → N) (hook : Hook M) (hook' : Hook N) : Prop :=
  ∀ call m, hook' call (f m) = ((hook call m).1, f (hook call m).2)

namespace Context

variable {M N : Type}

/-- The same context with other registers and another memory. -/
def map (ρ : Registers → Registers) (f : M → N) (c : Context M) : Context N :=
  ⟨ρ c.registers, f c.memory, c.address, c.size, c.branched⟩

variable {ρ : Registers → Registers} (hρ : Registers.Hides ρ) (f : M → N) (c : Context M)

theorem pc_map : (c.map ρ f).pc = c.pc := rfl

include hρ

/-! ## Registers and operands -/

/-- A register is read as if nothing was hidden. -/
theorem read_map (n : Register) : (c.map ρ f).read n = c.read n := by
  unfold read
  exact congrArg (fun v => if n = .pc then c.pc else v) (hρ.read c.registers n)

theorem flags_map : (c.map ρ f).flags = c.flags := hρ.flags c.registers

/-- A jump passes through, since it writes a visible register. -/
theorem jump_map (a : Word) : (c.map ρ f).jump a = (c.jump a).map ρ f := by
  have h : ∀ r, (ρ r).setPc (if (ρ r).flags.thumb then a.alignHalf else a.alignWord)
      = ρ (r.setPc (if r.flags.thumb then a.alignHalf else a.alignWord)) := by
    intro r
    rw [hρ.flags]
    exact hρ.write r .pc _
  exact congrArg (fun r => (⟨r, f c.memory, c.address, c.size, true⟩ : Context N)) (h c.registers)

/-- A write passes through, a jump or not. -/
theorem write_map (n : Register) (v : Word) : (c.map ρ f).write n v = (c.write n v).map ρ f := by
  unfold write
  split
  · exact jump_map hρ f c v
  · exact congrArg (fun r => (⟨r, f c.memory, c.address, c.size, c.branched⟩ : Context N))
      (hρ.write c.registers n v)

theorem setFlags_map (g : Flags) : (c.map ρ f).setFlags g = (c.setFlags g).map ρ f :=
  congrArg (fun r => (⟨r, f c.memory, c.address, c.size, c.branched⟩ : Context N))
    (hρ.setFlags c.registers g)

/-- An operand reads visible registers and the carry. -/
theorem operand_map (o : Operand) : (c.map ρ f).operand o = c.operand o := by
  cases o <;> simp only [operand, read_map hρ, flags_map hρ]

/-- The operand of a data operation reads visible registers and the carry. -/
theorem dataOperand_map (o : DataOperand) : (c.map ρ f).dataOperand o = c.dataOperand o := by
  cases o with
  | fixed o => exact operand_map hρ f c o
  | byRegister n kind distance => simp only [dataOperand, read_map hρ, flags_map hρ, pc_map]

/-! ## Jumps, data and products -/

theorem branch_map (offset : Word) : (c.map ρ f).branch offset = (c.branch offset).map ρ f := by
  simp only [branch, jump_map hρ, pc_map]

theorem branchLink_map (offset : Word) :
    (c.map ρ f).branchLink offset = (c.branchLink offset).map ρ f := by
  rw [branchLink, write_map hρ, branch_map hρ]
  rfl

theorem linkHigh_map (offset : Word) :
    (c.map ρ f).linkHigh offset = (c.linkHigh offset).map ρ f := by
  simp only [linkHigh, write_map hρ, pc_map]

theorem linkLow_map (offset : Word) : (c.map ρ f).linkLow offset = (c.linkLow offset).map ρ f := by
  simp only [linkLow, read_map hρ, write_map hρ, jump_map hρ]
  rfl

/-- A jump to a register writes a flag and the program counter, both visible. -/
theorem branchExchange_map (n : Register) :
    (c.map ρ f).branchExchange n = (c.branchExchange n).map ρ f := by
  simp only [branchExchange, read_map hρ, flags_map hρ, setFlags_map hρ, jump_map hρ]

theorem test_map (op : TestOp) (rn : Register) (o : DataOperand) :
    (c.map ρ f).test op rn o = (c.test op rn o).map ρ f := by
  simp only [test, dataOperand_map hρ, read_map hρ, flags_map hρ, setFlags_map hρ]

theorem addToPc_map (rd : Register) (offset : Word) :
    (c.map ρ f).addToPc rd offset = (c.addToPc rd offset).map ρ f := by
  simp only [addToPc, write_map hρ, pc_map]

/-- Flags pass through, whether a product sets them or not. -/
theorem setProductFlags_map (setFlags negative zero : Bool) :
    (c.map ρ f).setProductFlags setFlags negative zero
      = (c.setProductFlags setFlags negative zero).map ρ f := by
  cases setFlags
  · rfl
  · simp only [setProductFlags, if_true, flags_map hρ, setFlags_map hρ]

/-- A product reads and writes visible registers. -/
theorem multiply_map (setFlags : Bool) (rd rs rm : Register) (addend : Option Register) :
    (c.map ρ f).multiply setFlags rd rs rm addend
      = (c.multiply setFlags rd rs rm addend).map ρ f := by
  simp only [multiply, read_map hρ, write_map hρ, setProductFlags_map hρ]

theorem multiplyLong_map (signed accumulate setFlags : Bool) (high low rs rm : Register) :
    (c.map ρ f).multiplyLong signed accumulate setFlags high low rs rm
      = (c.multiplyLong signed accumulate setFlags high low rs rm).map ρ f := by
  simp only [multiplyLong, extended, read_map hρ, write_map hρ, setProductFlags_map hρ]

/-- A host that answers alike leaves the same behind the map. -/
theorem callHook_map {hook : Hook M} {hook' : Hook N} (hh : hook.Follows f hook')
    (comment : Word) : (c.map ρ f).callHook hook' comment = (c.callHook hook comment).map ρ f := by
  simp only [callHook, map, hρ.read, hh _ _, hρ.write]

/-! ## Loads and stores -/

/-- The addresses of a transfer come from visible registers. -/
theorem transferAddresses_map (mode : Addressing) (offset : Word) :
    (c.map ρ f).transferAddresses mode offset = c.transferAddresses mode offset := by
  simp only [transferAddresses, read_map hρ]

theorem writeBack_map (mode : Addressing) (moved : Word) :
    (c.map ρ f).writeBack mode moved = (c.writeBack mode moved).map ρ f := by
  unfold writeBack
  split
  · exact write_map hρ f c mode.base moved
  · rfl

theorem stored_map (n : Register) : (c.map ρ f).stored n = c.stored n := by
  simp only [stored, read_map hρ, pc_map]

/-- The addresses of a register list come from a visible register. -/
theorem blockAddresses_map (mode : Addressing) (count : Nat) :
    (c.map ρ f).blockAddresses mode count = c.blockAddresses mode count := by
  simp only [blockAddresses, read_map hρ]

omit hρ

section Memory

variable [Memory M] [Memory N] {f} (hf : Memory.Respects f)

include hf

theorem loadByte_map (a : Word) :
    (c.map ρ f).loadByte a = ((c.loadByte a).1, (c.loadByte a).2.map ρ f) := by
  simp only [loadByte, map, hf.loadByte]

theorem loadHalf_map (a : Word) :
    (c.map ρ f).loadHalf a = ((c.loadHalf a).1, (c.loadHalf a).2.map ρ f) := by
  simp only [loadHalf, map, hf.loadHalf]

/-- A load gives the same word on both sides of the map. -/
theorem loadWord_map (a : Word) :
    (c.map ρ f).loadWord a = ((c.loadWord a).1, (c.loadWord a).2.map ρ f) := by
  simp only [loadWord, map, hf.loadWord]

theorem loadRotated_map (a : Word) :
    (c.map ρ f).loadRotated a = ((c.loadRotated a).1, (c.loadRotated a).2.map ρ f) := by
  simp only [loadRotated, loadWord_map c hf]

/-- Every kind of load gives the same value on both sides of the map. -/
theorem loadKind_map (kind : LoadKind) (a : Word) :
    (c.map ρ f).loadKind kind a = ((c.loadKind kind a).1, (c.loadKind kind a).2.map ρ f) := by
  cases kind with
  | word => exact loadRotated_map c hf a
  | byte => simp only [loadKind, loadByte_map c hf]
  | half => simp only [loadKind, loadHalf_map c hf]
  | signedByte => simp only [loadKind, loadByte_map c hf]
  | signedHalf =>
    simp only [loadKind, loadByte_map c hf, loadHalf_map c hf]
    split <;> rfl

theorem storeByte_map (a : Word) (v : Byte) :
    (c.map ρ f).storeByte a v = (c.storeByte a v).map ρ f := by
  simp only [storeByte, map, hf.storeByte]

theorem storeHalf_map (a : Word) (v : Half) :
    (c.map ρ f).storeHalf a v = (c.storeHalf a v).map ρ f := by
  simp only [storeHalf, map, hf.storeHalf]

theorem storeWord_map (a v : Word) : (c.map ρ f).storeWord a v = (c.storeWord a v).map ρ f := by
  simp only [storeWord, map, hf.storeWord]

/-- Every kind of store passes through the map. -/
theorem storeKind_map (kind : StoreKind) (a v : Word) :
    (c.map ρ f).storeKind kind a v = (c.storeKind kind a v).map ρ f := by
  cases kind with
  | word => exact storeWord_map c hf _ _
  | byte => exact storeByte_map c hf _ _
  | half => exact storeHalf_map c hf _ _

include hρ

/-- A load instruction passes through: its addresses, what it loads and where it writes. -/
theorem load_map (kind : LoadKind) (mode : Addressing) (rd : Register) (offset : Operand) :
    (c.map ρ f).load kind mode rd offset = (c.load kind mode rd offset).map ρ f := by
  simp only [load, operand_map hρ, transferAddresses_map hρ, loadKind_map _ hf, writeBack_map hρ,
    write_map hρ]

/-- A store instruction passes through: its addresses and what it stores. -/
theorem store_map (kind : StoreKind) (mode : Addressing) (rd : Register) (offset : Operand) :
    (c.map ρ f).store kind mode rd offset = (c.store kind mode rd offset).map ρ f := by
  simp only [store, operand_map hρ, transferAddresses_map hρ, stored_map hρ, storeKind_map _ hf,
    writeBack_map hρ]

theorem loadFromPc_map (rd : Register) (offset : Word) :
    (c.map ρ f).loadFromPc rd offset = (c.loadFromPc rd offset).map ρ f := by
  simp only [loadFromPc, pc_map, loadWord_map _ hf, write_map hρ]

/-- A swap passes through, its load before its store. -/
theorem swap_map (byte : Bool) (base rd rm : Register) :
    (c.map ρ f).swap byte base rd rm = (c.swap byte base rd rm).map ρ f := by
  cases byte
  · simp only [swap, read_map hρ, loadRotated_map _ hf, storeWord_map _ hf, write_map hρ,
      Bool.false_eq_true, if_false]
  · simp only [swap, read_map hρ, loadByte_map _ hf, storeByte_map _ hf, write_map hρ, if_true]

/-- Loading a register list, if the marks of the list do not reach behind the visible registers. -/
theorem loadRegisters_map {user restore : Bool}
    (hu : user = true → ∀ (c : Context M) (n : Register) (v : Word),
      (c.map ρ f).writeUser n v = (c.writeUser n v).map ρ f)
    (hr : restore = true → ∀ c : Context M, (c.map ρ f).restoreStatus = c.restoreStatus.map ρ f)
    (list : List Register) (a : Word) : loadRegisters user restore list a (c.map ρ f)
      = (loadRegisters user restore list a c).map ρ f := by
  induction list generalizing a c with
  | nil => rfl
  | cons n rest ih =>
    have h₁ : ∀ d : Context M,
        (if restore && n = .pc then (d.map ρ f).restoreStatus else d.map ρ f)
          = (if restore && n = .pc then d.restoreStatus else d).map ρ f := by
      intro d
      split
      · next h => exact hr (Bool.and_eq_true_iff.mp h).1 d
      · rfl
    have h₂ : ∀ (d : Context M) (v : Word),
        (if user then (d.map ρ f).writeUser n v else (d.map ρ f).write n v)
          = (if user then d.writeUser n v else d.write n v).map ρ f := by
      intro d v
      split
      · next h => exact hu h d n v
      · exact write_map hρ f d n v
    simp only [loadRegisters, loadWord_map _ hf, h₁, h₂, ih]

/-- Storing a register list, if the mark of the list does not reach behind the visible registers. -/
theorem storeRegisters_map {user : Bool}
    (hu : user = true → ∀ (c : Context M) (n : Register), (c.map ρ f).readUser n = c.readUser n)
    (list : List Register) (a : Word) : storeRegisters user list a (c.map ρ f)
      = (storeRegisters user list a c).map ρ f := by
  induction list generalizing a c with
  | nil => rfl
  | cons n rest ih =>
    have h : (if user && n ≠ .pc then (c.map ρ f).readUser n else (c.map ρ f).stored n)
        = if user && n ≠ .pc then c.readUser n else c.stored n := by
      split
      · next h => exact hu (Bool.and_eq_true_iff.mp h).1 c n
      · exact stored_map hρ f c n
    simp only [storeRegisters, h, storeWord_map _ hf, ih]

/-- A register list is loaded on both sides alike, if what it does behind the visible registers
is. -/
theorem loadMultiple_map {user : Bool}
    (hu : user = true → ∀ (c : Context M) (n : Register) (v : Word),
      (c.map ρ f).writeUser n v = (c.writeUser n v).map ρ f)
    (hr : user = true → ∀ c : Context M, (c.map ρ f).restoreStatus = c.restoreStatus.map ρ f)
    (mode : Addressing) (list : Half) :
    (c.map ρ f).loadMultiple mode list user = (c.loadMultiple mode list user).map ρ f := by
  have hb : ∀ v, (if mode.writeBack then (c.map ρ f).write mode.base v else c.map ρ f)
      = (if mode.writeBack then c.write mode.base v else c).map ρ f := by
    intro v
    split
    · exact write_map hρ f c mode.base v
    · rfl
  simp only [loadMultiple, blockAddresses_map hρ, hb]
  exact loadRegisters_map hρ _ hf (fun h => hu (Bool.and_eq_true_iff.mp h).1) hr _ _

/-- A register list is stored on both sides alike, if what it reads behind the visible registers
is. -/
theorem storeMultiple_map {user : Bool}
    (hu : user = true → ∀ (c : Context M) (n : Register), (c.map ρ f).readUser n = c.readUser n)
    (mode : Addressing) (list : Half) :
    (c.map ρ f).storeMultiple mode list user = (c.storeMultiple mode list user).map ρ f := by
  simp only [storeMultiple, blockAddresses_map hρ, storeRegisters_map hρ _ hf hu]
  split
  · exact write_map hρ f _ mode.base _
  · rfl

end Memory

/-! ## Behind the visible registers -/

/-- With the registers as they are, a restored status passes through. -/
theorem restoreStatus_map : (c.map id f).restoreStatus = c.restoreStatus.map id f := rfl

theorem readUser_map (n : Register) : (c.map id f).readUser n = c.readUser n := rfl

theorem writeUser_map (n : Register) (v : Word) :
    (c.map id f).writeUser n v = (c.writeUser n v).map id f := by
  unfold writeUser
  split <;> rfl

theorem enterSupervisor_map : (c.map id f).enterSupervisor = c.enterSupervisor.map id f := rfl

theorem readStatus_map (saved : Bool) (rd : Register) :
    (c.map id f).readStatus saved rd = (c.readStatus saved rd).map id f :=
  write_map Registers.Hides.refl f c rd _

/-- A masked write to a status looks at registers alone. -/
theorem writeStatus_map (saved : Bool) (mask : Word) (data : Operand) :
    (c.map id f).writeStatus saved mask data = (c.writeStatus saved mask data).map id f := by
  simp only [writeStatus, operand_map Registers.Hides.refl]
  rfl

/-- The result of a data operation goes to registers alone. -/
theorem writeResult_map (setFlags : Bool) (rd : Register) (result : Word × Flags) :
    (c.map id f).writeResult setFlags rd result = (c.writeResult setFlags rd result).map id f := by
  unfold writeResult
  by_cases h : rd = .pc <;> cases setFlags <;>
    simp only [h, if_true, if_false, Bool.false_eq_true, restoreStatus_map,
      write_map Registers.Hides.refl, setFlags_map Registers.Hides.refl]

theorem binary_map (op : BinaryOp) (setFlags : Bool) (rd rn : Register) (o : DataOperand) :
    (c.map id f).binary op setFlags rd rn o = (c.binary op setFlags rd rn o).map id f := by
  simp only [binary, dataOperand_map Registers.Hides.refl, read_map Registers.Hides.refl,
    flags_map Registers.Hides.refl, writeResult_map]

theorem move_map (op : MoveOp) (setFlags : Bool) (rd : Register) (o : DataOperand) :
    (c.map id f).move op setFlags rd o = (c.move op setFlags rd o).map id f := by
  simp only [move, dataOperand_map Registers.Hides.refl, flags_map Registers.Hides.refl,
    writeResult_map]

/-! ## Every instruction -/

section Instruction

variable [Memory M] [Memory N] {f} (hf : Memory.Respects f)

include hf

/-- A refused instruction reads its word on both sides of the map. -/
theorem refuse_map : (c.map id f).refuse
    = ⟨c.refuse.registers, f c.refuse.memory, c.refuse.result⟩ := by
  unfold refuse Memory.load
  rw [flags_map Registers.Hides.refl]
  cases c.flags.thumb
  · simp only [map, id, Bool.false_eq_true, if_false, hf.loadWord]
  · simp only [map, id, if_true, hf.loadHalf]

variable {hook? : Option (Hook M)} {hook?' : Option (Hook N)}
  (hh : Option.Rel (Hook.Follows f) hook? hook?')

include hh

/-- **Every operation passes through a map of memories**, one case each. -/
theorem perform_map (operation : Operation) :
    (c.map id f).perform hook?' operation = (c.perform hook? operation).map id f := by
  have hρ := Registers.Hides.refl
  cases operation with
  | softwareInterrupt comment =>
    cases hh with
    | some h => exact callHook_map hρ f c h _
    | none => exact enterSupervisor_map f c
  | coprocessor word => rfl
  | branch offset => exact branch_map hρ f c offset
  | branchNarrow offset => exact branch_map hρ f c offset
  | branchLink offset => exact branchLink_map hρ f c offset
  | linkHigh offset => exact linkHigh_map hρ f c offset
  | linkLow offset => exact linkLow_map hρ f c offset
  | branchExchange n => exact branchExchange_map hρ f c n
  | swap byte base rd rm => exact swap_map hρ c hf byte base rd rm
  | load kind mode rd offset => exact load_map hρ c hf kind mode rd offset
  | store kind mode rd offset => exact store_map hρ c hf kind mode rd offset
  | loadFromPc rd offset => exact loadFromPc_map hρ c hf rd offset
  | loadMultiple mode list user =>
    exact loadMultiple_map hρ c hf (fun _ => writeUser_map f) (fun _ => restoreStatus_map f)
      mode list
  | storeMultiple mode list user =>
    exact storeMultiple_map hρ c hf (fun _ => readUser_map f) mode list
  | binary op setFlags rd rn o => exact binary_map f c op setFlags rd rn o
  | test op rn o => exact test_map hρ f c op rn o
  | move op setFlags rd o => exact move_map f c op setFlags rd o
  | addToPc rd offset => exact addToPc_map hρ f c rd offset
  | multiply setFlags rd rs rm addend => exact multiply_map hρ f c setFlags rd rs rm addend
  | multiplyLong signed accumulate setFlags high low rs rm =>
    exact multiplyLong_map hρ f c signed accumulate setFlags high low rs rm
  | writeStatus saved mask data => exact writeStatus_map f c saved mask data
  | readStatus saved rd => exact readStatus_map f c saved rd

end Instruction
end Context

/-- **An instruction does the same behind a map of memories.** -/
theorem execute_map {M N : Type} [Memory M] [Memory N] {f : M → N} (hf : Memory.Respects f)
    {hook? : Option (Hook M)} {hook?' : Option (Hook N)}
    (hh : Option.Rel (Hook.Follows f) hook? hook?') (i : Instruction) (r : Registers) (m : M) :
    execute hook?' i r (f m) = ⟨(execute hook? i r m).registers, f (execute hook? i r m).memory,
      (execute hook? i r m).result⟩ := by
  have hs : Context.start r (f m) = (Context.start r m).map id f := rfl
  cases hc : i.condition.holds r.flags
  · rw [execute_skipped hc, execute_skipped hc]
    rfl
  · by_cases hx : i.operation.IsCoprocessor
    · rw [execute_refused hc hx, execute_refused hc hx, hs, Context.refuse_map _ hf]
    · rw [execute_performed hc hx, execute_performed hc hx, hs, Context.perform_map _ hf hh]
      rfl

end Handheld
