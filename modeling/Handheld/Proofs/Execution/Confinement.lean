import Handheld.Proofs.Execution.UserMode

/-!
# Proofs/Execution/Confinement — user mode is confined

An operation is confined if it does not depend on the banks, does not change them and keeps the
privilege.  Most are so in every mode.  Those that restore or write the status, or address the
registers of user mode, are so in user mode, where they amount to operations of the first kind; only
a call of the supervisor is not (`confined_perform`).
-/

namespace Handheld

namespace Context

variable {M : Type} {c : Context M}

/-! ## Confined operations -/

/-- An operation that finds the same whatever is in the banks, leaves them as they were, and keeps
the privilege. -/
structure Confined (f : Context M → Context M) (c : Context M) : Prop where
  /-- The banks may be exchanged before the operation or after it. -/
  withBanks (b : Vector Bank 6) : f (c.withBanks b) = (f c).withBanks b
  /-- The privilege stays. -/
  privilege : (f c).privilege = c.privilege

namespace Confined

variable {f g : Context M → Context M}

/-- Nothing to do is confined. -/
theorem refl (c : Context M) : Confined (fun c => c) c := ⟨fun _ => rfl, rfl⟩

/-- An operation is confined if the operation it amounts to in user mode is. -/
theorem of_user (h : c.privilege.mode = .user)
    (hf : ∀ d : Context M, d.privilege.mode = .user → f d = g d) (hg : Confined g c) :
    Confined f c := by
  constructor
  · intro b
    rw [hf c h, hf (c.withBanks b) h, hg.withBanks]
  · rw [hf c h, hg.privilege]

end Confined

/-! ## Jumps and calls of the host -/

/-- A branch reads and writes the program counter. -/
theorem confined_branch (offset : Word) : Confined (fun c => c.branch offset) c :=
  ⟨fun b => branch_map (.withBanks b) id c offset, rfl⟩

theorem confined_branchLink (offset : Word) : Confined (fun c => c.branchLink offset) c :=
  ⟨fun b => branchLink_map (.withBanks b) id c offset, rfl⟩

theorem confined_linkHigh (offset : Word) : Confined (fun c => c.linkHigh offset) c :=
  ⟨fun b => linkHigh_map (.withBanks b) id c offset, rfl⟩

theorem confined_linkLow (offset : Word) : Confined (fun c => c.linkLow offset) c :=
  ⟨fun b => linkLow_map (.withBanks b) id c offset, rfl⟩

/-- A jump to a register may change the width of instructions, which is no privilege. -/
theorem confined_branchExchange (n : Register) : Confined (fun c => c.branchExchange n) c :=
  ⟨fun b => branchExchange_map (.withBanks b) id c n, rfl⟩

/-- A host is handed visible registers and writes one. -/
theorem confined_callHook (hook : Hook M) (comment : Word) :
    Confined (fun c => c.callHook hook comment) c :=
  ⟨fun b => callHook_map (.withBanks b) id c (fun _ _ => rfl) comment, rfl⟩

/-! ## Data and products -/

/-- No data operation touches the interrupt masks. -/
theorem masks_binary (op : BinaryOp) (a b : Word) (shifter : Bool) (f : Flags) :
    (op.eval a b shifter f).2.maskInterrupt = f.maskInterrupt
      ∧ (op.eval a b shifter f).2.maskFast = f.maskFast := by
  cases op <;> exact ⟨rfl, rfl⟩

/-- Moves leave the interrupt masks alone. -/
theorem masks_move (op : MoveOp) (v : Word) (shifter : Bool) (f : Flags) :
    (op.eval v shifter f).2.maskInterrupt = f.maskInterrupt
      ∧ (op.eval v shifter f).2.maskFast = f.maskFast := by
  cases op <;> exact ⟨rfl, rfl⟩

/-- What `writeResult` amounts to where restoring the status changes nothing. -/
def writePlain (c : Context M) (setFlags : Bool) (rd : Register) (result : Word × Flags) :
    Context M :=
  if setFlags ∧ rd ≠ .pc then (c.write rd result.1).setFlags result.2 else c.write rd result.1

/-- In user mode a result is written without restoring a status, since none is saved. -/
theorem writeResult_of_user (h : c.privilege.mode = .user) (setFlags : Bool) (rd : Register)
    (result : Word × Flags) :
    c.writeResult setFlags rd result = c.writePlain setFlags rd result := by
  unfold writeResult writePlain
  rw [restoreStatus_of_user h]
  by_cases hrd : rd = .pc <;> cases setFlags <;> simp [hrd]

/-- A result written in user mode goes past the banks. -/
theorem writePlain_withBanks (b : Vector Bank 6) (setFlags : Bool) (rd : Register)
    (result : Word × Flags) : (c.withBanks b).writePlain setFlags rd result
      = (c.writePlain setFlags rd result).withBanks b := by
  have hb := Registers.Hides.withBanks b
  unfold writePlain withBanks
  split <;> simp only [write_map hb, setFlags_map hb]

/-- A result leaves the privilege alone if its flags leave the masks alone. -/
theorem privilege_writePlain (setFlags : Bool) (rd : Register) {result : Word × Flags}
    (h : result.2.maskInterrupt = c.flags.maskInterrupt ∧ result.2.maskFast = c.flags.maskFast) :
    (c.writePlain setFlags rd result).privilege = c.privilege := by
  unfold writePlain
  split
  · have hw : (c.write rd result.1).flags = c.flags := by
      unfold write
      split <;> rfl
    rw [privilege_setFlags _ (by rw [hw, h.1]) (by rw [hw, h.2]), privilege_write]
  · exact c.privilege_write rd result.1

/-- In user mode a binary operation is confined, also one that would restore a status. -/
theorem confined_binary (h : c.privilege.mode = .user) (op : BinaryOp) (setFlags : Bool)
    (rd rn : Register) (o : DataOperand) : Confined (fun c => c.binary op setFlags rd rn o) c := by
  have hf : ∀ d : Context M, d.privilege.mode = .user → d.binary op setFlags rd rn o
      = d.writePlain setFlags rd
          (op.eval (d.read rn) (d.dataOperand o).1 (d.dataOperand o).2 d.flags) :=
    fun d hd => writeResult_of_user hd setFlags rd _
  refine .of_user h hf ⟨fun b => ?_, ?_⟩
  · have hb := Registers.Hides.withBanks b
    rw [writePlain_withBanks]
    simp only [withBanks, dataOperand_map hb, read_map hb, flags_map hb]
  · exact privilege_writePlain setFlags rd (masks_binary op _ _ _ _)

theorem confined_test (op : TestOp) (rn : Register) (o : DataOperand) :
    Confined (fun c => c.test op rn o) c := by
  refine ⟨fun b => test_map (.withBanks b) id c op rn o, ?_⟩
  have h := masks_binary op.binary (c.read rn) (c.dataOperand o).1 (c.dataOperand o).2 c.flags
  exact c.privilege_setFlags h.1 h.2

theorem confined_move (h : c.privilege.mode = .user) (op : MoveOp) (setFlags : Bool)
    (rd : Register) (o : DataOperand) : Confined (fun c => c.move op setFlags rd o) c := by
  have hf : ∀ d : Context M, d.privilege.mode = .user → d.move op setFlags rd o
      = d.writePlain setFlags rd (op.eval (d.dataOperand o).1 (d.dataOperand o).2 d.flags) :=
    fun d hd => writeResult_of_user hd setFlags rd _
  refine .of_user h hf ⟨fun b => ?_, ?_⟩
  · have hb := Registers.Hides.withBanks b
    rw [writePlain_withBanks]
    simp only [withBanks, dataOperand_map hb, flags_map hb]
  · exact privilege_writePlain setFlags rd (masks_move op _ _ _)

theorem confined_addToPc (rd : Register) (offset : Word) :
    Confined (fun c => c.addToPc rd offset) c :=
  ⟨fun b => addToPc_map (.withBanks b) id c rd offset, c.privilege_write rd _⟩

/-- Recording a product leaves the interrupt masks alone. -/
@[simp] theorem privilege_setProductFlags (c : Context M) (setFlags negative zero : Bool) :
    (c.setProductFlags setFlags negative zero).privilege = c.privilege := by
  cases setFlags
  · rfl
  · exact c.privilege_setFlags rfl rfl

/-- A product sets at most the sign and the zero flag. -/
theorem confined_multiply (setFlags : Bool) (rd rs rm : Register) (addend : Option Register) :
    Confined (fun c => c.multiply setFlags rd rs rm addend) c :=
  ⟨fun b => multiply_map (.withBanks b) id c setFlags rd rs rm addend, by simp [multiply]⟩

theorem confined_multiplyLong (signed accumulate setFlags : Bool) (high low rs rm : Register) :
    Confined (fun c => c.multiplyLong signed accumulate setFlags high low rs rm) c :=
  ⟨fun b => multiplyLong_map (.withBanks b) id c signed accumulate setFlags high low rs rm,
    by simp [multiplyLong]⟩

/-! ## Loads and stores -/

/-- Moving the base of a transfer is no privilege. -/
@[simp] theorem privilege_writeBack (c : Context M) (mode : Addressing) (moved : Word) :
    (c.writeBack mode moved).privilege = c.privilege := by
  unfold writeBack
  split
  · exact c.privilege_write mode.base moved
  · rfl

section Memory

variable [Memory M]

/-- A load writes registers in view. -/
theorem confined_load (kind : LoadKind) (mode : Addressing) (rd : Register) (offset : Operand) :
    Confined (fun c => c.load kind mode rd offset) c :=
  ⟨fun b => load_map (.withBanks b) c (.refl M) kind mode rd offset, by simp [load]⟩

theorem confined_store (kind : StoreKind) (mode : Addressing) (rd : Register) (offset : Operand) :
    Confined (fun c => c.store kind mode rd offset) c :=
  ⟨fun b => store_map (.withBanks b) c (.refl M) kind mode rd offset, by simp [store]⟩

theorem confined_loadFromPc (rd : Register) (offset : Word) :
    Confined (fun c => c.loadFromPc rd offset) c :=
  ⟨fun b => loadFromPc_map (.withBanks b) c (.refl M) rd offset, by simp [loadFromPc]⟩

theorem confined_swap (byte : Bool) (base rd rm : Register) :
    Confined (fun c => c.swap byte base rd rm) c := by
  refine ⟨fun b => swap_map (.withBanks b) c (.refl M) byte base rd rm, ?_⟩
  cases byte <;> simp [swap]

/-! ## Register lists -/

/-- In user mode no mark of a register list makes a difference to a load. -/
theorem loadRegisters_of_user (user restore : Bool) (list : List Register) (a : Word)
    (h : c.privilege.mode = .user) :
    loadRegisters user restore list a c = loadRegisters false false list a c := by
  induction list generalizing a c with
  | nil => rfl
  | cons n rest ih =>
    have hl : (c.loadWord a.alignWord).2.privilege.mode = .user := h
    simp only [loadRegisters, restoreStatus_of_user hl, writeUser_of_user hl, ite_self]
    exact ih (a + 4) (by rw [privilege_write, privilege_loadWord, h])

/-- In user mode a list is loaded alike with the mark of user mode and without it. -/
theorem loadMultiple_of_user (h : c.privilege.mode = .user) (mode : Addressing) (list : Half)
    (user : Bool) : c.loadMultiple mode list user = c.loadMultiple mode list false := by
  have hb : ∀ v, (if mode.writeBack then c.write mode.base v else c).privilege.mode = .user := by
    intro v
    split
    · rw [privilege_write, h]
    · exact h
  simp only [loadMultiple]
  rw [loadRegisters_of_user _ _ _ _ (hb _), Bool.false_and]

/-- In user mode no mark of a register list makes a difference to a store. -/
theorem storeRegisters_of_user (user : Bool) (list : List Register) (a : Word)
    (h : c.privilege.mode = .user) :
    storeRegisters user list a c = storeRegisters false list a c := by
  induction list generalizing a c with
  | nil => rfl
  | cons n rest ih =>
    have hn : (if user && n ≠ .pc then c.readUser n else c.stored n) = c.stored n := by
      by_cases hn : n = .pc
      · simp [hn]
      · simp [stored, hn, readUser_of_user h]
    simp only [storeRegisters, hn, Bool.false_and, Bool.false_eq_true, if_false]
    exact ih (a + 4) h

/-- Loading registers in view changes no privilege. -/
theorem privilege_loadRegisters (c : Context M) (list : List Register) (a : Word) :
    (loadRegisters false false list a c).privilege = c.privilege := by
  induction list generalizing a c with
  | nil => rfl
  | cons n rest ih =>
    simp only [loadRegisters, Bool.false_and, Bool.false_eq_true, if_false]
    rw [ih, privilege_write, privilege_loadWord]

theorem privilege_storeRegisters (c : Context M) (user : Bool) (list : List Register) (a : Word) :
    (storeRegisters user list a c).privilege = c.privilege := by
  induction list generalizing a c with
  | nil => rfl
  | cons n rest ih =>
    rw [storeRegisters, ih]
    rfl

/-- In user mode a load of a register list is confined, also one that asks for the registers of
users. -/
theorem confined_loadMultiple (h : c.privilege.mode = .user) (mode : Addressing) (list : Half)
    (user : Bool) : Confined (fun c => c.loadMultiple mode list user) c := by
  refine .of_user h (fun d hd => loadMultiple_of_user hd mode list user) ⟨fun b => ?_, ?_⟩
  · exact loadMultiple_map (.withBanks b) c (.refl M) (absurd · Bool.false_ne_true)
      (absurd · Bool.false_ne_true) mode list
  · simp only [loadMultiple, Bool.false_and, privilege_loadRegisters]
    split
    · exact c.privilege_write mode.base _
    · rfl

/-- Storing a register list is confined in user mode. -/
theorem confined_storeMultiple (h : c.privilege.mode = .user) (mode : Addressing) (list : Half)
    (user : Bool) : Confined (fun c => c.storeMultiple mode list user) c := by
  have hf : ∀ d : Context M, d.privilege.mode = .user →
      d.storeMultiple mode list user = d.storeMultiple mode list false := by
    intro d hd
    simp only [storeMultiple, storeRegisters_of_user user _ _ hd]
  refine .of_user h hf ⟨fun b => ?_, ?_⟩
  · exact storeMultiple_map (.withBanks b) c (.refl M) (absurd · Bool.false_ne_true) mode list
  · simp only [storeMultiple]
    split
    · rw [privilege_write, privilege_storeRegisters]
    · exact privilege_storeRegisters c false _ _

end Memory

/-! ## The status -/

/-- In user mode both statuses read as the one that there is. -/
theorem confined_readStatus (h : c.privilege.mode = .user) (saved : Bool) (rd : Register) :
    Confined (fun c => c.readStatus saved rd) c := by
  have hf : ∀ d : Context M, d.privilege.mode = .user →
      d.readStatus saved rd = d.write rd d.registers.status.toWord := by
    intro d hd
    rw [readStatus, Registers.savedStatus_of_user hd, ite_self]
  exact .of_user h hf
    ⟨fun b => write_map (.withBanks b) id c rd _, c.privilege_write rd _⟩

/-- **In user mode a masked write reaches the condition flags alone**, and no saved status. -/
theorem confined_writeStatus (h : c.privilege.mode = .user) (saved : Bool) (mask : Word)
    (data : Operand) : Confined (fun c => c.writeStatus saved mask data) c := by
  have hf : ∀ d : Context M, d.privilege.mode = .user → d.writeStatus saved mask data
      = if saved then d else d.setFlags
          (d.registers.status.patch (mask &&& Psr.writable .user) (d.operand data).1).toFlags := by
    intro d hd
    cases saved
    · exact congrArg (fun r => { d with registers := r }) (Registers.writeStatus_of_user hd mask _)
    · exact congrArg (fun r => { d with registers := r }) (Registers.writeSavedStatus_of_user hd _)
  refine .of_user h hf ?_
  cases saved
  · refine ⟨fun b => ?_, c.privilege_setFlags ?_ ?_⟩
    · rw [withBanks, operand_map (.withBanks b)]
      rfl
    · exact Psr.maskInterrupt_patch_user _ mask _
    · exact Psr.maskFast_patch_user _ mask _
  · exact .refl c

/-! ## Every operation -/

variable [Memory M]

/-- **In user mode every operation is confined, unless it calls the supervisor.** -/
theorem confined_perform (h : c.privilege.mode = .user) (hook? : Option (Hook M))
    (operation : Operation)
    (hooked : ∀ comment, operation = .softwareInterrupt comment → hook?.isSome) :
    Confined (fun c => c.perform hook? operation) c := by
  cases operation with
  | softwareInterrupt comment =>
    obtain ⟨hook, rfl⟩ := Option.isSome_iff_exists.mp (hooked comment rfl)
    exact confined_callHook hook _
  | coprocessor word => exact .refl c
  | branch offset => exact confined_branch offset
  | branchNarrow offset => exact confined_branch offset
  | branchLink offset => exact confined_branchLink offset
  | linkHigh offset => exact confined_linkHigh offset
  | linkLow offset => exact confined_linkLow offset
  | branchExchange n => exact confined_branchExchange n
  | swap byte base rd rm => exact confined_swap byte base rd rm
  | load kind mode rd offset => exact confined_load kind mode rd offset
  | store kind mode rd offset => exact confined_store kind mode rd offset
  | loadFromPc rd offset => exact confined_loadFromPc rd offset
  | loadMultiple mode list user => exact confined_loadMultiple h mode list user
  | storeMultiple mode list user => exact confined_storeMultiple h mode list user
  | binary op setFlags rd rn o => exact confined_binary h op setFlags rd rn o
  | test op rn o => exact confined_test op rn o
  | move op setFlags rd o => exact confined_move h op setFlags rd o
  | addToPc rd offset => exact confined_addToPc rd offset
  | multiply setFlags rd rs rm addend => exact confined_multiply setFlags rd rs rm addend
  | multiplyLong signed accumulate setFlags high low rs rm =>
    exact confined_multiplyLong signed accumulate setFlags high low rs rm
  | writeStatus saved mask data => exact confined_writeStatus h saved mask data
  | readStatus saved rd => exact confined_readStatus h saved rd

end Context

/-! ## Instructions -/

/-- The outcome of an instruction with other banks. -/
def Outcome.withBanks {M : Type} (o : Outcome M) (b : Vector Bank 6) : Outcome M :=
  { o with registers := o.registers.withBanks b }

section Execute

variable {M : Type} [Memory M] {hook? : Option (Hook M)} {i : Instruction} {r : Registers}

/-- In user mode an instruction that does not call the supervisor keeps the privilege and finds the
same whatever is in the banks. -/
theorem execute_confined (h : r.mode = .user)
    (hooked : i.CallsSupervisor r.flags → hook?.isSome) (m : M) :
    (execute hook? i r m).registers.privilege = r.privilege
      ∧ ∀ b, execute hook? i (r.withBanks b) m = (execute hook? i r m).withBanks b := by
  cases hc : i.condition.holds r.flags
  · rw [execute_skipped hc]
    exact ⟨rfl, fun b => execute_skipped (r := r.withBanks b) hc m⟩
  · by_cases hx : i.operation.IsCoprocessor
    · rw [execute_refused hc hx]
      exact ⟨rfl, fun b => execute_refused (r := r.withBanks b) hc hx m⟩
    · have hp := Context.confined_perform (c := .start r m) h hook? i.operation
        fun comment hi => hooked ⟨hc, comment, hi⟩
      rw [execute_performed hc hx]
      refine ⟨hp.privilege, fun b => ?_⟩
      rw [execute_performed (r := r.withBanks b) hc hx,
        show Context.start (r.withBanks b) m = (Context.start r m).withBanks b from rfl,
        hp.withBanks]
      rfl

end Execute
end Handheld
