import Handheld.Execution.Basic
import Handheld.Proofs.Registers.Return

/-!
# Proofs/Execution/Alignment — a jump is aligned to the instructions it leads to

An operation either leaves the program counter and the width of instructions alone (`Quiet`), or it
ends in a jump, which aligns its target to the width then in force.  So while an instruction
executes the registers are always ready to go on (`Settled`): once it has jumped, at the program
counter, and before that, at its successor (`settled_perform`).
-/

namespace Handheld

/-! ## Registers -/

namespace Registers

/-- The program counter is aligned to the instructions in force. -/
def InStep (r : Registers) : Prop := r.Aligned r.pc

variable {r : Registers}

/-- A program counter that was aligned for the width of instructions is in step. -/
theorem inStep_setPc (r : Registers) (a : Word) :
    (r.setPc (if r.flags.thumb then a.alignHalf else a.alignWord)).InStep := by
  have hpc : (r.setPc (if r.flags.thumb then a.alignHalf else a.alignWord)).pc
      = if r.flags.thumb then a.alignHalf else a.alignWord := r.read_write_self .pc _
  rw [InStep, Aligned, hpc]
  change (if r.flags.thumb then _ else _) = _
  cases r.flags.thumb
  · exact (Word.alignWord_eq_self_iff a.alignWord).mpr (by rw [Word.toNat_alignWord]; omega)
  · exact Word.alignHalf_alignHalf a

/-- Being in step is being a multiple of two, or of four. -/
theorem inStep_iff : r.InStep
    ↔ if r.flags.thumb then r.pc.toNat % 2 = 0 else r.pc.toNat % 4 = 0 := by
  rw [InStep, Aligned]
  cases r.flags.thumb
  · exact Word.alignWord_eq_self_iff r.pc
  · exact Word.alignHalf_eq_self_iff r.pc

/-- Every mode sees the same program counter. -/
theorem pc_eq_physical (r : Registers) : r.pc = r.physical .pc := r.read_eq_physical .pc

/-- A new status does not move the program counter. -/
@[simp] theorem pc_writeStatus (r : Registers) (p : Psr) : (r.writeStatus p).pc = r.pc := by
  rw [pc_eq_physical, physical_writeStatus, pc_eq_physical]

@[simp] theorem pc_writeSavedStatus (r : Registers) (p : Psr) :
    (r.writeSavedStatus p).pc = r.pc := by
  unfold writeSavedStatus
  split
  all_goals rfl

theorem pc_write_of_ne (r : Registers) {n : Register} (h : n ≠ .pc) (v : Word) :
    (r.write n v).pc = r.pc := r.read_write_of_ne h v

/-- A write to another register as user mode sees it does not move the program counter. -/
theorem pc_writeUser_of_ne (r : Registers) {n : Register} (h : n ≠ .pc) (v : Word) :
    (r.writeUser n v).pc = r.pc := by
  unfold writeUser
  split_ifs
  · rfl
  · rfl
  · rfl
  · exact r.pc_write_of_ne h v

end Registers

namespace Context

variable {M : Type} {c c' c'' : Context M}

/-! ## Quiet operations -/

/-- Nothing has happened to the program counter and the width of instructions. -/
structure Quiet (c' c : Context M) : Prop where
  /-- There was no jump. -/
  branched : c'.branched = c.branched
  /-- The width of instructions is as it was. -/
  thumb : c'.flags.thumb = c.flags.thumb
  /-- The program counter is as it was. -/
  pc : c'.registers.pc = c.registers.pc

/-- To do nothing is quiet. -/
theorem Quiet.refl (c : Context M) : c.Quiet c := ⟨rfl, rfl, rfl⟩

/-- Two quiet parts are quiet together. -/
theorem Quiet.trans (h₂ : c''.Quiet c') (h₁ : c'.Quiet c) : c''.Quiet c :=
  ⟨h₂.branched.trans h₁.branched, h₂.thumb.trans h₁.thumb, h₂.pc.trans h₁.pc⟩

/-- A write to another register is quiet. -/
theorem quiet_write {n : Register} (h : n ≠ .pc) (c : Context M) (v : Word) :
    (c.write n v).Quiet c := by
  rw [write, if_neg h]
  exact ⟨rfl, rfl, c.registers.pc_write_of_ne h v⟩

theorem quiet_writeUser {n : Register} (h : n ≠ .pc) (c : Context M) (v : Word) :
    (c.writeUser n v).Quiet c := by
  rw [writeUser, if_neg h]
  exact ⟨rfl, congrArg Flags.thumb (c.registers.flags_writeUser n v),
    c.registers.pc_writeUser_of_ne h v⟩

/-- Flags that keep the width of instructions are quiet. -/
theorem quiet_setFlags (c : Context M) {f : Flags} (h : f.thumb = c.flags.thumb) :
    (c.setFlags f).Quiet c := ⟨rfl, h, rfl⟩

theorem quiet_setProductFlags (c : Context M) (setFlags negative zero : Bool) :
    (c.setProductFlags setFlags negative zero).Quiet c := by
  cases setFlags
  · exact .refl c
  · exact c.quiet_setFlags rfl

/-- A host's answer goes to registers that are not the program counter. -/
theorem quiet_callHook (c : Context M) (hook : Hook M) (comment : Word) :
    (c.callHook hook comment).Quiet c := by
  refine ⟨rfl, rfl, ?_⟩
  refine (Registers.pc_write_of_ne _ (by decide) _).trans ?_
  refine (Registers.pc_write_of_ne _ (by decide) _).trans ?_
  exact Registers.pc_write_of_ne _ (by decide) _

/-- **A write to the status never changes the width of instructions**, which is no bit that an
instruction may write. -/
theorem thumb_patch_writable (p : Psr) (m : Mode) (mask v : Word) :
    (p.patch (mask &&& Psr.writable m) v).thumb = p.thumb := by
  have hw : (Psr.writable m).getLsbD 5 = false := by
    cases m
    all_goals decide
  have hp : p.toWord.getLsbD 5 = p.thumb := p.getLsbD_toWord 5
  rw [Psr.patch, Psr.ofWord]
  dsimp only
  rw [BitVec.getLsbD_or, BitVec.getLsbD_and, BitVec.getLsbD_and, BitVec.getLsbD_and,
    BitVec.getLsbD_not, BitVec.getLsbD_and, hw, hp]
  simp

/-- A masked write to a status is quiet, since it cannot change the width of instructions. -/
theorem quiet_writeStatus (c : Context M) (saved : Bool) (mask : Word) (data : Operand) :
    (c.writeStatus saved mask data).Quiet c := by
  cases saved with
  | true => exact ⟨rfl, congrArg Flags.thumb (c.registers.flags_writeSavedStatus _),
      c.registers.pc_writeSavedStatus _⟩
  | false =>
    exact ⟨rfl, thumb_patch_writable c.registers.status c.registers.mode mask _,
      c.registers.pc_writeStatus _⟩

section Memory

variable [Memory M]

/-- A load from memory is quiet before it is written to a register. -/
theorem quiet_loadKind (c : Context M) (kind : LoadKind) (a : Word) :
    (c.loadKind kind a).2.Quiet c := by
  cases kind with
  | signedHalf =>
    rw [loadKind]
    split
    all_goals exact ⟨rfl, rfl, rfl⟩
  | _ => exact ⟨rfl, rfl, rfl⟩

theorem quiet_storeKind (c : Context M) (kind : StoreKind) (a v : Word) :
    (c.storeKind kind a v).Quiet c := by
  cases kind
  all_goals exact ⟨rfl, rfl, rfl⟩

/-- Storing a register list is quiet. -/
theorem quiet_storeRegisters (c : Context M) (user : Bool) (list : List Register) (a : Word) :
    (storeRegisters user list a c).Quiet c := by
  induction list generalizing c a with
  | nil => exact .refl c
  | cons n rest ih => exact (ih _ _).trans ⟨rfl, rfl, rfl⟩

end Memory

/-! ## Settled contexts -/

/-- The registers are ready to go on: at the program counter after a jump, and at the next
instruction, of the same width as this one, if there was none. -/
structure Settled (c : Context M) (thumb : Bool) : Prop where
  /-- A jump was aligned. -/
  jumped : c.branched = true → c.registers.InStep
  /-- Without a jump the width stays. -/
  running : c.branched = false → c.flags.thumb = thumb

variable {t : Bool}

/-- An instruction starts with a program counter that is settled. -/
theorem settled_start (r : Registers) (m : M) : (start r m).Settled r.flags.thumb :=
  ⟨nofun, fun _ => rfl⟩

/-- What is quiet leaves a settled program counter settled. -/
theorem Settled.of_quiet (h : c.Settled t) (hq : c'.Quiet c) : c'.Settled t := by
  refine ⟨fun hb => ?_, fun hb => hq.thumb.trans (h.running (hq.branched ▸ hb))⟩
  have hs := h.jumped (hq.branched ▸ hb)
  have ht : c'.registers.flags.thumb = c.registers.flags.thumb := hq.thumb
  rw [Registers.inStep_iff] at hs ⊢
  rwa [ht, hq.pc]

/-- **A jump settles whatever was before it.** -/
theorem settled_jump (c : Context M) (a : Word) : (c.jump a).Settled t :=
  ⟨fun _ => c.registers.inStep_setPc a, nofun⟩

/-- A write settles the program counter if it writes that. -/
theorem settled_write (h : c.Settled t) (n : Register) (v : Word) : (c.write n v).Settled t := by
  by_cases hn : n = .pc
  · rw [write, if_pos hn]
    exact c.settled_jump v
  · exact h.of_quiet (c.quiet_write hn v)

theorem settled_write_pc (c : Context M) (v : Word) : (c.write .pc v).Settled t := c.settled_jump v

theorem settled_writeUser (h : c.Settled t) (n : Register) (v : Word) :
    (c.writeUser n v).Settled t := by
  by_cases hn : n = .pc
  · rw [writeUser, if_pos hn]
    exact c.settled_jump v
  · exact h.of_quiet (c.quiet_writeUser hn v)

/-- A data operation that writes the program counter jumps, whatever status it restores first. -/
theorem settled_writeResult (h : c.Settled t) (setFlags : Bool) (rd : Register)
    {result : Word × Flags} (hf : result.2.thumb = c.flags.thumb) :
    (c.writeResult setFlags rd result).Settled t := by
  unfold writeResult
  by_cases hpc : rd = .pc
  · rw [if_pos hpc, hpc]
    exact settled_write_pc _ _
  · rw [if_neg hpc]
    have hw := c.quiet_write hpc result.1
    cases setFlags with
    | false => exact h.of_quiet hw
    | true => exact (h.of_quiet hw).of_quiet (quiet_setFlags _ (hf.trans hw.thumb.symm))

/-- A binary operation keeps the width of instructions. -/
theorem thumb_binary (op : BinaryOp) (a b : Word) (shifter : Bool) (f : Flags) :
    (op.eval a b shifter f).2.thumb = f.thumb := by
  cases op
  all_goals rfl

theorem thumb_move (op : MoveOp) (v : Word) (shifter : Bool) (f : Flags) :
    (op.eval v shifter f).2.thumb = f.thumb := by
  cases op
  all_goals rfl

theorem settled_writeBack (h : c.Settled t) (mode : Addressing) (moved : Word) :
    (c.writeBack mode moved).Settled t := by
  unfold writeBack
  split
  · exact settled_write h _ _
  · exact h

variable [Memory M]

/-- A swap writes one register, with a jump if that is the program counter. -/
theorem settled_swap (h : c.Settled t) (byte : Bool) (base rd rm : Register) :
    (c.swap byte base rd rm).Settled t := by
  let a := c.read base
  cases byte
  · have hs : ((c.loadRotated a).2.storeWord a (c.read rm)).Settled t :=
      h.of_quiet ⟨rfl, rfl, rfl⟩
    exact settled_write hs rd _
  · have hs : ((c.loadByte a).2.storeByte a ((c.read rm).byte 0)).Settled t :=
      h.of_quiet ⟨rfl, rfl, rfl⟩
    exact settled_write hs rd _

/-- A load of several registers restores the status only just before it jumps. -/
theorem settled_loadRegisters (h : c.Settled t) (user restore : Bool) (list : List Register)
    (a : Word) : (loadRegisters user restore list a c).Settled t := by
  induction list generalizing c a with
  | nil => exact h
  | cons n rest ih =>
    rw [loadRegisters]
    refine ih ?_ _
    have hload : (c.loadWord a.alignWord).2.Settled t := h.of_quiet ⟨rfl, rfl, rfl⟩
    by_cases hn : n = .pc
    · subst hn
      cases user
      all_goals exact settled_jump _ _
    · have hr : ¬(restore && decide (n = .pc)) = true := by simp [hn]
      rw [if_neg hr]
      split
      · exact settled_writeUser hload n _
      · exact settled_write hload n _

/-- **Every operation leaves the registers ready to go on.** -/
theorem settled_perform (h : c.Settled t) (hook? : Option (Hook M)) (op : Operation) :
    (c.perform hook? op).Settled t := by
  cases op with
  | softwareInterrupt comment =>
    cases hook? with
    | none => exact settled_jump _ _
    | some hook => exact h.of_quiet (c.quiet_callHook hook _)
  | coprocessor => exact h
  | branch | branchNarrow | branchLink | linkLow | branchExchange => exact settled_jump _ _
  | linkHigh offset => exact settled_write h .link (c.pc + offset)
  | addToPc rd offset => exact settled_write h rd (c.pc.alignWord + offset)
  | readStatus saved rd =>
    exact settled_write h rd (if saved then c.registers.savedStatus else c.registers.status).toWord
  | swap byte base rd rm => exact settled_swap h byte base rd rm
  | load kind mode rd offset =>
    exact settled_write (settled_writeBack (h.of_quiet (c.quiet_loadKind kind _)) mode _) rd _
  | store kind mode rd offset =>
    exact settled_writeBack (h.of_quiet (c.quiet_storeKind kind _ _)) mode _
  | loadFromPc rd offset =>
    let a := c.pc.alignWord + offset
    have hload : (c.loadWord a).2.Settled t := h.of_quiet ⟨rfl, rfl, rfl⟩
    exact settled_write hload rd (c.loadWord a).1
  | loadMultiple mode list user =>
    refine settled_loadRegisters ?_ _ _ _ _
    split
    · exact settled_write h _ _
    · exact h
  | storeMultiple mode list user =>
    have hs := h.of_quiet (c.quiet_storeRegisters user (listed list)
      (c.blockAddresses mode (listed list).length).1)
    change (if mode.writeBack then _ else _ : Context M).Settled t
    split
    · exact settled_write hs _ _
    · exact hs
  | binary op setFlags rd => exact settled_writeResult h setFlags rd (thumb_binary op _ _ _ _)
  | test op => exact h.of_quiet (c.quiet_setFlags (thumb_binary op.binary _ _ _ _))
  | move op setFlags rd => exact settled_writeResult h setFlags rd (thumb_move op _ _ _)
  | multiply setFlags rd =>
    exact (settled_write h rd _).of_quiet (quiet_setProductFlags _ setFlags _ _)
  | multiplyLong signed accumulate setFlags high low =>
    exact (settled_write (settled_write h low _) high _).of_quiet
      (quiet_setProductFlags _ setFlags _ _)
  | writeStatus saved mask data => exact h.of_quiet (c.quiet_writeStatus saved mask data)

end Context

end Handheld
