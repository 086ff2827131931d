import Handheld.Proofs.Execution.Banks

/-!
# Proofs/Execution/UserMode — in user mode the doors to the banks are shut

User mode saves no status and its registers are visible.  In it restoring the status changes
nothing, the saved status is the current one, the registers of user mode are the visible ones, and
of the status only the condition flags can be written.
-/

namespace Handheld

/-! ## The doors, shut -/

namespace Registers

variable {r : Registers}

/-- User mode saves no status, so the status itself is read. -/
theorem savedStatus_of_user (h : r.mode = .user) : r.savedStatus = r.status := by
  rw [savedStatus, if_neg (by simp [h, Mode.savesStatus])]

/-- User mode saves no status, so none is written. -/
theorem writeSavedStatus_of_user (h : r.mode = .user) (p : Psr) : r.writeSavedStatus p = r := by
  rw [writeSavedStatus, if_neg (by simp [h, Mode.savesStatus])]

/-- User mode sees the registers as user mode sees them. -/
theorem readUser_of_user (h : r.mode = .user) (n : Register) : r.readUser n = r.read n := by
  simp [readUser, h]

theorem writeUser_of_user (h : r.mode = .user) (n : Register) (v : Word) :
    r.writeUser n v = r.write n v := by
  simp [writeUser, h]

end Registers

namespace Psr

/-- A user's mask reaches no bit below the condition flags. -/
theorem getLsbD_and_writable_user (mask : Word) {i : Nat} (hi : i < 28) :
    (mask &&& writable .user).getLsbD i = false := by
  have h : ∀ j : Fin 28, (writable .user).getLsbD j = false := by decide
  rw [BitVec.getLsbD_and, h ⟨i, hi⟩, Bool.and_false]

/-- Under a user's mask a patch keeps the bits below the condition flags. -/
theorem getLsbD_patch_user (p : Psr) (mask v : Word) {i : Nat} (hi : i < 28) :
    (v &&& (mask &&& writable .user) ||| p.toWord &&& ~~~(mask &&& writable .user)).getLsbD i
      = p.toWord.getLsbD i := by
  have h := getLsbD_and_writable_user mask hi
  generalize mask &&& writable .user = m at h ⊢
  rw [BitVec.getLsbD_or, BitVec.getLsbD_and, BitVec.getLsbD_and, BitVec.getLsbD_not, h]
  simp [show i < 32 by omega]

/-- A masked write in user mode keeps the mode bits. -/
theorem modeBits_patch_user (p : Psr) (mask v : Word) :
    (p.patch (mask &&& writable .user) v).modeBits = p.modeBits := by
  apply BitVec.eq_of_getLsbD_eq
  intro i hi
  simp only [patch, ofWord, BitVec.getLsbD_extractLsb', hi, decide_true, Bool.true_and,
    Nat.zero_add]
  rw [getLsbD_patch_user p mask v (by omega), getLsbD_toWord, if_pos hi]

/-- A masked write in user mode keeps the interrupt mask. -/
theorem maskInterrupt_patch_user (p : Psr) (mask v : Word) :
    (p.patch (mask &&& writable .user) v).maskInterrupt = p.maskInterrupt := by
  simp only [patch, ofWord]
  rw [getLsbD_patch_user p mask v (by decide), getLsbD_toWord]
  rfl

theorem maskFast_patch_user (p : Psr) (mask v : Word) :
    (p.patch (mask &&& writable .user) v).maskFast = p.maskFast := by
  simp only [patch, ofWord]
  rw [getLsbD_patch_user p mask v (by decide), getLsbD_toWord]
  rfl

end Psr

namespace Registers

/-- **In user mode a write to the status replaces flags and nothing else.** -/
theorem writeStatus_of_user {r : Registers} (h : r.mode = .user) (mask v : Word) :
    r.writeStatus (r.status.patch (mask &&& Psr.writable r.mode) v)
      = r.setFlags (r.status.patch (mask &&& Psr.writable .user) v).toFlags := by
  have hm : (r.status.patch (mask &&& Psr.writable .user) v).mode? = some r.mode := by
    rw [Psr.mode?, Psr.modeBits_patch_user]
    exact r.mode?_status
  rw [writeStatus, show Psr.writable r.mode = Psr.writable .user by rw [h], hm]
  simp only [switchMode, if_true]

end Registers

namespace Context

variable {M : Type} {c : Context M}

/-- To restore a status in user mode is to write back the one that is there. -/
theorem restoreStatus_of_user (h : c.privilege.mode = .user) : c.restoreStatus = c := by
  change { c with registers := c.registers.writeStatus c.registers.savedStatus } = c
  rw [Registers.savedStatus_of_user h, Registers.writeStatus_status]

/-- Within an instruction, user mode reads the registers in view. -/
theorem readUser_of_user (h : c.privilege.mode = .user) (n : Register) :
    c.readUser n = c.read n := by
  rw [readUser, read, Registers.readUser_of_user h]

theorem writeUser_of_user (h : c.privilege.mode = .user) (n : Register) (v : Word) :
    c.writeUser n v = c.write n v := by
  rw [writeUser, write]
  split
  · rfl
  · exact congrArg (fun r => { c with registers := r }) (Registers.writeUser_of_user h n v)

end Context
end Handheld
