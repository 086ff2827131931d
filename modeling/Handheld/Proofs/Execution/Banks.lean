import Handheld.Proofs.Execution.Map

/-!
# Proofs/Execution/Banks — privilege, and the banks behind the visible registers

Other banks are a change that the visible registers and the flags hide, so every operation that does
not look behind these can be done before or after it.  The privilege is the mode and the two
interrupt masks; registers, memory and the condition flags are written without a change of it.
-/

namespace Handheld

/-- The part of the status that user mode must not change. -/
structure Privilege where
  /-- The mode. -/
  mode : Mode
  /-- Interrupts are masked. -/
  maskInterrupt : Bool
  /-- Fast interrupts are masked. -/
  maskFast : Bool
  deriving DecidableEq

namespace Registers

/-- The privilege that the current status gives. -/
def privilege (r : Registers) : Privilege := ⟨r.mode, r.flags.maskInterrupt, r.flags.maskFast⟩

/-- The same registers in front of other banks. -/
def withBanks (b : Vector Bank 6) (r : Registers) : Registers := { r with banks := b }

/-- Other banks are hidden behind the visible registers. -/
theorem Hides.withBanks (b : Vector Bank 6) : Hides (Registers.withBanks b) :=
  ⟨fun _ _ => rfl, fun _ _ _ => rfl, fun _ => rfl, fun _ _ => rfl⟩

end Registers

namespace Context

variable {M : Type}

/-- The same context in front of other banks. -/
def withBanks (c : Context M) (b : Vector Bank 6) : Context M := c.map (Registers.withBanks b) id

/-- The privilege that the current status gives. -/
def privilege (c : Context M) : Privilege := c.registers.privilege

variable (c : Context M)

/-- A write to a register in view is no privilege. -/
@[simp] theorem privilege_write (n : Register) (v : Word) :
    (c.write n v).privilege = c.privilege := by
  unfold write
  split <;> rfl

/-- Flags with the same interrupt masks give the same privilege. -/
theorem privilege_setFlags {f : Flags} (hi : f.maskInterrupt = c.flags.maskInterrupt)
    (hf : f.maskFast = c.flags.maskFast) : (c.setFlags f).privilege = c.privilege := by
  change (⟨_, f.maskInterrupt, f.maskFast⟩ : Privilege) = _
  rw [hi, hf]
  rfl

section Memory

variable [Memory M]

@[simp] theorem privilege_loadByte (a : Word) : (c.loadByte a).2.privilege = c.privilege := rfl

@[simp] theorem privilege_loadWord (a : Word) : (c.loadWord a).2.privilege = c.privilege := rfl

@[simp] theorem privilege_loadRotated (a : Word) :
    (c.loadRotated a).2.privilege = c.privilege := rfl

/-- Loads change no privilege. -/
@[simp] theorem privilege_loadKind (kind : LoadKind) (a : Word) :
    (c.loadKind kind a).2.privilege = c.privilege := by
  cases kind with
  | signedHalf =>
    simp only [loadKind]
    split <;> rfl
  | _ => rfl

@[simp] theorem privilege_storeByte (a : Word) (v : Byte) :
    (c.storeByte a v).privilege = c.privilege := rfl

@[simp] theorem privilege_storeWord (a v : Word) : (c.storeWord a v).privilege = c.privilege := rfl

/-- Stores change no privilege. -/
@[simp] theorem privilege_storeKind (kind : StoreKind) (a v : Word) :
    (c.storeKind kind a v).privilege = c.privilege := by
  cases kind <;> rfl

end Memory
end Context
end Handheld
