import Handheld.Proofs.Execution.Cases
import Handheld.Proofs.Machine.Step
import Handheld.Proofs.Registers.Return

/-!
# Proofs/Machine/Return — what a handler that returns at once leaves behind

A supervisor call saves the address of the next instruction and returns by `MOVS pc, lr`; an
interrupt saves the interrupted address less four and returns by `ADDS pc, lr, #4`.  Either way the
program finds the registers of every mode as they were, but for the two that the handler's mode
keeps for the return (`return_resumes`).
-/

namespace Handheld

/-- The adder without a carry adds. -/
theorem value_addWithCarry (a b : Word) : (addWithCarry a b false).value = a + b := by
  apply BitVec.eq_of_toNat_eq
  simp [addWithCarry, Nat.mod_mod_of_dvd]

namespace Machine

/-! ## The two ways to return -/

/-- The instruction `MOVS pc, lr`. -/
def moveReturn : Word := 0xE1B0F00E#32

/-- The instruction `ADDS pc, lr, #4`. -/
def addReturn : Word := 0xE29EF004#32

variable {m : Machine}

/-- A word that encodes an operation performs it if its condition holds. -/
theorem executeWord_of_operation {word : Word} {c : Condition} {op : Operation}
    (hd : m.decoded? word = some ⟨c, op⟩) (holds : c.holds m.registers.flags = true)
    (hop : ∀ word, op ≠ .coprocessor word) : m.executeWord word
      = m.conclude (((Context.start m.registers m.bus).perform m.hook? op).retire op.cycles) := by
  unfold executeWord
  rw [hd]
  exact congrArg m.conclude (execute_of_operation holds rfl hop m.bus)

/-- The instruction `MOVS pc, lr` returns to the link register, with the saved status. -/
theorem executeWord_moveReturn (h : m.registers.flags.thumb = false) : m.executeWord moveReturn
    = (.ok 3, { m with registers := m.registers.returnTo (m.registers.read .link) }.advance 3) := by
  have hd : m.decoded? moveReturn = some ⟨.al, .move .mov true .pc (.plain .link)⟩ := by
    rw [decoded?, h]
    decide
  rw [executeWord_of_operation hd rfl nofun]
  rfl

/-- The instruction `ADDS pc, lr, #4` returns behind the link register, with the saved status. -/
theorem executeWord_addReturn (h : m.registers.flags.thumb = false) : m.executeWord addReturn
    = (.ok 3,
        { m with registers := m.registers.returnTo (m.registers.read .link + 4) }.advance 3) := by
  have hd : m.decoded? addReturn = some ⟨.al, .binary .add true .pc .link (.immediate 4)⟩ := by
    rw [decoded?, h]
    decide
  rw [executeWord_of_operation hd rfl nofun, ← value_addWithCarry (m.registers.read .link) 4]
  rfl

section Handler

variable {r : Registers} {handler : Mode} {link vector : Word}

theorem moveReturn_resumes (hr : m.registers = r.startHandler handler link vector)
    (h : handler.savesStatus = true) (ha : r.Aligned link) :
    (m.executeWord moveReturn).1 = .ok 3
      ∧ (m.executeWord moveReturn).2.registers.Resumes r handler link := by
  have ht : m.registers.flags.thumb = false := by rw [hr]; rfl
  rw [executeWord_moveReturn ht, hr, r.read_link_startHandler]
  exact ⟨rfl, Registers.resumes_startHandler h link vector ha⟩

theorem addReturn_resumes (hr : m.registers = r.startHandler handler link vector)
    (h : handler.savesStatus = true) (ha : r.Aligned (link + 4)) :
    (m.executeWord addReturn).1 = .ok 3
      ∧ (m.executeWord addReturn).2.registers.Resumes r handler (link + 4) := by
  have ht : m.registers.flags.thumb = false := by rw [hr]; rfl
  rw [executeWord_addReturn ht, hr, r.read_link_startHandler]
  exact ⟨rfl, Registers.resumes_startHandler h link vector ha⟩

end Handler

/-! ## The two ways to enter -/

/-- A call of the supervisor starts its handler, to return behind the call. -/
theorem executeWord_callsSupervisor (hk : m.hook? = none) {word : Word} {i : Instruction}
    (hi : m.decoded? word = some i) (hc : i.CallsSupervisor m.registers.flags) :
    m.executeWord word = (.ok 3,
      { m with
        registers := m.registers.startHandler .supervisor
          (m.registers.pc + m.registers.flags.instructionSize) softwareInterruptVector
      }.advance 3) := by
  have he : execute m.hook? i m.registers m.bus
      = (Context.start m.registers m.bus).enterSupervisor.retire 3 := by
    rw [hk, execute_callsSupervisor hc]
  unfold executeWord
  rw [hi]
  dsimp only
  rw [he]
  rfl

theorem registers_interrupt_deliver (m : Machine) : m.deliver.interrupt.registers
    = m.registers.startHandler .interrupt (m.registers.pc - 4) interruptVector := rfl

/-- **An interrupt starts its handler** at the vector, to return four bytes past its link. -/
theorem starts_interrupt (m : Machine) : m.deliver.interrupt.registers.Starts m.registers .interrupt
    (m.registers.pc - 4) 0x18#32 :=
  m.registers.starts_startHandler rfl _ _

/-! ## Entering and returning -/

/-- **Entering a handler and returning from it is transparent.**  A supervisor call that no host
handles, and an interrupt that a step takes, start their handler in its own mode, interrupts masked,
wide instructions, the other flags as they were and the status saved.  The return resumes the
program, after the call or where it was interrupted, with its status and with the registers of every
mode, save the handler's link register and saved status. -/
theorem return_resumes (m : Machine) (aligned : m.registers.Aligned m.registers.pc) :
    (∀ word i, m.hook? = none → m.decoded? word = some i → i.CallsSupervisor m.registers.flags →
      let entered := m.executeWord word
      let returned := entered.2.executeWord moveReturn
      entered.1 = .ok 3 ∧ entered.2.registers.Handles m.registers .supervisor
        ∧ returned.1 = .ok 3
        ∧ returned.2.registers.Resumes m.registers .supervisor
            (m.registers.pc + m.registers.flags.instructionSize))
    ∧ (∀ k, m.taken? = some k →
      let entered := m.step
      let returned := entered.2.executeWord addReturn
      entered.1 = .ok 3 ∧ entered.2.registers.Handles m.registers .interrupt
        ∧ returned.1 = .ok 3
        ∧ returned.2.registers.Resumes m.registers .interrupt m.registers.pc) := by
  constructor
  · intro word i hk hi hc
    dsimp only
    rw [executeWord_callsSupervisor hk hi hc]
    exact ⟨rfl, m.registers.handles_startHandler rfl _ _,
      moveReturn_resumes rfl rfl aligned.add_instructionSize⟩
  · intro k hk
    have hb : m.registers.pc - 4 + 4 = m.registers.pc := by bv_omega
    have hr := addReturn_resumes m.registers_interrupt_deliver rfl (by rw [hb]; exact aligned)
    rw [hb] at hr
    dsimp only
    rw [step_interrupt hk]
    exact ⟨rfl, m.registers.handles_startHandler rfl _ _, hr⟩

/-- A machine that is about to be interrupted by the picture. -/
def interruptible : Machine := start {
  bus := (((Bus.new (.new #[] 0)).storeHalf 0x04000200#32 1#16).storeHalf 0x04000208#32 1#16).raise
    .vBlank
  entry? := some 0x08000000#32 }

/-- Out of a call of the supervisor and out of an interrupt, back to where each happened. -/
theorem interruptible_resumes :
    interruptible.registers.Aligned interruptible.registers.pc
      ∧ interruptible.decoded? 0xEF000000#32 = some ⟨.al, .softwareInterrupt 0#24⟩
      ∧ interruptible.taken? = some .vBlank
      ∧ ((interruptible.executeWord 0xEF000000#32).2.executeWord moveReturn).2.registers.Resumes
          interruptible.registers .supervisor 0x08000004#32
      ∧ (interruptible.step.2.executeWord addReturn).2.registers.Resumes
          interruptible.registers .interrupt 0x08000000#32 := by
  have ha : interruptible.registers.Aligned interruptible.registers.pc := by
    rw [Registers.Aligned]
    decide +kernel
  have hd : interruptible.decoded? 0xEF000000#32 = some ⟨.al, .softwareInterrupt 0#24⟩ := by
    decide +kernel
  have hk : interruptible.taken? = some .vBlank := by decide +kernel
  obtain ⟨hs, hi⟩ := return_resumes interruptible ha
  exact ⟨ha, hd, hk, (hs _ _ rfl hd ⟨rfl, _, rfl⟩).2.2.2, (hi _ hk).2.2.2⟩

end Machine
end Handheld
