import Handheld.Proofs.Execution.Confinement
import Handheld.Proofs.Machine.Step

/-!
# Proofs/Machine/Confinement — programs in user mode are confined

A step in user mode that takes no interrupt and calls no supervisor stays in user mode, masks and
unmasks nothing and leaves every bank as it was; and two machines that differ in their banks only
cannot be told apart by it.  Both follow from one equation, that such a step commutes with an
exchange of the banks, and hold along every run of such steps (`user_run_confined`).
-/

namespace Handheld.Machine

/-- The same machine with other banks. -/
def withBanks (m : Machine) (b : Vector Bank 6) : Machine :=
  { m with registers := m.registers.withBanks b }

/-- The next step executes a software interrupt that no host handles. -/
def CallsSupervisor (m : Machine) : Prop :=
  m.hook? = none ∧ m.deliver.bus.interrupts.halted = false
    ∧ ∃ i, m.decoded? m.deliver.fetch = some i ∧ i.CallsSupervisor m.registers.flags

/-- The next step enters no handler. -/
structure Unprivileged (m : Machine) : Prop where
  /-- It takes no interrupt. -/
  taken : m.taken? = none
  /-- It calls no supervisor. -/
  called : ¬m.CallsSupervisor

/-- Two machines differ in the content of their banks only. -/
structure AgreesOutsideBanks (m' m : Machine) : Prop where
  /-- The visible registers are the same. -/
  visible : m'.registers.visible = m.registers.visible
  /-- The status is the same. -/
  status : m'.registers.status = m.registers.status
  /-- The memories and devices are the same. -/
  bus : m'.bus = m.bus
  /-- The host is the same. -/
  hook? : m'.hook? = m.hook?
  /-- The cycles since the start are the same. -/
  cycles : m'.cycles = m.cycles

variable {m : Machine}

theorem AgreesOutsideBanks.eq_withBanks {m' : Machine} (h : m'.AgreesOutsideBanks m) :
    m' = m.withBanks m'.registers.banks := by
  obtain ⟨⟨visible, flags, mode, banks⟩, bus, hook?, cycles⟩ := m'
  obtain ⟨hv, hs, rfl, rfl, rfl⟩ := h
  have hm : mode = m.registers.mode := by
    have := congrArg Psr.mode? hs
    simpa only [Registers.mode?_status, Option.some.injEq] using this
  have hf : flags = m.registers.flags := congrArg Psr.toFlags hs
  subst hv hm hf
  rfl

theorem agreesOutsideBanks_withBanks (m : Machine) (b : Vector Bank 6) :
    (m.withBanks b).AgreesOutsideBanks m := ⟨rfl, rfl, rfl, rfl, rfl⟩

/-! ## One step -/

/-- What an instruction left is taken over banks and all. -/
theorem conclude_withBanks (m : Machine) (o : Outcome Bus) (b : Vector Bank 6) :
    (m.withBanks b).conclude (o.withBanks b)
      = ((m.conclude o).1, (m.conclude o).2.withBanks b) := by
  obtain ⟨r, bus, fault | ⟨cycles, branched⟩⟩ := o
  · rfl
  · cases branched <;> rfl

theorem privilege_conclude (m : Machine) (o : Outcome Bus) :
    (m.conclude o).2.registers.privilege = o.registers.privilege := by
  obtain ⟨r, bus, fault | ⟨cycles, branched⟩⟩ := o
  · rfl
  · cases branched <;> rfl

/-- A word that calls no supervisor is executed in user mode without use of the banks. -/
theorem executeWord_confined (h : m.registers.mode = .user) {word : Word}
    (hooked : ∀ i, m.decoded? word = some i → i.CallsSupervisor m.registers.flags →
      m.hook?.isSome) :
    (m.executeWord word).2.registers.privilege = m.registers.privilege
      ∧ ∀ b, (m.withBanks b).executeWord word
          = ((m.executeWord word).1, (m.executeWord word).2.withBanks b) := by
  have hd : ∀ b, (m.withBanks b).decoded? word = m.decoded? word := fun _ => rfl
  unfold executeWord
  simp only [hd]
  cases hw : m.decoded? word with
  | none => exact ⟨rfl, fun b => rfl⟩
  | some i =>
    obtain ⟨hp, hb⟩ := execute_confined h (hooked i hw) m.bus
    refine ⟨(privilege_conclude m _).trans hp, fun b => ?_⟩
    change (m.withBanks b).conclude (execute m.hook? i (m.registers.withBanks b) m.bus) = _
    rw [hb, conclude_withBanks]

/-- **A step in user mode that enters no handler keeps the privilege and commutes with an exchange
of the banks.** -/
theorem step_confined (h : m.registers.mode = .user) (hu : m.Unprivileged) :
    m.step.2.registers.privilege = m.registers.privilege
      ∧ ∀ b, (m.withBanks b).step = (m.step.1, m.step.2.withBanks b) := by
  cases hh : m.deliver.bus.interrupts.halted with
  | true =>
    rw [step_idle hu.taken hh]
    exact ⟨rfl, fun b => step_idle (m := m.withBanks b) hu.taken hh⟩
  | false =>
    have hooked : ∀ i, m.deliver.decoded? m.deliver.fetch = some i →
        i.CallsSupervisor m.registers.flags → m.hook?.isSome := by
      intro i hi hc
      cases hk : m.hook? with
      | none => exact absurd ⟨hk, hh, i, hi, hc⟩ hu.called
      | some hook => rfl
    rw [step_execute hu.taken hh]
    obtain ⟨hp, hb⟩ := executeWord_confined (m := m.deliver) h hooked
    exact ⟨hp, fun b => (step_execute (m := m.withBanks b) hu.taken hh).trans (hb b)⟩

/-! ## Runs -/

/-- **A run in user mode that enters no handler keeps the privilege and commutes with an exchange
of the banks.** -/
theorem run_confined (h : m.registers.mode = .user) (n : Nat)
    (free : ∀ k < n, (m.run k).2.Unprivileged) :
    (m.run n).2.registers.privilege = m.registers.privilege
      ∧ ∀ b, (m.withBanks b).run n = ((m.run n).1, (m.run n).2.withBanks b) := by
  induction n with
  | zero => exact ⟨rfl, fun b => rfl⟩
  | succ n ih =>
    obtain ⟨hp, hb⟩ := ih fun k hk => free k (Nat.lt_succ_of_lt hk)
    have hm : (m.run n).2.registers.mode = .user := by
      rw [← h]
      exact congrArg Privilege.mode hp
    obtain ⟨hp', hb'⟩ := step_confined hm (free n (Nat.lt_succ_self n))
    refine ⟨hp'.trans hp, fun b => ?_⟩
    simp only [run, hb, hb']

/-- **User mode is confined.**  However far a machine in user mode runs without entering a handler,
it is still in user mode, the interrupt masks and all banks are as they were, and a machine that
differed in its banks only has given the same results and still differs in its banks only. -/
theorem user_run_confined (m : Machine) (h : m.registers.mode = .user) (n : Nat)
    (free : ∀ k < n, (m.run k).2.Unprivileged) :
    (m.run n).2.registers.mode = .user
      ∧ (m.run n).2.registers.flags.maskInterrupt = m.registers.flags.maskInterrupt
      ∧ (m.run n).2.registers.flags.maskFast = m.registers.flags.maskFast
      ∧ (m.run n).2.registers.banks = m.registers.banks
      ∧ ∀ m' : Machine, m'.AgreesOutsideBanks m →
          (m'.run n).1 = (m.run n).1 ∧ (m'.run n).2.AgreesOutsideBanks (m.run n).2 := by
  obtain ⟨hp, hb⟩ := run_confined h n free
  have hbanks : (m.run n).2.registers.banks = m.registers.banks := by
    have hn := hb m.registers.banks
    rw [show m.withBanks m.registers.banks = m from rfl] at hn
    exact congrArg (fun p => p.2.registers.banks) hn
  refine ⟨?_, congrArg Privilege.maskInterrupt hp, congrArg Privilege.maskFast hp, hbanks, ?_⟩
  · rw [← h]
    exact congrArg Privilege.mode hp
  · intro m' hm'
    rw [hm'.eq_withBanks, hb]
    exact ⟨rfl, agreesOutsideBanks_withBanks _ _⟩

/-- A program that enters user mode and then tries to leave it by writing the status. -/
def escapeAttempt : Machine := start {
  bus := .new (.new #[0x10#8, 0xF0#8, 0x21#8, 0xE3#8, 0x1F#8, 0xF0#8, 0x21#8, 0xE3#8] 0)
  entry? := some 0x08000000#32 }

/-- Writing system mode to the status does not lead out of user mode. -/
theorem escapeAttempt_confined :
    escapeAttempt.step.2.registers.mode = .user
      ∧ (∀ k < 1, (escapeAttempt.step.2.run k).2.Unprivileged)
      ∧ (escapeAttempt.step.2.run 1).2.registers.mode = .user := by
  have hm : escapeAttempt.step.2.registers.mode = .user := by decide +kernel
  have hd : (escapeAttempt.step.2.decoded? escapeAttempt.step.2.deliver.fetch).map
      Instruction.operation = some (.writeStatus false 0xFF#32 (.immediate 0x1F#32)) := by
    decide +kernel
  have hu : ∀ k < 1, (escapeAttempt.step.2.run k).2.Unprivileged := by
    intro k hk
    obtain rfl : k = 0 := by omega
    refine ⟨by decide +kernel, ?_⟩
    rintro ⟨-, -, i, hi, -, comment, hc⟩
    rw [show (escapeAttempt.step.2.run 0).2 = escapeAttempt.step.2 from rfl] at hi
    rw [hi, Option.map_some, hc] at hd
    exact absurd hd (by simp)
  exact ⟨hm, hu, (user_run_confined _ hm 1 hu).1⟩

end Handheld.Machine
