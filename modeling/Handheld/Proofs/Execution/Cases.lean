import Handheld.Execution.Basic

/-!
# Proofs/Execution/Cases — the three ways in which an instruction executes

An instruction whose condition fails does nothing, one that addresses a coprocessor is refused, and
any other performs its operation.
-/

namespace Handheld

variable {M : Type} [Memory M] {hook? : Option (Hook M)} {i : Instruction} {r : Registers}

/-- The operation is one that a coprocessor would perform. -/
def Operation.IsCoprocessor (o : Operation) : Prop := ∃ word, o = .coprocessor word

/-- An instruction that enters supervisor mode, unless a host handles it. -/
def Instruction.CallsSupervisor (i : Instruction) (f : Flags) : Prop :=
  i.condition.holds f = true ∧ ∃ comment, i.operation = .softwareInterrupt comment

/-- **An instruction whose condition fails does nothing**, at the cost of one cycle. -/
theorem execute_skipped (h : i.condition.holds r.flags = false) (m : M) :
    execute hook? i r m = (Context.start r m).retire 1 := by
  simp only [execute, Context.flags, Context.start, h, Bool.false_eq_true, if_false]

/-- **An instruction for a coprocessor is refused**, and does nothing. -/
theorem execute_refused (h : i.condition.holds r.flags = true) (hi : i.operation.IsCoprocessor)
    (m : M) : execute hook? i r m = (Context.start r m).refuse := by
  obtain ⟨word, hi⟩ := hi
  simp only [execute, Context.flags, Context.start, h, if_true, hi]

/-- **Any other instruction has the effect of its operation**, at its cost. -/
theorem execute_performed (h : i.condition.holds r.flags = true)
    (hi : ¬i.operation.IsCoprocessor) (m : M) : execute hook? i r m
      = ((Context.start r m).perform hook? i.operation).retire i.operation.cycles := by
  simp only [execute, Context.flags, Context.start, h, if_true]
  split
  · exact absurd ⟨_, ‹_›⟩ hi
  · rfl

/-- An operation that is known not to be a coprocessor's. -/
theorem execute_of_operation (h : i.condition.holds r.flags = true) {op : Operation}
    (hi : i.operation = op) (hop : ∀ word, op ≠ .coprocessor word) (m : M) :
    execute hook? i r m = ((Context.start r m).perform hook? op).retire op.cycles := by
  have hnot : ¬i.operation.IsCoprocessor := fun ⟨word, hw⟩ => hop word (hi.symm.trans hw)
  rw [execute_performed h hnot, hi]

/-- Only software interrupts call a host. -/
theorem Operation.perform_hooked {op : Operation} (h : ∀ comment, op ≠ .softwareInterrupt comment)
    (c : Context M) (hook? : Option (Hook M)) : c.perform hook? op = c.perform none op := by
  cases op with
  | softwareInterrupt comment => exact absurd rfl (h comment)
  | _ => rfl

/-- A handler of the host matters to software interrupts alone. -/
theorem execute_hooked (hook? : Option (Hook M))
    (h : ∀ comment, i.operation ≠ .softwareInterrupt comment) (m : M) :
    execute hook? i r m = execute none i r m := by
  cases hc : i.condition.holds r.flags with
  | false => rw [execute_skipped hc, execute_skipped hc]
  | true =>
    by_cases hi : i.operation.IsCoprocessor
    · rw [execute_refused hc hi, execute_refused hc hi]
    · rw [execute_performed hc hi, execute_performed hc hi, Operation.perform_hooked h]

omit [Memory M] in
/-- An instruction reads a register as it is, but for the program counter. -/
theorem Context.read_of_ne_pc (c : Context M) {n : Register} (h : n ≠ .pc) :
    c.read n = c.registers.read n := by
  rw [read, if_neg h]

omit [Memory M] in
/-- An instruction that writes a register does not jump, but for the program counter. -/
theorem Context.write_of_ne_pc (c : Context M) {n : Register} (h : n ≠ .pc) (v : Word) :
    c.write n v = c.mapRegisters fun r => r.write n v := by
  rw [write, if_neg h]

/-- A software interrupt that no host handles enters supervisor mode. -/
theorem execute_callsSupervisor (h : i.CallsSupervisor r.flags) (m : M) :
    execute none i r m = (Context.start r m).enterSupervisor.retire 3 := by
  obtain ⟨hc, comment, hi⟩ := h
  rw [execute_performed hc (by rw [hi]; rintro ⟨w, hw⟩; cases hw), hi]
  rfl

end Handheld
