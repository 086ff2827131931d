import Handheld.Proofs.Encoding.Grammar
import Handheld.Proofs.Execution.Cases
import Handheld.Proofs.Machine.History

/-!
# Proofs/Machine/Failure — a failing step changes nothing

A step fails in two ways: the word at the program counter encodes nothing, or it addresses a
coprocessor and its condition holds.  Both are found before anything is changed, so the machine is
left as it was after the delivery of the queued interrupts, and the next step fails in the same way.
Every other step succeeds, and at least one cycle passes.
-/

namespace Handheld

/-! ## Costs -/

theorem length_listed_le (list : Half) : (listed list).length ≤ 16 := by
  have hlength := List.length_filter_le (fun n : Register => list.getLsbD n) (List.finRange 16)
  rwa [List.length_finRange] at hlength

theorem pcCycles_le (rd : Register) : pcCycles rd ≤ 2 := by
  unfold pcCycles
  split
  all_goals decide

theorem LoadKind.busCycles_le (kind : LoadKind) : kind.busCycles ≤ 2 := by
  cases kind
  all_goals decide

theorem StoreKind.busCycles_le (kind : StoreKind) : kind.busCycles ≤ 2 := by
  cases kind
  all_goals decide

theorem DataOperand.cycles_le (operand : DataOperand) : operand.cycles ≤ 1 := by
  cases operand
  all_goals simp [cycles]

/-- **Every operation costs a cycle or more**, except those of coprocessors, and no more than a load
of all registers. -/
theorem Operation.cycles_bounds {op : Operation} (h : ¬op.IsCoprocessor) :
    1 ≤ op.cycles ∧ op.cycles ≤ 20 := by
  cases op with
  | coprocessor number => exact (h ⟨number, rfl⟩).elim
  | load kind _ rd =>
    have hpc := pcCycles_le rd
    have hbus := kind.busCycles_le
    rw [cycles]
    omega
  | store kind =>
    have hbus := kind.busCycles_le
    rw [cycles]
    omega
  | loadMultiple _ list =>
    have hlist := length_listed_le list
    rw [cycles]
    split
    all_goals omega
  | storeMultiple _ list =>
    have hlist := length_listed_le list
    rw [cycles]
    omega
  | binary _ _ rd _ operand | move _ _ rd operand =>
    have hpc := pcCycles_le rd
    have hoperand := operand.cycles_le
    rw [cycles]
    omega
  | test _ _ operand =>
    have hoperand := operand.cycles_le
    rw [cycles]
    omega
  | multiply _ _ _ _ addend =>
    cases addend
    all_goals simp [cycles]
  | multiplyLong _ accumulate =>
    cases accumulate
    all_goals simp [cycles]
  | _ => simp [cycles]

namespace Machine

variable {m : Machine} {f : Fault}

/-! ## Delivery -/

/-- Nothing is left to deliver. -/
theorem deliver_of_queue_empty (h : m.bus.queue = 0#14) : m.deliver = m := by
  have hnone : Source.all.filter (SourceSet.has 0#14) = [] := by decide
  have hbus : m.bus.deliver = { m.bus with queue := m.bus.queue } := by
    rw [Bus.deliver, h, hnone]
    rfl
  rw [deliver, hbus]

theorem deliver_deliver (m : Machine) : m.deliver.deliver = m.deliver :=
  deliver_of_queue_empty rfl

/-- No interrupt is taken exactly if none is pending after the delivery. -/
theorem taken?_eq_none_iff : m.taken? = none ↔ m.deliver.bus.interrupts.pending = false := by
  rw [← Option.not_isSome_iff_eq_none, taken?_isSome_iff]
  simp [Controller.pending]

/-! ## Faults -/

/-- No interrupt waits and the processor is not halted, so that an instruction is to be executed. -/
def Executes (s : Machine) : Prop :=
  s.bus.interrupts.pending = false ∧ s.bus.interrupts.halted = false

theorem step_of_executes (h : m.deliver.Executes) :
    m.step = m.deliver.executeWord m.deliver.fetch :=
  step_execute (taken?_eq_none_iff.mpr h.1) h.2

/-- The machine cannot execute the instruction at its program counter, for this reason. -/
def Faults (s : Machine) : Fault → Prop
  | .undefined address word =>
    s.Executes ∧ address = s.registers.pc ∧ word = s.fetch
      ∧ decode s.registers.flags.thumb word = .error ⟨word⟩
  | .unimplemented address word =>
    s.Executes ∧ address = s.registers.pc ∧ word = s.fetch
      ∧ ∃ i, decode s.registers.flags.thumb word = .ok i ∧ i.operation.IsCoprocessor
        ∧ i.condition.holds s.registers.flags = true

/-- A fault leaves the state as it is. -/
theorem executeWord_of_faults {s : Machine} (h : s.Faults f) :
    s.executeWord s.fetch = (.error f, s) := by
  cases f with
  | undefined address word =>
    obtain ⟨-, rfl, rfl, hd⟩ := h
    have hnone : s.decoded? s.fetch = none := (decode_eq_error_iff.mp hd).1
    rw [executeWord, hnone]
  | unimplemented address word =>
    obtain ⟨-, rfl, rfl, i, hd, hi, hc⟩ := h
    have hsome : s.decoded? s.fetch = some i := decode_eq_ok_iff.mp hd
    rw [executeWord, hsome]
    change s.conclude (execute s.hook? i s.registers s.bus) = _
    rw [execute_refused hc hi, refuse_start]
    rfl

/-- Without a fault the instruction succeeds, at a cost of one to 20 cycles. -/
theorem executeWord_of_not_faults {s : Machine} (hs : s.Executes) (h : ∀ f, ¬s.Faults f) :
    ∃ c, 1 ≤ c ∧ c ≤ 20 ∧ (s.executeWord s.fetch).1 = .ok c
      ∧ (s.executeWord s.fetch).2.cycles = s.cycles + BitVec.ofNat 64 c := by
  cases hd : s.decoded? s.fetch with
  | none =>
    have hundefined : s.Faults (.undefined s.registers.pc s.fetch) :=
      ⟨hs, rfl, rfl, decode_eq_error_iff.mpr ⟨hd, rfl⟩⟩
    exact (h _ hundefined).elim
  | some i =>
    rw [executeWord, hd]
    change ∃ c, 1 ≤ c ∧ c ≤ 20 ∧ (s.conclude (execute s.hook? i s.registers s.bus)).1 = .ok c
      ∧ (s.conclude (execute s.hook? i s.registers s.bus)).2.cycles = s.cycles + BitVec.ofNat 64 c
    cases hc : i.condition.holds s.registers.flags with
    | false =>
      rw [execute_skipped hc]
      exact ⟨1, by decide, by decide, rfl, rfl⟩
    | true =>
      have hi : ¬i.operation.IsCoprocessor := fun hi =>
        h (.unimplemented s.registers.pc s.fetch)
          ⟨hs, rfl, rfl, i, decode_eq_ok_iff.mpr hd, hi, hc⟩
      obtain ⟨hpos, hle⟩ := Operation.cycles_bounds hi
      rw [execute_performed hc hi]
      exact ⟨i.operation.cycles, hpos, hle, rfl, rfl⟩

/-! ## Failing steps -/

/-- A step that meets a fault delivers the requests and changes nothing more. -/
theorem step_of_faults (h : m.deliver.Faults f) : m.step = (.error f, m.deliver) := by
  have hs : m.deliver.Executes := by
    cases f
    all_goals exact h.1
  rw [step_of_executes hs, executeWord_of_faults h]

theorem step_of_not_faults (h : ∀ f, ¬m.deliver.Faults f) :
    ∃ c, 1 ≤ c ∧ c ≤ 20 ∧ m.step.1 = .ok c
      ∧ m.step.2.cycles = m.cycles + BitVec.ofNat 64 c := by
  cases ht : m.taken? with
  | some k =>
    rw [step_interrupt ht]
    exact ⟨interruptCycles, by decide, by decide, rfl, rfl⟩
  | none =>
    cases hh : m.deliver.bus.interrupts.halted with
    | true =>
      rw [step_idle ht hh]
      exact ⟨haltCycles, by decide, by decide, rfl, rfl⟩
    | false =>
      rw [step_execute ht hh]
      exact executeWord_of_not_faults ⟨taken?_eq_none_iff.mp ht, hh⟩ h

/-- **A step fails exactly if it meets a fault**, and with that fault. -/
theorem step_eq_error_iff : m.step.1 = .error f ↔ m.deliver.Faults f := by
  refine ⟨fun h => ?_, fun h => by rw [step_of_faults h]⟩
  -- If the machine has a fault, the step reports that one; if it has none, the step succeeds.
  by_cases hf : ∃ f', m.deliver.Faults f'
  · obtain ⟨f', hf'⟩ := hf
    rw [step_of_faults hf'] at h
    cases h
    exact hf'
  · obtain ⟨c, -, -, hc, -⟩ := step_of_not_faults fun f' hf' => hf ⟨f', hf'⟩
    rw [hc] at h
    cases h

/-- A machine whose step fails and changes nothing fails in all steps. -/
theorem run_of_stuck {s : Machine} (h : s.step = (.error f, s)) (n : Nat) :
    s.run n = (List.replicate n (.error f), s) := by
  induction n with
  | zero => rfl
  | succ n ih =>
    rw [run, ih]
    dsimp only
    rw [h, List.replicate_succ']

/-- **A failing step is exactly characterised, changes nothing, and is repeated by all that
follow.**  A step fails exactly if, once the queued interrupts are delivered, the machine is to
execute an instruction and cannot.  Then the delivery is all that has happened, which is nothing if
the queue was empty, and every further step fails in the same way and changes nothing.  A step that
does not fail costs one cycle or more, and the counter of cycles grows by what it costs. -/
theorem failing_step_atomic (m : Machine) :
    (∀ f, m.step.1 = .error f ↔ m.deliver.Faults f)
      ∧ (∀ f, m.step.1 = .error f → m.step.2 = m.deliver ∧ (m.bus.queue = 0#14 → m.step.2 = m)
        ∧ ∀ n, m.step.2.run n = (List.replicate n (.error f), m.step.2))
      ∧ ((∀ f, ¬m.deliver.Faults f) → ∃ c, 1 ≤ c ∧ c ≤ 20 ∧ m.step.1 = .ok c
        ∧ m.step.2.cycles = m.cycles + BitVec.ofNat 64 c) := by
  refine ⟨fun f => step_eq_error_iff, fun f hf => ?_, step_of_not_faults⟩
  have hfaults : m.deliver.Faults f := step_eq_error_iff.mp hf
  have hstuck : m.deliver.step = (.error f, m.deliver) := by
    rw [step_of_faults (by rwa [deliver_deliver]), deliver_deliver]
  rw [step_of_faults hfaults]
  exact ⟨rfl, deliver_of_queue_empty, run_of_stuck hstuck⟩

/-- A machine whose program starts with a word that encodes nothing. -/
def undecodable : Machine := start {
  bus := .new (.new #[0x10#8, 0x00#8, 0x00#8, 0xE6#8] 0)
  entry? := some 0x08000000#32 }

/-- An undefined word fails at its address, again and again. -/
theorem undecodable_fails :
    undecodable.step = (.error (.undefined 0x08000000#32 0xE6000010#32), undecodable)
      ∧ undecodable.run 3
        = (List.replicate 3 (.error (.undefined 0x08000000#32 0xE6000010#32)), undecodable) := by
  obtain ⟨hfails, hstuck, -⟩ := failing_step_atomic undecodable
  have hfaults : undecodable.deliver.Faults (.undefined 0x08000000#32 0xE6000010#32) := by
    refine ⟨⟨by decide +kernel, by decide +kernel⟩, by decide +kernel, by decide +kernel, ?_⟩
    exact decode_eq_error_iff.mpr ⟨by decide +kernel, rfl⟩
  have hf := (hfails _).mpr hfaults
  obtain ⟨-, hsame, hrun⟩ := hstuck _ hf
  have hm : undecodable.step.2 = undecodable := hsame rfl
  rw [hm] at hrun
  exact ⟨Prod.ext hf hm, hrun 3⟩

end Machine

end Handheld
