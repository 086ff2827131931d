import Handheld.Proofs.Machine.Halt
import Handheld.Proofs.Machine.Restore

/-!
# Proofs/Machine/Inspection — what a debugger shows is what the next step does

A debugger fetches and decodes as the processor does, through the same loads, and a load changes
nothing (`load_fetch`).  So an inspection leaves the machine as it is, and when the next step is to
execute an instruction, it is the one that was shown (`executed_of_executes`), or there is none and
the step fails with the word that was shown.
-/

namespace Handheld.Machine

variable {m : Machine}

theorem fetch_lt_of_thumb (h : m.registers.flags.thumb = true) : m.fetch.toNat < 0x10000 := by
  rw [fetch, if_pos h, BitVec.toNat_setWidth_of_le (by decide)]
  exact (m.bus.loadHalf m.registers.pc).isLt

/-! ## The instruction that is shown -/

/-- **The next step executes the instruction that is shown**, if there is nothing else to do. -/
theorem executed_of_executes (hq : m.bus.queue = 0#14) (hs : m.Executes) : m.Executed m.step := by
  have hd := deliver_of_queue_empty hq
  rw [step_of_executes (by rwa [hd]), hd, ← executeNext_eq]
  exact m.executed_executeNext

/-! ## Steps that execute nothing -/

/-- A waiting interrupt is taken, and its handler starts. -/
theorem step_of_pending (hq : m.bus.queue = 0#14) (hp : m.bus.interrupts.pending = true) :
    m.step = (.ok interruptCycles, m.interrupt) ∧ ∃ k, m.Services k := by
  have hd := deliver_of_queue_empty hq
  have ht : m.taken? ≠ none := by
    rw [ne_eq, taken?_eq_none_iff, hd, hp]
    decide
  obtain ⟨k, hk⟩ := Option.ne_none_iff_exists'.mp ht
  refine ⟨?_, k, services_of_taken? hk⟩
  rw [step_interrupt hk, hd]

/-- A sleeping machine with nothing queued counts one cycle. -/
theorem step_of_halted (hq : m.bus.queue = 0#14) (h : m.Asleep) :
    m.step = (.ok haltCycles, m.advance haltCycles) := by
  have hd := deliver_of_queue_empty hq
  have ht : m.taken? = none := by
    rw [taken?_eq_none_iff, hd]
    exact h.pending
  rw [step_idle ht (by rw [hd]; exact h.halted), hd]

/-- **A debugger predicts the next step.**  If no interrupt is queued, looking at a machine changes
nothing that any command could tell, and the next step does what was shown.  If no interrupt waits
and the processor is not halted, the step executes the instruction that was shown, with its result:
it fails only with the fault that names the word shown, and changes nothing then; else it takes the
instruction's cycles and moves on by the size of an instruction unless the instruction jumped.  If
no instruction was shown, the step fails with the word shown and changes nothing.  A waiting
interrupt is taken instead, so that its handler starts, and if none waits a halted processor idles.
In narrow code the word shown is a halfword. -/
theorem inspection_predicts (m : Machine) (hq : m.bus.queue = 0#14) :
    let seen := m.inspect
    let thumb := m.registers.flags.thumb
    (∀ xs, m.operateAll (.inspect :: xs)
        = (.shown seen :: (m.operateAll xs).1, (m.operateAll xs).2))
      ∧ Memory.load m.bus (if thumb then .half else .word) m.registers.pc = (seen.nextWord, m.bus)
      ∧ (m.Executes → ∀ i, seen.next? = some i →
        let o := execute m.hook? i m.registers m.bus
        (∀ f, o.result = .error f →
          f = .unimplemented m.registers.pc seen.nextWord ∧ m.step = (.error f, m))
        ∧ ∀ cycles branched, o.result = .ok ⟨cycles, branched⟩ →
          let next := m.registers.pc + if thumb then 2#32 else 4#32
          m.step = (.ok cycles, { m with
            registers := if branched then o.registers else o.registers.setPc next
            bus := o.memory
            cycles := m.cycles + BitVec.ofNat 64 cycles }))
      ∧ (m.Executes → seen.next? = none →
        m.step = (.error (.undefined m.registers.pc seen.nextWord), m))
      ∧ (m.bus.interrupts.pending = true →
        m.step = (.ok interruptCycles, m.interrupt) ∧ ∃ k, m.Services k)
      ∧ (m.Asleep → m.step = (.ok haltCycles, m.advance haltCycles))
      ∧ (thumb = true → seen.nextWord.toNat < 0x10000) := by
  intro seen thumb
  refine ⟨fun _ => rfl, m.load_fetch, fun hs i hi => ?_, fun hs hi => ?_, step_of_pending hq,
    step_of_halted hq, fetch_lt_of_thumb⟩
  · have executed := executed_of_executes hq hs
    exact ⟨fun f => executed.refused i f hi,
      fun cycles branched => executed.performed i cycles branched hi⟩
  · exact (executed_of_executes hq hs).undefined hi

/-- A machine whose program starts with an addition of five to the first register. -/
def adding : Machine := start {
  bus := .new (.new #[0x05#8, 0x00#8, 0x80#8, 0xE2#8] 0)
  entry? := some 0x08000000#32 }

/-- An addition is shown and then executed. -/
theorem adding_predicted :
    adding.inspect.nextWord = 0xE2800005#32
      ∧ adding.inspect.next? = some ⟨.al, .binary .add false 0 0 (.immediate 5#32)⟩
      ∧ adding.step.1 = .ok 1
      ∧ adding.step.2.registers.pc = 0x08000004#32
      ∧ adding.step.2.registers.read 0 = adding.registers.read 0 + 5#32 := by
  obtain ⟨-, -, hexecutes, -⟩ := inspection_predicts adding rfl
  have hnext : adding.inspect.next? = some ⟨.al, .binary .add false 0 0 (.immediate 5#32)⟩ := by
    decide +kernel
  obtain ⟨-, hstep⟩ := hexecutes ⟨by decide +kernel, by decide +kernel⟩ _ hnext
  have hok := hstep 1 false (by decide +kernel)
  refine ⟨by decide +kernel, hnext, by rw [hok], ?_, ?_⟩
  all_goals
    rw [hok]
    decide +kernel

end Handheld.Machine
