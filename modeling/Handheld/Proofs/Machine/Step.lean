import Handheld.Machine.Basic
import Handheld.Proofs.Execution.Cases

/-!
# Proofs/Machine/Step — the parts of a step

A step delivers the queued interrupts and then does one of three things: it takes an interrupt, it
idles, or it executes the instruction at the program counter.  One equation for each is all that
later proofs use of `Machine.step`.  A run is some steps in a row, with the results they gave.
-/

namespace Handheld.Machine

/-! ## One step -/

/-- The machine with its queued interrupts delivered. -/
def deliver (m : Machine) : Machine := { m with bus := m.bus.deliver }

/-- The interrupt that the next step takes. -/
def taken? (m : Machine) : Option Source := m.deliver.bus.interrupts.acknowledge.1

/-- Time passes. -/
def advance (m : Machine) (cycles : Nat) : Machine :=
  { m with cycles := m.cycles + BitVec.ofNat 64 cycles }

/-- A waiting interrupt is taken. -/
def interrupt (m : Machine) : Machine where
  registers := enterInterrupt m.registers
  bus := m.bus.mapInterrupts fun c => c.acknowledge.2
  hook? := m.hook?
  cycles := m.cycles + BitVec.ofNat 64 interruptCycles

/-- The instruction that a word encodes for the width now in force. -/
def decoded? (m : Machine) (word : Word) : Option Instruction :=
  decode? m.registers.flags.thumb word

/-- Takes an instruction's outcome over, and moves on to the next one unless it jumped. -/
def conclude (m : Machine) (o : Outcome Bus) : Except Fault Nat × Machine :=
  match o.result with
  | .error fault => (.error fault, { m with registers := o.registers, bus := o.memory })
  | .ok retired =>
    let r := if retired.branched then o.registers
      else o.registers.setPc (m.registers.pc + m.registers.flags.instructionSize)
    (.ok retired.cycles, { m with registers := r, bus := o.memory }.advance retired.cycles)

/-- Executes a word as if it had been fetched. -/
def executeWord (m : Machine) (word : Word) : Except Fault Nat × Machine :=
  match m.decoded? word with
  | none => (.error (.undefined m.registers.pc word), m)
  | some i => m.conclude (execute m.hook? i m.registers m.bus)

theorem executeNext_eq (m : Machine) : m.executeNext = m.executeWord m.fetch := by
  unfold executeNext executeWord decoded?
  dsimp only
  cases decode? m.registers.flags.thumb m.fetch with
  | none => rfl
  | some i =>
    simp only [conclude]
    cases (execute m.hook? i m.registers m.bus).result <;> rfl

/-- **A step that takes an interrupt** only enters its handler. -/
theorem step_interrupt {m : Machine} {k : Source} (h : m.taken? = some k) :
    m.step = (.ok interruptCycles, m.deliver.interrupt) := by
  unfold step
  dsimp only
  split
  · next c hc =>
    rw [interrupt, show c = m.deliver.bus.interrupts.acknowledge.2 from (congrArg Prod.snd hc).symm]
    rfl
  · next c hc => exact absurd (h.symm.trans (congrArg Prod.fst hc)) (by simp)

/-- **A step that idles** only counts a cycle. -/
theorem step_idle {m : Machine} (h : m.taken? = none)
    (hh : m.deliver.bus.interrupts.halted = true) :
    m.step = (.ok haltCycles, m.deliver.advance haltCycles) := by
  unfold step
  dsimp only
  split
  · next k c hc => exact absurd (h.symm.trans (congrArg Prod.fst hc)) (by simp)
  · exact if_pos hh

/-- **A step that executes** does what the word at the program counter says. -/
theorem step_execute {m : Machine} (h : m.taken? = none)
    (hh : m.deliver.bus.interrupts.halted = false) :
    m.step = m.deliver.executeWord m.deliver.fetch := by
  rw [← executeNext_eq]
  unfold step
  dsimp only
  split
  · next k c hc => exact absurd (h.symm.trans (congrArg Prod.fst hc)) (by simp)
  · exact if_neg (by rw [show m.bus.deliver.interrupts.halted = false from hh]; decide)

/-! ## The instruction at the program counter -/

/-- **The next word is found by a load at the program counter**, which changes nothing. -/
theorem load_fetch (m : Machine) :
    Memory.load m.bus (if m.registers.flags.thumb then .half else .word) m.registers.pc
      = (m.fetch, m.bus) := by
  unfold fetch
  split
  all_goals rfl

/-- A refused instruction changes nothing, and its word is found again. -/
theorem refuse_start (s : Machine) : (Context.start s.registers s.bus).refuse
    = ⟨s.registers, s.bus, .error (.unimplemented s.registers.pc s.fetch)⟩ := by
  have hload : Memory.load (Context.start s.registers s.bus).memory
      (if (Context.start s.registers s.bus).flags.thumb then .half else .word)
      (Context.start s.registers s.bus).address = (s.fetch, s.bus) := s.load_fetch
  unfold Context.refuse
  rw [hload]
  rfl

/-- An instruction fails only by being refused: nothing has changed, and the fault names the word
that was fetched. -/
theorem execute_of_error {m : Machine} {i : Instruction} {f : Fault}
    (h : (execute m.hook? i m.registers m.bus).result = .error f) :
    f = .unimplemented m.registers.pc m.fetch
      ∧ execute m.hook? i m.registers m.bus = ⟨m.registers, m.bus, .error f⟩ := by
  cases hc : i.condition.holds m.registers.flags with
  | false =>
    rw [execute_skipped hc] at h
    cases h
  | true =>
    by_cases hi : i.operation.IsCoprocessor
    · rw [execute_refused hc hi, refuse_start] at h ⊢
      obtain rfl := Except.error.inj h
      exact ⟨rfl, rfl⟩
    · rw [execute_performed hc hi] at h
      cases h

/-- What it means that the instruction at the program counter is executed, with a result and a
machine after it. -/
structure Executed (m : Machine) (s : Except Fault Nat × Machine) : Prop where
  /-- A word that encodes no instruction is reported, and nothing changes. -/
  undefined : m.decoded? m.fetch = none → s = (.error (.undefined m.registers.pc m.fetch), m)
  /-- An instruction that fails was refused, and nothing changes. -/
  refused : ∀ i f, m.decoded? m.fetch = some i →
    (execute m.hook? i m.registers m.bus).result = .error f →
      f = .unimplemented m.registers.pc m.fetch ∧ s = (.error f, m)
  /-- Any other instruction leaves its registers, its memory and its cycles, and the program counter
  moves on by the size of an instruction unless it jumped. -/
  performed : ∀ i cycles branched, m.decoded? m.fetch = some i →
    let o := execute m.hook? i m.registers m.bus
    o.result = .ok ⟨cycles, branched⟩ →
      let next := m.registers.pc + if m.registers.flags.thumb then 2#32 else 4#32
      s = (.ok cycles, { m with
        registers := if branched then o.registers else o.registers.setPc next
        bus := o.memory
        cycles := m.cycles + BitVec.ofNat 64 cycles })

/-- **Executing the next word is one of three things**: it is reported as undefined, refused, or
performed. -/
theorem executed_executeNext (m : Machine) : m.Executed m.executeNext := by
  rw [executeNext_eq, executeWord]
  refine ⟨fun hd => ?_, fun i f hd hr => ?_, fun i cycles branched hd => ?_⟩
  · rw [hd]
  · obtain ⟨hfault, ho⟩ := execute_of_error hr
    rw [hd]
    dsimp only
    rw [ho]
    exact ⟨hfault, rfl⟩
  · intro o hr next
    rw [hd]
    change m.conclude o = _
    rw [conclude, hr]
    rfl

/-! ## Runs -/

/-- The results of some steps and the machine after them. -/
def run (m : Machine) : Nat → List (Except Fault Nat) × Machine
  | 0 => ([], m)
  | n + 1 =>
    let (results, m) := m.run n
    let (result, m) := m.step
    (results ++ [result], m)

end Handheld.Machine
